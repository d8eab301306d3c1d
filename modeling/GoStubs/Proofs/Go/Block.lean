import GoStubs.Go.Comment
import GoStubs.Proofs.Go.Respacing

/-!
# Blocks of declarations

A block has its declarations on lines of their own, where a line ends at a
newline or a semicolon and a line break within brackets ends none.  A block
stays as it is when comments are removed, it ends at its closing brace, and it
falls apart into its declarations.
-/

namespace GoStubs.Go

open Text (isBlank isWordChar IsGap trim collapse)

variable {text list rest : Text} {texts : List Text} {fields : List Field} {signature : Signature}
  {signatures : List Signature} {p : Char → Prop}

/-! ### The characters of a layout -/

section

variable (hgap : ∀ c, isBlank c → p c)

include hgap

theorem Listing.forall_mem (hcomma : p ',') (h : Listing texts list)
    (ht : ∀ text ∈ texts, ∀ c ∈ text, p c) : ∀ c ∈ list, p c := by
  induction h with
  | nil hg => exact fun c hc => hgap c (hg c hc)
  | last hb ha =>
      simp only [List.forall_mem_append]
      exact ⟨⟨fun c hc => hgap c (hb c hc), ht _ List.mem_cons_self⟩, fun c hc => hgap c (ha c hc)⟩
  | cons hb ha _ ih =>
      obtain ⟨hfirst, hrest⟩ := List.forall_mem_cons.1 ht
      simp only [List.forall_mem_append, List.forall_mem_cons]
      exact ⟨⟨⟨fun c hc => hgap c (hb c hc), hfirst⟩, fun c hc => hgap c (ha c hc)⟩, hcomma,
        ih hrest⟩

variable (hword : ∀ c, isWordChar c → p c)

include hword

theorem Entries.forall_mem (hl : IsFieldList fields) (h : Entries fields texts)
    (ht : ∀ field ∈ fields, ∀ c ∈ field.type, p c) : ∀ text ∈ texts, ∀ c ∈ text, p c := by
  have hname {name type : Text} {fields : List Field}
      (hl : IsFieldList (⟨some name, type⟩ :: fields)) : ∀ c ∈ name, p c :=
    fun c hc => hword c (isWordChar_of_mem_isIdentifier hl.isIdentifier hc)
  induction h with
  | nil => simp
  | unnamed type _ ih =>
      obtain ⟨hfirst, hrest⟩ := List.forall_mem_cons.1 ht
      exact List.forall_mem_cons.2 ⟨hfirst, ih hl.tail hrest⟩
  | named name type _ hg _ ih =>
      obtain ⟨hfirst, hrest⟩ := List.forall_mem_cons.1 ht
      refine List.forall_mem_cons.2 ⟨?_, ih hl.tail hrest⟩
      simp only [List.forall_mem_append]
      exact ⟨⟨hname hl, fun c hc => hgap c (hg c hc)⟩, hfirst⟩
  | grouped name _ ih =>
      obtain ⟨-, hrest⟩ := List.forall_mem_cons.1 ht
      exact List.forall_mem_cons.2 ⟨hname hl, ih hl.tail hrest⟩

variable (hmark : ∀ c ∈ ['(', ')', ','], p c)

include hmark

theorem ResultLayout.forall_mem (hl : IsFieldList fields) (h : ResultLayout fields text)
    (ht : ∀ field ∈ fields, ∀ c ∈ field.type, p c) : ∀ c ∈ text, p c := by
  cases h with
  | empty hg => exact fun c hc => hgap c (hg c hc)
  | listed hb ha he hlist =>
      have hinner := hlist.forall_mem hgap (hmark ',' (by simp)) (he.forall_mem hgap hword hl ht)
      simp only [List.forall_mem_append, List.forall_mem_cons]
      exact ⟨⟨fun c hc => hgap c (hb c hc), hmark '(' (by simp), hinner⟩, hmark ')' (by simp),
        fun c hc => hgap c (ha c hc)⟩
  | bare hb ha _ =>
      simp only [List.forall_mem_append]
      exact ⟨⟨fun c hc => hgap c (hb c hc), ht _ List.mem_cons_self⟩, fun c hc => hgap c (ha c hc)⟩

/-- What holds of blanks, of word characters, of round brackets and commas, and of the characters
of the types holds of all characters of a layout. -/
theorem Signature.Layout.forall_mem (hs : signature.WellFormed) (h : signature.Layout text)
    (ht : ∀ field ∈ signature.params ++ signature.results, ∀ c ∈ field.type, p c) :
    ∀ c ∈ text, p c := by
  obtain ⟨hb, hg, he, hlist, hr⟩ := h
  obtain ⟨hparams, hresults⟩ := List.forall_mem_append.1 ht
  have hinner := hlist.forall_mem hgap (hmark ',' (by simp))
    (he.forall_mem hgap hword hs.params hparams)
  simp only [List.forall_mem_append, List.forall_mem_cons]
  exact ⟨⟨⟨⟨fun c hc => hgap c (hb c hc),
    fun c hc => hword c (isWordChar_of_mem_isIdentifier hs.name hc)⟩, fun c hc => hgap c (hg c hc)⟩,
    hmark '(' (by simp), hinner⟩, hmark ')' (by simp),
    hr.forall_mem hgap hword hmark hs.results hresults⟩

end

/-! ### The brackets of a layout -/

theorem ResultLayout.nests (hl : IsFieldList fields) (h : ResultLayout fields text) :
    Bracket.nests text := by
  have hpair : Bracket.closer? '(' = some ')' := rfl
  cases h with
  | empty hg => exact (isPlain_of_isGap hg).nests
  | @listed _ before list after texts hb ha he hlist =>
      have hinner := (hlist.nests (he.isEntry hl)).1
      have hboth := Bracket.nests_append (isPlain_of_isGap hb).nests
        (Bracket.nests_append (Bracket.nests_bracket hinner hpair)
          (isPlain_of_isGap ha).nests)
      simpa using hboth
  | bare hb ha _ => exact (hl.isType.isEntry.between hb ha).1

theorem Signature.Layout.nests (hs : signature.WellFormed) (h : signature.Layout text) :
    Bracket.nests text := by
  have hpair : Bracket.closer? '(' = some ')' := rfl
  obtain @⟨before, gap, list, results, texts, hb, hg, he, hlist, hr⟩ := h
  have hinner := (hlist.nests (he.isEntry hs.params)).1
  have hfirst := Bracket.nests_append (Bracket.nests_append (isPlain_of_isGap hb).nests
    (isPlain_of_isIdentifier hs.name).nests) (isPlain_of_isGap hg).nests
  have hboth := Bracket.nests_append hfirst
    (Bracket.nests_append (Bracket.nests_bracket hinner hpair)
      (hr.nests hs.results))
  simpa using hboth

/-- The types of a signature have no slash, and no semicolon outside brackets. -/
def Signature.FitsBlock (signature : Signature) : Prop :=
  ∀ field ∈ signature.params ++ signature.results,
    '/' ∉ field.type ∧ ';' ∉ Bracket.outside field.type

instance (signature : Signature) : Decidable signature.FitsBlock :=
  inferInstanceAs (Decidable (∀ _ ∈ _, _))

theorem ResultLayout.semicolon (hl : IsFieldList fields) (h : ResultLayout fields text)
    (ht : ∀ field ∈ fields, ';' ∉ Bracket.outside field.type) : ';' ∉ Bracket.outside text := by
  have hgap {gap : Text} (hg : IsGap gap) : ';' ∉ Bracket.outside gap :=
    (isPlain_of_isGap hg).not_mem_outside (by decide)
  cases h with
  | empty hg => exact hgap hg
  | @listed _ before list after texts hb ha he hlist =>
      have hinner := (hlist.nests (he.isEntry hl)).1
      rw [List.append_assoc, Bracket.outside_append (isPlain_of_isGap hb).nests,
        Bracket.outside_bracket hinner rfl]
      simp [hgap hb, hgap ha]
  | bare hb ha _ =>
      have hbefore := (isPlain_of_isGap hb).nests
      rw [Bracket.outside_append (Bracket.nests_append hbefore hl.isType.nests),
        Bracket.outside_append hbefore]
      simp [hgap hb, hgap ha, ht _ List.mem_cons_self]

theorem Signature.Layout.semicolon (hs : signature.WellFormed) (hf : signature.FitsBlock)
    (h : signature.Layout text) : ';' ∉ Bracket.outside text := by
  obtain @⟨before, gap, list, results, texts, hb, hg, he, hlist, hr⟩ := h
  have hinner := (hlist.nests (he.isEntry hs.params)).1
  have hname := isPlain_of_isIdentifier hs.name
  have hbefore := isPlain_of_isGap hb
  have hplain := isPlain_of_isGap hg
  have hresults := hr.semicolon hs.results fun field hm =>
    (hf field (List.mem_append_right _ hm)).2
  rw [List.append_assoc, Bracket.outside_append (Bracket.nests_append
      (Bracket.nests_append hbefore.nests hname.nests) hplain.nests),
    Bracket.outside_append (Bracket.nests_append hbefore.nests hname.nests),
    Bracket.outside_append hbefore.nests, Bracket.outside_bracket hinner rfl]
  simp [hbefore.not_mem_outside (show ';' ∈ delimiters by decide),
    hname.not_mem_outside (show ';' ∈ delimiters by decide),
    hplain.not_mem_outside (show ';' ∈ delimiters by decide), hresults]

/-! ### Lines and blocks -/

/-- A line of a block: blanks, or a declaration with its line breaks within brackets. -/
inductive Line : List Signature → Text → Prop
  | blank {gap : Text} (isGap : IsGap gap) (oneLine : '\n' ∉ gap) : Line [] gap
  | method {signature : Signature} {text : Text} (layout : signature.Layout text)
      (oneLine : '\n' ∉ Bracket.outside text) : Line [signature] text

/-- The lines of a block, with a newline or a semicolon between neighbours. -/
inductive Block : List Signature → Text → Prop
  | last {signatures : List Signature} {text : Text} (line : Line signatures text) :
      Block signatures text
  | cons {signatures others : List Signature} {text tail : Text} {mark : Char}
      (line : Line signatures text) (isMark : mark = '\n' ∨ mark = ';') (rest : Block others tail) :
      Block (signatures ++ others) (text ++ mark :: tail)

/-- A block may end with a newline. -/
theorem Block.append_newline (h : Block signatures text) : Block signatures (text ++ ['\n']) := by
  induction h with
  | @last signatures text hline =>
      have hempty : Block [] [] := .last (.blank (List.forall_mem_nil _) (List.not_mem_nil))
      have hb := Block.cons hline (.inl rfl) hempty
      rwa [List.append_nil] at hb
  | cons hline hm _ ih =>
      rw [List.append_assoc, List.cons_append]
      exact .cons hline hm ih

/-- A block may start with a newline. -/
theorem Block.newline_cons (h : Block signatures text) : Block signatures ('\n' :: text) :=
  .cons (.blank (List.forall_mem_nil _) List.not_mem_nil) (.inl rfl) h

/-- Signatures that can be declared in a block. -/
abbrev Declarable (signatures : List Signature) : Prop :=
  ∀ signature ∈ signatures, signature.WellFormed ∧ signature.FitsBlock

theorem Line.nests (h : Line signatures text) (hs : Declarable signatures) :
    Bracket.nests text := by
  cases h with
  | blank hg _ => exact (isPlain_of_isGap hg).nests
  | method hl _ => exact hl.nests (hs _ List.mem_cons_self).1

theorem Line.outside (h : Line signatures text) (hs : Declarable signatures) :
    ∀ c ∈ Bracket.outside text, c ≠ '\n' ∧ c ≠ ';' := by
  cases h with
  | blank hg hn =>
      intro c hc
      refine ⟨?_, ?_⟩
      · rintro rfl
        exact hn (Bracket.mem_of_mem_outsideFrom hc)
      · rintro rfl
        exact (isPlain_of_isGap hg).not_mem_outside (by decide) hc
  | method hl hn =>
      obtain ⟨hw, hf⟩ := hs _ List.mem_cons_self
      intro c hc
      exact ⟨fun he => hn (he ▸ hc), fun he => hl.semicolon hw hf (he ▸ hc)⟩

theorem Line.chars (h : Line signatures text) (hs : Declarable signatures) :
    ∀ c ∈ text, Literal.isQuote c = false ∧ c ≠ '/' := by
  have hplain {text : Text} (hp : IsPlain text) :
      ∀ c ∈ text, Literal.isQuote c = false ∧ c ≠ '/' :=
    fun c hc => ⟨hp.not_isQuote c hc, hp.ne (by decide) c hc⟩
  cases h with
  | blank hg _ => exact hplain (isPlain_of_isGap hg)
  | @method signature text hl _ =>
      obtain ⟨hw, hf⟩ := hs _ List.mem_cons_self
      refine hl.forall_mem (fun c hc => ?_) (fun c hc => ?_) (by decide) hw fun field hm c hc => ?_
      · have hp : IsPlain [c] := isPlain_of_isGap (by simpa [IsGap] using hc)
        exact hplain hp c List.mem_cons_self
      · have hp : IsPlain [c] := isPlain_of_isWordChar (by simpa using hc)
        exact hplain hp c List.mem_cons_self
      · refine ⟨?_, fun he => (hf field hm).1 (he ▸ hc)⟩
        rcases List.mem_append.1 hm with hm | hm
        · exact (hw.params.types field hm).not_isQuote c hc
        · exact (hw.results.types field hm).not_isQuote c hc

theorem Signature.Layout.not_isGap (h : signature.Layout text) : ¬ IsGap text := by
  obtain ⟨-, -, -, -, -⟩ := h
  intro hg
  exact absurd (hg '(' (by simp)) (by decide)

/-- The declaration on a line reads as its signature. -/
theorem Line.declaration (h : Line signatures text) (hs : Declarable signatures) :
    List.Forall₂ (fun signature declaration => Signature.ofDeclaration declaration = .ok signature)
      signatures ([collapse text].filter (! ·.isEmpty)) := by
  have hrespaced := Text.respaced_collapse text
  cases h with
  | blank hg _ =>
      rw [Text.trim_eq_nil_iff.2 hg] at hrespaced
      simp [hrespaced.eq_nil_iff.1 rfl]
  | method hl _ =>
      have hw := (hs _ List.mem_cons_self).1
      have hne : collapse text ≠ [] := fun he =>
        hl.not_isGap (Text.trim_eq_nil_iff.1 (hrespaced.eq_nil_iff.2 he))
      simpa [hne] using Signature.ofDeclaration_collapse (hl.ofDeclaration_eq hw)

theorem Block.nests (h : Block signatures text) (hs : Declarable signatures) :
    Bracket.nests text ∧ ∀ c ∈ text, Literal.isQuote c = false ∧ c ≠ '/' := by
  induction h with
  | last hline => exact ⟨hline.nests hs, hline.chars hs⟩
  | @cons signatures others text tail mark hline hm _ ih =>
      obtain ⟨hfirst, hothers⟩ := List.forall_mem_append.1 hs
      obtain ⟨hn, hc⟩ := ih hothers
      have hmark : Bracket.nests [mark] ∧ Literal.isQuote mark = false ∧ mark ≠ '/' := by
        rcases hm with rfl | rfl <;> decide
      refine ⟨Bracket.nests_append (hline.nests hfirst) (Bracket.nests_append hmark.1 hn), ?_⟩
      simp only [List.forall_mem_append, List.forall_mem_cons]
      exact ⟨hline.chars hfirst, hmark.2, hc⟩

theorem not_ended_inside (depth : Int) (c : Char) (h : 0 < depth) :
    (depth ≤ 0 && (c == '\n' || c == ';')) = false := by
  have hle : ¬ depth ≤ 0 := by omega
  simp [hle]

theorem not_ended_outside (h : ∀ c ∈ Bracket.outside text, c ≠ '\n' ∧ c ≠ ';') :
    ∀ c ∈ Bracket.outside text, ((0 : Int) ≤ 0 && (c == '\n' || c == ';')) = false := by
  intro c hc
  simp [h c hc]

theorem declarations_of_nests (hn : Bracket.nests text)
    (hc : ∀ c ∈ Bracket.outside text, c ≠ '\n' ∧ c ≠ ';') :
    Bracket.declarations text = [collapse text].filter (! ·.isEmpty) := by
  rw [Bracket.declarations,
    Bracket.splitFrom_eq_singleton not_ended_inside (not_ended_outside hc) hn]
  rfl

theorem declarations_append_cons {mark : Char} (hn : Bracket.nests text)
    (hc : ∀ c ∈ Bracket.outside text, c ≠ '\n' ∧ c ≠ ';') (hm : mark = '\n' ∨ mark = ';')
    (rest : Text) :
    Bracket.declarations (text ++ mark :: rest) =
      [collapse text].filter (! ·.isEmpty) ++ Bracket.declarations rest := by
  have hcut : ((0 : Int) ≤ 0 && (mark == '\n' || mark == ';')) = true := by
    rcases hm with rfl | rfl <;> rfl
  rw [Bracket.declarations,
    Bracket.splitFrom_append_cons not_ended_inside (not_ended_outside hc) hn hcut, List.map_cons,
    ← List.singleton_append, List.filter_append]
  rfl

/-- The declarations of a block read as its signatures, in their order. -/
theorem Block.forall₂_declarations (h : Block signatures text) (hs : Declarable signatures) :
    List.Forall₂ (fun signature declaration => Signature.ofDeclaration declaration = .ok signature)
      signatures (Bracket.declarations text) := by
  induction h with
  | last hline =>
      rw [declarations_of_nests (hline.nests hs) (hline.outside hs)]
      exact hline.declaration hs
  | cons hline hm _ ih =>
      obtain ⟨hfirst, hothers⟩ := List.forall_mem_append.1 hs
      rw [declarations_append_cons (hline.nests hfirst) (hline.outside hfirst) hm]
      exact List.rel_append (hline.declaration hfirst) (ih hothers)

/-! ### The end of a block -/

theorem strip_append (h : ∀ c ∈ text, Literal.isQuote c = false ∧ c ≠ '/') (rest : Text) :
    Comment.strip (text ++ rest) = text ++ Comment.strip rest := by
  induction text with
  | nil => rfl
  | cons c text ih =>
      obtain ⟨⟨hq, hc⟩, htext⟩ := List.forall_mem_cons.1 h
      rw [List.cons_append, List.cons_append, ← ih htext, Comment.strip, Comment.stripFrom,
        Literal.start?_eq_none hq]
      · rfl
      all_goals simp [hc]

/-- With comments removed, what stands in front of the closing brace is the block, whatever
follows it. -/
theorem Block.closing?_strip (h : Block signatures text) (hs : Declarable signatures)
    (suffix : Text) :
    Bracket.closing? '{' '}' (Comment.strip (text ++ '}' :: suffix)) =
      some (text, Comment.strip suffix) := by
  obtain ⟨hn, hc⟩ := h.nests hs
  have hbrace : Comment.strip ('}' :: suffix) = '}' :: Comment.strip suffix := rfl
  rw [strip_append hc, hbrace]
  exact Bracket.closing?_append rfl (fun c hm => (hc c hm).1) hn _

end GoStubs.Go
