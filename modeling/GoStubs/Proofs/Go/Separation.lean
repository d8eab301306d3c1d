import GoStubs.Proofs.Go.Block
import GoStubs.Proofs.Go.Outside
import GoStubs.Proofs.Go.Pieces

/-!
# Separated declarations

Declarations are told apart by the depth of all brackets, those in literals
included.  So texts whose brackets nest outside of literals come back one by one
from their lines if and only if that depth is positive at their own newlines and
semicolons and is not positive behind each of them.
-/

namespace GoStubs.Go.Bracket

open Literal (Outside)
open Text (isBlank collapse IsGap)

variable {text rest body tail sep first last before after piece : Text} {texts : List Text}
  {pieces : List Text} {c : Char} {depth : Int}

theorem tidy_cons_of_not_isGap (h : ¬ IsGap piece) (pieces : List Text) :
    tidy (piece :: pieces) = collapse piece :: tidy pieces := by
  have hne : collapse piece ≠ [] := mt Text.collapse_eq_nil_iff.1 h
  rw [tidy_cons]
  simp [tidy, hne]

/-! ### Texts without an end -/

/-- No declaration ends within a text that starts at a depth. -/
def Whole (depth : Int) (text : Text) : Prop :=
  ∀ before c after, text = before ++ c :: after → ends (depth + depthBehind before) c = false

theorem whole_nil (depth : Int) : Whole depth [] := uncut_nil ends depth

theorem whole_cons_iff :
    Whole depth (c :: text) ↔ ends depth c = false ∧ Whole (depth + turn c) text := uncut_cons_iff

theorem splitFrom_whole (h : Whole depth text) (rest : Text) :
    splitFrom ends depth (text ++ rest) =
      (splitFrom ends (depth + depthBehind text) rest).modifyHead (text ++ ·) :=
  splitFrom_uncut h rest

theorem exists_end_of_not_whole (h : ¬ Whole depth text) :
    ∃ before c after, text = before ++ c :: after ∧ Whole depth before ∧
      ends (depth + depthBehind before) c := exists_cut_of_not_uncut h

/-- Where a text is not whole, what is in front of its first end is a piece. -/
theorem splitFrom_end (h : Whole depth before) (hc : ends (depth + depthBehind before) c)
    (rest : Text) :
    ∃ pieces, splitFrom ends depth (before ++ c :: rest) = before :: pieces := by
  rw [splitFrom_whole h, splitFrom, if_pos hc]
  exact ⟨_, by rw [List.modifyHead_cons, List.append_nil]⟩

/-! ### Separators -/

/-- Blank lines and semicolons. -/
def IsSeparator (sep : Text) : Prop := '\n' ∈ sep ∧ ∀ c ∈ sep, isBlank c ∨ c = ';'

/-- Texts put together with a separator between neighbours. -/
inductive Separated : List Text → Text → Prop
  | nil : Separated [] []
  | one (text : Text) : Separated [text] text
  | cons {text next sep tail : Text} {texts : List Text} (isSeparator : IsSeparator sep)
      (rest : Separated (next :: texts) tail) :
      Separated (text :: next :: texts) (text ++ sep ++ tail)

theorem turn_of_mark (hc : isBlank c ∨ c = ';') : turn c = 0 := by
  rcases hc with hc | rfl
  · exact turn_of_isBlank hc
  · rfl

theorem depthBehind_of_marks (h : ∀ c ∈ sep, isBlank c ∨ c = ';') : depthBehind sep = 0 := by
  induction sep with
  | nil => rfl
  | cons c sep ih =>
      obtain ⟨hc, hs⟩ := List.forall_mem_cons.1 h
      rw [depthBehind, turn_of_mark hc, ih hs, Int.add_zero]

theorem whole_of_marks (hd : 0 < depth) (h : ∀ c ∈ sep, isBlank c ∨ c = ';') : Whole depth sep := by
  induction sep with
  | nil => exact whole_nil depth
  | cons c sep ih =>
      obtain ⟨hc, hs⟩ := List.forall_mem_cons.1 h
      rw [whole_cons_iff, turn_of_mark hc, Int.add_zero]
      exact ⟨not_ended_inside depth c hd, ih hs⟩

theorem mark_of_ends (h : ends depth c) : c = '\n' ∨ c = ';' := by
  simp only [ends, Bool.and_eq_true, Bool.or_eq_true, beq_iff_eq] at h
  exact h.2

theorem ends_iff (hd : depth ≤ 0) : ends depth c ↔ c = '\n' ∨ c = ';' := by simp [ends, hd]

/-- Blanks and semicolons outside of brackets add no declaration. -/
theorem tidy_splitFrom_marks (hd : depth ≤ 0) (h : ∀ c ∈ sep, isBlank c ∨ c = ';')
    (rest : Text) :
    tidy (splitFrom ends depth (sep ++ rest)) = tidy (splitFrom ends depth rest) := by
  induction sep with
  | nil => rfl
  | cons c sep ih =>
      obtain ⟨hc, hs⟩ := List.forall_mem_cons.1 h
      rw [List.cons_append, splitFrom]
      by_cases he : ends depth c
      · rw [if_pos he, tidy_cons, ih hs]
        rfl
      · have hb : isBlank c := hc.resolve_right fun hsemi => he ((ends_iff hd).2 (.inr hsemi))
        obtain ⟨piece, pieces, hp⟩ :=
          List.exists_cons_of_ne_nil (splitFrom_ne_nil ends depth (sep ++ rest))
        have hwords : Text.words (c :: piece) = Text.words piece :=
          Text.words_append_cons hb [] piece
        rw [if_neg he, turn_of_mark hc, Int.add_zero, hp, List.modifyHead_cons,
          tidy_cons_congr hwords, ← hp, ih hs]

/-- A separator outside of brackets ends the declaration in front of it. -/
theorem tidy_splitFrom_separator (hd : depth ≤ 0) (hsep : IsSeparator sep) (first rest : Text) :
    tidy ((splitFrom ends depth (sep ++ rest)).modifyHead (first ++ ·)) =
      tidy [first] ++ tidy (splitFrom ends depth rest) := by
  obtain ⟨hn, hm⟩ := hsep
  induction sep generalizing first with
  | nil => cases hn
  | cons c sep ih =>
      obtain ⟨hc, hs⟩ := List.forall_mem_cons.1 hm
      rw [List.cons_append, splitFrom]
      by_cases he : ends depth c
      · rw [if_pos he, List.modifyHead_cons, List.append_nil, tidy_cons,
          tidy_splitFrom_marks hd hs]
      · obtain ⟨hnewline, hsemi⟩ := not_or.1 (mt (ends_iff hd).2 he)
        have hb : isBlank c := hc.resolve_right hsemi
        have hn : '\n' ∈ sep := (List.mem_cons.1 hn).resolve_left (Ne.symm hnewline)
        have hwords : Text.words (first ++ [c]) = Text.words first := by
          rw [Text.words_append_cons hb]
          exact List.append_nil _
        rw [if_neg he, turn_of_mark hc, Int.add_zero, List.modifyHead_modifyHead]
        have hfirst := ih (first ++ [c]) hn hs
        rw [tidy_cons_congr hwords] at hfirst
        simpa [Function.comp_def] using hfirst

/-! ### Texts that hold together -/

/-- A text that is not blank, whose brackets nest outside of literals, and whose newlines and
semicolons stand within brackets or literals. -/
structure HoldsTogether (text : Text) : Prop where
  not_isGap : ¬ IsGap text
  exists_outside : ∃ out, Outside text out ∧ nests out ∧ ∀ c ∈ outside out, c ≠ '\n' ∧ c ≠ ';'

theorem mem_outside_of_awaits {front : Text} (h : awaits [] front = some []) (c : Char)
    (back : Text) : c ∈ outside (front ++ c :: back) := by
  rw [outside, outsideFrom_append h, outsideFrom]
  simp

theorem holdsTogether_of_raw {first inner last : Text}
    (hf : ∀ c ∈ first, Literal.isQuote c = false) (hi : '`' ∉ inner)
    (hl : ∀ c ∈ last, Literal.isQuote c = false) (hn : nests (first ++ last))
    (hclean : ∀ c ∈ outside (first ++ last), c ≠ '\n' ∧ c ≠ ';') :
    HoldsTogether (first ++ ('`' :: inner ++ '`' :: last)) := by
  have hinside : Literal.Inside '`' inner :=
    .of_plain fun c hc => ⟨fun he => hi (he ▸ hc), fun _ => rfl⟩
  refine ⟨fun hg => ?_, _, .of_literal hf rfl hinside hl, hn, hclean⟩
  have hquote := hg '`' (by simp)
  cases hquote

namespace HoldsTogether

/-- Within such a text, newlines and semicolons have more than blanks on both sides. -/
theorem not_isGap_around (h : HoldsTogether (before ++ c :: after)) (hc : c = '\n' ∨ c = ';') :
    ¬ IsGap before ∧ ¬ IsGap after := by
  obtain ⟨-, out, hout, hnests, hclean⟩ := h
  have hquote : Literal.isQuote c = false := by rcases hc with rfl | rfl <;> rfl
  have hplace : closer? c = none ∧ isCloser c = false := by rcases hc with rfl | rfl <;> decide
  have hinside {front : Text} (ha : awaits [] front = some []) (back : Text) :
      out ≠ front ++ c :: back := by
    rintro rfl
    obtain ⟨hn, hs⟩ := hclean c (mem_outside_of_awaits ha c back)
    exact hc.elim hn hs
  constructor
  · intro hgap
    have hplain := isPlain_of_isGap hgap
    rcases hout.cut with ⟨front, back, hf, hb, rfl⟩ | ⟨quote, hq, hm, -⟩
    · rw [hf.eq_of_plain hplain.not_isQuote] at hinside
      cases hb with
      | char _ _ => exact hinside (nests_iff.1 hplain.nests) _ rfl
      | literal hq _ _ => simp [hq] at hquote
    · simp [hplain.not_isQuote quote hm] at hq
  · intro hgap
    have hplain := isPlain_of_isGap hgap
    have hlast : ∀ d ∈ c :: after, Literal.isQuote d = false :=
      List.forall_mem_cons.2 ⟨hquote, hplain.not_isQuote⟩
    rcases hout.cut with ⟨front, back, hf, hb, rfl⟩ | ⟨quote, hq, -, hm⟩
    · obtain rfl := hb.eq_of_plain hlast
      rw [nests_iff, awaits_append] at hnests
      obtain ⟨awaited, hawaits, hback⟩ := Option.bind_eq_some_iff.1 hnests
      rw [awaits, await_eq_some_self hplace.1 hplace.2, Option.bind_some,
        awaits_of_nests hplain.nests, Option.some.injEq] at hback
      subst hback
      exact hinside hawaits after rfl
    · simp [hlast quote hm] at hq

theorem exists_piece (h : HoldsTogether text) (depth : Int) (rest : Text) :
    ∃ piece pieces, splitFrom ends depth (text ++ rest) = piece :: pieces ∧ ¬ IsGap piece := by
  by_cases hw : Whole depth text
  · obtain ⟨piece, pieces, hp⟩ :=
      List.exists_cons_of_ne_nil (splitFrom_ne_nil ends (depth + depthBehind text) rest)
    refine ⟨text ++ piece, pieces, by rw [splitFrom_whole hw, hp, List.modifyHead_cons], ?_⟩
    exact fun hg => h.not_isGap fun c hc => hg c (List.mem_append_left piece hc)
  · obtain ⟨before, c, after, rfl, hb, hc⟩ := exists_end_of_not_whole hw
    obtain ⟨pieces, hp⟩ := splitFrom_end hb hc (after ++ rest)
    refine ⟨before, pieces, by rw [List.append_assoc, List.cons_append, hp], ?_⟩
    exact (h.not_isGap_around (mark_of_ends hc)).1

/-- A declaration that ends too early is lost. -/
theorem tidy_ne_of_not_whole (h : HoldsTogether text) (hw : ¬ Whole depth text) (rest : Text)
    (others : List Text) :
    tidy (splitFrom ends depth (text ++ rest)) ≠ collapse text :: others := by
  obtain ⟨before, c, after, rfl, hb, hc⟩ := exists_end_of_not_whole hw
  obtain ⟨hbefore, hafter⟩ := h.not_isGap_around (mark_of_ends hc)
  obtain ⟨pieces, hp⟩ := splitFrom_end hb hc (after ++ rest)
  rw [List.append_assoc, List.cons_append, hp, tidy_cons_of_not_isGap hbefore]
  intro heq
  have hgap := Text.isGap_of_collapse_append (List.cons.inj heq).1.symm
  exact hafter (List.forall_mem_cons.1 hgap).2

/-- A declaration that does not end at a separator is lost. -/
theorem tidy_ne_of_open {next : Text} (h : HoldsTogether text) (hn : HoldsTogether next)
    (hw : Whole depth text) (hd : 0 < depth + depthBehind text) (hsep : IsSeparator sep)
    (rest : Text) (others : List Text) :
    tidy (splitFrom ends depth (text ++ (sep ++ (next ++ rest)))) ≠ collapse text :: others := by
  obtain ⟨piece, pieces, hp, hpiece⟩ := hn.exists_piece (depth + depthBehind text) rest
  rw [splitFrom_whole hw, splitFrom_whole (whole_of_marks hd hsep.2), depthBehind_of_marks hsep.2,
    Int.add_zero, hp, List.modifyHead_cons, List.modifyHead_cons, tidy_cons_of_not_isGap]
  · intro heq
    have hgap := Text.isGap_of_collapse_append (List.cons.inj heq).1
    exact hpiece fun c hc => hgap c (List.mem_append_right sep hc)
  · exact fun hg => h.not_isGap fun c hc => hg c (List.mem_append_left _ hc)

end HoldsTogether

/-! ### Texts told apart -/

/-- No declaration ends within one of the texts, and one ends behind each but the last. -/
def Parted : Int → List Text → Prop
  | _, [] => True
  | depth, [text] => Whole depth text
  | depth, text :: next :: texts =>
    Whole depth text ∧ depth + depthBehind text ≤ 0 ∧
      Parted (depth + depthBehind text) (next :: texts)

theorem Separated.exists_append {next : Text} (h : Separated (next :: texts) tail) :
    ∃ rest, tail = next ++ rest := by
  cases h with
  | one => exact ⟨[], (List.append_nil _).symm⟩
  | cons _ _ => exact ⟨_, List.append_assoc ..⟩

theorem tidy_splitFrom_separated (hs : Separated texts body)
    (ht : ∀ text ∈ texts, HoldsTogether text) :
    tidy (splitFrom ends depth body) = texts.map collapse ↔ Parted depth texts := by
  induction hs generalizing depth with
  | nil => exact iff_of_true rfl trivial
  | one text =>
      have h := ht text List.mem_cons_self
      rw [List.map_singleton, Parted]
      constructor
      · intro heq
        by_contra hw
        exact h.tidy_ne_of_not_whole hw [] [] (by rwa [List.append_nil])
      · intro hw
        have hsplit := splitFrom_whole hw []
        rw [List.append_nil, splitFrom, List.modifyHead_cons, List.append_nil] at hsplit
        rw [hsplit, tidy_cons_of_not_isGap h.not_isGap]
        rfl
  | @cons text next sep tail texts hsep rest ih =>
      obtain ⟨h, hrest⟩ := List.forall_mem_cons.1 ht
      rw [List.map_cons, Parted, List.append_assoc]
      by_cases hw : Whole depth text
      · by_cases hd : depth + depthBehind text ≤ 0
        · -- The separator ends the first text, and the others are told apart behind it.
          rw [splitFrom_whole hw, tidy_splitFrom_separator hd hsep,
            tidy_cons_of_not_isGap h.not_isGap, List.cons_append, List.cons.injEq]
          simp only [true_and, hw, hd]
          exact ih hrest
        · obtain ⟨behind, rfl⟩ := rest.exists_append
          have hn := hrest next List.mem_cons_self
          refine iff_of_false ?_ fun hp => hd hp.2.1
          exact h.tidy_ne_of_open hn hw (by omega) hsep behind _
      · exact iff_of_false (h.tidy_ne_of_not_whole hw _ _) fun hp => hw hp.1

/-! ### Brackets that nest in literals too -/

theorem whole_of_awaits {awaited behind : List Char} (h : awaits awaited text = some behind)
    (hclean : ∀ c ∈ outsideFrom awaited text, c ≠ '\n' ∧ c ≠ ';') :
    Whole awaited.length text ∧ (awaited.length : Int) + depthBehind text = behind.length := by
  induction text generalizing awaited with
  | nil =>
      cases h
      exact ⟨whole_nil _, Int.add_zero _⟩
  | cons c text ih =>
      obtain ⟨mid, hmid, htext⟩ := Option.bind_eq_some_iff.1 h
      rw [outsideFrom, hmid, Option.getD_some] at hclean
      have hc : ends awaited.length c = false := by
        cases awaited with
        | nil =>
            obtain ⟨hn, hs⟩ := hclean c List.mem_cons_self
            simp [ends, hn, hs]
        | cons closer awaited =>
            apply not_ended_inside
            rw [List.length_cons]
            omega
      have hrest : ∀ d ∈ outsideFrom mid text, d ≠ '\n' ∧ d ≠ ';' := by
        intro d hd
        apply hclean
        split
        · exact List.mem_cons_of_mem c hd
        · exact hd
      obtain ⟨hw, hdepth⟩ := ih htext hrest
      rw [length_await hmid] at hw hdepth
      rw [whole_cons_iff, depthBehind, ← Int.add_assoc]
      exact ⟨⟨hc, hw⟩, hdepth⟩

theorem parted_of_nests
    (h : ∀ text ∈ texts, nests text ∧ ∀ c ∈ outside text, c ≠ '\n' ∧ c ≠ ';') :
    Parted 0 texts := by
  have hwhole {text : Text} (hn : nests text) (hc : ∀ c ∈ outside text, c ≠ '\n' ∧ c ≠ ';') :
      Whole 0 text ∧ (0 : Int) + depthBehind text = 0 := whole_of_awaits (nests_iff.1 hn) hc
  induction texts with
  | nil => trivial
  | cons text texts ih =>
      obtain ⟨⟨hn, hc⟩, hrest⟩ := List.forall_mem_cons.1 h
      obtain ⟨hw, hdepth⟩ := hwhole hn hc
      cases texts with
      | nil => exact hw
      | cons next texts =>
          rw [Parted, hdepth]
          exact ⟨hw, Int.le_refl 0, ih hrest⟩

/-- Texts that hold together come back one by one if and only if the depth of all brackets, those in
literals included, tells them apart.  It does if the brackets nest in the literals too and all
newlines and semicolons stand within brackets. -/
theorem declarations_separated_iff (hs : Separated texts body)
    (ht : ∀ text ∈ texts, HoldsTogether text) :
    (declarations body = texts.map collapse ↔ Parted 0 texts) ∧
      ((∀ text ∈ texts, nests text ∧ ∀ c ∈ outside text, c ≠ '\n' ∧ c ≠ ';') →
        declarations body = texts.map collapse) := by
  have hiff : declarations body = texts.map collapse ↔ Parted 0 texts :=
    tidy_splitFrom_separated hs ht
  exact ⟨hiff, fun h => hiff.2 (parted_of_nests h)⟩

/-- A tag whose brackets nest, and parameters on lines of their own. -/
theorem declarations_separated_iff_sample :
    let tagged := "A(x struct\x7b F int `json:\"[x]\"` \x7d) error".toList
    let wrapped := "B(\n\ty int,\n) error".toList
    let body := tagged ++ "\n\n ;\n".toList ++ wrapped
    Separated [tagged, wrapped] body ∧ (∀ text ∈ [tagged, wrapped], HoldsTogether text) ∧
      (∀ text ∈ [tagged, wrapped], nests text ∧ ∀ c ∈ outside text, c ≠ '\n' ∧ c ≠ ';') ∧
      declarations body = [tagged, "B( y int, ) error".toList] ∧ Parted 0 [tagged, wrapped] := by
  intro tagged wrapped body
  have hs : Separated [tagged, wrapped] body := .cons ⟨by decide, by decide⟩ (.one wrapped)
  have htagged : HoldsTogether tagged :=
    holdsTogether_of_raw (show ∀ c ∈ "A(x struct\x7b F int ".toList, _ by decide)
      (show '`' ∉ "json:\"[x]\"".toList by decide) (show ∀ c ∈ " \x7d) error".toList, _ by decide)
      (by decide) (by decide)
  have hwrapped : HoldsTogether wrapped :=
    ⟨by decide, wrapped, .of_plain (by decide), by decide, by decide⟩
  have ht : ∀ text ∈ [tagged, wrapped], HoldsTogether text := by simp [htagged, hwrapped]
  have hn : ∀ text ∈ [tagged, wrapped], nests text ∧ ∀ c ∈ outside text, c ≠ '\n' ∧ c ≠ ';' := by
    decide
  obtain ⟨hiff, hall⟩ := declarations_separated_iff hs ht
  have hdeclarations := hall hn
  exact ⟨hs, ht, hn, hdeclarations, hiff.1 hdeclarations⟩

/-- An opening bracket in a literal joins two declarations, and closing brackets in one cut a
declaration at a semicolon within its own brackets. -/
theorem exists_declarations_ne :
    let opened := "A(x struct\x7b F int `(` \x7d) error".toList
    let plain := "B() error".toList
    let closed := "A(x struct\x7b F int `)\x7d`; G int \x7d) error".toList
    (Separated [opened, plain] (opened ++ "\n".toList ++ plain) ∧
      (∀ text ∈ [opened, plain], HoldsTogether text) ∧
      declarations (opened ++ "\n".toList ++ plain) =
        ["A(x struct\x7b F int `(` \x7d) error B() error".toList] ∧
      declarations (opened ++ "\n".toList ++ plain) ≠ [opened, plain].map collapse) ∧
    Separated [closed] closed ∧ HoldsTogether closed ∧
      declarations closed = ["A(x struct\x7b F int `)\x7d`".toList, "G int \x7d) error".toList] ∧
      declarations closed ≠ [closed].map collapse := by
  intro opened plain closed
  have hopened : HoldsTogether opened :=
    holdsTogether_of_raw (show ∀ c ∈ "A(x struct\x7b F int ".toList, _ by decide)
      (show '`' ∉ "(".toList by decide) (show ∀ c ∈ " \x7d) error".toList, _ by decide)
      (by decide) (by decide)
  have hclosed : HoldsTogether closed :=
    holdsTogether_of_raw (show ∀ c ∈ "A(x struct\x7b F int ".toList, _ by decide)
      (show '`' ∉ ")\x7d".toList by decide) (show ∀ c ∈ "; G int \x7d) error".toList, _ by decide)
      (by decide) (by decide)
  have hplain : HoldsTogether plain :=
    ⟨by decide, plain, .of_plain (by decide), by decide, by decide⟩
  have hs : Separated [opened, plain] (opened ++ "\n".toList ++ plain) :=
    .cons ⟨by decide, by decide⟩ (.one plain)
  refine ⟨⟨hs, ?_, by decide, by decide⟩, .one closed, hclosed, by decide, by decide⟩
  simp [hopened, hplain]

end GoStubs.Go.Bracket
