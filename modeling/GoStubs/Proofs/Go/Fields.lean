import GoStubs.Go.Field
import GoStubs.Proofs.Go.Nesting
import GoStubs.Proofs.Text.Blank

/-!
# Layouts of parameter lists

A list of fields has many layouts: gaps around its entries and commas, names of
one type in a group or not, and a comma at its end or not.  The reader of lists
undoes every one of them.
-/

namespace GoStubs.Go

open Text (isBlank isWordChar IsGap trim trimStart trimEnd collapse breakAt?)

variable {text name type gap list : Text} {c : Char} {field : Field} {fields : List Field}
  {texts : List Text}

/-- The characters that some reader of a declaration takes for a delimiter. -/
def delimiters : Text := ['(', ')', '[', ']', '{', '}', ',', ';', '/', '.', '"', '`', '\'']

/-- A text that no reader of a declaration takes apart, but for its blanks. -/
abbrev IsPlain (text : Text) : Prop := ∀ c ∈ text, c ∉ delimiters

/-- A type with its blank runs collapsed, without quotes, whose brackets nest and which no comma
outside them takes apart. -/
structure IsType (type : Text) : Prop where
  ne_nil : type ≠ []
  collapse_eq : collapse type = type
  not_isQuote : ∀ c ∈ type, Literal.isQuote c = false
  nests : Bracket.nests type
  comma : ',' ∉ Bracket.outside type

/-- Whether a type reads like a name in front of a type. -/
def StartsWithName (type : Text) : Prop :=
  ∃ name rest, isIdentifier name ∧ type = name ++ rest ∧
    (rest.head?.any isBlank ∨ Field.dots <+: rest)

/-- The fields of a list are all named or all unnamed, and no type of an unnamed list reads like
one with a name. -/
structure IsFieldList (fields : List Field) : Prop where
  types : ∀ field ∈ fields, IsType field.type
  names : (∀ field ∈ fields, field.name.any isIdentifier) ∨
    ∀ field ∈ fields, field.name = none ∧ ¬ StartsWithName field.type

/-- The texts of the entries that spell the fields of a list. -/
inductive Entries : List Field → List Text → Prop
  | nil : Entries [] []
  | unnamed (type : Text) {fields : List Field} {texts : List Text} (rest : Entries fields texts) :
      Entries (⟨none, type⟩ :: fields) (type :: texts)
  | named (name type : Text) {gap : Text} {fields : List Field} {texts : List Text}
      (gap_ne_nil : gap ≠ []) (isGap : IsGap gap) (rest : Entries fields texts) :
      Entries (⟨some name, type⟩ :: fields) ((name ++ gap ++ type) :: texts)
  /-- A name that takes the type of the next entry. -/
  | grouped (name : Text) {next type : Text} {fields : List Field} {texts : List Text}
      (rest : Entries (⟨some next, type⟩ :: fields) texts) :
      Entries (⟨some name, type⟩ :: ⟨some next, type⟩ :: fields) (name :: texts)

/-- A text that lists entries with commas between them. -/
inductive Listing : List Text → Text → Prop
  | nil {gap : Text} (isGap : IsGap gap) : Listing [] gap
  | last {before text after : Text} (before_isGap : IsGap before) (after_isGap : IsGap after) :
      Listing [text] (before ++ text ++ after)
  /-- An entry with a comma; the one behind the last entry has only a gap after it. -/
  | cons {before text after list : Text} {texts : List Text} (before_isGap : IsGap before)
      (after_isGap : IsGap after) (rest : Listing texts list) :
      Listing (text :: texts) (before ++ text ++ after ++ ',' :: list)

theorem Listing.gap_append (h : Listing texts list) (hg : IsGap gap) :
    Listing texts (gap ++ list) := by
  have hboth {before : Text} (hb : IsGap before) : IsGap (gap ++ before) := by
    simpa [List.forall_mem_append] using And.intro hg hb
  cases h with
  | nil h => exact .nil (hboth h)
  | last hb ha =>
      rw [← List.append_assoc, ← List.append_assoc]
      exact .last (hboth hb) ha
  | cons hb ha rest =>
      rw [← List.append_assoc, ← List.append_assoc, ← List.append_assoc]
      exact .cons (hboth hb) ha rest

/-- The entry of a field in a list without groups. -/
def Field.print (field : Field) : Text :=
  match field.name with
  | none => field.type
  | some name => name ++ [' '] ++ field.type

/-- A list of fields with a comma and a space between its entries. -/
def Field.printList (fields : List Field) : Text := [',', ' '].intercalate (fields.map print)

theorem entries_print (fields : List Field) : Entries fields (fields.map Field.print) := by
  induction fields with
  | nil => exact .nil
  | cons field rest ih =>
      obtain ⟨_ | name, type⟩ := field
      · exact .unnamed type ih
      · exact .named name type (by simp) (by decide) ih

theorem listing_printList (fields : List Field) :
    Listing (fields.map Field.print) (Field.printList fields) := by
  have hnil : IsGap [] := by decide
  induction fields with
  | nil => exact .nil hnil
  | cons field rest ih =>
      cases rest with
      | nil =>
          have hl : Listing [field.print] ([] ++ field.print ++ []) := .last hnil hnil
          simpa [Field.printList] using hl
      | cons next rest =>
          have hspace : IsGap [' '] := by decide
          have hl : Listing _ ([] ++ field.print ++ [] ++ ',' :: _) :=
            .cons hnil hnil (ih.gap_append hspace)
          simpa [Field.printList] using hl

/-- A text that stays in one piece as an entry of a list. -/
structure IsEntry (text : Text) : Prop where
  ne_nil : text ≠ []
  trim_eq : trim text = text
  not_isQuote : ∀ c ∈ text, Literal.isQuote c = false
  nests : Bracket.nests text
  comma : ',' ∉ Bracket.outside text

/-! ### Plain texts -/

theorem isPlain_of_isGap (h : IsGap text) : IsPlain text := by
  intro c hc hd
  have hall : ∀ d ∈ delimiters, isBlank d = false := by decide
  exact absurd (h c hc) (by simp [hall c hd])

theorem isPlain_of_isWordChar (h : ∀ c ∈ text, isWordChar c) : IsPlain text := by
  intro c hc hd
  have hall : ∀ d ∈ delimiters, isWordChar d = false := by decide +kernel
  exact absurd (h c hc) (by simp [hall c hd])

theorem IsPlain.ne {d : Char} (h : IsPlain text) (hd : d ∈ delimiters) : ∀ c ∈ text, c ≠ d := by
  rintro c hc rfl
  exact h c hc hd

theorem IsPlain.not_isQuote (h : IsPlain text) : ∀ c ∈ text, Literal.isQuote c = false := by
  intro c hc
  simp [Literal.isQuote, h.ne (d := '"') (by decide) c hc, h.ne (d := '`') (by decide) c hc,
    h.ne (d := '\'') (by decide) c hc]

theorem IsPlain.not_bracket (h : IsPlain text) :
    ∀ c ∈ text, Bracket.closer? c = none ∧ Bracket.isCloser c = false := by
  refine fun c hc => ⟨?_, ?_⟩
  · cases ho : Bracket.closer? c with
    | none => rfl
    | some closing =>
        rcases Bracket.closer?_eq_some_iff.1 ho with ⟨rfl, -⟩ | ⟨rfl, -⟩ | ⟨rfl, -⟩ <;>
          exact absurd (by decide) (h _ hc)
  · simp [Bracket.isCloser, h.ne (d := ')') (by decide) c hc, h.ne (d := ']') (by decide) c hc,
      h.ne (d := '}') (by decide) c hc]

theorem IsPlain.nests (h : IsPlain text) : Bracket.nests text :=
  Bracket.nests_of_plain h.not_bracket

theorem IsPlain.not_mem_outside {d : Char} (h : IsPlain text) (hd : d ∈ delimiters) :
    d ∉ Bracket.outside text :=
  fun hm => h d (Bracket.mem_of_mem_outsideFrom hm) hd

/-! ### Names and types -/

theorem isWordChar_of_mem_isIdentifier (h : isIdentifier name) (hc : c ∈ name) : isWordChar c :=
  isWordChar_of_mem_isWord (isWord_of_isIdentifier h) hc

theorem ne_nil_of_isIdentifier (h : isIdentifier name) : name ≠ [] := by
  rintro rfl
  cases h

theorem isPlain_of_isIdentifier (h : isIdentifier name) : IsPlain name :=
  isPlain_of_isWordChar fun _ => isWordChar_of_mem_isIdentifier h

theorem not_isBlank_of_isIdentifier (h : isIdentifier name) : ∀ c ∈ name, isBlank c = false := by
  intro c hc
  have hw := isWordChar_of_mem_isIdentifier h hc
  cases hb : isBlank c with
  | false => rfl
  | true => simp [Text.isWordChar_of_isBlank hb] at hw

theorem trim_of_isIdentifier (h : isIdentifier name) : trim name = name := by
  have hb := not_isBlank_of_isIdentifier h
  rw [trim, Text.trimStart_of_not_isBlank hb, Text.trimEnd_of_not_isBlank hb]

instance (type : Text) : Decidable (IsType type) :=
  decidable_of_iff (type ≠ [] ∧ collapse type = type ∧ (∀ c ∈ type, Literal.isQuote c = false) ∧
      Bracket.nests type ∧ ',' ∉ Bracket.outside type)
    ⟨fun ⟨hne, hc, hq, hn, ho⟩ => ⟨hne, hc, hq, hn, ho⟩, fun ⟨hne, hc, hq, hn, ho⟩ =>
      ⟨hne, hc, hq, hn, ho⟩⟩

/-- The name that a type may start with is its longest part of word characters. -/
theorem startsWithName_iff :
    StartsWithName type ↔ isIdentifier (type.takeWhile isWordChar) ∧
      ((type.dropWhile isWordChar).head?.any isBlank ∨
        Field.dots <+: type.dropWhile isWordChar) := by
  refine ⟨?_, fun ⟨hn, hr⟩ => ⟨_, _, hn, List.takeWhile_append_dropWhile.symm, hr⟩⟩
  rintro ⟨name, rest, hn, rfl, hr⟩
  have hword : ∀ c ∈ name, isWordChar c := fun _ => isWordChar_of_mem_isIdentifier hn
  have hrest : rest.takeWhile isWordChar = [] ∧ rest.dropWhile isWordChar = rest := by
    rcases hr with hb | ⟨tail, rfl⟩
    · cases rest with
      | nil => simp at hb
      | cons c tail => simp [Text.isWordChar_of_isBlank (by simpa using hb)]
    · have hdot : isWordChar '.' = false := by decide +kernel
      simp [Field.dots, hdot]
  rw [List.takeWhile_append_of_pos hword, List.dropWhile_append_of_pos hword, hrest.1, hrest.2,
    List.append_nil]
  exact ⟨hn, hr⟩

instance (type : Text) : Decidable (StartsWithName type) :=
  decidable_of_iff _ startsWithName_iff.symm

instance (fields : List Field) : Decidable (IsFieldList fields) :=
  decidable_of_iff ((∀ field ∈ fields, IsType field.type) ∧
      ((∀ field ∈ fields, field.name.any isIdentifier) ∨
        ∀ field ∈ fields, field.name = none ∧ ¬ StartsWithName field.type))
    ⟨fun ⟨ht, hn⟩ => ⟨ht, hn⟩, fun ⟨ht, hn⟩ => ⟨ht, hn⟩⟩

theorem IsType.trim_eq (h : IsType type) : trim type = type := by
  have ht := Text.trim_collapse type
  rwa [h.collapse_eq] at ht

theorem IsType.isEntry (h : IsType type) : IsEntry type :=
  ⟨h.ne_nil, h.trim_eq, h.not_isQuote, h.nests, h.comma⟩

theorem isEntry_of_isIdentifier (h : isIdentifier name) : IsEntry name where
  ne_nil := ne_nil_of_isIdentifier h
  trim_eq := trim_of_isIdentifier h
  not_isQuote := (isPlain_of_isIdentifier h).not_isQuote
  nests := (isPlain_of_isIdentifier h).nests
  comma := (isPlain_of_isIdentifier h).not_mem_outside (by decide)

theorem IsType.isEntry_named (h : IsType type) (hn : isIdentifier name) (hg : IsGap gap) :
    IsEntry (name ++ gap ++ type) where
  ne_nil := by simp [h.ne_nil]
  trim_eq := by
    obtain ⟨c, rest, rfl⟩ := List.exists_cons_of_ne_nil (ne_nil_of_isIdentifier hn)
    have hb := not_isBlank_of_isIdentifier hn c List.mem_cons_self
    obtain ⟨d, tail, rfl⟩ := List.exists_cons_of_ne_nil h.ne_nil
    have hd : ¬ IsGap (d :: tail) := fun hgap => by
      simpa [Text.not_isBlank_of_trim h.trim_eq] using hgap d List.mem_cons_self
    have hend : trimEnd (d :: tail) = d :: tail := by
      have ht := h.trim_eq
      rwa [trim, Text.trimStart_of_trim ht] at ht
    rw [trim, List.append_assoc, List.cons_append, Text.trimStart_cons hb, ← List.cons_append,
      ← List.append_assoc, Text.trimEnd_append hd, hend]
  not_isQuote := by
    simp only [List.forall_mem_append]
    exact ⟨⟨(isPlain_of_isIdentifier hn).not_isQuote, (isPlain_of_isGap hg).not_isQuote⟩,
      h.not_isQuote⟩
  nests := Bracket.nests_append
    (Bracket.nests_append (isPlain_of_isIdentifier hn).nests (isPlain_of_isGap hg).nests) h.nests
  comma := by
    have hname := isPlain_of_isIdentifier hn
    have hgap := isPlain_of_isGap hg
    rw [Bracket.outside_append (Bracket.nests_append hname.nests hgap.nests),
      Bracket.outside_append hname.nests]
    simp [hname.not_mem_outside (d := ',') (by decide), hgap.not_mem_outside (d := ',') (by decide),
      h.comma]

/-! ### Listings -/

/-- An entry with gaps around it is still in one piece. -/
theorem IsEntry.between (h : IsEntry text) {before after : Text} (hb : IsGap before)
    (ha : IsGap after) :
    Bracket.nests (before ++ text ++ after) ∧ ',' ∉ Bracket.outside (before ++ text ++ after) ∧
      ∀ c ∈ before ++ text ++ after, Literal.isQuote c = false := by
  have hbefore := isPlain_of_isGap hb
  have hafter := isPlain_of_isGap ha
  have hfirst := Bracket.nests_append hbefore.nests h.nests
  refine ⟨Bracket.nests_append hfirst hafter.nests, ?_, ?_⟩
  · rw [Bracket.outside_append hfirst, Bracket.outside_append hbefore.nests]
    simp [hbefore.not_mem_outside (d := ',') (by decide), h.comma,
      hafter.not_mem_outside (d := ',') (by decide)]
  · simp only [List.forall_mem_append]
    exact ⟨⟨hbefore.not_isQuote, h.not_isQuote⟩, hafter.not_isQuote⟩

theorem Listing.nests (h : Listing texts list) (he : ∀ text ∈ texts, IsEntry text) :
    Bracket.nests list ∧ ∀ c ∈ list, Literal.isQuote c = false := by
  induction h with
  | nil hg => exact ⟨(isPlain_of_isGap hg).nests, (isPlain_of_isGap hg).not_isQuote⟩
  | last hb ha =>
      obtain ⟨hn, -, hq⟩ := (he _ List.mem_cons_self).between hb ha
      exact ⟨hn, hq⟩
  | cons hb ha _ ih =>
      obtain ⟨hentry, hrest⟩ := List.forall_mem_cons.1 he
      obtain ⟨hn, -, hq⟩ := hentry.between hb ha
      obtain ⟨hlist, hquote⟩ := ih hrest
      have hcomma : Bracket.nests [','] := rfl
      refine ⟨Bracket.nests_append hn (Bracket.nests_append hcomma hlist), ?_⟩
      simp only [List.forall_mem_append, List.forall_mem_cons]
      exact ⟨by simpa only [List.forall_mem_append] using hq, rfl, hquote⟩

theorem not_cut_inside (depth : Int) (c : Char) (h : 0 < depth) :
    (depth == 0 && c == ',') = false := by
  have hne : depth ≠ 0 := by omega
  simp [hne]

theorem not_cut_outside (h : ',' ∉ Bracket.outside text) :
    ∀ c ∈ Bracket.outside text, ((0 : Int) == 0 && c == ',') = false := by
  intro c hc
  have hne : c ≠ ',' := fun he => h (he ▸ hc)
  simp [hne]

/-- The entries of a text without commas outside brackets. -/
theorem entries_of_nests (hn : Bracket.nests text) (hc : ',' ∉ Bracket.outside text) :
    Bracket.entries text = [trim text].filter (! ·.isEmpty) := by
  rw [Bracket.entries, Bracket.splitFrom_eq_singleton not_cut_inside (not_cut_outside hc) hn]
  rfl

theorem entries_append_cons (hn : Bracket.nests text) (hc : ',' ∉ Bracket.outside text)
    (rest : Text) :
    Bracket.entries (text ++ ',' :: rest) =
      [trim text].filter (! ·.isEmpty) ++ Bracket.entries rest := by
  rw [Bracket.entries, Bracket.splitFrom_append_cons not_cut_inside (not_cut_outside hc) hn rfl,
    List.map_cons, ← List.singleton_append, List.filter_append]
  rfl

/-- The reader of lists finds the entries that a text lists. -/
theorem Listing.entries_eq (h : Listing texts list) (he : ∀ text ∈ texts, IsEntry text) :
    Bracket.entries list = texts := by
  induction h with
  | nil hg =>
      have hp := isPlain_of_isGap hg
      rw [entries_of_nests hp.nests (hp.not_mem_outside (by decide)), Text.trim_eq_nil_iff.2 hg]
      rfl
  | @last before text after hb ha =>
      have hentry := he text List.mem_cons_self
      obtain ⟨hn, hc, -⟩ := hentry.between hb ha
      rw [entries_of_nests hn hc, Text.trim_between hb ha hentry.trim_eq]
      simp [hentry.ne_nil]
  | @cons before text after list texts hb ha _ ih =>
      obtain ⟨hentry, hrest⟩ := List.forall_mem_cons.1 he
      obtain ⟨hn, hc, -⟩ := hentry.between hb ha
      rw [entries_append_cons hn hc, Text.trim_between hb ha hentry.trim_eq, ih hrest]
      simp [hentry.ne_nil]

/-! ### Entries -/

theorem ofText_named (hn : isIdentifier name) (hne : gap ≠ []) (hg : IsGap gap)
    (ht : IsType type) :
    Field.Entry.ofText (name ++ gap ++ type) = .named name type := by
  obtain ⟨c, gap, rfl⟩ := List.exists_cons_of_ne_nil hne
  have hc := hg c List.mem_cons_self
  have hword : ∀ c ∈ name, (!isBlank c) = true := fun c hm => by
    simp [not_isBlank_of_isIdentifier hn c hm]
  have hhead : (name ++ c :: gap ++ type).takeWhile (! isBlank ·) = name := by
    rw [List.append_assoc, List.takeWhile_append_of_pos hword, List.cons_append]
    simp [hc]
  have htail : (name ++ c :: gap ++ type).dropWhile (! isBlank ·) = c :: gap ++ type := by
    rw [List.append_assoc, List.dropWhile_append_of_pos hword, List.cons_append]
    simp [hc]
  have htype : trimStart (c :: gap ++ type) = type := by
    rw [Text.trimStart_gap_append hg, Text.trimStart_of_trim ht.trim_eq]
  simp only [Field.Entry.ofText, hhead, htail, htype, hn, Bool.true_and]
  rw [if_pos (by simp [ht.ne_nil])]

theorem breakAt?_dots_eq_none (h : ∀ c ∈ text, c ≠ '.') : breakAt? Field.dots text = none := by
  induction text with
  | nil => rfl
  | cons c rest ih =>
      obtain ⟨hc, hrest⟩ := List.forall_mem_cons.1 h
      have hne : Field.dots.isPrefixOf (c :: rest) = false := by
        simp [Field.dots, List.isPrefixOf, Ne.symm hc]
      simp [breakAt?, hne, ih hrest]

theorem ofText_name (hn : isIdentifier name) : Field.Entry.ofText name = .bare name := by
  have hword : ∀ c ∈ name, (!isBlank c) = true := fun c hm => by
    simp [not_isBlank_of_isIdentifier hn c hm]
  have htail : name.dropWhile (! isBlank ·) = [] := by
    simpa using @List.dropWhile_append_of_pos _ _ name [] hword
  have hdots : ∀ c ∈ name, c ≠ '.' := (isPlain_of_isIdentifier hn).ne (by decide)
  simp [Field.Entry.ofText, htail, breakAt?_dots_eq_none hdots]

theorem ofText_unnamed (ht : ¬ StartsWithName type) : Field.Entry.ofText type = .bare type := by
  have hhead : ¬ (isIdentifier (type.takeWhile (! isBlank ·)) ∧
      trimStart (type.dropWhile (! isBlank ·)) ≠ []) := by
    rintro ⟨hn, hne⟩
    refine ht ⟨_, _, hn, List.takeWhile_append_dropWhile.symm, .inl ?_⟩
    have hb := List.head?_dropWhile_not (! isBlank ·) type
    cases hd : type.dropWhile (! isBlank ·) with
    | nil => simp [hd] at hne
    | cons c rest => simpa [hd] using hb
  unfold Field.Entry.ofText
  rw [if_neg (by simpa using hhead)]
  cases hbreak : breakAt? Field.dots type with
  | none => rfl
  | some cut =>
      obtain ⟨before, found⟩ := cut
      refine if_neg fun hn => ht ?_
      obtain ⟨gap, hg, hgap⟩ := Text.exists_gap_trimEnd before
      refine ⟨trimEnd before, gap ++ found, hn, ?_, ?_⟩
      · rw [← List.append_assoc, ← hgap, Text.breakAt?_append hbreak]
      · cases gap with
        | nil => exact .inr (Text.isPrefix_of_breakAt? hbreak)
        | cons c gap => exact .inl (by simpa using hg c List.mem_cons_self)

/-! ### Lists -/

theorem IsFieldList.tail (h : IsFieldList (field :: fields)) : IsFieldList fields where
  types := (List.forall_mem_cons.1 h.types).2
  names := h.names.imp (fun hn => (List.forall_mem_cons.1 hn).2)
    fun hn => (List.forall_mem_cons.1 hn).2

theorem IsFieldList.isType (h : IsFieldList (field :: fields)) : IsType field.type :=
  h.types field List.mem_cons_self

theorem IsFieldList.isIdentifier (h : IsFieldList (⟨some name, type⟩ :: fields)) :
    isIdentifier name := by
  rcases h.names with hn | hn
  · exact hn _ List.mem_cons_self
  · cases (hn _ List.mem_cons_self).1

/-- Nothing that spells the fields of a list falls apart in a listing. -/
theorem Entries.isEntry (h : Entries fields texts) (hl : IsFieldList fields) :
    ∀ text ∈ texts, IsEntry text := by
  induction h with
  | nil => simp
  | unnamed type _ ih => exact List.forall_mem_cons.2 ⟨hl.isType.isEntry, ih hl.tail⟩
  | named name type _ hg _ ih =>
      exact List.forall_mem_cons.2 ⟨hl.isType.isEntry_named hl.isIdentifier hg, ih hl.tail⟩
  | grouped name _ ih =>
      exact List.forall_mem_cons.2 ⟨isEntry_of_isIdentifier hl.isIdentifier, ih hl.tail⟩

/-- Unnamed fields are spelled as their types, which read as bare entries. -/
theorem Entries.of_unnamed (h : Entries fields texts)
    (hn : ∀ field ∈ fields, field.name = none ∧ ¬ StartsWithName field.type) :
    texts = fields.map Field.type ∧ texts.map Field.Entry.ofText = texts.map .bare := by
  induction h with
  | nil => simp
  | unnamed type _ ih =>
      obtain ⟨hhead, htail⟩ := List.forall_mem_cons.1 hn
      obtain ⟨hs, hb⟩ := ih htail
      exact ⟨by rw [hs, List.map_cons], by rw [List.map_cons, List.map_cons, hb,
        ofText_unnamed hhead.2]⟩
  | named => cases (hn _ List.mem_cons_self).1
  | grouped => cases (hn _ List.mem_cons_self).1

/-- Some entry of a named list shows its type. -/
theorem Entries.not_all_isBare (h : Entries fields texts) (hl : IsFieldList fields)
    (hn : ∀ field ∈ fields, field.name.any Go.isIdentifier)
    (hne : fields ≠ []) : (texts.map Field.Entry.ofText).all Field.Entry.isBare = false := by
  induction h with
  | nil => simp at hne
  | unnamed => cases hn _ List.mem_cons_self
  | named name type hgap hg _ _ =>
      rw [List.map_cons, ofText_named hl.isIdentifier hgap hg hl.isType]
      rfl
  | grouped name _ ih =>
      have hrest := ih hl.tail (List.forall_mem_cons.1 hn).2 (by simp)
      rw [List.map_cons, List.all_cons, hrest, Bool.and_false]

/-- The names that wait for a type get the one of the next field. -/
theorem Entries.ofGroups_eq (h : Entries fields texts) (hl : IsFieldList fields)
    (hn : ∀ field ∈ fields, field.name.any Go.isIdentifier)
    (pending : List Text) (hp : fields = [] → pending = []) :
    Field.ofGroups list pending (texts.map Field.Entry.ofText) =
      .ok ((fields.head?.elim [] fun field => pending.map (⟨some ·, field.type⟩)) ++ fields) := by
  induction h generalizing pending with
  | nil => simp [Field.ofGroups, hp]
  | unnamed => cases hn _ List.mem_cons_self
  | @named name type gap fields texts hgap hg _ ih =>
      have hrest := ih hl.tail (List.forall_mem_cons.1 hn).2 [] fun _ => rfl
      have hnone : (fields.head?.elim [] fun field : Field =>
          ([] : List Text).map (⟨some ·, field.type⟩)) = ([] : List Field) := by
        cases fields <;> rfl
      rw [hnone, List.nil_append] at hrest
      rw [List.map_cons, ofText_named hl.isIdentifier hgap hg hl.isType, Field.ofGroups, hrest]
      simp [hl.isType.collapse_eq, pure, Except.pure, bind, Except.bind]
  | grouped name _ ih =>
      have hrest := ih hl.tail (List.forall_mem_cons.1 hn).2 (pending ++ [name]) (by simp)
      rw [List.map_cons, ofText_name hl.isIdentifier, Field.ofGroups, if_pos hl.isIdentifier, hrest]
      simp

/-- The reader of lists undoes every layout of a list. -/
theorem ofList_of_listing (hl : IsFieldList fields) (he : Entries fields texts)
    (h : Listing texts list) : Field.ofList list = .ok fields := by
  have hentries := h.entries_eq (he.isEntry hl)
  rcases hl.names with hn | hn
  · cases fields with
    | nil =>
        cases he
        rw [Field.ofList, hentries]
        rfl
    | cons field fields =>
        have hgroups : Field.ofGroups list [] (texts.map Field.Entry.ofText) = _ :=
          he.ofGroups_eq hl hn [] fun _ => rfl
        rw [Field.ofList, hentries, if_neg (by simp [he.not_all_isBare hl hn])]
        exact hgroups
  · obtain ⟨hs, hb⟩ := he.of_unnamed hn
    have hbare : (texts.map Field.Entry.ofText).all Field.Entry.isBare := by
      rw [hb]
      simp [Field.Entry.isBare]
    rw [Field.ofList, hentries, if_pos hbare, hs, List.map_map]
    congr 1
    conv => rhs; rw [← List.map_id fields]
    apply List.map_congr_left
    intro field hf
    simp [(hl.types field hf).collapse_eq, ← (hn field hf).1]

end GoStubs.Go
