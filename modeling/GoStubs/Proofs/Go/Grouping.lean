import GoStubs.Proofs.Go.Pieces

/-!
# Groups of names

The items of a list are its pieces without the gaps around them.  If no item has a name, each is a
type.  Otherwise an item without a name has to be a name itself, and it takes the first type that an
item behind it shows; names at the end of the list find none.
-/

namespace GoStubs.Go.Field

open Text (IsGap trim collapse)

variable {list item name type text : Text} {items front run pending names : List Text}
  {entry last : Entry} {entries rest : List Entry} {fields : List Field} {i : Nat}

def Entry.type? : Entry → Option Text
  | .named _ type => some type
  | .bare _ => none

/-- The name of an entry, which a bare entry is itself. -/
def Entry.label : Entry → Text
  | .named name _ => name
  | .bare text => text

/-- The type of an item that has a name. -/
def typeOf? (item : Text) : Option Text := (Entry.ofText item).type?

def nameOf (item : Text) : Text := (Entry.ofText item).label

/-- The pieces of a list without the gaps around them; pieces that are gaps are left out. -/
def itemsOf (pieces : List Text) : List Text := (pieces.map trim).filter (! ·.isEmpty)

/-! ### Entries after names that wait for a type -/

/-- Bare entries that are names. -/
abbrev AreNames (entries : List Entry) : Prop :=
  ∀ entry ∈ entries, entry.type? = none → isIdentifier entry.label

theorem ofGroups_bare (h : isIdentifier text) (list : Text) (pending : List Text)
    (rest : List Entry) :
    ofGroups list pending (.bare text :: rest) = ofGroups list (pending ++ [text]) rest := by
  rw [ofGroups, if_pos h]

/-- Names wait until an entry shows a type. -/
theorem ofGroups_names (h : ∀ name ∈ names, isIdentifier name) (list : Text)
    (pending : List Text) :
    ofGroups list pending (names.map .bare) = ofGroups list (pending ++ names) [] := by
  induction names generalizing pending with
  | nil => rw [List.map_nil, List.append_nil]
  | cons name names ih =>
      obtain ⟨hname, hnames⟩ := List.forall_mem_cons.1 h
      rw [List.map_cons, ofGroups_bare hname, ih hnames, List.append_assoc, List.singleton_append]

/-- A bare entry that is no name is found, whatever waits in front of it. -/
theorem ofGroups_eq_mixedNaming (h : ¬ AreNames entries) (list : Text) (pending : List Text) :
    ofGroups list pending entries = .error (.mixedNaming (trim list)) := by
  induction entries generalizing pending with
  | nil => exact absurd (List.forall_mem_nil _) h
  | cons entry rest ih =>
      rw [AreNames, List.forall_mem_cons, not_and_or] at h
      cases entry with
      | named name type =>
          have hrest : ¬ AreNames rest := h.resolve_left (by simp [Entry.type?])
          rw [ofGroups, ih hrest]
          rfl
      | bare text =>
          by_cases ht : isIdentifier text
          · have hrest : ¬ AreNames rest := h.resolve_left (by simp [Entry.label, ht])
            rw [ofGroups_bare ht, ih hrest]
          · rw [ofGroups, if_neg ht]

/-- Names behind the last type lack one. -/
theorem ofGroups_eq_missingType (hl : last.type?.isSome) (hr : run ≠ [])
    (h : AreNames (entries ++ last :: run.map .bare)) (list : Text) (pending : List Text) :
    ofGroups list pending (entries ++ last :: run.map .bare) = .error (.missingType run) := by
  induction entries generalizing pending with
  | nil =>
      cases last with
      | bare text => cases hl
      | named name type =>
          -- Whatever waited has its type now, so the names behind it are all that is left.
          have hnames : ∀ name ∈ run, isIdentifier name := fun name hm =>
            h (.bare name) (by simp [hm]) rfl
          rw [List.nil_append, ofGroups, ofGroups_names hnames, List.nil_append, ofGroups,
            if_neg (by simpa using hr)]
          rfl
  | cons entry entries ih =>
      obtain ⟨hentry, hrest⟩ := List.forall_mem_cons.1 h
      rw [List.cons_append]
      cases entry with
      | named name type =>
          rw [ofGroups, ih hrest]
          rfl
      | bare text =>
          have htext : isIdentifier text := hentry rfl
          rw [ofGroups_bare htext, ih hrest]

def firstType (entries : List Entry) : Text := (entries.findSome? Entry.type?).getD []

/-- Each entry as a field of the first type at it or behind it. -/
def lookAhead : List Entry → List Field
  | [] => []
  | entry :: rest =>
    ⟨some entry.label, collapse (firstType (entry :: rest))⟩ :: lookAhead rest

/-- Where the last entry shows a type, the names that wait get the first one. -/
theorem ofGroups_eq_ok (hl : ∀ last ∈ entries.getLast?, last.type?.isSome)
    (hp : entries = [] → pending = []) (h : AreNames entries) (list : Text) :
    ofGroups list pending entries =
      .ok (pending.map (⟨some ·, collapse (firstType entries)⟩) ++ lookAhead entries) := by
  induction entries generalizing pending with
  | nil =>
      rw [hp rfl]
      rfl
  | cons entry rest ih =>
      obtain ⟨hentry, hrest⟩ := List.forall_mem_cons.1 h
      have hlast : ∀ last ∈ rest.getLast?, last.type?.isSome := by
        intro last hm
        apply hl last
        cases rest with
        | nil => cases hm
        | cons next rest => rwa [List.getLast?_cons_cons]
      cases entry with
      | named name type =>
          have hfirst : firstType (.named name type :: rest) = type := rfl
          rw [ofGroups, ih hlast (fun _ => rfl) hrest, lookAhead, hfirst]
          simp [Entry.label, bind, Except.bind, pure, Except.pure]
      | bare text =>
          -- A bare entry is not the last one, so some type follows.
          have hne : rest ≠ [] := by
            rintro rfl
            cases hl (.bare text) rfl
          have hfirst : firstType (.bare text :: rest) = firstType rest := rfl
          have htext : isIdentifier text := hentry rfl
          rw [ofGroups_bare htext, ih hlast (fun he => absurd he hne) hrest, lookAhead, hfirst]
          simp [Entry.label]

theorem length_lookAhead (entries : List Entry) : (lookAhead entries).length = entries.length := by
  induction entries with
  | nil => rfl
  | cons entry rest ih => rw [lookAhead, List.length_cons, List.length_cons, ih]

theorem getElem?_lookAhead (h : entries[i]? = some entry) :
    (lookAhead entries)[i]? = some ⟨some entry.label, collapse (firstType (entries.drop i))⟩ := by
  induction entries generalizing i with
  | nil => simp at h
  | cons first rest ih =>
      cases i with
      | zero =>
          obtain rfl : first = entry := by simpa using h
          rfl
      | succ i =>
          rw [List.getElem?_cons_succ] at h
          rw [lookAhead, List.getElem?_cons_succ, ih h, List.drop_succ_cons]

/-! ### Items -/

theorem isBare_ofText_iff : (Entry.ofText item).isBare ↔ typeOf? item = none := by
  rw [typeOf?]
  cases Entry.ofText item <;> simp [Entry.isBare, Entry.type?]

/-- An item with a name shows a type that is no gap, any other item is taken as it is. -/
theorem ofText_cases (item : Text) :
    (∃ name type, Entry.ofText item = .named name type ∧ ¬ IsGap type) ∨
      Entry.ofText item = .bare item := by
  simp only [Entry.ofText]
  split
  · rename_i h
    simp only [Bool.and_eq_true, Bool.not_eq_true', List.isEmpty_eq_false_iff] at h
    refine .inl ⟨_, _, rfl, fun hgap => h.2 ?_⟩
    rwa [← Text.trimStart_eq_nil_iff, Text.trimStart_trimStart] at hgap
  · split
    · rename_i before found hbreak
      split
      · refine .inl ⟨_, _, rfl, fun hgap => ?_⟩
        have hdot := hgap '.' ((Text.isPrefix_of_breakAt? hbreak).subset (by decide))
        cases hdot
      · exact .inr rfl
    · exact .inr rfl

theorem ofText_of_typeOf? (h : typeOf? item = none) : Entry.ofText item = .bare item := by
  rcases ofText_cases item with ⟨name, type, hnamed, -⟩ | hbare
  · rw [typeOf?, hnamed] at h
    cases h
  · exact hbare

theorem collapse_ne_nil_of_typeOf? (h : typeOf? item = some type) : collapse type ≠ [] := by
  rcases ofText_cases item with ⟨name, other, hnamed, hgap⟩ | hbare
  · rw [typeOf?, hnamed] at h
    cases h
    exact mt Text.collapse_eq_nil_iff.1 hgap
  · rw [typeOf?, hbare] at h
    cases h

theorem collapse_ne_nil_of_mem_itemsOf {pieces : List Text} (h : item ∈ itemsOf pieces) :
    collapse item ≠ [] := by
  rw [itemsOf, List.mem_filter, List.mem_map] at h
  obtain ⟨⟨piece, -, rfl⟩, hne⟩ := h
  rw [Ne, Text.collapse_eq_nil_iff, ← Text.trim_eq_nil_iff, Text.trim_trim]
  simpa using hne

theorem areNames_iff :
    AreNames (items.map Entry.ofText) ↔
      ∀ item ∈ items, typeOf? item = none → isIdentifier item := by
  rw [AreNames, List.forall_mem_map]
  refine forall₂_congr fun item _ => imp_congr_right fun hnone => ?_
  rw [ofText_of_typeOf? hnone, Entry.label]

theorem map_ofText_of_typeOf? (h : ∀ item ∈ run, typeOf? item = none) :
    run.map Entry.ofText = run.map .bare :=
  List.map_congr_left fun item hm => ofText_of_typeOf? (h item hm)

theorem findSome?_map_ofText (items : List Text) :
    (items.map Entry.ofText).findSome? Entry.type? = items.findSome? typeOf? := by
  rw [List.findSome?_map]
  rfl

theorem exists_last_named (h : ∃ item ∈ items, (typeOf? item).isSome) :
    ∃ front item run, items = front ++ item :: run ∧ (typeOf? item).isSome ∧
      ∀ name ∈ run, typeOf? name = none := by
  induction items with
  | nil => simp at h
  | cons first rest ih =>
      by_cases hrest : ∃ item ∈ rest, (typeOf? item).isSome
      · obtain ⟨front, item, run, rfl, hitem, hrun⟩ := ih hrest
        exact ⟨first :: front, item, run, rfl, hitem, hrun⟩
      · obtain ⟨item, hm, hitem⟩ := h
        rcases List.mem_cons.1 hm with rfl | hm
        · refine ⟨[], item, rest, rfl, hitem, fun name hname => ?_⟩
          rw [← Option.not_isSome_iff_eq_none]
          exact fun hsome => hrest ⟨name, hname, hsome⟩
        · exact absurd ⟨item, hm, hitem⟩ hrest

/-! ### Lists -/

/-- What a list comes to by its items.  They are types, or some of them are named; then the others
are names, and each takes the first type that is shown at it or behind it. -/
structure Grouping (list : Text) (items : List Text)
    (result : Except SignatureError (List Field)) : Prop where
  unnamed : (∀ item ∈ items, typeOf? item = none) →
    result = .ok (items.map (⟨none, collapse ·⟩))
  mixed : (∃ item ∈ items, (typeOf? item).isSome) →
    (∃ item ∈ items, typeOf? item = none ∧ ¬ isIdentifier item) →
      result = .error (.mixedNaming (trim list))
  /-- A longest run of items without a name, at the end of the list. -/
  missing : ∀ front item run, items = front ++ item :: run → (typeOf? item).isSome → run ≠ [] →
    (∀ name ∈ run, typeOf? name = none) →
    (∀ item ∈ items, typeOf? item = none → isIdentifier item) →
      result = .error (.missingType run) ∧ (SignatureError.missingType run).message =
        "parameter names without a type: ".toList ++ ", ".toList.intercalate run
  named : ∀ last ∈ items.getLast?, (typeOf? last).isSome →
    (∀ item ∈ items, typeOf? item = none → isIdentifier item) →
      ∃ fields, result = .ok fields ∧ fields.length = items.length ∧
        ∀ i item, items[i]? = some item → ∃ type, (items.drop i).findSome? typeOf? = some type ∧
          fields[i]? = some ⟨some (nameOf item), collapse type⟩

theorem isSome_findSome?_drop (hl : ∀ last ∈ items.getLast?, (typeOf? last).isSome)
    (hi : items[i]? = some item) : ((items.drop i).findSome? typeOf?).isSome := by
  obtain ⟨hlt, -⟩ := List.getElem?_eq_some_iff.1 hi
  rw [List.isSome_findSome?, List.any_eq_true]
  have hne : items.drop i ≠ [] := by simpa using hlt
  refine ⟨(items.drop i).getLast hne, List.getLast_mem hne, hl _ ?_⟩
  rw [List.getLast_drop, Option.mem_def, List.getLast?_eq_some_getLast]

theorem ofList_of_named (h : ∃ item ∈ Bracket.entries list, (typeOf? item).isSome) :
    ofList list = ofGroups list [] ((Bracket.entries list).map Entry.ofText) := by
  obtain ⟨item, hm, hitem⟩ := h
  refine if_neg fun hall => ?_
  simp only [List.all_map, List.all_eq_true, Function.comp_apply, isBare_ofText_iff] at hall
  rw [hall item hm] at hitem
  cases hitem

theorem grouping_ofList (list : Text) : Grouping list (Bracket.entries list) (ofList list) where
  unnamed h := by
    refine if_pos ?_
    simpa [isBare_ofText_iff] using h
  mixed hn hb := by
    obtain ⟨item, hm, hnone, hitem⟩ := hb
    rw [ofList_of_named hn, ofGroups_eq_mixedNaming]
    exact fun hnames => hitem (areNames_iff.1 hnames item hm hnone)
  missing front item run hitems hitem hrun hnone hnames := by
    refine ⟨?_, rfl⟩
    have hmap : (Bracket.entries list).map Entry.ofText =
        front.map Entry.ofText ++ Entry.ofText item :: run.map .bare := by
      rw [hitems, List.map_append, List.map_cons, map_ofText_of_typeOf? hnone]
    have hentries := areNames_iff.2 hnames
    rw [hmap] at hentries
    rw [ofList_of_named ⟨item, by simp [hitems], hitem⟩, hmap]
    exact ofGroups_eq_missingType hitem hrun hentries list []
  named last hl hlast hnames := by
    have hall : ∀ last ∈ (Bracket.entries list).getLast?, (typeOf? last).isSome := by
      intro other hother
      rwa [Option.mem_unique hother hl]
    have hentries : ∀ last ∈ ((Bracket.entries list).map Entry.ofText).getLast?,
        last.type?.isSome := by
      rw [List.getLast?_map]
      simpa [typeOf?] using hall
    rw [ofList_of_named ⟨last, List.mem_of_getLast? hl, hlast⟩,
      ofGroups_eq_ok hentries (fun _ => rfl) (areNames_iff.2 hnames)]
    refine ⟨_, rfl, by simp [length_lookAhead], fun i item hi => ?_⟩
    obtain ⟨type, htype⟩ := Option.isSome_iff_exists.1 (isSome_findSome?_drop hall hi)
    have hfirst : firstType (((Bracket.entries list).map Entry.ofText).drop i) = type := by
      rw [firstType, ← List.map_drop, findSome?_map_ofText, htype, Option.getD_some]
    refine ⟨type, htype, ?_⟩
    have hentry : ((Bracket.entries list).map Entry.ofText)[i]? = some (Entry.ofText item) := by
      rw [List.getElem?_map, hi, Option.map_some]
    rw [List.map_nil, List.nil_append, getElem?_lookAhead hentry, hfirst]
    rfl

namespace Grouping

variable {result : Except SignatureError (List Field)}

theorem forall_of_named (h : Grouping list items (.ok fields))
    (hn : ∃ item ∈ items, (typeOf? item).isSome) :
    ∀ field ∈ fields, field.name.isSome ∧ field.type ≠ [] := by
  obtain ⟨front, last, run, hitems, hlast, hrun⟩ := exists_last_named hn
  have hnames : ∀ item ∈ items, typeOf? item = none → isIdentifier item := by
    by_contra hb
    push Not at hb
    cases h.mixed hn hb
  -- Names behind the last named item would have no type.
  obtain rfl : run = [] := by
    by_contra hne
    cases (h.missing front last run hitems hlast hne hrun hnames).1
  have hm : last ∈ items.getLast? := by
    rw [hitems, List.getLast?_concat]
    exact Option.mem_some_self last
  obtain ⟨found, hfound, hlength, hget⟩ := h.named last hm hlast hnames
  cases hfound
  intro field hfield
  obtain ⟨i, hi⟩ := List.mem_iff_getElem?.1 hfield
  have hlt : i < items.length := by
    obtain ⟨hlt, -⟩ := List.getElem?_eq_some_iff.1 hi
    rwa [← hlength]
  obtain ⟨type, htype, hith⟩ := hget i items[i] (List.getElem?_eq_getElem hlt)
  obtain rfl : field = _ := Option.some.inj (hi.symm.trans hith)
  obtain ⟨item, -, hitem⟩ := List.exists_of_findSome?_eq_some htype
  exact ⟨rfl, collapse_ne_nil_of_typeOf? hitem⟩

/-- An accepted list is all named or all unnamed, and every field has a type. -/
theorem uniform (h : Grouping list items (.ok fields))
    (hi : ∀ item ∈ items, collapse item ≠ []) :
    ((∀ field ∈ fields, field.name.isSome) ∨ ∀ field ∈ fields, field.name = none) ∧
      ∀ field ∈ fields, field.type ≠ [] := by
  by_cases hn : ∃ item ∈ items, (typeOf? item).isSome
  · have hall := h.forall_of_named hn
    exact ⟨.inl fun field hm => (hall field hm).1, fun field hm => (hall field hm).2⟩
  · simp only [not_exists, not_and, Option.not_isSome_iff_eq_none] at hn
    cases h.unnamed hn
    simp only [List.forall_mem_map]
    exact ⟨.inr fun _ _ => trivial, hi⟩

end Grouping

/-- Every list has one sequence of pieces, and their items decide what is read: unnamed fields, an
error for an item that is neither named nor a name, an error for the names at the end that lack a
type, or a field for each item with its name and the first type that is shown at it or behind it.
In particular an accepted list does not mix named and unnamed fields, and each of them has a
type. -/
theorem ofList_grouped (list : Text) :
    ∃ pieces, Bracket.Pieces pieces list ∧
      (∀ others, Bracket.Pieces others list → others = pieces) ∧
      Grouping list (itemsOf pieces) (ofList list) ∧
      ∀ fields, ofList list = .ok fields →
        ((∀ field ∈ fields, field.name.isSome) ∨ ∀ field ∈ fields, field.name = none) ∧
          ∀ field ∈ fields, field.type ≠ [] := by
  have hgroups := grouping_ofList list
  rw [Bracket.entries_eq, ← itemsOf] at hgroups
  refine ⟨Bracket.splitFrom Bracket.divides 0 list, Bracket.pieces_iff.2 rfl,
    fun others ho => (Bracket.pieces_iff.1 ho).symm, hgroups, fun fields h => ?_⟩
  rw [h] at hgroups
  exact hgroups.uniform fun item hm => collapse_ne_nil_of_mem_itemsOf hm

example : ofList "a, b int, f func(x, y int) error, opts ...Option,".toList =
    .ok [⟨some ['a'], "int".toList⟩, ⟨some ['b'], "int".toList⟩,
      ⟨some ['f'], "func(x, y int) error".toList⟩, ⟨some "opts".toList, "...Option".toList⟩] := by
  decide +kernel

end GoStubs.Go.Field
