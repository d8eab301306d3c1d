import Mathlib.Algebra.Order.BigOperators.Group.List
import Mathlib.Algebra.Order.Group.Nat
import Mathlib.Data.List.Sort
import GoStubs.Proofs.Project.Scan
import GoStubs.Proofs.Text.Order

/-!
# What lies below a directory

A disk lists the entries below a directory in the order of their locations, name
by name.  That is the order in which a traversal comes by them if it visits a
directory before what lies in it, and the entries of a directory in the order of
their names.  So a traversal and the disk have one and the same list.
-/

namespace GoStubs

theorem Location.compare_append (here a b : Location) :
    compare (here ++ a) (here ++ b) = compare a b := by
  induction here with
  | nil => rfl
  | cons name here ih =>
      have hself : compare name name = .eq := Std.ReflCmp.compare_self
      rw [List.cons_append, List.cons_append, List.compare_cons_cons, hself, ih]
      rfl

namespace Disk

variable {disk : Disk} {here location : Location} {entry : Entry} {name : Text}
  {names : List Text} {items : List (Location × Entry)}

/-- Whether one item is in front of another, by the bytes of the names on the way to them. -/
def IsBefore (a b : Location × Entry) : Prop := Location.bytes a.1 < Location.bytes b.1

instance : Std.Irrefl IsBefore := ⟨fun _ => List.lt_irrefl _⟩

instance : Std.Antisymm IsBefore := ⟨fun _ _ h hn => absurd hn (List.lt_asymm h)⟩

/-- An entry as an item below `here`, if it lies there. -/
def item? (here : Location) (place : Location × Entry) : Option (Location × Entry) :=
  (Text.dropPrefix? here place.1).bind fun names =>
    if names = [] then none else some (names, place.2)

theorem item?_eq_some_iff {place item : Location × Entry} :
    item? here place = some item ↔ item.1 ≠ [] ∧ place = (here ++ item.1, item.2) := by
  obtain ⟨a, first⟩ := place
  obtain ⟨names, last⟩ := item
  simp only [item?, Option.bind_eq_some_iff, Text.dropPrefix?_eq_some_iff]
  constructor
  · rintro ⟨rest, rfl, h⟩
    split at h
    · cases h
    · next hne =>
        cases h
        exact ⟨hne, rfl⟩
  · rintro ⟨hne, h⟩
    cases h
    exact ⟨names, rfl, if_neg hne⟩

theorem below_eq (disk : Disk) (here : Location) :
    disk.below here = disk.entries.toList.filterMap (item? here) := by
  refine List.filterMap_congr ?_
  rintro ⟨other, entry⟩ -
  rcases hp : Text.dropPrefix? here other with _ | _ | ⟨name, rest⟩ <;> simp [item?, hp]

theorem mem_below_iff :
    (location, entry) ∈ disk.below here ↔
      location ≠ [] ∧ disk.find? (here ++ location) = some entry := by
  constructor
  · intro h
    exact (find?_of_mem_below h).symm
  · rintro ⟨hne, h⟩
    rw [find?, Entries.find?, if_neg (by simp [hne])] at h
    rw [below_eq, List.mem_filterMap]
    exact ⟨_, Std.ExtTreeMap.mem_toList_iff_getElem?_eq_some.2 h, item?_eq_some_iff.2 ⟨hne, rfl⟩⟩

/-- On the way to an entry below a directory there is an entry of the directory itself. -/
theorem isSome_find?_of_below (h : disk.find? (here ++ name :: location) = some entry) :
    (disk.find? (here ++ [name])).isSome := by
  rw [List.append_cons] at h
  by_cases hl : location = []
  · rw [hl, List.append_nil] at h
    rw [h]
    rfl
  · rw [find?_of_append h hl]
    rfl

theorem sorted_below (disk : Disk) (here : Location) : (disk.below here).Pairwise IsBefore := by
  rw [below_eq]
  refine List.Pairwise.filterMap _ ?_ Std.ExtTreeMap.ordered_keys_toList
  intro first last hlt a ha b hb
  obtain ⟨-, rfl⟩ := item?_eq_some_iff.1 ha
  obtain ⟨-, rfl⟩ := item?_eq_some_iff.1 hb
  apply Location.bytes_lt_of_compare
  rw [← Location.compare_append here]
  exact hlt

/-! ### Traversals -/

/-- The names of the entries of a directory, in the order of their bytes. -/
structure Lists (disk : Disk) (here : Location) (names : List Text) : Prop where
  mem_iff : ∀ name, name ∈ names ↔ (disk.find? (here ++ [name])).isSome
  sorted : names.Pairwise fun a b => Text.encode a < Text.encode b

/-- What a traversal comes by below a directory, as it takes some names in it one by one.  A
directory is visited before its entries. -/
inductive Traverses (disk : Disk) : Location → List Text → List (Location × Entry) → Prop where
  | done {here : Location} : Traverses disk here [] []
  | file {here : Location} {name : Text} {names : List Text} {content : Text.Bytes}
      {items : List (Location × Entry)}
      (entry : disk.find? (here ++ [name]) = some (.file content))
      (rest : Traverses disk here names items) :
      Traverses disk here (name :: names) (([name], .file content) :: items)
  | directory {here : Location} {name : Text} {names inside : List Text}
      {inner items : List (Location × Entry)}
      (entry : disk.find? (here ++ [name]) = some .directory)
      (lists : disk.Lists (here ++ [name]) inside)
      (entries : Traverses disk (here ++ [name]) inside inner)
      (rest : Traverses disk here names items) :
      Traverses disk here (name :: names)
        (([name], .directory) :: inner.map (fun item => (name :: item.1, item.2)) ++ items)

theorem Traverses.mem_iff (h : Traverses disk here names items) :
    (location, entry) ∈ items ↔
      ∃ name rest, location = name :: rest ∧ name ∈ names ∧
        disk.find? (here ++ location) = some entry := by
  induction h generalizing location entry with
  | done => simp
  | @file here name names content items hf rest ih =>
      rw [List.mem_cons, ih]
      constructor
      · rintro (h | ⟨first, rest, hl, hm, hentry⟩)
        · cases h
          exact ⟨name, [], rfl, List.mem_cons_self, hf⟩
        · exact ⟨first, rest, hl, List.mem_cons_of_mem name hm, hentry⟩
      · rintro ⟨first, rest, rfl, hm, hentry⟩
        rcases List.mem_cons.1 hm with rfl | hm
        · -- Nothing lies below a file.
          cases rest with
          | nil =>
              rw [hf] at hentry
              cases hentry
              exact .inl rfl
          | cons next rest =>
              rw [List.append_cons] at hentry
              have hd := find?_of_append hentry (by simp)
              rw [hf] at hd
              cases hd
        · exact .inr ⟨first, rest, rfl, hm, hentry⟩
  | @directory here name names inside inner items hd lists entries rest ihe ihr =>
      have hinner : (location, entry) ∈ inner.map (fun item => (name :: item.1, item.2)) ↔
          ∃ next rest, location = name :: next :: rest ∧
            disk.find? (here ++ location) = some entry := by
        constructor
        · intro hm
          obtain ⟨⟨below, found⟩, hb, heq⟩ := List.mem_map.1 hm
          obtain ⟨next, rest, rfl, -, hentry⟩ := ihe.1 hb
          cases heq
          exact ⟨next, rest, rfl, by simpa using hentry⟩
        · rintro ⟨next, rest, rfl, hentry⟩
          rw [List.append_cons] at hentry
          have hnext := (lists.mem_iff next).2 (isSome_find?_of_below hentry)
          exact List.mem_map.2
            ⟨(next :: rest, entry), ihe.2 ⟨next, rest, rfl, hnext, hentry⟩, rfl⟩
      rw [List.cons_append, List.mem_cons, List.mem_append, hinner, ihr]
      constructor
      · rintro (h | ⟨next, rest, hl, hentry⟩ | ⟨first, rest, hl, hm, hentry⟩)
        · cases h
          exact ⟨name, [], rfl, List.mem_cons_self, hd⟩
        · exact ⟨name, next :: rest, hl, List.mem_cons_self, hentry⟩
        · exact ⟨first, rest, hl, List.mem_cons_of_mem name hm, hentry⟩
      · rintro ⟨first, rest, rfl, hm, hentry⟩
        rcases List.mem_cons.1 hm with rfl | hm
        · cases rest with
          | nil =>
              rw [hd] at hentry
              cases hentry
              exact .inl rfl
          | cons next rest => exact .inr (.inl ⟨next, rest, rfl, hentry⟩)
        · exact .inr (.inr ⟨first, rest, rfl, hm, hentry⟩)

theorem isBefore_of_encode_lt {a b : Text} {before after : Location} {first last : Entry}
    (h : Text.encode a < Text.encode b) : IsBefore (a :: before, first) (b :: after, last) :=
  List.cons_lt_cons_iff.2 (.inl h)

theorem Traverses.sorted (h : Traverses disk here names items)
    (hs : names.Pairwise fun a b => Text.encode a < Text.encode b) : items.Pairwise IsBefore := by
  have hlater {name : Text} {names : List Text} {here : Location}
      {items : List (Location × Entry)} (hr : Traverses disk here names items)
      (hn : ∀ other ∈ names, Text.encode name < Text.encode other) (below : Location)
      (entry : Entry) : ∀ item ∈ items, IsBefore (name :: below, entry) item := by
    rintro ⟨location, found⟩ hm
    obtain ⟨other, rest, rfl, ho, -⟩ := hr.mem_iff.1 hm
    exact isBefore_of_encode_lt (hn other ho)
  induction h with
  | done => exact List.Pairwise.nil
  | @file here name names content items hf rest ih =>
      obtain ⟨hn, hs⟩ := List.pairwise_cons.1 hs
      exact List.pairwise_cons.2 ⟨hlater rest hn [] _, ih hs⟩
  | @directory here name names inside inner items hd lists entries rest ihe ihr =>
      obtain ⟨hn, hs⟩ := List.pairwise_cons.1 hs
      rw [List.cons_append, List.pairwise_cons, List.pairwise_append, List.pairwise_map]
      refine ⟨?_, ?_, ihr hs, ?_⟩
      · intro item hm
        rcases List.mem_append.1 hm with hm | hm
        · obtain ⟨⟨below, found⟩, hb, rfl⟩ := List.mem_map.1 hm
          obtain ⟨next, rest, rfl, -⟩ := entries.mem_iff.1 hb
          exact List.cons_lt_cons_iff.2 (.inr ⟨rfl, List.nil_lt_cons _ _⟩)
        · exact hlater rest hn [] _ item hm
      · exact (ihe lists.sorted).imp fun hlt => List.cons_lt_cons_iff.2 (.inr ⟨rfl, hlt⟩)
      · intro item hi
        obtain ⟨⟨below, found⟩, -, rfl⟩ := List.mem_map.1 hi
        exact hlater rest hn below found

/-- A traversal of a whole directory comes by what the disk lists below it, in the same order. -/
theorem Traverses.eq_below (h : Traverses disk here names items) (hl : disk.Lists here names) :
    items = disk.below here := by
  refine (h.sorted hl.sorted).eq_of_mem_iff (sorted_below disk here) ?_
  rintro ⟨location, entry⟩
  rw [h.mem_iff, mem_below_iff]
  constructor
  · rintro ⟨name, rest, rfl, -, hentry⟩
    exact ⟨by simp, hentry⟩
  · rintro ⟨hne, hentry⟩
    obtain ⟨name, rest, rfl⟩ := List.exists_cons_of_ne_nil hne
    exact ⟨name, rest, rfl, (hl.mem_iff name).2 (isSome_find?_of_below hentry), hentry⟩

/-- The name of an item that lies in the directory itself. -/
def single? (item : Location × Entry) : Option Text :=
  if item.1.length = 1 then item.1.head? else none

theorem single?_eq_some_iff {item : Location × Entry} :
    single? item = some name ↔ item.1 = [name] := by
  obtain ⟨_ | ⟨first, _ | ⟨next, rest⟩⟩, entry⟩ := item <;> simp [single?]

theorem exists_lists (disk : Disk) (here : Location) : ∃ names, disk.Lists here names := by
  refine ⟨(disk.below here).filterMap single?, ?_, ?_⟩
  · intro name
    rw [List.mem_filterMap]
    constructor
    · rintro ⟨⟨location, entry⟩, hm, hs⟩
      obtain rfl : location = [name] := single?_eq_some_iff.1 hs
      exact isSome_find?_of_below (mem_below_iff.1 hm).2
    · intro h
      obtain ⟨entry, he⟩ := Option.isSome_iff_exists.1 h
      exact ⟨([name], entry), mem_below_iff.2 ⟨by simp, he⟩, single?_eq_some_iff.2 rfl⟩
  · refine (sorted_below disk here).filterMap _ ?_
    intro first last hlt a ha b hb
    rw [IsBefore, single?_eq_some_iff.1 ha, single?_eq_some_iff.1 hb] at hlt
    rcases List.cons_lt_cons_iff.1 hlt with h | ⟨-, h⟩
    · exact h
    · exact absurd h (List.lt_irrefl _)

theorem exists_length_le (disk : Disk) :
    ∃ depth, ∀ location entry, disk.find? location = some entry → location.length ≤ depth := by
  refine ⟨((disk.below []).map fun item => item.1.length).sum, ?_⟩
  intro location entry he
  cases location with
  | nil => exact Nat.zero_le _
  | cons name rest =>
      have hm : (name :: rest, entry) ∈ disk.below [] := mem_below_iff.2 ⟨by simp, he⟩
      exact List.le_sum_of_mem (List.mem_map_of_mem hm)

/-- A directory is traversed within as many rounds as directories are nested in it. -/
theorem exists_traverses_of_length_le (depth : Nat)
    (hd : ∀ location entry, disk.find? (here ++ location) = some entry → location.length ≤ depth)
    (hn : ∀ name ∈ names, (disk.find? (here ++ [name])).isSome) :
    ∃ items, Traverses disk here names items := by
  -- The induction on the depth goes into a directory, the one on its names goes along them.
  induction depth generalizing here names with
  | zero =>
      cases names with
      | nil => exact ⟨[], .done⟩
      | cons name names =>
          obtain ⟨entry, he⟩ := Option.isSome_iff_exists.1 (hn name List.mem_cons_self)
          exact absurd (hd [name] entry he) (by simp)
  | succ depth ih =>
      induction names with
      | nil => exact ⟨[], .done⟩
      | cons name names ihn =>
          obtain ⟨items, rest⟩ := ihn fun other ho => hn other (List.mem_cons_of_mem name ho)
          obtain ⟨entry, he⟩ := Option.isSome_iff_exists.1 (hn name List.mem_cons_self)
          cases entry with
          | file content => exact ⟨_, .file he rest⟩
          | directory =>
              obtain ⟨inside, hi⟩ := exists_lists disk (here ++ [name])
              have hdeeper (location : Location) (entry : Entry)
                  (h : disk.find? (here ++ [name] ++ location) = some entry) :
                  location.length ≤ depth := by
                rw [← List.append_cons] at h
                exact Nat.le_of_succ_le_succ (hd (name :: location) entry h)
              obtain ⟨inner, hinner⟩ := ih hdeeper fun other ho => (hi.mem_iff other).1 ho
              exact ⟨_, .directory he hi hinner rest⟩

/-- The items below a directory are what its traversal comes by. -/
theorem exists_traverses_below (disk : Disk) (here : Location) :
    ∃ names, disk.Lists here names ∧ Traverses disk here names (disk.below here) := by
  obtain ⟨depth, hd⟩ := exists_length_le disk
  obtain ⟨names, hn⟩ := exists_lists disk here
  have hbelow (location : Location) (entry : Entry)
      (h : disk.find? (here ++ location) = some entry) : location.length ≤ depth := by
    have hlength := hd _ entry h
    rw [List.length_append] at hlength
    omega
  obtain ⟨items, ht⟩ := exists_traverses_of_length_le depth hbelow fun name hm =>
    (hn.mem_iff name).1 hm
  refine ⟨names, hn, ?_⟩
  rw [← ht.eq_below hn]
  exact ht

end Disk

end GoStubs
