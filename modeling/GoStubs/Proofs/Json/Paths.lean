import GoStubs.Proofs.Json.Parts

/-!
# Paths that are read back

A path is cut in front of its dots and opening brackets.  If no key is empty or has one of these
characters, this gives back the steps from which the path was put together.  So no two leaves share
a path, and every path leads to its leaf.
-/

namespace GoStubs

namespace Json

/-- A key that ends in a path where its characters do. -/
def IsPlainKey (key : Text) : Prop := key ≠ [] ∧ '.' ∉ key ∧ '[' ∉ key

instance (key : Text) : Decidable (IsPlainKey key) := inferInstanceAs (Decidable (_ ∧ _ ∧ _))

/-- Whether all keys in a value are plain. -/
def HasPlainKeys : Json → Prop := Everywhere fun value => ∀ key ∈ value.keys, IsPlainKey key

/-- A path in front of its first dot or bracket, and the steps behind that. -/
def cutPath : Text → Text × List Step
  | [] => ([], [])
  | c :: rest =>
    let (word, steps) := cutPath rest
    if c = '.' then ([], .field word :: steps)
    else if c = '[' then ([], .item (Text.decimal word.dropLast) :: steps)
    else (c :: word, steps)

/-- The steps of a path; its first key has no dot in front of it. -/
def stepsOf (path : Text) : List Step :=
  match cutPath path with
  | ([], steps) => steps
  | (key, steps) => .field key :: steps

/-- The part of a value to which a path leads. -/
def follow? (value : Json) (path : Text) : Option Json := value.part? (stepsOf path)

/-- Steps whose keys are plain. -/
def ArePlain (steps : List Step) : Prop := ∀ key, .field key ∈ steps → IsPlainKey key

variable {value : Json} {steps : List Step} {word rest : Text}

theorem cutPath_append (hdot : '.' ∉ word) (hbracket : '[' ∉ word) (rest : Text) :
    cutPath (word ++ rest) = (word ++ (cutPath rest).1, (cutPath rest).2) := by
  induction word with
  | nil => rfl
  | cons c word ih =>
      rw [List.mem_cons, not_or] at hdot hbracket
      rw [List.cons_append, cutPath, ih hdot.2 hbracket.2]
      simp only [Ne.symm hdot.1, Ne.symm hbracket.1, if_false]
      rfl

theorem decimal_toDigits (n : Nat) : Text.decimal (Nat.toDigits 10 n) = n :=
  Nat.ofDigitChars_toDigits (by decide) (by decide)

theorem not_mem_toDigits {c : Char} (h : c.isDigit = false) (n : Nat) : c ∉ Nat.toDigits 10 n := by
  intro hm
  rw [Nat.isDigit_of_mem_toDigits (by decide) (by decide) hm] at h
  cases h

theorem cutPath_text (h : ArePlain steps) : cutPath (steps.flatMap Step.text) = ([], steps) := by
  induction steps with
  | nil => rfl
  | cons step rest ih =>
      have hrest : cutPath (rest.flatMap Step.text) = ([], rest) :=
        ih fun key hk => h key (List.mem_cons_of_mem _ hk)
      rw [List.flatMap_cons]
      cases step with
      | field key =>
          obtain ⟨-, hdot, hbracket⟩ := h key List.mem_cons_self
          rw [Step.text, List.cons_append, cutPath, cutPath_append hdot hbracket, hrest]
          simp
      | item index =>
          have hword {c : Char} (hc : c.isDigit = false) (hclose : c ∉ [']']) :
              c ∉ Nat.toDigits 10 index ++ [']'] :=
            mt List.mem_append.1 (not_or.2 ⟨not_mem_toDigits hc index, hclose⟩)
          have hdot := hword (c := '.') (by decide) (by decide)
          have hbracket := hword (c := '[') (by decide) (by decide)
          rw [Step.text, List.cons_append, List.cons_append, cutPath,
            cutPath_append hdot hbracket, hrest]
          simp [decimal_toDigits]

theorem stepsOf_address (h : ArePlain steps) : stepsOf (address steps) = steps := by
  cases steps with
  | nil => rfl
  | cons step rest =>
      have hrest : ArePlain rest := fun key hk => h key (List.mem_cons_of_mem _ hk)
      cases step with
      | field key =>
          obtain ⟨hkey, hdot, hbracket⟩ := h key List.mem_cons_self
          rw [stepsOf, address, Step.first, cutPath_append hdot hbracket, cutPath_text hrest,
            List.append_nil]
          cases key with
          | nil => exact absurd rfl hkey
          | cons c key => rfl
      | item index =>
          have haddress : address (.item index :: rest) =
              (Step.item index :: rest).flatMap Step.text := rfl
          rw [stepsOf, haddress, cutPath_text h]

/-! ### Addresses of leaves -/

theorem Step.first_ne_nil {step : Step} (h : ArePlain [step]) : step.first ≠ [] := by
  cases step with
  | field key => exact (h key List.mem_cons_self).1
  | item index => exact List.cons_ne_nil _ _

theorem foldl_extend_of_arePlain (h : ArePlain steps) :
    steps.foldl Step.extend [] = address steps := by
  cases steps with
  | nil => rfl
  | cons step rest =>
      apply foldl_extend_nil
      apply Step.first_ne_nil
      intro key hk
      exact h key (List.mem_singleton.1 hk ▸ List.mem_cons_self)

theorem key_mem_keys {key : Text} {part : Json} (h : (.field key, part) ∈ value.members) :
    key ∈ value.keys := by
  cases value with
  | object fields =>
      obtain ⟨field, hfield, heq⟩ := List.mem_map.1 h
      cases heq
      exact List.mem_map.2 ⟨field, hfield, rfl⟩
  | array items =>
      obtain ⟨item, -, heq⟩ := List.mem_map.1 h
      cases heq
  | _ => cases h

theorem arePlain_of_mem_routes (h : value.HasPlainKeys) :
    ∀ route ∈ value.routes, ArePlain route.1 := by
  induction h with
  | intro value hkeys _ ih =>
      intro route hroute key hkey
      by_cases hleaf : value.IsLeaf
      · rw [routes_of_isLeaf hleaf, List.mem_singleton] at hroute
        rw [hroute] at hkey
        cases hkey
      · obtain ⟨⟨step, part⟩, hmember, inner, hinner, rfl⟩ :=
          (mem_routes_of_not_isLeaf hleaf).1 hroute
        rcases List.mem_cons.1 hkey with rfl | hkey
        · exact hkeys key (key_mem_keys hmember)
        · exact ih _ hmember inner hinner key hkey

theorem Step.not_isBefore_self (step : Step) : ¬ step.IsBefore step := by
  cases step with
  | field key => exact List.lt_irrefl _
  | item index => exact Nat.lt_irrefl index

/-- Entries that stand for the leaves of a value, in the order of the keys and items that lead to
them. -/
structure Addresses (value : Json) (entries : List (Text × Json)) : Prop where
  leaves : ∃ routes : List Route,
    entries = routes.map (fun route => (address route.1, route.2)) ∧
    (∀ route, route ∈ routes ↔ value.part? route.1 = some route.2 ∧ route.2.IsLeaf) ∧
    routes.Pairwise fun a b => List.Lex Step.IsBefore a.1 b.1
  distinct : (entries.map Prod.fst).Nodup
  follow : ∀ entry ∈ entries, value.follow? entry.1 = some entry.2 ∧ entry.2.IsLeaf

theorem leaves_sorted_eq (hplain : value.HasPlainKeys) (hdistinct : value.HasDistinctKeys) :
    value.sorted.leaves [] =
      value.sorted.routes.map fun route => (address route.1, route.2) := by
  rw [leaves_eq]
  apply List.map_congr_left
  intro route hroute
  rw [mem_routes_sorted hdistinct] at hroute
  rw [foldl_extend_of_arePlain (arePlain_of_mem_routes hplain route hroute)]

theorem addresses_leaves (hplain : value.HasPlainKeys) (hdistinct : value.HasDistinctKeys) :
    value.Addresses (value.sorted.leaves []) := by
  have hmem {route : Route} : route ∈ value.sorted.routes ↔
      value.part? route.1 = some route.2 ∧ route.2.IsLeaf :=
    (mem_routes_sorted hdistinct).trans (mem_routes_iff hdistinct)
  have hread {route : Route} (h : route ∈ value.sorted.routes) :
      stepsOf (address route.1) = route.1 :=
    stepsOf_address (arePlain_of_mem_routes hplain route ((mem_routes_sorted hdistinct).1 h))
  have horder := pairwise_routes_sorted hdistinct
  rw [leaves_sorted_eq hplain hdistinct]
  refine ⟨⟨_, rfl, fun route => hmem, horder⟩, ?_, ?_⟩
  · rw [List.map_map, List.Nodup, List.pairwise_map]
    refine horder.imp_of_mem fun {a b} ha hb hbefore heq => ?_
    have hsteps : a.1 = b.1 := by
      rw [← hread ha, ← hread hb]
      exact congrArg stepsOf heq
    rw [hsteps] at hbefore
    exact List.lex_irrefl Step.not_isBefore_self _ hbefore
  · rintro _ hentry
    obtain ⟨route, hroute, rfl⟩ := List.mem_map.1 hentry
    rw [follow?, hread hroute]
    exact hmem.1 hroute

/-! ### Readable keys -/

/-- Whether paths can be read back in a value. -/
def HasReadableKeys (value : Json) : Prop := value.HasPlainKeys ∧ value.HasDistinctKeys

theorem hasReadableKeys_of_isLeaf (h : value.IsLeaf) : HasReadableKeys value := by
  have hmembers : value.members = [] := isLeaf_iff.1 h
  have hkeys : value.keys = [] := by
    cases value with
    | object fields =>
        obtain rfl : fields = [] := h
        rfl
    | _ => rfl
  constructor
  · refine .intro value (by rw [hkeys]; exact List.forall_mem_nil _) ?_
    rw [hmembers]
    exact List.forall_mem_nil _
  · refine .intro value (by rw [hkeys]; exact .nil) ?_
    rw [hmembers]
    exact List.forall_mem_nil _

theorem hasReadableKeys_array {items : List Json} (h : ∀ item ∈ items, HasReadableKeys item) :
    HasReadableKeys (.array items) := by
  have hmember : ∀ member ∈ (array items).members, HasReadableKeys member.2 := by
    intro member hm
    obtain ⟨⟨item, index⟩, hitem, rfl⟩ := List.mem_map.1 hm
    exact h item (List.fst_mem_of_mem_zipIdx hitem)
  exact ⟨.intro _ (List.forall_mem_nil _) fun member hm => (hmember member hm).1,
    .intro _ .nil fun member hm => (hmember member hm).2⟩

theorem hasReadableKeys_object {fields : List (Text × Json)} (keys : List Text)
    (hfields : fields.map Prod.fst = keys) (hkeys : (∀ key ∈ keys, IsPlainKey key) ∧ keys.Nodup)
    (h : ∀ field ∈ fields, HasReadableKeys field.2) : HasReadableKeys (.object fields) := by
  subst hfields
  have hmember : ∀ member ∈ (object fields).members, HasReadableKeys member.2 := by
    intro member hm
    obtain ⟨field, hfield, rfl⟩ := List.mem_map.1 hm
    exact h field hfield
  exact ⟨.intro _ hkeys.1 fun member hm => (hmember member hm).1,
    .intro _ hkeys.2 fun member hm => (hmember member hm).2⟩

/-- An object of leaves. -/
theorem hasReadableKeys_record {fields : List (Text × Json)} (keys : List Text)
    (hfields : fields.map Prod.fst = keys) (hkeys : (∀ key ∈ keys, IsPlainKey key) ∧ keys.Nodup)
    (h : ∀ field ∈ fields, field.2.IsLeaf) : HasReadableKeys (.object fields) :=
  hasReadableKeys_object keys hfields hkeys fun field hf => hasReadableKeys_of_isLeaf (h field hf)

end Json

end GoStubs
