import GoStubs.Proofs.Json.Leaves
import GoStubs.Proofs.Text.Order

/-!
# The parts of a value

A value has members, each one behind a step, and the leaves are the parts without members.  If all
objects have each of their keys once, the routes of a value are exactly its ways to leaves, and
those of the sorted value come in the order of their steps.
-/

namespace GoStubs.Json

/-- The items of an array and the fields of an object, each with the step to it. -/
def members : Json → List (Step × Json)
  | .array items => items.zipIdx.map fun (item, index) => (.item index, item)
  | .object fields => fields.map fun (key, value) => (.field key, value)
  | _ => []

/-- A scalar, an empty array or an empty object. -/
def IsLeaf : Json → Prop
  | .array items => items = []
  | .object fields => fields = []
  | _ => True

/-- The part of a value that a step leads to. -/
def Step.enter? : Step → Json → Option Json
  | .field key, .object fields => fields.lookup key
  | .item index, .array items => items[index]?
  | _, _ => none

/-- The part of a value that steps lead to. -/
def part? (value : Json) : List Step → Option Json
  | [] => some value
  | step :: rest => (step.enter? value).bind (part? · rest)

/-- Whether a value and all its parts have a property. -/
inductive Everywhere (p : Json → Prop) : Json → Prop
  | intro (value : Json) : p value → (∀ member ∈ value.members, Everywhere p member.2) →
    Everywhere p value

/-- Whether no object in a value has a key twice. -/
def HasDistinctKeys : Json → Prop := Everywhere fun value => value.keys.Nodup

/-- The order of siblings: keys by their bytes, items by their positions. -/
def Step.IsBefore : Step → Step → Prop
  | .field first, .field second => Text.encode first < Text.encode second
  | .item first, .item second => first < second
  | _, _ => False

variable {value part : Json} {route : Route} {step : Step} {fields : List (Text × Json)}

/-! ### Members -/

theorem isLeaf_iff : value.IsLeaf ↔ value.members = [] := by
  cases value <;> simp [IsLeaf, members]

theorem sorted_of_isLeaf (h : value.IsLeaf) : value.sorted = value := by
  cases value with
  | array items =>
      obtain rfl : items = [] := h
      rfl
  | object fields =>
      obtain rfl : fields = [] := h
      simp [sorted, sortedFields, sortFields]
  | _ => rfl

/-- A key that comes once finds its own field. -/
theorem lookup_eq_some_iff_mem {key : Text} (h : (fields.map Prod.fst).Nodup) :
    fields.lookup key = some value ↔ (key, value) ∈ fields := by
  induction fields with
  | nil => simp
  | cons field rest ih =>
      obtain ⟨first, inner⟩ := field
      rw [List.map_cons, List.nodup_cons] at h
      by_cases hkey : key = first
      · subst hkey
        have hrest : (key, value) ∉ rest := fun hm => h.1 (List.mem_map.2 ⟨_, hm, rfl⟩)
        simp [hrest, eq_comm]
      · rw [List.lookup_cons, beq_eq_false_iff_ne.2 hkey]
        simp [ih h.2, hkey]

theorem enter?_eq_some_iff (h : value.keys.Nodup) :
    step.enter? value = some part ↔ (step, part) ∈ value.members := by
  cases value with
  | array items =>
      cases step <;> simp [Step.enter?, members, List.mem_zipIdx_iff_getElem?]
  | object fields =>
      have hlookup (key : Text) : fields.lookup key = some part ↔ (key, part) ∈ fields :=
        lookup_eq_some_iff_mem h
      cases step <;> simp [Step.enter?, members, hlookup]
  | _ => cases step <;> simp [Step.enter?, members]

theorem sortedItems_eq (items : List Json) : sortedItems items = items.map sorted := by
  induction items with
  | nil => rfl
  | cons item rest ih => rw [sortedItems, ih, List.map_cons]

theorem sortedFields_eq (fields : List (Text × Json)) :
    sortedFields fields = fields.map fun field => (field.1, field.2.sorted) := by
  induction fields with
  | nil => rfl
  | cons field rest ih => rw [sortedFields, ih, List.map_cons]

/-- Sorting a value sorts its members, in both senses. -/
theorem members_sorted (value : Json) :
    value.sorted.members.Perm (value.members.map fun member => (member.1, member.2.sorted)) := by
  cases value with
  | array items =>
      rw [sorted, members, members, sortedItems_eq, List.zipIdx_map, List.map_map, List.map_map]
      exact .refl _
  | object fields =>
      rw [sorted, members, members, sortedFields_eq, List.map_map]
      refine ((List.mergeSort_perm _ _).map _).trans ?_
      rw [List.map_map]
      exact .refl _
  | _ => exact .refl _

theorem isLE_or_isLE (a b : Text) : ((compare a b).isLE || (compare b a).isLE) = true := by
  have hswap : compare b a = (compare a b).swap := Std.OrientedCmp.eq_swap
  rw [hswap]
  cases compare a b <;> rfl

theorem pairwise_sortFields (h : (fields.map Prod.fst).Nodup) :
    (sortFields fields).Pairwise fun a b => Text.encode a.1 < Text.encode b.1 := by
  have hle : (sortFields fields).Pairwise fun a b => (compare a.1 b.1).isLE :=
    List.pairwise_mergeSort (fun _ _ _ => Std.TransCmp.isLE_trans)
      (fun a b => isLE_or_isLE a.1 b.1) fields
  have hne : (sortFields fields).Pairwise fun a b => a.1 ≠ b.1 :=
    List.pairwise_map.1 (((List.mergeSort_perm fields _).map Prod.fst).nodup_iff.2 h)
  refine (hle.and hne).imp fun {a b} hab => Text.encode_lt_of_compare ?_
  rcases hc : compare a.1 b.1 with _ | _ | _
  · rfl
  · exact absurd (Std.LawfulEqCmp.eq_of_compare hc) hab.2
  · rw [hc] at hab
    exact absurd hab.1 Bool.false_ne_true

theorem pairwise_members_sorted (h : value.keys.Nodup) :
    value.sorted.members.Pairwise fun a b => a.1.IsBefore b.1 := by
  cases value with
  | array items =>
      have hindex : (sortedItems items).zipIdx.Pairwise fun a b => a.2 < b.2 := by
        rw [← List.pairwise_map (f := Prod.snd), List.zipIdx_map_snd]
        exact List.pairwise_lt_range'
      rw [sorted, members, List.pairwise_map]
      exact hindex
  | object fields =>
      rw [keys, ← map_fst_sortedFields] at h
      rw [sorted, members, List.pairwise_map]
      exact pairwise_sortFields h
  | _ => exact .nil

/-! ### Routes -/

theorem itemRoutes_eq (items : List Json) (start : Nat) :
    itemRoutes start items = (items.zipIdx start).flatMap fun (item, index) =>
      item.routes.map (Route.under (.item index)) := by
  induction items generalizing start with
  | nil => rfl
  | cons item rest ih => rw [itemRoutes, ih, List.zipIdx_cons, List.flatMap_cons]

theorem fieldRoutes_eq (fields : List (Text × Json)) :
    fieldRoutes fields = fields.flatMap fun (key, value) =>
      value.routes.map (Route.under (.field key)) := by
  induction fields with
  | nil => rfl
  | cons field rest ih => rw [fieldRoutes, ih, List.flatMap_cons]

theorem routes_of_isLeaf (h : value.IsLeaf) : value.routes = [([], value)] := by
  cases value with
  | array items =>
      obtain rfl : items = [] := h
      rw [routes]
      all_goals nofun
  | object fields =>
      obtain rfl : fields = [] := h
      rw [routes]
      all_goals nofun
  | _ => rfl

theorem routes_of_not_isLeaf (h : ¬ value.IsLeaf) : value.routes =
    value.members.flatMap fun member => member.2.routes.map (Route.under member.1) := by
  cases value with
  | array items =>
      obtain ⟨item, rest, rfl⟩ := List.exists_cons_of_ne_nil h
      rw [routes, itemRoutes_eq, members, List.flatMap_map]
  | object fields =>
      obtain ⟨field, rest, rfl⟩ := List.exists_cons_of_ne_nil h
      rw [routes, fieldRoutes_eq, members, List.flatMap_map]
  | _ => exact absurd trivial h

theorem mem_routes_of_not_isLeaf (h : ¬ value.IsLeaf) : route ∈ value.routes ↔
    ∃ member ∈ value.members, ∃ inner ∈ member.2.routes, inner.under member.1 = route := by
  simp only [routes_of_not_isLeaf h, List.mem_flatMap, List.mem_map]

theorem nil_not_mem_routes (h : ¬ value.IsLeaf) (leaf : Json) : ([], leaf) ∉ value.routes := by
  rw [mem_routes_of_not_isLeaf h]
  rintro ⟨member, -, inner, -, hunder⟩
  cases hunder

theorem mem_routes_cons (h : ¬ value.IsLeaf) {rest : List Step} {leaf : Json} :
    (step :: rest, leaf) ∈ value.routes ↔
      ∃ part, (step, part) ∈ value.members ∧ (rest, leaf) ∈ part.routes := by
  rw [mem_routes_of_not_isLeaf h]
  constructor
  · rintro ⟨member, hmember, inner, hinner, hunder⟩
    cases hunder
    exact ⟨member.2, hmember, hinner⟩
  · rintro ⟨part, hmember, hinner⟩
    exact ⟨(step, part), hmember, (rest, leaf), hinner, rfl⟩

theorem part?_of_isLeaf (h : value.IsLeaf) (step : Step) (rest : List Step) :
    value.part? (step :: rest) = none := by
  cases value with
  | array items =>
      obtain rfl : items = [] := h
      cases step <;> rfl
  | object fields =>
      obtain rfl : fields = [] := h
      cases step <;> rfl
  | _ => cases step <;> rfl

/-- The routes are the ways to leaves. -/
theorem mem_routes_iff (h : value.HasDistinctKeys) :
    route ∈ value.routes ↔ value.part? route.1 = some route.2 ∧ route.2.IsLeaf := by
  induction h generalizing route with
  | intro value hkeys _ ih =>
      obtain ⟨steps, leaf⟩ := route
      by_cases hleaf : value.IsLeaf
      · rw [routes_of_isLeaf hleaf, List.mem_singleton, Prod.mk.injEq]
        cases steps with
        | nil =>
            rw [part?, Option.some.injEq]
            constructor
            · rintro ⟨-, rfl⟩
              exact ⟨rfl, hleaf⟩
            · exact fun h => ⟨rfl, h.1.symm⟩
        | cons step rest => simp [part?_of_isLeaf hleaf]
      · cases steps with
        | nil =>
            refine iff_of_false (nil_not_mem_routes hleaf leaf) ?_
            rintro ⟨hself, hend⟩
            cases hself
            exact hleaf hend
        | cons step rest =>
            rw [mem_routes_cons hleaf]
            simp only [part?, Option.bind_eq_some_iff, enter?_eq_some_iff hkeys]
            constructor
            · rintro ⟨part, hmember, hinner⟩
              obtain ⟨hpart, hend⟩ := (ih _ hmember).1 hinner
              exact ⟨⟨part, hmember, hpart⟩, hend⟩
            · rintro ⟨⟨part, hmember, hpart⟩, hend⟩
              exact ⟨part, hmember, (ih _ hmember).2 ⟨hpart, hend⟩⟩

theorem isLeaf_sorted_iff : value.sorted.IsLeaf ↔ value.IsLeaf := by
  rw [isLeaf_iff, isLeaf_iff, ← List.length_eq_zero_iff, (members_sorted value).length_eq,
    List.length_map, List.length_eq_zero_iff]

theorem mem_routes_sorted (h : value.HasDistinctKeys) :
    route ∈ value.sorted.routes ↔ route ∈ value.routes := by
  induction h generalizing route with
  | intro value _ _ ih =>
      by_cases hleaf : value.IsLeaf
      · rw [sorted_of_isLeaf hleaf]
      · rw [mem_routes_of_not_isLeaf hleaf, mem_routes_of_not_isLeaf (mt isLeaf_sorted_iff.1 hleaf)]
        simp only [(members_sorted value).mem_iff, List.mem_map, exists_exists_and_eq_and]
        refine exists_congr fun member => and_congr_right fun hmember => ?_
        exact exists_congr fun inner => and_congr_left fun _ => ih member hmember

/-- The routes of a sorted value come in the order of their steps. -/
theorem pairwise_routes_sorted (h : value.HasDistinctKeys) :
    value.sorted.routes.Pairwise fun a b => List.Lex Step.IsBefore a.1 b.1 := by
  induction h with
  | intro value hkeys _ ih =>
      by_cases hleaf : value.IsLeaf
      · rw [sorted_of_isLeaf hleaf, routes_of_isLeaf hleaf]
        exact List.pairwise_singleton _ _
      · rw [routes_of_not_isLeaf (mt isLeaf_sorted_iff.1 hleaf), List.pairwise_flatMap]
        constructor
        · intro member hmember
          obtain ⟨part, hpart, rfl⟩ := List.mem_map.1 ((members_sorted value).mem_iff.1 hmember)
          rw [List.pairwise_map]
          exact (ih part hpart).imp .cons
        · refine (pairwise_members_sorted hkeys).imp fun hbefore first hfirst second hsecond => ?_
          obtain ⟨_, -, rfl⟩ := List.mem_map.1 hfirst
          obtain ⟨_, -, rfl⟩ := List.mem_map.1 hsecond
          exact .rel hbefore

end GoStubs.Json
