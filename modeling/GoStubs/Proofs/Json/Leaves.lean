import GoStubs.Proofs.Json.Texts
import GoStubs.Proofs.Text.Lines

/-!
# The lines of a plain text

The plain text of a value has an entry for each leaf: the address of the leaf, a colon and its text.
Entries are not lines.  A key or a string with newlines spreads its entries over several lines, and
below a key of the whole object that is empty, addresses lose their first separator.
-/

namespace GoStubs.Json

open Text (lines)

/-- A step from a value to a part of it. -/
inductive Step
  | field (key : Text)
  | item (index : Nat)
  deriving DecidableEq, Repr

/-- A leaf of a value, with the steps that lead to it. -/
abbrev Route := List Step × Json

def Route.under (step : Step) (route : Route) : Route := (step :: route.1, route.2)

mutual

/-- The routes to the leaves of a value, depth first. -/
def routes : Json → List Route
  | .array (item :: rest) => itemRoutes 0 (item :: rest)
  | .object (field :: rest) => fieldRoutes (field :: rest)
  | leaf => [([], leaf)]

def itemRoutes (index : Nat) : List Json → List Route
  | [] => []
  | item :: rest => item.routes.map (Route.under (.item index)) ++ itemRoutes (index + 1) rest

def fieldRoutes : List (Text × Json) → List Route
  | [] => []
  | (key, value) :: rest => value.routes.map (Route.under (.field key)) ++ fieldRoutes rest

end

namespace Step

/-- The characters of a step that come from outside. -/
def key : Step → Text
  | .field key => key
  | .item _ => []

/-- A step behind another one. -/
def text : Step → Text
  | .field key => '.' :: key
  | .item index => '[' :: Nat.toDigits 10 index ++ [']']

/-- A step at the start of an address. -/
def first : Step → Text
  | .field key => key
  | .item index => (item index).text

/-- The path of a part, from the path of the whole. -/
def extend (path : Text) : Step → Text
  | .field key => fieldPath path key
  | .item index => itemPath path index

end Step

/-- The address of a part: keys are joined with dots, positions stand in brackets. -/
def address : List Step → Text
  | [] => []
  | step :: rest => step.first ++ rest.flatMap Step.text

namespace Route

variable {route : Route}

/-- The line of a leaf. -/
def line (route : Route) : Text :=
  if route.1 = [] then route.2.leafText else address route.1 ++ ':' :: ' ' :: route.2.leafText

/-- What is written for a leaf. -/
def entry (route : Route) : Text := entryText (route.1.foldl Step.extend []) route.2

/-- A route on which an empty first key is not seen: no brackets follow it. -/
def SkipsKey (route : Route) : Prop :=
  ∃ rest, route.1 = .field [] :: rest ∧ ∀ index, rest.head? ≠ some (.item index)

/-- A route without newlines. -/
def IsOneLine (route : Route) : Prop :=
  (∀ step ∈ route.1, '\n' ∉ step.key) ∧ '\n' ∉ route.2.leafText

end Route

variable {path : Text} {steps : List Step}

/-! ### Addresses -/

theorem extend_eq_append (h : path ≠ []) (step : Step) : step.extend path = path ++ step.text := by
  cases step with
  | field key => exact if_neg (by simpa using h)
  | item index => exact List.append_assoc path _ _

theorem extend_nil (step : Step) : step.extend [] = step.first := by
  cases step <;> rfl

theorem foldl_extend (h : path ≠ []) :
    steps.foldl Step.extend path = path ++ steps.flatMap Step.text := by
  induction steps generalizing path with
  | nil => exact (List.append_nil path).symm
  | cons step rest ih =>
      rw [List.foldl_cons, extend_eq_append h, ih (List.append_ne_nil_of_left_ne_nil h _),
        List.flatMap_cons, List.append_assoc]

/-- The path that is written is the address, unless the first key is empty. -/
theorem foldl_extend_nil {step : Step} (h : step.first ≠ []) (rest : List Step) :
    (step :: rest).foldl Step.extend [] = address (step :: rest) := by
  rw [List.foldl_cons, extend_nil, foldl_extend h, address]

theorem length_foldl_extend_le (steps : List Step) :
    (steps.foldl Step.extend []).length ≤ (address steps).length := by
  induction steps with
  | nil => exact Nat.le_refl _
  | cons step rest ih =>
      by_cases h : step.first = []
      · have hrest : (address rest).length ≤ (rest.flatMap Step.text).length := by
          cases rest with
          | nil => exact Nat.le_refl _
          | cons next rest =>
              have hnext : next.first.length ≤ next.text.length := by
                cases next with
                | field key => exact Nat.le_succ _
                | item index => exact Nat.le_refl _
              simp only [address, List.flatMap_cons, List.length_append]
              omega
        rw [List.foldl_cons, extend_nil, address, h, List.nil_append]
        exact Nat.le_trans ih hrest
      · exact Nat.le_of_eq (congrArg List.length (foldl_extend_nil h rest))

theorem entryText_of_ne (h : path ≠ []) (leaf : Json) :
    entryText path leaf = path ++ ':' :: ' ' :: leaf.leafText := if_neg (by simpa using h)

theorem length_entryText_le (path : Text) (leaf : Json) :
    (entryText path leaf).length ≤ path.length + (leaf.leafText.length + 2) := by
  rw [entryText]
  split
  · omega
  · simp

theorem entry_of_first {step : Step} (h : step.first ≠ []) (rest : List Step) (leaf : Json) :
    Route.entry (step :: rest, leaf) = Route.line (step :: rest, leaf) := by
  have hne : address (step :: rest) ≠ [] := List.append_ne_nil_of_left_ne_nil h _
  rw [Route.entry, foldl_extend_nil h, entryText_of_ne hne]
  exact (if_neg (List.cons_ne_nil step rest)).symm

/-- Brackets need no separator, so behind an empty key they are written as in the address. -/
theorem entry_of_brackets (index : Nat) (rest : List Step) (leaf : Json) :
    Route.entry (.field [] :: .item index :: rest, leaf) =
      Route.line (.field [] :: .item index :: rest, leaf) := by
  have hfirst : (Step.item index).first ≠ [] := List.cons_ne_nil _ _
  exact entry_of_first hfirst rest leaf

theorem length_entry_lt {route : Route} (h : route.SkipsKey) :
    route.entry.length < route.line.length := by
  obtain ⟨steps, leaf⟩ := route
  obtain ⟨rest, rfl, hrest⟩ := h
  have hentry : Route.entry (.field [] :: rest, leaf) =
      entryText (rest.foldl Step.extend []) leaf := rfl
  have hline : (Route.line (.field [] :: rest, leaf)).length =
      (rest.flatMap Step.text).length + (leaf.leafText.length + 2) := by
    rw [Route.line, if_neg (List.cons_ne_nil _ _), List.length_append]
    rfl
  rw [hentry, hline]
  cases rest with
  | nil => exact Nat.lt_of_lt_of_le (Nat.lt_add_of_pos_right (by decide)) (Nat.le_add_left _ _)
  | cons step rest =>
      cases step with
      | item index => exact absurd rfl (hrest index)
      | field key =>
          have hpath := length_foldl_extend_le (.field key :: rest)
          have hwhole := length_entryText_le ((.field key :: rest).foldl Step.extend []) leaf
          simp only [address, Step.first, Step.text, List.flatMap_cons, List.length_append,
            List.length_cons] at hpath hwhole ⊢
          omega

/-- Only an empty first key makes an entry differ from its line. -/
theorem entry_eq_line_iff (route : Route) : route.entry = route.line ↔ ¬ route.SkipsKey := by
  by_cases hskips : route.SkipsKey
  · have hlt := length_entry_lt hskips
    exact iff_of_false (fun heq => by rw [heq] at hlt; omega) (not_not_intro hskips)
  · refine iff_of_true ?_ hskips
    obtain ⟨steps, leaf⟩ := route
    rcases steps with _ | ⟨step, rest⟩
    · rfl
    by_cases hfirst : step.first = []
    · rcases step with key | index
      · obtain rfl : key = [] := hfirst
        rcases rest with _ | ⟨key | index, rest⟩
        · exact absurd ⟨[], rfl, nofun⟩ hskips
        · exact absurd ⟨_, rfl, nofun⟩ hskips
        · exact entry_of_brackets index rest leaf
      · cases hfirst
    · exact entry_of_first hfirst rest leaf

/-! ### Entries -/

mutual

theorem leaves_eq (value : Json) (path : Text) :
    value.leaves path =
      value.routes.map fun route => (route.1.foldl Step.extend path, route.2) := by
  match value with
  | .null | .bool _ | .number _ | .string _ | .array [] | .object [] => rfl
  | .array (item :: rest) =>
      rw [leaves, routes]
      exact itemLeaves_eq (item :: rest) path 0
  | .object (field :: rest) =>
      rw [leaves, routes]
      exact fieldLeaves_eq (field :: rest) path

theorem itemLeaves_eq (items : List Json) (path : Text) (index : Nat) :
    itemLeaves path index items =
      (itemRoutes index items).map fun route => (route.1.foldl Step.extend path, route.2) := by
  match items with
  | [] => rfl
  | item :: rest =>
      rw [itemLeaves, itemRoutes, List.map_append, List.map_map, itemLeaves_eq rest,
        leaves_eq item]
      rfl

theorem fieldLeaves_eq (fields : List (Text × Json)) (path : Text) :
    fieldLeaves path fields =
      (fieldRoutes fields).map fun route => (route.1.foldl Step.extend path, route.2) := by
  match fields with
  | [] => rfl
  | (key, value) :: rest =>
      rw [fieldLeaves, fieldRoutes, List.map_append, List.map_map, fieldLeaves_eq rest,
        leaves_eq value]
      rfl

end

theorem plain_eq (value : Json) :
    value.plain = ['\n'].intercalate (value.routes.map Route.entry) := by
  rw [plain, leaves_eq, List.map_map]
  rfl

theorem routes_ne_nil (value : Json) : value.routes ≠ [] := by
  match value with
  | .null | .bool _ | .number _ | .string _ | .array [] | .object [] => exact List.cons_ne_nil _ _
  | .array (item :: rest) =>
      rw [routes, itemRoutes]
      exact List.append_ne_nil_of_left_ne_nil (mt List.map_eq_nil_iff.1 (routes_ne_nil item)) _
  | .object ((key, value) :: rest) =>
      rw [routes, fieldRoutes]
      exact List.append_ne_nil_of_left_ne_nil (mt List.map_eq_nil_iff.1 (routes_ne_nil value)) _

/-! ### Newlines -/

theorem not_mem_extend (path : Text) (step : Step) :
    '\n' ∉ step.extend path ↔ '\n' ∉ path ∧ '\n' ∉ step.key := by
  have hdigits (index : Nat) : '\n' ∉ Nat.toDigits 10 index :=
    fun hm => absurd (isNumeral_toDigits hm) (by decide)
  cases step with
  | field key =>
      rw [Step.extend, Step.key, fieldPath]
      split <;> simp_all
  | item index => simp [Step.extend, Step.key, itemPath, hdigits]

theorem not_mem_foldl_extend (steps : List Step) (path : Text) :
    '\n' ∉ steps.foldl Step.extend path ↔ '\n' ∉ path ∧ ∀ step ∈ steps, '\n' ∉ step.key := by
  induction steps generalizing path with
  | nil => simp
  | cons step rest ih =>
      rw [List.foldl_cons, ih, not_mem_extend, List.forall_mem_cons, and_assoc]

theorem not_mem_entry (route : Route) : '\n' ∉ route.entry ↔ route.IsOneLine := by
  have hentry (path : Text) (leaf : Json) :
      '\n' ∉ entryText path leaf ↔ '\n' ∉ path ∧ '\n' ∉ leaf.leafText := by
    rw [entryText]
    split <;> simp_all
  rw [Route.entry, hentry, not_mem_foldl_extend, Route.IsOneLine]
  simp

theorem isOneLine_under (step : Step) (route : Route) :
    (route.under step).IsOneLine ↔ '\n' ∉ step.key ∧ route.IsOneLine := by
  rw [Route.IsOneLine, Route.under, List.forall_mem_cons, and_assoc]
  rfl

/-- A word has no newlines, and nothing in it comes from outside. -/
theorem isOneLine_word {leaf : Json} (hword : '\n' ∉ leaf.leafText)
    (hroutes : leaf.routes = [([], leaf)]) (htexts : leaf.texts = []) :
    (∀ route ∈ leaf.routes, route.IsOneLine) ↔ ∀ text ∈ leaf.texts, '\n' ∉ text := by
  rw [hroutes, htexts, List.forall_mem_singleton]
  exact iff_of_true ⟨List.forall_mem_nil _, hword⟩ (List.forall_mem_nil _)

mutual

theorem isOneLine_routes (value : Json) :
    (∀ route ∈ value.routes, route.IsOneLine) ↔ ∀ text ∈ value.texts, '\n' ∉ text := by
  match value with
  | .null => exact isOneLine_word (by decide) rfl rfl
  | .bool value => exact isOneLine_word (isVisible_boolText value).newline_not_mem rfl rfl
  | .number value => exact isOneLine_word (isVisible_number value).newline_not_mem rfl rfl
  | .string text =>
      rw [routes, texts, List.forall_mem_singleton, List.forall_mem_singleton]
      exact and_iff_right (List.forall_mem_nil _)
      all_goals nofun
  | .array [] => exact isOneLine_word (by decide) rfl rfl
  | .object [] => exact isOneLine_word (by decide) rfl rfl
  | .array (item :: rest) => exact isOneLine_itemRoutes (item :: rest) 0
  | .object (field :: rest) => exact isOneLine_fieldRoutes (field :: rest)

theorem isOneLine_itemRoutes (items : List Json) (index : Nat) :
    (∀ route ∈ itemRoutes index items, route.IsOneLine) ↔
      ∀ text ∈ itemTexts items, '\n' ∉ text := by
  match items with
  | [] => exact iff_of_true (List.forall_mem_nil _) (List.forall_mem_nil _)
  | item :: rest =>
      have hkey (route : Route) :
          (route.under (.item index)).IsOneLine ↔ route.IsOneLine := by
        rw [isOneLine_under]
        exact and_iff_right List.not_mem_nil
      rw [itemRoutes, itemTexts, List.forall_mem_append, List.forall_mem_append,
        List.forall_mem_map, isOneLine_itemRoutes rest, ← isOneLine_routes item]
      simp only [hkey]

theorem isOneLine_fieldRoutes (fields : List (Text × Json)) :
    (∀ route ∈ fieldRoutes fields, route.IsOneLine) ↔
      ∀ text ∈ fieldTexts fields, '\n' ∉ text := by
  match fields with
  | [] => exact iff_of_true (List.forall_mem_nil _) (List.forall_mem_nil _)
  | (key, value) :: rest =>
      have hkey : (∀ route ∈ value.routes, '\n' ∉ key ∧ route.IsOneLine) ↔
          '\n' ∉ key ∧ ∀ route ∈ value.routes, route.IsOneLine := by
        obtain ⟨route, hroute⟩ := List.exists_mem_of_ne_nil _ (routes_ne_nil value)
        exact ⟨fun h => ⟨(h route hroute).1, fun other ho => (h other ho).2⟩,
          fun h other ho => ⟨h.1, h.2 other ho⟩⟩
      rw [fieldRoutes, fieldTexts, List.cons_append, List.forall_mem_cons, List.forall_mem_append,
        List.forall_mem_append, List.forall_mem_map, isOneLine_fieldRoutes rest,
        ← isOneLine_routes value, ← and_assoc, ← hkey]
      simp only [isOneLine_under, Step.key]

end

/-! ### Empty keys -/

theorem exists_key_of_mem_fieldRoutes {fields : List (Text × Json)} {route : Route}
    (h : route ∈ fieldRoutes fields) :
    ∃ field ∈ fields, ∃ rest, route.1 = .field field.1 :: rest := by
  induction fields with
  | nil => exact absurd h List.not_mem_nil
  | cons field rest ih =>
      rcases List.mem_append.1 h with h | h
      · obtain ⟨inner, -, rfl⟩ := List.mem_map.1 h
        exact ⟨field, List.mem_cons_self, inner.1, rfl⟩
      · obtain ⟨found, hfound, steps, hsteps⟩ := ih h
        exact ⟨found, List.mem_cons_of_mem _ hfound, steps, hsteps⟩

/-- Nothing is skipped in an object whose own keys are not empty. -/
theorem not_skipsKey {fields : List (Text × Json)} (h : [] ∉ (object fields).keys) :
    ∀ route ∈ (object fields).routes, ¬ route.SkipsKey := by
  rintro route hroute ⟨steps, hsteps, -⟩
  cases fields with
  | nil =>
      rw [routes, List.mem_singleton] at hroute
      · rw [hroute] at hsteps
        cases hsteps
      all_goals nofun
  | cons field rest =>
      rw [routes] at hroute
      obtain ⟨found, hfound, more, hmore⟩ := exists_key_of_mem_fieldRoutes hroute
      rw [hsteps] at hmore
      injection hmore with hkey _
      injection hkey with hkey
      exact h (List.mem_map.2 ⟨found, hfound, hkey.symm⟩)

/-! ### Lines -/

/-- The lines of a plain text are the lines of its entries. -/
theorem lines_format (colour : Bool) (value : Json) :
    lines (OutputFormat.text.format colour value) =
      (value.sorted.routes.map Route.entry).flatMap lines := by
  rw [OutputFormat.format, plain_eq]
  exact Text.lines_intercalate (mt List.map_eq_nil_iff.1 (routes_ne_nil _))

theorem forall_not_mem_entry_iff (value : Json) :
    (∀ entry ∈ value.sorted.routes.map Route.entry, '\n' ∉ entry) ↔
      ∀ text ∈ value.texts, '\n' ∉ text := by
  rw [List.forall_mem_map]
  simp only [not_mem_entry, isOneLine_routes, mem_texts_sorted]

theorem length_lines_format_iff (colour : Bool) (value : Json) :
    (lines (OutputFormat.text.format colour value)).length = value.sorted.routes.length ↔
      ∀ text ∈ value.texts, '\n' ∉ text := by
  have hlength : value.sorted.routes.length = (value.sorted.routes.map Route.entry).length :=
    (List.length_map Route.entry).symm
  rw [lines_format, hlength, Text.length_flatMap_lines_iff, forall_not_mem_entry_iff]

theorem lines_format_eq_map_line_iff (colour : Bool) (value : Json) :
    lines (OutputFormat.text.format colour value) = value.sorted.routes.map Route.line ↔
      (∀ text ∈ value.texts, '\n' ∉ text) ∧ ∀ route ∈ value.sorted.routes, ¬ route.SkipsKey := by
  have hentries (h : ∀ text ∈ value.texts, '\n' ∉ text) :
      lines (OutputFormat.text.format colour value) = value.sorted.routes.map Route.entry := by
    rw [lines_format]
    exact Text.flatMap_lines ((forall_not_mem_entry_iff value).2 h)
  constructor
  · intro heq
    have htexts := (length_lines_format_iff colour value).1 (by rw [heq, List.length_map])
    refine ⟨htexts, fun route hroute => (entry_eq_line_iff route).1 ?_⟩
    exact List.map_inj_left.1 ((hentries htexts).symm.trans heq) route hroute
  · rintro ⟨htexts, hroutes⟩
    rw [hentries htexts]
    exact List.map_congr_left fun route hr => (entry_eq_line_iff route).2 (hroutes route hr)

theorem lines_format_object_iff {fields : List (Text × Json)} (h : [] ∉ (object fields).keys)
    (colour : Bool) :
    lines (OutputFormat.text.format colour (.object fields)) =
        (object fields).sorted.routes.map Route.line ↔
      ∀ text ∈ (object fields).texts, '\n' ∉ text := by
  have hsorted : [] ∉ (object fields).sorted.keys := mt mem_keys_sorted.1 h
  rw [lines_format_eq_map_line_iff]
  exact and_iff_left (not_skipsKey hsorted)

/-- The plain text of a value has one line for each leaf if and only if no key and no string has a
newline.  These lines are the addresses and texts of the leaves if and only if furthermore no empty
key of the whole object is skipped. -/
theorem one_line_per_leaf_iff (colour : Bool) (value : Json) :
    let lines := lines (OutputFormat.text.format colour value)
    let routes := value.sorted.routes
    (lines.length = routes.length ↔ ∀ text ∈ value.texts, '\n' ∉ text) ∧
      (lines = routes.map Route.line ↔
        (∀ text ∈ value.texts, '\n' ∉ text) ∧ ∀ route ∈ routes, ¬ route.SkipsKey) :=
  ⟨length_lines_format_iff colour value, lines_format_eq_map_line_iff colour value⟩

/-- A string with a newline takes two lines, and an empty key is not written. -/
theorem exists_leaf_not_one_line :
    let broken : Json := .object [("a".toList, .string "x\ny".toList)]
    let nameless : Json := .object [([], .string "x".toList)]
    lines (OutputFormat.text.format false broken) = ["a: x".toList, "y".toList] ∧
      broken.sorted.routes.map Route.line = ["a: x\ny".toList] ∧
      lines (OutputFormat.text.format false nameless) = ["x".toList] ∧
      nameless.sorted.routes.map Route.line = [": x".toList] := by
  simp only [OutputFormat.format, sorted, sortedFields, sortFields, List.mergeSort_singleton]
  decide

end GoStubs.Json
