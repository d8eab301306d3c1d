import GoStubs.Template.Shelf

/-!
# Forms

A form is a text with slots, for texts and for lists of texts.  As a template it is filled whenever
the names of its slots are there, by any rules, and what is filled in comes out as the rules escape
it, whatever characters it has.
-/

namespace GoStubs.Template

/-- Texts and lists of texts under names. -/
structure Values where
  texts : List (Text × Text)
  lists : List (Text × List Text)

namespace Values

def context (values : Values) : Json :=
  .object (values.texts.map (fun (name, text) => (name, .string text)) ++
    values.lists.map fun (name, texts) => (name, .array (texts.map .string)))

def text (values : Values) (name : Text) : Text := (values.texts.lookup name).getD []

def list (values : Values) (name : Text) : List Text := (values.lists.lookup name).getD []

/-- Values with every text changed. -/
def map (change : Text → Text) (values : Values) : Values where
  texts := values.texts.map fun (name, text) => (name, change text)
  lists := values.lists.map fun (name, texts) => (name, texts.map change)

end Values

inductive Slot
  | place (name : Text)
  /-- A slot for each text of a list, between two other texts. -/
  | list (name before after : Text)

/-- The tag with a text between its braces. -/
def braced (text : Text) : Text := '\x7b' :: '\x7b' :: (text ++ ['\x7d', '\x7d'])

namespace Slot

/-- A slot in a source.  The tags around a list are alone on their lines. -/
def source : Slot → Text
  | .place name => braced name
  | .list name before after =>
    braced ("#each ".toList ++ name) ++ '\n' :: before ++ braced "this".toList ++ after ++
      braced "/each".toList ++ ['\n']

def part : Slot → Part
  | .place name => .value (.field name)
  | .list name before after => .each (.field name) [.text before, .value .this, .text after]

/-- What comes out for a slot. -/
def filled (values : Values) : Slot → Text
  | .place name => values.text name
  | .list name before after => (values.list name).flatMap fun text => before ++ text ++ after

/-- Whether the name of a slot is there.  A name of a text is not taken for one of a list. -/
def IsNamed (values : Values) : Slot → Prop
  | .place name => name ∈ values.texts.map Prod.fst
  | .list name _ _ => name ∉ values.texts.map Prod.fst ∧ name ∈ values.lists.map Prod.fst

instance (values : Values) (slot : Slot) : Decidable (slot.IsNamed values) :=
  match slot with
  | .place _ => inferInstanceAs (Decidable (_ ∈ _))
  | .list .. => inferInstanceAs (Decidable (_ ∧ _))

end Slot

/-- A text, and slots with a text behind each of them. -/
structure Form where
  start : Text
  rest : List (Slot × Text)

/-- The parts of a text; an empty one has none. -/
def textParts (text : Text) : List Part := if text.isEmpty then [] else [.text text]

namespace Form

def source (form : Form) : Text :=
  form.start ++ form.rest.flatMap fun (slot, text) => slot.source ++ text

def template (form : Form) : Template :=
  textParts form.start ++ form.rest.flatMap fun (slot, text) => slot.part :: textParts text

/-- The text of a form with values in place of its slots. -/
def filled (values : Values) (form : Form) : Text :=
  form.start ++ form.rest.flatMap fun (slot, text) => slot.filled values ++ text

end Form

variable {rules : Rules} {values : Values} {context : Json} {name : Text} {slot : Slot}

/-! ### Values -/

theorem lookup_map {α β : Type} (f : α → β) (list : List (Text × α)) (name : Text) :
    (list.map fun (key, a) => (key, f a)).lookup name = (list.lookup name).map f := by
  induction list with
  | nil => rfl
  | cons head rest ih =>
      obtain ⟨key, a⟩ := head
      rw [List.map_cons, List.lookup_cons, List.lookup_cons, ih]
      cases name == key <;> rfl

theorem lookup_eq_none {α : Type} {list : List (Text × α)} (h : name ∉ list.map Prod.fst) :
    list.lookup name = none := by
  rw [List.lookup_eq_none_iff]
  intro pair hpair
  rw [bne_iff_ne]
  rintro rfl
  exact h (List.mem_map_of_mem hpair)

theorem lookup_eq_some_getD {α : Type} {list : List (Text × α)} (h : name ∈ list.map Prod.fst)
    (default : α) : list.lookup name = some ((list.lookup name).getD default) := by
  cases hlookup : list.lookup name with
  | some a => rfl
  | none =>
      obtain ⟨pair, hpair, rfl⟩ := List.mem_map.1 h
      have hne := List.lookup_eq_none_iff.1 hlookup pair hpair
      rw [bne_self_eq_false] at hne
      cases hne

theorem Values.map_id (values : Values) : values.map id = values := by
  simp only [map, id_eq, List.map_id_fun', List.map_id_fun]

theorem Values.text_map (h : name ∈ values.texts.map Prod.fst) (change : Text → Text) :
    (values.map change).text name = change (values.text name) := by
  rw [text, map, lookup_map, lookup_eq_some_getD h []]
  rfl

theorem Values.list_map (change : Text → Text) (values : Values) (name : Text) :
    (values.map change).list name = (values.list name).map change := by
  rw [list, list, map, lookup_map (List.map change)]
  cases values.lists.lookup name <;> rfl

theorem find?_context (values : Values) (name : Text) :
    (Reference.field name).find? values.context =
      ((values.texts.lookup name).map Json.string).or
        ((values.lists.lookup name).map fun texts => .array (texts.map .string)) := by
  have htexts := lookup_map Json.string values.texts name
  have hlists := lookup_map (fun texts => Json.array (texts.map .string)) values.lists name
  rw [← htexts, ← hlists, ← List.lookup_append]
  rfl

/-! ### Filling -/

theorem fillParts?_append (first second : List Part) : fillParts? rules context (first ++ second) =
    (fillParts? rules context first).bind fun text =>
      (fillParts? rules context second).map (text ++ ·) := by
  induction first with
  | nil => cases h : fillParts? rules context second <;> simp [fillParts?, h]
  | cons part rest ih =>
      rw [List.cons_append, fillParts?, fillParts?, ih]
      cases part.fill? rules context with
      | none => rfl
      | some text =>
          cases fillParts? rules context rest with
          | none => rfl
          | some texts => cases fillParts? rules context second <;> simp

theorem fillParts?_textParts (text : Text) :
    fillParts? rules context (textParts text) = some text := by
  cases text with
  | nil => rfl
  | cons c text => simp [textParts, fillParts?, Part.fill?]

theorem mapM_fillParts? (before after : Text) (texts : List Text) :
    (texts.map Json.string).mapM
        (fun item => fillParts? rules item [.text before, .value .this, .text after]) =
      some (texts.map fun text => before ++ rules.escape text ++ after) := by
  have hbody (text : Text) :
      fillParts? rules (.string text) [.text before, .value .this, .text after] =
        some (before ++ rules.escape text ++ after) := by
    have hparts : fillParts? rules (.string text) [.text before, .value .this, .text after] =
      some (before ++ (rules.escape text ++ (after ++ []))) := rfl
    rw [hparts, List.append_nil, List.append_assoc]
  induction texts with
  | nil => rfl
  | cons text rest ih =>
      rw [List.map_cons, List.mapM_cons, hbody, ih]
      simp

theorem fill?_list {before after : Text} {texts : List Text}
    (href : (Reference.field name).isRefused context = false)
    (h : (Reference.field name).find? context = some (.array (texts.map .string))) :
    (Slot.list name before after).part.fill? rules context =
      some (texts.flatMap fun text => before ++ rules.escape text ++ after) := by
  rw [Slot.part, Part.fill?, href, h]
  simp only [Option.bind_eq_bind, Option.bind_some, members?, mapM_fillParts?]
  rw [List.flatMap_def]
  rfl

theorem fill?_part (h : slot.IsNamed values) :
    slot.part.fill? rules values.context = some (slot.filled (values.map rules.escape)) := by
  cases slot with
  | place name =>
      rw [Slot.filled, Values.text_map h, Slot.part, Part.fill?, Rules.place?, find?_context,
        lookup_eq_some_getD h []]
      rfl
  | list name before after =>
      rw [Slot.filled, Values.list_map, List.flatMap_map]
      apply fill?_list rfl
      rw [find?_context, lookup_eq_none h.1, lookup_eq_some_getD h.2 []]
      rfl

namespace Form

variable {form : Form}

theorem fill?_template (h : ∀ piece ∈ form.rest, piece.1.IsNamed values) :
    form.template.fill? rules values.context = some (form.filled (values.map rules.escape)) := by
  obtain ⟨start, rest⟩ := form
  have hrest : fillParts? rules values.context
      (rest.flatMap fun (slot, text) => slot.part :: textParts text) =
        some (rest.flatMap fun (slot, text) =>
          slot.filled (values.map rules.escape) ++ text) := by
    induction rest with
    | nil => rfl
    | cons piece rest ih =>
        obtain ⟨hpiece, hmore⟩ := List.forall_mem_cons.1 h
        rw [List.flatMap_cons, List.flatMap_cons, List.cons_append, fillParts?, fill?_part hpiece,
          fillParts?_append, fillParts?_textParts, ih hmore]
        simp
  rw [fill?, template, fillParts?_append, fillParts?_textParts, hrest]
  rfl

theorem fill_of_lookup {shelf : Shelf} (hl : shelf.templates.lookup name = some form.template)
    (h : ∀ piece ∈ form.rest, piece.1.IsNamed values) :
    shelf.fill name values.context = .ok (form.filled (values.map shelf.rules.escape)) := by
  rw [Shelf.fill, hl, Option.bind_eq_bind, Option.bind_some, fill?_template h]

-- What a new shelf makes of a text, and what it leaves out.
example : (Shelf.new.put [] [.value .this, .text [' '], .raw .this, .value (.field ['a'])]).fill []
    (.string "x < y".toList) = .ok "x &lt; y x < y".toList := rfl

end Form

end GoStubs.Template
