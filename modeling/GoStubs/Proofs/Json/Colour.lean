import GoStubs.Proofs.Json.Texts
import GoStubs.Proofs.Text.Escape

/-!
# Outlines with and without colours

Colours add escape sequences to an outline, and they protect blanks.  The outline of an item of an
array is trimmed, to bring it onto the line of its dash; if the item starts with blanks of its own,
these are lost in the plain outline and kept behind the escape sequence of the coloured one.  Apart
from such blanks the two outlines show the same.
-/

namespace GoStubs.Json

open Text (Shows ShowsMore isBlank trimStart indentation withoutEscapes)

variable {text : Text}

/-- The blanks of its own that the outline of an item starts with. -/
def ownIndentation : Json → Nat
  | .string value => if value.contains '\n' then 0 else indentation value
  | .object ((key, _) :: _) => indentation key
  | _ => 0

mutual

/-- The items of all arrays in a value. -/
def allItems : Json → List Json
  | .array items => itemItems items
  | .object fields => fieldItems fields
  | _ => []

def itemItems : List Json → List Json
  | [] => []
  | item :: rest => item :: (item.allItems ++ itemItems rest)

def fieldItems : List (Text × Json) → List Json
  | [] => []
  | (_, value) :: rest => value.allItems ++ fieldItems rest

end

/-- The blanks with which items start. -/
def lostBlanks : List Json → Nat
  | [] => 0
  | item :: rest => item.ownIndentation + lostBlanks rest

theorem lostBlanks_append (a b : List Json) :
    lostBlanks (a ++ b) = lostBlanks a + lostBlanks b := by
  induction a with
  | nil => exact (Nat.zero_add _).symm
  | cons item rest ih => rw [List.cons_append, lostBlanks, lostBlanks, ih, Nat.add_assoc]

theorem lostBlanks_eq_zero_iff {items : List Json} :
    lostBlanks items = 0 ↔ ∀ item ∈ items, item.ownIndentation = 0 := by
  induction items with
  | nil => exact iff_of_true rfl (List.forall_mem_nil _)
  | cons item rest ih =>
      rw [lostBlanks, List.forall_mem_cons, ← ih]
      exact Nat.add_eq_zero_iff

/-! ### Painted texts -/

theorem resume_of_not_mem (h : '\x1b' ∉ text) (start : Text) : resume start text = text := by
  induction text with
  | nil => rfl
  | cons c rest ih =>
      obtain ⟨hc, hrest⟩ := not_or.1 (mt List.mem_cons.2 h)
      rw [resume, ih hrest]
      rintro tail rfl
      exact absurd rfl hc

theorem shows_start (style : Style) : Shows style.start [] := by
  intro rest
  cases style <;> exact Text.withoutEscapes_of_after rfl

theorem shows_reset : Shows reset [] := fun _ => Text.withoutEscapes_of_after rfl

theorem shows_paint (h : '\x1b' ∉ text) (style : Style) : Shows (paint true style text) text := by
  rw [paint, if_pos rfl, resume_of_not_mem h]
  have hshows := ((shows_start style).append (Text.shows_self h)).append shows_reset
  rwa [List.nil_append, List.append_nil] at hshows

theorem trimStart_paint (style : Style) (text : Text) :
    trimStart (paint true style text) = paint true style text :=
  Text.trimStart_cons (by decide) _

theorem head?_paint (h : '\n' ∉ text) (colour : Bool) (style : Style) :
    (paint colour style text).head? ≠ some '\n' := by
  cases colour with
  | true => exact fun hp => absurd (Option.some.inj hp) (by decide)
  | false => exact fun hp => h (List.mem_of_mem_head? hp)

/-! ### Pieces -/

/-- What two outlines of a value show, as they stand and behind a dash. -/
structure Agree (value : Json) (painted plain : Text) : Prop where
  whole : ShowsMore (lostBlanks value.allItems) painted plain
  behindDash : ShowsMore (value.ownIndentation + lostBlanks value.allItems)
    (trimStart painted) (trimStart plain)

theorem showsMore_paint (h : '\x1b' ∉ text) (style : Style) :
    ShowsMore 0 (paint true style text) (paint false style text) ∧
      ShowsMore (indentation text) (trimStart (paint true style text))
        (trimStart (paint false style text)) := by
  rw [trimStart_paint]
  exact ⟨(shows_paint h style).showsMore, (shows_paint h style).showsMore_trimStart⟩

/-- A word loses no blanks. -/
theorem showsMore_word (text : Text) (h : IsVisible text) (style : Style) :
    ShowsMore 0 (paint true style text) (paint false style text) ∧
      ShowsMore 0 (trimStart (paint true style text)) (trimStart (paint false style text)) := by
  have hi : indentation text = 0 := Text.indentation_eq_zero fun c hc => (h c hc).1
  have hshows := showsMore_paint (fun hm => (h _ hm).2 rfl) style
  rwa [hi] at hshows

theorem agree_string (h : '\x1b' ∉ text) (depth : Nat) :
    Agree (.string text) (outline true depth (.string text))
      (outline false depth (.string text)) := by
  rw [outline, outline]
  by_cases hbreak : text.contains '\n'
  · have hown : ownIndentation (.string text) = 0 := if_pos hbreak
    have hline : '\x1b' ∉ '\n' :: text := List.not_mem_cons_of_ne_of_not_mem (by decide) h
    have hshows := Text.showsMore_self _ hline
    rw [if_pos hbreak, if_pos hbreak]
    exact ⟨hshows.1, by rw [hown]; exact hshows.2⟩
  · have hown : ownIndentation (.string text) = indentation text := if_neg hbreak
    have hshows := showsMore_paint h .string
    rw [if_neg hbreak, if_neg hbreak]
    exact ⟨hshows.1, by rw [hown]; exact hshows.2⟩

/-- A value that is written below its key, not behind it. -/
def standsBelow : Json → Bool
  | .string value => value.contains '\n'
  | .array items => !items.isEmpty
  | .object fields => !fields.isEmpty
  | _ => false

theorem head?_outline (colour : Bool) (depth : Nat) (value : Json) :
    (value.outline colour (depth + 1)).head? = some '\n' ↔ value.standsBelow := by
  cases value with
  | null => exact iff_of_false (head?_paint (by decide) colour _) Bool.false_ne_true
  | bool value =>
      have hbreak := (isVisible_boolText value).newline_not_mem
      exact iff_of_false (head?_paint hbreak colour _) Bool.false_ne_true
  | number value =>
      have hbreak := (isVisible_number value).newline_not_mem
      exact iff_of_false (head?_paint hbreak colour _) Bool.false_ne_true
  | string value =>
      rw [outline, standsBelow]
      by_cases hbreak : value.contains '\n'
      · rw [if_pos hbreak]
        exact iff_of_true rfl hbreak
      · rw [if_neg hbreak]
        exact iff_of_false (head?_paint (by simpa using hbreak) colour _) hbreak
  | array items =>
      cases items with
      | nil => exact iff_of_false (head?_paint (by decide) colour _) Bool.false_ne_true
      | cons item rest => exact iff_of_true rfl rfl
  | object fields =>
      cases fields with
      | nil =>
          exact iff_of_false (fun hp => absurd (Option.some.inj hp) (by decide)) Bool.false_ne_true
      | cons field rest => exact iff_of_true rfl rfl

theorem not_mem_margin (depth : Nat) : '\x1b' ∉ '\n' :: margin depth :=
  List.not_mem_cons_of_ne_of_not_mem (by decide)
    fun hm => absurd (List.eq_of_mem_replicate hm) (by decide)

theorem isGap_margin (depth : Nat) : Text.IsGap ('\n' :: margin depth) :=
  List.forall_mem_cons.2 ⟨by decide, fun c hc => by rw [List.eq_of_mem_replicate hc]; decide⟩

/-! ### Outlines -/

theorem outlineItems_cons (colour : Bool) (depth : Nat) (item : Json) (rest : List Json) :
    outlineItems colour depth (item :: rest) = '\n' :: margin (depth + 1) ++
      (['-', ' '] ++ trimStart (item.outline colour (depth + 2)) ++
        outlineItems colour depth rest) := by
  rw [outlineItems, List.append_assoc, List.append_assoc]
  rfl

/-- What stands before the key of a field. -/
def lead (depth : Nat) (start : Bool) : Text := if start then [] else '\n' :: margin depth

/-- A value behind the colon of its field. -/
def behindColon (colour : Bool) (depth : Nat) (value : Json) : Text :=
  if value.standsBelow then value.outline colour depth else ' ' :: value.outline colour depth

theorem outlineFields_cons (colour : Bool) (depth : Nat) (start : Bool) (key : Text) (value : Json)
    (rest : List (Text × Json)) :
    outlineFields colour depth start ((key, value) :: rest) = lead depth start ++
      (paint colour .key key ++ ':' :: (behindColon colour (depth + 1) value ++
        outlineFields colour depth false rest)) := by
  rw [outlineFields]
  simp only [head?_outline, List.append_assoc, List.singleton_append]
  rfl

theorem not_mem_lead (depth : Nat) (start : Bool) : '\x1b' ∉ lead depth start := by
  cases start with
  | true => exact List.not_mem_nil
  | false => exact not_mem_margin depth

theorem isGap_lead (depth : Nat) (start : Bool) : Text.IsGap (lead depth start) := by
  cases start with
  | true => exact List.forall_mem_nil _
  | false => exact isGap_margin depth

theorem Agree.behindColon {value : Json} {depth : Nat}
    (h : Agree value (value.outline true depth) (value.outline false depth)) :
    ShowsMore (lostBlanks value.allItems) (value.behindColon true depth)
      (value.behindColon false depth) := by
  rw [Json.behindColon, Json.behindColon]
  split
  · exact h.whole
  · have hspace := (Text.showsMore_self [' '] (by decide)).1.append h.whole
    rwa [Nat.zero_add] at hspace

mutual

theorem agree_outline (value : Json) (h : ∀ text ∈ value.texts, '\x1b' ∉ text) (depth : Nat) :
    Agree value (value.outline true depth) (value.outline false depth) := by
  match value with
  | .null =>
      have hshows := showsMore_word "null".toList (by decide) .faint
      exact ⟨hshows.1, hshows.2⟩
  | .bool value =>
      have hshows := showsMore_word _ (isVisible_boolText value) .truth
      exact ⟨hshows.1, hshows.2⟩
  | .number value =>
      have hshows := showsMore_word _ (isVisible_number value) .number
      exact ⟨hshows.1, hshows.2⟩
  | .string text => exact agree_string (h text (List.mem_singleton.2 rfl)) depth
  | .array [] =>
      have hshows := showsMore_word "(none)".toList (by decide) .faint
      exact ⟨hshows.1, hshows.2⟩
  | .array (item :: rest) => exact agree_outlineItems (item :: rest) h depth
  | .object [] =>
      have hshows := Text.showsMore_self ("\x7b\x7d".toList) (by decide)
      exact ⟨hshows.1, hshows.2⟩
  | .object (field :: rest) => exact agree_outlineFields (field :: rest) h depth (depth == 0)

theorem agree_outlineItems (items : List Json) (h : ∀ text ∈ itemTexts items, '\x1b' ∉ text)
    (depth : Nat) :
    Agree (.array items) (outlineItems true depth items) (outlineItems false depth items) := by
  match items with
  | [] =>
      have hshows := Text.showsMore_self [] List.not_mem_nil
      exact ⟨hshows.1, hshows.2⟩
  | item :: rest =>
      obtain ⟨hitem, hrest⟩ := List.forall_mem_append.1 h
      -- Only here is an outline trimmed, so each item adds its own blanks to the count.
      have hbody := (agree_outline item hitem (depth + 2)).behindDash
      have hmore := (agree_outlineItems rest hrest depth).whole
      have hdash := (Text.showsMore_self ['-', ' '] (by decide)).1
      have hline := (hdash.append hbody).append hmore
      have hlead := (Text.showsMore_self _ (not_mem_margin (depth + 1))).1
      have hcount : lostBlanks (array (item :: rest)).allItems =
          0 + (item.ownIndentation + lostBlanks item.allItems) +
            lostBlanks (array rest).allItems := by
        rw [allItems, allItems, itemItems, lostBlanks, lostBlanks_append]
        omega
      rw [← hcount] at hline
      rw [outlineItems_cons, outlineItems_cons]
      constructor
      · have hwhole := hlead.append hline
        rwa [Nat.zero_add] at hwhole
      · -- Of the items themselves the margin is trimmed, up to the first dash.
        rw [Text.trimStart_gap_append (isGap_margin _), Text.trimStart_gap_append (isGap_margin _)]
        change ShowsMore (0 + lostBlanks (array (item :: rest)).allItems) _ _
        rw [Nat.zero_add]
        exact hline

theorem agree_outlineFields (fields : List (Text × Json))
    (h : ∀ text ∈ fieldTexts fields, '\x1b' ∉ text) (depth : Nat) (start : Bool) :
    Agree (.object fields) (outlineFields true depth start fields)
      (outlineFields false depth start fields) := by
  match fields with
  | [] =>
      have hshows := Text.showsMore_self [] List.not_mem_nil
      exact ⟨hshows.1, hshows.2⟩
  | (key, value) :: rest =>
      obtain ⟨hkey, hvalue, hrest⟩ : '\x1b' ∉ key ∧ (∀ text ∈ value.texts, '\x1b' ∉ text) ∧
          ∀ text ∈ fieldTexts rest, '\x1b' ∉ text := by
        rwa [fieldTexts, List.cons_append, List.forall_mem_cons, List.forall_mem_append] at h
      have hbody := (agree_outline value hvalue (depth + 1)).behindColon
      have hmore := (agree_outlineFields rest hrest depth false).whole
      have hcolon := (Text.showsMore_self [':'] (by decide)).1
      have hbehind := hcolon.append (hbody.append hmore)
      have hlead := (Text.showsMore_self _ (not_mem_lead depth start)).1
      have hcount : lostBlanks (object ((key, value) :: rest)).allItems =
          0 + (lostBlanks value.allItems + lostBlanks (object rest).allItems) := by
        rw [allItems, allItems, fieldItems, lostBlanks_append, Nat.zero_add]
      rw [← hcount] at hbehind
      rw [outlineFields_cons, outlineFields_cons]
      constructor
      · have hwhole := hlead.append ((showsMore_paint hkey .key).1.append hbehind)
        rwa [Nat.zero_add, Nat.zero_add] at hwhole
      · -- A key of blanks alone is trimmed up to the colon.
        rw [Text.trimStart_gap_append (isGap_lead _ _), Text.trimStart_gap_append (isGap_lead _ _),
          Text.trimStart_append_cons (by decide), Text.trimStart_append_cons (by decide)]
        exact (showsMore_paint hkey .key).2.append hbehind

end

theorem showsMore_format (value : Json) (h : ∀ text ∈ value.texts, '\x1b' ∉ text) :
    ShowsMore (lostBlanks value.sorted.allItems) (OutputFormat.pretty.format true value)
      (OutputFormat.pretty.format false value) :=
  (agree_outline value.sorted (fun text ht => h text ((mem_texts_sorted value).1 ht)) 0).whole

/-- Without its escape sequences a coloured outline is the plain one, but for the blanks of their
own that items start with: it keeps these, and the plain outline has lost them. -/
theorem withoutEscapes_format (value : Json) (h : ∀ text ∈ value.texts, '\x1b' ∉ text) :
    let plain := OutputFormat.pretty.format false value
    let shown := withoutEscapes (OutputFormat.pretty.format true value)
    List.Sublist plain shown ∧ Text.ink plain = Text.ink shown ∧
      shown.length = plain.length + lostBlanks value.sorted.allItems ∧
      (shown = plain ↔ ∀ item ∈ value.sorted.allItems, item.ownIndentation = 0) := by
  have hmore := showsMore_format value h
  have heq := hmore.eq_iff.trans lostBlanks_eq_zero_iff
  obtain ⟨text, hshows, hsub, hink, hlength⟩ := hmore
  refine ⟨?_, ?_, ?_, heq⟩
  · rwa [hshows.eq]
  · rwa [hshows.eq]
  · rwa [hshows.eq]

/-- Blanks at the start of a field and within texts are not lost. -/
theorem withoutEscapes_format_sample :
    let value : Json := .array [.object [("a b".toList, .string " x".toList)], .array [.null]]
    withoutEscapes (OutputFormat.pretty.format true value) =
      OutputFormat.pretty.format false value := by
  intro value
  have hsorted : value.sorted = value := by
    simp only [value, sorted, sortedItems, sortedFields, sortFields, List.mergeSort_singleton]
  apply (withoutEscapes_format value (by decide)).2.2.2.2
  rw [hsorted]
  decide

/-- The blank in front of an item is lost without colours. -/
theorem exists_withoutEscapes_format_ne :
    let value : Json := .array [.string " x".toList]
    (∀ text ∈ value.texts, '\x1b' ∉ text) ∧
      OutputFormat.pretty.format false value = "\n  - x".toList ∧
      OutputFormat.pretty.format true value = "\n  - \x1b[32m x\x1b[0m".toList ∧
      withoutEscapes (OutputFormat.pretty.format true value) ≠
        OutputFormat.pretty.format false value := by
  have hplain : ∀ text ∈ (array [.string " x".toList]).texts, '\x1b' ∉ text := by decide
  refine ⟨hplain, by decide, by decide, fun heq => ?_⟩
  exact absurd ((showsMore_format _ hplain).eq_iff.1 heq) (by decide)

end GoStubs.Json
