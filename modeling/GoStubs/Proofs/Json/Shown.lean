import GoStubs.Proofs.Json.Colour
import GoStubs.Proofs.Json.Paths
import GoStubs.Proofs.Json.Spelling

/-!
# What a printed value shows

As JSON, a printed value is a spelling of the value.  As a plain text it is an
entry for each leaf, with a path that leads there.  An outline has all keys and
strings of the value, but for the blanks that one of them starts with.
-/

namespace GoStubs

open Text (isBlank trimStart)

variable {text whole : Text}

namespace Text

/-- What does not start with a blank is not trimmed away. -/
theorem isInfix_trimStart (h : trimStart text = text) (hi : text <:+: whole) :
    text <:+: trimStart whole := by
  induction whole with
  | nil => exact hi
  | cons c rest ih =>
      cases hc : isBlank c with
      | false => rwa [trimStart_cons hc]
      | true =>
          rw [trimStart_cons_of_isBlank hc]
          rcases List.infix_cons_iff.1 hi with hprefix | hrest
          · cases text with
            | nil => exact List.nil_infix
            | cons d text =>
                obtain ⟨rfl, -⟩ := List.cons_prefix_cons.1 hprefix
                rw [not_isBlank_of_trimStart h] at hc
                cases hc
          · exact ih hrest

end Text

namespace Json

variable {colour : Bool}

theorem isInfix_paint (hc : colour → '\x1b' ∉ text) (style : Style) :
    trimStart text <:+: paint colour style text := by
  have htrim : trimStart text <:+: text := (List.dropWhile_suffix isBlank).isInfix
  cases colour with
  | false => exact htrim
  | true =>
      rw [paint, if_pos rfl, resume_of_not_mem (hc rfl)]
      exact htrim.trans (List.infix_append _ _ _)

mutual

theorem isInfix_outline (value : Json) (h : text ∈ value.texts) (hc : colour → '\x1b' ∉ text)
    (depth : Nat) : trimStart text <:+: value.outline colour depth := by
  match value with
  | .null | .bool _ | .number _ | .array [] | .object [] => cases h
  | .string other =>
      obtain rfl := List.mem_singleton.1 h
      rw [outline]
      split
      · have htrim : trimStart text <:+: text := (List.dropWhile_suffix isBlank).isInfix
        exact htrim.trans (List.suffix_cons '\n' text).isInfix
      · exact isInfix_paint hc .string
  | .array (item :: rest) => exact isInfix_outlineItems (item :: rest) h hc depth
  | .object (field :: rest) => exact isInfix_outlineFields (field :: rest) h hc depth (depth == 0)

theorem isInfix_outlineItems (items : List Json) (h : text ∈ itemTexts items)
    (hc : colour → '\x1b' ∉ text) (depth : Nat) :
    trimStart text <:+: outlineItems colour depth items := by
  match items with
  | [] => cases h
  | item :: rest =>
      rw [outlineItems_cons]
      refine List.IsInfix.trans ?_ (List.suffix_append _ _).isInfix
      rcases List.mem_append.1 h with hitem | hrest
      · have hinner := Text.isInfix_trimStart (Text.trimStart_trimStart text)
          (isInfix_outline item hitem hc (depth + 2))
        exact hinner.trans (List.infix_append _ _ _)
      · exact (isInfix_outlineItems rest hrest hc depth).trans (List.suffix_append _ _).isInfix

theorem isInfix_outlineFields (fields : List (Text × Json)) (h : text ∈ fieldTexts fields)
    (hc : colour → '\x1b' ∉ text) (depth : Nat) (start : Bool) :
    trimStart text <:+: outlineFields colour depth start fields := by
  match fields with
  | [] => cases h
  | (key, value) :: rest =>
      rw [outlineFields_cons]
      refine List.IsInfix.trans ?_ (List.suffix_append _ _).isInfix
      rw [fieldTexts, List.cons_append, List.mem_cons, List.mem_append] at h
      rcases h with rfl | hvalue | hrest
      · exact (isInfix_paint hc .key).trans (List.prefix_append _ _).isInfix
      · have hinner := isInfix_outline value hvalue hc (depth + 1)
        refine List.IsInfix.trans ?_ (List.suffix_append _ _).isInfix
        rw [← List.cons_append]
        refine List.IsInfix.trans ?_ (List.prefix_append _ _).isInfix
        rw [behindColon]
        split
        · exact hinner.trans (List.suffix_cons _ _).isInfix
        · exact hinner.trans ((List.suffix_cons _ _).trans (List.suffix_cons _ _)).isInfix
      · have hinner := isInfix_outlineFields rest hrest hc depth false
        refine hinner.trans ?_
        rw [← List.cons_append, ← List.append_assoc]
        exact (List.suffix_append _ _).isInfix

end

end Json

/-- How a value can be told from what is printed for it. -/
def OutputFormat.Shows (output : OutputFormat) (colour : Bool) (value : Json) (printed : Text) :
    Prop :=
  match output with
  | .json => value.Spells printed
  | .text => ∃ entries, value.Addresses entries ∧ printed = ['\n'].intercalate
      (entries.map fun (path, leaf) =>
        if path = [] then leaf.leafText else path ++ ": ".toList ++ leaf.leafText)
  | .pretty => ∀ text ∈ value.texts, (colour → '\x1b' ∉ text) → trimStart text <:+: printed

end GoStubs
