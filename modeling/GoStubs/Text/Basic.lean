/-!
# Texts

A text is the list of its characters, so functions on texts recur on that list
and proofs go by cases on it. This module has what the readers share: cuts at
every character of a kind and at the first occurrence of a part, and the number
that digits spell.
-/

namespace GoStubs

abbrev Text := List Char

namespace Text

variable {α : Type}

/-- The pieces of a list between the members that satisfy `cut`. -/
def split (cut : α → Bool) : List α → List (List α)
  | [] => [[]]
  | c :: rest =>
    if cut c then [] :: split cut rest else (split cut rest).modifyHead (c :: ·)

@[simp] theorem split_nil (cut : α → Bool) : split cut [] = [[]] := rfl

theorem split_cons_of_cut {cut : α → Bool} {c : α} (h : cut c) (rest : List α) :
    split cut (c :: rest) = [] :: split cut rest := by simp [split, h]

theorem split_ne_nil (cut : α → Bool) (list : List α) : split cut list ≠ [] := by
  induction list with
  | nil => simp
  | cons c rest ih =>
    by_cases h : cut c
    · simp [split, h]
    · cases hs : split cut rest with
      | nil => exact absurd hs ih
      | cons piece pieces => simp [split, h, hs]

/-- No piece has a member at which the list was cut. -/
theorem not_cut_of_mem_split {cut : α → Bool} {list piece : List α} (h : piece ∈ split cut list)
    {c : α} (hc : c ∈ piece) : cut c = false := by
  induction list generalizing piece with
  | nil => simp_all
  | cons d rest ih =>
    by_cases hd : cut d
    · rw [split_cons_of_cut hd] at h
      rcases List.mem_cons.1 h with rfl | h
      · simp at hc
      · exact ih h hc
    · simp only [split, hd, Bool.false_eq_true, if_false] at h
      cases hs : split cut rest with
      | nil => exact absurd hs (split_ne_nil cut rest)
      | cons first pieces =>
        rw [hs] at h ih
        rcases List.mem_cons.1 h with rfl | h
        · rcases List.mem_cons.1 hc with rfl | hc
          · simpa using hd
          · exact ih List.mem_cons_self hc
        · exact ih (List.mem_cons_of_mem _ h) hc

/-- The pieces have no members but those of the list. -/
theorem mem_of_mem_split {cut : α → Bool} {list piece : List α} (h : piece ∈ split cut list)
    {c : α} (hc : c ∈ piece) : c ∈ list := by
  induction list generalizing piece with
  | nil => simp_all
  | cons d rest ih =>
    by_cases hd : cut d
    · rw [split_cons_of_cut hd] at h
      rcases List.mem_cons.1 h with rfl | h
      · simp at hc
      · exact List.mem_cons_of_mem _ (ih h hc)
    · simp only [split, hd, Bool.false_eq_true, if_false] at h
      cases hs : split cut rest with
      | nil => exact absurd hs (split_ne_nil cut rest)
      | cons first pieces =>
        rw [hs] at h ih
        rcases List.mem_cons.1 h with rfl | h
        · rcases List.mem_cons.1 hc with rfl | hc
          · exact List.mem_cons_self
          · exact List.mem_cons_of_mem _ (ih List.mem_cons_self hc)
        · exact List.mem_cons_of_mem _ (ih (List.mem_cons_of_mem _ h) hc)

theorem split_append_cons {cut : α → Bool} {c : α} (h : cut c) (first rest : List α) :
    split cut (first ++ c :: rest) = split cut first ++ split cut rest := by
  induction first with
  | nil => simp [split_cons_of_cut h]
  | cons d first ih =>
    by_cases hd : cut d
    · simp [split_cons_of_cut hd, ih]
    · cases hs : split cut first with
      | nil => exact absurd hs (split_ne_nil cut first)
      | cons piece pieces => simp [split, hd, ih, hs]

theorem split_of_not_cut {cut : α → Bool} {list : List α} (h : ∀ c ∈ list, cut c = false) :
    split cut list = [list] := by
  induction list with
  | nil => rfl
  | cons c rest ih =>
    have hc := h c List.mem_cons_self
    simp [split, hc, ih fun d hd => h d (List.mem_cons_of_mem _ hd)]

/-- The lines of a text; a newline at the end starts an empty last line. -/
def lines : Text → List Text := split (· == '\n')

/-- A list without the longest part at its end whose members satisfy `drop`. -/
def dropEndWhile (drop : α → Bool) (list : List α) : List α :=
  (list.reverse.dropWhile drop).reverse

@[simp] theorem dropEndWhile_nil (drop : α → Bool) : dropEndWhile drop [] = [] := rfl

theorem dropEndWhile_concat (drop : α → Bool) (list : List α) (c : α) :
    dropEndWhile drop (list ++ [c]) =
      if drop c then dropEndWhile drop list else list ++ [c] := by
  by_cases h : drop c <;> simp [dropEndWhile, h]

theorem dropEndWhile_prefix (drop : α → Bool) (list : List α) :
    dropEndWhile drop list <+: list := by
  rw [← List.reverse_suffix, dropEndWhile, List.reverse_reverse]
  exact List.dropWhile_suffix drop

/-- What follows `part` at the start of a list. -/
def dropPrefix? [DecidableEq α] : List α → List α → Option (List α)
  | [], list => some list
  | _ :: _, [] => none
  | p :: part, c :: rest => if p = c then dropPrefix? part rest else none

theorem dropPrefix?_eq_some_iff [DecidableEq α] {part list rest : List α} :
    dropPrefix? part list = some rest ↔ list = part ++ rest := by
  induction part generalizing list with
  | nil => simp [dropPrefix?]
  | cons p part ih =>
    cases list with
    | nil => simp [dropPrefix?]
    | cons c tail =>
      by_cases h : p = c
      · simp [dropPrefix?, h, ih]
      · simp [dropPrefix?, h, Ne.symm h]

/-- A text up to the first occurrence of `part`, and the text from there on. -/
def breakAt? (part : Text) : Text → Option (Text × Text)
  | [] => if part.isEmpty then some ([], []) else none
  | c :: rest =>
    if part.isPrefixOf (c :: rest) then some ([], c :: rest)
    else (breakAt? part rest).map fun (before, found) => (c :: before, found)

/-- Nothing is lost at a cut. -/
theorem breakAt?_append {part text before found : Text}
    (h : breakAt? part text = some (before, found)) : before ++ found = text := by
  induction text generalizing before with
  | nil =>
    simp only [breakAt?] at h
    split at h <;> simp_all
  | cons c rest ih =>
    simp only [breakAt?] at h
    split at h
    · simp_all
    · obtain ⟨⟨b, f⟩, hb, he⟩ := Option.map_eq_some_iff.1 h
      simp only [Prod.mk.injEq] at he
      obtain ⟨rfl, rfl⟩ := he
      simp [ih hb]

/-- What is found starts with the part that was looked for. -/
theorem isPrefix_of_breakAt? {part text before found : Text}
    (h : breakAt? part text = some (before, found)) : part <+: found := by
  induction text generalizing before with
  | nil =>
    simp only [breakAt?] at h
    split at h <;> simp_all
  | cons c rest ih =>
    simp only [breakAt?] at h
    split at h
    · rename_i hp
      simp only [Option.some.injEq, Prod.mk.injEq] at h
      exact h.2 ▸ List.isPrefixOf_iff_prefix.1 hp
    · obtain ⟨⟨b, f⟩, hb, he⟩ := Option.map_eq_some_iff.1 h
      simp only [Prod.mk.injEq] at he
      obtain ⟨-, rfl⟩ := he
      exact ih hb

/-- The part does not come up in front of the first place where it is found. -/
theorem not_infix_of_breakAt? {part text before found : Text}
    (h : breakAt? part text = some (before, found)) (hp : part ≠ []) : ¬ part <:+: before := by
  induction text generalizing before with
  | nil =>
    rw [breakAt?, if_neg (by simpa using hp)] at h
    cases h
  | cons c rest ih =>
    have happend := breakAt?_append h
    rw [breakAt?] at h
    split at h
    · obtain ⟨rfl, rfl⟩ := h
      exact fun hm => hp (List.infix_nil.1 hm)
    · rename_i hhere
      obtain ⟨⟨b, f⟩, hb, he⟩ := Option.map_eq_some_iff.1 h
      obtain ⟨rfl, rfl⟩ := he
      rw [List.infix_cons_iff, not_or]
      refine ⟨fun hprefix => hhere (List.isPrefixOf_iff_prefix.2 ?_), ih hb⟩
      exact happend ▸ hprefix.trans (List.prefix_append _ _)

def includes (part text : Text) : Bool := (breakAt? part text).isSome

theorem includes_iff {part text : Text} : includes part text ↔ part <:+: text := by
  induction text with
  | nil => simp [includes, breakAt?, List.infix_nil]
  | cons c text ih =>
    rw [includes, breakAt?, List.infix_cons_iff, ← ih, includes, ← List.isPrefixOf_iff_prefix]
    split <;> simp_all

theorem breakAt?_eq_none_iff {part text : Text} :
    breakAt? part text = none ↔ ¬ part <:+: text := by
  rw [← includes_iff, includes, Bool.not_eq_true, Option.isSome_eq_false_iff,
    Option.isNone_iff_eq_none]

/-- A pair of characters is found behind a text that has no such pair and does not end in the
character. -/
theorem breakAt?_append_pair {c : Char} {text : Text} (h : ¬ [c, c] <:+: text)
    (hlast : text.getLast? ≠ some c) (rest : Text) :
    breakAt? [c, c] (text ++ c :: c :: rest) = some (text, c :: c :: rest) := by
  induction text with
  | nil => simp [breakAt?]
  | cons d text ih =>
    rw [List.infix_cons_iff, not_or] at h
    have hhere : ¬ [c, c] <+: d :: (text ++ c :: c :: rest) := by
      cases text with
      | nil =>
        rintro ⟨_, happend⟩
        obtain ⟨rfl, -⟩ := List.cons_eq_cons.1 happend
        exact hlast rfl
      | cons e text =>
        rintro ⟨_, happend⟩
        obtain ⟨rfl, hmore⟩ := List.cons_eq_cons.1 happend
        obtain ⟨rfl, -⟩ := List.cons_eq_cons.1 hmore
        exact h.1 ⟨text, rfl⟩
    have hmore : text.getLast? ≠ some c := by
      cases text with
      | nil => simp
      | cons e text => rwa [List.getLast?_cons_cons] at hlast
    rw [List.cons_append, breakAt?, if_neg (by rwa [List.isPrefixOf_iff_prefix]), ih h.2 hmore]
    rfl

/-- The number of bytes of a text in UTF-8. -/
def utf8Size : Text → Nat
  | [] => 0
  | c :: rest => c.utf8Size + utf8Size rest

@[simp] theorem utf8Size_nil : utf8Size [] = 0 := rfl

@[simp] theorem utf8Size_cons (c : Char) (text : Text) :
    utf8Size (c :: text) = c.utf8Size + utf8Size text := rfl

theorem utf8Size_append (a b : Text) : utf8Size (a ++ b) = utf8Size a + utf8Size b := by
  induction a with
  | nil => simp
  | cons c rest ih => simp [ih, Nat.add_assoc]

def decimal (digits : Text) : Nat := digits.foldl (fun n c => 10 * n + (c.toNat - '0'.toNat)) 0

end Text

end GoStubs
