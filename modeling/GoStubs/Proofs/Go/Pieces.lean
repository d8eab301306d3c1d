import GoStubs.Proofs.Go.Insertion

/-!
# Pieces of a text

A text that is cut at no character comes back as one piece, and any other text is cut first at the
first character where the condition holds.  The entries of a list are the pieces between its commas
outside of brackets.
-/

namespace GoStubs.Go.Bracket

variable {cut : Int → Char → Bool} {text list rest before : Text} {texts others : List Text}
  {c : Char} {depth : Int}

/-- No character of a text that starts at a depth is one to cut at. -/
def Uncut (cut : Int → Char → Bool) (depth : Int) (text : Text) : Prop :=
  ∀ before c after, text = before ++ c :: after → cut (depth + depthBehind before) c = false

theorem uncut_nil (cut : Int → Char → Bool) (depth : Int) : Uncut cut depth [] := by
  intro before c after h
  simp at h

theorem uncut_cons_iff :
    Uncut cut depth (c :: text) ↔ cut depth c = false ∧ Uncut cut (depth + turn c) text := by
  constructor
  · intro h
    refine ⟨by simpa [depthBehind] using h [] c text rfl, fun before d after ht => ?_⟩
    have hd := h (c :: before) d after (by rw [ht, List.cons_append])
    rwa [depthBehind, ← Int.add_assoc] at hd
  · rintro ⟨hc, ht⟩ before d after he
    cases before with
    | nil =>
        obtain ⟨rfl, -⟩ := List.cons.inj he
        simpa [depthBehind] using hc
    | cons e before =>
        obtain ⟨rfl, htail⟩ := List.cons.inj he
        rw [depthBehind, ← Int.add_assoc]
        exact ht before d after htail

theorem splitFrom_uncut (h : Uncut cut depth text) (rest : Text) :
    splitFrom cut depth (text ++ rest) =
      (splitFrom cut (depth + depthBehind text) rest).modifyHead (text ++ ·) := by
  induction text generalizing depth with
  | nil =>
      rw [depthBehind, Int.add_zero]
      exact (modifyHead_nil_append _).symm
  | cons c text ih =>
      obtain ⟨hc, ht⟩ := uncut_cons_iff.1 h
      rw [List.cons_append, splitFrom, if_neg (by simp [hc]), ih ht, depthBehind, Int.add_assoc,
        List.modifyHead_modifyHead]
      rfl

theorem exists_cut_of_not_uncut (h : ¬ Uncut cut depth text) :
    ∃ before c after, text = before ++ c :: after ∧ Uncut cut depth before ∧
      cut (depth + depthBehind before) c := by
  induction text generalizing depth with
  | nil => exact absurd (uncut_nil cut depth) h
  | cons c text ih =>
      cases hc : cut depth c with
      | true => exact ⟨[], c, text, rfl, uncut_nil cut depth, by simpa [depthBehind] using hc⟩
      | false =>
          obtain ⟨before, d, after, rfl, hu, hd⟩ := ih fun ht => h (uncut_cons_iff.2 ⟨hc, ht⟩)
          refine ⟨c :: before, d, after, rfl, uncut_cons_iff.2 ⟨hc, hu⟩, ?_⟩
          rwa [depthBehind, ← Int.add_assoc]

/-! ### Pieces between commas -/

/-- A text in which no comma stands outside of brackets: the number of brackets that are opened in
front of a comma is not the number of those that are closed. -/
def Undivided (text : Text) : Prop :=
  ∀ before after, text = before ++ ',' :: after → depthBehind before ≠ 0

/-- The pieces of a list between its commas outside of brackets. -/
inductive Pieces : List Text → Text → Prop
  | last {text : Text} (undivided : Undivided text) : Pieces [text] text
  | cons {text list : Text} {texts : List Text} (undivided : Undivided text)
      (level : depthBehind text = 0) (rest : Pieces texts list) :
      Pieces (text :: texts) (text ++ ',' :: list)

/-- Whether a character divides a list. -/
def divides (depth : Int) (c : Char) : Bool := depth == 0 && c == ','

theorem entries_eq (list : Text) :
    entries list = ((splitFrom divides 0 list).map Text.trim).filter (! ·.isEmpty) := rfl

theorem undivided_iff : Undivided text ↔ Uncut divides 0 text := by
  constructor
  · intro h before c after ht
    rw [divides, Int.zero_add, Bool.and_eq_false_iff, beq_eq_false_iff_ne, beq_eq_false_iff_ne,
      or_iff_not_imp_right, not_ne_iff]
    rintro rfl
    exact h before after ht
  · intro h before after ht hzero
    have hc := h before ',' after ht
    rw [hzero] at hc
    cases hc

theorem Pieces.splitFrom_eq (h : Pieces texts list) : splitFrom divides 0 list = texts := by
  induction h with
  | @last text hu =>
      have hsplit := splitFrom_uncut (undivided_iff.1 hu) []
      rwa [List.append_nil, splitFrom, List.modifyHead_cons, List.append_nil] at hsplit
  | @cons text list texts hu hlevel _ ih =>
      rw [splitFrom_uncut (undivided_iff.1 hu), hlevel, splitFrom, if_pos (by rfl), Int.zero_add,
        ih, List.modifyHead_cons, List.append_nil]

theorem exists_pieces (list : Text) : ∃ texts, Pieces texts list := by
  induction hn : list.length using Nat.strongRecOn generalizing list with
  | ind n ih =>
      subst hn
      -- An undivided list is one piece; otherwise what follows its first dividing comma is shorter.
      by_cases hu : Uncut divides 0 list
      · exact ⟨[list], .last (undivided_iff.2 hu)⟩
      · obtain ⟨before, c, after, rfl, hb, hc⟩ := exists_cut_of_not_uncut hu
        simp only [divides, Int.zero_add, Bool.and_eq_true, beq_iff_eq] at hc
        obtain ⟨hlevel, rfl⟩ := hc
        have hshorter : after.length < (before ++ ',' :: after).length := by
          simp only [List.length_append, List.length_cons]
          omega
        obtain ⟨texts, ht⟩ := ih after.length hshorter after rfl
        exact ⟨before :: texts, .cons (undivided_iff.2 hb) hlevel ht⟩

theorem pieces_iff : Pieces texts list ↔ splitFrom divides 0 list = texts := by
  refine ⟨Pieces.splitFrom_eq, ?_⟩
  rintro rfl
  obtain ⟨texts, ht⟩ := exists_pieces list
  rwa [ht.splitFrom_eq]

end GoStubs.Go.Bracket
