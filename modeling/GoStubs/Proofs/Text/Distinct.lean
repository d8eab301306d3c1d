import Mathlib.Data.List.Basic

/-!
# First places in a list

A list whose repetitions are erased keeps the order in which its members come first, and so does a
list of those members that satisfy a condition.
-/

namespace GoStubs.Text

variable {α : Type} [BEq α] {p : α → Bool} {list : List α} {a b : α}

/-- An induction along the erasure of repetitions. -/
@[elab_as_elim]
theorem eraseDups_induction {motive : List α → Prop} (nil : motive [])
    (cons : ∀ a list, motive (list.filter fun b => !b == a) → motive (a :: list))
    (list : List α) : motive list := by
  induction hn : list.length using Nat.strongRecOn generalizing list with
  | ind n ih =>
      subst hn
      cases list with
      | nil => exact nil
      | cons a list =>
          have hle := List.length_filter_le (fun b => !b == a) list
          exact cons a list (ih _ (Nat.lt_succ_of_le hle) _ rfl)

variable [LawfulBEq α]

theorem idxOf_cons_lt_iff (c : α) (list : List α) :
    (c :: list).idxOf a < (c :: list).idxOf b ↔
      b ≠ c ∧ (a = c ∨ list.idxOf a < list.idxOf b) := by
  by_cases ha : a = c
  · subst ha
    by_cases hb : b = a
    · simp [hb]
    · simp [hb, List.idxOf_cons_ne list (Ne.symm hb)]
  · rw [List.idxOf_cons_ne list (Ne.symm ha)]
    by_cases hb : b = c
    · simp [hb]
    · simp [ha, hb, List.idxOf_cons_ne list (Ne.symm hb)]

theorem idxOf_filter_lt_iff (ha : p a) (hb : p b) :
    (list.filter p).idxOf a < (list.filter p).idxOf b ↔ list.idxOf a < list.idxOf b := by
  induction list with
  | nil => rfl
  | cons c list ih =>
      rw [idxOf_cons_lt_iff]
      cases hc : p c with
      | true => rw [List.filter_cons_of_pos hc, idxOf_cons_lt_iff, ih]
      | false =>
          have hne {d : α} (hd : p d) : d ≠ c := by
            rintro rfl
            simp [hc] at hd
          rw [List.filter_cons_of_neg (by simp [hc]), ih]
          simp [hne ha, hne hb]

theorem idxOf_eraseDups_lt_iff :
    list.eraseDups.idxOf a < list.eraseDups.idxOf b ↔ list.idxOf a < list.idxOf b := by
  induction list using eraseDups_induction with
  | nil => rfl
  | cons c list ih =>
      rw [List.eraseDups_cons, idxOf_cons_lt_iff, idxOf_cons_lt_iff, ih]
      by_cases ha : a = c
      · simp [ha]
      · by_cases hb : b = c
        · simp [hb]
        · rw [idxOf_filter_lt_iff (by simp [ha]) (by simp [hb])]

theorem nodup_eraseDups (list : List α) : list.eraseDups.Nodup := by
  induction list using eraseDups_induction with
  | nil => exact List.nodup_nil
  | cons a list ih =>
      rw [List.eraseDups_cons, List.nodup_cons, List.mem_eraseDups]
      exact ⟨by simp, ih⟩

theorem eraseDups_filter (p : α → Bool) (list : List α) :
    (list.filter p).eraseDups = list.eraseDups.filter p := by
  induction list using eraseDups_induction with
  | nil => rfl
  | cons a list ih =>
      rw [List.eraseDups_cons]
      cases ha : p a with
      | true =>
          rw [List.filter_cons_of_pos ha, List.filter_cons_of_pos ha, List.eraseDups_cons, ← ih,
            List.filter_filter, List.filter_filter]
          simp only [Bool.and_comm]
      | false =>
          have hne : list.filter p = (list.filter fun b => !b == a).filter p := by
            rw [List.filter_filter]
            refine List.filter_congr fun b _ => ?_
            cases hb : p b with
            | false => rfl
            | true =>
                have hba : b ≠ a := by
                  rintro rfl
                  simp [ha] at hb
                simp [hba]
          rw [List.filter_cons_of_neg (by simp [ha]), List.filter_cons_of_neg (by simp [ha]), hne,
            ih]

end GoStubs.Text
