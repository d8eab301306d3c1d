import Mathlib.Data.List.Forall2

/-!
# Results of computations that may fail

When a sequence of computations succeeds, each of them does, and when it fails, one of them does.
-/

namespace GoStubs.Except

variable {ε δ α β : Type}

theorem bind_eq_ok_iff {x : Except ε α} {f : α → Except ε β} {b : β} :
    x >>= f = .ok b ↔ ∃ a, x = .ok a ∧ f a = .ok b := by
  cases x <;> simp [bind, Except.bind]

theorem bind_eq_error_iff {x : Except ε α} {f : α → Except ε β} {error : ε} :
    x >>= f = .error error ↔ x = .error error ∨ ∃ a, x = .ok a ∧ f a = .error error := by
  cases x <;> simp [bind, Except.bind]

theorem mapError_eq_ok_iff {x : Except ε α} {f : ε → δ} {a : α} :
    x.mapError f = .ok a ↔ x = .ok a := by
  cases x <;> simp [Except.mapError]

theorem mapError_eq_error_iff {x : Except ε α} {f : ε → δ} {error : δ} :
    x.mapError f = .error error ↔ ∃ other, x = .error other ∧ f other = error := by
  cases x <;> simp [Except.mapError]

theorem pure_eq_ok_iff {a b : α} : (pure a : Except ε α) = .ok b ↔ a = b := by
  simp [pure, Except.pure]

theorem toOption_eq_some_iff {x : Except ε α} {a : α} : x.toOption = some a ↔ x = .ok a := by
  cases x <;> simp [Except.toOption]

theorem mapM_eq_ok_iff {f : α → Except ε β} {list : List α} {found : List β} :
    list.mapM f = .ok found ↔ List.Forall₂ (fun a b => f a = .ok b) list found := by
  induction list generalizing found with
  | nil =>
      rw [List.mapM_nil, pure_eq_ok_iff, List.forall₂_nil_left_iff]
      exact eq_comm
  | cons a list ih =>
      simp only [List.mapM_cons, bind_eq_ok_iff, pure_eq_ok_iff, ih, List.forall₂_cons_left_iff]
      constructor
      · rintro ⟨b, hb, rest, hrest, rfl⟩
        exact ⟨b, rest, hb, hrest, rfl⟩
      · rintro ⟨b, rest, hb, hrest, rfl⟩
        exact ⟨b, hb, rest, hrest, rfl⟩

theorem exists_of_mapM_eq_error {f : α → Except ε β} {list : List α} {error : ε}
    (h : list.mapM f = .error error) : ∃ a ∈ list, f a = .error error := by
  induction list with
  | nil => cases h
  | cons a list ih =>
      rw [List.mapM_cons] at h
      cases ha : f a with
      | error other =>
          rw [ha] at h
          cases h
          exact ⟨a, List.mem_cons_self, ha⟩
      | ok b =>
          cases hl : list.mapM f with
          | error other =>
              rw [ha, hl] at h
              cases h
              obtain ⟨c, hc, he⟩ := ih hl
              exact ⟨c, List.mem_cons_of_mem a hc, he⟩
          | ok rest =>
              rw [ha, hl] at h
              cases h

end GoStubs.Except
