import GoStubs.Proofs.Text.Blank

/-!
# Escape sequences

An escape sequence sets the colours of a terminal.  What a text shows is what is left of it when its
escape sequences are taken out.
-/

namespace GoStubs.Text

variable {text rest first last a b : Text} {c : Char} {m n : Nat}

/-- What follows an escape sequence at the start of a text: the escape character, a bracket, digits
and semicolons, and the letter `m`. -/
def afterEscape? : Text → Option Text
  | '\x1b' :: '[' :: rest =>
    match rest.dropWhile fun c => c.isDigit || c == ';' with
    | 'm' :: behind => some behind
    | _ => none
  | _ => none

theorem length_lt_of_afterEscape? (h : afterEscape? text = some rest) :
    rest.length < text.length := by
  unfold afterEscape? at h
  split at h
  · rename_i tail
    have hl : (tail.dropWhile fun c => c.isDigit || c == ';').length ≤ tail.length :=
      (List.dropWhile_suffix _).length_le
    split at h
    · rename_i behind hd
      obtain rfl := Option.some.inj h
      rw [hd, List.length_cons] at hl
      simp only [List.length_cons]
      omega
    · cases h
  · cases h

/-- A text without its escape sequences. -/
def withoutEscapes : Text → Text
  | [] => []
  | c :: rest =>
    match _h : afterEscape? (c :: rest) with
    | some behind => withoutEscapes behind
    | none => c :: withoutEscapes rest
termination_by text => text.length
decreasing_by
  · exact length_lt_of_afterEscape? _h
  · simp

theorem withoutEscapes_nil : withoutEscapes [] = [] := by rw [withoutEscapes]

theorem withoutEscapes_of_after (h : afterEscape? text = some rest) :
    withoutEscapes text = withoutEscapes rest := by
  cases text with
  | nil => cases h
  | cons c tail =>
      rw [withoutEscapes]
      split
      · rename_i behind hb
        rw [Option.some.inj (h.symm.trans hb)]
      · rename_i hn
        rw [h] at hn
        cases hn

theorem withoutEscapes_cons (hc : c ≠ '\x1b') (rest : Text) :
    withoutEscapes (c :: rest) = c :: withoutEscapes rest := by
  have hnone : afterEscape? (c :: rest) = none := by
    unfold afterEscape?
    split
    · rename_i heq
      exact absurd (List.cons.inj heq).1 hc
    · rfl
  rw [withoutEscapes]
  split
  · rename_i hb
    rw [hnone] at hb
    cases hb
  · rfl

/-- A text shows another one if that is left of it, in front of any other text. -/
def Shows (painted text : Text) : Prop :=
  ∀ rest, withoutEscapes (painted ++ rest) = text ++ withoutEscapes rest

theorem Shows.eq {painted : Text} (h : Shows painted text) : withoutEscapes painted = text := by
  have hnil := h []
  rwa [List.append_nil, withoutEscapes_nil, List.append_nil] at hnil

theorem Shows.append (hf : Shows first a) (hl : Shows last b) : Shows (first ++ last) (a ++ b) := by
  intro rest
  rw [List.append_assoc, hf, hl, List.append_assoc]

theorem shows_self (h : '\x1b' ∉ text) : Shows text text := by
  intro rest
  induction text with
  | nil => rfl
  | cons c text ih =>
      obtain ⟨hc, ht⟩ := not_or.1 (mt List.mem_cons.2 h)
      rw [List.cons_append, withoutEscapes_cons (Ne.symm hc), ih ht, List.cons_append]

/-! ### What is lost -/

/-- The number of blanks at the start of a text. -/
def indentation (text : Text) : Nat := (text.takeWhile isBlank).length

/-- A text shows all of a plain one, and `n` blanks more. -/
def ShowsMore (n : Nat) (painted plain : Text) : Prop :=
  ∃ text, Shows painted text ∧ List.Sublist plain text ∧ ink plain = ink text ∧
    text.length = plain.length + n

theorem ShowsMore.append (hf : ShowsMore m first a) (hl : ShowsMore n last b) :
    ShowsMore (m + n) (first ++ last) (a ++ b) := by
  obtain ⟨firstText, hfirst, hfs, hfi, hfn⟩ := hf
  obtain ⟨lastText, hlast, hls, hli, hln⟩ := hl
  refine ⟨firstText ++ lastText, hfirst.append hlast, hfs.append hls, ?_, ?_⟩
  · rw [ink_append, ink_append, hfi, hli]
  · rw [List.length_append, List.length_append, hfn, hln]
    omega

theorem Shows.showsMore (h : Shows first text) : ShowsMore 0 first text :=
  ⟨text, h, List.Sublist.refl text, rfl, rfl⟩

theorem Shows.showsMore_trimStart (h : Shows first text) :
    ShowsMore (indentation text) first (trimStart text) := by
  refine ⟨text, h, (List.dropWhile_suffix isBlank).sublist, ink_trimStart text, ?_⟩
  have hlength := congrArg List.length (List.takeWhile_append_dropWhile (p := isBlank) (l := text))
  rw [List.length_append] at hlength
  rw [indentation, trimStart]
  omega

theorem showsMore_self (text : Text) (h : '\x1b' ∉ text) :
    ShowsMore 0 text text ∧ ShowsMore 0 (trimStart text) (trimStart text) :=
  ⟨(shows_self h).showsMore,
    (shows_self fun hm => h ((List.dropWhile_suffix isBlank).subset hm)).showsMore⟩

/-- The plain text is what is left of the painted one if and only if nothing more is shown. -/
theorem ShowsMore.eq_iff (h : ShowsMore n first a) : withoutEscapes first = a ↔ n = 0 := by
  obtain ⟨text, hs, hsub, -, hlength⟩ := h
  rw [hs.eq]
  constructor
  · rintro rfl
    omega
  · rintro rfl
    exact (hsub.eq_of_length (by omega)).symm

theorem indentation_eq_zero (h : ∀ c ∈ text, isBlank c = false) : indentation text = 0 := by
  cases text with
  | nil => rfl
  | cons c rest =>
      rw [indentation, List.takeWhile_cons_of_neg (by simp [h c List.mem_cons_self])]
      rfl

end GoStubs.Text
