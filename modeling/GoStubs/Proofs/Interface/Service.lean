import GoStubs.Interface.Read
import GoStubs.Proofs.Except
import GoStubs.Proofs.Text.Ascii

/-!
# Names of services

A package clause names its package with plain letters, digits and underscores.  Changing the case of
such characters gives characters of this kind again, so the name of a service can be a part of a
file name.
-/

namespace GoStubs

open Interface (isPlainLetter isPlainWordChar)

/-- Whether a text has none but plain letters, digits and underscores. -/
def Text.IsPlain (text : Text) : Prop := ∀ c ∈ text, isPlainWordChar c

/-- A name in lower case: small letters, digits and underscores, with no digit in front. -/
structure Text.IsStem (text : Text) : Prop where
  isPlain : text.IsPlain
  small : ∀ c ∈ text, c.isUpper = false
  letter : text.head?.any isPlainLetter

variable {text before : Text} {c : Char}

theorem toNat_lt_of_isPlainWordChar (h : isPlainWordChar c) : c.toNat < 128 := by
  have hranges : isPlainWordChar c = (decide (65 ≤ c.val ∧ c.val ≤ 90) ||
      (97 ≤ c.val && c.val ≤ 122) || (48 ≤ c.val && c.val ≤ 57) || c == '_') := rfl
  simp only [hranges, Bool.or_eq_true, Bool.and_eq_true, decide_eq_true_eq, beq_iff_eq,
    UInt32.le_iff_toNat_le] at h
  change ((65 ≤ c.toNat ∧ c.toNat ≤ 90 ∨ 97 ≤ c.toNat ∧ c.toNat ≤ 122) ∨
    48 ≤ c.toNat ∧ c.toNat ≤ 57) ∨ c = '_' at h
  rcases h with h | rfl
  · omega
  · decide

theorem Interface.isPlainWordChar_of_isPlainLetter (h : isPlainLetter c) : isPlainWordChar c := by
  rw [isPlainLetter, Bool.or_eq_true] at h
  rw [isPlainWordChar, Char.isAlphanum, Bool.or_eq_true, Bool.or_eq_true]
  exact h.imp_left .inl

theorem Text.isWordChar_of_isPlainWordChar (h : isPlainWordChar c) : isWordChar c := by
  rwa [isWordChar_eq_isAlphanum (toNat_lt_of_isPlainWordChar h)]

theorem Interface.isPlainLetter_eq (h : isPlainWordChar c) :
    isPlainLetter c = (Text.isAlphabetic c || c == '_') := by
  rw [Text.isAlphabetic_eq_isAlpha (toNat_lt_of_isPlainWordChar h), isPlainLetter]

/-- Whether a character is a plain capital or an underscore. -/
def Service.isCapital (c : Char) : Bool := c.isUpper || c == '_'

theorem Service.isPlainLetter_of_isCapital (h : isCapital c) : isPlainLetter c := by
  rw [isCapital, Bool.or_eq_true] at h
  have halpha : c.isAlpha = (c.isUpper || c.isLower) := rfl
  rw [isPlainLetter, halpha, Bool.or_eq_true, Bool.or_eq_true]
  exact h.imp_left .inl

namespace Text

/-! ### Lower case -/

/-- A plain character in lower case is plain and no capital, and it starts a name if it did. -/
theorem exists_lowerChar (h : isPlainWordChar c) : ∃ small, lowerChar c = [small] ∧
    isPlainWordChar small ∧ small.isUpper = false ∧ isPlainLetter small = isPlainLetter c := by
  have hc : c.toNat < 128 := toNat_lt_of_isPlainWordChar h
  have hlower : isPlainWordChar c.toLower = isPlainWordChar c ∧ c.toLower.isUpper = false ∧
      isPlainLetter c.toLower = isPlainLetter c :=
    forall_ascii (p := fun c => isPlainWordChar c.toLower = isPlainWordChar c ∧
      c.toLower.isUpper = false ∧ isPlainLetter c.toLower = isPlainLetter c) (by decide +kernel) hc
  exact ⟨c.toLower, lowerChar_eq_toLower hc, hlower.1.trans h, hlower.2⟩

theorem lowerChar_eq_self (h : isPlainWordChar c) (hs : c.isUpper = false) :
    lowerChar c = [c] := by
  have hc : c.toNat < 128 := toNat_lt_of_isPlainWordChar h
  have hsmall : c.isUpper = false → c.toLower = c :=
    forall_ascii (p := fun c => c.isUpper = false → c.toLower = c) (by decide +kernel) hc
  rw [lowerChar_eq_toLower hc, hsmall hs]

theorem lowerAfter_cons_plain (h : isPlainWordChar c) :
    lowerAfter before (c :: text) = lowerChar c ++ lowerAfter (c :: before) text := by
  have hsigma : c ≠ 'Σ' := by
    rintro rfl
    exact absurd h (by decide)
  rw [lowerAfter, if_neg hsigma]

/-- Plain characters in lower case are plain, and none of them is a capital. -/
theorem plain_lowerAfter (h : IsPlain text) :
    ∀ c ∈ lowerAfter before text, isPlainWordChar c ∧ c.isUpper = false := by
  induction text generalizing before with
  | nil => exact List.forall_mem_nil _
  | cons c text ih =>
      obtain ⟨hplain, ht⟩ := List.forall_mem_cons.1 h
      obtain ⟨small, hlower, hsmall, hnot, -⟩ := exists_lowerChar hplain
      rw [lowerAfter_cons_plain hplain, hlower]
      exact List.forall_mem_cons.2 ⟨⟨hsmall, hnot⟩, ih ht⟩

theorem isStem_lower (h : IsPlain (c :: text)) (hl : isPlainLetter c) :
    (lower (c :: text)).IsStem := by
  have hplain : isPlainWordChar c := h c List.mem_cons_self
  obtain ⟨small, hlower, -, -, hletter⟩ := exists_lowerChar hplain
  refine ⟨fun d hd => (plain_lowerAfter h d hd).1, fun d hd => (plain_lowerAfter h d hd).2, ?_⟩
  rw [lower, lowerAfter_cons_plain hplain, hlower]
  exact hletter.trans hl

/-- What is in lower case stays as it is. -/
theorem lowerAfter_eq_self (h : IsPlain text) (hs : ∀ c ∈ text, c.isUpper = false) :
    lowerAfter before text = text := by
  induction text generalizing before with
  | nil => rfl
  | cons c text ih =>
      obtain ⟨hplain, ht⟩ := List.forall_mem_cons.1 h
      obtain ⟨hsc, hst⟩ := List.forall_mem_cons.1 hs
      rw [lowerAfter_cons_plain hplain, lowerChar_eq_self hplain hsc, ih ht hst,
        List.singleton_append]

end Text

namespace Service

/-! ### Upper case -/

/-- A plain character in upper case is plain, and in lower case it is as it was. -/
theorem exists_upper (h : isPlainWordChar c) : ∃ capital, Text.upper c = [capital] ∧
    isPlainWordChar capital ∧ isCapital capital = isPlainLetter c ∧
      Text.lowerChar capital = Text.lowerChar c := by
  have hc : c.toNat < 128 := toNat_lt_of_isPlainWordChar h
  have hupper : isPlainWordChar c.toUpper = isPlainWordChar c ∧
      isCapital c.toUpper = isPlainLetter c ∧ c.toUpper.toLower = c.toLower :=
    Text.forall_ascii (p := fun c => isPlainWordChar c.toUpper = isPlainWordChar c ∧
      isCapital c.toUpper = isPlainLetter c ∧ c.toUpper.toLower = c.toLower) (by decide +kernel) hc
  obtain ⟨hplain, hcapital, hlower⟩ := hupper
  refine ⟨c.toUpper, Text.upper_eq_toUpper hc, hplain.trans h, hcapital, ?_⟩
  rw [Text.lowerChar_eq_toLower hc,
    Text.lowerChar_eq_toLower (toNat_lt_of_isPlainWordChar (hplain.trans h)), hlower]

theorem isPlain_capitalise {start : Bool} (h : text.IsPlain) : (capitalise start text).IsPlain := by
  induction text generalizing start with
  | nil => exact List.forall_mem_nil _
  | cons c text ih =>
      obtain ⟨hplain, ht⟩ := List.forall_mem_cons.1 h
      obtain ⟨capital, hupper, hcapital, -⟩ := exists_upper hplain
      refine List.forall_mem_append.2 ⟨?_, ih ht⟩
      cases start with
      | false => exact List.forall_mem_singleton.2 hplain
      | true =>
          rw [if_pos rfl, hupper]
          exact List.forall_mem_singleton.2 hcapital

theorem exists_capitalise (hl : isPlainLetter c) (text : Text) :
    ∃ first rest, isCapital first ∧ capitalise true (c :: text) = first :: rest := by
  obtain ⟨capital, hupper, -, hcapital, -⟩ :=
    exists_upper (Interface.isPlainWordChar_of_isPlainLetter hl)
  refine ⟨capital, capitalise (!Text.isWordChar c) text, hcapital.trans hl, ?_⟩
  rw [capitalise, if_pos rfl, hupper, List.singleton_append]

end Service

namespace Interface

theorem isPlain_of_packageClause? {name : Text} (h : packageClause? text = some name) :
    name.IsPlain := by
  simp only [packageClause?, Option.bind_eq_bind, Option.bind_eq_some_iff] at h
  obtain ⟨behind, -, hname⟩ := h
  split at hname
  · cases hname
    exact fun c hc => List.all_eq_true.1 (List.all_takeWhile) c hc
  · cases hname

theorem exists_of_firstLine? {α : Type} {read : Text → Option α} {start : Bool} {found : α}
    (h : firstLine? read start text = some found) : ∃ line, read line = some found := by
  induction text generalizing start with
  | nil =>
      cases start with
      | false => cases h
      | true => exact ⟨[], h⟩
  | cons c text ih =>
      rw [firstLine?] at h
      split at h
      · next other hother =>
          cases h
          cases start with
          | false => cases hother
          | true => exact ⟨_, hother⟩
      · exact ih h

theorem exists_letter_of_packageClause? {name : Text} (h : packageClause? text = some name) :
    ∃ c rest, isPlainLetter c ∧ name = c :: rest := by
  simp only [packageClause?, Option.bind_eq_bind, Option.bind_eq_some_iff] at h
  obtain ⟨behind, -, hname⟩ := h
  split at hname
  · next hletter =>
      cases hname
      obtain ⟨c, rest, rfl⟩ : ∃ c rest, behind = c :: rest := by
        cases behind with
        | nil => cases hletter
        | cons c rest => exact ⟨c, rest, rfl⟩
      have hc : isPlainLetter c := hletter
      exact ⟨c, _, hc, List.takeWhile_cons_of_pos (isPlainWordChar_of_isPlainLetter hc)⟩
  · cases hname

/-- The name of a service has plain characters only, and starts with a capital or an underscore. -/
theorem name_of_findService {content : Text} {service : Service}
    (h : findService content = .ok service) :
    service.name.IsPlain ∧ ∃ c rest, Service.isCapital c ∧ service.name = c :: rest := by
  unfold findService at h
  split at h
  · next name hname =>
      cases h
      obtain ⟨text, htext⟩ := exists_of_firstLine? hname
      obtain ⟨c, rest, hc, rfl⟩ := exists_letter_of_packageClause? htext
      exact ⟨Service.isPlain_capitalise (isPlain_of_packageClause? htext),
        Service.exists_capitalise hc rest⟩
  · cases h

theorem isStem_fileStem {content : Text} {service : Service}
    (h : findService content = .ok service) : service.fileStem.IsStem := by
  obtain ⟨hplain, c, rest, hc, hname⟩ := name_of_findService h
  rw [hname] at hplain
  rw [Service.fileStem, hname]
  exact Text.isStem_lower hplain (Service.isPlainLetter_of_isCapital hc)

theorem findService_of_ofContent {marker content : Text} {found : Interface}
    (h : ofContent marker content = .ok found) : findService content = .ok found.service := by
  simp only [ofContent, Except.bind_eq_ok_iff, Except.pure_eq_ok_iff] at h
  obtain ⟨service, hservice, methods, -, rfl⟩ := h
  exact hservice

end Interface

end GoStubs
