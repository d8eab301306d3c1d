import Mathlib.Data.List.Chain
import GoStubs.Proofs.Text.Blank

/-!
# Spaced texts

In a spaced text single spaces stand between words, and no other blanks.  A
collapsed text is spaced, and so is a part of it once it is trimmed.
-/

namespace GoStubs.Text

variable {text first last : Text} {list : List Text} {c : Char}

/-- Blanks are spaces, none at an end and never two in a row. -/
structure IsSpaced (text : Text) : Prop where
  blank : ∀ c ∈ text, isBlank c → c = ' '
  single : text.IsChain fun c d => c ≠ ' ' ∨ d ≠ ' '
  head : text.head? ≠ some ' '
  last : text.getLast? ≠ some ' '

theorem IsSpaced.not_mem (h : IsSpaced text) (hb : isBlank c) (hc : c ≠ ' ') : c ∉ text :=
  fun hm => hc (h.blank c hm hb)

theorem isSpaced_of_not_isBlank (h : ∀ c ∈ text, isBlank c = false) : IsSpaced text := by
  have hspace : ' ' ∉ text := fun hm => absurd (h ' ' hm) (by decide)
  refine ⟨?_, ?_, fun hh => hspace (List.mem_of_mem_head? hh),
    fun hl => hspace (List.mem_of_mem_getLast? hl)⟩
  · intro c hm hb
    rw [h c hm] at hb
    cases hb
  · refine List.isChain_iff_forall_rel_of_append_cons_cons.2 ?_
    rintro c d before after rfl
    exact .inl fun hc => hspace (by simp [hc])

theorem IsSpaced.append (hf : IsSpaced first) (hl : IsSpaced last) : IsSpaced (first ++ last) where
  blank c hm hb := (List.mem_append.1 hm).elim (hf.blank c · hb) (hl.blank c · hb)
  single := by
    refine List.isChain_append.2 ⟨hf.single, hl.single, ?_⟩
    intro c hc d _
    exact .inl fun hs => hf.last (hs ▸ hc)
  head := by
    cases first with
    | nil => exact hl.head
    | cons c rest => exact hf.head
  last := by
    intro h
    rw [List.getLast?_append, Option.or_eq_some_iff] at h
    rcases h with h | ⟨-, h⟩
    · exact hl.last h
    · exact hf.last h

theorem IsSpaced.append_space (hf : IsSpaced first) (hl : IsSpaced last) (hfn : first ≠ [])
    (hln : last ≠ []) : IsSpaced (first ++ ' ' :: last) where
  blank c hm hb := by
    rcases List.mem_append.1 hm with hm | hm
    · exact hf.blank c hm hb
    · rcases List.mem_cons.1 hm with rfl | hm
      · rfl
      · exact hl.blank c hm hb
  single := by
    refine List.isChain_append.2 ⟨hf.single, ?_, ?_⟩
    · obtain ⟨d, rest, rfl⟩ := List.exists_cons_of_ne_nil hln
      refine List.isChain_cons_cons.2 ⟨.inr fun hd => hl.head ?_, hl.single⟩
      rw [hd]
      rfl
    · intro c hc d _
      exact .inl fun hs => hf.last (hs ▸ hc)
  head := by
    obtain ⟨c, rest, rfl⟩ := List.exists_cons_of_ne_nil hfn
    exact hf.head
  last := by
    intro h
    rw [List.getLast?_append, List.getLast?_cons_of_ne_nil hln, Option.or_eq_some_iff] at h
    rcases h with h | ⟨h, -⟩
    · exact hl.last h
    · exact hln (List.getLast?_eq_none_iff.1 h)

theorem isSpaced_intercalate (h : ∀ word ∈ list, word ≠ [] ∧ ∀ c ∈ word, isBlank c = false) :
    IsSpaced ([' '].intercalate list) := by
  induction list with
  | nil => exact isSpaced_of_not_isBlank (List.forall_mem_nil _)
  | cons word rest ih =>
      obtain ⟨⟨hne, hword⟩, hrest⟩ := List.forall_mem_cons.1 h
      cases rest with
      | nil => simpa using isSpaced_of_not_isBlank hword
      | cons next rest =>
          have hnext : [' '].intercalate (next :: rest) ≠ [] := by
            obtain ⟨c, tail, rfl⟩ := List.exists_cons_of_ne_nil (hrest next List.mem_cons_self).1
            simp
          rw [List.intercalate_cons_cons, List.append_assoc]
          exact (isSpaced_of_not_isBlank hword).append_space (ih hrest) hne hnext

theorem isSpaced_collapse (text : Text) : IsSpaced (collapse text) :=
  isSpaced_intercalate fun _ hw =>
    ⟨ne_nil_of_mem_words hw, fun _ hc => not_isBlank_of_mem_words hw hc⟩

theorem trim_isInfix (text : Text) : trim text <:+: text := by
  have hfront : trim text <+: trimStart text := dropEndWhile_prefix isBlank _
  exact hfront.isInfix.trans (List.dropWhile_suffix isBlank).isInfix

theorem not_isBlank_of_getLast?_trim (h : (trim text).getLast? = some c) : isBlank c = false := by
  rw [trim, trimEnd, dropEndWhile, List.getLast?_reverse] at h
  have hc := List.head?_dropWhile_not isBlank (trimStart text).reverse
  rw [h] at hc
  simpa using hc

/-- A part of a spaced text is spaced once it is trimmed. -/
theorem IsSpaced.trim (h : IsSpaced text) (hp : last <:+: text) : IsSpaced (trim last) where
  blank c hm hb := h.blank c (((trim_isInfix last).trans hp).subset hm) hb
  single := h.single.infix ((trim_isInfix last).trans hp)
  head hh := by
    obtain ⟨rest, hrest⟩ := List.head?_eq_some_iff.1 hh
    have hblank : isBlank ' ' = false := not_isBlank_of_trim (by rw [← hrest, trim_trim])
    exact absurd hblank (by decide)
  last hl := absurd (not_isBlank_of_getLast?_trim hl) (by decide)

/-- Nothing is trimmed of a spaced text. -/
theorem IsSpaced.trim_eq (h : IsSpaced text) : Text.trim text = text := by
  rcases List.eq_nil_or_concat text with rfl | ⟨front, d, rfl⟩
  · rfl
  rw [List.concat_eq_append] at h ⊢
  have hlast : isBlank d = false := Bool.eq_false_iff.2 fun hb => by
    have hd := h.blank d (by simp) hb
    exact h.last (by simp [hd])
  cases front with
  | nil => rw [List.nil_append, trim_cons hlast, trimEnd_nil]
  | cons c front =>
      have hfirst : isBlank c = false := Bool.eq_false_iff.2 fun hb => by
        have hc := h.blank c (by simp) hb
        exact h.head (by simp [hc])
      rw [List.cons_append, trim_cons hfirst, trimEnd_concat hlast]

theorem IsSpaced.suffix (h : IsSpaced text) (hs : last <:+ text) (hh : last.head? ≠ some ' ') :
    IsSpaced last where
  blank c hm hb := h.blank c (hs.subset hm) hb
  single := h.single.infix hs.isInfix
  head := hh
  last hl := by
    obtain ⟨front, rfl⟩ := hs
    exact h.last (by rw [List.getLast?_append, hl]; rfl)

/-- Behind the first character, only one space can be trimmed. -/
theorem IsSpaced.trim_behind (h : IsSpaced (c :: text)) :
    Text.trim text = text ∨ text = ' ' :: Text.trim text := by
  by_cases hspace : text.head? = some ' '
  · obtain ⟨rest, rfl⟩ := List.head?_eq_some_iff.1 hspace
    have hrest : IsSpaced rest := by
      refine h.suffix ⟨[c, ' '], rfl⟩ fun hh => ?_
      obtain ⟨behind, rfl⟩ := List.head?_eq_some_iff.1 hh
      have hchain := List.isChain_cons_cons.1 (List.isChain_cons_cons.1 h.single).2
      exact hchain.1.elim (· rfl) (· rfl)
    have htrim : Text.trim ([' '] ++ rest) = Text.trim rest :=
      trim_gap_append (List.forall_mem_singleton.2 (by decide)) rest
    rw [List.singleton_append, hrest.trim_eq] at htrim
    exact .inr (congrArg (' ' :: ·) htrim.symm)
  · exact .inl (h.suffix (List.suffix_cons c text) hspace).trim_eq

end GoStubs.Text
