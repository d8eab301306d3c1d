import Mathlib.Data.List.Infix
import GoStubs.Proofs.Go.Outside

/-!
# Closing delimiters

The search for a closing delimiter finds the first place outside of literals
where one more delimiter has been closed than opened, and it fails if there is
no such place.  A text whose delimiters pair off is passed over.
-/

namespace GoStubs.Go.Bracket

open Literal (Outside)

variable {opening closing c quote : Char} {text rest inner before after out : Text}
  {depth offset : Nat}

/-- A place outside of literals, given in bytes, where a closing delimiter stands and one more has
been closed, this one included, than opened. -/
def ClosesAt (opening closing : Char) (text : Text) (offset : Nat) : Prop :=
  ∃ before after out, text = before ++ closing :: after ∧ Text.utf8Size before = offset ∧
    Outside before out ∧ (out ++ [closing]).count closing = (out ++ [closing]).count opening + 1

/-- All delimiters are closed, and none of them before it has been opened. -/
def PairsOff (opening closing : Char) (out : Text) : Prop :=
  out.count closing = out.count opening ∧
    ∀ front, front <+: out → front.count closing ≤ front.count opening

instance (opening closing : Char) (out : Text) : Decidable (PairsOff opening closing out) :=
  decidable_of_iff
    (out.count closing = out.count opening ∧
      ∀ front ∈ out.inits, front.count closing ≤ front.count opening)
    (by simp only [PairsOff, List.mem_inits])

theorem utf8Size_le_of_prefix {first last : Text} (h : first <+: last) :
    Text.utf8Size first ≤ Text.utf8Size last := by
  obtain ⟨tail, rfl⟩ := h
  rw [Text.utf8Size_append]
  omega

/-! ### Steps of the search -/

theorem closingFrom?_unfinished (hq : Literal.isQuote quote) (hu : Literal.Unfinished quote text)
    (depth : Nat) : closingFrom? opening closing depth none (quote :: text) = none := by
  have hstays {l : Literal} {text : Text} (h : l.Stays text) :
      closingFrom? opening closing depth (some l) text = none := by
    induction h with
    | nil => rfl
    | cons hn _ ih => rw [closingFrom?, hn, ih, keep_eq, Option.map_none]
  rw [closingFrom?_quote hq, Literal.start?, if_pos hq, hstays hu.stays, keep_eq, Option.map_none]

theorem count_concat_closing_iff (hne : closing ≠ opening) :
    (out ++ [closing]).count closing = (out ++ [closing]).count opening + 1 ↔
      out.count closing = out.count opening := by
  rw [List.count_append, List.count_append, List.count_singleton_self, List.count_singleton,
    if_neg (by simpa using hne)]
  omega

theorem keep_eq_some_iff {found : Option (Text × Text)} :
    closingFrom?.keep c found = some (inner, after) ↔
      ∃ front, found = some (front, after) ∧ inner = c :: front := by
  rw [keep_eq, Option.map_eq_some_iff]
  constructor
  · rintro ⟨⟨front, last⟩, hfound, heq⟩
    cases heq
    exact ⟨front, hfound, rfl⟩
  · rintro ⟨front, hfound, rfl⟩
    exact ⟨(front, after), hfound, rfl⟩

theorem count_cons_eq (c d : Char) (text : Text) :
    (c :: text).count d = [c].count d + text.count d := by
  rw [← List.count_append, List.singleton_append]

/-- What is closed in front of any place, where a character stands in front of the text. -/
theorem count_le_of_prefix_cons {deeper : Nat}
    (hdepth : deeper + [c].count closing = depth + [c].count opening)
    (h : ∀ front, front <+: out → front.count closing ≤ front.count opening + deeper) :
    ∀ front, front <+: c :: out → front.count closing ≤ front.count opening + depth := by
  intro front hf
  cases front with
  | nil => simp
  | cons d front =>
      obtain ⟨rfl, hfront⟩ := List.cons_prefix_cons.1 hf
      have hle := h front hfront
      have hclosing := count_cons_eq d closing front
      have hopening := count_cons_eq d opening front
      omega

/-! ### What the search finds -/

section

variable (hc : Literal.isQuote closing = false) (hne : closing ≠ opening)

include hc hne

/-- What is found is a closing delimiter, before which `depth` more have been closed than opened,
and nowhere before it more than that. -/
theorem outside_of_closingFrom?
    (h : closingFrom? opening closing depth none text = some (inner, after)) :
    text = inner ++ closing :: after ∧
      ∃ out, Outside inner out ∧ out.count closing = out.count opening + depth ∧
        ∀ front, front <+: out → front.count closing ≤ front.count opening + depth := by
  induction text using Literal.induction generalizing depth inner with
  | nil => cases h
  | char c text hq ih =>
      rcases closingFrom?_char hne hq depth with ⟨rfl, rfl⟩ | ⟨deeper, hdepth, hstep⟩
      · rw [closingFrom?_zero hq hne, Option.some.injEq, Prod.mk.injEq] at h
        obtain ⟨rfl, rfl⟩ := h
        exact ⟨rfl, [], .nil, rfl, by simp⟩
      · rw [hstep, keep_eq_some_iff] at h
        obtain ⟨front, hfound, rfl⟩ := h
        obtain ⟨rfl, out, hout, hcount, hfront⟩ := ih hfound
        have hclosing := count_cons_eq c closing out
        have hopening := count_cons_eq c opening out
        exact ⟨rfl, c :: out, .char hq hout, by omega, count_le_of_prefix_cons hdepth hfront⟩
  | literal quote lit text hq hi ih =>
      rw [closingFrom?_literal hq hi] at h
      obtain ⟨⟨front, last⟩, hfound, heq⟩ := Option.map_eq_some_iff.1 h
      cases heq
      obtain ⟨rfl, out, hout, hcount⟩ := ih hfound
      exact ⟨by simp, out, .literal hq hi hout, hcount⟩
  | unfinished quote text hq hu =>
      rw [closingFrom?_unfinished hq hu] at h
      cases h

/-- The search is over at the latest where `depth` more delimiters have been closed than opened and
another one follows. -/
theorem exists_closingFrom?_prefix (h : Outside before out)
    (hcount : out.count closing = out.count opening + depth) (rest : Text) :
    ∃ inner after,
      closingFrom? opening closing depth none (before ++ closing :: rest) = some (inner, after) ∧
        inner <+: before := by
  induction h generalizing depth with
  | nil =>
      obtain rfl : depth = 0 := by simpa [eq_comm] using hcount
      exact ⟨[], rest, closingFrom?_zero hc hne rest, List.nil_prefix⟩
  | @char c text out hq _ ih =>
      rcases closingFrom?_char hne hq depth with ⟨rfl, rfl⟩ | ⟨deeper, hdepth, hstep⟩
      · exact ⟨[], _, closingFrom?_zero hq hne _, List.nil_prefix⟩
      · have hclosing := count_cons_eq c closing out
        have hopening := count_cons_eq c opening out
        have hrest : out.count closing = out.count opening + deeper := by omega
        obtain ⟨inner, after, hfound, hprefix⟩ := ih hrest
        refine ⟨c :: inner, after, ?_, List.cons_prefix_cons.2 ⟨rfl, hprefix⟩⟩
        rw [List.cons_append, hstep, hfound, keep_eq_some_iff]
        exact ⟨inner, rfl, rfl⟩
  | @literal quote lit text out hq hi _ ih =>
      obtain ⟨inner, after, hfound, hprefix⟩ := ih hcount
      have happend : quote :: lit ++ quote :: text ++ closing :: rest =
          quote :: lit ++ quote :: (text ++ closing :: rest) := by simp
      refine ⟨quote :: lit ++ quote :: inner, after, ?_, ?_⟩
      · rw [happend, closingFrom?_literal hq hi, hfound, Option.map_some]
      · exact (List.prefix_append_right_inj _).2 (List.cons_prefix_cons.2 ⟨rfl, hprefix⟩)

/-- The search passes over a text in which it is never over. -/
theorem closingFrom?_outside (h : Outside before out)
    (hcount : ∀ front, front <+: out → front.count closing ≤ front.count opening + depth)
    (rest : Text) :
    closingFrom? opening closing depth none (before ++ rest) =
      (closingFrom? opening closing (depth + out.count opening - out.count closing) none rest).map
        fun (inner, after) => (before ++ inner, after) := by
  induction h generalizing depth with
  | nil => simp
  | @char c text out hq _ ih =>
      rcases closingFrom?_char hne hq depth with ⟨rfl, rfl⟩ | ⟨deeper, hdepth, hstep⟩
      · have hone := hcount [c] (by simp)
        simp [hne] at hone
      · have hrest (front : Text) (hf : front <+: out) :
            front.count closing ≤ front.count opening + deeper := by
          have hall := hcount (c :: front) (List.cons_prefix_cons.2 ⟨rfl, hf⟩)
          have hclosing := count_cons_eq c closing front
          have hopening := count_cons_eq c opening front
          omega
        have hbehind : depth + (c :: out).count opening - (c :: out).count closing =
            deeper + out.count opening - out.count closing := by
          have hclosing := count_cons_eq c closing out
          have hopening := count_cons_eq c opening out
          omega
        rw [List.cons_append, hstep, ih hrest, hbehind, keep_eq, Option.map_map]
        rfl
  | @literal quote lit text out hq hi _ ih =>
      have happend : quote :: lit ++ quote :: text ++ rest =
          quote :: lit ++ quote :: (text ++ rest) := by simp
      rw [happend, closingFrom?_literal hq hi, ih hcount, Option.map_map]
      simp [Function.comp_def]

theorem closesAt_of_closing? (h : closing? opening closing text = some (inner, after)) :
    ClosesAt opening closing text (Text.utf8Size inner) := by
  obtain ⟨htext, out, hout, hcount, -⟩ := outside_of_closingFrom? hc hne h
  exact ⟨inner, after, out, htext, rfl, hout, (count_concat_closing_iff hne).2 hcount⟩

theorem exists_closing?_of_closesAt (h : ClosesAt opening closing text offset) :
    ∃ inner after, closing? opening closing text = some (inner, after) ∧
      Text.utf8Size inner ≤ offset := by
  obtain ⟨before, after, out, rfl, rfl, hout, hcount⟩ := h
  have hzero : out.count closing = out.count opening + 0 := (count_concat_closing_iff hne).1 hcount
  obtain ⟨inner, behind, hfound, hprefix⟩ := exists_closingFrom?_prefix hc hne hout hzero after
  exact ⟨inner, behind, hfound, utf8Size_le_of_prefix hprefix⟩

theorem closingOffset?_eq_some_iff :
    closingOffset? opening closing text = some offset ↔
      ClosesAt opening closing text offset ∧
        ∀ earlier < offset, ¬ ClosesAt opening closing text earlier := by
  rw [closingOffset?, Option.map_eq_some_iff]
  constructor
  · rintro ⟨⟨inner, after⟩, hfound, rfl⟩
    refine ⟨closesAt_of_closing? hc hne hfound, fun earlier hlt hcloses => ?_⟩
    obtain ⟨front, last, hfirst, hle⟩ := exists_closing?_of_closesAt hc hne hcloses
    rw [hfound, Option.some.injEq, Prod.mk.injEq] at hfirst
    rw [← hfirst.1] at hle
    exact absurd hle (by simpa using hlt)
  · rintro ⟨hcloses, hleast⟩
    obtain ⟨inner, after, hfound, hle⟩ := exists_closing?_of_closesAt hc hne hcloses
    have hge := hleast (Text.utf8Size inner)
    refine ⟨(inner, after), hfound, Nat.le_antisymm hle (Nat.le_of_not_lt fun hlt => ?_)⟩
    exact hge hlt (closesAt_of_closing? hc hne hfound)

theorem closingOffset?_eq_none_iff :
    closingOffset? opening closing text = none ↔
      ∀ offset, ¬ ClosesAt opening closing text offset := by
  rw [closingOffset?, Option.map_eq_none_iff]
  constructor
  · intro hnone offset hcloses
    obtain ⟨inner, after, hfound, -⟩ := exists_closing?_of_closesAt hc hne hcloses
    rw [hnone] at hfound
    cases hfound
  · intro hcloses
    cases hfound : closing? opening closing text with
    | none => rfl
    | some found => exact absurd (closesAt_of_closing? hc hne hfound) (hcloses _)

theorem closingOffset?_of_pairsOff (h : Outside before out) (hp : PairsOff opening closing out)
    (rest : Text) :
    closingOffset? opening closing (before ++ closing :: rest) = some (Text.utf8Size before) := by
  have hcount (front : Text) (hf : front <+: out) :
      front.count closing ≤ front.count opening + 0 := hp.2 front hf
  have hpass := closingFrom?_outside hc hne h hcount (closing :: rest)
  rw [hp.1, Nat.zero_add, Nat.sub_self, closingFrom?_zero hc hne] at hpass
  rw [closingOffset?, closing?, hpass]
  simp

end

/-- The offset that is found is the least one at which, outside of literals, a closing delimiter
stands and one more has been closed than opened; none is found if and only if there is none.  In
particular it is the first closing delimiter behind a text whose delimiters pair off. -/
theorem closingOffset?_least (hc : Literal.isQuote closing = false) (hne : closing ≠ opening) :
    (∀ text offset, closingOffset? opening closing text = some offset ↔
      ClosesAt opening closing text offset ∧
        ∀ earlier < offset, ¬ ClosesAt opening closing text earlier) ∧
    (∀ text, closingOffset? opening closing text = none ↔
      ∀ offset, ¬ ClosesAt opening closing text offset) ∧
    ∀ before out rest, Outside before out → PairsOff opening closing out →
      closingOffset? opening closing (before ++ closing :: rest) =
        some (Text.utf8Size before) :=
  ⟨fun _ _ => closingOffset?_eq_some_iff hc hne, fun _ => closingOffset?_eq_none_iff hc hne,
    fun _ _ rest hout hp => closingOffset?_of_pairsOff hc hne hout hp rest⟩

/-- A bracket in a string closes nothing, and behind an unfinished literal nothing is closed. -/
theorem closingOffset?_least_sample :
    let call := "é (\")\") d".toList
    let unfinished := "( ')".toList
    Literal.isQuote ')' = false ∧ ')' ≠ '(' ∧ Outside call "é () d".toList ∧
      PairsOff '(' ')' "é () d".toList ∧ closingOffset? '(' ')' (call ++ ") (".toList) = some 10 ∧
      (ClosesAt '(' ')' (call ++ ") (".toList) 10 ∧
        ∀ earlier < 10, ¬ ClosesAt '(' ')' (call ++ ") (".toList) earlier) ∧
      closingOffset? '(' ')' unfinished = none ∧
        ∀ offset, ¬ ClosesAt '(' ')' unfinished offset := by
  intro call unfinished
  have hquote : Literal.isQuote ')' = false := rfl
  have hne : ')' ≠ '(' := by decide
  have hinside : Literal.Inside '"' [')'] := .of_plain (by decide)
  have hout : Outside ("é (".toList ++ ('"' :: [')'] ++ '"' :: ") d".toList)) "é () d".toList :=
    .of_literal (by decide) rfl hinside (by decide)
  have hpairs : PairsOff '(' ')' "é () d".toList := by decide
  have hnone : closingOffset? '(' ')' unfinished = none := by decide
  obtain ⟨hleast, hmissing, hbehind⟩ := closingOffset?_least hquote hne
  have hsome : closingOffset? '(' ')' (call ++ ") (".toList) = some 10 :=
    hbehind call _ " (".toList hout hpairs
  exact ⟨hquote, hne, hout, hpairs, hsome, (hleast _ 10).1 hsome, hnone,
    (hmissing unfinished).1 hnone⟩

end GoStubs.Go.Bracket
