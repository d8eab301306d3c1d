import GoStubs.Proofs.Except
import GoStubs.Proofs.Go.Closing

/-!
# Parentheses of a declaration

The parameter list and a result list in parentheses end where their opening parentheses are closed.
A bare result type closes none that is not open, but nothing makes sure that it closes all that it
opens.
-/

namespace GoStubs.Go

open Text (isBlank isWordChar IsGap trim trimStart collapse)

variable {text first last inner rest front out : Text} {c quote opening closing : Char}
  {depth : Nat}

/-! ### Characters outside of literals -/

namespace Literal

/-- The characters of a text outside of literals, for a reader that may be inside of one. -/
def unquotedFrom : Option Literal → Text → Text
  | _, [] => []
  | l, c :: rest =>
    let behind := unquotedFrom (step l c) rest
    if l.isNone && !isQuote c then c :: behind else behind

/-- The characters of a text outside of literals.  A literal that no quote closes goes to the end of
the text. -/
def unquoted (text : Text) : Text := unquotedFrom none text

theorem unquotedFrom_append (l : Option Literal) (first last : Text) :
    unquotedFrom l (first ++ last) =
      unquotedFrom l first ++ unquotedFrom (first.foldl step l) last := by
  induction first generalizing l with
  | nil => rfl
  | cons c first ih =>
      rw [List.cons_append, unquotedFrom, unquotedFrom, ih, List.foldl_cons]
      split <;> rfl

theorem mem_of_mem_unquotedFrom {l : Option Literal} (h : c ∈ unquotedFrom l text) : c ∈ text := by
  induction text generalizing l with
  | nil => exact h
  | cons d text ih =>
      rw [unquotedFrom] at h
      split at h
      · exact (List.mem_cons.1 h).elim (fun he => he ▸ List.mem_cons_self)
          fun hm => List.mem_cons_of_mem d (ih hm)
      · exact List.mem_cons_of_mem d (ih h)

theorem unquoted_cons (hq : isQuote c = false) (text : Text) :
    unquoted (c :: text) = c :: unquoted text := by
  simp [unquoted, unquotedFrom, step, start?, hq]

theorem unquotedFrom_closes {l : Literal} (h : l.Closes text) (rest : Text) :
    unquotedFrom (some l) (text ++ rest) = unquoted rest := by
  induction h with
  | last hn => simp [unquotedFrom, step, hn, unquoted]
  | more hn _ ih => simpa [unquotedFrom, step, hn] using ih

theorem unquotedFrom_stays {l : Literal} (h : l.Stays text) : unquotedFrom (some l) text = [] := by
  induction h with
  | nil => rfl
  | cons hn _ ih => simpa [unquotedFrom, step, hn] using ih

theorem unquoted_quote (hq : isQuote quote) (text : Text) :
    unquoted (quote :: text) = unquotedFrom (some ⟨quote, false⟩) text := by
  simp [unquoted, unquotedFrom, step, start?, hq]

theorem unquoted_literal (hq : isQuote quote) (hi : Inside quote inner) (text : Text) :
    unquoted (quote :: inner ++ quote :: text) = unquoted text := by
  have hsplit : inner ++ quote :: text = (inner ++ [quote]) ++ text := by simp
  rw [List.cons_append, unquoted_quote hq, hsplit, unquotedFrom_closes (hi.closes hq)]

theorem unquoted_unfinished (hq : isQuote quote) (hu : Unfinished quote text) :
    unquoted (quote :: text) = [] := by
  rw [unquoted_quote hq, unquotedFrom_stays hu.stays]

theorem Outside.unquoted_append (h : Outside first out) (last : Text) :
    unquoted (first ++ last) = out ++ unquoted last := by
  induction h with
  | nil => rfl
  | char hq _ ih => rw [List.cons_append, unquoted_cons hq, ih, List.cons_append]
  | @literal quote inner text out hq hi _ ih =>
      have happend : quote :: inner ++ quote :: text ++ last =
          quote :: inner ++ quote :: (text ++ last) := by simp
      rw [happend, unquoted_literal hq hi, ih]

theorem Outside.unquoted_eq (h : Outside text out) : unquoted text = out := by
  have happend := h.unquoted_append []
  rwa [List.append_nil, show unquoted [] = [] from rfl, List.append_nil] at happend

end Literal

/-! ### Delimiters that pair off -/

namespace Bracket

open Literal (Outside unquoted)

theorem PairsOff.of_not_mem (h : ∀ c ∈ out, c ≠ opening ∧ c ≠ closing) :
    PairsOff opening closing out := by
  have hzero {front : Text} (hf : front <+: out) :
      front.count closing = 0 ∧ front.count opening = 0 :=
    ⟨List.count_eq_zero.2 fun hm => (h _ (hf.subset hm)).2 rfl,
      List.count_eq_zero.2 fun hm => (h _ (hf.subset hm)).1 rfl⟩
  refine ⟨by rw [(hzero (List.prefix_refl out)).1, (hzero (List.prefix_refl out)).2], ?_⟩
  intro front hf
  rw [(hzero hf).1]
  exact Nat.zero_le _

theorem count_le_of_prefix_append
    (hf : ∀ front, front <+: first → front.count closing ≤ front.count opening)
    (hl : ∀ front, front <+: last → front.count closing ≤ front.count opening + depth) :
    ∀ front, front <+: first ++ last → front.count closing ≤ front.count opening + depth := by
  intro front h
  rcases List.prefix_or_prefix_of_prefix h (List.prefix_append first last) with hp | ⟨back, rfl⟩
  · exact Nat.le_add_right_of_le (hf front hp)
  · have hfirst := hf first (List.prefix_refl first)
    have hback := hl back ((List.prefix_append_right_inj first).1 h)
    rw [List.count_append, List.count_append]
    omega

theorem PairsOff.append (hf : PairsOff opening closing first) (hl : PairsOff opening closing last) :
    PairsOff opening closing (first ++ last) := by
  have hle : ∀ front, front <+: first ++ last → front.count closing ≤ front.count opening + 0 :=
    count_le_of_prefix_append hf.2 hl.2
  exact ⟨by rw [List.count_append, List.count_append, hf.1, hl.1], hle⟩

theorem PairsOff.between (hne : closing ≠ opening) (h : PairsOff opening closing out) :
    PairsOff opening closing (opening :: (out ++ [closing])) := by
  have hlast : ∀ front, front <+: [closing] → front.count closing ≤ front.count opening + 1 := by
    intro front hf
    have hone := hf.length_le
    have hcount : front.count closing ≤ front.length := List.count_le_length
    rw [List.length_singleton] at hone
    omega
  have hle : ∀ front, front <+: opening :: (out ++ [closing]) →
      front.count closing ≤ front.count opening + 0 :=
    count_le_of_prefix_cons (by simp [hne.symm]) (count_le_of_prefix_append h.2 hlast)
  refine ⟨?_, hle⟩
  simp [h.1, hne, hne.symm]

/-- Where the search finds nothing, no more is closed than opened. -/
theorem count_le_of_closingFrom?_eq_none (hc : Literal.isQuote closing = false)
    (hne : closing ≠ opening) (h : closingFrom? opening closing depth none text = none) :
    ∀ front, front <+: unquoted text → front.count closing ≤ front.count opening + depth := by
  induction text using Literal.induction generalizing depth with
  | nil => simp [unquoted, Literal.unquotedFrom]
  | char c text hq ih =>
      rw [Literal.unquoted_cons hq]
      rcases closingFrom?_char hne hq depth with ⟨rfl, rfl⟩ | ⟨deeper, hdepth, hstep⟩
      · rw [closingFrom?_zero hq hne] at h
        cases h
      · rw [hstep, keep_eq, Option.map_eq_none_iff] at h
        exact count_le_of_prefix_cons hdepth (ih h)
  | literal quote lit text hq hi ih =>
      rw [closingFrom?_literal hq hi, Option.map_eq_none_iff] at h
      rw [Literal.unquoted_literal hq hi]
      exact ih h
  | unfinished quote text hq hu =>
      rw [Literal.unquoted_unfinished hq hu]
      simp

/-- A text of whole literals and other characters, whose parentheses pair off outside of the
literals. -/
def Balanced (text : Text) : Prop := ∃ out, Outside text out ∧ PairsOff '(' ')' out

theorem Balanced.append (hf : Balanced first) (hl : Balanced last) : Balanced (first ++ last) := by
  obtain ⟨front, hfront, hpairs⟩ := hf
  obtain ⟨back, hback, hrest⟩ := hl
  exact ⟨front ++ back, hfront.append hback, hpairs.append hrest⟩

theorem Balanced.between (h : Balanced text) : Balanced ('(' :: (text ++ [')'])) := by
  obtain ⟨out, hout, hpairs⟩ := h
  have hlast : Outside [')'] [')'] := .char (by rfl) .nil
  exact ⟨_, .char (by rfl) (hout.append hlast), hpairs.between (by decide)⟩

theorem balanced_of_isPlain (h : IsPlain text) : Balanced text :=
  ⟨text, .of_plain h.not_isQuote, .of_not_mem fun c hc =>
    ⟨h.ne (by decide) c hc, h.ne (by decide) c hc⟩⟩

theorem Balanced.pairsOff (h : Balanced text) : PairsOff '(' ')' (unquoted text) := by
  obtain ⟨out, hout, hpairs⟩ := h
  rwa [hout.unquoted_eq]

theorem Balanced.unquoted_append (h : Balanced first) (last : Text) :
    unquoted (first ++ last) = unquoted first ++ unquoted last := by
  obtain ⟨out, hout, -⟩ := h
  rw [hout.unquoted_append, hout.unquoted_eq]

theorem balanced_of_closing? (h : closing? '(' ')' text = some (inner, rest)) :
    text = inner ++ ')' :: rest ∧ Balanced ('(' :: (inner ++ [')'])) := by
  obtain ⟨htext, out, hout, hcount, hfront⟩ := outside_of_closingFrom? (by rfl) (by decide) h
  have hinner : Balanced inner := ⟨out, hout, hcount, hfront⟩
  exact ⟨htext, hinner.between⟩

end Bracket

/-! ### Declarations -/

namespace Signature

open Literal (unquoted)
open Go.Bracket (PairsOff Balanced)

variable {declaration : Text} {signature : Signature} {fields : List Field}

/-- Results in parentheses are balanced, a bare result type at least closes none that is not
open. -/
theorem balanced_or_bare_of_resultList (h : resultList text = .ok fields) :
    Balanced text ∨ text.head? ≠ some '(' ∧ Bracket.closing? '(' ')' text = none ∧
      fields = [⟨none, collapse text⟩] := by
  cases text with
  | nil => exact .inl (Bracket.balanced_of_isPlain (List.forall_mem_nil _))
  | cons c text =>
      by_cases hc : c = '('
      · subst hc
        simp only [resultList] at h
        split at h
        · cases h
        · rename_i list after hfound
          split at h
          · rename_i htrim
            obtain ⟨rfl, hlist⟩ := Bracket.balanced_of_closing? hfound
            have hgap : IsGap after := Text.trim_eq_nil_iff.1 (List.isEmpty_iff.1 htrim)
            have hall := hlist.append (Bracket.balanced_of_isPlain (isPlain_of_isGap hgap))
            exact .inl (by simpa using hall)
          · cases h
      · rw [resultList_cons hc] at h
        split at h
        · cases h
        · rename_i hfound
          refine .inr ⟨by simpa using hc, by simpa using hfound, ?_⟩
          exact (Except.ok.inj h).symm

theorem exists_of_ofParams {name : Text} (h : ofParams name declaration text = .ok signature) :
    ∃ list after, text = '(' :: (list ++ ')' :: after) ∧ Balanced ('(' :: (list ++ [')'])) ∧
      resultList (trim after) = .ok signature.results := by
  cases text with
  | nil => cases h
  | cons c inner =>
      by_cases hc : c = '('
      · subst hc
        simp only [ofParams] at h
        split at h
        · cases h
        · rename_i list after hfound
          simp only [Except.bind_eq_ok_iff, Except.pure_eq_ok_iff] at h
          obtain ⟨params, -, results, hresults, rfl⟩ := h
          obtain ⟨rfl, hlist⟩ := Bracket.balanced_of_closing? hfound
          exact ⟨list, after, rfl, hlist, hresults⟩
      · rw [ofParams_cons hc] at h
        cases h

/-- In front of the results of a declaration, all parentheses are closed. -/
theorem exists_of_ofDeclaration (h : ofDeclaration declaration = .ok signature) :
    ∃ head after, declaration = head ++ after ∧ Balanced head ∧
      resultList (trim after) = .ok signature.results := by
  rw [ofDeclaration_eq] at h
  split at h
  · cases h
  obtain ⟨list, after, htext, hlist, hresults⟩ := exists_of_ofParams h
  obtain ⟨lead, hlead, hstart⟩ := Text.exists_gap_trimStart declaration
  obtain ⟨trail, htrail, hend⟩ := Text.exists_gap_trimEnd (trimStart declaration)
  obtain ⟨gap, hgap, hbehind⟩ :=
    Text.exists_gap_trimStart ((trim declaration).dropWhile isWordChar)
  rw [htext] at hbehind
  have hname : IsPlain ((trim declaration).takeWhile isWordChar) :=
    isPlain_of_isWordChar (List.all_eq_true.1 List.all_takeWhile)
  have hhead : Balanced (lead ++ (trim declaration).takeWhile isWordChar ++ gap) :=
    ((Bracket.balanced_of_isPlain (isPlain_of_isGap hlead)).append
      (Bracket.balanced_of_isPlain hname)).append
        (Bracket.balanced_of_isPlain (isPlain_of_isGap hgap))
  refine ⟨_, after ++ trail, ?_, hhead.append hlist, ?_⟩
  · calc
      declaration = lead ++ (trim declaration ++ trail) := by rw [trim, ← hend, ← hstart]
      _ = lead ++ ((trim declaration).takeWhile isWordChar ++
          (gap ++ '(' :: (list ++ ')' :: after)) ++ trail) := by
        rw [← hbehind, List.takeWhile_append_dropWhile]
      _ = _ := by simp
  · rwa [Text.trim_append_gap htrail]

theorem pairsOff_append_iff {head bare : Text} (hh : Balanced head)
    (hb : ∀ front, front <+: unquoted bare → front.count ')' ≤ front.count '(') :
    (∀ front, front <+: unquoted (head ++ bare) → front.count ')' ≤ front.count '(') ∧
      (PairsOff '(' ')' (unquoted (head ++ bare)) ↔
        (unquoted bare).count ')' = (unquoted bare).count '(') := by
  have hall : ∀ front, front <+: unquoted (head ++ bare) →
      front.count ')' ≤ front.count '(' + 0 := by
    rw [hh.unquoted_append]
    exact Bracket.count_le_of_prefix_append hh.pairsOff.2 hb
  refine ⟨hall, ?_⟩
  have hcount := hh.pairsOff.1
  rw [PairsOff, hh.unquoted_append, List.count_append, List.count_append, ← hh.unquoted_append]
  exact ⟨fun h => by omega, fun h => ⟨by omega, hall⟩⟩

/-- A bare result type that is accepted closes no parenthesis that is not open. -/
theorem count_le_of_bare {bare trail : Text} (h : Bracket.closing? '(' ')' bare = none)
    (ht : IsGap trail) :
    ∀ front, front <+: unquoted (bare ++ trail) → front.count ')' ≤ front.count '(' := by
  have hlast : PairsOff '(' ')'
      (Literal.unquotedFrom (bare.foldl Literal.step none) trail) := by
    refine .of_not_mem fun c hc => ?_
    have hblank := ht c (Literal.mem_of_mem_unquotedFrom hc)
    exact ⟨Text.ne_of_isBlank hblank (by decide), Text.ne_of_isBlank hblank (by decide)⟩
  have hfirst : ∀ front, front <+: unquoted bare → front.count ')' ≤ front.count '(' :=
    Bracket.count_le_of_closingFrom?_eq_none (by rfl) (by decide) h
  have hall : ∀ front, front <+: unquoted (bare ++ trail) →
      front.count ')' ≤ front.count '(' + 0 := by
    rw [unquoted, Literal.unquotedFrom_append]
    exact Bracket.count_le_of_prefix_append hfirst hlast.2
  exact hall

/-- An accepted declaration closes no parenthesis that is not open.  In front of a bare result type
its parentheses pair off, and so they do throughout if and only if that type closes all that it
opens. -/
theorem pairsOff_of_ofDeclaration (h : ofDeclaration declaration = .ok signature) :
    (∀ front, front <+: unquoted declaration → front.count ')' ≤ front.count '(') ∧
      ∃ head bare, declaration = head ++ bare ∧ PairsOff '(' ')' (unquoted head) ∧
        (bare ≠ [] → bare.head? ≠ some '(' ∧ signature.results = [⟨none, collapse bare⟩]) ∧
        (PairsOff '(' ')' (unquoted declaration) ↔
          (unquoted bare).count ')' = (unquoted bare).count '(') := by
  obtain ⟨head, after, rfl, hhead, hresults⟩ := exists_of_ofDeclaration h
  obtain ⟨lead, hlead, hstart⟩ := Text.exists_gap_trimStart after
  obtain ⟨trail, htrail, hend⟩ := Text.exists_gap_trimEnd (trimStart after)
  have hlist := hhead.append (Bracket.balanced_of_isPlain (isPlain_of_isGap hlead))
  have hafter : head ++ after = head ++ lead ++ (trim after ++ trail) := by
    rw [List.append_assoc, trim, ← hend, ← hstart]
  rw [hafter]
  -- Only a bare result type can leave a parenthesis open.
  rcases balanced_or_bare_of_resultList hresults with hb | ⟨hc, hnone, hbare⟩
  · have hall := hlist.append (hb.append (Bracket.balanced_of_isPlain (isPlain_of_isGap htrail)))
    exact ⟨hall.pairsOff.2, _, [], (List.append_nil _).symm, hall.pairsOff,
      fun hne => absurd rfl hne, iff_of_true hall.pairsOff rfl⟩
  · obtain ⟨hle, hiff⟩ := pairsOff_append_iff hlist (count_le_of_bare hnone htrail)
    refine ⟨hle, _, _, rfl, hlist.pairsOff, fun _ => ⟨?_, ?_⟩, hiff⟩
    · rw [List.head?_append]
      cases hfirst : (trim after).head? with
      | some c =>
          rw [hfirst] at hc
          exact hc
      | none =>
          intro hhead
          have hblank := htrail '(' (List.mem_of_head? hhead)
          cases hblank
    · rw [hbare, Text.collapse_append_gap htrail]

theorem pairsOff_of_ofDeclaration_sample :
    let declaration := "Get(f func(int), s struct\x7bF int `(`\x7d) map[string]func()".toList
    ∃ signature, ofDeclaration declaration = .ok signature ∧
      ∀ front, front <+: unquoted declaration → front.count ')' ≤ front.count '(' := by
  intro declaration
  have hread : (ofDeclaration declaration).toBool := by decide +kernel
  rcases h : ofDeclaration declaration with _ | signature
  · rw [h] at hread
    cases hread
  · exact ⟨signature, rfl, (pairsOff_of_ofDeclaration h).1⟩

/-- A bare result type is accepted with a parenthesis that is never closed. -/
theorem exists_open_parenthesis :
    let declaration := "Get() func(int".toList
    ofDeclaration declaration = .ok ⟨"Get".toList, [], [⟨none, "func(int".toList⟩]⟩ ∧
      ¬ PairsOff '(' ')' (unquoted declaration) := by
  decide +kernel

end Signature

end GoStubs.Go
