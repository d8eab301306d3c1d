import GoStubs.Go.Bracket

/-!
# Nested brackets

A reader awaits the characters that close the brackets it is inside of, the
innermost first.  Brackets nest in a text if each closes what is awaited and
nothing is awaited at the end.  The search for a closing delimiter passes over
such a text, and so does a split at separators outside its brackets.
-/

namespace GoStubs.Go.Bracket

variable {awaited after : List Char} {opening closing c : Char} {text first last rest : Text}

def closer? : Char → Option Char
  | '(' => some ')'
  | '[' => some ']'
  | '{' => some '}'
  | _ => none

def isCloser (c : Char) : Bool := c == ')' || c == ']' || c == '}'

/-- What is awaited after one more character; `none` if it closes a bracket that is not the
innermost. -/
def await (awaited : List Char) (c : Char) : Option (List Char) :=
  match closer? c with
  | some closer => some (closer :: awaited)
  | none =>
    if isCloser c then
      match awaited with
      | [] => none
      | closer :: rest => if c = closer then some rest else none
    else some awaited

/-- What is awaited after a text. -/
def awaits : List Char → Text → Option (List Char)
  | awaited, [] => some awaited
  | awaited, c :: rest => (await awaited c).bind (awaits · rest)

/-- Whether the brackets of a text nest. -/
def nests (text : Text) : Bool := awaits [] text == some []

/-- The characters of a text before which nothing is awaited. -/
def outsideFrom : List Char → Text → Text
  | _, [] => []
  | awaited, c :: rest =>
    let behind := outsideFrom ((await awaited c).getD awaited) rest
    if awaited.isEmpty then c :: behind else behind

def outside (text : Text) : Text := outsideFrom [] text

theorem nests_iff : nests text ↔ awaits [] text = some [] := by simp [nests]

theorem closer?_eq_some_iff :
    closer? opening = some closing ↔
      (opening = '(' ∧ closing = ')') ∨ (opening = '[' ∧ closing = ']') ∨
        (opening = '{' ∧ closing = '}') := by
  unfold closer?
  split <;> simp_all [eq_comm]

theorem isCloser_of_closer? (h : closer? opening = some closing) : isCloser closing := by
  rcases closer?_eq_some_iff.1 h with ⟨-, rfl⟩ | ⟨-, rfl⟩ | ⟨-, rfl⟩ <;> rfl

theorem closer?_eq_none_of_isCloser (h : isCloser c) : closer? c = none := by
  simp only [isCloser, Bool.or_eq_true, beq_iff_eq] at h
  rcases h with (rfl | rfl) | rfl <;> rfl

theorem closer?_inj {other : Char} (h : closer? opening = some closing)
    (ho : closer? other = some closing) : opening = other := by
  rcases closer?_eq_some_iff.1 h with ⟨rfl, rfl⟩ | ⟨rfl, rfl⟩ | ⟨rfl, rfl⟩ <;>
    simpa [eq_comm] using closer?_eq_some_iff.1 ho

/-- A character opens a bracket, closes the innermost one, or is no bracket. -/
theorem await_cases (h : await awaited c = some after) :
    (∃ closer, closer? c = some closer ∧ after = closer :: awaited) ∨
      (isCloser c ∧ awaited = c :: after) ∨
      (closer? c = none ∧ isCloser c = false ∧ after = awaited) := by
  unfold await at h
  cases ho : closer? c with
  | some closer =>
      rw [ho] at h
      exact .inl ⟨closer, rfl, (Option.some.inj h).symm⟩
  | none =>
      rw [ho] at h
      cases hc : isCloser c with
      | false => exact .inr (.inr ⟨rfl, rfl, by simpa [hc, eq_comm] using h⟩)
      | true =>
          rcases awaited with _ | ⟨closer, awaited⟩
          · simp [hc] at h
          · by_cases he : c = closer
            · subst he
              exact .inr (.inl ⟨rfl, by simpa [hc] using h⟩)
            · simp [hc, he] at h

theorem await_eq_some_self (ho : closer? c = none) (hc : isCloser c = false) :
    await awaited c = some awaited := by simp [await, ho, hc]

theorem turn_of_closer? (h : closer? c = some closing) : turn c = 1 := by
  rcases closer?_eq_some_iff.1 h with ⟨rfl, -⟩ | ⟨rfl, -⟩ | ⟨rfl, -⟩ <;> rfl

theorem turn_of_isCloser (h : isCloser c) : turn c = -1 := by
  simp only [isCloser, Bool.or_eq_true, beq_iff_eq] at h
  rcases h with (rfl | rfl) | rfl <;> rfl

theorem turn_of_plain (ho : closer? c = none) (hc : isCloser c = false) : turn c = 0 := by
  have hopen : ¬ (c = '(' ∨ c = '[' ∨ c = '{') := by
    rintro (rfl | rfl | rfl) <;> simp [closer?] at ho
  simp only [isCloser, Bool.or_eq_false_iff, beq_eq_false_iff_ne] at hc
  simp [turn, hopen, hc]

/-- The depth that a split counts is the number of awaited characters. -/
theorem length_await (h : await awaited c = some after) :
    (after.length : Int) = awaited.length + turn c := by
  rcases await_cases h with ⟨closer, ho, rfl⟩ | ⟨hc, rfl⟩ | ⟨ho, hc, rfl⟩
  · rw [turn_of_closer? ho, List.length_cons]
    omega
  · rw [turn_of_isCloser hc, List.length_cons]
    omega
  · rw [turn_of_plain ho hc]
    omega

theorem awaits_append (awaited : List Char) (first last : Text) :
    awaits awaited (first ++ last) = (awaits awaited first).bind (awaits · last) := by
  induction first generalizing awaited with
  | nil => rfl
  | cons c first ih =>
      rw [List.cons_append, awaits, awaits]
      cases await awaited c with
      | none => rfl
      | some after => exact ih after

theorem awaits_eq_some_self (h : ∀ c ∈ text, closer? c = none ∧ isCloser c = false) :
    awaits awaited text = some awaited := by
  induction text with
  | nil => rfl
  | cons c rest ih =>
      obtain ⟨⟨ho, hc⟩, hrest⟩ := List.forall_mem_cons.1 h
      rw [awaits, await_eq_some_self ho hc]
      exact ih hrest

theorem await_append (h : await awaited c = some after) (around : List Char) :
    await (awaited ++ around) c = some (after ++ around) := by
  rcases await_cases h with ⟨closer, ho, rfl⟩ | ⟨hc, rfl⟩ | ⟨ho, hc, rfl⟩
  · simp [await, ho]
  · simp [await, hc, closer?_eq_none_of_isCloser hc]
  · exact await_eq_some_self ho hc

/-- What is awaited around a text stays awaited throughout. -/
theorem awaits_append_awaited (h : awaits awaited text = some after) (around : List Char) :
    awaits (awaited ++ around) text = some (after ++ around) := by
  induction text generalizing awaited with
  | nil =>
      cases h
      rfl
  | cons c rest ih =>
      obtain ⟨mid, hmid, hrest⟩ := Option.bind_eq_some_iff.1 h
      rw [awaits, await_append hmid]
      exact ih hrest

theorem awaits_of_nests (h : nests text) (awaited : List Char) :
    awaits awaited text = some awaited := awaits_append_awaited (nests_iff.1 h) awaited

theorem nests_of_plain (h : ∀ c ∈ text, closer? c = none ∧ isCloser c = false) : nests text :=
  nests_iff.2 (awaits_eq_some_self h)

theorem nests_append (hf : nests first) (hl : nests last) : nests (first ++ last) := by
  rw [nests_iff, awaits_append, awaits_of_nests hf]
  exact nests_iff.1 hl

theorem nests_bracket (h : nests text) (ho : closer? opening = some closing) :
    nests (opening :: text ++ [closing]) := by
  have hc := isCloser_of_closer? ho
  have hend : await [closing] closing = some [] := by
    simp [await, hc, closer?_eq_none_of_isCloser hc]
  rw [nests_iff, awaits_append, awaits, await, ho]
  simp [awaits_of_nests h, awaits, hend]

theorem outsideFrom_append (h : awaits awaited first = some after) (last : Text) :
    outsideFrom awaited (first ++ last) = outsideFrom awaited first ++ outsideFrom after last := by
  induction first generalizing awaited with
  | nil =>
      cases h
      rfl
  | cons c first ih =>
      obtain ⟨mid, hmid, hfirst⟩ := Option.bind_eq_some_iff.1 h
      simp only [List.cons_append, outsideFrom, hmid, Option.getD_some, ih hfirst]
      split <;> rfl

theorem outside_append (h : nests first) (last : Text) :
    outside (first ++ last) = outside first ++ outside last :=
  outsideFrom_append (nests_iff.1 h) last

/-- Nothing stands outside of brackets where some character is awaited throughout. -/
theorem outsideFrom_append_awaited (h : awaits awaited text = some after) (closer : Char)
    (around : List Char) : outsideFrom (awaited ++ closer :: around) text = [] := by
  induction text generalizing awaited with
  | nil => rfl
  | cons c text ih =>
      obtain ⟨mid, hmid, htext⟩ := Option.bind_eq_some_iff.1 h
      rw [outsideFrom, await_append hmid, Option.getD_some, ih htext]
      simp

/-- Of a text between brackets, only the opening one stands outside of brackets. -/
theorem outside_bracket (h : nests text) (ho : closer? opening = some closing) (rest : Text) :
    outside (opening :: text ++ closing :: rest) = opening :: outside rest := by
  have hc := isCloser_of_closer? ho
  have hend : await [closing] closing = some [] := by
    simp [await, hc, closer?_eq_none_of_isCloser hc]
  have hopen : await [] opening = some [closing] := by simp [await, ho]
  have hinner : outsideFrom [closing] text = [] :=
    outsideFrom_append_awaited (nests_iff.1 h) closing []
  rw [outside, List.cons_append, outsideFrom, hopen, Option.getD_some,
    outsideFrom_append (awaits_of_nests h [closing]), hinner, outsideFrom, hend]
  rfl

theorem mem_of_mem_outsideFrom (h : c ∈ outsideFrom awaited text) : c ∈ text := by
  induction text generalizing awaited with
  | nil => exact h
  | cons d text ih =>
      rw [outsideFrom] at h
      split at h
      · rcases List.mem_cons.1 h with rfl | h
        · exact List.mem_cons_self
        · exact List.mem_cons_of_mem _ (ih h)
      · exact List.mem_cons_of_mem _ (ih h)

/-! ### Readers of brackets -/

theorem closingFrom?_quote (hq : Literal.isQuote c) (depth : Nat) (rest : Text) :
    closingFrom? opening closing depth none (c :: rest) =
      closingFrom?.keep c (closingFrom? opening closing depth (Literal.start? c) rest) := by
  simp [closingFrom?, hq]

theorem closingFrom?_opening (hq : Literal.isQuote opening = false) (depth : Nat) (rest : Text) :
    closingFrom? opening closing depth none (opening :: rest) =
      closingFrom?.keep opening (closingFrom? opening closing (depth + 1) none rest) := by
  simp [closingFrom?, hq]

theorem closingFrom?_closing (hq : Literal.isQuote closing = false) (hne : closing ≠ opening)
    (depth : Nat) (rest : Text) :
    closingFrom? opening closing (depth + 1) none (closing :: rest) =
      closingFrom?.keep closing (closingFrom? opening closing depth none rest) := by
  simp [closingFrom?, hq, hne]

theorem closingFrom?_zero (hq : Literal.isQuote closing = false) (hne : closing ≠ opening)
    (rest : Text) : closingFrom? opening closing 0 none (closing :: rest) = some ([], rest) := by
  simp [closingFrom?, hq, hne]

theorem closingFrom?_other (hq : Literal.isQuote c = false) (ho : c ≠ opening) (hc : c ≠ closing)
    (depth : Nat) (rest : Text) :
    closingFrom? opening closing depth none (c :: rest) =
      closingFrom?.keep c (closingFrom? opening closing depth none rest) := by
  simp [closingFrom?, hq, ho, hc]

/-- The search for a closing delimiter passes over a text without quotes, and its depth grows by
the delimiters that the text awaits more at its end. -/
theorem closingFrom?_append (hpair : closer? opening = some closing)
    (hq : ∀ c ∈ text, Literal.isQuote c = false) (h : awaits awaited text = some after)
    (depth : Nat) (rest : Text) :
    closingFrom? opening closing (depth + awaited.count closing) none (text ++ rest) =
      (closingFrom? opening closing (depth + after.count closing) none rest).map
        fun (inner, last) => (text ++ inner, last) := by
  induction text generalizing awaited with
  | nil =>
      cases h
      simp
  | cons c text ih =>
      obtain ⟨hc, hq⟩ := List.forall_mem_cons.1 hq
      obtain ⟨mid, hmid, htext⟩ := Option.bind_eq_some_iff.1 h
      have hnext := ih hq htext
      have hkeep (x : Option (Text × Text)) :
          closingFrom?.keep c (x.map fun (inner, last) => (text ++ inner, last)) =
            x.map fun (inner, last) => (c :: text ++ inner, last) := by
        simp [closingFrom?.keep, Function.comp_def]
      have hnone : closer? closing = none := closer?_eq_none_of_isCloser (isCloser_of_closer? hpair)
      rw [← hkeep, ← hnext, List.cons_append]
      rcases await_cases hmid with ⟨closer, ho, rfl⟩ | ⟨hcloser, rfl⟩ | ⟨ho, hcloser, rfl⟩
      · -- The character opens a bracket.
        by_cases he : c = opening
        · subst he
          cases hpair.symm.trans ho
          rw [closingFrom?_opening hc, List.count_cons_self, Nat.add_assoc]
        · have hcount : closer ≠ closing := fun hcl => he (closer?_inj (hcl ▸ ho) hpair)
          have hne : c ≠ closing := fun hcl => by simp [← hcl, ho] at hnone
          rw [closingFrom?_other hc he hne, List.count_cons_of_ne hcount]
      · -- The character closes the innermost bracket.
        have hne : c ≠ opening := fun he => by
          simp [← he, closer?_eq_none_of_isCloser hcloser] at hpair
        by_cases he : c = closing
        · subst he
          rw [List.count_cons_self, ← Nat.add_assoc, closingFrom?_closing hc hne]
        · rw [closingFrom?_other hc hne he, List.count_cons_of_ne he]
      · -- The character is no bracket.
        have hne : c ≠ opening := fun he => by simp [← he, ho] at hpair
        have hcl : c ≠ closing := fun he => by
          simp [he, isCloser_of_closer? hpair] at hcloser
        rw [closingFrom?_other hc hne hcl]

/-- A text whose brackets nest has none that closes an open one. -/
theorem closing?_eq_none (hpair : closer? opening = some closing)
    (hq : ∀ c ∈ text, Literal.isQuote c = false) (h : nests text) :
    closing? opening closing text = none := by
  have hpass := closingFrom?_append hpair hq (nests_iff.1 h) 0 []
  rw [List.append_nil] at hpass
  exact hpass.trans rfl

/-- What closes an open delimiter is the first closer behind a text whose brackets nest. -/
theorem closing?_append (hpair : closer? opening = some closing)
    (hq : ∀ c ∈ text, Literal.isQuote c = false) (h : nests text) (rest : Text) :
    closing? opening closing (text ++ closing :: rest) = some (text, rest) := by
  have hpass := closingFrom?_append hpair hq (nests_iff.1 h) 0 (closing :: rest)
  have hquote : Literal.isQuote closing = false := by
    rcases closer?_eq_some_iff.1 hpair with ⟨-, rfl⟩ | ⟨-, rfl⟩ | ⟨-, rfl⟩ <;> rfl
  have hne : closing ≠ opening := by
    rcases closer?_eq_some_iff.1 hpair with ⟨rfl, rfl⟩ | ⟨rfl, rfl⟩ | ⟨rfl, rfl⟩ <;> decide
  refine hpass.trans ?_
  rw [List.count_nil, closingFrom?_zero hquote hne]
  simp

/-- A split that cuts at no place inside of brackets passes over a text that it does not cut
outside of them. -/
theorem splitFrom_append {cut : Int → Char → Bool}
    (hcut : ∀ depth c, 0 < depth → cut depth c = false)
    (hout : ∀ c ∈ outsideFrom awaited text, cut 0 c = false)
    (h : awaits awaited text = some after) (rest : Text) :
    splitFrom cut awaited.length (text ++ rest) =
      (splitFrom cut after.length rest).modifyHead (text ++ ·) := by
  induction text generalizing awaited with
  | nil =>
      cases h
      exact (congrFun List.modifyHead_id _).symm
  | cons c text ih =>
      obtain ⟨mid, hmid, htext⟩ := Option.bind_eq_some_iff.1 h
      have hc : cut awaited.length c = false := by
        cases awaited with
        | nil => exact hout c (by simp [outsideFrom])
        | cons closer awaited =>
            apply hcut
            rw [List.length_cons]
            omega
      have hrest : ∀ c ∈ outsideFrom mid text, cut 0 c = false := by
        intro d hd
        apply hout
        rw [outsideFrom, hmid]
        cases awaited with
        | nil => exact List.mem_cons_of_mem _ hd
        | cons closer awaited => exact hd
      rw [List.cons_append, splitFrom, if_neg (by simp [hc]), ← length_await hmid, ih hrest htext,
        List.modifyHead_modifyHead]
      rfl

section

variable {cut : Int → Char → Bool} (hcut : ∀ depth c, 0 < depth → cut depth c = false)
  (hout : ∀ c ∈ outside text, cut 0 c = false) (h : nests text)

include hcut hout h

theorem splitFrom_eq_singleton : splitFrom cut 0 text = [text] := by
  have hsplit := splitFrom_append hcut hout (nests_iff.1 h) []
  simpa [splitFrom] using hsplit

theorem splitFrom_append_cons (hc : cut 0 c) (rest : Text) :
    splitFrom cut 0 (text ++ c :: rest) = text :: splitFrom cut 0 rest := by
  have hsplit := splitFrom_append hcut hout (nests_iff.1 h) (c :: rest)
  simpa [splitFrom, hc] using hsplit

end

end GoStubs.Go.Bracket
