import GoStubs.Interface.Lookup
import GoStubs.Proofs.Text.Blank

/-!
# Clauses on lines

A clause does not go on behind a newline.  So a search for a clause passes over
lines without one, and what it finds on a line does not depend on other lines.
-/

namespace GoStubs.Interface

open Text (isSpace)

variable {a : Text} {part : Text} {read next : Text → Option Text} {mark : Char}

/-- A reader that stops at a character: it reads the same in front of it, whatever follows. -/
def StopsAt (mark : Char) (read : Text → Option Text) : Prop :=
  ∀ a b, read (a ++ mark :: b) = (read a).map (· ++ mark :: b)

/-- A reader that stops at newlines: it reads the same in front of any further lines. -/
def IsLocal (read : Text → Option Text) : Prop :=
  ∀ a b, read (a ++ '\n' :: b) = (read a).map (· ++ '\n' :: b)

theorem StopsAt.bind (h : StopsAt mark read) (hn : StopsAt mark next) :
    StopsAt mark fun text => read text >>= next := by
  intro a b
  change (read (a ++ mark :: b)).bind next = ((read a).bind next).map (· ++ mark :: b)
  rw [h a b]
  cases read a with
  | none => rfl
  | some rest => exact hn rest b

theorem stopsAt_dropPrefix? (hp : mark ∉ part) : StopsAt mark (Text.dropPrefix? part) := by
  intro a b
  induction part generalizing a with
  | nil => rfl
  | cons p part ih =>
      have hne : p ≠ mark := fun he => hp (he ▸ List.mem_cons_self)
      have hpart : mark ∉ part := fun hm => hp (List.mem_cons_of_mem _ hm)
      cases a with
      | nil => simp [Text.dropPrefix?, hne]
      | cons c a =>
          rw [List.cons_append, Text.dropPrefix?, Text.dropPrefix?, ih hpart]
          split <;> rfl

section

variable (hm : isSpace mark = false)

include hm

theorem skipSpaces_append (a b : Text) :
    skipSpaces (a ++ mark :: b) = skipSpaces a ++ mark :: b :=
  Text.dropWhile_append_cons hm a b

theorem StopsAt.skipSpaces (h : StopsAt mark read) :
    StopsAt mark fun text => read (Interface.skipSpaces text) := by
  intro a b
  change read (Interface.skipSpaces (a ++ mark :: b)) = _
  rw [skipSpaces_append hm, h]

theorem stopsAt_afterSpaces? : StopsAt mark afterSpaces? := by
  intro a b
  cases a with
  | nil => simp [afterSpaces?, hm]
  | cons c a =>
      have hskip := skipSpaces_append hm (c :: a) b
      rw [List.cons_append] at hskip ⊢
      by_cases hc : isSpace c <;> simp [afterSpaces?, hskip, hc]

end

/-- What follows the words of a header. -/
def headerWords? (text : Text) : Option Text := do
  let client ← after? "type" (skipSpaces text) >>= afterSpaces?
  let keyword ← after? "Client" client >>= afterSpaces?
  after? "interface" keyword

theorem clientHeader?_eq (text : Text) :
    clientHeader? text =
      headerWords? text >>= fun brace => Text.dropPrefix? ['{'] (skipSpaces brace) := by
  simp only [clientHeader?, headerWords?, bind_assoc]

theorem stopsAt_headerWords? (hs : isSpace mark = false)
    (hm : mark ∉ "typeClientinterface".toList) : StopsAt mark headerWords? := by
  have hword (word : String) (hw : ∀ c ∈ word.toList, c ∈ "typeClientinterface".toList) :
      StopsAt mark (after? word) := stopsAt_dropPrefix? fun h => hm (hw mark h)
  have hkeyword := ((hword "Client" (by decide)).bind (stopsAt_afterSpaces? hs)).bind
    (hword "interface" (by decide))
  exact (((hword "type" (by decide)).skipSpaces hs).bind (stopsAt_afterSpaces? hs)).bind hkeyword

theorem stopsAt_clientHeader? (hs : isSpace mark = false)
    (hm : mark ∉ "typeClientinterface\x7b".toList) : StopsAt mark clientHeader? := by
  have hwords := stopsAt_headerWords? hs fun h => hm (List.mem_append_left ['{'] h)
  have hbrace : StopsAt mark (Text.dropPrefix? ['{']) := stopsAt_dropPrefix? fun h =>
    hm (List.mem_append_right "typeClientinterface".toList h)
  intro a b
  rw [clientHeader?_eq, clientHeader?_eq]
  exact hwords.bind (hbrace.skipSpaces hs) a b

theorem isLocal_clientHeader? : IsLocal clientHeader? :=
  stopsAt_clientHeader? (by decide) (by decide)

/-- A search that finds nothing in a text goes on at the next line. -/
theorem firstLine?_append (hl : IsLocal read) {start : Bool} (h : firstLine? read start a = none)
    (b : Text) : firstLine? read start (a ++ '\n' :: b) = firstLine? read true b := by
  induction a generalizing start with
  | nil =>
      have hread : (if start then read ('\n' :: b) else none) = none := by
        cases start with
        | false => rfl
        | true =>
            have hempty : read [] = none := h
            have hlocal := hl [] b
            rwa [hempty] at hlocal
      rw [List.nil_append, firstLine?, hread]
      rfl
  | cons c a ih =>
      have hread : (if start then read (c :: a) else none) = none := by
        rw [firstLine?] at h
        split at h
        · cases h
        · assumption
      have hlong : (if start then read (c :: (a ++ '\n' :: b)) else none) = none := by
        cases start with
        | false => rfl
        | true =>
            have hshort : read (c :: a) = none := hread
            have hlocal := hl (c :: a) b
            rwa [hshort] at hlocal
      rw [firstLine?, hread] at h
      rw [List.cons_append, firstLine?, hlong]
      exact ih h

/-! ### The end of the header -/

variable {front text rest : Text} {start : Bool}

theorem suffix_of_afterSpaces? (h : afterSpaces? text = some rest) : rest <:+ text := by
  unfold afterSpaces? at h
  split at h
  · cases h
    exact List.dropWhile_suffix _
  · cases h

theorem suffix_of_after? {word : String} (h : after? word text = some rest) : rest <:+ text := by
  rw [after?, Text.dropPrefix?_eq_some_iff] at h
  exact ⟨_, h.symm⟩

theorem suffix_of_headerWords? (h : headerWords? text = some rest) : rest <:+ text := by
  simp only [headerWords?, Option.bind_eq_bind, Option.bind_eq_some_iff] at h
  obtain ⟨client, ⟨first, hfirst, hclient⟩, keyword, ⟨second, hsecond, hkeyword⟩, hrest⟩ := h
  have htail := (suffix_of_after? hrest).trans (suffix_of_afterSpaces? hkeyword)
  have hmiddle := (htail.trans (suffix_of_after? hsecond)).trans (suffix_of_afterSpaces? hclient)
  exact (hmiddle.trans (suffix_of_after? hfirst)).trans (List.dropWhile_suffix _)

theorem exists_brace_of_clientHeader? (h : clientHeader? text = some rest) :
    ∃ head, text = head ++ '{' :: rest := by
  rw [clientHeader?_eq] at h
  obtain ⟨brace, hbrace, hrest⟩ := Option.bind_eq_some_iff.1 h
  rw [Text.dropPrefix?_eq_some_iff] at hrest
  obtain ⟨gap, hgap⟩ := List.dropWhile_suffix (l := brace) isSpace
  obtain ⟨head, rfl⟩ := suffix_of_headerWords? hbrace
  exact ⟨head ++ gap, by rw [← hgap, ← skipSpaces, hrest]; simp⟩

theorem exists_brace_of_firstLine? (h : firstLine? clientHeader? start text = some rest) :
    ∃ head, text = head ++ '{' :: rest := by
  induction text generalizing start with
  | nil =>
      rw [firstLine?] at h
      cases start <;> cases h
  | cons c text ih =>
      rw [firstLine?] at h
      split at h
      · rename_i found hfound
        cases h
        cases start with
        | false => cases hfound
        | true => exact exists_brace_of_clientHeader? hfound
      · obtain ⟨head, rfl⟩ := ih h
        exact ⟨c :: head, rfl⟩

/-- Whether there is a header is settled at its brace. -/
theorem clientHeader?_append_brace (a b : Text) :
    clientHeader? (a ++ '{' :: b) = (clientHeader? (a ++ ['{'])).map (· ++ b) := by
  have hspace : isSpace '{' = false := by decide
  have hwords := stopsAt_headerWords? hspace (by decide) a
  rw [clientHeader?_eq, clientHeader?_eq, hwords b, hwords []]
  cases headerWords? a with
  | none => rfl
  | some brace =>
      change Text.dropPrefix? ['{'] (skipSpaces (brace ++ '{' :: b)) =
        (Text.dropPrefix? ['{'] (skipSpaces (brace ++ ['{']))).map (· ++ b)
      have hskip := skipSpaces_append hspace brace
      rw [hskip b, hskip []]
      cases skipSpaces brace with
      | nil => rfl
      | cons c gap =>
          by_cases hc : '{' = c <;> simp [Text.dropPrefix?, hc]

/-- The first header is the first one whatever follows its brace. -/
theorem firstLine?_header_append
    (h : firstLine? clientHeader? start (front ++ rest) = some rest) (other : Text) :
    firstLine? clientHeader? start (front ++ other) = some other := by
  obtain ⟨head, hhead⟩ := exists_brace_of_firstLine? h
  rw [List.append_cons, List.append_cancel_right_eq] at hhead
  subst hhead
  simp only [List.append_assoc, List.singleton_append] at h ⊢
  induction head generalizing start with
  | nil =>
      have hnone (text : Text) : (if start then clientHeader? ('{' :: text) else none) = none := by
        have hbrace := clientHeader?_append_brace [] text
        cases start with
        | false => rfl
        | true => exact hbrace
      rw [List.nil_append, firstLine?, hnone] at h
      -- The header that is found would start behind the brace at which it ends.
      obtain ⟨head, hhead⟩ := exists_brace_of_firstLine? h
      have hlength := congrArg List.length hhead
      rw [List.length_append, List.length_cons] at hlength
      omega
  | cons c head ih =>
      have hread (text : Text) :
          (if start then clientHeader? (c :: (head ++ '{' :: text)) else none) =
            (if start then clientHeader? (c :: (head ++ ['{'])) else none).map (· ++ text) := by
        cases start with
        | false => rfl
        | true => exact clientHeader?_append_brace (c :: head) text
      rw [List.cons_append, firstLine?, hread] at h ⊢
      generalize (if start then clientHeader? (c :: (head ++ ['{'])) else none) = found at h ⊢
      cases found with
      | none => exact ih h
      | some found =>
          have hempty : found ++ rest = rest := Option.some.inj h
          rw [List.append_left_eq_self] at hempty
          simp [hempty]

def header : Text := "type Client interface \x7b".toList

theorem firstLine?_header (rest : Text) :
    firstLine? clientHeader? true (header ++ rest) = some rest := by
  rfl

end GoStubs.Interface
