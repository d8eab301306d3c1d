import Mathlib.Algebra.Group.Nat.Even
import Mathlib.Data.List.Infix
import GoStubs.Interface.Lookup
import GoStubs.Proofs.Text.Distinct
import GoStubs.Proofs.Text.Lines

/-!
# Literals of an interface file

The literals of a file are those of its lines.  On each line the first quote is paired with the
second, the third with the fourth, and so on, and an odd quote at the end is left over.  The imports
are the literals with the marker, each at its first place.
-/

namespace GoStubs.Interface

open Text (lines)

variable {line front last content marker part text a b : Text} {found : List Text} {c : Char}

/-- The literals of a line that is cut at its quotes.  Each second piece stands between two quotes,
unless it is the last piece, which has no quote behind it. -/
def pairUp : List Text → List Text
  | _ :: inner :: next :: rest => ('"' :: inner ++ ['"']) :: pairUp (next :: rest)
  | _ => []

/-- The literals of a line: from its first quote to the second, from the third to the fourth, and so
on. -/
def lineLiterals (line : Text) : List Text := pairUp (Text.split (· == '"') line)

def literals (content : Text) : List Text := (lines content).flatMap lineLiterals

/-! ### Reading along a line -/

theorem pairUp_cons (first : Text) (inner : Text) {rest : List Text} (h : rest ≠ []) :
    pairUp (first :: inner :: rest) = ('"' :: inner ++ ['"']) :: pairUp rest := by
  obtain ⟨next, rest, rfl⟩ := List.exists_cons_of_ne_nil h
  rfl

/-- What stands in front of the first quote does not matter. -/
theorem pairUp_modifyHead (f : Text → Text) (pieces : List Text) :
    pairUp (pieces.modifyHead f) = pairUp pieces := by
  rcases pieces with _ | ⟨first, _ | ⟨inner, _ | ⟨next, rest⟩⟩⟩ <;> rfl

theorem split_quote (line : Text) :
    Text.split (· == '"') ('"' :: line) = [] :: Text.split (· == '"') line :=
  Text.split_cons_of_cut (by rfl) line

theorem split_cons_of_ne (hc : c ≠ '"') (line : Text) :
    Text.split (· == '"') (c :: line) =
      (Text.split (· == '"') line).modifyHead (c :: ·) := by
  simp [Text.split, hc]

/-- The literals of a text that starts with a line, where no literal goes on behind that line.  The
second part is for a reader inside of a literal, whose characters it keeps reversed. -/
theorem literalsFrom_line (hr : ∀ state, literalsFrom state text = found) (h : '\n' ∉ line) :
    literalsFrom none (line ++ text) = lineLiterals line ++ found ∧
      ∀ inner, literalsFrom (some (inner ++ ['"'])) (line ++ text) =
        pairUp ([] :: (Text.split (· == '"') line).modifyHead (inner.reverse ++ ·)) ++ found := by
  -- A quote takes each of the two readers to the other one, so they go together.
  induction line with
  | nil => exact ⟨hr none, fun inner => hr _⟩
  | cons c line ih =>
      obtain ⟨hc, hline⟩ := not_or.1 (mt List.mem_cons.2 h)
      obtain ⟨hnone, hsome⟩ := ih hline
      by_cases hquote : c = '"'
      · subst hquote
        refine ⟨?_, fun inner => ?_⟩
        · have hempty : (Text.split (· == '"') line).modifyHead (([] : Text).reverse ++ ·) =
              Text.split (· == '"') line := congrFun List.modifyHead_id _
          have hstart := hsome []
          rw [hempty] at hstart
          rw [List.cons_append, literalsFrom, if_pos rfl, lineLiterals, split_quote]
          exact hstart
        · rw [List.cons_append, literalsFrom, if_pos rfl, hnone, split_quote, List.modifyHead_cons,
            pairUp_cons _ _ (Text.split_ne_nil _ line), lineLiterals]
          simp
      · refine ⟨?_, fun inner => ?_⟩
        · rw [List.cons_append, literalsFrom, if_neg hquote, hnone, lineLiterals, lineLiterals,
            split_cons_of_ne hquote, pairUp_modifyHead]
        · have hnext := hsome (c :: inner)
          rw [List.cons_append, literalsFrom, if_neg hquote, if_neg (Ne.symm hc),
            split_cons_of_ne hquote, List.modifyHead_modifyHead]
          simpa [Function.comp_def] using hnext

theorem literalsFrom_of_newline_not_mem (h : '\n' ∉ line) :
    literalsFrom none line = lineLiterals line := by
  have hline : literalsFrom none (line ++ []) = lineLiterals line ++ [] :=
    (literalsFrom_line (fun _ => literalsFrom.eq_1 _) h).1
  rwa [List.append_nil, List.append_nil] at hline

theorem literalsFrom_append_newline (h : '\n' ∉ line) (content : Text) :
    literalsFrom none (line ++ '\n' :: content) =
      lineLiterals line ++ literalsFrom none content := by
  refine (literalsFrom_line (fun state => ?_) h).1
  cases state <;> rfl

theorem literals_append_newline (a b : Text) :
    literals (a ++ '\n' :: b) = literals a ++ literals b := by
  rw [literals, Text.lines_append_newline, List.flatMap_append, literals, literals]

theorem literals_of_newline_not_mem (h : '\n' ∉ line) : literals line = lineLiterals line := by
  rw [literals, Text.lines_of_not_mem h, List.flatMap_singleton]

theorem literalsFrom_eq_literals (content : Text) :
    literalsFrom none content = literals content := by
  induction hn : content.length using Nat.strongRecOn generalizing content with
  | ind n ih =>
      subst hn
      by_cases hm : '\n' ∈ content
      · obtain ⟨line, rest, rfl, hline⟩ := List.eq_append_cons_of_mem hm
        have hshorter : rest.length < (line ++ '\n' :: rest).length := by
          simp only [List.length_append, List.length_cons]
          omega
        rw [literalsFrom_append_newline hline, ih _ hshorter rest rfl, literals_append_newline,
          literals_of_newline_not_mem hline]
      · rw [literalsFrom_of_newline_not_mem hm, literals_of_newline_not_mem hm]

/-! ### Imports -/

/-- The imports are the literals with the marker, without repetitions. -/
theorem findImports_eq (marker content : Text) :
    findImports marker content =
      ((literals content).filter fun text => marker <:+: text).eraseDups := by
  rw [findImports, literalsFrom_eq_literals]
  congr 2
  funext text
  rw [Bool.eq_iff_iff, Text.includes_iff, decide_eq_true_iff]

/-- Of a part of a file behind a newline, the imports that are not in front of it are added. -/
theorem findImports_append_newline (marker a b : Text) :
    findImports marker (a ++ '\n' :: b) =
      findImports marker a ++
        (findImports marker b).filter fun text => text ∉ findImports marker a := by
  simp only [findImports_eq, literals_append_newline, List.filter_append, List.eraseDups_append,
    List.removeAll, List.mem_eraseDups]
  congr 1
  rw [Text.eraseDups_filter]
  refine List.filter_congr fun text _ => ?_
  simp

/-! ### Odd quotes -/

theorem length_split {α : Type} (cut : α → Bool) (list : List α) :
    (Text.split cut list).length = list.countP cut + 1 := by
  induction list with
  | nil => rfl
  | cons c list ih =>
      by_cases hc : cut c
      · rw [Text.split_cons_of_cut hc, List.length_cons, ih, List.countP_cons_of_pos hc]
      · rw [Text.split, if_neg hc, List.length_modifyHead, ih, List.countP_cons_of_neg hc]

theorem pairUp_concat {pieces : List Text} (h : pieces.length % 2 = 1) (last : Text) :
    pairUp (pieces ++ [last]) = pairUp pieces := by
  fun_induction pairUp pieces with
  | case1 first inner next rest ih =>
      have hrest : (next :: rest).length % 2 = 1 := by
        simp only [List.length_cons] at h ⊢
        omega
      rw [← ih hrest]
      rfl
  | case2 pieces hshort =>
      rcases pieces with _ | ⟨first, _ | ⟨inner, _ | ⟨next, rest⟩⟩⟩
      · simp at h
      · rfl
      · simp at h
      · exact absurd rfl (hshort first inner next rest)

/-- A quote behind pairs of quotes is left over with what follows it. -/
theorem lineLiterals_odd (h : Even (front.count '"')) (hl : '"' ∉ last) :
    lineLiterals (front ++ '"' :: last) = lineLiterals front := by
  have hlast : Text.split (· == '"') last = [last] := by
    refine Text.split_of_not_cut fun c hc => beq_false_of_ne ?_
    rintro rfl
    exact hl hc
  -- The last piece of the line in front starts no literal.
  have hodd : (Text.split (· == '"') front).length % 2 = 1 := by
    have hcount := Nat.even_iff.1 h
    rw [List.count] at hcount
    rw [length_split]
    omega
  rw [lineLiterals, Text.split_append_cons (by rfl), hlast, pairUp_concat hodd, lineLiterals]

/-- Imports are found line by line, where the quotes of each line are paired from its start.  So the
imports behind a newline are added to those in front of it, and an odd quote does no more than to
end the literals of its own line. -/
theorem findImports_lines (marker : Text) :
    (∀ content, findImports marker content =
      (((lines content).flatMap lineLiterals).filter fun text => marker <:+: text).eraseDups) ∧
    (∀ a b, findImports marker (a ++ '\n' :: b) =
      findImports marker a ++
        (findImports marker b).filter fun text => text ∉ findImports marker a) ∧
    ∀ before front last after, '\n' ∉ front → '\n' ∉ last → '"' ∉ last → Even (front.count '"') →
      findImports marker (['\n'].intercalate (before ++ (front ++ '"' :: last) :: after)) =
        findImports marker (['\n'].intercalate (before ++ front :: after)) := by
  refine ⟨findImports_eq marker, findImports_append_newline marker, ?_⟩
  intro before front last after hf hl hquote heven
  have hline : '\n' ∉ front ++ '"' :: last := by simp [hf, hl]
  have hliterals (line : Text) (h : '\n' ∉ line) :
      literals (['\n'].intercalate (before ++ line :: after)) =
        (before.flatMap lines).flatMap lineLiterals ++
          (lineLiterals line ++ (after.flatMap lines).flatMap lineLiterals) := by
    rw [literals, Text.lines_intercalate (by simp), List.flatMap_append, List.flatMap_append,
      List.flatMap_cons, List.flatMap_append, Text.lines_of_not_mem h, List.flatMap_singleton]
  rw [findImports_eq, findImports_eq, hliterals _ hline, hliterals _ hf,
    lineLiterals_odd heven hquote]

/-- Imports around a line with three quotes, where the second literal comes again. -/
theorem findImports_lines_sample :
    let first := "import \"x/a\"".toList
    let front := "\"x/b\", ".toList
    let last := "x/c".toList
    let after := ["\"x/a\" \"x/d\"".toList]
    '\n' ∉ front ∧ '\n' ∉ last ∧ '"' ∉ last ∧ Even (front.count '"') ∧
      findImports "x/".toList (['\n'].intercalate ([first] ++ (front ++ '"' :: last) :: after)) =
        ["\"x/a\"", "\"x/b\"", "\"x/d\""].map String.toList := by
  intro first front last after
  have hfront : '\n' ∉ front := by decide
  have hlast : '\n' ∉ last := by decide
  have hquote : '"' ∉ last := by decide
  have heven : Even (front.count '"') := by decide
  refine ⟨hfront, hlast, hquote, heven, ?_⟩
  rw [(findImports_lines "x/".toList).2.2 [first] front last after hfront hlast hquote heven]
  decide +kernel

end GoStubs.Interface
