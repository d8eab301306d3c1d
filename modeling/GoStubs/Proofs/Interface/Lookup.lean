import GoStubs.Interface.Read
import GoStubs.Proofs.Except
import GoStubs.Proofs.Go.Token
import GoStubs.Proofs.Interface.Header

/-!
# Lookups among comments

The package clause, the header and the imports of an interface file are looked up in the text as it
is.  A line comment changes nothing that is found, since no clause goes on into it, unless it has
quotes.  A block comment may start a line with a clause of its own, hide the clause behind it, or
hold an import.
-/

namespace GoStubs

open Text (isSpace)

variable {condition : Text → Prop} {a b : Text}

/-! ### Cutting line comments off -/

namespace Go

/-- Line comments that satisfy a condition are cut off from the first text, which gives the
second. -/
inductive Cut (condition : Text → Prop) : Text → Text → Prop
  | nil : Cut condition [] []
  | char (c : Char) {a b : Text} (tail : Cut condition a b) : Cut condition (c :: a) (c :: b)
  | line {text a b : Text} (one_line : '\n' ∉ text) (holds : condition text)
      (tail : Cut condition a b) : Cut condition ('/' :: '/' :: text ++ '\n' :: a) ('\n' :: b)
  | last {text : Text} (one_line : '\n' ∉ text) (holds : condition text) :
      Cut condition ('/' :: '/' :: text) []

/-- Source text whose comments all end with their lines, or with the text, and satisfy a
condition. -/
def LineCommented (condition : Text → Prop) (content : Text) : Prop :=
  ∃ tokens rest, Reads content tokens rest ∧ (∀ text, .block text ∉ tokens) ∧
    (∀ text, .line text ∈ tokens → condition text) ∧
    (Comment.strip rest = rest ∨ ∃ text, rest = '/' :: '/' :: text ∧ '\n' ∉ text ∧ condition text)

namespace Cut

theorem append (first : Text) (h : Cut condition a b) :
    Cut condition (first ++ a) (first ++ b) := by
  induction first with
  | nil => exact h
  | cons c first ih => exact .char c ih

theorem refl (text : Text) : Cut condition text text := by
  induction text with
  | nil => exact .nil
  | cons c text ih => exact .char c ih

/-- Two texts part at the first comment, which a newline or the end of the text takes the place
of. -/
theorem eq_or_exists (h : Cut condition a b) :
    a = b ∨ ∃ front more, a = front ++ '/' :: more ∧
      (b = front ∨ ∃ less, b = front ++ '\n' :: less) := by
  induction h with
  | nil => exact .inl rfl
  | @char c a b _ ih =>
      rcases ih with rfl | ⟨front, more, rfl, rfl | ⟨less, rfl⟩⟩
      · exact .inl rfl
      · exact .inr ⟨c :: b, more, rfl, .inl rfl⟩
      · exact .inr ⟨c :: front, more, rfl, .inr ⟨less, rfl⟩⟩
  | line _ _ _ => exact .inr ⟨[], _, rfl, .inr ⟨_, rfl⟩⟩
  | last _ _ => exact .inr ⟨[], _, rfl, .inl rfl⟩

end Cut

theorem Comment.strip_line_comment {text : Text} (h : '\n' ∉ text) :
    strip ('/' :: '/' :: text) = [] := by
  change stripFrom .line text = []
  induction text with
  | nil => rfl
  | cons c text ih =>
      obtain ⟨hc, ht⟩ := not_or.1 (mt List.mem_cons.2 h)
      rw [stripFrom, if_neg (Ne.symm hc), ih ht]

theorem Reads.cut {text rest : Text} {tokens : List Token} (h : Reads text tokens rest)
    (hb : ∀ text, .block text ∉ tokens) (hl : ∀ text, .line text ∈ tokens → condition text)
    (hr : Cut condition rest (Comment.strip rest)) : Cut condition text (Comment.strip text) := by
  induction h with
  | done rest => exact hr
  | @next token tokens text rest hv ha tail ih =>
      have htail := ih (fun text hm => hb text (List.mem_cons_of_mem _ hm))
        (fun text hm => hl text (List.mem_cons_of_mem _ hm)) hr
      rw [Token.strip_append hv ha]
      cases token with
      | char c => exact htail.append [c]
      | literal quote inner => exact htail.append (quote :: inner ++ [quote])
      | line text =>
          rw [Token.source, List.append_assoc]
          exact .line hv (hl text List.mem_cons_self) htail
      | block text => exact absurd List.mem_cons_self (hb text)

theorem LineCommented.cut {content : Text} (h : LineCommented condition content) :
    Cut condition content (Comment.strip content) := by
  obtain ⟨tokens, rest, hreads, hb, hl, hr⟩ := h
  apply hreads.cut hb hl
  rcases hr with hr | ⟨text, rfl, ho, hc⟩
  · rw [hr]
    exact .refl rest
  · rw [Comment.strip_line_comment ho]
    exact .last ho hc

end Go

/-! ### Clauses -/

namespace Interface

open Go (Cut)

variable {α β : Type} {read : Text → Option α} {start : Bool}

/-- A reader whose result is settled in front of a slash and of a newline. -/
def Settled (read : Text → Option α) : Prop :=
  ∀ mark ∈ ['/', '\n'], ∀ front rest, read (front ++ mark :: rest) = read front

theorem Settled.read_eq (hs : Settled read) (h : Cut condition a b) : read a = read b := by
  rcases h.eq_or_exists with rfl | ⟨front, more, rfl, rfl | ⟨less, rfl⟩⟩
  · rfl
  · exact hs '/' (by simp) b more
  · rw [hs '/' (by simp), hs '\n' (by simp)]

theorem firstLine?_within {text : Text} (h : '\n' ∉ text) (rest : Text) :
    firstLine? read false (text ++ '\n' :: rest) = firstLine? read true rest := by
  induction text with
  | nil => rfl
  | cons c text ih =>
      obtain ⟨hc, ht⟩ := not_or.1 (mt List.mem_cons.2 h)
      have hne : (c == '\n') = false := beq_false_of_ne (Ne.symm hc)
      rw [List.cons_append, firstLine?, hne]
      exact ih ht

theorem firstLine?_of_not_mem {text : Text} (h : '\n' ∉ text) :
    firstLine? read false text = none := by
  induction text with
  | nil => rfl
  | cons c text ih =>
      obtain ⟨hc, ht⟩ := not_or.1 (mt List.mem_cons.2 h)
      have hne : (c == '\n') = false := beq_false_of_ne (Ne.symm hc)
      rw [firstLine?, hne]
      exact ih ht

/-- The first line that a settled reader accepts is the same without line comments. -/
theorem Settled.firstLine?_eq (hs : Settled read) (h : Cut condition a b) (start : Bool) :
    firstLine? read start a = firstLine? read start b := by
  induction h generalizing start with
  | nil => rfl
  | char c tail ih => rw [firstLine?, firstLine?, hs.read_eq (.char c tail), ih]
  | @line text a b ho hc tail ih =>
      have hread := hs.read_eq (.line ho hc tail)
      have hslash : ('/' == '\n') = false := by decide
      rw [List.cons_append] at hread ⊢
      rw [firstLine?, firstLine?, hread, hslash, firstLine?_within (by simpa using ho), ih]
      rfl
  | @last text ho hc =>
      have hread := hs.read_eq (.last ho hc)
      have hslash : ('/' == '\n') = false := by decide
      rw [firstLine?, firstLine?, hread, hslash, firstLine?_of_not_mem (by simpa using ho)]
      cases start <;> cases read [] <;> rfl

theorem firstLine?_map (f : α → β) (text : Text) :
    firstLine? (fun text => (read text).map f) start text = (firstLine? read start text).map f := by
  induction text generalizing start with
  | nil => cases start <;> rfl
  | cons c text ih =>
      rw [firstLine?, firstLine?, ih]
      cases start with
      | false => rfl
      | true => cases read (c :: text) <;> rfl

/-- What a package clause names, read behind its first word. -/
def packageName? (text : Text) : Option Text :=
  if text.head?.any isPlainLetter then some (text.takeWhile isPlainWordChar) else none

theorem packageName?_append {mark : Char} (hl : isPlainLetter mark = false)
    (hw : isPlainWordChar mark = false) (front rest : Text) :
    packageName? (front ++ mark :: rest) = packageName? front := by
  have htake : (front ++ mark :: rest).takeWhile isPlainWordChar =
      front.takeWhile isPlainWordChar := by
    induction front with
    | nil => simp [hw]
    | cons c front ih => simp only [List.cons_append, List.takeWhile_cons, ih]
  rw [packageName?, packageName?, htake]
  cases front with
  | nil => simp [hl]
  | cons c front => rfl

theorem settled_packageClause? : Settled packageClause? := by
  intro mark hm front rest
  have hspace : isSpace mark = false := by
    revert mark
    decide
  have hword : mark ∉ "package".toList := by
    revert mark
    decide
  have hname : isPlainLetter mark = false ∧ isPlainWordChar mark = false := by
    revert mark
    decide
  have hclause (text : Text) : packageClause? text =
      (after? "package" (skipSpaces text) >>= afterSpaces?).bind packageName? := rfl
  have hstops : StopsAt mark fun text => after? "package" (skipSpaces text) >>= afterSpaces? :=
    ((stopsAt_dropPrefix? hword).skipSpaces hspace).bind (stopsAt_afterSpaces? hspace)
  have hbehind := hstops front rest
  simp only at hbehind
  rw [hclause, hclause, hbehind, Option.bind_map]
  congr 1
  exact funext fun text => packageName?_append hname.1 hname.2 text rest

theorem settled_clientHeader? : Settled fun text => (clientHeader? text).map fun _ => () := by
  intro mark hm front rest
  have hspace : isSpace mark = false := by
    revert mark
    decide
  have hheader : mark ∉ "typeClientinterface\x7b".toList := by
    revert mark
    decide
  change (clientHeader? (front ++ mark :: rest)).map _ = _
  rw [stopsAt_clientHeader? hspace hheader, Option.map_map]

/-! ### Literals -/

theorem literalsFrom_within {text : Text} (hn : '\n' ∉ text) (hq : '"' ∉ text)
    (literal : Option Text) (rest : Text) :
    literalsFrom literal (text ++ '\n' :: rest) = literalsFrom none rest := by
  induction text generalizing literal with
  | nil => cases literal <;> rfl
  | cons c text ih =>
      obtain ⟨hc, ht⟩ := not_or.1 (mt List.mem_cons.2 hn)
      obtain ⟨hd, hu⟩ := not_or.1 (mt List.mem_cons.2 hq)
      cases literal <;>
        simp [literalsFrom, Ne.symm hc, Ne.symm hd, ih ht hu]

theorem literalsFrom_of_not_mem {text : Text} (hq : '"' ∉ text) (literal : Option Text) :
    literalsFrom literal text = [] := by
  induction text generalizing literal with
  | nil => cases literal <;> rfl
  | cons c text ih =>
      obtain ⟨hc, ht⟩ := not_or.1 (mt List.mem_cons.2 hq)
      cases literal <;> simp [literalsFrom, Ne.symm hc, ih ht]

theorem literalsFrom_eq (h : Cut ('"' ∉ ·) a b) (literal : Option Text) :
    literalsFrom literal a = literalsFrom literal b := by
  induction h generalizing literal with
  | nil => rfl
  | char c _ ih => cases literal <;> simp only [literalsFrom, ih]
  | line ho hc _ ih =>
      rw [literalsFrom_within (by simpa using ho) (by simpa using hc), ih]
      exact (literalsFrom_within List.not_mem_nil List.not_mem_nil literal _).symm
  | last _ hc =>
      rw [literalsFrom_of_not_mem (by simpa using hc)]
      exact (literalsFrom_of_not_mem List.not_mem_nil literal).symm

/-! ### Files -/

theorem ofDeclaration_ne_missingInterface (declaration : Text) :
    Method.ofDeclaration declaration ≠ .error .missingInterface := by
  unfold Method.ofDeclaration Method.ofSignature
  repeat' split
  all_goals simp

theorem findMethods_eq_missing_iff {content : Text} :
    findMethods content = .error .missingInterface ↔
      firstLine? clientHeader? true content = none := by
  unfold findMethods
  cases firstLine? clientHeader? true content with
  | none => simp
  | some rest =>
      rcases hb : Go.Bracket.closing? '{' '}' (Go.Comment.strip rest) with _ | ⟨body, after⟩
      · simp [hb]
      · simp only [hb, reduceCtorEq, iff_false]
        intro h
        obtain ⟨declaration, -, hd⟩ := Except.exists_of_mapM_eq_error h
        exact ofDeclaration_ne_missingInterface declaration hd

/-- Where all comments end with their lines, the service and the interface of a file are found as
if there were none, and the imports are, if there are no quotes in the comments. -/
theorem lookups_of_lineCommented {content : Text}
    (h : Go.LineCommented (fun _ => True) content) :
    findService content = findService (Go.Comment.strip content) ∧
      (findMethods content = .error .missingInterface ↔
        findMethods (Go.Comment.strip content) = .error .missingInterface) ∧
      (Go.LineCommented ('"' ∉ ·) content → ∀ marker,
        findImports marker content = findImports marker (Go.Comment.strip content)) := by
  refine ⟨?_, ?_, ?_⟩
  · rw [findService, findService, settled_packageClause?.firstLine?_eq h.cut]
  · have hheader := settled_clientHeader?.firstLine?_eq h.cut true
    rw [firstLine?_map, firstLine?_map] at hheader
    rw [findMethods_eq_missing_iff, findMethods_eq_missing_iff, ← Option.map_eq_none_iff, hheader,
      Option.map_eq_none_iff]
  · intro hquotes marker
    rw [findImports, findImports, literalsFrom_eq hquotes.cut]

/-- A clause and an import, with line comments in front and behind. -/
def lineCommentedSample : Text := "// package a\npackage b\nimport \"c\" // d".toList

theorem lookups_of_lineCommented_sample :
    Go.LineCommented ('"' ∉ ·) lineCommentedSample ∧
      findService (Go.Comment.strip lineCommentedSample) = .ok ⟨['B']⟩ ∧
      findMethods (Go.Comment.strip lineCommentedSample) = .error .missingInterface ∧
      findImports ['c'] (Go.Comment.strip lineCommentedSample) = ["\"c\"".toList] := by
  have hclause : ∀ c ∈ "package b\nimport ".toList, Go.Literal.isQuote c = false ∧ c ≠ '/' := by
    decide
  have hone : '\n' ∉ " package a".toList := by decide
  have hline : Go.Token.Valid (.line " package a".toList) := hone
  have hliteral : Go.Token.Valid (.literal '"' ['c']) :=
    ⟨by decide, .char (by decide) (by decide) .nil⟩
  have hspace : Go.Token.Valid (.char ' ') := by simp [Go.Token.Valid, Go.Literal.isQuote]
  have hreads : Go.Reads lineCommentedSample (.line " package a".toList ::
      ("package b\nimport ".toList.map .char ++ [.literal '"' ['c'], .char ' '])) "// d".toList :=
    .next hline (by simp [Go.Token.Apart])
      ((Go.Reads.of_plain _ _ hclause).append (.next hliteral (by simp [Go.Token.Apart])
        (.next hspace (by simp [Go.Token.Apart]) (.done _))))
  have h (condition : Text → Prop) (hfirst : condition " package a".toList)
      (hlast : condition " d".toList) : Go.LineCommented condition lineCommentedSample := by
    refine ⟨_, _, hreads, ?_, ?_, .inr ⟨" d".toList, rfl, by decide, hlast⟩⟩
    · simp
    · intro text hm
      have htext : text = " package a".toList := by simpa using hm
      rwa [htext]
  have hquotes := h ('"' ∉ ·) (by decide) (by decide)
  obtain ⟨hservice, hmethods, himports⟩ := lookups_of_lineCommented (h _ trivial trivial)
  refine ⟨hquotes, ?_, hmethods.1 ?_, ?_⟩
  · rw [← hservice]
    decide +kernel
  · decide +kernel
  · rw [← himports hquotes]
    decide +kernel

/-- A block comment may declare a package of its own, hide the clause behind it, and hold an import
or a header. -/
theorem exists_lookup_of_block_comment :
    (∃ content, findService content = .ok ⟨['A']⟩ ∧
      findService (Go.Comment.strip content) = .ok ⟨['B']⟩) ∧
    (∃ content, findService content = .error .missingPackage ∧
      findService (Go.Comment.strip content) = .ok ⟨['A']⟩) ∧
    (∃ content, findMethods content ≠ .error .missingInterface ∧
      findMethods (Go.Comment.strip content) = .error .missingInterface) ∧
    ∃ content marker, findImports marker content ≠ [] ∧
      findImports marker (Go.Comment.strip content) = [] := by
  refine ⟨⟨"/*\npackage a\n*/\npackage b".toList, ?_⟩, ⟨"/* x */ package a".toList, ?_⟩,
    ⟨"/*\ntype Client interface \x7b\x7d\n*/".toList, ?_⟩, "/* \"a\" */".toList, ['a'], ?_⟩
  all_goals decide +kernel

end Interface

end GoStubs
