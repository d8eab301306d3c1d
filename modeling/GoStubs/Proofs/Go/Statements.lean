import GoStubs.Proofs.Go.Block
import GoStubs.Proofs.Go.Reading
import GoStubs.Proofs.Text.Ascii

/-!
# Statements of Go source text

Source text without comments is a list of words, literals and other characters.
Outside of brackets a semicolon ends a statement, and so does a newline behind
anything that a statement can end with.  A statement that starts with a keyword
for declarations declares the names behind it.
-/

namespace GoStubs.Go

open Text (isBlank isWordChar)

/-- What source text without comments is made of.  Newlines count, since they may end statements;
other blanks do not. -/
inductive Lexeme
  | word (text : Text)
  | literal
  | newline
  | sign (c : Char)
  deriving DecidableEq, Repr

/-- The word that has been read when another character follows it. -/
def ofWord (word : Text) : List Lexeme := if word.isEmpty then [] else [.word word]

/-- The lexemes of a text without comments, behind the start of a literal or of a word. -/
def lexemesFrom : Option Literal → Text → Text → List Lexeme
  | none, word, [] => ofWord word
  | some _, _, [] => []
  | some l, _, c :: rest => lexemesFrom (l.next c) [] rest
  | none, word, c :: rest =>
    if isWordChar c then lexemesFrom none (word ++ [c]) rest
    else ofWord word ++
      if Literal.isQuote c then .literal :: lexemesFrom (Literal.start? c) [] rest
      else if c = '\n' then .newline :: lexemesFrom none [] rest
      else if isBlank c then lexemesFrom none [] rest
      else .sign c :: lexemesFrom none [] rest

def lexemes (text : Text) : List Lexeme := lexemesFrom none [] (Comment.strip text)

namespace Lexeme

/-- Whether a newline behind the lexeme ends a statement. -/
def isEnd : Lexeme → Bool
  | .word text =>
    !keywords.contains text ||
      (["break", "continue", "fallthrough", "return"].map String.toList).contains text
  | .literal => true
  | .newline => false
  | .sign c => Bracket.isCloser c

/-- Whether the lexeme can end the statement in front of it. -/
def isBreak : Lexeme → Bool
  | .newline => true
  | .sign c => c == ';'
  | _ => false

def sign? : Lexeme → Option Char
  | .sign c => some c
  | _ => none

/-- What is awaited behind the lexeme.  A bracket that closes nothing is passed over. -/
def await (awaited : List Char) : Lexeme → List Char
  | .sign c => (Bracket.await awaited c).getD awaited
  | _ => awaited

end Lexeme

/-- The statements of a list of lexemes, given what is awaited in front of it and whether a newline
would end a statement there. -/
def statementsFrom : List Char → Bool → List Lexeme → List (List Lexeme)
  | _, _, [] => [[]]
  | awaited, ended, lexeme :: rest =>
    if awaited.isEmpty && lexeme.isBreak then
      if ended || lexeme == .sign ';' then [] :: statementsFrom [] false rest
      else statementsFrom [] false rest
    else (statementsFrom (lexeme.await awaited) lexeme.isEnd rest).modifyHead (lexeme :: ·)

def statements (list : List Lexeme) : List (List Lexeme) := statementsFrom [] false list

/-- The names that a list of lexemes starts with, with commas between them. -/
def namesIn : List Lexeme → List Text
  | .word name :: .sign ',' :: rest => name :: namesIn rest
  | .word name :: _ => [name]
  | _ => []

/-- The names behind the keyword of a declaration.  A function with a receiver has none, and the
other kinds of declarations come in groups as well. -/
def declared : List Lexeme → List Text
  | .word keyword :: rest =>
    if keyword = "func".toList then namesIn rest
    else if (["const", "type", "var"].map String.toList).contains keyword then
      match rest with
      | .sign '(' :: inner => (statements inner).flatMap namesIn
      | _ => namesIn rest
    else []
  | _ => []

/-- Whether a declaration gives a name to the package.  The blank identifier stands for no name, and
functions that initialise a package have none. -/
def isDeclarable (name : Text) : Bool := isPackageName name && name != "init".toList

/-- The names that a file declares in its package. -/
def declaredNames (text : Text) : List Text :=
  ((statements (lexemes text)).flatMap declared).filter isDeclarable

/-- The name in the package clause, with which a file starts. -/
def packageName? (text : Text) : Option Text :=
  match statements (lexemes text) with
  | (.word keyword :: .word name :: _) :: _ =>
    if keyword = "package".toList then some name else none
  | _ => none

variable {text word inner first rest : Text} {c quote opening closing : Char}

/-! ### Lexemes -/

theorem lexemesFrom_wordChars (h : ∀ c ∈ text, isWordChar c) (word rest : Text) :
    lexemesFrom none word (text ++ rest) = lexemesFrom none (word ++ text) rest := by
  induction text generalizing word with
  | nil => rw [List.nil_append, List.append_nil]
  | cons c text ih =>
      obtain ⟨hc, ht⟩ := List.forall_mem_cons.1 h
      rw [List.cons_append, lexemesFrom, if_pos hc, ih ht, List.append_assoc]
      rfl

theorem lexemesFrom_of_not_isWordChar (hc : isWordChar c = false) (word rest : Text) :
    lexemesFrom none word (c :: rest) = ofWord word ++ lexemesFrom none [] (c :: rest) := by
  have hempty : ofWord [] = [] := rfl
  simp only [lexemesFrom, hc, Bool.false_eq_true, if_false, hempty, List.nil_append]

theorem lexemesFrom_newline (rest : Text) :
    lexemesFrom none [] ('\n' :: rest) = .newline :: lexemesFrom none [] rest := by
  have hword : isWordChar '\n' = false := Text.isWordChar_of_isBlank (by decide)
  rw [lexemesFrom, if_neg (by simp [hword])]
  rfl

theorem isWordChar_of_isQuote (h : Literal.isQuote c) : isWordChar c = false := by
  rw [Bool.eq_false_iff]
  intro hw
  have hplain : IsPlain [c] := isPlain_of_isWordChar (List.forall_mem_singleton.2 hw)
  simp [hplain.not_isQuote c List.mem_cons_self] at h

theorem lexemesFrom_closes {l : Literal} (h : l.Closes text) (word rest : Text) :
    lexemesFrom (some l) word (text ++ rest) = lexemesFrom none [] rest := by
  induction h generalizing word with
  | last hn => rw [List.singleton_append, lexemesFrom, hn]
  | more hn _ ih => rw [List.cons_append, lexemesFrom, hn, ih]

theorem lexemesFrom_literal (hq : Literal.isQuote quote) (hi : Literal.Inside quote inner)
    (rest : Text) : lexemesFrom none [] (quote :: inner ++ quote :: rest) =
      .literal :: lexemesFrom none [] rest := by
  have hsplit : inner ++ quote :: rest = (inner ++ [quote]) ++ rest := by simp
  rw [List.cons_append, lexemesFrom, if_neg (by simp [isWordChar_of_isQuote hq]), if_pos hq,
    Literal.start?, if_pos hq, hsplit, lexemesFrom_closes (hi.closes hq)]
  rfl

/-- The lexemes of whole tokens do not depend on what follows them, if it does not go on with a
word. -/
theorem lexemesFrom_left {tokens : List Token} (hv : ∀ token ∈ tokens, token.Valid)
    (hc : isWordChar c = false) (word rest : Text) :
    lexemesFrom none word (tokens.flatMap Token.left ++ c :: rest) =
      lexemesFrom none word (tokens.flatMap Token.left) ++ lexemesFrom none [] (c :: rest) := by
  induction tokens generalizing word with
  | nil => exact lexemesFrom_of_not_isWordChar hc word rest
  | cons token tokens ih =>
      obtain ⟨htoken, htokens⟩ := List.forall_mem_cons.1 hv
      have hchar (d : Char) (hd : Literal.isQuote d = false) :
          lexemesFrom none word (d :: (tokens.flatMap Token.left ++ c :: rest)) =
            lexemesFrom none word (d :: tokens.flatMap Token.left) ++
              lexemesFrom none [] (c :: rest) := by
        simp only [lexemesFrom, hd, Bool.false_eq_true, if_false, ih htokens]
        repeat' split
        all_goals simp
      cases token with
      | char d => exact hchar d htoken
      | line text => exact hchar '\n' (by decide)
      | block text =>
          refine hchar _ ?_
          cases text.contains '\n' <;> decide
      | literal quote inner =>
          have hword := isWordChar_of_isQuote htoken.1
          have hsource (behind : Text) : (Token.literal quote inner).left ++ behind =
              quote :: (inner ++ quote :: behind) := by simp [Token.left]
          have hliteral (behind : Text) := lexemesFrom_literal htoken.1 htoken.2 behind
          simp only [List.cons_append] at hliteral
          rw [List.flatMap_cons, List.append_assoc, hsource, hsource,
            lexemesFrom_of_not_isWordChar hword, lexemesFrom_of_not_isWordChar hword word,
            hliteral, hliteral, ih htokens]
          simp

theorem Reads.append_cons {tokens : List Token} (h : Reads text tokens [])
    (hs : text.getLast? = some '/' → c ≠ '/' ∧ c ≠ '*') (rest : Text) :
    Reads (text ++ c :: rest) tokens (c :: rest) := by
  generalize hnil : ([] : Text) = last at h
  induction h with
  | done last =>
      subst hnil
      exact .done (c :: rest)
  | @next token tokens behind last hv ha _ ih =>
      have hmore := ih (fun hl => hs (by rw [List.getLast?_append, hl]; rfl)) hnil
      rw [List.append_assoc]
      refine .next hv (fun ht => ?_) hmore
      cases behind with
      | nil =>
          rw [ht] at hs
          simpa using hs rfl
      | cons d behind => exact ha ht

theorem exists_strip_cons (hc : c ≠ '/') (rest : Text) :
    ∃ more, Comment.strip (c :: rest) = c :: more := by
  have hhead : (Comment.strip (c :: rest)).head? = some c := Comment.head?_strip (by simpa using hc)
  exact List.head?_eq_some_iff.1 hhead

/-- The lexemes of a text that is read up to its end, with a character behind it that goes on with
nothing in it. -/
theorem lexemes_append_cons {tokens : List Token} (h : Reads text tokens [])
    (hw : isWordChar c = false) (hc : c ≠ '/') (hs : text.getLast? = some '/' → c ≠ '*')
    (rest : Text) : lexemes (text ++ c :: rest) = lexemes text ++ lexemes (c :: rest) := by
  have hreads := h.append_cons (fun hl => ⟨hc, hs hl⟩) rest
  obtain ⟨more, hmore⟩ := exists_strip_cons hc rest
  rw [lexemes, lexemes, lexemes, hreads.strip_eq, h.strip_eq, hmore, Comment.strip_nil,
    List.append_nil, lexemesFrom_left h.valid hw]

theorem lexemes_newline (rest : Text) : lexemes ('\n' :: rest) = .newline :: lexemes rest := by
  rw [lexemes, Comment.strip_cons (by decide) (by simp), lexemesFrom_newline]
  rfl

/-- Nothing is left of a comment but the newline behind it. -/
theorem lexemes_comment (h : '\n' ∉ text) (rest : Text) :
    lexemes ('/' :: '/' :: (text ++ '\n' :: rest)) = .newline :: lexemes rest := by
  have hstrip : Comment.strip ('/' :: '/' :: (text ++ '\n' :: rest)) =
      '\n' :: Comment.strip rest := Comment.stripFrom_line h rest
  rw [lexemes, hstrip, lexemesFrom_newline]
  rfl

theorem lexemes_literal (hq : Literal.isQuote quote) (hi : Literal.Inside quote inner)
    (rest : Text) :
    lexemes (quote :: (inner ++ quote :: rest)) = .literal :: lexemes rest := by
  have hv : (Token.literal quote inner).Valid := ⟨hq, hi⟩
  have hsource (rest : Text) :
      quote :: (inner ++ quote :: rest) = (Token.literal quote inner).source ++ rest := by
    simp [Token.source]
  have hleft : (Token.literal quote inner).left ++ Comment.strip rest =
      quote :: inner ++ quote :: Comment.strip rest := by simp [Token.left]
  rw [lexemes, hsource, Token.strip_append hv (by rintro ⟨⟩), hleft, lexemesFrom_literal hq hi]
  rfl

/-- Whether what stands in front of a text ends there when it is a word. -/
def EndsWord (rest : Text) : Prop := rest.head?.any fun c => !isWordChar c && c != '/'

instance (rest : Text) : Decidable (EndsWord rest) := inferInstanceAs (Decidable (_ = true))

theorem EndsWord.append (h : EndsWord rest) (last : Text) : EndsWord (rest ++ last) := by
  cases rest with
  | nil => cases h
  | cons c rest => exact h

theorem lexemes_word (hw : ∀ c ∈ word, isWordChar c) (hn : word ≠ []) (hr : EndsWord rest) :
    lexemes (word ++ rest) = .word word :: lexemes rest := by
  obtain ⟨c, behind, rfl⟩ : ∃ c behind, rest = c :: behind := by
    cases rest with
    | nil => cases hr
    | cons c behind => exact ⟨c, behind, rfl⟩
  obtain ⟨hc, hs⟩ : isWordChar c = false ∧ c ≠ '/' := by simpa [EndsWord] using hr
  have hplain : ∀ c ∈ word, Literal.isQuote c = false ∧ c ≠ '/' := by
    intro d hd
    constructor
    · exact (isPlain_of_isWordChar hw).not_isQuote d hd
    · exact (isPlain_of_isWordChar hw).ne (by decide) d hd
  obtain ⟨more, hmore⟩ := exists_strip_cons hs behind
  have hword : ofWord word = [.word word] := by rw [ofWord, if_neg (by simpa using hn)]
  rw [lexemes, lexemes, strip_append hplain, hmore, lexemesFrom_wordChars hw,
    lexemesFrom_of_not_isWordChar hc, List.nil_append, hword]
  rfl

/-- The lexemes of a text without literals and comments that does not end in a word. -/
theorem lexemes_plain {list : List Lexeme} (h : ∀ c ∈ text, Literal.isQuote c = false ∧ c ≠ '/')
    (hl : text.getLast?.any fun c => !isWordChar c) (hlist : lexemes text = list) (rest : Text) :
    lexemes (text ++ rest) = list ++ lexemes rest := by
  subst hlist
  rcases List.eq_nil_or_concat text with rfl | ⟨front, c, rfl⟩
  · cases hl
  rw [List.concat_eq_append] at h hl ⊢
  obtain ⟨hfront, hlast⟩ := List.forall_mem_append.1 h
  have hw : isWordChar c = false := by simpa using hl
  have hq : Literal.isQuote c = false := (hlast c (by simp)).1
  have htokens : ∀ token ∈ front.map Token.char, token.Valid := by
    intro token hm
    obtain ⟨d, hd, rfl⟩ := List.mem_map.1 hm
    exact (hfront d hd).1
  have hleft : (front.map Token.char).flatMap Token.left = front := by
    rw [List.flatMap_map]
    exact List.flatMap_singleton' front
  have hcons (behind : Text) : lexemesFrom none [] (c :: behind) =
      lexemesFrom none [] [c] ++ lexemesFrom none [] behind := by
    simp only [lexemesFrom, hw, hq, Bool.false_eq_true, if_false]
    repeat' split
    all_goals simp [ofWord]
  have hall (behind : Text) := lexemesFrom_left htokens hw [] behind
  rw [hleft] at hall
  have hstrip := strip_append h []
  rw [List.append_nil, Comment.strip_nil, List.append_nil] at hstrip
  rw [lexemes, lexemes, lexemes, strip_append h, hstrip, List.append_assoc,
    List.singleton_append, hall, hall, hcons, List.append_assoc]

/-! ### Texts in ASCII -/

/-- The lexemes of a text in ASCII without literals and comments, behind the start of a word.  No
table is needed to tell its characters apart. -/
def asciiLexemes (word : Text) : Text → List Lexeme
  | [] => ofWord word
  | c :: rest =>
    if c.isAlphanum || c == '_' then asciiLexemes (word ++ [c]) rest
    else ofWord word ++
      if c = '\n' then .newline :: asciiLexemes [] rest
      else if isBlank c then asciiLexemes [] rest
      else .sign c :: asciiLexemes [] rest

theorem lexemesFrom_eq_asciiLexemes (h : ∀ c ∈ text, c.toNat < 128 ∧ Literal.isQuote c = false)
    (word : Text) : lexemesFrom none word text = asciiLexemes word text := by
  induction text generalizing word with
  | nil => rfl
  | cons c text ih =>
      obtain ⟨⟨hc, hq⟩, ht⟩ := List.forall_mem_cons.1 h
      simp only [lexemesFrom, asciiLexemes, Text.isWordChar_eq_isAlphanum hc, hq, ih ht,
        Bool.false_eq_true, if_false]

/-- A text in ASCII without literals and comments that does not end in a word, with its lexemes. -/
structure IsPiece (text : Text) (list : List Lexeme) : Prop where
  plain : ∀ c ∈ text, c.toNat < 128 ∧ Literal.isQuote c = false ∧ c ≠ '/'
  ends : text.getLast?.any fun c => !(c.isAlphanum || c == '_')
  ascii : asciiLexemes [] text = list

instance (text : Text) (list : List Lexeme) : Decidable (IsPiece text list) :=
  decidable_of_iff ((∀ c ∈ text, c.toNat < 128 ∧ Literal.isQuote c = false ∧ c ≠ '/') ∧
      (text.getLast?.any fun c => !(c.isAlphanum || c == '_')) ∧ asciiLexemes [] text = list)
    ⟨fun h => ⟨h.1, h.2.1, h.2.2⟩, fun h => ⟨h.plain, h.ends, h.ascii⟩⟩

namespace IsPiece

variable {list : List Lexeme}

theorem lexemes_eq (h : IsPiece text list) : lexemes text = list := by
  have hstrip := strip_append (fun c hc => (h.plain c hc).2) []
  rw [List.append_nil, Comment.strip_nil, List.append_nil] at hstrip
  rw [lexemes, hstrip, ← h.ascii]
  exact lexemesFrom_eq_asciiLexemes (fun c hc => ⟨(h.plain c hc).1, (h.plain c hc).2.1⟩) []

theorem lexemes_append (h : IsPiece text list) (rest : Text) :
    lexemes (text ++ rest) = list ++ lexemes rest := by
  refine lexemes_plain (fun c hc => (h.plain c hc).2) ?_ h.lexemes_eq rest
  obtain ⟨c, hlast, hc⟩ := (Option.any_eq_true _ _).1 h.ends
  have hascii : c.toNat < 128 := (h.plain c (List.mem_of_getLast? hlast)).1
  rw [hlast, Option.any_some, Text.isWordChar_eq_isAlphanum hascii]
  exact hc

end IsPiece

example : declaredNames "type (\n\tA int\n\tC, D E\n)\nfunc (A) F() \x7bvar g H\x7d".toList =
    [['A'], ['C'], ['D']] := by
  rw [String.toList_ofList, declaredNames,
    IsPiece.lexemes_eq ⟨by decide +kernel, by decide +kernel, rfl⟩]
  decide +kernel

theorem endsWord_of_ascii (h : text.head?.any fun c =>
    decide (c.toNat < 128) && !(c.isAlphanum || c == '_') && c != '/') : EndsWord text := by
  obtain ⟨c, hhead, hc⟩ := (Option.any_eq_true _ _).1 h
  simp only [Bool.and_eq_true, decide_eq_true_eq] at hc
  obtain ⟨⟨hascii, hword⟩, hslash⟩ := hc
  rw [EndsWord, hhead, Option.any_some, Text.isWordChar_eq_isAlphanum hascii, hword, hslash]
  rfl

/-! ### Statements -/

variable {list tail : List Lexeme} {awaited after : List Char}

/-- The brackets among lexemes, with the other characters that are no words. -/
def brackets (list : List Lexeme) : Text := list.filterMap Lexeme.sign?

theorem brackets_append (list tail : List Lexeme) :
    brackets (list ++ tail) = brackets list ++ brackets tail := List.filterMap_append

theorem brackets_ofWord (word : Text) : brackets (ofWord word) = [] := by
  cases word <;> rfl

theorem await_of_not_bracket (h : Bracket.closer? c = none ∧ Bracket.isCloser c = false)
    (awaited : List Char) (text : Text) :
    Bracket.awaits awaited (c :: text) = Bracket.awaits awaited text := by
  rw [Bracket.awaits, Bracket.await_eq_some_self h.1 h.2]
  rfl

/-- Where a text has no literals and comments, its lexemes await what it does. -/
theorem awaits_lexemes (h : ∀ c ∈ text, Literal.isQuote c = false ∧ c ≠ '/')
    (awaited : List Char) :
    Bracket.awaits awaited (brackets (lexemes text)) = Bracket.awaits awaited text := by
  have hstrip := strip_append h []
  rw [List.append_nil, Comment.strip_nil, List.append_nil] at hstrip
  rw [lexemes, hstrip]
  generalize ([] : Text) = word
  clear hstrip
  induction text generalizing awaited word with
  | nil => exact congrArg (Bracket.awaits awaited) (brackets_ofWord word)
  | cons c text ih =>
      obtain ⟨⟨hq, -⟩, ht⟩ := List.forall_mem_cons.1 h
      rw [lexemesFrom]
      split
      case isTrue hw =>
        have hplain : IsPlain [c] := isPlain_of_isWordChar (List.forall_mem_singleton.2 hw)
        rw [ih ht, await_of_not_bracket (hplain.not_bracket c List.mem_cons_self)]
      case isFalse =>
        rw [brackets_append, brackets_ofWord, List.nil_append, if_neg (by simp [hq])]
        split
        case isTrue hc =>
          subst hc
          exact (ih ht awaited []).trans (await_of_not_bracket ⟨rfl, rfl⟩ awaited text).symm
        case isFalse =>
          split
          case isTrue hb =>
            have hplain : IsPlain [c] := isPlain_of_isGap (List.forall_mem_singleton.2 hb)
            rw [ih ht, await_of_not_bracket (hplain.not_bracket c List.mem_cons_self)]
          case isFalse =>
            exact congrArg ((Bracket.await awaited c).bind ·) (funext fun mid => ih ht mid [])

theorem nests_lexemes (h : ∀ c ∈ text, Literal.isQuote c = false ∧ c ≠ '/') :
    Bracket.nests (brackets (lexemes text)) = Bracket.nests text := by
  rw [Bracket.nests, Bracket.nests, awaits_lexemes h]

/-- No statement ends inside of brackets. -/
theorem statementsFrom_append (h : Bracket.awaits awaited (brackets list) = some after)
    (closer : Char) (around : List Char) (ended : Bool) (tail : List Lexeme) :
    ∃ last, statementsFrom (awaited ++ closer :: around) ended (list ++ tail) =
      (statementsFrom (after ++ closer :: around) last tail).modifyHead (list ++ ·) := by
  induction list generalizing awaited ended with
  | nil =>
      cases h
      exact ⟨ended, (congrFun List.modifyHead_id _).symm⟩
  | cons lexeme list ih =>
      obtain ⟨mid, hmid, hlist⟩ : ∃ mid, lexeme.await (awaited ++ closer :: around) =
          mid ++ closer :: around ∧ Bracket.awaits mid (brackets list) = some after := by
        cases lexeme with
        | sign c =>
            obtain ⟨mid, hmid, hlist⟩ := Option.bind_eq_some_iff.1 h
            refine ⟨mid, ?_, hlist⟩
            rw [Lexeme.await, Bracket.await_append hmid]
            rfl
        | _ => exact ⟨awaited, rfl, h⟩
      obtain ⟨last, hlast⟩ := ih hlist lexeme.isEnd
      refine ⟨last, ?_⟩
      have hopen : (awaited ++ closer :: around).isEmpty = false := by simp
      rw [List.cons_append, statementsFrom, hopen, Bool.false_and, if_neg (by simp), hmid, hlast,
        List.modifyHead_modifyHead]
      rfl

/-- Lexemes that nothing ends a statement between, and whose brackets nest. -/
inductive Unbroken : List Lexeme → Prop
  | nil : Unbroken []
  | lexeme {lexeme : Lexeme} {tail : List Lexeme} (not_isBreak : lexeme.isBreak = false)
      (not_bracket : lexeme.await [] = []) (rest : Unbroken tail) : Unbroken (lexeme :: tail)
  | bracket {opening closing : Char} {list tail : List Lexeme}
      (pair : Bracket.closer? opening = some closing) (nests : Bracket.nests (brackets list))
      (rest : Unbroken tail) : Unbroken (.sign opening :: (list ++ .sign closing :: tail))

theorem Unbroken.append (hl : Unbroken list) (ht : Unbroken tail) : Unbroken (list ++ tail) := by
  induction hl with
  | nil => exact ht
  | lexeme hbreak hplain _ ih => exact .lexeme hbreak hplain ih
  | bracket hpair hnests _ ih =>
      rw [List.cons_append, List.append_assoc]
      exact .bracket hpair hnests ih

theorem statements_newline (list : List Lexeme) :
    statements (.newline :: list) = statements list := rfl

theorem Unbroken.statementsFrom_newline (h : Unbroken list) {ended : Bool}
    (hl : list.getLast?.elim ended Lexeme.isEnd = true) (tail : List Lexeme) :
    statementsFrom [] ended (list ++ .newline :: tail) = list :: statements tail := by
  induction h generalizing ended with
  | nil =>
      obtain rfl : ended = true := hl
      rfl
  | @lexeme lexeme list hbreak hplain _ ih =>
      rw [List.getLast?_cons] at hl
      have hlast : list.getLast?.elim lexeme.isEnd Lexeme.isEnd = true := by
        cases hg : list.getLast? <;> simpa [hg] using hl
      have hrest := ih hlast
      rw [List.cons_append, statementsFrom, hbreak, Bool.and_false, if_neg (by simp), hplain, hrest]
      rfl
  | @bracket opening closing inner list hpair hnests _ ih =>
      have hcloser := Bracket.isCloser_of_closer? hpair
      have hend : (Lexeme.sign closing).isEnd = true := hcloser
      have hlast : list.getLast?.elim true Lexeme.isEnd = true := by
        cases hg : list.getLast? with
        | none => rfl
        | some last =>
            have hsame : (Lexeme.sign opening :: (inner ++ .sign closing :: list)).getLast? =
                some last := by
              rw [← List.cons_append, List.getLast?_append_of_ne_nil _ (by simp),
                List.getLast?_cons, hg]
              rfl
            rwa [hsame] at hl
      have hrest := ih hlast
      have hopen : (Lexeme.sign opening).await [] = [closing] := by
        rw [Lexeme.await, Bracket.await, hpair]
        rfl
      have hclose : (Lexeme.sign closing).await [closing] = [] := by
        simp [Lexeme.await, Bracket.await, hcloser, Bracket.closer?_eq_none_of_isCloser hcloser]
      have hbreak : (Lexeme.sign opening).isBreak = false := by
        rcases Bracket.closer?_eq_some_iff.1 hpair with ⟨rfl, -⟩ | ⟨rfl, -⟩ | ⟨rfl, -⟩ <;> rfl
      obtain ⟨last, hinner⟩ := statementsFrom_append (Bracket.nests_iff.1 hnests) closing []
        (Lexeme.sign opening).isEnd (.sign closing :: (list ++ .newline :: tail))
      rw [List.nil_append] at hinner
      rw [List.cons_append, List.append_assoc, List.cons_append, statementsFrom, hbreak,
        Bool.and_false, if_neg (by simp), hopen, hinner, statementsFrom, if_neg (by simp), hclose,
        hend, hrest]
      simp

theorem Unbroken.statements_newline (h : Unbroken list) (hl : list.getLast?.any Lexeme.isEnd)
    (tail : List Lexeme) : statements (list ++ .newline :: tail) = list :: statements tail := by
  apply h.statementsFrom_newline
  cases hg : list.getLast? with
  | none => simp [hg] at hl
  | some last => simpa [hg] using hl

/-! ### Texts as parts of statements -/

/-- Whether a text can stand within a statement and does nothing to the text around it.  Literals
and comments that start in it end in it, and its brackets nest. -/
structure IsWhole (text : Text) : Prop where
  reads : ∃ tokens, Reads text tokens []
  nests : Bracket.nests (brackets (lexemes text))

/-- A string literal on one line. -/
def IsString (text : Text) : Prop :=
  ∃ inner, text = '"' :: inner ++ ['"'] ∧ Literal.Inside '"' inner ∧ '\n' ∉ inner

theorem IsWhole.of_cons (h : IsWhole (c :: text)) (hc : c = '*' ∨ c = ' ') : IsWhole text := by
  obtain ⟨⟨tokens, htokens⟩, hnests⟩ := h
  obtain ⟨list, hpiece, hlist⟩ : ∃ list, IsPiece [c] list ∧
      Bracket.awaits [] (brackets list) = some [] := by
    rcases hc with rfl | rfl
    · exact ⟨[.sign '*'], by decide, rfl⟩
    · exact ⟨[], by decide, rfl⟩
  obtain ⟨-, hquote, hslash⟩ := hpiece.plain c List.mem_cons_self
  constructor
  · generalize ht : c :: text = whole at htokens
    cases htokens with
    | done => cases ht
    | @next token tokens behind _ hv ha hrest =>
        obtain rfl := Token.eq_char hv hquote (fun he => by cases he; exact absurd rfl hslash) ht
        obtain ⟨-, rfl⟩ := List.cons.inj ht
        exact ⟨tokens, hrest⟩
  · have hsplit : lexemes (c :: text) = list ++ lexemes text := hpiece.lexemes_append text
    rw [hsplit, brackets_append, Bracket.nests_iff, Bracket.awaits_append, hlist] at hnests
    exact Bracket.nests_iff.2 hnests

end GoStubs.Go
