import GoStubs.Go.Comment
import GoStubs.Proofs.Go.Respacing

/-!
# Tokens of Go source text

Source text is read from left to right as literals, comments and other single
characters.  Removing comments keeps the literals and the other characters and
leaves one blank of each comment.  Behind whole tokens a search for a closing
delimiter is over, or it goes on outside of literals.
-/

namespace GoStubs.Go

open Text (isBlank)

variable {text rest inner : Text} {c quote opening closing : Char} {depth : Nat}

/-! ### Literals -/

namespace Literal

/-- What may stand between the quotes of a literal.  A backslash and the character behind it stay
together, except in a raw literal. -/
inductive Inside (quote : Char) : Text → Prop
  | nil : Inside quote []
  | char {c : Char} {text : Text} (ne_quote : c ≠ quote) (plain : c = '\\' → quote = '`')
      (rest : Inside quote text) : Inside quote (c :: text)
  | escape {c : Char} {text : Text} (not_raw : quote ≠ '`') (rest : Inside quote text) :
      Inside quote ('\\' :: c :: text)

/-- A text that closes a literal with its last character. -/
inductive Closes : Literal → Text → Prop
  | last {l : Literal} {c : Char} (next : l.next c = none) : Closes l [c]
  | more {l after : Literal} {c : Char} {text : Text} (next : l.next c = some after)
      (rest : Closes after text) : Closes l (c :: text)

theorem ne_backslash_of_isQuote (hq : isQuote quote) : quote ≠ '\\' := by
  rintro rfl
  simp [isQuote] at hq

theorem ne_slash_of_isQuote (hq : isQuote quote) : quote ≠ '/' := by
  rintro rfl
  simp [isQuote] at hq

theorem next_plain (hne : c ≠ quote) (hplain : c = '\\' → quote = '`') :
    (⟨quote, false⟩ : Literal).next c = some ⟨quote, false⟩ := by
  by_cases hc : c = '\\'
  · simp [next, hc, hplain hc]
  · simp [next, hc, hne]

theorem next_backslash (hraw : quote ≠ '`') :
    (⟨quote, false⟩ : Literal).next '\\' = some ⟨quote, true⟩ := by
  simp [next, hraw]

theorem Inside.closes (hq : isQuote quote) (h : Inside quote text) :
    Closes ⟨quote, false⟩ (text ++ [quote]) := by
  induction h with
  | nil => exact .last (by simp [next, ne_backslash_of_isQuote hq])
  | char hne hplain _ ih => exact .more (next_plain hne hplain) ih
  | escape hraw _ ih => exact .more (next_backslash hraw) (.more (by simp [next]) ih)

end Literal

theorem Comment.stripFrom_closes {l : Literal} (h : l.Closes text) (rest : Text) :
    stripFrom (.literal l) (text ++ rest) = text ++ strip rest := by
  induction h with
  | last hn =>
      rw [List.singleton_append, stripFrom_literal_cons, hn]
      rfl
  | @more l after c text hn _ ih =>
      rw [List.cons_append, stripFrom_literal_cons, hn, List.cons_append, ← ih]
      rfl

theorem Bracket.closingFrom?_closes {l : Literal} (h : l.Closes text) (depth : Nat) (rest : Text) :
    closingFrom? opening closing depth (some l) (text ++ rest) =
      (closingFrom? opening closing depth none rest).map
        fun (inner, after) => (text ++ inner, after) := by
  induction h with
  | last hn => rw [List.singleton_append, closingFrom?, hn, keep_eq]
  | @more l after c text hn _ ih =>
      rw [List.cons_append, closingFrom?, hn, ih, keep_eq, Option.map_map]
      rfl

/-! ### Tokens -/

/-- A piece of source text that is read as a whole. -/
inductive Token
  | char (c : Char)
  | literal (quote : Char) (inner : Text)
  /-- A comment that ends with its line. -/
  | line (text : Text)
  | block (text : Text)
  deriving DecidableEq, Repr

namespace Token

def source : Token → Text
  | char c => [c]
  | literal quote inner => quote :: inner ++ [quote]
  | line text => '/' :: '/' :: text ++ ['\n']
  | block text => '/' :: '*' :: text ++ ['*', '/']

def Valid : Token → Prop
  | char c => Literal.isQuote c = false
  | literal quote inner => Literal.isQuote quote ∧ Literal.Inside quote inner
  | line text => '\n' ∉ text
  | block text => ¬ ['*', '/'] <:+: text

/-- A slash is a token of its own, unless it opens a comment with what follows. -/
def Apart (token : Token) (rest : Text) : Prop :=
  token = .char '/' → rest.head? ≠ some '/' ∧ rest.head? ≠ some '*'

/-- What is left of a token when comments are removed. -/
def left : Token → Text
  | char c => [c]
  | literal quote inner => quote :: inner ++ [quote]
  | line _ => ['\n']
  | block text => [Comment.gap (text.contains '\n')]

theorem source_ne_nil (token : Token) : token.source ≠ [] := by
  cases token <;> simp [source]

end Token

/-- A text is read as tokens up to a rest, which may hold back the reading of a last slash. -/
inductive Reads : Text → List Token → Text → Prop
  | done (rest : Text) : Reads rest [] rest
  | next {token : Token} {tokens : List Token} {text rest : Text} (valid : token.Valid)
      (apart : token.Apart text) (tail : Reads text tokens rest) :
      Reads (token.source ++ text) (token :: tokens) rest

namespace Reads

variable {tokens : List Token} {u v : Text}

theorem eq_append (h : Reads text tokens rest) : text = tokens.flatMap Token.source ++ rest := by
  induction h with
  | done rest => rfl
  | next _ _ _ ih => rw [List.flatMap_cons, List.append_assoc, ← ih]

theorem append {more : List Token} {middle : Text} (h : Reads text tokens middle)
    (hm : Reads middle more rest) : Reads text (tokens ++ more) rest := by
  induction h with
  | done rest => exact hm
  | next hv ha _ ih => exact .next hv ha (ih hm)

theorem of_plain (text rest : Text) (h : ∀ c ∈ text, Literal.isQuote c = false ∧ c ≠ '/') :
    Reads (text ++ rest) (text.map Token.char) rest := by
  induction text with
  | nil => exact .done rest
  | cons c text ih =>
      obtain ⟨⟨hq, hc⟩, ht⟩ := List.forall_mem_cons.1 h
      have hv : (Token.char c).Valid := hq
      refine .next hv (fun he => ?_) (ih ht)
      cases he
      exact absurd rfl hc

theorem valid (h : Reads text tokens rest) : ∀ token ∈ tokens, token.Valid := by
  induction h with
  | done rest => exact List.forall_mem_nil _
  | next hv _ _ ih => exact List.forall_mem_cons.2 ⟨hv, ih⟩

/-- What is read up to a place does not depend on the text behind it, unless a slash is there. -/
theorem congr (h : Reads (u ++ v) tokens v) (hu : u.getLast? ≠ some '/') (w : Text) :
    Reads (u ++ w) tokens w := by
  generalize ht : u ++ v = text at h
  induction h generalizing u with
  | done rest =>
      rw [List.append_left_eq_self] at ht
      rw [ht]
      exact .done w
  | @next token tokens text v hv ha tail ih =>
      obtain ⟨before, rfl⟩ : ∃ before, text = before ++ v := ⟨_, tail.eq_append⟩
      rw [← List.append_assoc] at ht
      have hu' := List.append_cancel_right ht
      subst hu'
      rw [List.append_assoc]
      by_cases hb : before = []
      · subst hb
        rw [List.append_nil] at hu
        refine .next hv (fun hs => ?_) (ih (by simp) rfl)
        simp [hs, Token.source] at hu
      · have hlast : before.getLast? ≠ some '/' := by
          rwa [List.getLast?_append_of_ne_nil _ hb] at hu
        refine .next hv (fun hs => ?_) (ih hlast rfl)
        have hhead := ha hs
        rwa [List.head?_append_of_ne_nil _ hb] at hhead ⊢

end Reads

/-! ### Removing comments -/

namespace Comment

theorem stripFrom_line (h : '\n' ∉ text) (rest : Text) :
    stripFrom .line (text ++ '\n' :: rest) = '\n' :: strip rest := by
  induction text with
  | nil => rfl
  | cons c text ih =>
      obtain ⟨hc, ht⟩ := not_or.1 (mt List.mem_cons.2 h)
      rw [List.cons_append, stripFrom, if_neg (Ne.symm hc), ih ht]

/-- A block comment goes on throughout a text without a star and slash. -/
theorem stripFrom_block_append {star newline : Bool} (hs : star → text.head? ≠ some '/')
    (h : ¬ ['*', '/'] <:+: text) (rest : Text) :
    ∃ behind, stripFrom (.block star newline) (text ++ rest) =
      stripFrom (.block behind (newline || text.contains '\n')) rest := by
  induction text generalizing star newline with
  | nil => exact ⟨star, by simp⟩
  | cons c text ih =>
      have hnext : (c == '*') → text.head? ≠ some '/' := by
        rintro hc hhead
        obtain ⟨tail, rfl⟩ := List.head?_eq_some_iff.1 hhead
        rw [beq_iff_eq.1 hc] at h
        exact h ⟨[], tail, rfl⟩
      have hc : ¬ (star ∧ c = '/') := fun ⟨hstar, he⟩ => hs hstar (by rw [he]; rfl)
      obtain ⟨behind, hb⟩ := ih hnext fun ht => h (ht.trans (List.suffix_cons c text).isInfix)
      refine ⟨behind, ?_⟩
      rw [List.cons_append, stripFrom, if_neg hc, hb, Bool.or_assoc, List.contains_cons,
        Bool.beq_comm]

/-- A block comment ends at the first star and slash that are both behind its opening star. -/
theorem stripFrom_block {star newline : Bool} (hs : star → text.head? ≠ some '/')
    (h : ¬ ['*', '/'] <:+: text) (rest : Text) :
    stripFrom (.block star newline) (text ++ '*' :: '/' :: rest) =
      gap (newline || text.contains '\n') :: strip rest := by
  obtain ⟨behind, hb⟩ := stripFrom_block_append hs h ('*' :: '/' :: rest)
  rw [hb]
  simp [stripFrom, strip]

theorem strip_cons (hq : Literal.isQuote c = false)
    (hc : c = '/' → text.head? ≠ some '/' ∧ text.head? ≠ some '*') :
    strip (c :: text) = c :: strip text := by
  rw [strip, stripFrom, Literal.start?_eq_none hq]
  · rfl
  · rintro tail rfl rfl
    exact (hc rfl).1 rfl
  · rintro tail rfl rfl
    exact (hc rfl).2 rfl

theorem strip_quote_cons (hq : Literal.isQuote quote) (text : Text) :
    strip (quote :: text) = quote :: stripFrom (.literal ⟨quote, false⟩) text := by
  rw [strip, stripFrom, Literal.start?, if_pos hq]
  · rfl
  all_goals simp [Literal.ne_slash_of_isQuote hq]

end Comment

theorem Token.strip_append {token : Token} (hv : token.Valid) (ha : token.Apart rest) :
    Comment.strip (token.source ++ rest) = token.left ++ Comment.strip rest := by
  cases token with
  | char c =>
      refine Comment.strip_cons hv fun hc => ha ?_
      rw [hc]
  | literal quote inner =>
      have hcloses := Comment.stripFrom_closes (hv.2.closes hv.1) rest
      rw [source, left, List.cons_append, List.cons_append, Comment.strip_quote_cons hv.1, hcloses]
      rfl
  | line text =>
      rw [source, List.append_assoc]
      exact Comment.stripFrom_line hv rest
  | block text =>
      rw [source, List.append_assoc]
      exact Comment.stripFrom_block (by simp) hv rest

theorem Reads.strip_eq {tokens : List Token} (h : Reads text tokens rest) :
    Comment.strip text = tokens.flatMap Token.left ++ Comment.strip rest := by
  induction h with
  | done rest => rfl
  | next hv ha _ ih => rw [Token.strip_append hv ha, ih, List.flatMap_cons, List.append_assoc]

theorem Token.getLast?_left {token : Token} (hv : token.Valid) (hc : isBlank c)
    (h : token.source.getLast? = some c) : token.left.getLast? = some c := by
  cases token with
  | char d => exact h
  | literal quote inner =>
      rw [source, List.getLast?_concat, Option.some.injEq] at h
      subst h
      simp [not_isBlank_of_isQuote hv.1] at hc
  | line text =>
      rw [source, List.getLast?_concat, Option.some.injEq] at h
      rw [left, List.getLast?_singleton, h]
  | block text =>
      have hslash : ('/' :: '*' :: text ++ ['*', '/']).getLast? = some '/' :=
        List.getLast?_append_of_ne_nil _ (by simp)
      rw [source, hslash, Option.some.injEq] at h
      subst h
      cases hc

theorem Token.getLast?_flatMap_left {tokens : List Token} (hv : ∀ token ∈ tokens, token.Valid)
    (hc : isBlank c) (h : (tokens.flatMap source).getLast? = some c) :
    (tokens.flatMap left).getLast? = some c := by
  rcases List.eq_nil_or_concat tokens with rfl | ⟨front, last, rfl⟩
  · cases h
  · simp only [List.concat_eq_append, List.flatMap_append, List.flatMap_singleton] at h ⊢
    rw [List.getLast?_append_of_ne_nil _ last.source_ne_nil] at h
    have hlast := getLast?_left (hv last (by simp)) hc h
    rw [List.getLast?_append, hlast]
    rfl

/-! ### Closing delimiters behind tokens -/

namespace Bracket

/-- A text whose end is outside of literals: there a search for a closing delimiter goes on at
some depth, unless it is over. -/
def Passed (opening closing : Char) (depth : Nat) (text : Text) : Prop :=
  (∃ deeper, ∀ rest, closingFrom? opening closing depth none (text ++ rest) =
    (closingFrom? opening closing deeper none rest).map
      fun (inner, after) => (text ++ inner, after)) ∨
  ∃ inner after, ∀ rest,
    closingFrom? opening closing depth none (text ++ rest) = some (inner, after ++ rest)

theorem passed_nil (opening closing : Char) (depth : Nat) : Passed opening closing depth [] :=
  .inl ⟨depth, fun rest => by simp⟩

theorem Passed.append {first last : Text} (hf : Passed opening closing depth first)
    (hl : ∀ deeper, Passed opening closing deeper last) :
    Passed opening closing depth (first ++ last) := by
  rcases hf with ⟨deeper, hf⟩ | ⟨inner, after, hf⟩
  · rcases hl deeper with ⟨deepest, hl⟩ | ⟨inner, after, hl⟩
    · refine .inl ⟨deepest, fun rest => ?_⟩
      rw [List.append_assoc, hf, hl, Option.map_map]
      simp [Function.comp_def]
    · refine .inr ⟨first ++ inner, after, fun rest => ?_⟩
      rw [List.append_assoc, hf, hl, Option.map_some]
  · refine .inr ⟨inner, after ++ last, fun rest => ?_⟩
    rw [List.append_assoc, hf, List.append_assoc]

/-- A character outside of literals ends the search, or it changes the number of delimiters that are
to be closed. -/
theorem closingFrom?_char (hne : closing ≠ opening) (hq : Literal.isQuote c = false)
    (depth : Nat) :
    (c = closing ∧ depth = 0) ∨
      ∃ deeper, deeper + [c].count closing = depth + [c].count opening ∧ ∀ text,
        closingFrom? opening closing depth none (c :: text) =
          closingFrom?.keep c (closingFrom? opening closing deeper none text) := by
  by_cases ho : c = opening
  · subst ho
    refine .inr ⟨depth + 1, ?_, closingFrom?_opening hq depth⟩
    rw [List.count_singleton_self, List.count_singleton, if_neg (by simpa using hne.symm)]
  by_cases hc : c = closing
  · subst hc
    cases depth with
    | zero => exact .inl ⟨rfl, rfl⟩
    | succ depth =>
        refine .inr ⟨depth, ?_, closingFrom?_closing hq ho depth⟩
        rw [List.count_singleton_self, List.count_singleton, if_neg (by simpa using ho)]
  · refine .inr ⟨depth, ?_, closingFrom?_other hq ho hc depth⟩
    rw [List.count_singleton, List.count_singleton, if_neg (by simpa using hc),
      if_neg (by simpa using ho)]

theorem closingFrom?_literal (hq : Literal.isQuote quote) (hi : Literal.Inside quote inner)
    (depth : Nat) (text : Text) :
    closingFrom? opening closing depth none (quote :: inner ++ quote :: text) =
      (closingFrom? opening closing depth none text).map
        fun (before, after) => (quote :: inner ++ quote :: before, after) := by
  have hsplit : inner ++ quote :: text = (inner ++ [quote]) ++ text := by simp
  rw [List.cons_append, closingFrom?_quote hq, Literal.start?, if_pos hq, hsplit,
    closingFrom?_closes (hi.closes hq), keep_eq, Option.map_map]
  simp [Function.comp_def]

theorem passed_char (hq : Literal.isQuote c = false) (hne : closing ≠ opening) (depth : Nat) :
    Passed opening closing depth [c] := by
  rcases closingFrom?_char hne hq depth with ⟨rfl, rfl⟩ | ⟨deeper, -, hstep⟩
  · exact .inr ⟨[], [], closingFrom?_zero hq hne⟩
  · exact .inl ⟨deeper, hstep⟩

theorem passed_left {token : Token} (hv : token.Valid) (hne : closing ≠ opening) (depth : Nat) :
    Passed opening closing depth token.left := by
  cases token with
  | char c => exact passed_char hv hne depth
  | literal quote inner =>
      refine .inl ⟨depth, fun rest => ?_⟩
      have happend (rest : Text) :
          (Token.literal quote inner).left ++ rest = quote :: inner ++ quote :: rest := by
        simp [Token.left]
      simp only [happend]
      exact closingFrom?_literal hv.1 hv.2 depth rest
  | line text => exact passed_char (by decide) hne depth
  | block text =>
      refine passed_char ?_ hne depth
      cases text.contains '\n' <;> decide

theorem passed_flatMap_left {tokens : List Token} (hv : ∀ token ∈ tokens, token.Valid)
    (hne : closing ≠ opening) (depth : Nat) :
    Passed opening closing depth (tokens.flatMap Token.left) := by
  induction tokens generalizing depth with
  | nil => exact passed_nil opening closing depth
  | cons token tokens ih =>
      obtain ⟨htoken, htokens⟩ := List.forall_mem_cons.1 hv
      exact (passed_left htoken hne depth).append (ih htokens)

end Bracket

end GoStubs.Go
