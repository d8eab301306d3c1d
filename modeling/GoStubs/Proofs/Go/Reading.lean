import GoStubs.Proofs.Go.Outside

/-!
# The reading of a text

Every text is read in one way as literals, comments and other single characters,
of which only the last may be unfinished.  Removing comments keeps what is not
read as a comment, and what it leaves of a comment never opens a new one.
-/

namespace GoStubs.Go

variable {text rest first last inner other : Text} {c quote : Char}

/-! ### Where comments end -/

namespace Comment

theorem exists_block_or_not_infix (text : Text) :
    (∃ inner rest, ¬ ['*', '/'] <:+: inner ∧ text = inner ++ '*' :: '/' :: rest) ∨
      ¬ ['*', '/'] <:+: text := by
  induction text with
  | nil => exact .inr (by simp)
  | cons c text ih =>
      by_cases hp : ['*', '/'] <+: c :: text
      · obtain ⟨rest, hrest⟩ := hp
        exact .inl ⟨[], rest, by simp, hrest.symm⟩
      rcases ih with ⟨inner, rest, hi, rfl⟩ | hn
      · refine .inl ⟨c :: inner, rest, fun hin => ?_, rfl⟩
        rcases List.infix_cons_iff.1 hin with hstart | hin
        · exact hp (hstart.trans (List.prefix_append (c :: inner) _))
        · exact hi hin
      · exact .inr fun hin => (List.infix_cons_iff.1 hin).elim hp hn

theorem eq_of_append_newline (hi : '\n' ∉ inner) (ho : '\n' ∉ other)
    (h : inner ++ '\n' :: first = other ++ '\n' :: last) : inner = other := by
  have hlonger {front more rest last : Text} (hn : '\n' ∉ front ++ more)
      (hm : '\n' :: rest = more ++ '\n' :: last) : more = [] := by
    cases more with
    | nil => rfl
    | cons c more =>
        obtain ⟨rfl, -⟩ := List.cons.inj hm
        exact absurd (by simp) hn
  rcases List.append_eq_append_iff.1 h with ⟨more, rfl, hm⟩ | ⟨more, rfl, hm⟩
  · rw [hlonger ho hm, List.append_nil]
  · rw [hlonger hi hm, List.append_nil]

/-- A block comment ends at one place only. -/
theorem eq_of_append_block (hi : ¬ ['*', '/'] <:+: inner) (ho : ¬ ['*', '/'] <:+: other)
    (h : inner ++ '*' :: '/' :: first = other ++ '*' :: '/' :: last) : inner = other := by
  have hlonger {front more rest last : Text} (hn : ¬ ['*', '/'] <:+: front ++ more)
      (hm : '*' :: '/' :: rest = more ++ '*' :: '/' :: last) : more = [] := by
    match more, hm with
    | [], _ => rfl
    | [c], hm => simp at hm
    | c :: d :: more, hm =>
        rw [List.cons_append, List.cons_append, List.cons.injEq, List.cons.injEq] at hm
        obtain ⟨rfl, rfl, -⟩ := hm
        exact absurd ⟨front, more, by simp⟩ hn
  rcases List.append_eq_append_iff.1 h with ⟨more, rfl, hm⟩ | ⟨more, rfl, hm⟩
  · rw [hlonger ho hm, List.append_nil]
  · rw [hlonger hi hm, List.append_nil]

end Comment

/-! ### The first token -/

namespace Token

variable {token : Token}

theorem literal_append (quote : Char) (inner rest : Text) :
    (literal quote inner).source ++ rest = quote :: (inner ++ quote :: rest) := by simp [source]

theorem line_append (text rest : Text) :
    (line text).source ++ rest = '/' :: '/' :: (text ++ '\n' :: rest) := by simp [source]

theorem block_append (text rest : Text) :
    (block text).source ++ rest = '/' :: '*' :: (text ++ '*' :: '/' :: rest) := by simp [source]

theorem eq_char (hv : token.Valid) (hc : Literal.isQuote c = false)
    (ha : (Token.char c).Apart rest) (h : c :: rest = token.source ++ last) :
    token = .char c := by
  cases token with
  | char d => rw [(List.cons.inj h).1]
  | literal quote inner =>
      obtain ⟨rfl, -⟩ := List.cons.inj h
      simp [hv.1] at hc
  | line text =>
      obtain ⟨rfl, rfl⟩ := List.cons.inj h
      exact absurd rfl (ha rfl).1
  | block text =>
      obtain ⟨rfl, rfl⟩ := List.cons.inj h
      exact absurd rfl (ha rfl).2

theorem exists_literal (hv : token.Valid) (hq : Literal.isQuote quote)
    (h : quote :: rest = token.source ++ last) :
    ∃ inner, token = .literal quote inner ∧ Literal.Inside quote inner ∧
      rest = inner ++ quote :: last := by
  have hslash := Literal.ne_slash_of_isQuote hq
  cases token with
  | char c =>
      obtain ⟨rfl, -⟩ := List.cons.inj h
      cases hq.symm.trans hv
  | literal mark inner =>
      rw [literal_append] at h
      obtain ⟨rfl, hrest⟩ := List.cons.inj h
      exact ⟨inner, rfl, hv.2, hrest⟩
  | line text => exact absurd (List.cons.inj h).1 hslash
  | block text => exact absurd (List.cons.inj h).1 hslash

theorem exists_line (hv : token.Valid) (ha : token.Apart last)
    (h : '/' :: '/' :: rest = token.source ++ last) :
    ∃ text, token = .line text ∧ '\n' ∉ text ∧ rest = text ++ '\n' :: last := by
  cases token with
  | char c =>
      obtain ⟨rfl, rfl⟩ := List.cons.inj h
      exact absurd rfl (ha rfl).1
  | literal quote inner =>
      obtain ⟨rfl, -⟩ := List.cons.inj h
      cases hv.1
  | line text =>
      rw [line_append, List.cons.injEq, List.cons.injEq] at h
      exact ⟨text, rfl, hv, h.2.2⟩
  | block text => simp [block_append] at h

theorem exists_block (hv : token.Valid) (ha : token.Apart last)
    (h : '/' :: '*' :: rest = token.source ++ last) :
    ∃ text, token = .block text ∧ ¬ ['*', '/'] <:+: text ∧ rest = text ++ '*' :: '/' :: last := by
  cases token with
  | char c =>
      obtain ⟨rfl, rfl⟩ := List.cons.inj h
      exact absurd rfl (ha rfl).2
  | literal quote inner =>
      obtain ⟨rfl, -⟩ := List.cons.inj h
      cases hv.1
  | line text => simp [line_append] at h
  | block text =>
      rw [block_append, List.cons.injEq, List.cons.injEq] at h
      exact ⟨text, rfl, hv, h.2.2⟩

/-- A text starts with one token only. -/
theorem eq_of_append {other : Token} (ht : token.Valid) (ho : other.Valid)
    (ha : token.Apart rest) (hb : other.Apart last)
    (h : token.source ++ rest = other.source ++ last) : token = other := by
  cases token with
  | char c => exact (eq_char ho ht ha h).symm
  | literal quote inner =>
      rw [literal_append] at h
      obtain ⟨found, rfl, hf, hrest⟩ := exists_literal ho ht.1 h
      rw [(ht.2.eq_of_append ht.1 hf hrest).1]
  | line text =>
      rw [line_append] at h
      obtain ⟨found, rfl, hf, hrest⟩ := exists_line ho hb h
      rw [Comment.eq_of_append_newline ht hf hrest]
  | block text =>
      rw [block_append] at h
      obtain ⟨found, rfl, hf, hrest⟩ := exists_block ho hb h
      rw [Comment.eq_of_append_block ht hf hrest]

end Token

/-! ### Endings -/

/-- How a text ends behind its last whole token. -/
inductive Ending
  | done
  | literal (quote : Char) (inner : Text)
  | line (text : Text)
  | block (text : Text)
  deriving DecidableEq, Repr

namespace Ending

variable {ending : Ending} {token : Token}

def source : Ending → Text
  | done => []
  | literal quote inner => quote :: inner
  | line text => '/' :: '/' :: text
  | block text => '/' :: '*' :: text

/-- No closing quote, newline or closing mark follows. -/
def Valid : Ending → Prop
  | done => True
  | literal quote inner => Literal.isQuote quote ∧ Literal.Unfinished quote inner
  | line text => '\n' ∉ text
  | block text => ¬ ['*', '/'] <:+: text

/-- What is left of an ending when comments are removed. -/
def left : Ending → Text
  | done => []
  | literal quote inner => quote :: inner
  | line _ => []
  | block text => [Comment.gap (text.contains '\n')]

theorem source_ne_append (he : ending.Valid) (ht : token.Valid) (ha : token.Apart rest) :
    ending.source ≠ token.source ++ rest := by
  intro h
  cases ending with
  | done => exact token.source_ne_nil (List.append_eq_nil_iff.1 h.symm).1
  | literal quote inner =>
      obtain ⟨found, -, hf, hinner⟩ := Token.exists_literal ht he.1 h
      exact he.2.ne_append he.1 hf rest hinner
  | line text =>
      obtain ⟨found, -, -, rfl⟩ := Token.exists_line ht ha h
      exact he (by simp)
  | block text =>
      obtain ⟨found, -, -, rfl⟩ := Token.exists_block ht ha h
      exact he ⟨found, rest, by simp⟩

theorem eq_of_source {other : Ending} (he : ending.Valid) (ho : other.Valid)
    (h : ending.source = other.source) : ending = other := by
  cases ending with
  | done => cases other <;> first | rfl | cases h
  | literal quote inner =>
      cases other with
      | literal _ _ => rw [(List.cons.inj h).1, (List.cons.inj h).2]
      | done => cases h
      | _ => exact absurd (List.cons.inj h).1 (Literal.ne_slash_of_isQuote he.1)
  | line text =>
      cases other with
      | literal _ _ => exact absurd (List.cons.inj h).1.symm (Literal.ne_slash_of_isQuote ho.1)
      | line _ => rw [(List.cons.inj (List.cons.inj h).2).2]
      | _ => simp [source] at h
  | block text =>
      cases other with
      | literal _ _ => exact absurd (List.cons.inj h).1.symm (Literal.ne_slash_of_isQuote ho.1)
      | block _ => rw [(List.cons.inj (List.cons.inj h).2).2]
      | _ => simp [source] at h

end Ending

/-! ### Readings -/

/-- The whole tokens of a text and what follows them. -/
structure Reading where
  tokens : List Token
  ending : Ending
  deriving DecidableEq, Repr

namespace Reading

variable {reading other : Reading} {token : Token}

/-- The text has these tokens, each with what follows it in view, and this ending. -/
def IsOf (reading : Reading) (text : Text) : Prop :=
  Reads text reading.tokens reading.ending.source ∧ reading.ending.Valid

/-- What is left of the parts of a text when comments are removed. -/
def left (reading : Reading) : Text := reading.tokens.flatMap Token.left ++ reading.ending.left

theorem IsOf.cons (hv : token.Valid) (ha : token.Apart rest) (h : reading.IsOf rest) :
    (⟨token :: reading.tokens, reading.ending⟩ : Reading).IsOf (token.source ++ rest) :=
  ⟨.next hv ha h.1, h.2⟩

theorem isOf_ending {ending : Ending} (h : ending.Valid) :
    (⟨[], ending⟩ : Reading).IsOf ending.source := ⟨.done _, h⟩

theorem slash_of_not_apart (h : ¬ (Token.char c).Apart text) :
    c = '/' ∧ ∃ tail, text = '/' :: tail ∨ text = '*' :: tail := by
  obtain ⟨hc, hhead⟩ := Classical.not_imp.1 h
  rw [not_and_or, not_not, not_not] at hhead
  refine ⟨Token.char.inj hc, ?_⟩
  rcases hhead with hhead | hhead
  · obtain ⟨tail, rfl⟩ := List.head?_eq_some_iff.1 hhead
    exact ⟨tail, .inl rfl⟩
  · obtain ⟨tail, rfl⟩ := List.head?_eq_some_iff.1 hhead
    exact ⟨tail, .inr rfl⟩

/-- A text is an ending, or it starts with a whole token. -/
theorem exists_ending_or_token (text : Text) :
    (∃ ending : Ending, ending.Valid ∧ text = ending.source) ∨
      ∃ token : Token, ∃ rest, token.Valid ∧ token.Apart rest ∧ text = token.source ++ rest := by
  cases text with
  | nil => exact .inl ⟨.done, trivial, rfl⟩
  | cons c text =>
      cases hq : Literal.isQuote c with
      | true =>
          rcases Literal.exists_inside_or_unfinished c text with ⟨inner, rest, hi, rfl⟩ | hu
          · exact .inr ⟨.literal c inner, rest, ⟨hq, hi⟩, nofun,
              (Token.literal_append c inner rest).symm⟩
          · exact .inl ⟨.literal c text, ⟨hq, hu⟩, rfl⟩
      | false =>
          by_cases ha : (Token.char c).Apart text
          · exact .inr ⟨.char c, text, hq, ha, rfl⟩
          obtain ⟨rfl, text, rfl | rfl⟩ := slash_of_not_apart ha
          · by_cases hn : '\n' ∈ text
            · obtain ⟨inner, rest, rfl, hi⟩ := List.eq_append_cons_of_mem hn
              exact .inr ⟨.line inner, rest, hi, nofun, (Token.line_append inner rest).symm⟩
            · exact .inl ⟨.line text, hn, rfl⟩
          · rcases Comment.exists_block_or_not_infix text with ⟨inner, rest, hi, rfl⟩ | hn
            · exact .inr ⟨.block inner, rest, hi, nofun, (Token.block_append inner rest).symm⟩
            · exact .inl ⟨.block text, hn, rfl⟩

theorem exists_isOf (text : Text) : ∃ reading : Reading, reading.IsOf text := by
  induction hn : text.length using Nat.strongRecOn generalizing text with
  | ind n ih =>
      rcases exists_ending_or_token text with ⟨ending, he, rfl⟩ | ⟨token, rest, hv, ha, rfl⟩
      · exact ⟨_, isOf_ending he⟩
      · have hpos : 0 < token.source.length := List.length_pos_of_ne_nil token.source_ne_nil
        rw [List.length_append] at hn
        obtain ⟨reading, hr⟩ := ih rest.length (by omega) rest rfl
        exact ⟨_, hr.cons hv ha⟩

theorem tokens_eq {ending last : Ending} {tokens others : List Token} (he : ending.Valid)
    (hl : last.Valid) (h : Reads text tokens ending.source) (ho : Reads text others last.source) :
    tokens = others ∧ ending.source = last.source := by
  generalize hend : ending.source = rest at h
  induction h generalizing others with
  | done rest =>
      generalize hlast : last.source = after at ho
      cases ho with
      | done => exact ⟨rfl, rfl⟩
      | next hv ha _ => exact absurd hend (Ending.source_ne_append he hv ha)
  | @next token tokens text rest hv ha tail ih =>
      generalize htext : token.source ++ text = whole at ho
      cases ho with
      | done => exact absurd htext.symm (Ending.source_ne_append hl hv ha)
      | @next found others behind _ hf hb more =>
          obtain rfl := Token.eq_of_append hv hf ha hb htext
          rw [List.append_cancel_left htext] at ih
          obtain ⟨rfl, hsource⟩ := ih more hend
          exact ⟨rfl, hsource⟩

/-- A text has one reading only. -/
theorem IsOf.eq (h : reading.IsOf text) (ho : other.IsOf text) : reading = other := by
  obtain ⟨tokens, ending⟩ := reading
  obtain ⟨others, last⟩ := other
  obtain ⟨htokens, hsource⟩ := tokens_eq h.2 ho.2 h.1 ho.1
  have hending := Ending.eq_of_source h.2 ho.2 hsource
  cases htokens
  cases hending
  rfl

end Reading

/-! ### Removing comments -/

namespace Comment

theorem stripFrom_stays {l : Literal} (h : l.Stays text) : stripFrom (.literal l) text = text := by
  induction h with
  | nil => rfl
  | cons hn _ ih => rw [stripFrom_literal_cons, hn, Place.ofLiteral, ih]

theorem stripFrom_line_end (h : '\n' ∉ text) : stripFrom .line text = [] := by
  induction text with
  | nil => rfl
  | cons c text ih =>
      obtain ⟨hc, ht⟩ := not_or.1 (mt List.mem_cons.2 h)
      rw [stripFrom, if_neg (Ne.symm hc), ih ht]

theorem stripFrom_block_end (h : ¬ ['*', '/'] <:+: text) :
    stripFrom (.block false false) text = [gap (text.contains '\n')] := by
  have hs : false = true → text.head? ≠ some '/' := nofun
  obtain ⟨behind, hb⟩ := stripFrom_block_append hs h []
  rw [List.append_nil] at hb
  rw [hb, stripFrom, Bool.false_or]

theorem head?_strip (h : text.head? ≠ some '/') : (strip text).head? = text.head? := by
  cases text with
  | nil => rfl
  | cons c text =>
      have hc : c ≠ '/' := by simpa using h
      rw [strip, stripFrom]
      · rfl
      all_goals simp [hc]

end Comment

theorem Ending.strip_source {ending : Ending} (h : ending.Valid) :
    Comment.strip ending.source = ending.left := by
  cases ending with
  | done => rfl
  | literal quote inner =>
      rw [source, left, Comment.strip_quote_cons h.1, Comment.stripFrom_stays h.2.stays]
  | line text => exact Comment.stripFrom_line_end h
  | block text => exact Comment.stripFrom_block_end h

theorem Ending.strip_left {ending : Ending} (h : ending.Valid) :
    Comment.strip ending.left = ending.left := by
  cases ending with
  | done => rfl
  | literal quote inner => exact Ending.strip_source h
  | line text => rfl
  | block text =>
      rw [left]
      cases text.contains '\n' <;> rfl

/-- What is read where a token was, when comments have been removed. -/
def Token.kept : Token → Token
  | line _ => char '\n'
  | block text => char (Comment.gap (text.contains '\n'))
  | token => token

theorem Token.source_kept (token : Token) : token.kept.source = token.left := by
  cases token <;> rfl

theorem Token.left_kept (token : Token) : token.kept.left = token.left := by
  cases token <;> rfl

theorem Token.Valid.kept {token : Token} (h : token.Valid) : token.kept.Valid := by
  cases token with
  | block text =>
      change Literal.isQuote (Comment.gap (text.contains '\n')) = false
      cases text.contains '\n' <;> rfl
  | line text => rfl
  | _ => exact h

/-- A slash stays apart from what follows it. -/
theorem Token.Apart.kept {token : Token} (h : token.Apart rest) :
    token.kept.Apart (Comment.strip rest) := by
  have hslash : token.kept = .char '/' → token = .char '/' := by
    cases token with
    | block text =>
        rw [Token.kept]
        cases text.contains '\n' <;> simp [Comment.gap]
    | line text => simp [Token.kept]
    | _ => exact id
  intro hk
  obtain ⟨hs, ht⟩ := h (hslash hk)
  rw [Comment.head?_strip hs]
  exact ⟨hs, ht⟩

namespace Reading

variable {reading : Reading}

theorem IsOf.strip_eq (h : reading.IsOf text) : Comment.strip text = reading.left := by
  rw [h.1.strip_eq, Ending.strip_source h.2, left]

/-- What is left when comments are removed has no comment. -/
theorem IsOf.strip_strip (h : reading.IsOf text) :
    Comment.strip (Comment.strip text) = Comment.strip text := by
  obtain ⟨tokens, ending⟩ := reading
  obtain ⟨hr, he⟩ := h
  dsimp only at hr he
  generalize hend : ending.source = rest at hr
  induction hr with
  | done rest => rw [← hend, Ending.strip_source he, Ending.strip_left he]
  | @next token tokens text rest hv ha _ ih =>
      rw [Token.strip_append hv ha]
      conv_lhs => rw [← Token.source_kept]
      rw [Token.strip_append hv.kept ha.kept, Token.left_kept, ih hend]

end Reading

/-- Every text has one reading, and removing comments leaves what the reading does: literals and
other characters as they are, a newline of a line comment, and a newline or a space of a block
comment.  Nothing in the result is read as a comment. -/
theorem strip_eq_left_of_reading (text : Text) :
    ∃ reading : Reading, reading.IsOf text ∧
      (∀ other : Reading, other.IsOf text → other = reading) ∧
      Comment.strip text = reading.left ∧
      Comment.strip (Comment.strip text) = Comment.strip text := by
  obtain ⟨reading, h⟩ := Reading.exists_isOf text
  exact ⟨reading, h, fun other ho => ho.eq h, h.strip_eq, h.strip_strip⟩

-- The opening star does not close a comment.
example : Comment.strip "a/*/ b */c".toList = "a c".toList := by decide

end GoStubs.Go
