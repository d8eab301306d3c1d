import GoStubs.Interface.Read
import GoStubs.Proofs.Go.Insertion
import GoStubs.Proofs.Go.Token
import GoStubs.Proofs.Interface.Header

/-!
# Comments behind the header of an interface

A new comment in the block of an interface, or anywhere behind it, changes
neither the methods that are found nor the error.  It has to stand where a
reader is outside of literals and comments, and next to a blank or in front of
a newline.  Where it breaks a line, a line has to be broken there already, or a
bracket has to be open.
-/

namespace GoStubs.Interface

open Go (Reads Token)
open Go.Bracket (Near declarations closing? closingFrom? depthBehind)
open Go.Comment (strip gap)
open Text (isBlank)

variable {front before after comment text : Text} {g : Char}

/-- The methods of a block that starts a text without comments. -/
def blockMethods (text : Text) : Except InterfaceError (List Method) :=
  match closing? '{' '}' text with
  | none => .error .unterminated
  | some (body, _) => (declarations body).mapM Method.ofDeclaration

theorem findMethods_eq_blockMethods {content rest : Text}
    (h : firstLine? clientHeader? true content = some rest) :
    findMethods content = blockMethods (strip rest) := by
  rw [findMethods, h]
  rfl

/-- A blank in a block is not seen, if the declarations of the block stay the same. -/
theorem blockMethods_insert {rest : Text} (hp : Go.Bracket.Passed '{' '}' 0 text)
    (hg : isBlank g)
    (h : ∀ inner, (∀ c, isBlank c → rest.head? = some c → inner.head? = some c) →
      declarations (text ++ g :: inner) = declarations (text ++ inner)) :
    blockMethods (text ++ g :: rest) = blockMethods (text ++ rest) := by
  have hblank (c : Char) (hc : isBlank c) (depth : Nat) (rest : Text) :
      closingFrom? '{' '}' depth none (c :: rest) =
        closingFrom?.keep c (closingFrom? '{' '}' depth none rest) :=
    Go.Bracket.closingFrom?_blank (by decide) (by decide) (by simp) hc depth rest
  rcases hp with ⟨deeper, hp⟩ | ⟨inner, last, hp⟩
  · rw [blockMethods, blockMethods, closing?, closing?, hp, hp, hblank g hg, Go.Bracket.keep_eq]
    cases hr : closingFrom? '{' '}' deeper none rest with
    | none => rfl
    | some found =>
        obtain ⟨inner, last⟩ := found
        have hsame := h inner fun c hc hhead => by
          obtain ⟨tail, rfl⟩ := List.head?_eq_some_iff.1 hhead
          rw [hblank c hc, Go.Bracket.keep_eq] at hr
          obtain ⟨other, -, ho⟩ := Option.map_eq_some_iff.1 hr
          simp only [Prod.mk.injEq] at ho
          rw [← ho.1]
          rfl
        simp only [Option.map_some, List.singleton_append, hsame]
  · rw [blockMethods, blockMethods, closing?, closing?, hp, hp]

/-- Places behind a header that a reader of the text meets outside of literals and comments, and not
directly behind a slash. -/
structure IsOutside (before after : Text) : Prop where
  reads : ∃ tokens, Reads (before ++ after) tokens after
  not_slash : before.getLast? ≠ some '/'

/-- Comments that are not seen between two parts of a text. -/
inductive Unseen (before after : Text) : Text → Prop
  | line {text : Text} (oneLine : '\n' ∉ text) (newline : after.head? = some '\n') :
      Unseen before after ("//".toList ++ text)
  | space {text : Text} (ends : ¬ "*/".toList <:+: text) (oneLine : '\n' ∉ text)
      (near : Near (isBlank ·) before after) :
      Unseen before after ("/*".toList ++ text ++ "*/".toList)
  | newline {text : Text} (ends : ¬ "*/".toList <:+: text) (near : Near (· = '\n') before after) :
      Unseen before after ("/*".toList ++ text ++ "*/".toList)
  /-- The depth is the one that splitting into declarations counts. -/
  | nested {text : Text} (ends : ¬ "*/".toList <:+: text) (near : Near (isBlank ·) before after)
      (depth : 0 < depthBehind (strip before)) :
      Unseen before after ("/*".toList ++ text ++ "*/".toList)

/-- A comment that is not seen leaves nothing, or it leaves a blank that does not show in a
block. -/
theorem Unseen.strip_cases (h : Unseen before after comment) :
    strip (comment ++ after) = strip after ∨
      ∃ g, isBlank g ∧ strip (comment ++ after) = g :: strip after ∧
        (Near (isBlank ·) before after ∧
            Go.Bracket.ends (depthBehind (strip before)) g = false ∨
          Near (· = '\n') before after ∧ g = '\n') := by
  have hblock {text : Text} (ht : (Token.block text).Valid) :
      strip ("/*".toList ++ text ++ "*/".toList ++ after) =
        gap (text.contains '\n') :: strip after := Token.strip_append ht (by simp [Token.Apart])
  have hgap (newline : Bool) : isBlank (gap newline) := by cases newline <;> decide
  cases h with
  | @line text ht hafter =>
      obtain ⟨rest, rfl⟩ := List.head?_eq_some_iff.1 hafter
      have hvalid : (Token.line text).Valid := ht
      have hapart : (Token.line text).Apart rest := by simp [Token.Apart]
      have hline := Token.strip_append hvalid hapart
      have hnewline : strip ('\n' :: rest) = '\n' :: strip rest := rfl
      left
      simpa [Token.source, Token.left, hnewline] using hline
  | @space text ht hline near =>
      right
      refine ⟨_, hgap _, hblock ht, .inl ⟨near, ?_⟩⟩
      simp [hline, gap, Go.Bracket.ends]
  | @newline text ht near =>
      right
      cases hn : text.contains '\n' with
      | true => exact ⟨'\n', by decide, by rw [hblock ht, hn]; rfl, .inr ⟨near, rfl⟩⟩
      | false =>
          have hnear : Near (isBlank ·) before after := near.mono fun c hc => hc ▸ by decide
          exact ⟨' ', by decide, by rw [hblock ht, hn]; rfl,
            .inl ⟨hnear, by simp [Go.Bracket.ends]⟩⟩
  | @nested text ht near hdepth =>
      right
      refine ⟨_, hgap _, hblock ht, .inl ⟨near, ?_⟩⟩
      have hle : ¬ depthBehind (strip before) ≤ 0 := by omega
      simp [Go.Bracket.ends, hle]

/-- Behind the first header of a file, a comment that is not seen changes neither the methods that
are found nor the error. -/
theorem findMethods_insert_comment
    (hheader : firstLine? clientHeader? true (front ++ (before ++ after)) = some (before ++ after))
    (hplace : IsOutside before after) (hcomment : Unseen before after comment) :
    findMethods (front ++ (before ++ (comment ++ after))) =
      findMethods (front ++ (before ++ after)) := by
  obtain ⟨tokens, hreads⟩ := hplace.reads
  have hall := hreads.congr hplace.not_slash
  have hbefore : strip before = tokens.flatMap Token.left := by
    have hstrip := (hall []).strip_eq
    simpa using hstrip
  have hsource : before = tokens.flatMap Token.source :=
    List.append_cancel_right hreads.eq_append
  rw [findMethods_eq_blockMethods hheader,
    findMethods_eq_blockMethods (firstLine?_header_append hheader (before ++ (comment ++ after))),
    hreads.strip_eq, (hall (comment ++ after)).strip_eq, ← hbefore]
  rcases hcomment.strip_cases with hsame | ⟨g, hg, hleft, hnear⟩
  · rw [hsame]
  rw [hleft]
  have hpassed : Go.Bracket.Passed '{' '}' 0 (strip before) := by
    rw [hbefore]
    exact Go.Bracket.passed_flatMap_left hreads.valid (by decide) 0
  refine blockMethods_insert hpassed hg fun inner hinner => ?_
  -- The blanks around the place are still there when comments are removed.
  have hkept {p : Char → Prop} (hp : ∀ c, p c → isBlank c) (h : Near p before after) :
      Near p (strip before) inner := by
    rcases h with ⟨c, hc, hpc⟩ | ⟨c, hc, hpc⟩
    · rw [hsource] at hc
      refine .inl ⟨c, ?_, hpc⟩
      rw [hbefore]
      exact Token.getLast?_flatMap_left hreads.valid (hp c hpc) hc
    · obtain ⟨rest, rfl⟩ := List.head?_eq_some_iff.1 hc
      refine .inr ⟨c, hinner c (hp c hpc) ?_, hpc⟩
      have hslash : c ≠ '/' := Text.ne_of_isBlank (hp c hpc) (by decide)
      have hquote : Go.Literal.isQuote c = false := by
        cases hq : Go.Literal.isQuote c with
        | false => rfl
        | true => exact absurd (hp c hpc) (by simp [Go.not_isBlank_of_isQuote hq])
      rw [Go.Comment.strip_cons hquote fun he => absurd he hslash]
      rfl
  refine Go.Bracket.declarations_insert hg ?_
  rcases hnear with ⟨hn, he⟩ | ⟨hn, rfl⟩
  · exact .inl ⟨hkept (fun _ h => h) hn, he⟩
  · exact .inr ⟨hkept (fun c hc => hc ▸ by decide) hn, rfl⟩

def sampleFront : Text := "package p\ntype Client interface \x7b".toList

def sampleLine : Token := .line " \x7b \"".toList

def sampleBefore : Text := "\nF(r *R) (*S, error) ".toList ++ sampleLine.source

def sampleAfter : Text := "G(r *R) (*S, error)\n\x7d".toList

/-- A closing brace and another header in a comment on two lines, between two methods. -/
theorem findMethods_insert_comment_sample :
    (findMethods (sampleFront ++ (sampleBefore ++ sampleAfter))).map List.length = .ok 2 ∧
      findMethods (sampleFront ++ (sampleBefore ++
        ("/*".toList ++ "\x7d\ntype Client interface \x7b".toList ++ "*/".toList ++
          sampleAfter))) =
        findMethods (sampleFront ++ (sampleBefore ++ sampleAfter)) := by
  have hline : Reads (sampleLine.source ++ sampleAfter) [sampleLine] sampleAfter :=
    .next (show '\n' ∉ " \x7b \"".toList by decide) (by simp [Token.Apart, sampleLine])
      (.done sampleAfter)
  have hplain := Reads.of_plain "\nF(r *R) (*S, error) ".toList
    (sampleLine.source ++ sampleAfter) (by decide)
  have hreads := hplain.append hline
  rw [← List.append_assoc] at hreads
  have hplace : IsOutside sampleBefore sampleAfter := ⟨⟨_, hreads⟩, by decide⟩
  have hclosed : ¬ "*/".toList <:+: "\x7d\ntype Client interface \x7b".toList := by
    decide +kernel
  have hnear : Near (· = '\n') sampleBefore sampleAfter := .inl ⟨'\n', by decide, rfl⟩
  exact ⟨by decide +kernel,
    findMethods_insert_comment (by decide +kernel) hplace (.newline hclosed hnear)⟩

end GoStubs.Interface
