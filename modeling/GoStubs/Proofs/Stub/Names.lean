import GoStubs.Proofs.Go.Statements
import GoStubs.Proofs.Stub.Base
import GoStubs.Proofs.Stub.Wrappers

/-!
# The names that a stub declares

As a Go file, a stub has a package clause, an import declaration, the struct of
its service, the constructor and a method for each wrapper.  So it declares two
names, if its imports are literals and its response types can stand in a
statement.
-/

namespace GoStubs

open Text (isWordChar unlines)

namespace Go

variable {line rest text : Text} {first last lines : List Text} {names more : List Text}
  {list : List Lexeme}

/-- What lines are, with any text behind them. -/
def Yields (lines : List Text) (list : List Lexeme) : Prop :=
  ∀ rest, lexemes (unlines lines ++ rest) = list ++ lexemes rest

/-- What lines declare, with any text behind them. -/
def Declares (lines names : List Text) : Prop :=
  ∀ rest, (statements (lexemes (unlines lines ++ rest))).flatMap declared =
    names ++ (statements (lexemes rest)).flatMap declared

theorem unlines_singleton_append (line rest : Text) :
    unlines [line] ++ rest = line ++ '\n' :: rest := by
  simp [unlines]

theorem Yields.append {tail : List Lexeme} (hf : Yields first list) (hl : Yields last tail) :
    Yields (first ++ last) (list ++ tail) := by
  intro rest
  rw [Text.unlines_append, List.append_assoc, hf, hl, List.append_assoc]

theorem Yields.cons {tail : List Lexeme} (hf : Yields [line] list) (hl : Yields last tail) :
    Yields (line :: last) (list ++ tail) := hf.append hl

theorem yields_comment (h : '\n' ∉ text) : Yields ['/' :: '/' :: text] [.newline] := by
  intro rest
  rw [unlines_singleton_append]
  exact lexemes_comment h rest

/-- A line without literals and comments has the same lexemes wherever it stands. -/
theorem yields_plain (h : ∀ c ∈ line, Literal.isQuote c = false ∧ c ≠ '/')
    (hl : lexemes line = list) : Yields [line] (list ++ [.newline]) := by
  intro rest
  have hreads : Reads line (line.map Token.char) [] := by
    simpa using Reads.of_plain line [] h
  have hword : isWordChar '\n' = false := Text.isWordChar_of_isBlank (by decide)
  have hnot : '/' ∉ line := fun hm => (h '/' hm).2 rfl
  rw [unlines_singleton_append, lexemes_append_cons hreads hword (by decide)
    (fun hl => absurd (List.mem_of_getLast? hl) hnot), hl, lexemes_newline, List.append_assoc]
  rfl

/-- What lines are that can stand between brackets. -/
structure IsBody (lines : List Text) (list : List Lexeme) : Prop where
  yields : Yields lines list
  nests : Bracket.nests (brackets list)

theorem isBody_nil : IsBody [] [] := ⟨fun _ => rfl, rfl⟩

theorem isBody_empty : IsBody [[]] [.newline] := ⟨fun rest => lexemes_newline rest, rfl⟩

theorem IsBody.append {tail : List Lexeme} (hf : IsBody first list) (hl : IsBody last tail) :
    IsBody (first ++ last) (list ++ tail) where
  yields := hf.yields.append hl.yields
  nests := by
    rw [brackets_append]
    exact Bracket.nests_append hf.nests hl.nests

theorem IsBody.cons {tail : List Lexeme} (hf : IsBody [line] list) (hl : IsBody last tail) :
    IsBody (line :: last) (list ++ tail) := hf.append hl

theorem isBody_plain (h : ∀ c ∈ line, Literal.isQuote c = false ∧ c ≠ '/')
    (hn : Bracket.nests line) : IsBody [line] (lexemes line ++ [.newline]) where
  yields := yields_plain h rfl
  nests := by
    rw [brackets_append]
    exact Bracket.nests_append (by rwa [nests_lexemes h]) rfl

theorem isBody_lines (h : ∀ line ∈ lines, ∀ c ∈ line, Literal.isQuote c = false ∧ c ≠ '/')
    (hn : ∀ line ∈ lines, Bracket.nests line) :
    IsBody lines (lines.flatMap fun line => lexemes line ++ [.newline]) := by
  induction lines with
  | nil => exact isBody_nil
  | cons line lines ih =>
      obtain ⟨hline, hlines⟩ := List.forall_mem_cons.1 h
      obtain ⟨hnests, hmore⟩ := List.forall_mem_cons.1 hn
      exact (isBody_plain hline hnests).cons (ih hlines hmore)

theorem endsWord_newline (rest : Text) : EndsWord ('\n' :: rest) := by
  have hword : isWordChar '\n' = false := Text.isWordChar_of_isBlank (by decide)
  simp [EndsWord, hword]

/-- An import on a line of its own. -/
theorem isBody_import (h : IsString text) : IsBody ['\t' :: text] [.literal, .newline] := by
  obtain ⟨inner, rfl, hinside, -⟩ := h
  refine ⟨fun rest => ?_, rfl⟩
  have htab : IsPiece ['\t'] [] := by decide
  have hline : unlines ['\t' :: ('"' :: inner ++ ['"'])] ++ rest =
      ['\t'] ++ '"' :: (inner ++ '"' :: '\n' :: rest) := by
    simp [unlines]
  rw [hline, htab.lexemes_append, lexemes_literal rfl hinside, lexemes_newline]
  rfl

theorem Declares.append (hf : Declares first names) (hl : Declares last more) :
    Declares (first ++ last) (names ++ more) := by
  intro rest
  rw [Text.unlines_append, List.append_assoc, hf, hl, List.append_assoc]

theorem declares_of_newline (h : Yields lines [.newline]) : Declares lines [] := by
  intro rest
  rw [h]
  rfl

theorem Unbroken.declares (hu : Unbroken list) (hl : list.getLast?.any Lexeme.isEnd)
    (h : Yields lines (list ++ [.newline])) : Declares lines (declared list) := by
  intro rest
  rw [h, List.append_assoc, List.singleton_append, hu.statements_newline hl, List.flatMap_cons]

theorem closer?_round : Bracket.closer? '(' = some ')' := rfl

theorem closer?_curly : Bracket.closer? '\x7b' = some '\x7d' := rfl

theorem IsPiece.yields (h : IsPiece line list) : Yields [line] (list ++ [.newline]) :=
  yields_plain (fun c hc => (h.plain c hc).2) h.lexemes_eq

theorem yields_round : Yields [[')']] [.sign ')', .newline] :=
  IsPiece.yields (by decide : IsPiece [')'] [.sign ')'])

theorem yields_curly : Yields [['\x7d']] [.sign '\x7d', .newline] :=
  IsPiece.yields (by decide : IsPiece ['\x7d'] [.sign '\x7d'])

/-- A statement with a block of lines behind it. -/
theorem declares_block {front : List Lexeme} {opening closing : Char} (hf : Unbroken front)
    (hfirst : Yields [line] (front ++ [.sign opening, .newline])) (hbody : IsBody lines list)
    (hlast : Yields [[closing]] [.sign closing, .newline])
    (hpair : Bracket.closer? opening = some closing) :
    Declares (line :: (lines ++ [[closing]]))
      (declared (front ++ .sign opening :: (.newline :: list ++ [.sign closing]))) := by
  have hend : (Lexeme.sign closing).isEnd = true := Bracket.isCloser_of_closer? hpair
  have hnests : Bracket.nests (brackets (.newline :: list)) := hbody.nests
  refine (hf.append (.bracket hpair hnests .nil)).declares ?_ ?_
  · rw [List.getLast?_append_of_ne_nil _ (List.cons_ne_nil _ _), ← List.cons_append,
      List.getLast?_concat]
    exact hend
  · simpa using hfirst.cons (hbody.yields.append hlast)

theorem declares_flatMap {α : Type} {all : List α} {lines : α → List Text}
    (h : ∀ a ∈ all, Declares (lines a) []) : Declares (all.flatMap lines) [] := by
  induction all with
  | nil => exact fun rest => rfl
  | cons a all ih =>
      obtain ⟨ha, hall⟩ := List.forall_mem_cons.1 h
      exact ha.append (ih hall)

/-- A comment takes its line, and an empty line has nothing. -/
theorem declares_comment (h : '\n' ∉ text) : Declares ['/' :: '/' :: text] [] :=
  declares_of_newline (yields_comment h)

theorem declares_empty : Declares [[]] [] := declares_of_newline isBody_empty.yields

theorem Declares.declaredNames_eq (h : Declares lines names) :
    declaredNames (unlines lines) = names.filter isDeclarable := by
  have hnames := h []
  have hnil : (statements (lexemes [])).flatMap declared = [] := rfl
  rw [List.append_nil, hnil, List.append_nil] at hnames
  rw [declaredNames, hnames]

end Go

namespace Stub

open Go

variable {settings : Settings} {package service : Text} {imports : List Text} {method : Method}
  {methods : List Method}

/-- A word that stands in a stub. -/
def IsWord (word : Text) : Prop := word ≠ [] ∧ ∀ c ∈ word, isWordChar c

theorem IsWord.of_isWord {word : Text} (h : isWord word) : IsWord word := by
  refine ⟨?_, fun c hc => isWordChar_of_mem_isWord h hc⟩
  rintro rfl
  cases h

theorem IsWord.lexemes_append {word rest : Text} (h : IsWord word) (hr : EndsWord rest) :
    lexemes (word ++ rest) = .word word :: lexemes rest := lexemes_word h.2 h.1 hr

theorem IsWord.plain {word : Text} (h : IsWord word) :
    ∀ c ∈ word, Literal.isQuote c = false ∧ c ≠ '/' := fun c hc =>
  ⟨(isPlain_of_isWordChar h.2).not_isQuote c hc, (isPlain_of_isWordChar h.2).ne (by decide) c hc⟩

/-! ### The base -/

theorem yields_packageLine (hp : IsWord package) : Yields ["package ".toList ++ package]
    ([.word "package".toList, .word package] ++ [.newline]) := by
  intro rest
  have hkeyword : IsPiece "package ".toList [.word "package".toList] := by decide +kernel
  rw [unlines_singleton_append, List.append_assoc, hkeyword.lexemes_append,
    hp.lexemes_append (endsWord_newline rest), lexemes_newline]
  rfl

theorem isBody_importLines (h : ∀ text ∈ imports, IsString text) :
    IsBody (importLines imports) (imports.flatMap fun _ => [.literal, .newline]) := by
  induction imports with
  | nil => exact isBody_nil
  | cons text imports ih =>
      obtain ⟨htext, himports⟩ := List.forall_mem_cons.1 h
      exact (isBody_import htext).cons (ih himports)

/-- The import declaration. -/
def importBlock (settings : Settings) (imports : List Text) : List Text :=
  "import (".toList :: ((['\t' :: "\"net/url\"".toList, [],
    '\t' :: ('"' :: settings.clientImport ++ ['"'])] ++ importLines imports) ++ [[')']])

theorem declares_importBlock (hc : IsString ('"' :: settings.clientImport ++ ['"']))
    (h : ∀ text ∈ imports, IsString text) : Declares (importBlock settings imports) [] := by
  have hurl : IsString "\"net/url\"".toList :=
    ⟨"net/url".toList, rfl, .of_plain (by decide), by decide⟩
  have hfirst : IsPiece "import (".toList [.word "import".toList, .sign '('] := by decide +kernel
  have hbody := ((isBody_import hurl).cons (isBody_empty.cons (isBody_import hc))).append
    (isBody_importLines h)
  exact declares_block (.lexeme rfl rfl .nil) hfirst.yields hbody yields_round closer?_round

theorem lexemes_typeLine (hs : IsWord service) : lexemes (typeLine service) =
    [.word "type".toList, .word service, .word "struct".toList, .sign '\x7b'] := by
  have hkeyword : IsPiece "type ".toList [.word "type".toList] := by decide +kernel
  have hbehind : IsPiece " struct \x7b".toList [.word "struct".toList, .sign '\x7b'] := by
    decide +kernel
  have hline : typeLine service = "type ".toList ++ (service ++ " struct \x7b".toList) := rfl
  rw [hline, hkeyword.lexemes_append, hs.lexemes_append (endsWord_of_ascii (by decide +kernel)),
    hbehind.lexemes_eq]
  rfl

def fieldLine : Text := "\tClient *client.Client".toList

/-- The declaration of the struct. -/
def structBlock (service : Text) : List Text := typeLine service :: ([fieldLine] ++ [['\x7d']])

theorem declares_structBlock (hs : IsWord service) : Declares (structBlock service) [service] := by
  have hfirst : ∀ c ∈ typeLine service, Literal.isQuote c = false ∧ c ≠ '/' :=
    List.forall_mem_append.2 ⟨by decide +kernel,
      List.forall_mem_append.2 ⟨hs.plain, by decide +kernel⟩⟩
  have hbody : IsBody [fieldLine] (lexemes fieldLine ++ [.newline]) :=
    isBody_plain (by decide +kernel) (by decide +kernel)
  exact declares_block (.lexeme rfl rfl (.lexeme rfl rfl (.lexeme rfl rfl .nil)))
    (yields_plain hfirst (lexemes_typeLine hs)) hbody yields_curly closer?_curly

/-- The lines in the body of the constructor, up to the last one. -/
def setupLines : List Text :=
  ["\tc := client.NewBaseClient()".toList, "\tc.ServiceInfo = client.NewServiceInfo()".toList,
    "\tc.ServiceInfo.Host = host".toList, "\tc.ServiceInfo.Credentials.AccessKeyID = ak".toList,
    "\tc.ServiceInfo.Credentials.SecretAccessKey = sk".toList,
    "\tc.ServiceInfo.Credentials.Service = service".toList,
    "\tc.ServiceInfo.Credentials.Region = region".toList,
    "\tc.SdkVersion = client.DefaultSdkVersion".toList, []]

def returnLine (service : Text) : Text :=
  "\treturn &".toList ++ (service ++ "\x7bClient: c\x7d".toList)

/-- The declaration of the constructor. -/
def constructorBlock (service : Text) : List Text :=
  constructorLine service :: ((setupLines ++ [returnLine service]) ++ [['\x7d']])

def parameters : List Lexeme :=
  [.word "ak".toList, .sign ',', .word "sk".toList, .sign ',', .word "host".toList, .sign ',',
    .word "service".toList, .sign ',', .word "region".toList, .word "string".toList]

theorem lexemes_constructorLine (hs : IsWord service) : lexemes (constructorLine service) =
    .word "func".toList :: .word constructor ::
      .sign '(' :: (parameters ++ [.sign ')', .sign '*', .word service, .sign '\x7b']) := by
  have hfront : IsPiece ("func ".toList ++ (constructor ++
      "(ak, sk, host, service, region string) *".toList)) (.word "func".toList ::
        .word constructor :: .sign '(' :: (parameters ++ [.sign ')', .sign '*'])) := by
    unfold constructor parameters
    repeat rw [String.toList_ofList]
    decide +kernel
  have hbrace : IsPiece " \x7b".toList [.sign '\x7b'] := by decide +kernel
  have hline : constructorLine service = "func ".toList ++ (constructor ++
      "(ak, sk, host, service, region string) *".toList) ++ (service ++ " \x7b".toList) := by
    unfold constructorLine
    simp only [List.append_assoc]
  rw [hline, hfront.lexemes_append, hs.lexemes_append (endsWord_of_ascii (by decide +kernel)),
    hbrace.lexemes_eq]
  simp only [List.cons_append, List.append_assoc, List.nil_append]

theorem lexemes_returnLine (hs : IsWord service) : lexemes (returnLine service) =
    [.word "return".toList, .sign '&', .word service, .sign '\x7b', .word "Client".toList,
      .sign ':', .word ['c'], .sign '\x7d'] := by
  have hfront : IsPiece "\treturn &".toList [.word "return".toList, .sign '&'] := by
    decide +kernel
  have hbehind : IsPiece "\x7bClient: c\x7d".toList [.sign '\x7b', .word "Client".toList,
      .sign ':', .word ['c'], .sign '\x7d'] := by decide +kernel
  have hline : returnLine service =
      "\treturn &".toList ++ (service ++ "\x7bClient: c\x7d".toList) := rfl
  rw [hline, hfront.lexemes_append, hs.lexemes_append (endsWord_of_ascii (by decide +kernel)),
    hbehind.lexemes_eq]
  rfl

-- Texts are given as characters first, which are decided much faster than strings.
theorem plain_setupLines :
    ∀ line ∈ setupLines, ∀ c ∈ line, Literal.isQuote c = false ∧ c ≠ '/' := by
  unfold setupLines
  repeat rw [String.toList_ofList]
  decide +kernel

theorem nests_setupLines : ∀ line ∈ setupLines, Bracket.nests line := by
  unfold setupLines
  repeat rw [String.toList_ofList]
  decide +kernel

theorem declares_constructorBlock (hs : IsWord service) :
    Declares (constructorBlock service) [constructor] := by
  have hfirst : ∀ c ∈ constructorLine service, Literal.isQuote c = false ∧ c ≠ '/' :=
    List.forall_mem_append.2 ⟨by decide +kernel, List.forall_mem_append.2 ⟨by decide +kernel,
      List.forall_mem_append.2 ⟨List.forall_mem_append.2 ⟨by decide +kernel, hs.plain⟩,
        by decide +kernel⟩⟩⟩
  have hreturn : ∀ c ∈ returnLine service, Literal.isQuote c = false ∧ c ≠ '/' :=
    List.forall_mem_append.2 ⟨by decide +kernel,
      List.forall_mem_append.2 ⟨hs.plain, by decide +kernel⟩⟩
  have hline : IsBody [returnLine service] [.word "return".toList, .sign '&', .word service,
      .sign '\x7b', .word "Client".toList, .sign ':', .word ['c'], .sign '\x7d', .newline] :=
    ⟨yields_plain hreturn (lexemes_returnLine hs), rfl⟩
  have hparameters : Bracket.nests (brackets parameters) := rfl
  have hresult : Unbroken [.sign '*', .word service] := .lexeme rfl rfl (.lexeme rfl rfl .nil)
  have hfront : Unbroken (.word "func".toList :: .word constructor :: .sign '(' ::
      (parameters ++ .sign ')' :: [.sign '*', .word service])) :=
    .lexeme rfl rfl (.lexeme rfl rfl (.bracket closer?_round hparameters hresult))
  refine declares_block hfront ?_ ((isBody_lines plain_setupLines nests_setupLines).append hline)
    yields_curly closer?_curly
  simpa using yields_plain hfirst (lexemes_constructorLine hs)

/-! ### Wrappers -/

def callLine : Text := "\tstatusCode, err = p.Client.CommonHandler(action, query, body, r)".toList

def resultLine : Text := "\treturn r, statusCode, err".toList

theorem plain_callLine : ∀ c ∈ callLine, Literal.isQuote c = false ∧ c ≠ '/' := by
  unfold callLine
  rw [String.toList_ofList]
  decide +kernel

theorem plain_resultLine : ∀ c ∈ resultLine, Literal.isQuote c = false ∧ c ≠ '/' := by
  unfold resultLine
  rw [String.toList_ofList]
  decide +kernel

/-- The parameters and the name of the response, as they stand in front of its type. -/
def wrapperParameters : List Lexeme :=
  [.word "body".toList, .word "string".toList, .sign ',', .word "query".toList, .word "url".toList,
    .sign '.', .word "Values".toList]

/-- What stands behind the type of the response. -/
def wrapperResults : List Lexeme :=
  [.sign ',', .word "statusCode".toList, .word "int".toList, .sign ',', .word "err".toList,
    .word "error".toList]

/-- What stands in front of the body of a wrapper. -/
def signature (service : Text) (method : Method) : List Lexeme :=
  .word "func".toList :: .sign '(' :: ([.word ['p'], .sign '*', .word service] ++
    .sign ')' :: .word method.action :: .sign '(' :: (wrapperParameters ++ .sign ')' :: .sign '(' ::
      (.word ['r'] :: (lexemes method.responseType ++ wrapperResults) ++ [.sign ')'])))

def signatureLine (service : Text) (method : Method) : Text :=
  "func (p *".toList ++ service ++ ") ".toList ++ method.action ++
    "(body string, query url.Values) (r ".toList ++ method.responseType ++
    ", statusCode int, err error) \x7b".toList

theorem yields_signatureLine (hs : IsWord service) (ha : IsWord method.action)
    (hr : IsWhole method.responseType) : Yields [signatureLine service method]
      (signature service method ++ [.sign '\x7b', .newline]) := by
  obtain ⟨tokens, hreads⟩ := hr.reads
  intro rest
  have hfunc : IsPiece "func (p *".toList
      [.word "func".toList, .sign '(', .word ['p'], .sign '*'] := by decide +kernel
  have hclose : IsPiece ") ".toList [.sign ')'] := by decide +kernel
  have hopen : IsPiece "(body string, query url.Values) (r ".toList
      (.sign '(' :: (wrapperParameters ++ [.sign ')', .sign '(', .word ['r']])) := by
    unfold wrapperParameters
    repeat rw [String.toList_ofList]
    decide +kernel
  have hresults : IsPiece ", statusCode int, err error) \x7b".toList
      (wrapperResults ++ [.sign ')', .sign '\x7b']) := by
    unfold wrapperResults
    repeat rw [String.toList_ofList]
    decide +kernel
  have hround : EndsWord ") ".toList := endsWord_of_ascii (by decide +kernel)
  have hbody : EndsWord "(body string, query url.Values) (r ".toList :=
    endsWord_of_ascii (by decide +kernel)
  have htype : lexemes (method.responseType ++
      (", statusCode int, err error) \x7b".toList ++ '\n' :: rest)) =
        lexemes method.responseType ++
          lexemes (", statusCode int, err error) \x7b".toList ++ '\n' :: rest) :=
    lexemes_append_cons hreads (Text.isWordChar_eq_isAlphanum (by decide)) (by decide)
      (fun _ => by decide) _
  rw [unlines_singleton_append]
  unfold signatureLine signature
  simp only [List.append_assoc]
  rw [hfunc.lexemes_append, hs.lexemes_append (hround.append _), hclose.lexemes_append,
    ha.lexemes_append (hbody.append _), hopen.lexemes_append, htype, hresults.lexemes_append,
    lexemes_newline]
  simp only [List.append_assoc, List.cons_append, List.nil_append]

theorem unbroken_signature (hr : IsWhole method.responseType) :
    Unbroken (signature service method) := by
  have hresults : Bracket.nests
      (brackets (.word ['r'] :: (lexemes method.responseType ++ wrapperResults))) := by
    change Bracket.nests (brackets (lexemes method.responseType ++ wrapperResults))
    rw [brackets_append]
    exact Bracket.nests_append hr.nests rfl
  exact .lexeme rfl rfl (.bracket closer?_round rfl (.lexeme rfl rfl
    (.bracket closer?_round rfl (.bracket closer?_round hresults .nil))))

theorem isBody_actionLine (ha : IsWord method.action) :
    IsBody ["\taction := \"".toList ++ method.action ++ "\"".toList]
      [.word "action".toList, .sign ':', .sign '=', .literal, .newline] := by
  have hfront : IsPiece "\taction := ".toList [.word "action".toList, .sign ':', .sign '='] := by
    decide +kernel
  have hinside : Literal.Inside '"' method.action := by
    refine .of_plain fun c hc => ?_
    obtain ⟨hq, -⟩ := ha.plain c hc
    refine ⟨?_, ?_⟩
    · rintro rfl
      cases hq
    · rintro rfl
      exact absurd (ha.2 '\\' hc) (by decide +kernel)
  have hline (rest : Text) :
      "\taction := \"".toList ++ method.action ++ "\"".toList ++ '\n' :: rest =
        "\taction := ".toList ++ '"' :: (method.action ++ '"' :: '\n' :: rest) := by
    have hquote : "\taction := \"".toList = "\taction := ".toList ++ ['"'] := by decide
    have hend : "\"".toList = ['"'] := rfl
    simp only [hquote, hend, List.append_assoc, List.cons_append, List.nil_append]
  refine ⟨fun rest => ?_, rfl⟩
  rw [unlines_singleton_append, hline, hfront.lexemes_append, lexemes_literal rfl hinside,
    lexemes_newline]
  rfl

/-- The zero value has the type of the response behind its star. -/
theorem exists_zeroResponse (h : method.IsTidy) (hr : Go.IsWhole method.responseType) :
    ∃ inner, Go.IsWhole inner ∧
      method.zeroResponse = '&' :: inner ++ "\x7b\x7d".toList := by
  obtain ⟨rest, hresponse, hzero⟩ := h.pointee
  have hspaced := h.responseType
  rw [hresponse] at hr hspaced
  have hrest : Go.IsWhole rest := hr.of_cons (.inl rfl)
  refine ⟨Text.trim rest, ?_, hzero⟩
  rcases hspaced.trim_behind with htrim | htrim
  · rwa [htrim]
  · rw [htrim] at hrest
    exact hrest.of_cons (.inr rfl)

theorem isBody_zeroLine (h : method.IsTidy) (hr : Go.IsWhole method.responseType) :
    ∃ list, IsBody ["\tr = ".toList ++ method.zeroResponse] list := by
  obtain ⟨inner, hinner, hzero⟩ := exists_zeroResponse h hr
  obtain ⟨tokens, hreads⟩ := hinner.reads
  have hfront : IsPiece "\tr = &".toList [.word ['r'], .sign '=', .sign '&'] := by decide +kernel
  have hbraces : IsPiece "\x7b\x7d".toList [.sign '\x7b', .sign '\x7d'] := by decide +kernel
  refine ⟨[.word ['r'], .sign '=', .sign '&'] ++ (lexemes inner ++
    ([.sign '\x7b', .sign '\x7d'] ++ [.newline])), fun rest => ?_, ?_⟩
  · have hline : "\tr = ".toList ++ ('&' :: inner ++ "\x7b\x7d".toList) ++ '\n' :: rest =
        "\tr = &".toList ++ (inner ++ "\x7b\x7d".toList ++ '\n' :: rest) := rfl
    have htype : lexemes (inner ++ ("\x7b\x7d".toList ++ '\n' :: rest)) =
        lexemes inner ++ lexemes ("\x7b\x7d".toList ++ '\n' :: rest) :=
      lexemes_append_cons hreads (Text.isWordChar_eq_isAlphanum (by decide)) (by decide)
        (fun _ => by decide) _
    rw [unlines_singleton_append, hzero, hline, hfront.lexemes_append, List.append_assoc, htype,
      hbraces.lexemes_append, lexemes_newline]
    simp only [List.append_assoc, List.singleton_append]
  · rw [brackets_append, brackets_append]
    exact Bracket.nests_append rfl (Bracket.nests_append hinner.nests rfl)

/-- The declaration of the function. -/
def wrapperBlock (service : Text) (method : Method) : List Text :=
  signatureLine service method :: ((["\taction := \"".toList ++ method.action ++ "\"".toList,
    "\tr = ".toList ++ method.zeroResponse, callLine, resultLine]) ++ [['\x7d']])

/-- A function with a receiver adds no name. -/
theorem declares_wrapperBlock (hs : IsWord service) (ha : IsWord method.action) (h : method.IsTidy)
    (hr : Go.IsWhole method.responseType) : Declares (wrapperBlock service method) [] := by
  obtain ⟨list, hzero⟩ := isBody_zeroLine h hr
  have hcall := isBody_plain plain_callLine (by decide +kernel)
  have hresult := isBody_plain plain_resultLine (by decide +kernel)
  have hbody := (isBody_actionLine ha).cons (hzero.cons (hcall.cons hresult))
  exact declares_block (unbroken_signature hr) (yields_signatureLine hs ha hr) hbody yields_curly
    closer?_curly

/-! ### Whole stubs -/

/-- The text of a stub. -/
def stubText (settings : Settings) (package service : Text) (imports : List Text)
    (methods : List Method) : Text :=
  unlines (headerLines settings package ++ importLines imports ++
    ")".toList :: declarationLines service) ++ unlines (methods.flatMap (wrapperLines service))

theorem not_mem_declarationLines (hs : '\n' ∉ service) :
    ∀ line ∈ declarationLines service, '\n' ∉ line := by
  have hstruct : ∀ line ∈ structLines, '\n' ∉ line := by
    simp only [structLines, List.forall_mem_cons]
    refine ⟨?_, ?_, List.not_mem_nil, ?_, List.forall_mem_nil _⟩ <;>
      exact Text.not_mem_toList rfl (by decide)
  have hbody : ∀ line ∈ constructorLines service, '\n' ∉ line := by
    simp only [constructorLines, List.forall_mem_cons, List.mem_append, not_or]
    refine ⟨?_, ?_, ?_, ?_, ?_, ?_, ?_, ?_, List.not_mem_nil, ⟨⟨?_, hs⟩, ?_⟩, ?_,
      List.forall_mem_nil _⟩ <;> exact Text.not_mem_toList rfl (by decide)
  have hcomment : '\n' ∉ "// ".toList ++ service ++ " is a base client".toList := by
    simp only [List.mem_append, not_or]
    refine ⟨⟨?_, hs⟩, ?_⟩ <;> exact Text.not_mem_toList rfl (by decide)
  have htype : '\n' ∉ typeLine service := by
    unfold typeLine
    simp only [List.mem_append, not_or]
    refine ⟨?_, hs, ?_⟩ <;> exact Text.not_mem_toList rfl (by decide)
  have hconstructor : '\n' ∉ constructorLine service := by
    unfold constructorLine constructor
    simp only [List.mem_append, not_or]
    refine ⟨?_, ?_, ⟨?_, hs⟩, ?_⟩ <;> exact Text.not_mem_toList rfl (by decide)
  rw [declarationLines]
  simp only [List.forall_mem_append, List.forall_mem_cons]
  exact ⟨⟨List.not_mem_nil, hcomment, List.forall_mem_nil _⟩, htype, hstruct, hconstructor, hbody⟩

theorem lines_stubText (settings : Settings) (package : Text) (imports : List Text)
    (hs : '\n' ∉ service) (h : ∀ method ∈ methods, method.IsTidy) :
    Text.lines (stubText settings package service imports methods) =
      (headerLines settings package ++ importLines imports).flatMap Text.lines ++
        ")".toList :: (declarationLines service ++
          (methods.flatMap (wrapperLines service) ++ [[]])) := by
  have hclosed : ∀ line ∈ ")".toList :: declarationLines service, '\n' ∉ line :=
    List.forall_mem_cons.2 ⟨by decide, not_mem_declarationLines hs⟩
  rw [stubText, Text.unlines_append, List.append_assoc, Text.lines_unlines_append,
    Text.lines_unlines_append, Text.flatMap_lines hclosed, lines_wrappers hs h]
  rfl

/-- The lines of a base, cut where a declaration starts. -/
theorem baseLines_eq (settings : Settings) (package service : Text) (imports : List Text) :
    headerLines settings package ++ importLines imports ++ ")".toList :: declarationLines service =
      ["// Code generated by ".toList ++ settings.generatorName ++ ". DO NOT EDIT.".toList, [],
          "package ".toList ++ package, []] ++ importBlock settings imports ++
        [[], "// ".toList ++ service ++ " is a base client".toList] ++ structBlock service ++
        [[], "// NewAPIClient returns an api client object".toList] ++
          constructorBlock service := by
  simp only [importBlock, List.append_assoc, List.cons_append, List.nil_append]
  rfl

theorem yields_header (hg : '\n' ∉ settings.generatorName) :
    Yields ["// Code generated by ".toList ++ settings.generatorName ++ ". DO NOT EDIT.".toList]
      [.newline] := by
  have hline : "// Code generated by ".toList ++ settings.generatorName ++ ". DO NOT EDIT.".toList =
      '/' :: '/' :: (" Code generated by ".toList ++ settings.generatorName ++
        ". DO NOT EDIT.".toList) := rfl
  rw [hline]
  apply yields_comment
  simp only [List.mem_append, not_or]
  exact ⟨⟨by decide, hg⟩, by decide⟩

theorem unbroken_packageLine (package : Text) :
    Unbroken [.word "package".toList, .word package] := .lexeme rfl rfl (.lexeme rfl rfl .nil)

theorem isEnd_of_isPackageName (hp : Go.isPackageName package) : (Lexeme.word package).isEnd := by
  rw [Go.isPackageName, Bool.and_eq_true] at hp
  rw [Lexeme.isEnd, hp.2, Bool.true_or]

theorem declares_base (hg : '\n' ∉ settings.generatorName) (hp : Go.isPackageName package)
    (hs : IsWord service) (hc : IsString ('"' :: settings.clientImport ++ ['"']))
    (hi : ∀ text ∈ imports, IsString text) :
    Declares (headerLines settings package ++ importLines imports ++
      ")".toList :: declarationLines service) [service, constructor] := by
  have hbreak : '\n' ∉ service := Text.not_mem_of_isWordChar hs.2 (by decide)
  have hpackage : Declares ["package ".toList ++ package] [] :=
    (unbroken_packageLine package).declares (isEnd_of_isPackageName hp)
      (yields_packageLine (.of_isWord (isWord_of_isPackageName hp)))
  have hservice : Declares ["// ".toList ++ service ++ " is a base client".toList] [] := by
    have hline : "// ".toList ++ service ++ " is a base client".toList =
        '/' :: '/' :: (' ' :: service ++ " is a base client".toList) := rfl
    rw [hline]
    apply declares_comment
    simp only [List.cons_append, List.mem_cons, List.mem_append, not_or]
    exact ⟨by decide, hbreak, by decide⟩
  have hconstructor :
      Declares ['/' :: '/' :: " NewAPIClient returns an api client object".toList] [] :=
    declares_comment (by decide)
  have hheader := (declares_of_newline (yields_header hg)).append (declares_empty.append
    (hpackage.append declares_empty))
  rw [baseLines_eq]
  exact ((((hheader.append (declares_importBlock hc hi)).append (declares_empty.append
    hservice)).append (declares_structBlock hs)).append (declares_empty.append hconstructor)).append
      (declares_constructorBlock hs)

/-- A stub declares the struct of its service and the constructor, and nothing else. -/
theorem declaredNames_stubText (hg : '\n' ∉ settings.generatorName)
    (hp : Go.isPackageName package) (hs : IsWord service)
    (hc : IsString ('"' :: settings.clientImport ++ ['"'])) (hi : ∀ text ∈ imports, IsString text)
    (hm : ∀ method ∈ methods, method.IsTidy ∧ Go.IsWhole method.responseType) :
    declaredNames (stubText settings package service imports methods) =
      [service, constructor].filter isDeclarable := by
  rw [stubText, ← Text.unlines_append]
  have hwrappers : Declares (methods.flatMap (wrapperLines service)) [] := by
    refine declares_flatMap fun method hmem => ?_
    obtain ⟨htidy, hwhole⟩ := hm method hmem
    have haction : IsWord method.action := .of_isWord (isWord_of_isIdentifier htidy.action)
    exact declares_empty.append (declares_wrapperBlock hs haction htidy hwhole)
  exact ((declares_base hg hp hs hc hi).append hwrappers).declaredNames_eq

/-- The package clause comes first, whatever stands behind it. -/
theorem packageName?_stubText (hg : '\n' ∉ settings.generatorName) (hp : Go.isPackageName package)
    (service : Text) (imports : List Text) (methods : List Method) :
    Go.packageName? (stubText settings package service imports methods) = some package := by
  have hfront := (yields_header hg).cons (isBody_empty.yields.cons
    (yields_packageLine (.of_isWord (isWord_of_isPackageName hp))))
  have hstatements (rest : Text) : statements (lexemes (unlines
      ["// Code generated by ".toList ++ settings.generatorName ++ ". DO NOT EDIT.".toList, [],
        "package ".toList ++ package] ++ rest)) =
        [.word "package".toList, .word package] :: statements (lexemes rest) := by
    rw [hfront]
    exact (unbroken_packageLine package).statements_newline (isEnd_of_isPackageName hp) _
  have hlines : stubText settings package service imports methods = unlines
      ["// Code generated by ".toList ++ settings.generatorName ++ ". DO NOT EDIT.".toList, [],
        "package ".toList ++ package] ++ unlines
          ([[]] ++ importBlock settings imports ++
            [[], "// ".toList ++ service ++ " is a base client".toList] ++ structBlock service ++
            [[], "// NewAPIClient returns an api client object".toList] ++
            constructorBlock service ++ methods.flatMap (wrapperLines service)) := by
    rw [stubText, ← Text.unlines_append, ← Text.unlines_append, baseLines_eq]
    simp only [List.append_assoc, List.cons_append, List.nil_append]
  rw [Go.packageName?, hlines, hstatements]
  exact if_pos rfl

end Stub

end GoStubs
