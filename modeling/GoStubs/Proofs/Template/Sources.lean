import GoStubs.Proofs.Template.Form

/-!
# Sources of forms

The source of a form is read as its template if its texts have nothing of a tag, its names are no
words of the template language, and the tags around its lists are alone on their lines.  It is cut
into tokens, loses the newlines behind the tags of its blocks, and is put together to parts.
-/

namespace GoStubs.Template

open Text (isSpace breakAt? dropPrefix? split)

variable {text name inner rest : Text} {c : Char} {token : Token} {found : List Token}

/-! ### Texts and tags -/

/-- A text that has no part of a tag, also with one behind it. -/
def IsPlain (text : Text) : Prop :=
  ¬ ['\x7b', '\x7b'] <:+: text ∧ text.getLast? ≠ some '\x7b' ∧ text.getLast? ≠ some '\\'

instance (text : Text) : Decidable (IsPlain text) := inferInstanceAs (Decidable (_ ∧ _))

theorem IsPlain.newline_cons (h : IsPlain text) : IsPlain ('\n' :: text) := by
  obtain ⟨hpair, hbrace, hslash⟩ := h
  refine ⟨?_, ?_, ?_⟩
  · rw [List.infix_cons_iff, not_or]
    refine ⟨?_, hpair⟩
    rintro ⟨_, happend⟩
    cases happend
  all_goals cases text with
    | nil => simp
    | cons d text => rwa [List.getLast?_cons_cons]

/-- What stands between the braces of a tag: neither braces nor a blank in front. -/
structure IsTag (inner : Text) : Prop where
  ne_nil : inner ≠ []
  head_not_blank : inner.head?.any isTagBlank = false
  not_brace : ∀ c ∈ inner, c ≠ '\x7b' ∧ c ≠ '\x7d'

theorem tagStart?_append (h : IsTag inner) (rest : Text) :
    tagStart? (inner ++ '\x7d' :: '\x7d' :: rest) =
      (tag? inner).map fun token => (token, rest) := by
  obtain ⟨hne, hhead, hbrace⟩ := h
  have hbreak : breakAt? ['\x7d', '\x7d'] (inner ++ '\x7d' :: '\x7d' :: rest) =
      some (inner, '\x7d' :: '\x7d' :: rest) := by
    apply Text.breakAt?_append_pair
    · exact fun hpair => (hbrace '\x7d' (hpair.subset (by simp))).2 rfl
    · exact fun hlast => (hbrace '\x7d' (List.mem_of_getLast? hlast)).2 rfl
  cases inner with
  | nil => exact absurd rfl hne
  | cons c inner =>
      have hc : isTagBlank c = false := hhead
      have hdrop : ((c :: inner) ++ '\x7d' :: '\x7d' :: rest).dropWhile isTagBlank =
          (c :: inner) ++ '\x7d' :: '\x7d' :: rest := List.dropWhile_cons_of_neg (by simp [hc])
      rw [tagStart?, hdrop]
      split
      · rename_i _ heq
        exact absurd (List.cons_eq_cons.1 heq).1 (hbrace c List.mem_cons_self).1
      · simp only [hbreak, Option.bind_eq_bind, Option.bind_some, Option.pure_def,
          List.drop_succ_cons, List.drop_zero, Option.map_eq_bind]
        rfl

/-! ### Names -/

/-- A name that stands for a field where a value is filled in. -/
def IsFieldName (name : Text) : Prop := value? name = some (.field name) ∧ ¬ "else".toList <+: name

/-- A name that stands for a field where a block says what it repeats for. -/
def IsListName (name : Text) : Prop := argument? name = some (.field name)

instance (name : Text) : Decidable (IsFieldName name) := inferInstanceAs (Decidable (_ ∧ _))

instance (name : Text) : Decidable (IsListName name) := inferInstanceAs (Decidable (_ = _))

theorem isName_of_reference? {reference : Reference} (h : reference? name = some reference) :
    isName name := by
  rw [reference?] at h
  cases hname : isName name with
  | true => rfl
  | false => simp [hname] at h

theorem IsFieldName.isName (h : IsFieldName name) : isName name := by
  obtain ⟨hvalue, -⟩ := h
  rw [value?] at hvalue
  split at hvalue
  · cases hvalue
  · split at hvalue
    · cases hvalue
    · split at hvalue
      · cases hvalue
      · split at hvalue
        · cases hvalue
        · exact isName_of_reference? hvalue

theorem IsListName.isName (h : IsListName name) : isName name := by
  rw [IsListName, argument?] at h
  repeat' split at h
  all_goals first | exact isName_of_reference? h | cases h

theorem isNameChar_of_mem (h : isName name) (hc : c ∈ name) : isNameChar c := by
  rw [isName, Bool.and_eq_true, List.all_eq_true] at h
  exact h.2 c hc

theorem not_isTagBlank_of_isNameChar (h : isNameChar c) : isTagBlank c = false := by
  rw [Bool.eq_false_iff]
  intro hblank
  have hcases : c = ' ' ∨ c = '\t' ∨ c = '\n' ∨ c = '\r' := by
    simpa [isTagBlank, isSpace, isNewline, or_assoc] using hblank
  rcases hcases with rfl | rfl | rfl | rfl <;> cases h

theorem isTag_of_isName (h : isName name) : IsTag name := by
  refine ⟨?_, ?_, fun c hc => ⟨?_, ?_⟩⟩
  · rintro rfl
    cases h
  · cases name with
    | nil => rfl
    | cons c name =>
        exact not_isTagBlank_of_isNameChar (isNameChar_of_mem h List.mem_cons_self)
  all_goals
    rintro rfl
    cases isNameChar_of_mem h hc

theorem words_name (h : isName name) :
    (split isTagBlank name).filter (! ·.isEmpty) = [name] := by
  rw [Text.split_of_not_cut fun c hc => not_isTagBlank_of_isNameChar (isNameChar_of_mem h hc)]
  have hne : name ≠ [] := (isTag_of_isName h).ne_nil
  simp [hne]

theorem tagWords_name (h : isName name) : tagWords name = [name] := by
  rw [tagWords, words_name h]
  split
  · rename_i heq
    cases heq
  · rfl

theorem ne_of_isName (h : isName name) (hc : isNameChar c = false) (text : Text) :
    name ≠ c :: text := by
  rintro rfl
  rw [isNameChar_of_mem h List.mem_cons_self] at hc
  cases hc

theorem tag?_name (h : IsFieldName name) : tag? name = some (.value (.field name)) := by
  have hname := h.isName
  have helse : dropPrefix? "else".toList name = none := by
    cases hdrop : dropPrefix? "else".toList name with
    | none => rfl
    | some rest => exact absurd ⟨rest, (Text.dropPrefix?_eq_some_iff.1 hdrop).symm⟩ h.2
  have heach : name ≠ "#each".toList := ne_of_isName hname (by decide) _
  have hend : name ≠ "/each".toList := ne_of_isName hname (by decide) _
  rw [tag?, tagWords_name hname, otherwise?, helse]
  simp only [if_neg heach, if_neg hend, h.1]
  rfl

theorem isTag_each (h : IsListName name) : IsTag ("#each ".toList ++ name) := by
  have hsign : ∀ c ∈ "#each ".toList, c ≠ '\x7b' ∧ c ≠ '\x7d' := by decide
  exact ⟨List.cons_ne_nil _ _, rfl,
    List.forall_mem_append.2 ⟨hsign, (isTag_of_isName h.isName).not_brace⟩⟩

theorem tag?_each (h : IsListName name) :
    tag? ("#each ".toList ++ name) = some (.open (.field name)) := by
  have hwords : tagWords ("#each ".toList ++ name) = ["#each".toList, name] := by
    change tagWords ("#each".toList ++ ' ' :: name) = _
    rw [tagWords, Text.split_append_cons (by decide), List.filter_append, words_name h.isName]
    rfl
  rw [tag?, hwords]
  have hblock : argument? name = some (.field name) := h
  simp only [otherwise?, if_true, hblock]
  rfl

/-! ### Tokens -/

def textTokens (text : Text) : List Token := if text.isEmpty then [] else [.text text]

/-- The tokens of a source, given fuel for each of its characters. -/
def IsCut (source : Text) (tokens : List Token) : Prop :=
  ∀ fuel, source.length ≤ fuel → tokensWithin fuel source = some tokens

theorem isCut_of_isPlain (h : IsPlain text) : IsCut text (textTokens text) := by
  intro fuel hfuel
  cases fuel with
  | zero =>
      rw [List.length_eq_zero_iff.1 (Nat.le_zero.1 hfuel)]
      rfl
  | succ fuel =>
      rw [tokensWithin, Text.breakAt?_eq_none_iff.2 h.1]
      rfl

theorem withText_cons (h : ∀ more, token ≠ .text more) (text : Text) :
    withText text (token :: found) = textTokens text ++ token :: found := by
  cases token with
  | text more => exact absurd rfl (h more)
  | _ => cases text <;> rfl

/-- A tag behind a text is one token, and what follows the tag is cut as if nothing were in front
of it. -/
theorem IsCut.tag (h : IsCut rest found) (htext : IsPlain text) (hinner : IsTag inner)
    (htoken : tag? inner = some token) (hshape : ∀ more, token ≠ .text more) :
    IsCut (text ++ (braced inner ++ rest)) (textTokens text ++ token :: found) := by
  intro fuel hfuel
  obtain ⟨hpair, hbrace, hslash⟩ := htext
  simp only [braced, List.length_append, List.length_cons, List.length_nil] at hfuel
  obtain ⟨fuel, rfl⟩ := Nat.exists_eq_add_of_le' (show 1 ≤ fuel by omega)
  have hslashes : (text.reverse.takeWhile (· == '\\')).length = 0 := by
    rcases List.eq_nil_or_concat text with rfl | ⟨front, c, rfl⟩
    · rfl
    · rw [List.concat_eq_append, List.getLast?_concat, Ne, Option.some.injEq] at hslash
      simp [hslash]
  have hrest := h fuel (by omega)
  have hbraced : braced inner ++ rest =
      '\x7b' :: '\x7b' :: (inner ++ '\x7d' :: '\x7d' :: rest) := by simp [braced]
  rw [hbraced, tokensWithin, Text.breakAt?_append_pair hpair hbrace]
  simp only [hslashes, if_true, List.drop_succ_cons, List.drop_zero, tagStart?_append hinner,
    htoken, Option.map_some, Option.bind_eq_bind, Option.bind_some, hrest]
  rw [← withText_cons hshape]
  rfl

/-- The tokens of a slot and of the text behind it.  Behind the end of a list, that text has still
the newline of the tag. -/
def Slot.cut (text : Text) : Slot → List Token
  | .place name => .value (.field name) :: textTokens text
  | .list name before after =>
    .open (.field name) :: .text ('\n' :: before) :: .value .this ::
      (textTokens after ++ [.close, .text ('\n' :: text)])

def cutTokens : List (Slot × Text) → List Token
  | [] => []
  | (slot, text) :: rest => slot.cut text ++ cutTokens rest

/-- Whether a slot can be read between two texts.  The tags around a list have to be alone on their
lines. -/
def Slot.IsReadable (front back : Text) : Slot → Prop
  | .place name => IsFieldName name
  | .list name before after =>
    IsListName name ∧ IsPlain before ∧ IsPlain after ∧ after.getLast? = some '\n' ∧
      front.getLast? = some '\n' ∧ back ≠ []

instance (front back : Text) (slot : Slot) : Decidable (slot.IsReadable front back) :=
  match slot with
  | .place _ => inferInstanceAs (Decidable (IsFieldName _))
  | .list .. => inferInstanceAs (Decidable (_ ∧ _))

def AreReadable (front : Text) : List (Slot × Text) → Prop
  | [] => True
  | (slot, text) :: rest => slot.IsReadable front text ∧ IsPlain text ∧ AreReadable text rest

instance decidableAreReadable (front : Text) :
    (pieces : List (Slot × Text)) → Decidable (AreReadable front pieces)
  | [] => inferInstanceAs (Decidable True)
  | (_, text) :: rest =>
    have := decidableAreReadable text rest
    inferInstanceAs (Decidable (_ ∧ _ ∧ _))

def Form.IsReadable (form : Form) : Prop :=
  IsPlain form.start ∧ AreReadable form.start form.rest

instance (form : Form) : Decidable form.IsReadable := inferInstanceAs (Decidable (_ ∧ _))

theorem isCut_rest {pieces : List (Slot × Text)} {text raw : Text} (htext : IsPlain raw)
    (h : AreReadable text pieces) :
    IsCut (raw ++ pieces.flatMap fun (slot, text) => slot.source ++ text)
      (textTokens raw ++ cutTokens pieces) := by
  -- Behind a list, the text to be cut has a newline in front of the text of the form.
  induction pieces generalizing text raw with
  | nil =>
      rw [List.flatMap_nil, cutTokens, List.append_nil, List.append_nil]
      exact isCut_of_isPlain htext
  | cons piece pieces ih =>
      obtain ⟨slot, next⟩ := piece
      obtain ⟨hslot, hnext, hmore⟩ := h
      cases slot with
      | place name =>
          have hrest := (ih hnext hmore).tag htext (isTag_of_isName hslot.isName) (tag?_name hslot)
            (by simp)
          simpa only [List.flatMap_cons, Slot.source, cutTokens, Slot.cut, List.append_assoc,
            List.cons_append] using hrest
      | list name before after =>
          obtain ⟨hname, hbefore, hafter, -⟩ := hslot
          have heach : tag? "/each".toList = some .close := rfl
          have hthis : tag? "this".toList = some (.value .this) := rfl
          have hclosed := (ih hnext.newline_cons hmore).tag hafter
            ⟨by decide, rfl, by decide⟩ heach (by simp)
          have hbody := hclosed.tag hbefore.newline_cons
            (isTag_of_isName (by decide)) hthis (by simp)
          have hopen := hbody.tag htext (isTag_each hname) (tag?_each hname) (by simp)
          have hline (text : Text) : textTokens ('\n' :: text) = [.text ('\n' :: text)] := rfl
          simpa only [List.flatMap_cons, Slot.source, cutTokens, Slot.cut, List.append_assoc,
            List.cons_append, List.nil_append, hline] using hopen

/-! ### Lines -/

variable {before after : List Token} {alone : Bool}

theorem dropLineStart_of_newline (h : text.getLast? = some '\n') : dropLineStart text = text := by
  obtain ⟨front, rfl⟩ := List.getLast?_eq_some_iff.1 h
  rw [dropLineStart, Text.dropEndWhile_concat]
  rfl

theorem isAlone_of_newlines (h : text.getLast? = some '\n') (more : Text) :
    isAlone (.text text :: before) (.text ('\n' :: more) :: after) := by
  have hends : endsLine text := by
    change (dropLineStart text).getLast?.all isNewline
    rw [dropLineStart_of_newline h, h]
    rfl
  have hany : text.any isNewline := List.any_eq_true.2 ⟨'\n', List.mem_of_getLast? h, rfl⟩
  cases before <;> simp [isAlone, hends, hany] <;> rfl

theorem trimLines_value (reference : Reference) :
    trimLines before alone (.value reference :: after) =
      .value reference :: trimLines (.value reference :: before) false after := rfl

theorem trimLines_block (hblock : token.isBlock) (h : isAlone before after) :
    trimLines before alone (token :: after) = token :: trimLines (token :: before) true after := by
  cases token with
  | text text => cases hblock
  | value reference => cases hblock
  | _ => rw [trimLines, hblock, h, Bool.and_self]; simp

/-- A text behind a lone tag loses the newline of the tag.  No text loses spaces, since the one in
front of a block ends in a newline. -/
theorem trimLines_text {raw : Text} (hraw : raw = if alone then '\n' :: text else text)
    (h : ∀ next ∈ after.head?, next.isBlock → text.getLast? = some '\n') :
    trimLines before alone (.text raw :: after) =
      .text text :: trimLines (.text raw :: before) false after := by
  have hline : (if alone then dropLineEnd raw else raw) = text := by
    cases alone <;> rw [hraw] <;> rfl
  simp only [trimLines, hline, List.cons.injEq, Token.text.injEq, and_true]
  cases after with
  | nil => rfl
  | cons next after =>
      simp only
      split
      · rename_i hblock
        exact dropLineStart_of_newline (h next rfl (Bool.and_eq_true_iff.1 hblock).1)
      · rfl

/-- The tokens of a slot, with no newlines of its tags. -/
def Slot.tokens : Slot → List Token
  | .place name => [.value (.field name)]
  | .list name before after =>
    [.open (.field name), .text before, .value .this, .text after, .close]

def keptTokens : List (Slot × Text) → List Token
  | [] => []
  | (slot, text) :: rest => slot.tokens ++ (textTokens text ++ keptTokens rest)

theorem trimLines_textTokens {raw : Text} {trimmed : List Token}
    (hraw : raw = if alone then '\n' :: text else text) (hne : alone → text ≠ [])
    (hblock : ∀ next ∈ after.head?, next.isBlock → text.getLast? = some '\n')
    (h : ∀ before, (text ≠ [] → ∃ earlier, before = .text raw :: earlier) →
      trimLines before false after = trimmed) :
    trimLines before alone (textTokens raw ++ after) = textTokens text ++ trimmed := by
  by_cases htext : text = []
  · have halone : alone = false := Bool.eq_false_iff.2 fun ha => hne ha htext
    subst halone htext hraw
    exact h before fun hn => absurd rfl hn
  · have hrawne : raw ≠ [] := by
      rw [hraw]
      split
      · exact List.cons_ne_nil _ _
      · exact htext
    rw [textTokens, if_neg (by simpa using hrawne), textTokens, if_neg (by simpa using htext)]
    exact (trimLines_text hraw hblock).trans (congrArg _ (h _ fun _ => ⟨before, rfl⟩))

/-- The lines of the tags around the lists go, and nothing else. -/
theorem trimLines_rest {pieces : List (Slot × Text)} {raw : Text}
    (hraw : raw = if alone then '\n' :: text else text) (hne : alone → text ≠ [])
    (h : AreReadable text pieces) :
    trimLines before alone (textTokens raw ++ cutTokens pieces) =
      textTokens text ++ keptTokens pieces := by
  induction pieces generalizing before alone text raw with
  | nil => exact trimLines_textTokens hraw hne (by rintro _ ⟨⟩) fun before _ => rfl
  | cons piece pieces ih =>
      obtain ⟨slot, next⟩ := piece
      obtain ⟨hslot, -, hmore⟩ := h
      cases slot with
      | place name =>
          refine trimLines_textTokens hraw hne ?_ fun before _ => ?_
          · rintro _ ⟨⟩ ⟨⟩
          · rw [cutTokens, Slot.cut, List.cons_append, trimLines_value]
            exact congrArg _ (ih rfl (by simp) hmore)
      | list name first last =>
          obtain ⟨-, -, -, hlast, htext, hnext⟩ := hslot
          -- Both tags of the list are alone on their lines, since a newline ends the texts in front
          -- of them and starts the texts behind them.
          refine trimLines_textTokens hraw hne (fun _ _ _ => htext) fun before hbefore => ?_
          obtain ⟨before, rfl⟩ := hbefore (by rintro rfl; cases htext)
          have hrawlast : raw.getLast? = some '\n' := by
            rw [hraw]
            split
            · rw [List.getLast?_cons, htext]
              rfl
            · exact htext
          have hlasttokens : textTokens last = [.text last] := by
            cases last with
            | nil => cases hlast
            | cons c last => rfl
          have hfirst (before after : List Token) : trimLines before true
              (.text ('\n' :: first) :: .value .this :: after) =
                .text first :: trimLines (.text ('\n' :: first) :: before) false
                  (.value .this :: after) := trimLines_text rfl (by rintro _ ⟨⟩ ⟨⟩)
          have hend (before after : List Token) :
              trimLines before false (.text last :: .close :: after) =
                .text last :: trimLines (.text last :: before) false (.close :: after) :=
            trimLines_text rfl fun _ _ _ => hlast
          simp only [cutTokens, Slot.cut, hlasttokens, List.cons_append, List.nil_append]
          rw [trimLines_block rfl (isAlone_of_newlines hrawlast first), hfirst, trimLines_value,
            hend, trimLines_block rfl (isAlone_of_newlines hlast next)]
          exact congrArg ([.open (.field name), .text first, .value .this, .text last, .close] ++ ·)
            (ih rfl (fun _ => hnext) hmore)

theorem length_trimLines (before : List Token) (alone : Bool) (tokens : List Token) :
    (trimLines before alone tokens).length = tokens.length := by
  induction tokens generalizing before alone with
  | nil => rfl
  | cons token rest ih => cases token <;> simp [trimLines, ih]

/-! ### Parts -/

variable {parts : List Part} {form : Form} {values : Values}

/-- The parts that tokens are put together to, given fuel for each of them. -/
def Builds (tokens : List Token) (parts : List Part) : Prop :=
  ∀ fuel, tokens.length < fuel → partsWithin fuel tokens = some (parts, .source, [])

theorem Builds.append_text (h : Builds found parts) (text : Text) :
    Builds (textTokens text ++ found) (textParts text ++ parts) := by
  cases text with
  | nil => exact h
  | cons c text =>
      intro fuel hfuel
      obtain ⟨fuel, rfl⟩ := Nat.exists_eq_add_of_le' (show 1 ≤ fuel by omega)
      have hrest := h fuel (by simpa [textTokens] using hfuel)
      change partsWithin (fuel + 1) (.text (c :: text) :: found) = _
      rw [partsWithin, hrest]
      rfl

theorem Builds.append_slot (h : Builds found parts) (slot : Slot) :
    Builds (slot.tokens ++ found) (slot.part :: parts) := by
  intro fuel hfuel
  cases slot with
  | place name =>
      obtain ⟨fuel, rfl⟩ := Nat.exists_eq_add_of_le' (show 1 ≤ fuel by omega)
      have hrest := h fuel (by simpa [Slot.tokens] using hfuel)
      change partsWithin (fuel + 1) (.value (.field name) :: found) = _
      rw [partsWithin, hrest]
      rfl
  | list name before after =>
      simp only [Slot.tokens, List.length_append, List.length_cons, List.length_nil] at hfuel
      obtain ⟨fuel, rfl⟩ := Nat.exists_eq_add_of_le' (show 5 ≤ fuel by omega)
      have hbody : partsWithin (fuel + 4)
          (.text before :: .value .this :: .text after :: .close :: found) =
            some ([.text before, .value .this, .text after], .close, found) := rfl
      have hrest := h (fuel + 4) (by omega)
      change partsWithin (fuel + 4 + 1) (.open (.field name) :: .text before :: .value .this ::
        .text after :: .close :: found) = _
      rw [partsWithin, hbody]
      simp only [Option.bind_eq_bind, Option.bind_some, otherwiseWithin, hrest]
      rfl

theorem builds_keptTokens (pieces : List (Slot × Text)) :
    Builds (keptTokens pieces)
      (pieces.flatMap fun (slot, text) => slot.part :: textParts text) := by
  induction pieces with
  | nil =>
      intro fuel hfuel
      obtain ⟨fuel, rfl⟩ := Nat.exists_eq_add_of_le' (show 1 ≤ fuel from hfuel)
      rfl
  | cons piece pieces ih => exact (ih.append_text piece.2).append_slot piece.1

/-- The source of a form is read as its template. -/
theorem Form.ofSource?_source (h : form.IsReadable) :
    ofSource? form.source = some form.template := by
  have hcut : tokens? form.source = some (textTokens form.start ++ cutTokens form.rest) :=
    isCut_rest h.1 h.2 _ (Nat.le_refl _)
  have htrim : trimLines [] false (textTokens form.start ++ cutTokens form.rest) =
      textTokens form.start ++ keptTokens form.rest := trimLines_rest rfl (by simp) h.2
  have hlength := length_trimLines [] false (textTokens form.start ++ cutTokens form.rest)
  rw [htrim] at hlength
  have hparts := (builds_keptTokens form.rest).append_text form.start _
    (Nat.lt_succ_of_le (Nat.le_of_eq hlength))
  rw [ofSource?, hcut]
  simp only [Option.bind_eq_bind, Option.bind_some, htrim, hparts, if_true]
  rfl

/-- What a form on a shelf is filled with comes out as the shelf escapes it, and as it is where
nothing is escaped. -/
theorem Form.exists_register (h : form.IsReadable)
    (hnamed : ∀ piece ∈ form.rest, piece.1.IsNamed values) (shelf : Shelf) (name : Text) :
    ∃ fuller, shelf.register name form.source = .ok fuller ∧
      fuller.fill name values.context = .ok (form.filled (values.map shelf.rules.escape)) := by
  refine ⟨shelf.put name form.template, ?_, ?_⟩
  · exact Shelf.register_of_ofSource? (ofSource?_source h) shelf name
  · exact fill_of_lookup (Shelf.lookup_put _ _ _) hnamed

end GoStubs.Template
