import GoStubs.Go.Signature
import GoStubs.Proofs.Go.Fields

/-!
# Layouts of signatures

A signature is laid out as a name, a listing of its parameters between
parentheses, and its results: a listing between parentheses, a bare type, or
nothing.  The reader of declarations undoes every layout.
-/

namespace GoStubs.Go

open Text (isBlank isWordChar IsGap trim trimStart trimEnd collapse)

/-- The texts that can spell results behind a parameter list. -/
inductive ResultLayout : List Field → Text → Prop
  | empty {gap : Text} (isGap : IsGap gap) : ResultLayout [] gap
  | listed {results : List Field} {before list after : Text} {texts : List Text}
      (before_isGap : IsGap before) (after_isGap : IsGap after)
      (entries : Entries results texts) (listing : Listing texts list) :
      ResultLayout results (before ++ '(' :: list ++ ')' :: after)
  | bare {before type after : Text} (before_isGap : IsGap before) (after_isGap : IsGap after)
      (head_ne : type.head? ≠ some '(') : ResultLayout [⟨none, type⟩] (before ++ type ++ after)

namespace Signature

/-- The signatures that have layouts: a name, and two lists of fields. -/
structure WellFormed (signature : Signature) : Prop where
  name : isIdentifier signature.name
  params : IsFieldList signature.params
  results : IsFieldList signature.results

instance (signature : Signature) : Decidable signature.WellFormed :=
  decidable_of_iff (isIdentifier signature.name ∧ IsFieldList signature.params ∧
      IsFieldList signature.results)
    ⟨fun ⟨hn, hp, hr⟩ => ⟨hn, hp, hr⟩, fun ⟨hn, hp, hr⟩ => ⟨hn, hp, hr⟩⟩

/-- The texts that declare a method with this signature. -/
inductive Layout (signature : Signature) : Text → Prop
  | intro {before gap list results : Text} {texts : List Text} (before_isGap : IsGap before)
      (gap_isGap : IsGap gap) (entries : Entries signature.params texts)
      (listing : Listing texts list) (results_layout : ResultLayout signature.results results) :
      Layout signature (before ++ signature.name ++ gap ++ '(' :: list ++ ')' :: results)

/-- The plain layout of a signature, with its results between parentheses. -/
def print (signature : Signature) : Text :=
  signature.name ++ '(' :: Field.printList signature.params ++
    ')' :: (' ' :: '(' :: Field.printList signature.results ++ [')'])

theorem layout_print (signature : Signature) : signature.Layout signature.print := by
  have hnil : IsGap [] := by decide
  have hresults : ResultLayout signature.results
      ([' '] ++ '(' :: Field.printList signature.results ++ ')' :: []) :=
    .listed (by decide) hnil (entries_print _) (listing_printList _)
  have hl : signature.Layout ([] ++ signature.name ++ [] ++
      '(' :: Field.printList signature.params ++ ')' :: _) :=
    .intro hnil hnil (entries_print _) (listing_printList _) hresults
  simpa [print] using hl

end Signature

variable {results : List Field} {text : Text}

theorem closing?_listing {fields : List Field} {texts : List Text} {list : Text}
    (hl : IsFieldList fields) (he : Entries fields texts) (h : Listing texts list) (rest : Text) :
    Bracket.closing? '(' ')' (list ++ ')' :: rest) = some (list, rest) :=
  have ⟨hn, hq⟩ := h.nests (he.isEntry hl)
  Bracket.closing?_append rfl hq hn rest

theorem resultList_cons {c : Char} (hc : c ≠ '(') (rest : Text) :
    Signature.resultList (c :: rest) =
      if (Bracket.closing? '(' ')' (c :: rest)).isSome then .error .unbalanced
      else .ok [⟨none, collapse (c :: rest)⟩] := by
  rw [Signature.resultList]
  · simp
  · rintro inner hi
    cases hi
    exact hc rfl

/-- The reader of results undoes every layout of results. -/
theorem ResultLayout.resultList_eq (h : ResultLayout results text) (hr : IsFieldList results) :
    Signature.resultList (trim text) = .ok results := by
  cases h with
  | empty hg =>
      rw [Text.trim_eq_nil_iff.2 hg]
      rfl
  | @listed _ before list after texts hb ha he hl =>
      have hself : trim ('(' :: (list ++ [')'])) = '(' :: (list ++ [')']) := by
        rw [Text.trim_cons (by decide), Text.trimEnd_concat (by decide)]
      have htext : before ++ '(' :: list ++ ')' :: after =
          before ++ '(' :: (list ++ [')']) ++ after := by simp
      rw [htext, Text.trim_between hb ha hself, Signature.resultList, closing?_listing hr he hl]
      exact ofList_of_listing hr he hl
  | @bare before type after hb ha hne =>
      have ht := hr.isType
      obtain ⟨c, rest, rfl⟩ := List.exists_cons_of_ne_nil ht.ne_nil
      have hnone : Bracket.closing? '(' ')' (c :: rest) = none :=
        Bracket.closing?_eq_none rfl ht.not_isQuote ht.nests
      have hc : c ≠ '(' := fun he => hne (he ▸ rfl)
      rw [Text.trim_between hb ha ht.trim_eq, resultList_cons hc, hnone, ht.collapse_eq]
      rfl

namespace Signature

/-- A layout with the gaps at its ends trimmed. -/
theorem trim_layout {name before : Text} (middle results : Text) (hn : isIdentifier name)
    (hb : IsGap before) :
    trim (before ++ name ++ middle ++ ')' :: results) =
      name ++ middle ++ ')' :: trimEnd results := by
  obtain ⟨c, rest, rfl⟩ := List.exists_cons_of_ne_nil (ne_nil_of_isIdentifier hn)
  have hc := not_isBlank_of_isIdentifier hn c List.mem_cons_self
  have hgap : ¬ IsGap (')' :: results) := fun hg => by
    exact absurd (hg ')' List.mem_cons_self) (by decide)
  rw [List.append_assoc, List.append_assoc, Text.trim_gap_append hb, List.cons_append,
    Text.trim_cons hc, ← List.append_assoc, Text.trimEnd_append hgap, Text.trimEnd_cons (by decide)]
  rfl

theorem Layout.ofDeclaration_eq {signature : Signature} (hs : signature.WellFormed)
    (h : signature.Layout text) : ofDeclaration text = .ok signature := by
  obtain @⟨before, gap, list, results, texts, hb, hg, he, hl, hr⟩ := h
  have hname : ∀ c ∈ signature.name, isWordChar c :=
    fun _ => isWordChar_of_mem_isIdentifier hs.name
  have htrim : trim (before ++ signature.name ++ gap ++ '(' :: list ++ ')' :: results) =
      signature.name ++ (gap ++ '(' :: (list ++ ')' :: trimEnd results)) := by
    have ht := trim_layout (gap ++ '(' :: list) results hs.name hb
    simpa using ht
  -- The name ends at the first character that is no word character.
  have hstop : (gap ++ '(' :: (list ++ ')' :: trimEnd results)).takeWhile isWordChar = [] := by
    have hparen : isWordChar '(' = false := by decide +kernel
    cases gap with
    | nil => simp [hparen]
    | cons c gap => simp [Text.isWordChar_of_isBlank (hg c List.mem_cons_self)]
  have hrest := List.takeWhile_append_dropWhile (p := isWordChar)
    (l := gap ++ '(' :: (list ++ ')' :: trimEnd results))
  rw [hstop, List.nil_append] at hrest
  have hstart : trimStart (gap ++ '(' :: (list ++ ')' :: trimEnd results)) =
      '(' :: (list ++ ')' :: trimEnd results) := by
    rw [Text.trimStart_gap_append hg, Text.trimStart_cons (by decide)]
  have hresults : trim (trimEnd results) = trim results := by
    obtain ⟨end_, hend, hresults⟩ := Text.exists_gap_trimEnd results
    conv => rhs; rw [hresults, Text.trim_append_gap hend]
  simp only [ofDeclaration, htrim, List.takeWhile_append_of_pos hname,
    List.dropWhile_append_of_pos hname, hstop, hrest, hstart, List.append_nil, hs.name,
    closing?_listing hs.params he hl, ofList_of_listing hs.params he hl, hresults,
    hr.resultList_eq hs.results]
  rfl

/-- The reader of declarations undoes every layout of a well-formed signature, and the plain one is
among them. -/
theorem ofDeclaration_of_layout {signature : Signature} (hs : signature.WellFormed) :
    signature.Layout signature.print ∧
      ∀ text, signature.Layout text → ofDeclaration text = .ok signature :=
  ⟨layout_print signature, fun _ h => h.ofDeclaration_eq hs⟩

/-- A method with groups of names, brackets within its types, and a variadic parameter. -/
def sample : Signature where
  name := "Get".toList
  params := [⟨some ['a'], "map[K]func(x int, y ...T) (any, error)".toList⟩,
    ⟨some ['b'], "map[K]func(x int, y ...T) (any, error)".toList⟩,
    ⟨some ['c'], "...interface\x7b\x7d".toList⟩]
  results := [⟨none, "*List[K, V]".toList⟩, ⟨none, "error".toList⟩]

/-- It is read from a layout with line breaks, a group and commas at the ends of both lists. -/
theorem ofDeclaration_of_layout_sample :
    sample.WellFormed ∧ ofDeclaration ("\tGet (a, b  map[K]func(x int, y ...T) (any, error) ,\n" ++
      "c\n...interface\x7b\x7d,\n)\n(*List[K, V], error,) ").toList = .ok sample := by
  have hs : sample.WellFormed := by decide +kernel
  have hparams : Entries sample.params [['a'],
      ['b'] ++ "  ".toList ++ "map[K]func(x int, y ...T) (any, error)".toList,
      ['c'] ++ ['\n'] ++ "...interface\x7b\x7d".toList] :=
    .grouped _ (.named _ _ (by decide) (by decide) (.named _ _ (by decide) (by decide) .nil))
  have hresults : Entries sample.results ["*List[K, V]".toList, "error".toList] :=
    .unnamed _ (.unnamed _ .nil)
  have hlayout : sample.Layout _ :=
    @Layout.intro _ "\t".toList " ".toList _ _ _ (by decide) (by decide) hparams
      (@Listing.cons [] _ [] _ _ (by decide) (by decide)
        (@Listing.cons " ".toList _ " ".toList _ _ (by decide) (by decide)
          (@Listing.cons "\n".toList _ [] _ _ (by decide) (by decide)
            (@Listing.nil "\n".toList (by decide)))))
      (@ResultLayout.listed _ "\n".toList _ " ".toList _ (by decide) (by decide) hresults
        (@Listing.cons [] _ [] _ _ (by decide) (by decide)
          (@Listing.cons " ".toList _ [] _ _ (by decide) (by decide)
            (@Listing.nil [] (by decide)))))
  exact ⟨hs, (ofDeclaration_of_layout hs).2 _ hlayout⟩

end Signature

end GoStubs.Go
