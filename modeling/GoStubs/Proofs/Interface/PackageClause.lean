import Mathlib.Data.List.TakeWhile
import GoStubs.Proofs.Interface.Lookup
import GoStubs.Proofs.Interface.Service

/-!
# Names in package clauses

A package clause is read up to the first character that is no plain letter, digit or underscore, and
it is passed over if its name does not start with a plain letter or an underscore.  The name of a
package may have other letters and digits, and then it is cut short or missed.
-/

namespace GoStubs

open Interface (isPlainLetter isPlainWordChar)

variable {name : Text}

theorem Go.exists_of_isWord (h : Go.isWord name) :
    ∃ c rest, name = c :: rest ∧ (Text.isAlphabetic c || c == '_') = true := by
  cases name with
  | nil => cases h
  | cons c rest =>
      rw [isWord, Bool.and_eq_true] at h
      exact ⟨c, rest, rfl, h.1⟩

theorem Text.isBlank_of_isSpace {c : Char} (h : isSpace c) : isBlank c := by
  rw [isSpace, Bool.or_eq_true, beq_iff_eq, beq_iff_eq] at h
  rcases h with rfl | rfl <;> decide

namespace Service

theorem capitalise_of_isWordChar (h : ∀ c ∈ name, Text.isWordChar c) :
    capitalise false name = name := by
  induction name with
  | nil => rfl
  | cons c name ih =>
      obtain ⟨hc, ht⟩ := List.forall_mem_cons.1 h
      rw [capitalise, hc, Bool.not_true, ih ht]
      rfl

/-- The service of a name is not that of a shorter start of it. -/
theorem ofPackage_eq_ofPackage_iff {front : Text} (h : ∀ c ∈ name, Text.isWordChar c)
    (hp : front <+: name) (hn : front ≠ []) :
    ofPackage front = ofPackage name ↔ front = name := by
  refine ⟨fun heq => ?_, congrArg ofPackage⟩
  obtain ⟨c, front, rfl⟩ := List.exists_cons_of_ne_nil hn
  obtain ⟨back, rfl⟩ := hp
  have hcapitalised : Text.upper c ++ capitalise (!Text.isWordChar c) front =
      Text.upper c ++ capitalise (!Text.isWordChar c) (front ++ back) :=
    congrArg Service.name heq
  have hc : Text.isWordChar c := h c List.mem_cons_self
  have hall : ∀ d ∈ front ++ back, Text.isWordChar d :=
    fun d hd => h d (List.mem_cons_of_mem _ hd)
  rw [hc, Bool.not_true, capitalise_of_isWordChar hall,
    capitalise_of_isWordChar fun d hd => hall d (List.mem_append_left _ hd)] at hcapitalised
  have hback : front = front ++ back := List.append_cancel_left hcapitalised
  rw [List.cons_append, ← hback]

theorem fileStem_ofPackage {stem : Text} (h : stem.IsStem) : (ofPackage stem).fileStem = stem := by
  obtain ⟨hplain, hsmall, hletter⟩ := h
  rcases stem with _ | ⟨c, rest⟩
  · cases hletter
  obtain ⟨hfirst, hrest⟩ := List.forall_mem_cons.1 hplain
  obtain ⟨hsfirst, hsrest⟩ := List.forall_mem_cons.1 hsmall
  obtain ⟨capital, hupper, hcapital, -, hlower⟩ := Service.exists_upper hfirst
  have hword : ∀ d ∈ rest, Text.isWordChar d :=
    fun d hd => Text.isWordChar_of_isPlainWordChar (hrest d hd)
  rw [fileStem, ofPackage, capitalise, if_pos rfl, hupper,
    Text.isWordChar_of_isPlainWordChar hfirst, Bool.not_true, capitalise_of_isWordChar hword,
    List.singleton_append, Text.lower, Text.lowerAfter_cons_plain hcapital, hlower,
    Text.lowerChar_eq_self hfirst hsfirst, Text.lowerAfter_eq_self hrest hsrest,
    List.singleton_append]

end Service

namespace Interface

theorem head?_any_isPlainLetter (h : Go.isWord name) (hp : name.IsPlain) :
    name.head?.any isPlainLetter := by
  obtain ⟨c, rest, rfl, hc⟩ := Go.exists_of_isWord h
  exact (isPlainLetter_eq (hp c List.mem_cons_self)).trans hc

theorem takeWhile_ne_nil_of_head? (h : name.head?.any isPlainLetter) :
    name.takeWhile isPlainWordChar ≠ [] := by
  cases name with
  | nil => cases h
  | cons c rest =>
      rw [List.takeWhile_cons_of_pos (isPlainWordChar_of_isPlainLetter h)]
      exact List.cons_ne_nil _ _

theorem not_mem_of_isWord {c : Char} (h : Go.isWord name) (hc : Text.isBlank c) : c ∉ name :=
  Text.not_mem_of_isWordChar (fun _ => Go.isWordChar_of_mem_isWord h) hc

/-- A package clause on a line of its own, in front of other text. -/
def packageLine (name rest : Text) : Text := "package ".toList ++ name ++ '\n' :: rest

theorem packageClause?_packageLine (h : Go.isWord name) (rest : Text) :
    packageClause? (packageLine name rest) = packageName? name := by
  obtain ⟨c, tail, rfl, -⟩ := Go.exists_of_isWord h
  have hspace : Text.isSpace c = false := by
    rw [← Bool.not_eq_true]
    exact fun hs => not_mem_of_isWord h (Text.isBlank_of_isSpace hs) List.mem_cons_self
  have hskip : skipSpaces (c :: tail ++ '\n' :: rest) = c :: tail ++ '\n' :: rest :=
    List.dropWhile_cons_of_neg (by simp [hspace])
  change (some (skipSpaces (c :: tail ++ '\n' :: rest))).bind packageName? = _
  rw [hskip]
  exact packageName?_append (by decide) (by decide) _ rest

/-- The first line of a text is read, and the lines behind it if nothing is found there. -/
theorem firstLine?_packageLine (h : Go.isWord name) (rest : Text) :
    firstLine? packageClause? true (packageLine name rest) =
      (packageName? name).or (firstLine? packageClause? true rest) := by
  have hline : '\n' ∉ "ackage ".toList ++ name := by
    intro hm
    rcases List.mem_append.1 hm with hm | hm
    · exact absurd hm (by decide)
    · exact not_mem_of_isWord h (by decide) hm
  rw [← packageClause?_packageLine h rest, ← firstLine?_within hline rest]
  change firstLine? packageClause? true ('p' :: ("ackage ".toList ++ name ++ '\n' :: rest)) = _
  rw [firstLine?]
  change _ = (packageClause? ('p' :: ("ackage ".toList ++ name ++ '\n' :: rest))).or _
  cases packageClause? ('p' :: ("ackage ".toList ++ name ++ '\n' :: rest)) <;> rfl

theorem findService_packageLine (h : Go.isWord name) (rest : Text) :
    findService (packageLine name rest) =
      if name.head?.any isPlainLetter then .ok (.ofPackage (name.takeWhile isPlainWordChar))
      else findService rest := by
  rw [findService, firstLine?_packageLine h, packageName?]
  cases name.head?.any isPlainLetter <;> rfl

theorem isWord_of_isStem {stem : Text} (h : stem.IsStem) : Go.isWord stem := by
  obtain ⟨hplain, -, hletter⟩ := h
  rcases stem with _ | ⟨c, rest⟩
  · cases hletter
  obtain ⟨hc, hrest⟩ := List.forall_mem_cons.1 hplain
  rw [Go.isWord, ← isPlainLetter_eq hc, Bool.and_eq_true]
  exact ⟨hletter, List.all_eq_true.2 fun d hd => Text.isWordChar_of_isPlainWordChar (hrest d hd)⟩

/-- The names in lower case are what the names of files have from services. -/
theorem isStem_iff {stem : Text} : stem.IsStem ↔
    ∃ content service, findService content = .ok service ∧ service.fileStem = stem := by
  constructor
  · intro h
    refine ⟨packageLine stem [], .ofPackage stem, ?_, Service.fileStem_ofPackage h⟩
    rw [findService_packageLine (isWord_of_isStem h), if_pos h.letter,
      List.takeWhile_eq_self_iff.2 h.isPlain]
  · rintro ⟨content, service, h, rfl⟩
    exact isStem_fileStem h

/-- Behind its keyword a package clause has its name read up to the first character that is not
plain, or the whole line is passed over.  So the name is read as it is, whatever follows the line,
if and only if it is plain. -/
theorem service_of_packageLine (h : Go.isPackageName name) :
    (∀ rest, findService (packageLine name rest) =
      if name.head?.any isPlainLetter then .ok (.ofPackage (name.takeWhile isPlainWordChar))
      else findService rest) ∧
    (name.head?.any isPlainLetter → ∀ rest,
      findService (packageLine name rest) = .ok (.ofPackage name) ↔ name.IsPlain) ∧
    ((∀ rest, findService (packageLine name rest) = .ok (.ofPackage name)) ↔ name.IsPlain) := by
  have hword : Go.isWord name := Go.isWord_of_isPackageName h
  have hread := findService_packageLine hword
  have hhead : name.head?.any isPlainLetter → ∀ rest,
      findService (packageLine name rest) = .ok (.ofPackage name) ↔ name.IsPlain := by
    intro hletter rest
    have htake := Service.ofPackage_eq_ofPackage_iff (fun c => Go.isWordChar_of_mem_isWord hword)
      (List.takeWhile_prefix isPlainWordChar) (takeWhile_ne_nil_of_head? hletter)
    rw [hread, if_pos hletter, Except.ok.injEq, htake, List.takeWhile_eq_self_iff]
    rfl
  refine ⟨hread, hhead, fun hall => ?_, fun hp => ?_⟩
  · by_cases hletter : name.head?.any isPlainLetter
    · exact (hhead hletter []).1 (hall [])
    · have hnone := hall []
      rw [hread, if_neg hletter] at hnone
      cases hnone
  · exact fun rest => (hhead (head?_any_isPlainLetter hword hp) rest).2 hp

/-- A name is read up to its first letter that is not plain. -/
theorem service_of_packageLine_sample :
    Go.isPackageName "naïve".toList ∧
      ∀ rest, findService (packageLine "naïve".toList rest) = .ok ⟨"Na".toList⟩ := by
  have h : Go.isPackageName "naïve".toList := by decide
  refine ⟨h, fun rest => ?_⟩
  rw [(service_of_packageLine h).1, if_pos (by decide)]
  decide

/-- Names of packages that a package clause does not give: one is cut short, and one is missed, be
it the only clause or not. -/
theorem exists_package_not_read :
    (∃ name rest, Go.isPackageName name ∧ ∃ service, findService (packageLine name rest) =
      .ok service ∧ service.name <+: (Service.ofPackage name).name ∧
      service ≠ .ofPackage name) ∧
    (∃ name, Go.isPackageName name ∧
      findService (packageLine name []) = .error .missingPackage ∧
      findService (packageLine name (packageLine ['b'] [])) = .ok (.ofPackage ['b'])) := by
  refine ⟨⟨"naïve".toList, [], by decide, ⟨"Na".toList⟩, ?_⟩, "é".toList, ?_⟩
  all_goals decide

end Interface

end GoStubs
