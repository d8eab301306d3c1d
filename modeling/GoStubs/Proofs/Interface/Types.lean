import GoStubs.Proofs.Interface.Methods
import GoStubs.Proofs.Text.Spaced

/-!
# The types in a signature

However a declaration is written, the types that are read from it are collapsed,
so they stay on one line of a stub.  A method takes its texts from them.
-/

namespace GoStubs

open Text (IsSpaced collapse trim)

namespace Go

variable {text list : Text} {fields : List Field} {signature : Signature}

/-- The types of all fields are spaced. -/
def HaveSpacedTypes (fields : List Field) : Prop := ∀ field ∈ fields, IsSpaced field.type

theorem haveSpacedTypes_map (make : Text → Field) (h : ∀ text, (make text).type = collapse text)
    (texts : List Text) : HaveSpacedTypes (texts.map make) := by
  intro field hm
  obtain ⟨text, -, rfl⟩ := List.mem_map.1 hm
  rw [h]
  exact Text.isSpaced_collapse text

theorem haveSpacedTypes_of_ofGroups {entries : List Field.Entry} {pending : List Text}
    (h : Field.ofGroups list pending entries = .ok fields) : HaveSpacedTypes fields := by
  induction entries generalizing pending fields with
  | nil =>
      rw [Field.ofGroups] at h
      split at h
      · cases h
        exact List.forall_mem_nil _
      · cases h
  | cons entry rest ih =>
      cases entry with
      | named name type =>
          simp only [Field.ofGroups, Except.bind_eq_ok_iff, Except.pure_eq_ok_iff] at h
          obtain ⟨later, hlater, rfl⟩ := h
          refine List.forall_mem_append.2 ⟨?_, ih hlater⟩
          intro field hm
          obtain ⟨name, -, rfl⟩ := List.mem_map.1 hm
          exact Text.isSpaced_collapse type
      | bare text =>
          rw [Field.ofGroups] at h
          split at h
          · exact ih h
          · cases h

theorem haveSpacedTypes_of_ofList (h : Field.ofList list = .ok fields) :
    HaveSpacedTypes fields := by
  unfold Field.ofList at h
  dsimp only at h
  split at h
  · cases h
    exact haveSpacedTypes_map _ (fun _ => rfl) _
  · exact haveSpacedTypes_of_ofGroups h

theorem haveSpacedTypes_of_resultList (h : Signature.resultList text = .ok fields) :
    HaveSpacedTypes fields := by
  unfold Signature.resultList at h
  split at h
  · cases h
    exact List.forall_mem_nil _
  · split at h
    · cases h
    · dsimp only at h
      split at h
      · exact haveSpacedTypes_of_ofList h
      · cases h
  · split at h
    · cases h
    · cases h
      exact haveSpacedTypes_map (⟨none, collapse ·⟩) (fun _ => rfl) [_]

/-- A declaration is read as a signature with a word for a name and with spaced types. -/
theorem spaced_of_ofDeclaration (h : Signature.ofDeclaration text = .ok signature) :
    isIdentifier signature.name ∧ HaveSpacedTypes signature.params ∧
      HaveSpacedTypes signature.results := by
  unfold Signature.ofDeclaration at h
  dsimp only at h
  split at h
  · cases h
  · rename_i hname
    split at h
    · split at h
      · cases h
      · simp only [Except.bind_eq_ok_iff, Except.pure_eq_ok_iff] at h
        obtain ⟨params, hparams, results, hresults, rfl⟩ := h
        exact ⟨by simpa using hname, haveSpacedTypes_of_ofList hparams,
          haveSpacedTypes_of_resultList hresults⟩
    · cases h

end Go

namespace Method

variable {method : Method} {signature : Go.Signature} {declaration : Text}

/-- The texts of a method that can stand in a wrapper: a word, and types without a break in
them. -/
structure IsTidy (method : Method) : Prop where
  action : Go.isIdentifier method.action
  requestType : IsSpaced method.requestType
  responseType : IsSpaced method.responseType
  zeroResponse : IsSpaced method.zeroResponse
  /-- The zero value is that of what the response points to. -/
  pointee : ∃ rest, method.responseType = '*' :: rest ∧
    method.zeroResponse = '&' :: trim rest ++ "\x7b\x7d".toList

theorem Describes.isTidy (h : Describes signature method) (hn : Go.isIdentifier signature.name)
    (hp : Go.HaveSpacedTypes signature.params) (hr : Go.HaveSpacedTypes signature.results) :
    IsTidy method := by
  obtain ⟨before, request, after, hparams, -, -, hrequest⟩ := h.request
  obtain ⟨first, pointee, ⟨⟨middle, last, hresults, -⟩, rest, hfirst, rfl, -⟩, hresponse, hzero⟩ :=
    h.response
  have hspaced : IsSpaced first.type := hr first (by simp [hresults])
  have hamp : IsSpaced ['&'] := Text.isSpaced_of_not_isBlank (by decide)
  have hbraces : IsSpaced "\x7b\x7d".toList := Text.isSpaced_of_not_isBlank (by decide)
  refine ⟨h.action ▸ hn, ?_, hresponse ▸ hspaced, ?_, rest, hresponse.trans hfirst, hzero⟩
  · rw [hrequest]
    exact hp request (by simp [hparams])
  · rw [hfirst] at hspaced
    rw [hzero]
    exact (hamp.append (hspaced.trim (List.suffix_cons '*' rest).isInfix)).append hbraces

theorem isTidy_of_ofDeclaration (h : ofDeclaration declaration = .ok method) : IsTidy method := by
  cases hs : Go.Signature.ofDeclaration declaration with
  | error cause =>
      rw [ofDeclaration, hs] at h
      cases h
  | ok signature =>
      obtain ⟨hname, hparams, hresults⟩ := Go.spaced_of_ofDeclaration hs
      exact ((ofDeclaration_eq_ok_iff hs).1 h).isTidy hname hparams hresults

end Method

namespace Interface

variable {content marker : Text} {methods : List Method} {found : Interface}

/-- The methods that are found are the declarations of the block behind a header, one for each
of them and in their order. -/
theorem exists_declarations_of_findMethods (h : findMethods content = .ok methods) :
    ∃ rest body after, firstLine? clientHeader? true content = some rest ∧
      Go.Bracket.closing? '\x7b' '\x7d' (Go.Comment.strip rest) = some (body, after) ∧
      List.Forall₂ (fun declaration method => Method.ofDeclaration declaration = .ok method)
        (Go.Bracket.declarations body) methods := by
  unfold findMethods at h
  split at h
  · cases h
  · next rest hrest =>
      split at h
      · cases h
      · next body after hbody =>
          exact ⟨rest, body, after, hrest, hbody, Except.mapM_eq_ok_iff.1 h⟩

theorem findMethods_of_ofContent (h : ofContent marker content = .ok found) :
    findMethods content = .ok found.methods := by
  simp only [ofContent, Except.bind_eq_ok_iff, Except.pure_eq_ok_iff] at h
  obtain ⟨service, -, methods, hmethods, rfl⟩ := h
  exact hmethods

end Interface

end GoStubs
