import GoStubs.Interface.Read
import GoStubs.Proofs.Except
import GoStubs.Proofs.Go.Block
import GoStubs.Proofs.Interface.Header

/-!
# The methods of an interface file

The methods that are found are those of the block behind the first header,
whatever follows the block.  Each needs a request among its parameters and a
pointer and an error among its results, and is described by them.
-/

namespace GoStubs

open Go (Signature Field)
open Text (trim)

variable {signature : Signature} {signatures : List Signature} {method : Method}

namespace Method

/-- A parameter that can be a request: its type is neither a context nor variadic. -/
def IsRequest (field : Field) : Prop :=
  field.type ≠ "context.Context".toList ∧ ¬ Field.dots <+: field.type

instance (field : Field) : Decidable (IsRequest field) := inferInstanceAs (Decidable (_ ∧ _))

/-- Results that a wrapper can return: the first one points to `pointee`, and another one, the
last, is an error. -/
def IsResponse (results : List Field) (first : Field) (pointee : Text) : Prop :=
  (∃ middle last, results = first :: middle ++ [last] ∧ last.type = "error".toList) ∧
    ∃ rest, first.type = '*' :: rest ∧ pointee = trim rest ∧ pointee ≠ []

def Wrappable (signature : Signature) : Prop :=
  (∃ request ∈ signature.params, IsRequest request) ∧
    ∃ first pointee, IsResponse signature.results first pointee

/-- What the wrapper of a method needs, as its signature tells it. -/
structure Describes (signature : Signature) (method : Method) : Prop where
  action : method.action = signature.name
  /-- The first parameter that can be a request. -/
  request : ∃ before request after, signature.params = before ++ request :: after ∧
    IsRequest request ∧ (∀ field ∈ before, ¬ IsRequest field) ∧ method.requestType = request.type
  response : ∃ first pointee, IsResponse signature.results first pointee ∧
    method.responseType = first.type ∧ method.zeroResponse = '&' :: pointee ++ "\x7b\x7d".toList

theorem isRequest_iff {field : Field} :
    IsRequest field ↔ (!field.isContext && !field.isVariadic) = true := by
  simp only [IsRequest, Field.isContext, Field.isVariadic, Bool.and_eq_true, Bool.not_eq_true',
    ← Bool.not_eq_true, beq_iff_eq, List.isPrefixOf_iff_prefix]

theorem request?_eq_some_iff {params : List Field} {request : Field} :
    request? params = some request ↔ IsRequest request ∧ ∃ before after,
      params = before ++ request :: after ∧ ∀ field ∈ before, ¬ IsRequest field := by
  rw [request?, List.find?_eq_some_iff_append]
  simp only [isRequest_iff, Bool.not_eq_true, Bool.not_eq_true']

theorem request?_isSome_iff {params : List Field} :
    (request? params).isSome ↔ ∃ request ∈ params, IsRequest request := by
  simp only [request?, List.find?_isSome, isRequest_iff]

theorem isResponse_concat_iff {front : List Field} {last first : Field} {pointee : Text} :
    IsResponse (front ++ [last]) first pointee ↔
      front.head? = some first ∧ last.type = "error".toList ∧
        ∃ rest, first.type = '*' :: rest ∧ pointee = trim rest ∧ pointee ≠ [] := by
  constructor
  · rintro ⟨⟨middle, other, h, herror⟩, hpointer⟩
    obtain ⟨rfl, hlast⟩ := List.append_inj' h rfl
    cases hlast
    exact ⟨rfl, herror, hpointer⟩
  · rintro ⟨hfirst, herror, hpointer⟩
    obtain ⟨middle, rfl⟩ := List.head?_eq_some_iff.1 hfirst
    exact ⟨⟨middle, last, rfl, herror⟩, hpointer⟩

theorem error_of_response {front : List Field} {last : Field} {found : Text × Text}
    (h : response (front ++ [last]) = .ok found) : last.type = "error".toList := by
  by_contra hne
  have hfault : response (front ++ [last]) = .error .lastNotError := by
    rw [response, List.getLast?_concat]
    exact if_pos hne
  rw [hfault] at h
  cases h

theorem response_concat (first : Field) (middle : List Field) {last : Field}
    (h : last.type = "error".toList) :
    response (first :: middle ++ [last]) =
      match first.type with
      | '*' :: rest =>
        if (trim rest).isEmpty then .error .notAPointer else .ok (trim rest, first.type)
      | _ => .error .notAPointer := by
  rw [response, List.getLast?_concat, List.dropLast_concat]
  exact if_neg (not_not_intro h)

theorem response_eq_ok_iff {results : List Field} {pointee responseType : Text} :
    response results = .ok (pointee, responseType) ↔
      ∃ first, IsResponse results first pointee ∧ responseType = first.type := by
  rcases List.eq_nil_or_concat results with rfl | ⟨front, last, rfl⟩
  · constructor
    · intro h
      cases h
    · rintro ⟨first, ⟨⟨middle, last, h, -⟩, -⟩, -⟩
      simp at h
  · simp only [List.concat_eq_append, isResponse_concat_iff]
    constructor
    · intro h
      have herror := error_of_response h
      rcases front with _ | ⟨first, middle⟩
      · have hone : response [last] = .error .onlyError := if_neg (not_not_intro herror)
        rw [List.nil_append, hone] at h
        cases h
      · rw [response_concat first middle herror] at h
        split at h
        · rename_i rest hfirst
          split at h
          · cases h
          · rename_i hne
            cases h
            exact ⟨first, ⟨rfl, herror, rest, hfirst, rfl, by simpa using hne⟩, rfl⟩
        · cases h
    · rintro ⟨first, ⟨hfirst, herror, rest, htype, rfl, hne⟩, rfl⟩
      obtain ⟨middle, rfl⟩ := List.head?_eq_some_iff.1 hfirst
      rw [response_concat first middle herror, htype]
      exact if_neg (by simpa using hne)

/-- A method is wrapped as its signature describes it. -/
theorem ofSignature_eq_ok_iff :
    ofSignature signature = .ok method ↔ Describes signature method := by
  constructor
  · intro h
    unfold ofSignature at h
    split at h
    · cases h
    · rename_i request hrequest
      split at h
      · cases h
      · rename_i pointee responseType hresponse
        cases h
        obtain ⟨hr, before, after, hparams, hbefore⟩ := request?_eq_some_iff.1 hrequest
        obtain ⟨first, hfirst, rfl⟩ := response_eq_ok_iff.1 hresponse
        exact ⟨rfl, ⟨before, request, after, hparams, hr, hbefore, rfl⟩, first, pointee, hfirst,
          rfl, rfl⟩
  · rintro ⟨haction, ⟨before, request, after, hparams, hr, hbefore, htype⟩, first, pointee, hfirst,
      hresponse, hzero⟩
    have hrequest := request?_eq_some_iff.2 ⟨hr, before, after, hparams, hbefore⟩
    have hresult := response_eq_ok_iff.2 ⟨first, hfirst, rfl⟩
    unfold ofSignature
    rw [hrequest, hresult]
    simp only [← haction, ← htype, ← hresponse, ← hzero]

theorem exists_describes_iff : (∃ method, Describes signature method) ↔ Wrappable signature := by
  constructor
  · rintro ⟨method, -, ⟨before, request, after, hparams, hr, -⟩, first, pointee, hfirst, -⟩
    exact ⟨⟨request, by simp [hparams], hr⟩, first, pointee, hfirst⟩
  · rintro ⟨hrequest, first, pointee, hfirst⟩
    obtain ⟨request, hr⟩ := Option.isSome_iff_exists.1 (request?_isSome_iff.2 hrequest)
    obtain ⟨hr, before, after, hparams, hbefore⟩ := request?_eq_some_iff.1 hr
    exact ⟨⟨signature.name, request.type, first.type, '&' :: pointee ++ "\x7b\x7d".toList⟩, rfl,
      ⟨before, request, after, hparams, hr, hbefore, rfl⟩, first, pointee, hfirst, rfl, rfl⟩

theorem ofDeclaration_eq_ok_iff {declaration : Text}
    (h : Signature.ofDeclaration declaration = .ok signature) :
    ofDeclaration declaration = .ok method ↔ Describes signature method := by
  rw [ofDeclaration, h, ← ofSignature_eq_ok_iff]

end Method

namespace Interface

/-- The declarations of a block, read as the methods that its signatures describe. -/
theorem mapM_ofDeclaration_eq_ok_iff {declarations : List Text} {found : List Method}
    (h : List.Forall₂ (fun signature declaration =>
      Signature.ofDeclaration declaration = .ok signature) signatures declarations) :
    declarations.mapM Method.ofDeclaration = .ok found ↔
      List.Forall₂ Method.Describes signatures found := by
  rw [Except.mapM_eq_ok_iff]
  induction h generalizing found with
  | nil => simp
  | cons hfirst _ ih =>
      simp only [List.forall₂_cons_left_iff, Method.ofDeclaration_eq_ok_iff hfirst, ih]

theorem exists_forall₂_describes_iff :
    (∃ found, List.Forall₂ Method.Describes signatures found) ↔
      ∀ signature ∈ signatures, Method.Wrappable signature := by
  induction signatures with
  | nil => simp
  | cons signature signatures ih =>
      rw [List.forall_mem_cons, ← ih, ← Method.exists_describes_iff]
      constructor
      · rintro ⟨_, _ | ⟨hfirst, hrest⟩⟩
        exact ⟨⟨_, hfirst⟩, _, hrest⟩
      · rintro ⟨⟨method, hfirst⟩, found, hrest⟩
        exact ⟨method :: found, .cons hfirst hrest⟩

/-- A file with a block of methods between other texts. -/
def document (before block suffix : Text) : Text :=
  before ++ "\ntype Client interface \x7b\n".toList ++ block ++ "\n\x7d".toList ++ suffix

theorem document_eq (before block suffix : Text) :
    document before block suffix =
      before ++ '\n' :: (header ++ ('\n' :: (block ++ ['\n']) ++ '}' :: suffix)) := by
  have hopen : "\ntype Client interface \x7b\n".toList = '\n' :: (header ++ ['\n']) := by decide
  have hclose : "\n\x7d".toList = ['\n', '}'] := by decide
  rw [document, hopen, hclose]
  simp only [List.append_assoc, List.cons_append, List.nil_append]

/-- Behind a text without a header, the methods that are found are the ones of the block, one for
each declaration and in their order.  They are found if all of them can be wrapped, whatever
follows the block. -/
theorem findMethods_of_block {before block : Text} (suffix : Text)
    (hbefore : firstLine? clientHeader? true before = none) (hs : Go.Declarable signatures)
    (h : Go.Block signatures block) :
    ((∃ found, findMethods (document before block suffix) = .ok found) ↔
        ∀ signature ∈ signatures, Method.Wrappable signature) ∧
      ∀ found, findMethods (document before block suffix) = .ok found →
        List.Forall₂ Method.Describes signatures found := by
  have hbody : Go.Block signatures ('\n' :: (block ++ ['\n'])) := h.append_newline.newline_cons
  have hheader : firstLine? clientHeader? true (document before block suffix) =
      some ('\n' :: (block ++ ['\n']) ++ '}' :: suffix) := by
    rw [document_eq, firstLine?_append isLocal_clientHeader? hbefore]
    exact firstLine?_header _
  have hfound (found : List Method) :
      findMethods (document before block suffix) = .ok found ↔
        List.Forall₂ Method.Describes signatures found := by
    simp only [findMethods, hheader, hbody.closing?_strip hs]
    exact mapM_ofDeclaration_eq_ok_iff (hbody.forall₂_declarations hs)
  refine ⟨?_, fun found => (hfound found).1⟩
  simp only [hfound, exists_forall₂_describes_iff]

/-- A method with no more than a request and a response. -/
def brief : Signature where
  name := "Put".toList
  params := [⟨none, "*R".toList⟩]
  results := [⟨none, "*S".toList⟩, ⟨none, "error".toList⟩]

/-- Two methods with a blank line between them, in front of an open comment and of another
header. -/
theorem findMethods_of_block_sample :
    ∃ found, findMethods (document "package p\n// a \x7b \"".toList
        (Signature.sample.print ++ ";\n\n".toList ++ brief.print)
        "\x7d /* \"\ntype Client interface \x7b".toList) = .ok found ∧
      List.Forall₂ Method.Describes [Signature.sample, brief] found := by
  have hs : Go.Declarable [Signature.sample, brief] := by
    simp only [Go.Declarable, List.forall_mem_cons]
    exact ⟨by decide +kernel, by decide +kernel, List.forall_mem_nil _⟩
  have hempty : Go.Line [] [] := .blank (List.forall_mem_nil _) List.not_mem_nil
  have hblock : Go.Block [Signature.sample, brief]
      (Signature.sample.print ++ ";\n\n".toList ++ brief.print) := by
    rw [List.append_assoc]
    exact .cons (.method (Signature.layout_print _) (by decide +kernel)) (.inr rfl)
      (.cons hempty (.inl rfl) (.cons hempty (.inl rfl)
        (.last (.method (Signature.layout_print _) (by decide +kernel)))))
  have hwrappable : ∀ signature ∈ [Signature.sample, brief], Method.Wrappable signature := by
    simp only [List.forall_mem_cons]
    refine ⟨⟨⟨_, List.mem_cons_self, by decide⟩, _, _, ⟨⟨[], _, rfl, rfl⟩, _, rfl, rfl, by decide⟩⟩,
      ⟨⟨_, List.mem_cons_self, by decide⟩, _, _, ⟨⟨[], _, rfl, rfl⟩, _, rfl, rfl, by decide⟩⟩,
      List.forall_mem_nil _⟩
  have hbefore : firstLine? clientHeader? true "package p\n// a \x7b \"".toList = none := by decide
  have hall :=
    findMethods_of_block "\x7d /* \"\ntype Client interface \x7b".toList hbefore hs hblock
  obtain ⟨found, hfound⟩ := hall.1.2 hwrappable
  exact ⟨found, hfound, hall.2 found hfound⟩

end Interface

end GoStubs
