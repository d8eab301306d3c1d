import GoStubs.Proofs.Interface.Service
import GoStubs.Proofs.Interface.Types
import GoStubs.Proofs.Stub.Filling

/-!
# The lines of wrappers

A wrapper has seven lines.  None of the texts that are filled in breaks a line,
so the wrappers of an interface are these lines for each method and nothing else.
-/

namespace GoStubs

open Text (unlines)

variable {service : Text} {method : Method} {methods : List Method}

namespace Stub

open Template (Form Slot)

def wrapperLines (service : Text) (method : Method) : List Text :=
  [[],
    "func (p *".toList ++ service ++ ") ".toList ++ method.action ++
      "(body string, query url.Values) (r ".toList ++ method.responseType ++
      ", statusCode int, err error) \x7b".toList,
    "\taction := \"".toList ++ method.action ++ "\"".toList,
    "\tr = ".toList ++ method.zeroResponse,
    "\tstatusCode, err = p.Client.CommonHandler(action, query, body, r)".toList,
    "\treturn r, statusCode, err".toList,
    "\x7d".toList]

set_option maxRecDepth 2000 in
theorem filled_wrapperForm (service : Text) (method : Method) :
    wrapperForm.filled (wrapperValues service method) =
      unlines (wrapperLines service method) := by
  have hservice : (Slot.place "service".toList).filled (wrapperValues service method) =
      service := rfl
  have haction : (Slot.place "action".toList).filled (wrapperValues service method) =
      method.action := rfl
  have hresponse : (Slot.place "response_type".toList).filled (wrapperValues service method) =
      method.responseType := rfl
  have hzero : (Slot.place "zero_response_expr".toList).filled (wrapperValues service method) =
      method.zeroResponse := rfl
  unfold wrapperForm place Form.filled wrapperLines
  simp only [List.flatMap_cons, hservice, haction, hresponse, hzero]
  repeat rw [String.toList_append]
  repeat rw [String.toList_ofList]
  simp only [unlines, List.flatMap_cons, List.flatMap_nil, List.append_assoc, List.cons_append,
    List.nil_append, List.append_nil]

theorem wrappers_eq (service : Text) (methods : List Method) :
    wrappers service methods = .ok (unlines (methods.flatMap (wrapperLines service))) := by
  rw [wrappers_eq_filled, unlines, List.flatMap_assoc]
  simp only [filled_wrapperForm]
  rfl

theorem length_wrapperLines (service : Text) (methods : List Method) :
    (methods.flatMap (wrapperLines service)).length = 7 * methods.length := by
  induction methods with
  | nil => rfl
  | cons method rest ih =>
      rw [List.flatMap_cons, List.length_append, ih, List.length_cons]
      have hseven : (wrapperLines service method).length = 7 := rfl
      omega

theorem not_mem_wrapperLines (hs : '\n' ∉ service) (h : method.IsTidy) :
    ∀ line ∈ wrapperLines service method, '\n' ∉ line := by
  have haction : '\n' ∉ method.action :=
    Text.not_mem_of_isWordChar (fun _ => Go.isWordChar_of_mem_isIdentifier h.action) (by decide)
  have hresponse : '\n' ∉ method.responseType := h.responseType.not_mem (by decide) (by decide)
  have hzero : '\n' ∉ method.zeroResponse := h.zeroResponse.not_mem (by decide) (by decide)
  simp only [wrapperLines, List.forall_mem_cons, List.mem_append, not_or]
  refine ⟨List.not_mem_nil, ⟨⟨⟨⟨⟨⟨?_, hs⟩, ?_⟩, haction⟩, ?_⟩, hresponse⟩, ?_⟩,
    ⟨⟨?_, haction⟩, ?_⟩, ⟨?_, hzero⟩, ?_, ?_, ?_, List.forall_mem_nil _⟩ <;>
      exact Text.not_mem_toList rfl (by decide)

theorem lines_wrappers (hs : '\n' ∉ service) (h : ∀ method ∈ methods, method.IsTidy) :
    Text.lines (unlines (methods.flatMap (wrapperLines service))) =
      methods.flatMap (wrapperLines service) ++ [[]] := by
  apply Text.lines_unlines
  intro line hm
  obtain ⟨method, hmethod, hline⟩ := List.mem_flatMap.1 hm
  exact not_mem_wrapperLines hs (h method hmethod) line hline

end Stub

namespace Interface

open Stub (wrappers wrapperLines)

variable {content marker : Text} {found : Interface}

theorem isTidy_of_forall₂ {declarations : List Text}
    (h : List.Forall₂ (fun declaration method => Method.ofDeclaration declaration = .ok method)
      declarations methods) : ∀ method ∈ methods, method.IsTidy := by
  induction h with
  | nil => exact List.forall_mem_nil _
  | cons hd _ ih => exact List.forall_mem_cons.2 ⟨Method.isTidy_of_ofDeclaration hd, ih⟩

theorem isTidy_of_ofContent (h : ofContent marker content = .ok found) :
    ∀ method ∈ found.methods, method.IsTidy := by
  obtain ⟨rest, body, after, -, -, hmethods⟩ :=
    exists_declarations_of_findMethods (findMethods_of_ofContent h)
  exact isTidy_of_forall₂ hmethods

theorem not_mem_service (h : ofContent marker content = .ok found) :
    '\n' ∉ found.service.name := by
  intro hm
  exact absurd ((name_of_findService (findService_of_ofContent h)).1 '\n' hm) (by decide)

/-- However an interface file is written, the wrappers of its methods have seven lines for each of
its declarations, in their order. -/
theorem lines_wrappers_of_ofContent (h : ofContent marker content = .ok found) :
    (∀ service, ∃ text, wrappers service found.methods = .ok text ∧
      text = unlines (found.methods.flatMap (wrapperLines service)) ∧
      ('\n' ∉ service →
        Text.lines text = found.methods.flatMap (wrapperLines service) ++ [[]]) ∧
      (found.methods.flatMap (wrapperLines service)).length = 7 * found.methods.length) ∧
    '\n' ∉ found.service.name ∧
    (∀ method ∈ found.methods, method.IsTidy ∧ ∀ c ∈ method.action, Text.isWordChar c) ∧
    ∃ rest body after, firstLine? clientHeader? true content = some rest ∧
      Go.Bracket.closing? '\x7b' '\x7d' (Go.Comment.strip rest) = some (body, after) ∧
      List.Forall₂ (fun declaration method => Method.ofDeclaration declaration = .ok method)
        (Go.Bracket.declarations body) found.methods := by
  have htidy := isTidy_of_ofContent h
  refine ⟨?_, not_mem_service h, ?_, exists_declarations_of_findMethods (findMethods_of_ofContent h)⟩
  · intro service
    exact ⟨_, Stub.wrappers_eq service found.methods, rfl,
      fun hs => Stub.lines_wrappers hs htidy, Stub.length_wrapperLines service found.methods⟩
  · intro method hm
    have haction := Go.isWord_of_isIdentifier (htidy method hm).action
    exact ⟨htidy method hm, fun c hc => Go.isWordChar_of_mem_isWord haction hc⟩

/-- A declaration over several lines, with blanks of many kinds in its types. -/
def wrappedSample : Text :=
  ("package p\ntype Client interface \x7b\n\tGet(ctx context.Context,\n\t\treq\u00a0*x.R,\n) (\n" ++
    "\t\tresp *\u2003\r\n\tx.S, err error)\n\x7d\n").toList

theorem lines_wrappers_wrappedSample :
    ∃ found, ofContent [] wrappedSample = .ok found ∧
      ∃ text, wrappers "P".toList found.methods = .ok text ∧ Text.lines text =
        ["", "func (p *P) Get(body string, query url.Values) (r * x.S, statusCode int, err error) \x7b",
          "\taction := \"Get\"", "\tr = &x.S\x7b\x7d",
          "\tstatusCode, err = p.Client.CommonHandler(action, query, body, r)",
          "\treturn r, statusCode, err", "\x7d", ""].map String.toList := by
  have hmethods : (ofContent [] wrappedSample).map Interface.methods =
      .ok [⟨"Get".toList, "*x.R".toList, "* x.S".toList, "&x.S\x7b\x7d".toList⟩] := by
    decide +kernel
  cases hfound : ofContent [] wrappedSample with
  | error error =>
      rw [hfound] at hmethods
      cases hmethods
  | ok found =>
      rw [hfound] at hmethods
      obtain ⟨text, htext, -, hlines, -⟩ := (lines_wrappers_of_ofContent hfound).1 "P".toList
      refine ⟨found, rfl, text, htext, ?_⟩
      rw [hlines (by decide), Except.ok.inj hmethods]
      rfl

end Interface

end GoStubs
