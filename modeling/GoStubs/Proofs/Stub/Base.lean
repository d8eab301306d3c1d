import GoStubs.Proofs.Stub.Filling

/-!
# The lines of a base

A base has a header with the package clause, an import block with a line for
each import, and the lines that declare the struct and its constructor.
-/

namespace GoStubs

open Text (unlines)

namespace Stub

open Template

/-- The lines in front of the imports of an interface file. -/
def headerLines (settings : Settings) (package : Text) : List Text :=
  ["// Code generated by ".toList ++ settings.generatorName ++ ". DO NOT EDIT.".toList, [],
    "package ".toList ++ package, [], "import (".toList, "\t\"net/url\"".toList, [],
    "\t\"".toList ++ settings.clientImport ++ "\"".toList]

def importLines (imports : List Text) : List Text := imports.map ('\t' :: ·)

def constructor : Text := "NewAPIClient".toList

def typeLine (service : Text) : Text := "type ".toList ++ (service ++ " struct \x7b".toList)

def constructorLine (service : Text) : Text :=
  "func ".toList ++ (constructor ++ ("(ak, sk, host, service, region string) *".toList ++ service ++
    " \x7b".toList))

/-- The lines between the one that declares the struct and the one of the constructor. -/
def structLines : List Text :=
  ["\tClient *client.Client".toList, "\x7d".toList, [],
    "// NewAPIClient returns an api client object".toList]

def constructorLines (service : Text) : List Text :=
  ["\tc := client.NewBaseClient()".toList, "\tc.ServiceInfo = client.NewServiceInfo()".toList,
    "\tc.ServiceInfo.Host = host".toList, "\tc.ServiceInfo.Credentials.AccessKeyID = ak".toList,
    "\tc.ServiceInfo.Credentials.SecretAccessKey = sk".toList,
    "\tc.ServiceInfo.Credentials.Service = service".toList,
    "\tc.ServiceInfo.Credentials.Region = region".toList,
    "\tc.SdkVersion = client.DefaultSdkVersion".toList, [],
    "\treturn &".toList ++ service ++ "\x7bClient: c\x7d".toList, "\x7d".toList]

/-- The lines behind the import block. -/
def declarationLines (service : Text) : List Text :=
  [[], "// ".toList ++ service ++ " is a base client".toList] ++ typeLine service :: (structLines ++
    constructorLine service :: constructorLines service)

theorem unlines_importLines (imports : List Text) :
    unlines (importLines imports) = imports.flatMap fun text => '\t' :: (text ++ ['\n']) := by
  rw [unlines, importLines, List.flatMap_map]
  rfl

-- The form and the lines are cut at different places, so they are compared by their characters.
set_option maxRecDepth 8000 in
theorem filled_baseForm (settings : Settings) (package service : Text) (imports : List Text) :
    baseForm.filled (baseValues settings package service imports) =
      unlines (headerLines settings package ++ importLines imports ++
        ")".toList :: declarationLines service) := by
  have hgenerator : (Slot.place "generator".toList).filled
      (baseValues settings package service imports) = settings.generatorName := rfl
  have hpackage : (Slot.place "package".toList).filled
      (baseValues settings package service imports) = package := rfl
  have hclient : (Slot.place "client_import".toList).filled
      (baseValues settings package service imports) = settings.clientImport := rfl
  have himports : (Slot.list "package_imports".toList ['\t'] ['\n']).filled
      (baseValues settings package service imports) = unlines (importLines imports) :=
    (unlines_importLines imports).symm
  have hservice : (Slot.place "service".toList).filled
      (baseValues settings package service imports) = service := rfl
  unfold baseForm place Form.filled headerLines declarationLines typeLine constructorLine
    structLines constructorLines constructor
  simp only [List.flatMap_cons, hgenerator, hpackage, hclient, himports, hservice,
    Text.unlines_append]
  repeat rw [String.toList_append]
  repeat rw [String.toList_ofList]
  simp only [unlines, List.flatMap_cons, List.flatMap_nil, List.append_assoc, List.cons_append,
    List.nil_append, List.append_nil]

theorem base_eq (settings : Settings) (package service : Text) (imports : List Text) :
    base settings package service imports =
      .ok (unlines (headerLines settings package ++ importLines imports ++
        ")".toList :: declarationLines service)) := by
  rw [base_eq_filled, filled_baseForm]

/-- Whatever the texts look like, a stub is its two sources with the texts in their places, and with
a line for each import and no other one.  So the wrappers of some methods and of more methods are
those of both, one behind the other.  The sources are registered on a shelf that would leave out
what is not there and escape every text, if it were not set otherwise. -/
theorem filled_verbatim (settings : Settings) (package service : Text) (imports : List Text)
    (methods more : List Method) :
    (ofSource? baseForm.source = some baseLayout ∧
      ofSource? wrapperForm.source = some wrapperLayout) ∧
    (((Shelf.new.setStrict true).setEscape id).register baseName baseForm.source >>=
      (·.register wrapperName wrapperForm.source)) = .ok shelf ∧
    base settings package service imports =
      .ok (baseForm.filled (baseValues settings package service imports)) ∧
    (∃ front back, front.getLast? = some '\n' ∧ ∀ imports,
      base settings package service imports =
        .ok (front ++ (imports.flatMap fun text => '\t' :: (text ++ ['\n'])) ++ back)) ∧
    wrappers service methods =
      .ok (methods.flatMap fun method => wrapperForm.filled (wrapperValues service method)) ∧
    ∃ first second, wrappers service methods = .ok first ∧ wrappers service more = .ok second ∧
      wrappers service (methods ++ more) = .ok (first ++ second) := by
  refine ⟨⟨ofSource?_baseForm, ofSource?_wrapperForm⟩, register_sources, base_eq_filled .., ?_,
    wrappers_eq_filled .., _, _, wrappers_eq_filled .., wrappers_eq_filled .., ?_⟩
  · refine ⟨unlines (headerLines settings package),
      unlines (")".toList :: declarationLines service), Text.getLast?_unlines (List.cons_ne_nil _ _),
      fun imports => ?_⟩
    rw [base_eq, Text.unlines_append, Text.unlines_append, unlines_importLines]
  · rw [wrappers_eq_filled, List.flatMap_append]

end Stub

end GoStubs
