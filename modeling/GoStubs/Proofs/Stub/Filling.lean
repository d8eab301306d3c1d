import GoStubs.Proofs.Template.Sources
import GoStubs.Proofs.Text.Lines
import GoStubs.Stub.Basic

/-!
# Stubs are always filled

The shelf of a run is strict, so filling a template can fail.  The two layouts of stubs are the
templates of forms, and the slots of a form are all that it asks a context for.  So neither the base
nor the wrappers of a stub can fail, and they are the texts of the forms with everything filled in
as it is.
-/

namespace GoStubs.Stub

open Template

/-- The place of a text, with another text behind it. -/
def place (name behind : String) : Slot × Text := (.place name.toList, behind.toList)

def baseForm : Form where
  start := "// Code generated by ".toList
  rest := [
    place "generator" ". DO NOT EDIT.\n\npackage ",
    place "package" "\n\nimport (\n\t\"net/url\"\n\n\t\"",
    place "client_import" "\"\n",
    (.list "package_imports".toList ['\t'] ['\n'], ")\n\n// ".toList),
    place "service" " is a base client\ntype ",
    place "service" (" struct \x7b\n\tClient *client.Client\n\x7d\n\n" ++
      "// NewAPIClient returns an api client object\n" ++
      "func NewAPIClient(ak, sk, host, service, region string) *"),
    place "service" (" \x7b\n\tc := client.NewBaseClient()\n" ++
      "\tc.ServiceInfo = client.NewServiceInfo()\n" ++
      "\tc.ServiceInfo.Host = host\n\tc.ServiceInfo.Credentials.AccessKeyID = ak\n" ++
      "\tc.ServiceInfo.Credentials.SecretAccessKey = sk\n" ++
      "\tc.ServiceInfo.Credentials.Service = service\n" ++
      "\tc.ServiceInfo.Credentials.Region = region\n" ++
      "\tc.SdkVersion = client.DefaultSdkVersion\n\n\treturn &"),
    place "service" "\x7bClient: c\x7d\n\x7d\n"]

def wrapperForm : Form where
  start := "\nfunc (p *".toList
  rest := [
    place "service" ") ",
    place "action" "(body string, query url.Values) (r ",
    place "response_type" ", statusCode int, err error) \x7b\n\taction := \"",
    place "action" "\"\n\tr = ",
    place "zero_response_expr"
      ("\n\tstatusCode, err = p.Client.CommonHandler(action, query, body, r)\n" ++
        "\treturn r, statusCode, err\n\x7d\n")]

def baseValues (settings : Settings) (package service : Text) (imports : List Text) : Values where
  texts := [("generator".toList, settings.generatorName), ("package".toList, package),
    ("service".toList, service), ("client_import".toList, settings.clientImport)]
  lists := [("package_imports".toList, imports)]

def wrapperValues (service : Text) (method : Method) : Values where
  texts := [("service".toList, service), ("action".toList, method.action),
    ("response_type".toList, method.responseType),
    ("zero_response_expr".toList, method.zeroResponse)]
  lists := []

/-! ### The sources -/

theorem textParts_toList {text : String} (h : text ≠ "") :
    textParts text.toList = [plain text] := by
  rw [textParts, if_neg (by simpa using h), plain]

theorem template_baseForm : baseForm.template = baseLayout := by
  unfold baseForm place Form.template
  simp only [List.flatMap_cons]
  repeat rw [textParts_toList (by decide)]
  rfl

theorem template_wrapperForm : wrapperForm.template = wrapperLayout := by
  unfold wrapperForm place Form.template
  simp only [List.flatMap_cons]
  repeat rw [textParts_toList (by decide)]
  rfl

-- Texts are given as characters first, which are decided much faster than strings.
theorem isReadable_baseForm : baseForm.IsReadable := by
  unfold baseForm place Form.IsReadable
  repeat rw [String.toList_append]
  repeat rw [String.toList_ofList]
  decide +kernel

theorem isReadable_wrapperForm : wrapperForm.IsReadable := by
  unfold wrapperForm place Form.IsReadable
  repeat rw [String.toList_append]
  repeat rw [String.toList_ofList]
  decide +kernel

theorem ofSource?_baseForm : ofSource? baseForm.source = some baseLayout := by
  rw [Form.ofSource?_source isReadable_baseForm, template_baseForm]

theorem ofSource?_wrapperForm : ofSource? wrapperForm.source = some wrapperLayout := by
  rw [Form.ofSource?_source isReadable_wrapperForm, template_wrapperForm]

theorem escape_shelf : shelf.rules.escape = id := rfl

/-- The shelf of a run is a new one that is strict, escapes nothing, and has the two sources. -/
theorem register_sources :
    (((Shelf.new.setStrict true).setEscape id).register baseName baseForm.source >>=
      (·.register wrapperName wrapperForm.source)) = .ok shelf :=
  Shelf.register_both _ baseName wrapperName ofSource?_baseForm ofSource?_wrapperForm

/-! ### What stubs are filled with -/

theorem isNamed_baseForm (settings : Settings) (package service : Text) (imports : List Text) :
    ∀ piece ∈ baseForm.rest, piece.1.IsNamed (baseValues settings package service imports) :=
  of_decide_eq_true rfl

theorem isNamed_wrapperForm (service : Text) (method : Method) :
    ∀ piece ∈ wrapperForm.rest, piece.1.IsNamed (wrapperValues service method) :=
  of_decide_eq_true rfl

theorem base_eq_filled (settings : Settings) (package service : Text) (imports : List Text) :
    base settings package service imports =
      .ok (baseForm.filled (baseValues settings package service imports)) := by
  have hlookup : shelf.templates.lookup baseName = some baseForm.template := by
    rw [template_baseForm]
    rfl
  have hfilled :=
    Form.fill_of_lookup hlookup (isNamed_baseForm settings package service imports)
  rwa [escape_shelf, Values.map_id] at hfilled

theorem wrapper_eq_filled (service : Text) (method : Method) :
    wrapper service method = .ok (wrapperForm.filled (wrapperValues service method)) := by
  have hlookup : shelf.templates.lookup wrapperName = some wrapperForm.template := by
    rw [template_wrapperForm]
    rfl
  have hfilled := Form.fill_of_lookup hlookup (isNamed_wrapperForm service method)
  rwa [escape_shelf, Values.map_id] at hfilled

theorem wrappers_eq_filled (service : Text) (methods : List Method) :
    wrappers service methods =
      .ok (methods.flatMap fun method => wrapperForm.filled (wrapperValues service method)) := by
  induction methods with
  | nil => rfl
  | cons method rest ih =>
      rw [wrappers, wrapper_eq_filled, ih, List.flatMap_cons]
      rfl

/-- The base of a stub never fails, whatever it is filled with. -/
theorem exists_base (settings : Settings) (package service : Text) (imports : List Text) :
    ∃ text, base settings package service imports = .ok text :=
  ⟨_, base_eq_filled settings package service imports⟩

/-- The wrappers of a stub never fail, whatever its methods are. -/
theorem exists_wrappers (service : Text) (methods : List Method) :
    ∃ text, wrappers service methods = .ok text := ⟨_, wrappers_eq_filled service methods⟩

end GoStubs.Stub
