import GoStubs.Template.Shelf

/-!
# The layout of stubs

A stub is a Go file with a base (header, package clause, imports, struct and
constructor) and one wrapper for each method of the interface. Both layouts are
templates on the shelf that every run starts with.
-/

namespace GoStubs.Stub

open Template (Part)

def plain (text : String) : Part := .text text.toList

def hole (field : String) : Part := .value (.field field.toList)

def baseLayout : Template :=
  [plain "// Code generated by ", hole "generator", plain ". DO NOT EDIT.\n\npackage ",
    hole "package", plain "\n\nimport (\n\t\"net/url\"\n\n\t\"", hole "client_import", plain "\"\n",
    .each (.field "package_imports".toList) [plain "\t", .value .this, plain "\n"],
    plain ")\n\n// ", hole "service", plain " is a base client\ntype ", hole "service",
    plain (" struct \x7b\n\tClient *client.Client\n\x7d\n\n" ++
      "// NewAPIClient returns an api client object\n" ++
      "func NewAPIClient(ak, sk, host, service, region string) *"),
    hole "service",
    plain (" \x7b\n\tc := client.NewBaseClient()\n\tc.ServiceInfo = client.NewServiceInfo()\n" ++
      "\tc.ServiceInfo.Host = host\n\tc.ServiceInfo.Credentials.AccessKeyID = ak\n" ++
      "\tc.ServiceInfo.Credentials.SecretAccessKey = sk\n" ++
      "\tc.ServiceInfo.Credentials.Service = service\n" ++
      "\tc.ServiceInfo.Credentials.Region = region\n" ++
      "\tc.SdkVersion = client.DefaultSdkVersion\n\n\treturn &"),
    hole "service", plain "\x7bClient: c\x7d\n\x7d\n"]

def wrapperLayout : Template :=
  [plain "\nfunc (p *", hole "service", plain ") ", hole "action",
    plain "(body string, query url.Values) (r ", hole "response_type",
    plain ", statusCode int, err error) \x7b\n\taction := \"", hole "action", plain "\"\n\tr = ",
    hole "zero_response_expr",
    plain ("\n\tstatusCode, err = p.Client.CommonHandler(action, query, body, r)\n" ++
      "\treturn r, statusCode, err\n\x7d\n")]

def baseName : Text := "client/base".toList

def wrapperName : Text := "client/function".toList

/-- The shelf of a run. A stub is no text of a markup language, so nothing is escaped in it, and
what a layout asks for has to be there. -/
def shelf : Shelf :=
  (((Shelf.new.setStrict true).setEscape id).put baseName baseLayout).put wrapperName wrapperLayout

end GoStubs.Stub
