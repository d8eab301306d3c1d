import GoStubs.Main
import GoStubs.Interface.Read
import GoStubs.Settings.File
import GoStubs.Stub.Basic
import GoStubs.Project.Run
import GoStubs.Command.Program
import GoStubs.Command.Reach
import GoStubs.Proofs.Disk.Growth
import GoStubs.Proofs.Stub.Filling
import GoStubs.Proofs.Project.Generate
import GoStubs.Proofs.Project.Scan
import GoStubs.Proofs.Project.Completion
import GoStubs.Proofs.Project.Outputs
import GoStubs.Proofs.Interface.Methods
import GoStubs.Proofs.Go.Insertion
import GoStubs.Proofs.Go.Token
import GoStubs.Proofs.Interface.Comments
import GoStubs.Proofs.Project.Policies
import GoStubs.Proofs.Interface.Lookup
import GoStubs.Proofs.Disk.Names
import GoStubs.Proofs.Disk.Nested
import GoStubs.Proofs.Project.Place
import GoStubs.Proofs.Interface.Service
import GoStubs.Proofs.Project.Independence
import GoStubs.Proofs.Path.Resolution
import GoStubs.Proofs.Project.Containment
import GoStubs.Proofs.Project.Sources
import GoStubs.Proofs.Project.Prediction
import GoStubs.Proofs.Disk.Overlay
import GoStubs.Proofs.Project.Repetition
import GoStubs.Proofs.Project.Restoration
import GoStubs.Proofs.Disk.Additions
import GoStubs.Proofs.Project.Frame
import GoStubs.Proofs.Disk.Listing
import GoStubs.Proofs.Project.Traversal
import GoStubs.Proofs.Interface.Types
import GoStubs.Proofs.Text.Lines
import GoStubs.Proofs.Stub.Wrappers
import GoStubs.Proofs.Stub.Base
import GoStubs.Proofs.Stub.Names
import GoStubs.Proofs.Project.Packages
import GoStubs.Proofs.Project.Imports
import GoStubs.Proofs.Json.Colour
import GoStubs.Proofs.Command.Printed
import GoStubs.Proofs.Go.Reading
import GoStubs.Proofs.Go.Closing
import GoStubs.Proofs.Go.Separation
import GoStubs.Proofs.Go.Grouping
import GoStubs.Proofs.Go.Balance
import GoStubs.Proofs.Project.ImportOrder
import GoStubs.Proofs.Path.Components
import GoStubs.Proofs.Project.Faults
import GoStubs.Proofs.Project.ImportPath
import GoStubs.Proofs.Interface.PackageClause
import GoStubs.Proofs.Text.Words
import GoStubs.Proofs.Project.ManifestComments
import GoStubs.Proofs.Project.ManifestLines
import GoStubs.Proofs.Go.PackageName
import GoStubs.Proofs.Json.Spelling
import GoStubs.Proofs.Json.Shown
import GoStubs.Proofs.Command.Addressed
import GoStubs.Proofs.Template.Form
import GoStubs.Proofs.Template.Sources
