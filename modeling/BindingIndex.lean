import BindingIndex.Generator
import BindingIndex.Main
import BindingIndex.Source.Session
import BindingIndex.FileTree.Listing
import BindingIndex.Config.Draft
import BindingIndex.Proofs.Text.CodePointOrder
import BindingIndex.Proofs.IndexTable.Canonical
import BindingIndex.Proofs.IndexTable.Rank
import BindingIndex.Proofs.ClassText.Layout
import BindingIndex.Proofs.Text.Splitting
import BindingIndex.Proofs.ClassText.Reading
import BindingIndex.Proofs.ClassText.Rendered
import BindingIndex.Proofs.FileTree.Walk
import BindingIndex.Proofs.ClassFile.Rewrite
import BindingIndex.Proofs.Path.NormalForm
import BindingIndex.Proofs.PropertyList.Written
import BindingIndex.Proofs.Config.Resolved
import BindingIndex.Proofs.CommandLine.Delivery
import BindingIndex.Proofs.CommandLine.SameNames
import BindingIndex.Proofs.Source.Unwinding
import BindingIndex.Proofs.Source.OpenBlocks
import BindingIndex.Proofs.Source.LineFeeds
import BindingIndex.Proofs.Generator.FirstSuccess
import BindingIndex.Proofs.FileTree.Growth
import BindingIndex.Proofs.FileTree.Placement
import BindingIndex.Proofs.FileTree.Overlong
import BindingIndex.Proofs.ClassFile.Frame
import BindingIndex.Proofs.ClassFile.Target
import BindingIndex.Proofs.ClassFile.Sequence
import BindingIndex.Proofs.ClassFile.Confinement
import BindingIndex.Proofs.Results
import BindingIndex.Proofs.Text.Decoding
import BindingIndex.Proofs.PropertyList.RoundTrip
import BindingIndex.Proofs.PropertyList.Joined
import BindingIndex.Proofs.Config.Valid
import BindingIndex.Proofs.Config.Precedence
import BindingIndex.Proofs.Config.Projection
import BindingIndex.Proofs.Console.Styles
import BindingIndex.Proofs.Console.Enclosed
import BindingIndex.Proofs.Console.Tables
import BindingIndex.Proofs.Text.Columns
import BindingIndex.Proofs.Console.Setting
import BindingIndex.Proofs.Console.Literal
import BindingIndex.Proofs.CommandLine.Completed
import BindingIndex.Proofs.CommandLine.FailedRun
import BindingIndex.Proofs.CommandLine.Preview
import BindingIndex.Proofs.CommandLine.Repeat
import BindingIndex.Proofs.CommandLine.Specs
import BindingIndex.Proofs.CommandLine.Forecast
import BindingIndex.Proofs.Yaml.Readable
import BindingIndex.Proofs.CommandLine.BadConfig
import BindingIndex.Proofs.CommandLine.BadList
import BindingIndex.Proofs.CommandLine.Consent
import BindingIndex.Proofs.CommandLine.Reported
import BindingIndex.Proofs.Config.Findings
import BindingIndex.Proofs.Config.Independence
import BindingIndex.Proofs.FileTree.Subtree
import BindingIndex.Proofs.Config.Relocation
import BindingIndex.Proofs.CommandLine.NewConfig
