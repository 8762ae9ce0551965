import CellMemory.Address
import CellMemory.AddressSpace
import CellMemory.CommandLine
import CellMemory.Decoder
import CellMemory.Document.Decoder
import CellMemory.Document.Fields
import CellMemory.Document.Graph
import CellMemory.Document.Literal
import CellMemory.Document.Reader
import CellMemory.Document.Settings
import CellMemory.Document.Value
import CellMemory.Double
import CellMemory.Event
import CellMemory.Expr.Basic
import CellMemory.Expr.Symbols
import CellMemory.Fault
import CellMemory.Gep.Basic
import CellMemory.Gep.Offset
import CellMemory.Graph.Basic
import CellMemory.Graph.Record
import CellMemory.Graph.Source
import CellMemory.Graph.Variable
import CellMemory.Id
import CellMemory.Layout.Slots
import CellMemory.Layout.Table
import CellMemory.Layout.Ty
import CellMemory.Main
import CellMemory.Memory
import CellMemory.Numeral.Basic
import CellMemory.Numeral.Exact
import CellMemory.Proofs.AddressSpace.Faithfulness
import CellMemory.Proofs.AddressSpace.Placement
import CellMemory.Proofs.CommandLine.Course
import CellMemory.Proofs.CommandLine.Printing
import CellMemory.Proofs.Expr.Evaluation
import CellMemory.Proofs.Expr.Folding
import CellMemory.Proofs.Expr.Rendering
import CellMemory.Proofs.Gep.Exactness
import CellMemory.Proofs.Gep.Flattening
import CellMemory.Proofs.Graph.Built
import CellMemory.Proofs.Graph.Chain
import CellMemory.Proofs.Graph.Coherence
import CellMemory.Proofs.Graph.Congruence
import CellMemory.Proofs.Graph.Derivation
import CellMemory.Proofs.Graph.Enrolment
import CellMemory.Proofs.Graph.Growth
import CellMemory.Proofs.Graph.Loading
import CellMemory.Proofs.Graph.Renaming
import CellMemory.Proofs.Graph.Request
import CellMemory.Proofs.Graph.Target
import CellMemory.Proofs.Layout.Expansion
import CellMemory.Proofs.Layout.Leaves
import CellMemory.Proofs.Layout.Measure
import CellMemory.Proofs.Layout.Tabulation
import CellMemory.Proofs.Memory.Binding
import CellMemory.Proofs.Memory.Coherence
import CellMemory.Proofs.Memory.Constants
import CellMemory.Proofs.Memory.Introduction
import CellMemory.Proofs.Memory.Locality
import CellMemory.Proofs.Report.Reading
import CellMemory.Proofs.Session.Aliasing
import CellMemory.Proofs.Session.Coherence
import CellMemory.Proofs.Session.Construction
import CellMemory.Proofs.Session.Contents
import CellMemory.Proofs.Session.Display
import CellMemory.Proofs.Session.Effect
import CellMemory.Proofs.Session.Failure
import CellMemory.Proofs.Session.Housing
import CellMemory.Proofs.Session.Identity
import CellMemory.Proofs.Session.Knowledge
import CellMemory.Proofs.Session.Log
import CellMemory.Proofs.Session.Naming
import CellMemory.Proofs.Session.Rebinding
import CellMemory.Proofs.Session.Reordering
import CellMemory.Proofs.Session.Reporting
import CellMemory.Proofs.Session.Resolution
import CellMemory.Proofs.Session.Run
import CellMemory.Proofs.Session.Showing
import CellMemory.Proofs.Session.Transparency
import CellMemory.Proofs.Session.Unknowns
import CellMemory.Proofs.Store.Frame
import CellMemory.Proofs.Store.Naming
import CellMemory.Report
import CellMemory.Session.Basic
import CellMemory.Session.Operation
import CellMemory.Session.Start
import CellMemory.Settings
import CellMemory.Store
