import Planar.Binary.Format
import Planar.Binary.Product
import Planar.Binary.Shortest
import Planar.Binary.Text
import Planar.Comparator
import Planar.Datum.Basic
import Planar.Datum.Point
import Planar.Fault
import Planar.Integer
import Planar.Kind.Base
import Planar.Kind.Basic
import Planar.Kind.Capability
import Planar.Kind.Names
import Planar.Landmark
import Planar.Layout
import Planar.Matrix
import Planar.Nested
import Planar.Place
import Planar.Point
import Planar.Probe
import Planar.Request
import Planar.Step
import Planar.Store
import Planar.Text.Indent
import Planar.Text.Numeral
import Planar.Text.Quoted
import Planar.Text.Style
import Planar.Text.Unprintable
import Planar.Traced
import Planar.Tree
import Planar.Proofs.Dependence
import Planar.Proofs.Separable.Basic
import Planar.Proofs.Separable.Number
import Planar.Proofs.Separable.Quoted
import Planar.Proofs.Separable.Layout
import Planar.Proofs.Separable.Kind
import Planar.Proofs.Amount
import Planar.Proofs.Blocks
import Planar.Proofs.Exchange
import Planar.Proofs.Indented
import Planar.Proofs.Laws
import Planar.Proofs.Leaf
import Planar.Proofs.Place
import Planar.Proofs.Observation
import Planar.Proofs.Printed.OneLine
import Planar.Proofs.Printed.Outline
import Planar.Proofs.Printed.Joined
import Planar.Proofs.Printed.Template
import Planar.Proofs.Step.Meaning
import Planar.Proofs.Written.Record
import Planar.Proofs.Written.RoundTrip
import Planar.Proofs.Step.Footprint
import Planar.Proofs.Step.Slice
import Planar.Proofs.Step.Atomic
import Planar.Proofs.Step.Lens
import Planar.Proofs.Step.Copy
import Planar.Proofs.Step.Accumulate
import Planar.Proofs.Step.Alike
import Planar.Proofs.Step.Interchange
import Planar.Proofs.Written.Equality
import Planar.Proofs.Written.Rebuild
