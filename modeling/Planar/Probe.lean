import Planar.Kind.Base
import Planar.Traced

/-! Probes are coordinates that show how they are compared. A probe holds a
number and its own rules for equality and for difference, which need not agree.
The left operand's rule decides, and every comparison leaves a trace. -/

namespace Planar

inductive Rule
  | value
  | always
  | never
  | le
  | parity
  /-- Refuses to compare. -/
  | fail
  deriving DecidableEq

namespace Rule

def ofName? : String → Option Rule
  | "value" => some .value
  | "always" => some .always
  | "never" => some .never
  | "le" => some .le
  | "parity" => some .parity
  | "fail" => some .fail
  | _ => none

def apply : Rule → Int → Int → Option Bool
  | .value, i, j => some (i == j)
  | .always, _, _ => some true
  | .never, _, _ => some false
  | .le, i, j => some (i ≤ j)
  | .parity, i, j => some (i % 2 == j % 2)
  | .fail, _, _ => none

end Rule

structure Probe where
  value : Int
  eqRule : Rule
  neRule : Rule
  deriving DecidableEq

namespace Probe

def eq (p q : Probe) : Traced Bool :=
  Traced.compare ⟨.eq, p.value, q.value⟩ (p.eqRule.apply p.value q.value)

def ne (p q : Probe) : Traced Bool :=
  Traced.compare ⟨.ne, p.value, q.value⟩ (p.neRule.apply p.value q.value)

def comparator : Comparator Traced Probe := ⟨eq, ne⟩

def format : Integer.Format := { signed := true, bits := 64 }

def read? (d : Datum) : Option Probe := do
  let v ← d.field? "v" >>= Base.readInteger? format
  let eqRule ← d.field? "eq" >>= Datum.text? >>= Rule.ofName?
  let neRule ← d.field? "ne" >>= Datum.text? >>= Rule.ofName?
  return ⟨format.toInt v, eqRule, neRule⟩

end Probe

namespace Comparison

def toDatum (c : Comparison) : Datum :=
  .list [.text (match c.relation with | .eq => "eq" | .ne => "ne"),
    .ofChars (Text.Decimal.write c.left), .ofChars (Text.Decimal.write c.right)]

end Comparison

namespace Traced

def toDatum (t : Traced Bool) : Datum :=
  let outcome := match t.outcome with
    | some b => Datum.bool b
    | none => Fault.comparison.toDatum
  .record [("r", outcome), ("trace", .list (t.trace.map Comparison.toDatum))]

end Traced

def Nested.probe (relation : Relation) (n : Nat) (a b : Nested Probe n) : Traced Bool :=
  match relation with
  | .eq => (Probe.comparator.nested n).eq a b
  | .ne => (Probe.comparator.nested n).ne a b

end Planar
