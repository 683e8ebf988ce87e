import Planar.Landmark
import Planar.Matrix
import Planar.Probe
import Planar.Step

/-! Requests and their answers. A request names an operation and, except for
the landmarks, a type of coordinates. Each operation answers from the fields of
the request alone. -/

namespace Planar.Request

open Text

def wish {α : Type} (d : Datum) (name : String) (default : α) (part? : Datum → Option α) :
    Option α :=
  match d.field? name with
  | none => some default
  | some part => part? part

def letterCase? : String → Option LetterCase
  | "lower" => some .lower
  | "upper" => some .upper
  | _ => none

def maxWidth : Nat := 1000

def width? (d : Datum) : Option Nat := d.nat?.filter (· ≤ maxWidth)

def style? (d : Datum) : Option Style := do
  if !d.isRecord then none
  let alternate ← wish d "alt" false Datum.bool?
  let plus ← wish d "plus" false Datum.bool?
  let zero ← wish d "zero" false Datum.bool?
  let hex ← wish d "hex" none fun part => some <$> (part.text? >>= letterCase?)
  let width ← wish d "width" 0 width?
  return { alternate, plus, zero, hex, width }

def run (k : Kind) (d : Datum) : Except Fault Datum := do
  let steps ← d.need "steps" Datum.list?
  return .list (((∅ : Store k).run steps).map Entry.toDatum)

def matrix (k : Kind) (d : Datum) : Except Fault Datum := do
  let points ← d.need "points" fun part => part.list? >>= List.mapM k.point.read?
  return .record [("eq", Matrix.toDatum (Matrix.compare k.point.eq points)),
    ("ne", Matrix.toDatum (Matrix.compare k.point.ne points))]

def debug (k : Kind) (d : Datum) : Except Fault Datum := do
  let p ← d.need "point" k.point.read?
  let style ← d.need "fmt" style?
  return .record [("text", .ofChars (k.point.text style p))]

def landmark (d : Datum) : Except Fault Datum := do
  let name ← d.need "name" Datum.text?
  let l ← Fault.unknownConst.ifNone (Landmark.named.lookup name)
  return l.toDatum

def probeDepths : List (String × Nat) := [("odd", 1), ("point_odd", 2), ("point_point_odd", 3)]

def probe (type : String) (d : Datum) : Except Fault Datum := do
  let n ← Fault.unknownType.ifNone (probeDepths.lookup type)
  let a ← d.need "a" (Nested.read? Probe.read? n)
  let b ← d.need "b" (Nested.read? Probe.read? n)
  let negated ← d.need "neg" Datum.bool?
  return (Nested.probe (if negated then .ne else .eq) n a b).toDatum

def onKind (op : String) (k : Kind) (d : Datum) : Except Fault Datum :=
  match op with
  | "traits" => .ok (Capability.table k.has)
  | "run" => run k d
  | "matrix" => matrix k d
  | "debug" => debug k d
  | _ => .error .unknownOp

def onBare (op : String) (capabilities : List Capability) : Except Fault Datum :=
  match op with
  | "traits" => .ok (Capability.table (capabilities.contains ·))
  | _ => .error .unsupported

def onType (op type : String) (d : Datum) : Except Fault Datum :=
  match op with
  | "eq_trace" => probe type d
  | _ =>
    match Kind.ofName? type, Capability.bare.lookup type with
    | some k, _ => onKind op k d
    | none, some capabilities => onBare op capabilities
    | none, none => .error .unknownType

def answer? (d : Datum) : Except Fault Datum := do
  let op ← d.need "op" Datum.text?
  match op with
  | "const" => landmark d
  | _ => onType op (← d.need "t" Datum.text?) d

def answer (d : Datum) : Datum :=
  match answer? d with
  | .ok reply => reply
  | .error fault => fault.toDatum

theorem answer?_of_kind {d : Datum} {op type : String} {k : Kind}
    (hop : d.need "op" Datum.text? = .ok op) (hconst : op ≠ "const") (htrace : op ≠ "eq_trace")
    (ht : d.need "t" Datum.text? = .ok type) (hk : Kind.ofName? type = some k) :
    answer? d = onKind op k d := by
  simp only [answer?, hop, ht, bind, Except.bind, onType, hk]

end Planar.Request
