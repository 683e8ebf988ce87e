import Planar.Binary.Product
import Planar.Binary.Text
import Planar.Datum.Point
import Planar.Fault
import Planar.Integer
import Planar.Place
import Planar.Text.Quoted

/-! The kinds of coordinates that are not points: what their values are, when
two are equal, how they are written for exchange and for a reader, and how a
value changes in place. -/

namespace Planar

open Text

inductive Base
  | integer (f : Integer.Format)
  | binary (f : Binary.Format)
  | bool
  | char
  | unit
  | option (f : Integer.Format)
  | list (f : Integer.Format)
  | text
  /-- Text shown to a reader as it is. -/
  | raw
  | tree (f : Integer.Format)
  deriving DecidableEq

namespace Base

abbrev Val : Base → Type
  | .integer f => f.Val
  | .binary f => f.Val
  | .bool => Bool
  | .char => Char
  | .unit => Unit
  | .option f => Option f.Val
  | .list f => List f.Val
  | .text => String
  | .raw => String
  | .tree f => Tree f.Val

def eq : (b : Base) → b.Val → b.Val → Bool
  | .integer _, v, w => decide (v = w)
  | .binary f, v, w => f.eq v w
  | .bool, v, w => decide (v = w)
  | .char, v, w => decide (v = w)
  | .unit, v, w => decide (v = w)
  | .option _, v, w => decide (v = w)
  | .list _, v, w => decide (v = w)
  | .text, v, w => decide (v = w)
  | .raw, v, w => decide (v = w)
  | .tree _, v, w => Tree.eqBy (fun a b => decide (a = b)) v w

def origin : (b : Base) → b.Val
  | .integer f => (0 : BitVec f.bits)
  | .binary f => f.zero
  | .bool => false
  | .char => '\x00'
  | .unit => ()
  | .option _ => none
  | .list _ => []
  | .text => ""
  | .raw => ""
  | .tree f => .leaf (0 : BitVec f.bits)

def layout (style : Style) : (b : Base) → b.Val → Pieces
  | .integer f, v => [f.text style v]
  | .binary f, v => [f.text style v]
  | .bool, v => [style.padWord (if v then "true" else "false").toList]
  | .char, c => [Quoted.encode '\x27' [c]]
  | .unit, _ => [style.padWord "()".toList]
  | .option f, v => layoutOption style.alternate (v.map fun a => [f.text style a])
  | .list f, v => layoutList style.alternate (v.map fun a => [f.text style a])
  | .text, s => [Quoted.encode '\x22' s.toList]
  | .raw, s => [s.toList]
  | .tree f, t => t.layout style.alternate fun a => [f.text style a]

def writeInteger (f : Integer.Format) (v : f.Val) : Datum := .ofChars (f.write v)

def readInteger? (f : Integer.Format) (d : Datum) : Option f.Val :=
  d.text? >>= fun s => f.read? s.toList

def write : (b : Base) → b.Val → Datum
  | .integer f, v => writeInteger f v
  | .binary f, v => .ofChars (f.write v)
  | .bool, v => .bool v
  | .char, c => .ofChars [c]
  | .unit, _ => .null
  | .option _, none => .null
  | .option f, some v => writeInteger f v
  | .list f, v => .list (v.map (writeInteger f))
  | .text, s => .text s
  | .raw, s => .text s
  | .tree f, t => t.write (writeInteger f)

def read? : (b : Base) → Datum → Option b.Val
  | .integer f, d => readInteger? f d
  | .binary f, d => d.text? >>= fun s => f.read? s.toList
  | .bool, d => d.bool?
  | .char, d => d.text? >>= fun s => match s.toList with
    | [c] => some c
    | _ => none
  | .unit, .null => some ()
  | .unit, _ => none
  | .option _, .null => some none
  | .option f, d => some <$> readInteger? f d
  | .list f, d => d.list? >>= List.mapM (readInteger? f)
  | .text, d => d.text?
  | .raw, d => d.text?
  | .tree f, d => Tree.read? (readInteger? f) d

def get? : (b : Base) → b.Val → List Axis → Option b.Val
  | .tree _, t, path => t.get? path
  | _, v, [] => some v
  | _, _, _ :: _ => none

def modify : (b : Base) → (b.Val → Except Fault b.Val) → b.Val → List Axis → Except Fault b.Val
  | .tree _, change, t, path => t.modify .badPath change path
  | _, change, v, [] => change v
  | _, _, _, _ :: _ => .error .badPath

/-- Changes a value in place by an amount: integers wrap around, binary numbers
are multiplied, truth values are flipped, texts and lists grow at the end. Kinds
without such a change do not look at the amount. -/
def update : (b : Base) → b.Val → Datum → Except Fault b.Val
  | .integer f, v, d => (fun a : f.Val => v + a) <$> Fault.badInput.ifNone (readInteger? f d)
  | .binary f, v, d => f.mul v <$> Fault.badInput.ifNone (read? (.binary f) d)
  | .bool, v, d => (v ^^ ·) <$> Fault.badInput.ifNone d.bool?
  | .list f, v, d => (v ++ ·) <$> Fault.badInput.ifNone (read? (.list f) d)
  | .text, s, d => (s ++ ·) <$> Fault.badInput.ifNone d.text?
  | .raw, s, d => (s ++ ·) <$> Fault.badInput.ifNone d.text?
  | .tree f, .leaf v, d =>
    (fun a : f.Val => Tree.leaf (v + a)) <$> Fault.badInput.ifNone (readInteger? f d)
  | .tree _, .node _, _ => .error .unsupported
  | .char, _, _ => .error .unsupported
  | .unit, _, _ => .error .unsupported
  | .option _, _, _ => .error .unsupported

def isBinary : Base → Bool
  | .binary _ => true
  | _ => false

theorem eq_iff_eq {b : Base} (h : b.isBinary = false) (v w : b.Val) :
    b.eq v w = true ↔ v = w := by
  cases b with
  | binary f => simp [isBinary] at h
  | tree f => exact Tree.eqBy_iff_eq (fun _ _ => decide_eq_true_iff) v w
  | _ => simp [eq]

@[simp] theorem readInteger?_writeInteger (f : Integer.Format) (v : f.Val) :
    readInteger? f (writeInteger f v) = some v := by
  simp [readInteger?, writeInteger, Datum.ofChars, Datum.text?]

end Base

end Planar
