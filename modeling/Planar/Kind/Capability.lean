import Planar.Kind.Basic

/-! The capabilities that a point inherits from its coordinates: it has one
exactly when they have it. Capabilities that no point has are listed beside. -/

namespace Planar

inductive Capability
  | clone
  | copy
  | text
  | origin
  | equality
  /-- Being always equal to itself. -/
  | reflexivity
  deriving DecidableEq

namespace Capability

def all : List Capability := [.clone, .copy, .text, .origin, .equality, .reflexivity]

def name : Capability → String
  | .clone => "Clone"
  | .copy => "Copy"
  | .text => "Debug"
  | .origin => "Default"
  | .equality => "PartialEq"
  | .reflexivity => "Eq"

/-- What no point can do, whatever its coordinates can. -/
def missing : List String := ["Display", "Hash", "PartialOrd", "Ord"]

def table (has : Capability → Bool) : Datum :=
  .record (all.map (fun c => (c.name, .bool (has c))) ++ missing.map (·, .bool false))

/-- Coordinate types of which nothing but the capabilities is known. -/
def bare : List (String × List Capability) :=
  [("opaque", []),
    ("clone_only", [.clone]),
    ("copy_only", [.clone, .copy]),
    ("debug_only", [.text]),
    ("default_only", [.origin]),
    ("partial_eq_only", [.equality]),
    ("eq_only", [.equality, .reflexivity])]

end Capability

namespace Base

def copyable : Base → Bool
  | .list _ | .text | .raw | .tree _ => false
  | _ => true

def has (b : Base) : Capability → Bool
  | .copy => b.copyable
  | .reflexivity => !b.isBinary
  | _ => true

end Base

namespace Kind

def has (k : Kind) (c : Capability) : Bool := k.base.has c

end Kind

end Planar
