import Planar.Datum.Basic

/-! The ways in which a request can fail, and how each is named in an answer. -/

namespace Planar

inductive Fault
  /-- A field is missing, has the wrong form or holds a value out of range. -/
  | badInput
  | badPath
  | emptySlot
  | notCopy
  | unsupported
  | unknownOp
  | unknownType
  | unknownConst
  /-- A coordinate refused to be compared. -/
  | comparison
  deriving DecidableEq

namespace Fault

def code : Fault → String
  | .badInput => "bad_input"
  | .badPath => "bad_path"
  | .emptySlot => "empty_slot"
  | .notCopy => "not_copy"
  | .unsupported => "unsupported"
  | .unknownOp => "unknown_op"
  | .unknownType => "unknown_type"
  | .unknownConst => "unknown_const"
  | .comparison => "fail"

def toDatum (fault : Fault) : Datum := .record [("error", .text fault.code)]

def ifNone {α : Type u} (fault : Fault) : Option α → Except Fault α
  | some a => .ok a
  | none => .error fault

@[simp] theorem ifNone_some {α : Type u} (fault : Fault) (a : α) :
    fault.ifNone (some a) = .ok a := rfl

@[simp] theorem ifNone_none {α : Type u} (fault : Fault) :
    fault.ifNone (none : Option α) = .error fault := rfl

end Fault

namespace Datum

def need {α : Type u} (d : Datum) (name : String) (part? : Datum → Option α) : Except Fault α :=
  Fault.badInput.ifNone ((d.field? name).bind part?)

end Datum

end Planar
