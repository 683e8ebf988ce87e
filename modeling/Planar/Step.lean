import Planar.Kind.Capability
import Planar.Store

/-! One step of a script over a store of points, and whole scripts. A step asks
for its fields in a fixed order and fails at the first that is missing, has the
wrong form or names an empty slot. A step that fails changes nothing; one that
succeeds writes at most the slot it names as its target. -/

namespace Planar

open Text

inductive Op
  | build
  | origin
  | clone
  | copy
  | transpose
  | replace
  | drop
  | set
  | update
  | get
  | eq
  | ne
  | debug
  deriving DecidableEq

def Op.ofName? : String → Option Op
  | "new" | "literal" => some .build
  | "default" => some .origin
  | "clone" => some .clone
  | "copy" => some .copy
  | "transpose" => some .transpose
  | "update_struct" => some .replace
  | "drop" => some .drop
  | "set" => some .set
  | "update" => some .update
  | "get" => some .get
  | "eq" => some .eq
  | "ne" => some .ne
  | "debug" => some .debug
  | _ => none

inductive Reply (b : Base)
  | done
  | place (p : Place b.Val)
  | truth (holds : Bool)
  | text (s : List Char)

def Reply.toDatum {b : Base} : Reply b → Datum
  | .done => .null
  | .place p => Kind.writePlace p
  | .truth holds => .bool holds
  | .text s => .ofChars s

structure Action (k : Kind) where
  reply : Reply k.base
  change : Change k.point.Val

namespace Action

variable {k : Kind}

def put (slot : String) (p : k.point.Val) : Action k := ⟨.done, .put slot p⟩

def erase (slot : String) : Action k := ⟨.done, .erase slot⟩

def tell (reply : Reply k.base) : Action k := ⟨reply, .keep⟩

end Action

def axes (path : List Datum) : Except Fault (List Axis) :=
  match path.mapM fun d => d.text? >>= Axis.ofName? with
  | some (axis :: rest) => .ok (axis :: rest)
  | _ => .error .badPath

namespace Store

variable {k : Kind}

def fetch (s : Store k) (step : Datum) (field : String) :
    Except Fault (String × k.point.Val) := do
  let slot ← step.need field Datum.text?
  let p ← Fault.emptySlot.ifNone s[slot]?
  return (slot, p)

def act (s : Store k) (step : Datum) : Op → Except Fault (Action k)
  | .build => do
    let x ← step.need "x" k.read?
    let y ← step.need "y" k.read?
    let slot ← step.need "to" Datum.text?
    return .put slot ⟨x, y⟩
  | .origin => do
    let slot ← step.need "to" Datum.text?
    return .put slot k.point.origin
  | .clone => do
    let (_, p) ← s.fetch step "from"
    let slot ← step.need "to" Datum.text?
    return .put slot p
  | .copy => do
    if k.has .copy = false then throw .notCopy
    let (_, p) ← s.fetch step "from"
    let slot ← step.need "to" Datum.text?
    return .put slot p
  | .transpose => do
    let (_, p) ← s.fetch step "from"
    let slot ← step.need "to" Datum.text?
    return .put slot p.swap
  | .replace => do
    let (_, p) ← s.fetch step "from"
    let v ← step.need "v" k.read?
    let field ← step.need "field" Datum.text?
    let axis ← Fault.badPath.ifNone (Axis.ofName? field)
    let slot ← step.need "to" Datum.text?
    return .put slot (p.set axis v)
  | .drop => do
    let (slot, _) ← s.fetch step "slot"
    return .erase slot
  | .set => do
    let (slot, p) ← s.fetch step "slot"
    let path ← step.need "path" Datum.list?
    let v ← step.need "v" some
    let axes ← axes path
    return .put slot (← k.point.set p axes v)
  | .update => do
    let (slot, p) ← s.fetch step "slot"
    let path ← step.need "path" Datum.list?
    let v ← step.need "v" some
    let axes ← axes path
    return .put slot (← k.point.update p axes v)
  | .get => do
    let (_, p) ← s.fetch step "slot"
    let path ← step.need "path" Datum.list?
    let axes ← axes path
    let place ← Fault.badPath.ifNone (k.point.get? p axes)
    return .tell (.place place)
  | .eq => do
    let (_, p) ← s.fetch step "a"
    let (_, q) ← s.fetch step "b"
    return .tell (.truth (k.point.eq p q))
  | .ne => do
    let (_, p) ← s.fetch step "a"
    let (_, q) ← s.fetch step "b"
    return .tell (.truth (k.point.ne p q))
  | .debug => do
    let (_, p) ← s.fetch step "slot"
    return .tell (.text (k.point.text .plain p))

def action (s : Store k) (step : Datum) : Except Fault (Action k) := do
  let name ← step.need "op" Datum.text?
  let op ← Fault.unknownOp.ifNone (Op.ofName? name)
  s.act step op

end Store

structure Entry (k : Kind) where
  result : Except Fault (Reply k.base)
  store : Store k

namespace Entry

variable {k : Kind}

def toDatum (e : Entry k) : Datum :=
  let result := match e.result with
    | .ok reply => reply.toDatum
    | .error fault => fault.toDatum
  .record [("r", result), ("s", e.store.toDatum)]

end Entry

namespace Store

variable {k : Kind}

def step (s : Store k) (d : Datum) : Entry k :=
  match s.action d with
  | .ok a => ⟨.ok a.reply, s.apply a.change⟩
  | .error fault => ⟨.error fault, s⟩

def run (s : Store k) : List Datum → List (Entry k)
  | [] => []
  | d :: rest =>
    let e := s.step d
    e :: run e.store rest

def after (s : Store k) (steps : List Datum) : Store k :=
  steps.foldl (fun s d => (s.step d).store) s

@[simp] theorem length_run (s : Store k) (steps : List Datum) :
    (s.run steps).length = steps.length := by
  induction steps generalizing s with
  | nil => rfl
  | cons d rest ih => simp [run, ih]

theorem run_append (s : Store k) (steps rest : List Datum) :
    s.run (steps ++ rest) = s.run steps ++ (s.after steps).run rest := by
  induction steps generalizing s with
  | nil => rfl
  | cons d steps ih => simp [run, after, ih]

theorem store_step_of_error (s : Store k) {d : Datum} {fault : Fault}
    (h : (s.step d).result = .error fault) : (s.step d).store = s := by
  unfold step at h ⊢
  split at h
  · cases h
  · simp

end Store

end Planar
