import Std.Data.ExtTreeMap
import Planar.Kind.Basic

/-! Stores hold points in named slots. Two stores are the same when they hold
the same points in the same slots. A change is confined to one slot. -/

namespace Planar

abbrev Store (k : Kind) : Type := Std.ExtTreeMap String k.point.Val

inductive Change (α : Type)
  | keep
  | put (slot : String) (p : α)
  | erase (slot : String)

namespace Change

variable {α : Type}

def target? : Change α → Option String
  | .keep => none
  | .put slot _ => some slot
  | .erase slot => some slot

end Change

namespace Store

variable {k : Kind}

def apply (s : Store k) : Change k.point.Val → Store k
  | .keep => s
  | .put slot p => s.insert slot p
  | .erase slot => s.erase slot

def written (s : Store k) : List (String × Datum) :=
  s.toList.map fun (slot, p) => (slot, k.point.write p)

def toDatum (s : Store k) : Datum := .record s.written

@[simp] theorem apply_keep (s : Store k) : s.apply .keep = s := rfl

@[simp] theorem getElem?_apply_put (s : Store k) (slot : String) (p : k.point.Val) :
    (s.apply (.put slot p))[slot]? = some p := by
  simp [apply]

@[simp] theorem getElem?_apply_erase (s : Store k) (slot : String) :
    (s.apply (.erase slot))[slot]? = none := by
  simp [apply]

theorem getElem?_apply_of_ne (s : Store k) {change : Change k.point.Val} {slot : String}
    (h : change.target? ≠ some slot) : (s.apply change)[slot]? = s[slot]? := by
  cases change with
  | keep => rfl
  | put slot' p =>
    have h' : slot' ≠ slot := fun e => h (congrArg some e)
    simp [apply, Std.ExtTreeMap.getElem?_insert, h']
  | erase slot' =>
    have h' : slot' ≠ slot := fun e => h (congrArg some e)
    simp [apply, Std.ExtTreeMap.getElem?_erase, h']

theorem getElem?_apply_put_of_ne (s : Store k) {slot other : String} (h : slot ≠ other)
    (p : k.point.Val) : (s.apply (.put slot p))[other]? = s[other]? :=
  s.getElem?_apply_of_ne fun e => h (Option.some.inj e)

theorem apply_put_put (s : Store k) (slot : String) (p q : k.point.Val) :
    (s.apply (.put slot p)).apply (.put slot q) = s.apply (.put slot q) := by
  refine Std.ExtTreeMap.ext_getElem? fun other => ?_
  by_cases h : slot = other
  · subst h
    rw [getElem?_apply_put, getElem?_apply_put]
  · rw [getElem?_apply_put_of_ne _ h, getElem?_apply_put_of_ne _ h, getElem?_apply_put_of_ne _ h]

theorem apply_put_self {s : Store k} {slot : String} {p : k.point.Val} (h : s[slot]? = some p) :
    s.apply (.put slot p) = s := by
  refine Std.ExtTreeMap.ext_getElem? fun other => ?_
  by_cases ho : slot = other
  · subst ho
    rw [getElem?_apply_put, h]
  · exact getElem?_apply_put_of_ne s ho p

end Store

end Planar
