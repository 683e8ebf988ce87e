import Planar.Proofs.Step.Meaning
import Mathlib.Data.List.Basic

/-! The footprint of a step: the slots that it names, to read from them or to
write to one of them. A step comes to the same on two stores that agree on the
slots it reads, and it leaves every slot but its target as it was. -/

namespace Planar

namespace Op

def sources : Op → List String
  | .build | .origin => []
  | .clone | .copy | .transpose | .replace => ["from"]
  | .drop | .set | .update | .get | .debug => ["slot"]
  | .eq | .ne => ["a", "b"]

def target? : Op → Option String
  | .build | .origin | .clone | .copy | .transpose | .replace => some "to"
  | .drop | .set | .update => some "slot"
  | .get | .eq | .ne | .debug => none

end Op

namespace Datum

def reads (d : Datum) : List String := (d.op?.map Op.sources).getD [] |>.filterMap d.name?

def target? (d : Datum) : Option String := (d.op?.bind Op.target?).bind d.name?

def slots (d : Datum) : List String := d.reads ++ d.target?.toList

theorem reads_of_op {d : Datum} {op : Op} (hop : d.op? = some op) :
    d.reads = op.sources.filterMap d.name? := by
  simp [reads, hop]

theorem target?_of_op {d : Datum} {op : Op} (hop : d.op? = some op) :
    d.target? = op.target?.bind d.name? := by
  simp [target?, hop]

end Datum

namespace Store

variable {k : Kind} {s t : Store k} {d : Datum} {op : Op} {a : Action k}

theorem fetch_congr {field : String}
    (h : ∀ slot ∈ d.name? field, s[slot]? = t[slot]?) : s.fetch d field = t.fetch d field := by
  cases hname : d.name? field with
  | none =>
    have hneed : d.need field Datum.text? = .error .badInput := congrArg Fault.badInput.ifNone hname
    rw [fetch, fetch, hneed]
    rfl
  | some slot =>
    have hneed : d.need field Datum.text? = .ok slot := need_eq_ok_iff.mpr hname
    have hslot : s[slot]? = t[slot]? := h slot hname
    rw [fetch, fetch, hneed]
    change (Fault.emptySlot.ifNone s[slot]? >>= _) = (Fault.emptySlot.ifNone t[slot]? >>= _)
    rw [hslot]

theorem act_congr (h : ∀ slot ∈ op.sources.filterMap d.name?, s[slot]? = t[slot]?) :
    s.act d op = t.act d op := by
  have hfetch : ∀ field ∈ op.sources, s.fetch d field = t.fetch d field := by
    intro field hfield
    exact fetch_congr fun slot hslot => h slot (List.mem_filterMap.mpr ⟨field, hfield, hslot⟩)
  cases op with
  | build | origin => rfl
  | eq | ne =>
    have ha := hfetch "a" (by simp [Op.sources])
    have hb := hfetch "b" (by simp [Op.sources])
    rw [act, act, ha, hb]
  | clone | copy | transpose | replace =>
    have hfrom := hfetch "from" (by simp [Op.sources])
    rw [act, act, hfrom]
  | drop | set | update | get | debug =>
    have hslot := hfetch "slot" (by simp [Op.sources])
    rw [act, act, hslot]

theorem action_congr (h : ∀ slot ∈ d.reads, s[slot]? = t[slot]?) : s.action d = t.action d := by
  cases hop : d.op? with
  | none =>
    obtain ⟨fault, hfault⟩ := action_of_no_op (k := k) hop
    rw [hfault, hfault]
  | some op =>
    rw [action_of_op hop, action_of_op hop]
    exact act_congr (Datum.reads_of_op hop ▸ h)

theorem Performs.change_target? (h : s.Performs d op a) :
    a.change.target? = op.target?.bind d.name? := by
  cases h with
  | build _ _ hto | origin hto | clone _ _ hto | copy _ _ _ hto | transpose _ _ hto
  | replace _ _ _ _ hto => exact hto.symm
  | drop hslot _ | set hslot _ _ _ _ | update hslot _ _ _ _ => exact hslot.symm
  | get | eq | ne | debug => rfl

theorem change_target?_of_action (h : s.action d = .ok a) : a.change.target? = d.target? := by
  cases hop : d.op? with
  | none =>
    obtain ⟨fault, hfault⟩ := action_of_no_op (k := k) hop
    rw [hfault] at h
    cases h
  | some op =>
    rw [action_of_op hop] at h
    rw [(act_eq_ok_iff.mp h).change_target?, Datum.target?_of_op hop]

theorem getElem?_step_of_ne {slot : String} (h : d.target? ≠ some slot) :
    (s.step d).store[slot]? = s[slot]? := by
  cases ha : s.action d with
  | error fault => simp only [step, ha]
  | ok a =>
    simp only [step, ha]
    exact s.getElem?_apply_of_ne (change_target?_of_action ha ▸ h)

theorem getElem?_apply_congr (change : Change k.point.Val) {slot : String}
    (h : s[slot]? = t[slot]?) : (s.apply change)[slot]? = (t.apply change)[slot]? := by
  by_cases ht : change.target? = some slot
  · cases change with
    | keep => exact h
    | put slot' p =>
      cases ht
      simp
    | erase slot' =>
      cases ht
      simp
  · rw [s.getElem?_apply_of_ne ht, t.getElem?_apply_of_ne ht, h]

def Agree (S : String → Prop) (s t : Store k) : Prop := ∀ slot, S slot → s[slot]? = t[slot]?

variable {S : String → Prop}

theorem Agree.refl (s : Store k) : Agree S s s := fun _ _ => rfl

theorem Agree.trans {u : Store k} (h : Agree S s t) (h' : Agree S t u) : Agree S s u :=
  fun slot hslot => (h slot hslot).trans (h' slot hslot)

theorem Agree.step (h : Agree S s t) (hd : ∀ slot ∈ d.reads, S slot) :
    (s.step d).result = (t.step d).result ∧ Agree S (s.step d).store (t.step d).store := by
  have ha : s.action d = t.action d := action_congr fun slot hslot => h slot (hd slot hslot)
  rw [Store.step, Store.step, ha]
  cases t.action d with
  | error fault => exact ⟨rfl, h⟩
  | ok a => exact ⟨rfl, fun slot hslot => getElem?_apply_congr a.change (h slot hslot)⟩

theorem Agree.step_elsewhere (hd : ∀ slot ∈ d.target?, ¬ S slot) : Agree S (s.step d).store s :=
  fun slot hslot => getElem?_step_of_ne fun ht => hd slot ht hslot

end Store

end Planar
