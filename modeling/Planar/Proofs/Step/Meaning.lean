import Planar.Step

/-! What a step does when it succeeds: the fields it has, the points it finds in
the slots that they name, what it tells and what it changes. -/

namespace Planar

namespace Datum

def name? (d : Datum) (field : String) : Option String := (d.field? field).bind text?

def op? (d : Datum) : Option Op := (d.name? "op").bind Op.ofName?

def path? (d : Datum) : Option (List Axis) :=
  ((d.field? "path").bind list?).bind fun path => (axes path).toOption

end Datum

namespace Fault

theorem bind_eq_ok_iff {α β : Type} {x : Except Fault α} {f : α → Except Fault β} {b : β} :
    (x >>= f) = .ok b ↔ ∃ a, x = .ok a ∧ f a = .ok b := by
  cases x with
  | error fault =>
    constructor
    · intro h
      cases h
    · rintro ⟨_, h, -⟩
      cases h
  | ok a =>
    constructor
    · exact fun h => ⟨a, rfl, h⟩
    · rintro ⟨_, h, hf⟩
      cases h
      exact hf

theorem ifNone_eq_ok_iff {α : Type} {fault : Fault} {o : Option α} {a : α} :
    fault.ifNone o = .ok a ↔ o = some a := by
  cases o <;> simp

end Fault

namespace Store

variable {k : Kind} {s : Store k} {d : Datum} {op : Op} {a : Action k}

inductive Performs (s : Store k) (d : Datum) : Op → Action k → Prop
  | build {x y : k.Val} {slot : String} (hx : (d.field? "x").bind k.read? = some x)
    (hy : (d.field? "y").bind k.read? = some y) (hto : d.name? "to" = some slot) :
    Performs s d .build (.put slot ⟨x, y⟩)
  | origin {slot : String} (hto : d.name? "to" = some slot) :
    Performs s d .origin (.put slot k.point.origin)
  | clone {source slot : String} {p : k.point.Val} (hfrom : d.name? "from" = some source)
    (hp : s[source]? = some p) (hto : d.name? "to" = some slot) :
    Performs s d .clone (.put slot p)
  | copy {source slot : String} {p : k.point.Val} (hk : k.has .copy = true)
    (hfrom : d.name? "from" = some source) (hp : s[source]? = some p)
    (hto : d.name? "to" = some slot) :
    Performs s d .copy (.put slot p)
  | transpose {source slot : String} {p : k.point.Val} (hfrom : d.name? "from" = some source)
    (hp : s[source]? = some p) (hto : d.name? "to" = some slot) :
    Performs s d .transpose (.put slot p.swap)
  | replace {source slot : String} {p : k.point.Val} {v : k.Val} {axis : Axis}
    (hfrom : d.name? "from" = some source) (hp : s[source]? = some p)
    (hv : (d.field? "v").bind k.read? = some v)
    (haxis : (d.name? "field").bind Axis.ofName? = some axis) (hto : d.name? "to" = some slot) :
    Performs s d .replace (.put slot (p.set axis v))
  | drop {slot : String} {p : k.point.Val} (hslot : d.name? "slot" = some slot)
    (hp : s[slot]? = some p) :
    Performs s d .drop (.erase slot)
  | set {slot : String} {p q : k.point.Val} {path : List Axis} {v : Datum}
    (hslot : d.name? "slot" = some slot) (hp : s[slot]? = some p) (hpath : d.path? = some path)
    (hv : d.field? "v" = some v) (hq : k.point.set p path v = .ok q) :
    Performs s d .set (.put slot q)
  | update {slot : String} {p q : k.point.Val} {path : List Axis} {v : Datum}
    (hslot : d.name? "slot" = some slot) (hp : s[slot]? = some p) (hpath : d.path? = some path)
    (hv : d.field? "v" = some v) (hq : k.point.update p path v = .ok q) :
    Performs s d .update (.put slot q)
  | get {slot : String} {p : k.point.Val} {path : List Axis} {place : Place k.base.Val}
    (hslot : d.name? "slot" = some slot) (hp : s[slot]? = some p) (hpath : d.path? = some path)
    (hplace : k.point.get? p path = some place) :
    Performs s d .get (.tell (.place place))
  | eq {a b : String} {p q : k.point.Val} (ha : d.name? "a" = some a) (hp : s[a]? = some p)
    (hb : d.name? "b" = some b) (hq : s[b]? = some q) :
    Performs s d .eq (.tell (.truth (k.point.eq p q)))
  | ne {a b : String} {p q : k.point.Val} (ha : d.name? "a" = some a) (hp : s[a]? = some p)
    (hb : d.name? "b" = some b) (hq : s[b]? = some q) :
    Performs s d .ne (.tell (.truth (k.point.ne p q)))
  | debug {slot : String} {p : k.point.Val} (hslot : d.name? "slot" = some slot)
    (hp : s[slot]? = some p) :
    Performs s d .debug (.tell (.text (k.point.text .plain p)))

theorem need_eq_ok_iff {α : Type} {field : String} {part? : Datum → Option α} {v : α} :
    d.need field part? = .ok v ↔ (d.field? field).bind part? = some v :=
  Fault.ifNone_eq_ok_iff

theorem fetch_eq_ok_iff {field slot : String} {p : k.point.Val} :
    s.fetch d field = .ok (slot, p) ↔ d.name? field = some slot ∧ s[slot]? = some p := by
  simp only [fetch, Fault.bind_eq_ok_iff, need_eq_ok_iff, Fault.ifNone_eq_ok_iff]
  constructor
  · rintro ⟨slot', hslot, p', hp, h⟩
    cases h
    exact ⟨hslot, hp⟩
  · rintro ⟨hslot, hp⟩
    exact ⟨slot, hslot, p, hp, rfl⟩

theorem path?_eq_some_iff {path : List Axis} :
    d.path? = some path ↔
      ∃ items, (d.field? "path").bind Datum.list? = some items ∧ axes items = .ok path := by
  rw [Datum.path?, Option.bind_eq_some_iff]
  refine exists_congr fun items => and_congr_right fun _ => ?_
  cases axes items <;> simp [Except.toOption]

theorem performs_of_act (h : s.act d op = .ok a) : s.Performs d op a := by
  cases op <;> simp only [act, Fault.bind_eq_ok_iff, need_eq_ok_iff, Prod.exists, fetch_eq_ok_iff,
    Fault.ifNone_eq_ok_iff, pure, Except.pure, Except.ok.injEq] at h
  case build =>
    obtain ⟨x, hx, y, hy, slot, hto, rfl⟩ := h
    exact .build hx hy hto
  case origin =>
    obtain ⟨slot, hto, rfl⟩ := h
    exact .origin hto
  case clone =>
    obtain ⟨source, p, ⟨hfrom, hp⟩, slot, hto, rfl⟩ := h
    exact .clone hfrom hp hto
  case copy =>
    by_cases hk : k.has .copy = true
    · rw [if_neg (by simp [hk])] at h
      simp only [Fault.bind_eq_ok_iff, need_eq_ok_iff, Prod.exists, fetch_eq_ok_iff,
        Except.ok.injEq] at h
      obtain ⟨source, p, ⟨hfrom, hp⟩, slot, hto, rfl⟩ := h
      exact .copy hk hfrom hp hto
    · rw [if_pos (by simpa using hk)] at h
      cases h
  case transpose =>
    obtain ⟨source, p, ⟨hfrom, hp⟩, slot, hto, rfl⟩ := h
    exact .transpose hfrom hp hto
  case replace =>
    obtain ⟨source, p, ⟨hfrom, hp⟩, v, hv, field, hfield, axis, haxis, slot, hto, rfl⟩ := h
    exact .replace hfrom hp hv (Option.bind_eq_some_iff.mpr ⟨field, hfield, haxis⟩) hto
  case drop =>
    obtain ⟨slot, p, ⟨hslot, hp⟩, rfl⟩ := h
    exact .drop hslot hp
  case set =>
    obtain ⟨slot, p, ⟨hslot, hp⟩, items, hitems, v, hv, path, hpath, q, hq, rfl⟩ := h
    exact .set hslot hp (path?_eq_some_iff.mpr ⟨items, hitems, hpath⟩) (by simpa using hv) hq
  case update =>
    obtain ⟨slot, p, ⟨hslot, hp⟩, items, hitems, v, hv, path, hpath, q, hq, rfl⟩ := h
    exact .update hslot hp (path?_eq_some_iff.mpr ⟨items, hitems, hpath⟩) (by simpa using hv) hq
  case get =>
    obtain ⟨slot, p, ⟨hslot, hp⟩, items, hitems, path, hpath, place, hplace, rfl⟩ := h
    exact .get hslot hp (path?_eq_some_iff.mpr ⟨items, hitems, hpath⟩) hplace
  case eq =>
    obtain ⟨a, p, ⟨ha, hp⟩, b, q, ⟨hb, hq⟩, rfl⟩ := h
    exact .eq ha hp hb hq
  case ne =>
    obtain ⟨a, p, ⟨ha, hp⟩, b, q, ⟨hb, hq⟩, rfl⟩ := h
    exact .ne ha hp hb hq
  case debug =>
    obtain ⟨slot, p, ⟨hslot, hp⟩, rfl⟩ := h
    exact .debug hslot hp

theorem Performs.act (h : s.Performs d op a) : s.act d op = .ok a := by
  cases h <;> simp only [Store.act, Fault.bind_eq_ok_iff, need_eq_ok_iff, Prod.exists,
    fetch_eq_ok_iff, Fault.ifNone_eq_ok_iff, pure, Except.pure, Except.ok.injEq]
  case build x y slot hx hy hto => exact ⟨x, hx, y, hy, slot, hto, rfl⟩
  case origin slot hto => exact ⟨slot, hto, rfl⟩
  case clone source slot p hfrom hp hto => exact ⟨source, p, ⟨hfrom, hp⟩, slot, hto, rfl⟩
  case copy source slot p hk hfrom hp hto =>
    rw [if_neg (by simp [hk])]
    simp only [Fault.bind_eq_ok_iff, need_eq_ok_iff, Prod.exists, fetch_eq_ok_iff,
        Except.ok.injEq]
    exact ⟨source, p, ⟨hfrom, hp⟩, slot, hto, rfl⟩
  case transpose source slot p hfrom hp hto => exact ⟨source, p, ⟨hfrom, hp⟩, slot, hto, rfl⟩
  case replace source slot p v axis hfrom hp hv haxis hto =>
    obtain ⟨field, hfield, haxis⟩ := Option.bind_eq_some_iff.mp haxis
    exact ⟨source, p, ⟨hfrom, hp⟩, v, hv, field, hfield, axis, haxis, slot, hto, rfl⟩
  case drop slot p hslot hp => exact ⟨slot, p, ⟨hslot, hp⟩, rfl⟩
  case set slot p q path v hslot hp hpath hv hq =>
    obtain ⟨items, hitems, hpath⟩ := path?_eq_some_iff.mp hpath
    exact ⟨slot, p, ⟨hslot, hp⟩, items, hitems, v, by simpa using hv, path, hpath, q, hq, rfl⟩
  case update slot p q path v hslot hp hpath hv hq =>
    obtain ⟨items, hitems, hpath⟩ := path?_eq_some_iff.mp hpath
    exact ⟨slot, p, ⟨hslot, hp⟩, items, hitems, v, by simpa using hv, path, hpath, q, hq, rfl⟩
  case get slot p path place hslot hp hpath hplace =>
    obtain ⟨items, hitems, hpath⟩ := path?_eq_some_iff.mp hpath
    exact ⟨slot, p, ⟨hslot, hp⟩, items, hitems, path, hpath, place, hplace, rfl⟩
  case eq a b p q ha hp hb hq => exact ⟨a, p, ⟨ha, hp⟩, b, q, ⟨hb, hq⟩, rfl⟩
  case ne a b p q ha hp hb hq => exact ⟨a, p, ⟨ha, hp⟩, b, q, ⟨hb, hq⟩, rfl⟩
  case debug slot p hslot hp => exact ⟨slot, p, ⟨hslot, hp⟩, rfl⟩

theorem act_eq_ok_iff : s.act d op = .ok a ↔ s.Performs d op a :=
  ⟨performs_of_act, Performs.act⟩

theorem action_of_op (hop : d.op? = some op) : s.action d = s.act d op := by
  obtain ⟨name, hname, hop⟩ := Option.bind_eq_some_iff.mp hop
  have hneed : d.need "op" Datum.text? = .ok name := need_eq_ok_iff.mpr hname
  rw [action, hneed]
  change Fault.unknownOp.ifNone (Op.ofName? name) >>= s.act d = _
  rw [hop]
  rfl

theorem action_of_no_op (hop : d.op? = none) :
    ∃ fault, ∀ s : Store k, s.action d = .error fault := by
  cases hname : d.name? "op" with
  | none =>
    have hneed : d.need "op" Datum.text? = .error .badInput := congrArg Fault.badInput.ifNone hname
    refine ⟨.badInput, fun s => ?_⟩
    rw [action, hneed]
    rfl
  | some name =>
    have hneed : d.need "op" Datum.text? = .ok name := need_eq_ok_iff.mpr hname
    have hop : Op.ofName? name = none := by simpa [Datum.op?, hname] using hop
    refine ⟨.unknownOp, fun s => ?_⟩
    rw [action, hneed]
    change Fault.unknownOp.ifNone (Op.ofName? name) >>= s.act d = _
    rw [hop]
    rfl

theorem Performs.step (h : s.Performs d op a) (hop : d.op? = some op) :
    s.step d = ⟨.ok a.reply, s.apply a.change⟩ := by
  rw [Store.step, action_of_op hop, act_eq_ok_iff.mpr h]

end Store

end Planar
