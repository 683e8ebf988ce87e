import Planar.Proofs.Place
import Planar.Proofs.Step.Atomic
import Planar.Proofs.Written.RoundTrip

/-! Setting and reading along paths. What was set is what is read, the last value
set is the one that stays, and places that do not see each other are set in any
order. A path that goes on from the place that was set goes on inside the value
put there, whether or not it led anywhere before. -/

namespace Planar

namespace Datum

def ofPath (P : List Axis) : Datum := .list (P.map fun axis => .text axis.name)

structure Along (d : Datum) (op : Op) (slot : String) (path : Datum) : Prop where
  op : d.op? = some op
  slot : d.name? "slot" = some slot
  path : d.field? "path" = some path

def Carries (d : Datum) (k : Kind) (v : k.Val) : Prop := (d.field? "v").bind k.read? = some v

theorem mapM_axes (P : List Axis) :
    (P.map fun axis => Datum.text axis.name).mapM (fun d => d.text? >>= Axis.ofName?) = some P := by
  induction P with
  | nil => rfl
  | cons axis P ih =>
    have haxis : (Datum.text axis.name).text? >>= Axis.ofName? = some axis := axis.ofName?_name
    rw [List.map_cons, List.mapM_cons, haxis, ih]
    rfl

theorem axes_ofPath {P : List Axis} (h : P ≠ []) :
    Fault.badInput.ifNone (ofPath P).list? >>= axes = .ok P := by
  change axes (P.map fun axis => .text axis.name) = .ok P
  rw [axes, mapM_axes]
  cases P with
  | nil => exact absurd rfl h
  | cons axis P => rfl

theorem Along.path? {d : Datum} {op : Op} {slot : String} {P : List Axis}
    (h : d.Along op slot (.ofPath P)) (hP : P ≠ []) : d.path? = some P := by
  rw [Store.path?_eq_some_iff, h.path]
  exact ⟨_, rfl, axes_ofPath hP⟩

theorem Along.eq_of_path? {d : Datum} {op : Op} {slot : String} {P P' : List Axis}
    (h : d.Along op slot (.ofPath P)) (hP' : d.path? = some P') : P' = P ∧ P ≠ [] := by
  cases P with
  | nil =>
    rw [Store.path?_eq_some_iff, h.path] at hP'
    obtain ⟨_, hitems, hP'⟩ := hP'
    cases hitems
    cases hP'
  | cons axis P =>
    rw [h.path? (List.cons_ne_nil axis P)] at hP'
    exact ⟨(Option.some.inj hP').symm, List.cons_ne_nil axis P⟩

end Datum

open Datum

theorem Fault.map_eq_error_iff {α β : Type} {f : α → β} {x : Except Fault α} {fault : Fault} :
    f <$> x = .error fault ↔ x = .error fault := by
  cases x with
  | error fault' =>
    constructor
    · intro h
      cases h
      rfl
    · intro h
      cases h
      rfl
  | ok a =>
    constructor
    · intro h
      cases h
    · intro h
      cases h

namespace Kind

variable {k : Kind} {p : k.Val} {P : List Axis} {e : Datum}

theorem set_eq_badPath_iff : k.set p P e = .error .badPath ↔ k.get? p P = none := by
  rcases leads_or_missing p P with ⟨d, u, around, hp⟩ | ⟨hnone, hmissing⟩
  · have hset : k.set p P e = around <$> Fault.badInput.ifNone (read? ⟨k.base, d⟩ e) := hp.modify _
    rw [hp.get?, hset]
    cases read? ⟨k.base, d⟩ e with
    | none => simp [Functor.map, Except.map]
    | some v => simp [Functor.map, Except.map]
  · rw [hnone, set, hmissing]
    simp

end Kind

theorem Leads.set {b : Base} {n d : Nat} {p : Nested b.Val n} {P : List Axis} {u v : Nested b.Val d}
    {around : Nested b.Val d → Nested b.Val n} {e : Datum} (h : Leads b n p P d u around)
    (hv : Kind.read? ⟨b, d⟩ e = some v) : Kind.set ⟨b, n⟩ p P e = .ok (around v) := by
  have hset : Kind.set ⟨b, n⟩ p P e = around <$> Fault.badInput.ifNone (Kind.read? ⟨b, d⟩ e) :=
    h.modify _
  rw [hset, hv]
  rfl

namespace Store

variable {k : Kind} {s : Store k} {d : Datum} {slot : String} {p : k.point.Val}

theorem exists_leads_of_get {get : Datum} {P : List Axis} {d : Nat} {u : Nested k.base.Val d}
    (hget : get.Along .get slot (.ofPath P)) (hu : (s.step get).result = .ok (.place ⟨d, u⟩)) :
    P ≠ [] ∧ ∃ p around, s[slot]? = some p ∧ Leads k.base (k.depth + 1) p P d u around := by
  obtain ⟨op, a, hop, hperforms, hstep⟩ := exists_performs hu
  obtain rfl : Op.get = op := Option.some.inj (hget.op.symm.trans hop)
  cases hperforms with
  | @get source p path place hslot hp hpath hplace =>
    obtain ⟨rfl, hP⟩ := hget.eq_of_path? hpath
    obtain rfl : slot = source := Option.some.inj (hget.slot.symm.trans hslot)
    rw [hstep] at hu
    obtain rfl : place = ⟨d, u⟩ := Reply.place.inj (Except.ok.inj hu)
    obtain ⟨around, h⟩ := Kind.exists_leads hplace
    exact ⟨hP, p, around, hp, h⟩

theorem fetch_along {op : Op} {path : Datum} (hd : d.Along op slot path) :
    s.fetch d "slot" = (slot, ·) <$> Fault.emptySlot.ifNone s[slot]? := by
  rw [fetch, need_eq_ok_iff.mpr hd.slot]
  rfl

theorem need_along {op : Op} {path : Datum} (hd : d.Along op slot path) :
    d.need "path" Datum.list? = Fault.badInput.ifNone path.list? := by
  rw [need, hd.path]
  rfl

theorem act_set {path e : Datum} (hd : d.Along .set slot path) (he : d.field? "v" = some e) :
    s.act d .set = (do
      let p ← Fault.emptySlot.ifNone s[slot]?
      let P ← Fault.badInput.ifNone path.list? >>= axes
      Action.put slot <$> k.point.set p P e) := by
  have hneed : d.need "v" some = .ok e := by
    rw [need, he]
    rfl
  rw [act, fetch_along hd, need_along hd, hneed]
  cases s[slot]? with
  | none => rfl
  | some p =>
    cases path.list? with
    | none => rfl
    | some items => rfl

theorem act_get {path : Datum} (hd : d.Along .get slot path) :
    s.act d .get = (do
      let p ← Fault.emptySlot.ifNone s[slot]?
      let P ← Fault.badInput.ifNone path.list? >>= axes
      (fun place => .tell (.place place)) <$> Fault.badPath.ifNone (k.point.get? p P)) := by
  rw [act, fetch_along hd, need_along hd]
  cases s[slot]? with
  | none => rfl
  | some p =>
    cases path.list? with
    | none => rfl
    | some items => rfl

theorem result_step (s : Store k) {op : Op} (hop : d.op? = some op) :
    (s.step d).result = Action.reply <$> s.act d op := by
  rw [step, action_of_op hop]
  cases s.act d op <;> rfl

theorem result_set_eq_badPath_iff {set get path : Datum} (hset : set.Along .set slot path)
    (hv : (set.field? "v").isSome) (hget : get.Along .get slot path) :
    (s.step set).result = .error .badPath ↔ (s.step get).result = .error .badPath := by
  obtain ⟨e, he⟩ := Option.isSome_iff_exists.mp hv
  rw [s.result_step hset.op, s.result_step hget.op, act_set hset he, act_get hget]
  cases Fault.emptySlot.ifNone s[slot]? with
  | error fault => exact Iff.rfl
  | ok p =>
    cases Fault.badInput.ifNone path.list? >>= axes with
    | error fault => exact Iff.rfl
    | ok P =>
      have hbind {α : Type} (f : k.point.Val → List Axis → Except Fault α) :
          (do let p ← Except.ok p; let P ← Except.ok P; f p P) = f p P := rfl
      rw [hbind, hbind, Fault.map_eq_error_iff, Fault.map_eq_error_iff, Fault.map_eq_error_iff,
        Fault.map_eq_error_iff, Kind.set_eq_badPath_iff]
      cases k.point.get? p P <;> simp

theorem result_get {get : Datum} {P : List Axis} (hget : get.Along .get slot (.ofPath P))
    (hP : P ≠ []) (hp : s[slot]? = some p) :
    (s.step get).result = .place <$> Fault.badPath.ifNone (k.point.get? p P) := by
  have hreply (found : Option (Place k.base.Val)) :
      Action.reply <$> (fun place => (Action.tell (.place place) : Action k)) <$>
        Fault.badPath.ifNone found = .place <$> Fault.badPath.ifNone found := by
    cases found <;> rfl
  rw [s.result_step hget.op, act_get hget, hp, axes_ofPath hP]
  exact hreply (k.point.get? p P)

theorem step_set_of_error {set e : Datum} {P : List Axis} {fault : Fault}
    (hset : set.Along .set slot (.ofPath P)) (he : set.field? "v" = some e) (hP : P ≠ [])
    (hp : s[slot]? = some p) (h : k.point.set p P e = .error fault) :
    s.step set = ⟨.error fault, s⟩ := by
  have hact : s.act set .set = .error fault := by
    rw [act_set hset he, hp, axes_ofPath hP]
    change Action.put slot <$> k.point.set p P e = _
    rw [h]
    rfl
  exact step_of_action (action_of_op hset.op ▸ hact)

theorem step_set_of_ok {set e : Datum} {P : List Axis} {q : k.point.Val}
    (hset : set.Along .set slot (.ofPath P)) (he : set.field? "v" = some e) (hP : P ≠ [])
    (hp : s[slot]? = some p) (h : k.point.set p P e = .ok q) :
    s.step set = ⟨.ok .done, s.apply (.put slot q)⟩ :=
  (Performs.set hset.slot hp (hset.path? hP) he h).step hset.op

theorem step_set {set : Datum} {P : List Axis} {d : Nat} {u v : Nested k.base.Val d}
    {around : Nested k.base.Val d → k.point.Val} (hset : set.Along .set slot (.ofPath P))
    (hv : set.Carries ⟨k.base, d⟩ v) (hP : P ≠ []) (hp : s[slot]? = some p)
    (h : Leads k.base (k.depth + 1) p P d u around) :
    s.step set = ⟨.ok .done, s.apply (.put slot (around v))⟩ := by
  obtain ⟨e, he, hv⟩ := Option.bind_eq_some_iff.mp hv
  exact step_set_of_ok hset he hP hp (h.set hv)

theorem step_set_comm {P Q : List Axis} {d e : Nat} {u v : Nested k.base.Val d}
    {u' w : Nested k.base.Val e} {around : Nested k.base.Val d → k.point.Val}
    {around' : Nested k.base.Val e → k.point.Val} {set set' : Datum} (hPQ : Parallel P Q)
    (hp : s[slot]? = some p)
    (hset : set.Along .set slot (.ofPath P)) (hv : set.Carries ⟨k.base, d⟩ v) (hP : P ≠ [])
    (h : Leads k.base (k.depth + 1) p P d u around)
    (hset' : set'.Along .set slot (.ofPath Q)) (hw : set'.Carries ⟨k.base, e⟩ w) (hQ : Q ≠ [])
    (h' : Leads k.base (k.depth + 1) p Q e u' around') :
    ∃ t, (s.step set).store.step set' = ⟨.ok .done, t⟩ ∧
      (s.step set').store.step set = ⟨.ok .done, t⟩ := by
  obtain ⟨right, left, hright, hleft, hx⟩ := h.diamond h' hPQ v w
  rw [step_set hset hv hP hp h, step_set hset' hw hQ hp h']
  refine ⟨s.apply (.put slot (right w)), ?_, ?_⟩
  · rw [step_set hset' hw hQ (getElem?_apply_put ..) hright, apply_put_put]
  · rw [step_set hset hv hP (getElem?_apply_put ..) hleft, apply_put_put, hx]

/-- The laws hold where `get` finds a place, and by the first part `set` finds no
other. Each value is written in some way that `set` reads. -/
theorem assignment_is_a_lens (s : Store k) (slot : String) :
    (∀ set get path : Datum, set.Along .set slot path → (set.field? "v").isSome →
      get.Along .get slot path →
      ((s.step set).result = .error .badPath ↔ (s.step get).result = .error .badPath)) ∧
    (∀ (d : Nat) (v : Nested k.base.Val d), ∃ e, Kind.read? ⟨k.base, d⟩ e = some v) ∧
    ∀ (P : List Axis) (d : Nat) (u v : Nested k.base.Val d) (get set : Datum),
      get.Along .get slot (.ofPath P) → (s.step get).result = .ok (.place ⟨d, u⟩) →
      set.Along .set slot (.ofPath P) → set.Carries ⟨k.base, d⟩ v →
      let t := (s.step set).store
      (s.step set).result = .ok .done ∧
      (t.step get).result = .ok (.place ⟨d, v⟩) ∧
      (v = u → t = s) ∧
      (∀ (w : Nested k.base.Val d) (again : Datum), again.Along .set slot (.ofPath P) →
        again.Carries ⟨k.base, d⟩ w → t.step again = s.step again) ∧
      (∀ (Q : List Axis) (e : Nat) (u' w : Nested k.base.Val e) (get' set' : Datum),
        Parallel P Q → get'.Along .get slot (.ofPath Q) →
        (s.step get').result = .ok (.place ⟨e, u'⟩) →
        set'.Along .set slot (.ofPath Q) → set'.Carries ⟨k.base, e⟩ w →
        (t.step get').result = (s.step get').result ∧
        ∃ r, t.step set' = ⟨.ok .done, r⟩ ∧ (s.step set').store.step set = ⟨.ok .done, r⟩) ∧
      ∀ (Q : List Axis) (inner : Datum),
        (∀ get' : Datum, get'.Along .get slot (.ofPath (P ++ Q)) →
          (t.step get').result =
            .place <$> Fault.badPath.ifNone (Kind.get? ⟨k.base, d⟩ v Q)) ∧
        ∀ set' : Datum, set'.Along .set slot (.ofPath (P ++ Q)) → set'.field? "v" = some inner →
          (∀ fault, Kind.set ⟨k.base, d⟩ v Q inner = .error fault →
            t.step set' = ⟨.error fault, t⟩) ∧
          ∀ (w : Nested k.base.Val d) (whole : Datum), Kind.set ⟨k.base, d⟩ v Q inner = .ok w →
            whole.Along .set slot (.ofPath P) → whole.Carries ⟨k.base, d⟩ w →
            t.step set' = s.step whole := by
  refine ⟨fun set get path => result_set_eq_badPath_iff,
    fun d v => Kind.exists_read?_eq ⟨k.base, d⟩ v, ?_⟩
  intro P d u v get set hget hu hset hv t
  obtain ⟨hP, p, around, hp, h⟩ := exists_leads_of_get hget hu
  have hstep : s.step set = ⟨.ok .done, s.apply (.put slot (around v))⟩ :=
    step_set hset hv hP hp h
  have ht : t = s.apply (.put slot (around v)) := congrArg Entry.store hstep
  have htp : t[slot]? = some (around v) := by rw [ht, getElem?_apply_put]
  have hthere : Leads k.base (k.depth + 1) (around v) P d v around := h.replaced v
  refine ⟨congrArg Entry.result hstep, ?_, ?_, ?_, ?_, ?_⟩
  -- What was set is read.
  · rw [result_get hget hP htp, hthere.get?]
    rfl
  -- Setting what is there changes nothing.
  · rintro rfl
    rw [ht, h.around_self, apply_put_self hp]
  -- The last value stays.
  · intro w again hagain hw
    rw [step_set hagain hw hP htp hthere, step_set hagain hw hP hp h, ht, apply_put_put]
  -- Places that do not see each other.
  · intro Q e u' w get' set' hPQ hget' hu' hset' hw
    obtain ⟨hQ, p', around', hp', h'⟩ := exists_leads_of_get hget' hu'
    obtain rfl : p = p' := Option.some.inj (hp.symm.trans hp')
    refine ⟨?_, step_set_comm hPQ hp hset hv hP h hset' hw hQ h'⟩
    rw [result_get hget' hQ htp, result_get hget' hQ hp, h.get?_of_parallel hPQ]
  -- Going on inside the value: the rest of the point stands around the inner change.
  · intro Q inner
    have hPQ : P ++ Q ≠ [] := List.append_ne_nil_of_left_ne_nil hP Q
    refine ⟨fun get' hget' => ?_, fun set' hset' hinner => ?_⟩
    · rw [result_get hget' hPQ htp, hthere.get?_append]
    · have hbeyond : k.point.set (around v) (P ++ Q) inner =
          around <$> Kind.set ⟨k.base, d⟩ v Q inner := hthere.modify_append _ Q
      refine ⟨fun fault hfault => ?_, fun w whole hwhole hset hcarries => ?_⟩
      · exact step_set_of_error hset' hinner hPQ htp (by rw [hbeyond, hfault]; rfl)
      · rw [step_set_of_ok hset' hinner hPQ htp (by rw [hbeyond, hwhole]; rfl),
          step_set hset hcarries hP hp h, ht, apply_put_put]

/-- The path into a leaf leads nowhere before a node is put in its place. -/
theorem assignment_below_leaf :
    let k : Kind := { base := .tree ⟨true, 64⟩ }
    let s : Store k := (∅ : Store k).apply (.put "p" ⟨.leaf 1#64, .leaf 2#64⟩)
    let get : Datum :=
      .record [("op", .text "get"), ("slot", .text "p"), ("path", .ofPath [.x])]
    let inside : Datum :=
      .record [("op", .text "get"), ("slot", .text "p"), ("path", .ofPath [.x, .y])]
    let set : Datum := .record [("op", .text "set"), ("slot", .text "p"), ("path", .ofPath [.x]),
      ("v", .record [("x", .text "3"), ("y", .text "4")])]
    let t := (s.step set).store
    (s.step get).result = .ok (.place ⟨0, .leaf 1#64⟩) ∧
    (s.step inside).result = .error .badPath ∧
    (t.step get).result = .ok (.place ⟨0, .node ⟨.leaf 3#64, .leaf 4#64⟩⟩) ∧
    (t.step inside).result = .ok (.place ⟨0, .leaf 4#64⟩) := by
  intro k s get inside set t
  have hp : s[("p" : String)]? = some ⟨.leaf 1#64, .leaf 2#64⟩ := getElem?_apply_put ..
  have hget : get.Along .get "p" (.ofPath [.x]) := ⟨rfl, rfl, rfl⟩
  have hinside : inside.Along .get "p" (.ofPath ([.x] ++ [.y])) := ⟨rfl, rfl, rfl⟩
  have hset : set.Along .set "p" (.ofPath [.x]) := ⟨rfl, rfl, rfl⟩
  have hv : set.Carries ⟨.tree ⟨true, 64⟩, 0⟩ (.node ⟨.leaf 3#64, .leaf 4#64⟩) := rfl
  have hu : (s.step get).result = .ok (.place ⟨0, .leaf 1#64⟩) := by
    rw [result_get hget (by decide) hp]
    rfl
  have hlens := (assignment_is_a_lens s "p").2.2 [.x] 0 (.leaf 1#64)
    (.node ⟨.leaf 3#64, .leaf 4#64⟩) get set hget hu hset hv
  refine ⟨hu, ?_, hlens.2.1, ?_⟩
  · rw [result_get hinside (by decide) hp]
    rfl
  · exact (hlens.2.2.2.2.2 [.y] .null).1 inside hinside

end Store

end Planar
