import Planar.Proofs.Amount
import Planar.Proofs.Step.Lens

/-! Scripts of updates. A store is known by the leaves in its slots. An update that
succeeds adjusts one leaf and keeps every other, and whether it succeeds depends on
where there are leaves, which no update changes. So the updates that succeed do so in
any order, and each leaf gets the amounts meant for it. -/

namespace Planar

namespace Datum

structure Adds (b : Base) (d : Datum) (slot : String) (P : List Axis) (a : b.Amount) : Prop where
  slot : d.name? "slot" = some slot
  path : d.path? = some P
  amount : (d.field? "v").bind b.amount? = some a

def addresses (slot : String) (P : List Axis) (d : Datum) : Bool :=
  d.name? "slot" = some slot ∧ d.path? = some P

theorem Adds.addresses_iff {b : Base} {d : Datum} {slot slot' : String} {P P' : List Axis}
    {a : b.Amount} (h : d.Adds b slot P a) :
    d.addresses slot' P' = true ↔ slot' = slot ∧ P' = P := by
  rw [addresses, decide_eq_true_iff, h.slot, h.path, Option.some_inj, Option.some_inj, eq_comm,
    eq_comm (a := P)]

end Datum

namespace Base

def amounts (b : Base) (slot : String) (P : List Axis) (steps : List Datum) : List b.Amount :=
  (steps.filter (Datum.addresses slot P)).filterMap fun d => (d.field? "v").bind b.amount?

variable {b : Base} {slot : String} {P : List Axis} {d : Datum} {steps others : List Datum}

theorem amounts_cons_of_addresses {a : b.Amount} (h : d.addresses slot P = true)
    (ha : (d.field? "v").bind b.amount? = some a) (steps : List Datum) :
    b.amounts slot P (d :: steps) = a :: b.amounts slot P steps := by
  rw [amounts, List.filter_cons_of_pos h]
  exact List.filterMap_cons_some ha

theorem amounts_cons_of_not_addresses (h : ¬ d.addresses slot P = true) (steps : List Datum) :
    b.amounts slot P (d :: steps) = b.amounts slot P steps := by
  rw [amounts, List.filter_cons_of_neg h]
  rfl

theorem amounts_perm (h : steps.Perm others) :
    (b.amounts slot P steps).Perm (b.amounts slot P others) :=
  (h.filter _).filterMap _

theorem amounts_of_not_addressed (h : ∀ d ∈ steps, d.addresses slot P = false) :
    b.amounts slot P steps = [] := by
  rw [amounts, List.filter_eq_nil_iff.mpr fun d hd => Bool.eq_false_iff.mp (h d hd)]
  rfl

end Base

namespace Store

variable {k : Kind} {s t : Store k} {d : Datum} {slot : String} {P : List Axis}
  {steps : List Datum}

def leaf? (s : Store k) (slot : String) (P : List Axis) : Option k.base.Val :=
  s[slot]?.bind fun p => k.point.leaf? p P

theorem getElem?_of_leaf? (h : ∀ slot P, s.leaf? slot P = t.leaf? slot P) {p : k.point.Val}
    (hp : s[slot]? = some p) : t[slot]? = some p := by
  have hleaf : ∀ P v, k.point.leaf? p P = some v → t.leaf? slot P = some v := by
    intro P v hv
    rwa [← h, leaf?, hp]
  obtain ⟨P, v, hv⟩ := Kind.exists_leaf? (k := k.point) p
  obtain ⟨q, hq, -⟩ := Option.bind_eq_some_iff.mp (hleaf P v hv)
  have hpq : p = q := Kind.ext_leaf? (k := k.point) fun P v hv => by
    have hv := hleaf P v hv
    rwa [leaf?, hq] at hv
  rw [hq, hpq]

theorem ext_leaf? (h : ∀ slot P, s.leaf? slot P = t.leaf? slot P) : s = t :=
  Std.ExtTreeMap.ext_getElem? fun _ => Option.ext fun _ =>
    ⟨getElem?_of_leaf? h, getElem?_of_leaf? fun slot P => (h slot P).symm⟩

theorem leaf?_apply_put (s : Store k) (slot : String) (p : k.point.Val) (other : String)
    (Q : List Axis) : (s.apply (.put slot p)).leaf? other Q =
      if other = slot then k.point.leaf? p Q else s.leaf? other Q := by
  by_cases h : other = slot
  · subst h
    rw [if_pos rfl, leaf?, getElem?_apply_put, Option.bind_some]
  · rw [if_neg h, leaf?, getElem?_apply_put_of_ne s (Ne.symm h), leaf?]

def Accepts (s : Store k) (d : Datum) : Prop :=
  ∃ slot P a v, d.Adds k.base slot P a ∧ s.leaf? slot P = some v

theorem accepts_of_done (hop : d.op? = some .update) (h : (s.step d).result = .ok .done) :
    s.Accepts d := by
  obtain ⟨slot, P, e, p, q, hslot, hpath, he, hp, hq, -⟩ := exists_update_of_done hop h
  obtain ⟨v, a, hv, ha, -⟩ := Kind.leaf?_of_update hq
  have hamount : (d.field? "v").bind k.base.amount? = some a := by rw [he, Option.bind_some, ha]
  exact ⟨slot, P, a, v, ⟨hslot, hpath, hamount⟩, by rw [leaf?, hp, Option.bind_some, hv]⟩

theorem step_of_adds {a : k.base.Amount} {v : k.base.Val} (hop : d.op? = some .update)
    (hd : d.Adds k.base slot P a) (hv : s.leaf? slot P = some v) :
    (s.step d).result = .ok .done ∧ ∀ other Q, (s.step d).store.leaf? other Q =
      if other = slot ∧ Q = P then some (k.base.adjust v a) else s.leaf? other Q := by
  obtain ⟨p, hp, hv⟩ := Option.bind_eq_some_iff.mp hv
  obtain ⟨e, he, ha⟩ := Option.bind_eq_some_iff.mp hd.amount
  obtain ⟨q, hq⟩ := Kind.exists_update hv ha
  have hstep : s.step d = ⟨.ok .done, s.apply (.put slot q)⟩ :=
    (Performs.update hd.slot hp hd.path he hq).step hop
  obtain ⟨v', a', hv', ha', hleaf⟩ := Kind.leaf?_of_update hq
  obtain rfl : v = v' := Option.some.inj (hv.symm.trans hv')
  obtain rfl : a = a' := Option.some.inj (ha.symm.trans ha')
  rw [hstep]
  refine ⟨rfl, fun other Q => ?_⟩
  rw [leaf?_apply_put, hleaf]
  by_cases hother : other = slot
  · subst hother
    have hold : k.point.leaf? p Q = s.leaf? other Q := by rw [leaf?, hp, Option.bind_some]
    simp only [if_true, true_and, hold]
  · simp only [hother, false_and, if_false]

theorem accepts_step_iff (hop : d.op? = some .update) (hd : s.Accepts d) (e : Datum) :
    (s.step d).store.Accepts e ↔ s.Accepts e := by
  obtain ⟨slot, P, a, v, hadds, hv⟩ := hd
  obtain ⟨-, hleaf⟩ := step_of_adds hop hadds hv
  have hsome : ∀ other Q, (∃ w, (s.step d).store.leaf? other Q = some w) ↔
      ∃ w, s.leaf? other Q = some w := by
    intro other Q
    rw [hleaf]
    by_cases h : other = slot ∧ Q = P
    · obtain ⟨rfl, rfl⟩ := h
      simp [hv]
    · rw [if_neg h]
  simp only [Accepts, exists_and_left, hsome]

def Succeeds (s : Store k) (steps : List Datum) : Prop := ∀ e ∈ s.run steps, e.result = .ok .done

theorem succeeds_cons_iff :
    s.Succeeds (d :: steps) ↔ (s.step d).result = .ok .done ∧ (s.step d).store.Succeeds steps :=
  List.forall_mem_cons

theorem succeeds_iff (hop : ∀ d ∈ steps, d.op? = some .update) :
    s.Succeeds steps ↔ ∀ d ∈ steps, s.Accepts d := by
  induction steps generalizing s with
  | nil => simp [Succeeds, run]
  | cons d steps ih =>
    obtain ⟨hd, hsteps⟩ := List.forall_mem_cons.mp hop
    rw [succeeds_cons_iff, ih hsteps, List.forall_mem_cons]
    constructor
    · rintro ⟨hdone, hrest⟩
      have hfirst : s.Accepts d := accepts_of_done hd hdone
      exact ⟨hfirst, fun e he => (accepts_step_iff hd hfirst e).mp (hrest e he)⟩
    · rintro ⟨hfirst, hrest⟩
      obtain ⟨slot, P, a, v, hadds, hv⟩ := hfirst
      exact ⟨(step_of_adds hd hadds hv).1,
        fun e he => (accepts_step_iff hd ⟨slot, P, a, v, hadds, hv⟩ e).mpr (hrest e he)⟩

theorem leaf?_after (hop : ∀ d ∈ steps, d.op? = some .update) (h : ∀ d ∈ steps, s.Accepts d)
    (slot : String) (P : List Axis) :
    (s.after steps).leaf? slot P =
      (s.leaf? slot P).map fun v => (k.base.amounts slot P steps).foldl k.base.adjust v := by
  induction steps generalizing s with
  | nil => simp [after, Base.amounts]
  | cons d steps ih =>
    obtain ⟨hd, hop⟩ := List.forall_mem_cons.mp hop
    obtain ⟨hfirst, hrest⟩ := List.forall_mem_cons.mp h
    have hafter : s.after (d :: steps) = (s.step d).store.after steps := rfl
    rw [hafter, ih hop fun e he => (accepts_step_iff hd hfirst e).mpr (hrest e he)]
    obtain ⟨slot', P', a, v, hadds, hv⟩ := hfirst
    rw [(step_of_adds hd hadds hv).2]
    by_cases haddress : slot = slot' ∧ P = P'
    · rw [if_pos haddress, Base.amounts_cons_of_addresses (hadds.addresses_iff.mpr haddress)
        hadds.amount]
      obtain ⟨rfl, rfl⟩ := haddress
      rw [hv]
      rfl
    · rw [if_neg haddress,
        Base.amounts_cons_of_not_addresses fun h => haddress (hadds.addresses_iff.mp h)]

/-- The order of the updates counts at most among those of one and the same leaf, and
for integers, truth values and trees not even there. -/
theorem updates_accumulate (hop : ∀ d ∈ steps, d.op? = some .update) (hdone : s.Succeeds steps) :
    (∀ others : List Datum, steps.Perm others →
      k.base.orderFree = true ∨ (∀ slot P,
        others.filter (Datum.addresses slot P) = steps.filter (Datum.addresses slot P)) →
      s.Succeeds others ∧ s.after others = s.after steps) ∧
    (∀ d ∈ steps, ∃ slot P a v, d.Adds k.base slot P a ∧ s.leaf? slot P = some v) ∧
    ∀ slot P,
      (s.leaf? slot P = none → (s.after steps).leaf? slot P = none) ∧
      ∀ v, s.leaf? slot P = some v → ∃ w, (s.after steps).leaf? slot P = some w ∧
        k.base.Accumulates v (k.base.amounts slot P steps) w ∧
        ((∀ d ∈ steps, d.addresses slot P = false) → w = v) := by
  have haccepts : ∀ d ∈ steps, s.Accepts d := (succeeds_iff hop).mp hdone
  refine ⟨fun others hperm horder => ?_, haccepts, fun slot P => ⟨fun hnone => ?_, fun v hv => ?_⟩⟩
  · have hop' : ∀ d ∈ others, d.op? = some .update := fun d hd => hop d (hperm.mem_iff.mpr hd)
    have haccepts' : ∀ d ∈ others, s.Accepts d := fun d hd => haccepts d (hperm.mem_iff.mpr hd)
    refine ⟨(succeeds_iff hop').mpr haccepts', ext_leaf? fun slot P => ?_⟩
    rw [leaf?_after hop haccepts, leaf?_after hop' haccepts']
    refine congrArg (fun f => (s.leaf? slot P).map f) (funext fun v => ?_)
    rcases horder with hfree | hfilter
    · exact ((Base.amounts_perm hperm).symm.foldl_eq'
        (fun a _ c _ w => Base.adjust_right_comm hfree w a c) v)
    · rw [Base.amounts, hfilter, Base.amounts]
  · rw [leaf?_after hop haccepts, hnone, Option.map_none]
  · obtain ⟨p, -, hleaf⟩ := Option.bind_eq_some_iff.mp hv
    have hv' : k.base.isLeaf v = true := (Kind.leaf?_eq_some_iff.mp hleaf).2
    refine ⟨_, by rw [leaf?_after hop haccepts, hv, Option.map_some],
      Base.accumulates_foldl hv' _, fun hother => ?_⟩
    rw [Base.amounts_of_not_addressed hother, List.foldl_nil]

/-- One order wraps around twice and the other never. -/
theorem updates_accumulate_wrapped :
    let k : Kind := { base := .integer { signed := true, bits := 8 } }
    let s : Store k := (∅ : Store k).apply (.put "p" ⟨100#8, 0#8⟩)
    let add (axis : Axis) (amount : String) : Datum := .record [("op", .text "update"),
      ("slot", .text "p"), ("path", .ofPath [axis]), ("v", .text amount)]
    let steps := [add .x "100", add .y "1", add .x "-120"]
    let others := [add .x "-120", add .y "1", add .x "100"]
    s.Succeeds steps ∧ s.Succeeds others ∧ s.after others = s.after steps ∧
      (s.after steps).leaf? "p" [.x] = some 80#8 := by
  intro k s add steps others
  have hp : s[("p" : String)]? = some ⟨100#8, 0#8⟩ := getElem?_apply_put ..
  have hx : s.leaf? "p" [.x] = some 100#8 := by rw [leaf?, hp]; rfl
  have hy : s.leaf? "p" [.y] = some 0#8 := by rw [leaf?, hp]; rfl
  have hop : ∀ d ∈ steps, d.op? = some .update := by
    simp only [steps, List.forall_mem_cons]
    exact ⟨rfl, rfl, rfl, fun _ h => absurd h List.not_mem_nil⟩
  have hdone : s.Succeeds steps := by
    rw [succeeds_iff hop]
    simp only [steps, List.forall_mem_cons]
    exact ⟨⟨"p", [.x], 100#8, 100#8, ⟨rfl, rfl, rfl⟩, hx⟩,
      ⟨"p", [.y], 1#8, 0#8, ⟨rfl, rfl, rfl⟩, hy⟩,
      ⟨"p", [.x], (-120 : BitVec 8), 100#8, ⟨rfl, rfl, rfl⟩, hx⟩,
      fun _ h => absurd h List.not_mem_nil⟩
  obtain ⟨horder, -, hleaf⟩ := updates_accumulate hop hdone
  have hperm : steps.Perm others := (List.reverse_perm steps).symm
  obtain ⟨hothers, hsame⟩ := horder others hperm (Or.inl rfl)
  obtain ⟨w, hw, hsum, -⟩ := (hleaf "p" [.x]).2 _ hx
  have hamounts : k.base.amounts "p" [.x] steps = [100#8, (-120 : BitVec 8)] := by decide +kernel
  rw [hamounts] at hsum
  have hvalue : w = 80#8 := (Integer.Format.toInt_inj ⟨true, 8⟩).mp (hsum.trans (by decide))
  exact ⟨hdone, hothers, hsame, hw.trans (congrArg some hvalue)⟩

end Store

end Planar
