import Planar.Proofs.Step.Accumulate
import Planar.Proofs.Step.Copy

/-! Building a point out of another and changing a copy of it in place come to the
same. A step that builds a point from one slot into another may stand for the steps
that copy it and then assign to its coordinates, and these for the step, wherever the
point is put and whatever follows. -/

namespace Planar

namespace Datum

structure Between (d : Datum) (op : Op) (source target : String) : Prop where
  op : d.op? = some op
  source : d.name? "from" = some source
  target : d.name? "to" = some target

def Selects (d : Datum) (axis : Axis) : Prop := (d.name? "field").bind Axis.ofName? = some axis

end Datum

open Datum

theorem Point.set_set_other {α : Type} (p : Point α) (axis : Axis) :
    (p.set axis (p.get axis.other)).set axis.other (p.get axis) = p.swap := by
  cases axis <;> rfl

namespace Store

variable {k : Kind} {s : Store k} {d : Datum} {source target slot : String} {p q : k.point.Val}
  {axis : Axis} {v : k.Val} {steps others : List Datum}

/-- Nothing that follows can tell which of the two scripts was run. -/
def Interchangeable (s : Store k) (steps others : List Datum) : Prop :=
  s.after steps = s.after others ∧ ∀ rest,
    (s.run (steps ++ rest)).drop steps.length = (s.run (others ++ rest)).drop others.length

theorem drop_run_append (s : Store k) (steps rest : List Datum) :
    (s.run (steps ++ rest)).drop steps.length = (s.after steps).run rest := by
  rw [run_append, ← length_run s steps, List.drop_left]

theorem interchangeable_of_after (h : s.after steps = s.after others) :
    s.Interchangeable steps others :=
  ⟨h, fun rest => by rw [drop_run_append, drop_run_append, h]⟩

structure Puts (s : Store k) (steps : List Datum) (slot : String) (p : k.point.Val) : Prop where
  succeeds : s.Succeeds steps
  after : s.after steps = s.apply (.put slot p)

theorem puts_singleton (h : s.step d = ⟨.ok .done, s.apply (.put slot p)⟩) :
    s.Puts [d] slot p := by
  refine ⟨succeeds_cons_iff.mpr ⟨congrArg Entry.result h, fun e he => ?_⟩, congrArg Entry.store h⟩
  cases he

theorem puts_cons (h : s.step d = ⟨.ok .done, s.apply (.put slot p)⟩)
    (hsteps : (s.apply (.put slot p)).Puts steps slot q) : s.Puts (d :: steps) slot q := by
  constructor
  · rw [succeeds_cons_iff, h]
    exact ⟨rfl, hsteps.succeeds⟩
  · have hafter : s.after (d :: steps) = (s.step d).store.after steps := rfl
    rw [hafter, h, hsteps.after, apply_put_put]

theorem Puts.interchangeable (h : s.Puts steps slot p) (h' : s.Puts others slot p) :
    s.Interchangeable steps others := interchangeable_of_after (h.after.trans h'.after.symm)

theorem step_clone (hd : d.Between .clone source target) (hp : s[source]? = some p) :
    s.step d = ⟨.ok .done, s.apply (.put target p)⟩ :=
  step_duplicate (Or.inl hd.op) hd.source hp hd.target

theorem step_transpose (hd : d.Between .transpose source target) (hp : s[source]? = some p) :
    s.step d = ⟨.ok .done, s.apply (.put target p.swap)⟩ :=
  (Performs.transpose hd.source hp hd.target).step hd.op

theorem step_replace (hd : d.Between .replace source target) (haxis : d.Selects axis)
    (hv : d.Carries k v) (hp : s[source]? = some p) :
    s.step d = ⟨.ok .done, s.apply (.put target (p.set axis v))⟩ :=
  (Performs.replace hd.source hp hv haxis hd.target).step hd.op

theorem step_set_coordinate (hd : d.Along .set slot (.ofPath [axis])) (hv : d.Carries k v)
    (hp : s[slot]? = some p) : s.step d = ⟨.ok .done, s.apply (.put slot (p.set axis v))⟩ :=
  step_set hd hv (List.cons_ne_nil axis []) hp (.coordinate (.here (p.get axis)))

theorem exists_replaced {reply : Reply k.base} (hop : d.op? = some .replace)
    (h : (s.step d).result = .ok reply) :
    ∃ source target axis v p, d.Between .replace source target ∧ d.Selects axis ∧
      d.Carries k v ∧ s[source]? = some p := by
  obtain ⟨op, a, hop', hperforms, -⟩ := exists_performs h
  obtain rfl : Op.replace = op := Option.some.inj (hop.symm.trans hop')
  cases hperforms with
  | replace hfrom hp hv haxis hto => exact ⟨_, _, _, _, _, ⟨hop, hfrom, hto⟩, haxis, hv, hp⟩

theorem exists_transposed {reply : Reply k.base} (hop : d.op? = some .transpose)
    (h : (s.step d).result = .ok reply) :
    ∃ source target p, d.Between .transpose source target ∧ s[source]? = some p := by
  obtain ⟨op, a, hop', hperforms, -⟩ := exists_performs h
  obtain rfl : Op.transpose = op := Option.some.inj (hop.symm.trans hop')
  cases hperforms with
  | transpose hfrom hp hto => exact ⟨_, _, _, ⟨hop, hfrom, hto⟩, hp⟩

theorem exists_clone (source target : String) : ∃ d : Datum, d.Between .clone source target :=
  ⟨.record [("op", .text "clone"), ("from", .text source), ("to", .text target)], rfl, rfl, rfl⟩

theorem exists_set (slot : String) (axis : Axis) (v : k.Val) :
    ∃ d : Datum, d.Along .set slot (.ofPath [axis]) ∧ d.Carries k v := by
  obtain ⟨e, he⟩ := k.exists_read?_eq v
  exact ⟨.record [("op", .text "set"), ("slot", .text slot), ("path", .ofPath [axis]), ("v", e)],
    ⟨rfl, rfl, rfl⟩, he⟩

theorem exists_replace (source target : String) (axis : Axis) (v : k.Val) :
    ∃ d : Datum, d.Between .replace source target ∧ d.Selects axis ∧ d.Carries k v := by
  obtain ⟨e, he⟩ := k.exists_read?_eq v
  exact ⟨.record [("op", .text "update_struct"), ("from", .text source), ("v", e),
    ("field", .text axis.name), ("to", .text target)], ⟨rfl, rfl, rfl⟩, axis.ofName?_name, he⟩

/-- The first part says that there are steps of the forms that the others speak of. -/
theorem building_is_assignment_to_copy {reply : Reply k.base}
    (h : (s.step d).result = .ok reply) :
    (∀ (source target : String) (axis : Axis) (v : k.Val),
      (∃ clone : Datum, clone.Between .clone source target) ∧
      (∃ set : Datum, set.Along .set target (.ofPath [axis]) ∧ set.Carries k v) ∧
      ∃ replace : Datum, replace.Between .replace target target ∧ replace.Selects axis ∧
        replace.Carries k v) ∧
    (d.op? = some .replace → ∃ source target axis v, d.Between .replace source target ∧
      d.Selects axis ∧ d.Carries k v ∧
      (source ≠ target → (s.step d).store[source]? = s[source]?) ∧
      ∀ clone set : Datum, clone.Between .clone source target →
        set.Along .set target (.ofPath [axis]) → set.Carries k v →
        s.Succeeds [clone, set] ∧ s.Interchangeable [d] [clone, set] ∧
        (source = target → s.Succeeds [set] ∧ s.Interchangeable [d] [set])) ∧
    (d.op? = some .transpose → ∃ source target, ∃ p : k.point.Val,
      d.Between .transpose source target ∧ s[source]? = some p ∧
      (source ≠ target → (s.step d).store[source]? = s[source]?) ∧
      (∀ (axis : Axis) (clone first second : Datum), clone.Between .clone source target →
        first.Between .replace target target → first.Selects axis →
        first.Carries k (Point.get p axis.other) →
        second.Between .replace target target → second.Selects axis.other →
        second.Carries k (Point.get p axis) →
        s.Succeeds [clone, first, second] ∧ s.Interchangeable [d] [clone, first, second]) ∧
      ∀ again : Datum, source = target → again.Between .transpose target target →
        s.Succeeds [d, again] ∧ s.Interchangeable [d, again] []) := by
  refine ⟨fun source target axis v => ⟨exists_clone source target, exists_set target axis v,
    exists_replace target target axis v⟩, fun hop => ?_, fun hop => ?_⟩
  · obtain ⟨source, target, axis, v, p, hd, haxis, hv, hp⟩ := exists_replaced hop h
    have hstep := step_replace hd haxis hv hp
    refine ⟨source, target, axis, v, hd, haxis, hv, fun hne => ?_, ?_⟩
    · rw [hstep]
      exact s.getElem?_apply_put_of_ne hne.symm _
    · intro clone set hclone hset hcarries
      have hputs : s.Puts [clone, set] target (p.set axis v) :=
        puts_cons (step_clone hclone hp)
          (puts_singleton (step_set_coordinate hset hcarries (getElem?_apply_put ..)))
      refine ⟨hputs.succeeds, (puts_singleton hstep).interchangeable hputs, ?_⟩
      rintro rfl
      have hinplace : s.Puts [set] source (p.set axis v) :=
        puts_singleton (step_set_coordinate hset hcarries hp)
      exact ⟨hinplace.succeeds, (puts_singleton hstep).interchangeable hinplace⟩
  · obtain ⟨source, target, p, hd, hp⟩ := exists_transposed hop h
    have hstep := step_transpose hd hp
    refine ⟨source, target, p, hd, hp, fun hne => ?_, ?_, ?_⟩
    · rw [hstep]
      exact s.getElem?_apply_put_of_ne hne.symm _
    · intro axis clone first second hclone hfirst hfield hv hsecond hother hw
      have hputs : s.Puts [clone, first, second] target p.swap := by
        rw [← p.set_set_other axis]
        exact puts_cons (step_clone hclone hp)
          (puts_cons (step_replace hfirst hfield hv (getElem?_apply_put ..))
            (puts_singleton (step_replace hsecond hother hw (getElem?_apply_put ..))))
      exact ⟨hputs.succeeds, (puts_singleton hstep).interchangeable hputs⟩
    · rintro again rfl hagain
      have hputs : s.Puts [d, again] source p.swap.swap :=
        puts_cons hstep (puts_singleton (step_transpose hagain (getElem?_apply_put ..)))
      refine ⟨hputs.succeeds, interchangeable_of_after ?_⟩
      rw [hputs.after, Point.swap_swap, apply_put_self hp]
      rfl

/-- Source and target are the same slot, and one of the coordinates is a NaN. -/
theorem transposition_in_place_of_nan :
    let k : Kind := { base := .binary .single }
    let p : k.point.Val := ⟨0x7fc00000#32, 0x3f800000#32⟩
    let s : Store k := (∅ : Store k).apply (.put "p" p)
    let transpose : Datum :=
      .record [("op", .text "transpose"), ("from", .text "p"), ("to", .text "p")]
    let clone : Datum := .record [("op", .text "clone"), ("from", .text "p"), ("to", .text "p")]
    let replace (field v : String) : Datum := .record [("op", .text "update_struct"),
      ("from", .text "p"), ("v", .text v), ("field", .text field), ("to", .text "p")]
    let steps := [clone, replace "x" "3f800000", replace "y" "7fc00000"]
    (s.step transpose).result = .ok .done ∧ s.Succeeds steps ∧
      s.Interchangeable [transpose] steps ∧ s.Interchangeable [transpose, transpose] [] := by
  intro k p s transpose clone replace steps
  have hp : s[("p" : String)]? = some p := getElem?_apply_put ..
  have hbetween : transpose.Between .transpose "p" "p" := ⟨rfl, rfl, rfl⟩
  have hdone : (s.step transpose).result = .ok .done :=
    congrArg Entry.result (step_transpose hbetween hp)
  obtain ⟨-, -, htranspose⟩ := building_is_assignment_to_copy hdone
  obtain ⟨source, target, q, ⟨-, hsource, htarget⟩, hq, -, hcopied, hundone⟩ := htranspose rfl
  obtain rfl : "p" = source := Option.some.inj hsource
  obtain rfl : "p" = target := Option.some.inj htarget
  obtain rfl : p = q := Option.some.inj (hp.symm.trans hq)
  obtain ⟨hsucceeds, hsame⟩ := hcopied .x clone (replace "x" "3f800000") (replace "y" "7fc00000")
    ⟨rfl, rfl, rfl⟩ ⟨rfl, rfl, rfl⟩ rfl rfl ⟨rfl, rfl, rfl⟩ rfl rfl
  exact ⟨hdone, hsucceeds, hsame, (hundone transpose rfl hbetween).2⟩

end Store

end Planar
