import Planar.Proofs.Amount
import Planar.Proofs.Step.Lens

/-! Two points updated by the same amount at the same path. What an update does can be
taken back, also where a number wraps around, so that the points are equal afterwards
when they were equal before. An update changes nothing when its amount is the neutral
one. -/

namespace Planar

namespace Kind

variable {k : Kind} {p q p' q' : k.Val} {P : List Axis} {e : Datum}

theorem leaf?_eq_of_update (hb : k.base.isBinary = false) (hp : k.update p P e = .ok p')
    (hq : k.update q P e = .ok p') (Q : List Axis) : k.leaf? p Q = k.leaf? q Q := by
  obtain ⟨v, a, hv, ha, hleaf⟩ := leaf?_of_update hp
  obtain ⟨w, c, hw, hc, hleaf'⟩ := leaf?_of_update hq
  obtain rfl : a = c := Option.some.inj (ha.symm.trans hc)
  have hsame := (hleaf Q).symm.trans (hleaf' Q)
  by_cases hQ : Q = P
  · subst hQ
    rw [if_pos rfl, if_pos rfl, Option.some_inj, Base.adjust_inj hb
      (leaf?_eq_some_iff.mp hv).2 (leaf?_eq_some_iff.mp hw).2] at hsame
    rw [hv, hw, hsame]
  · rwa [if_neg hQ, if_neg hQ] at hsame

theorem update_inj (hb : k.base.isBinary = false) (hp : k.update p P e = .ok p')
    (hq : k.update q P e = .ok q') : p' = q' ↔ p = q := by
  constructor
  · rintro rfl
    exact ext_leaf? fun Q v hv => leaf?_eq_of_update hb hp hq Q ▸ hv
  · rintro rfl
    exact Except.ok.inj (hp.symm.trans hq)

theorem update_eq_self_iff (hb : k.base.isBinary = false) (hp : k.update p P e = .ok p') :
    p' = p ↔ e = k.base.neutral := by
  obtain ⟨v, a, hv, ha, hleaf⟩ := leaf?_of_update hp
  rw [← Base.adjust_eq_self_iff hb (leaf?_eq_some_iff.mp hv).2 ha]
  constructor
  · rintro rfl
    have hP := hleaf P
    rw [if_pos rfl, hv] at hP
    exact (Option.some.inj hP).symm
  · intro hself
    refine ext_leaf? fun Q w hw => ?_
    rw [hleaf] at hw
    by_cases hQ : Q = P
    · rwa [if_pos hQ, hself, ← hv, ← hQ] at hw
    · rwa [if_neg hQ] at hw

end Kind

namespace Store

variable {k : Kind} {s : Store k} {slot : String} {path e d : Datum}

theorem exists_update_along (hd : d.Along .update slot path) (he : d.field? "v" = some e)
    (h : (s.step d).result = .ok .done) :
    ∃ P p q, d.path? = some P ∧ s[slot]? = some p ∧ k.point.update p P e = .ok q ∧
      s.step d = ⟨.ok .done, s.apply (.put slot q)⟩ := by
  obtain ⟨slot', P, e', p, q, hslot, hpath, he', hp, hq, hstep⟩ := exists_update_of_done hd.op h
  obtain rfl : slot = slot' := Option.some.inj (hd.slot.symm.trans hslot)
  obtain rfl : e = e' := Option.some.inj (he.symm.trans he')
  exact ⟨P, p, q, hpath, hp, hq, hstep⟩

theorem path?_eq_of_along {op : Op} {slot' : String} {d' : Datum} (hd : d.Along op slot path)
    (hd' : d'.Along op slot' path) : d.path? = d'.path? := by
  rw [Datum.path?, Datum.path?, hd.path, hd'.path]

/-- The last part is on points in two slots, compared before and after both are updated. -/
theorem update_alike_preserves_equality {a b : String} {da db : Datum}
    (hk : k.base.isBinary = false)
    (hda : da.Along .update a path) (hea : da.field? "v" = some e)
    (hdb : db.Along .update b path) (heb : db.field? "v" = some e)
    (ha : (s.step da).result = .ok .done) (hb : (s.step db).result = .ok .done) :
    ∃ p q p' q' : k.point.Val, s[a]? = some p ∧ s[b]? = some q ∧
      (s.step da).store[a]? = some p' ∧ (s.step db).store[b]? = some q' ∧
      (k.point.eq p' q' = true ↔ k.point.eq p q = true) ∧
      (k.point.eq p' p = true ↔ e = k.base.neutral) ∧
      (a ≠ b → ∀ same : Datum,
        same.op? = some .eq ∧ same.name? "a" = some a ∧ same.name? "b" = some b →
        (((s.step da).store.step db).store.step same).result = (s.step same).result) := by
  obtain ⟨P, p, p', hP, hp, hp', hstepa⟩ := exists_update_along hda hea ha
  obtain ⟨Q, q, q', hQ, hq, hq', hstepb⟩ := exists_update_along hdb heb hb
  obtain rfl : P = Q := by
    rw [path?_eq_of_along hda hdb, hQ] at hP
    exact (Option.some.inj hP).symm
  have heq : k.point.eq p' q' = true ↔ k.point.eq p q = true := by
    rw [Kind.eq_iff_eq (k := k.point) hk, Kind.eq_iff_eq (k := k.point) hk]
    exact Kind.update_inj (k := k.point) hk hp' hq'
  have hself : k.point.eq p' p = true ↔ e = k.base.neutral := by
    rw [Kind.eq_iff_eq (k := k.point) hk]
    exact Kind.update_eq_self_iff (k := k.point) hk hp'
  refine ⟨p, q, p', q', hp, hq, ?_, ?_, heq, hself, ?_⟩
  · rw [hstepa, getElem?_apply_put]
  · rw [hstepb, getElem?_apply_put]
  · rintro hab same ⟨hop, hsa, hsb⟩
    have hq₁ : (s.apply (.put a p'))[b]? = some q := by
      rw [getElem?_apply_put_of_ne s hab, hq]
    have hboth : (s.step da).store.step db =
        ⟨.ok .done, (s.apply (.put a p')).apply (.put b q')⟩ := by
      rw [hstepa]
      exact (Performs.update hdb.slot hq₁ hQ heb hq').step hdb.op
    have hp₂ : ((s.apply (.put a p')).apply (.put b q'))[a]? = some p' := by
      rw [getElem?_apply_put_of_ne _ (Ne.symm hab), getElem?_apply_put]
    rw [hboth, (Performs.eq hsa hp₂ hsb (getElem?_apply_put ..)).step hop,
      (Performs.eq hsa hp hsb hq).step hop, Bool.eq_iff_iff.mpr heq]

/-- The trees differ in shape, and the numbers updated are the greatest there are. -/
theorem update_alike_of_greatest :
    let k : Kind := { base := .tree { signed := true, bits := 64 } }
    let greatest : k.Val := .leaf 0x7fffffffffffffff#64
    let least : k.Val := .leaf 0x8000000000000000#64
    let s : Store k := ((∅ : Store k).apply (.put "p" ⟨greatest, .leaf 1#64⟩)).apply
      (.put "q" ⟨greatest, .node ⟨.leaf 1#64, .leaf 1#64⟩⟩)
    let add (slot : String) : Datum := .record [("op", .text "update"), ("slot", .text slot),
      ("path", .ofPath [.x]), ("v", .text "1")]
    let same : Datum := .record [("op", .text "eq"), ("a", .text "p"), ("b", .text "q")]
    (s.step (add "p")).store[("p" : String)]? = some ⟨least, .leaf 1#64⟩ ∧
    (((s.step (add "p")).store.step (add "q")).store.step same).result =
      (s.step same).result := by
  intro k greatest least s add same
  have hp : s[("p" : String)]? = some ⟨greatest, .leaf 1#64⟩ := by
    rw [getElem?_apply_put_of_ne _ (by decide), getElem?_apply_put]
  have hq : s[("q" : String)]? = some ⟨greatest, .node ⟨.leaf 1#64, .leaf 1#64⟩⟩ :=
    getElem?_apply_put ..
  have hstep : s.step (add "p") = ⟨.ok .done, s.apply (.put "p" ⟨least, .leaf 1#64⟩)⟩ :=
    (Performs.update rfl hp rfl rfl rfl).step rfl
  have hstep' : (s.step (add "q")).result = .ok .done :=
    congrArg Entry.result ((Performs.update rfl hq rfl rfl rfl).step rfl)
  have halong : ∀ slot, (add slot).Along .update slot (.ofPath [.x]) := fun _ => ⟨rfl, rfl, rfl⟩
  obtain ⟨_, _, _, _, -, -, -, -, -, -, hsame⟩ := update_alike_preserves_equality rfl
    (halong "p") rfl (halong "q") rfl (congrArg Entry.result hstep) hstep'
  exact ⟨by rw [hstep, getElem?_apply_put], hsame (by decide) same ⟨rfl, rfl, rfl⟩⟩

end Store

end Planar
