import Planar.Proofs.Step.Meaning
import Planar.Proofs.Written.RoundTrip
import Mathlib.Data.List.Nodup

/-! A store without NaNs is known by what is written of it. Steps that build each
written point from its two coordinates, in any order of the slots, lead from the
empty store to the same store, and so every script goes on in the same way. -/

namespace Planar

structure Datum.Builds (d : Datum) (slot : String) (point : Datum) : Prop where
  op : d.op? = some .build
  target : d.name? "to" = some slot
  x : d.field? "x" = point.field? "x"
  y : d.field? "y" = point.field? "y"

theorem Kind.hasNaN_point {k : Kind} (p : k.point.Val) :
    k.point.hasNaN p = (k.hasNaN p.x || k.hasNaN p.y) := by
  rw [hasNaN, hasNaN, hasNaN, Nested.leaves, List.any_append]

namespace Store

variable {k : Kind}

theorem step_of_builds {t : Store k} {d : Datum} {slot : String} {p : k.point.Val}
    (hp : k.point.hasNaN p = false) (hd : d.Builds slot (k.point.write p)) :
    t.step d = ⟨.ok .done, t.apply (.put slot p)⟩ := by
  rw [Kind.hasNaN_point, Bool.or_eq_false_iff] at hp
  have hx : (d.field? "x").bind k.read? = some p.x := by
    rw [hd.x]
    exact Kind.read?_write hp.1
  have hy : (d.field? "y").bind k.read? = some p.y := by
    rw [hd.y]
    exact Kind.read?_write hp.2
  exact (Performs.build hx hy hd.target).step hd.op

def NaNFree (s : Store k) : Prop :=
  ∀ (slot : String) (p : k.point.Val), s[slot]? = some p → k.point.hasNaN p = false

theorem run_builds {s : Store k} (hs : s.NaNFree) {news : List Datum}
    {fields : List (String × Datum)} (hfields : ∀ field ∈ fields, field ∈ s.written)
    (hnews : List.Forall₂ (fun d field => d.Builds field.1 field.2) news fields) (t : Store k) :
    (∀ e ∈ t.run news, e.result = .ok .done) ∧
    (∀ slot ∈ fields.map Prod.fst, (t.after news)[slot]? = s[slot]?) ∧
    ∀ slot ∉ fields.map Prod.fst, (t.after news)[slot]? = t[slot]? := by
  induction hnews generalizing t with
  | nil => exact ⟨fun _ he => absurd he List.not_mem_nil, fun _ h => absurd h List.not_mem_nil,
      fun _ _ => rfl⟩
  | @cons d field news fields hd _ ih =>
    obtain ⟨hfield, hfields⟩ := List.forall_mem_cons.mp hfields
    obtain ⟨p, hp, hw⟩ := s.mem_written_iff.mp hfield
    have hstep : t.step d = ⟨.ok .done, t.apply (.put field.1 p)⟩ :=
      step_of_builds (hs field.1 p hp) (hw ▸ hd)
    have hafter : t.after (d :: news) = (t.step d).store.after news := rfl
    obtain ⟨hresults, hbuilt, hother⟩ := ih hfields (t.step d).store
    refine ⟨List.forall_mem_cons.mpr ⟨by rw [hstep], hresults⟩, fun slot hslot => ?_,
      fun slot hslot => ?_⟩
    -- A slot that is built again later on is built from the same point.
    · rw [hafter]
      by_cases hrest : slot ∈ fields.map Prod.fst
      · exact hbuilt slot hrest
      · obtain rfl : slot = field.1 := (List.mem_cons.mp hslot).resolve_right hrest
        rw [hother field.1 hrest, hstep, hp, getElem?_apply_put]
    · obtain ⟨hne, hrest⟩ := not_or.mp fun h => hslot (List.mem_cons.mpr h)
      rw [hafter, hother slot hrest, hstep]
      exact t.getElem?_apply_of_ne fun h => hne (Option.some.inj h).symm

theorem after_builds {s : Store k} (hs : s.NaNFree) {news : List Datum}
    {fields : List (String × Datum)} (hfields : fields.Perm s.written)
    (hnews : List.Forall₂ (fun d field => d.Builds field.1 field.2) news fields) :
    (∅ : Store k).after news = s := by
  obtain ⟨-, hbuilt, hother⟩ := run_builds hs (fun field => hfields.mem_iff.mp) hnews ∅
  refine Std.ExtTreeMap.ext_getElem? fun slot => ?_
  by_cases hslot : slot ∈ fields.map Prod.fst
  · exact hbuilt slot hslot
  · rw [hother slot hslot, Std.ExtTreeMap.getElem?_empty]
    cases hp : s[slot]? with
    | none => rfl
    | some p =>
      -- A slot in use has a field of its own.
      have hw : (slot, k.point.write p) ∈ fields :=
        hfields.mem_iff.mpr (s.mem_written_iff.mpr ⟨p, hp, rfl⟩)
      exact absurd (List.mem_map.mpr ⟨_, hw, rfl⟩) hslot

theorem run_of_rebuilt {P Q news : List Datum} {fields : List (String × Datum)}
    (hP : ((∅ : Store k).after P).NaNFree)
    (hfields : fields.Perm ((∅ : Store k).after P).written)
    (hnews : List.Forall₂ (fun d field => d.Builds field.1 field.2) news fields) :
    (∀ e ∈ (∅ : Store k).run news, e.result = .ok .done) ∧
    (∅ : Store k).after news = (∅ : Store k).after P ∧
    ((∅ : Store k).run (news ++ Q)).drop news.length =
      ((∅ : Store k).run (P ++ Q)).drop P.length := by
  have hafter : (∅ : Store k).after news = (∅ : Store k).after P := after_builds hP hfields hnews
  refine ⟨(run_builds hP (fun field => hfields.mem_iff.mp) hnews ∅).1, hafter, ?_⟩
  rw [run_append, run_append, hafter, List.drop_left' (length_run ..),
    List.drop_left' (length_run ..)]

/-- A number that wrapped around is built again from what is written of it. -/
theorem run_of_rebuilt_wrapped :
    let k : Kind := { base := .integer { signed := true, bits := 8 } }
    let build : Datum := .record
      [("op", .text "new"), ("x", .text "100"), ("y", .text "1"), ("to", .text "a")]
    let clone : Datum := .record [("op", .text "clone"), ("from", .text "a"), ("to", .text "b")]
    let double : Datum := .record
      [("op", .text "update"), ("slot", .text "b"), ("path", .list [.text "x"]), ("v", .text "100")]
    let Q : List Datum := [.record [("op", .text "ne"), ("a", .text "a"), ("b", .text "b")]]
    let news : List Datum :=
      [.record [("op", .text "new"), ("to", .text "b"), ("x", .text "-56"), ("y", .text "1")],
      .record [("op", .text "new"), ("to", .text "a"), ("x", .text "100"), ("y", .text "1")]]
    let s := (∅ : Store k).after [build, clone, double]
    let rebuilt := (∅ : Store k).after news
    s.NaNFree ∧ rebuilt = s ∧
      rebuilt["a"]? = some ⟨100#8, 1#8⟩ ∧ rebuilt["b"]? = some ⟨200#8, 1#8⟩ ∧
      ((∅ : Store k).run (news ++ Q)).drop 2 =
        ((∅ : Store k).run ([build, clone, double] ++ Q)).drop 3 := by
  have hp : Kind.write ⟨.integer ⟨true, 8⟩, 1⟩ ⟨100#8, 1#8⟩ =
      .record [("x", .text "100"), ("y", .text "1")] := rfl
  have hq : Kind.write ⟨.integer ⟨true, 8⟩, 1⟩ ⟨200#8, 1#8⟩ =
      .record [("x", .text "-56"), ("y", .text "1")] := rfl
  intro k build clone double Q news s rebuilt
  let p : k.point.Val := ⟨100#8, 1#8⟩
  let q : k.point.Val := ⟨200#8, 1#8⟩
  let s₁ : Store k := (∅ : Store k).apply (.put "a" p)
  let s₂ : Store k := s₁.apply (.put "b" p)
  have h₁ : (∅ : Store k).step build = ⟨.ok .done, s₁⟩ :=
    (Performs.build rfl rfl rfl : Performs (∅ : Store k) _ .build (.put "a" p)).step rfl
  have h₂ : s₁.step clone = ⟨.ok .done, s₂⟩ :=
    (Performs.clone rfl (getElem?_apply_put ..) rfl).step rfl
  have h₃ : s₂.step double = ⟨.ok .done, s₂.apply (.put "b" q)⟩ :=
    (Performs.update rfl (getElem?_apply_put ..) rfl rfl rfl).step rfl
  have hs : s = s₂.apply (.put "b" q) := by
    simp only [s, after, List.foldl_cons, List.foldl_nil, h₁, h₂, h₃]
  have hfree : s.NaNFree := fun _ p _ => Kind.hasNaN_of_not_binary rfl p
  let fields : List (String × Datum) :=
    [("b", .record [("x", .text "-56"), ("y", .text "1")]),
      ("a", .record [("x", .text "100"), ("y", .text "1")])]
  have ha : s["a"]? = some p := by
    rw [hs, getElem?_apply_of_ne _ (by decide), getElem?_apply_of_ne _ (by decide),
      getElem?_apply_put]
  have hb : s["b"]? = some q := by
    rw [hs, getElem?_apply_put]
  have hfields : fields.Perm s.written := by
    refine (List.perm_ext_iff_of_nodup (List.Nodup.of_map Prod.fst (by decide))
      (List.Nodup.of_map Prod.fst s.distinct_written)).mpr fun field => ?_
    obtain ⟨slot, d⟩ := field
    rw [mem_written_iff]
    constructor
    · intro hmem
      rcases List.mem_pair.mp hmem with hfield | hfield
      · obtain ⟨rfl, rfl⟩ := Prod.mk.inj hfield
        exact ⟨q, hb, hq⟩
      · obtain ⟨rfl, rfl⟩ := Prod.mk.inj hfield
        exact ⟨p, ha, hp⟩
    · rintro ⟨r, hr, rfl⟩
      by_cases hslot : slot = "a" ∨ slot = "b"
      · rcases hslot with rfl | rfl
        · obtain rfl : p = r := Option.some.inj (ha.symm.trans hr)
          exact .tail _ (hp ▸ .head _)
        · obtain rfl : q = r := Option.some.inj (hb.symm.trans hr)
          exact hq ▸ .head _
      · obtain ⟨hna, hnb⟩ := not_or.mp hslot
        simp [hs, s₂, s₁, apply, Ne.symm hna, Ne.symm hnb] at hr
  have hnews : List.Forall₂ (fun d field => d.Builds field.1 field.2) news fields :=
    .cons ⟨rfl, rfl, rfl, rfl⟩ (.cons ⟨rfl, rfl, rfl, rfl⟩ .nil)
  obtain ⟨-, hafter, hrun⟩ := run_of_rebuilt hfree hfields hnews
  have hrebuilt : rebuilt = s := hafter
  exact ⟨hfree, hrebuilt, hrebuilt ▸ ha, hrebuilt ▸ hb, hrun⟩

end Store

end Planar
