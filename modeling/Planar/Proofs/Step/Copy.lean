import Planar.Proofs.Blocks
import Planar.Proofs.Leaf
import Planar.Proofs.Step.Lens

/-! A copy in which one place is set, compared with its original. The two are equal
when the new value is equal to the old one there and every leaf elsewhere is equal
to itself. Leaves elsewhere are compared with themselves, for both points hold them. -/

namespace Planar

namespace Axis

theorem ne_other (axis : Axis) : axis ≠ axis.other := by
  cases axis <;> decide

theorem eq_other_of_ne {axis axis' : Axis} (h : axis ≠ axis') : axis' = axis.other := by
  cases axis <;> cases axis' <;> first | rfl | exact absurd rfl h

end Axis

theorem Parallel.forall_cons_iff {axis : Axis} {P : List Axis} {holds : List Axis → Prop} :
    (∀ Q, Parallel (axis :: P) Q → holds Q) ↔
      (∀ Q, Parallel P Q → holds (axis :: Q)) ∧ ∀ Q, holds (axis.other :: Q) := by
  constructor
  · intro h
    exact ⟨fun Q hPQ => h _ (cons_iff.mpr fun _ => hPQ),
      fun Q => h _ (cons_iff.mpr fun ha => absurd ha axis.ne_other)⟩
  · rintro ⟨hsame, hother⟩ Q hPQ
    obtain ⟨axis', Q, rfl⟩ := hPQ.exists_cons
    by_cases ha : axis = axis'
    · subst ha
      exact hsame Q (cons_iff.mp hPQ rfl)
    · obtain rfl := Axis.eq_other_of_ne ha
      exact hother Q

theorem Point.eqBy_set_iff {α : Type} {eq : α → α → Bool} (p : Point α) (axis : Axis) (a : α) :
    eqBy eq p (p.set axis a) = true ↔
      eq (p.get axis) a = true ∧ eq (p.get axis.other) (p.get axis.other) = true := by
  rw [eqBy_eq_and, Bool.and_eq_true]
  cases axis with
  | x => exact Iff.rfl
  | y => exact And.comm

namespace Kind

theorem eq_coordinate {b : Base} {n : Nat} (p q : Point (Nested b.Val n)) :
    eq ⟨b, n + 1⟩ p q = Point.eqBy (eq ⟨b, n⟩) p q := rfl

theorem eq_subtree {f : Integer.Format} (p q : Point (Tree f.Val)) :
    eq ⟨.tree f, 0⟩ (.node p) (.node q) = Point.eqBy (eq ⟨.tree f, 0⟩) p q :=
  Tree.eqBy_node ..

theorem eq_self_iff_leaf? {k : Kind} (p : k.Val) :
    k.eq p p = true ↔ ∀ P v, k.leaf? p P = some v → k.base.eq v v = true := by
  obtain ⟨b, n⟩ := k
  induction n with
  | zero =>
    cases hb : b.isBinary with
    | false =>
      simp only [eq_iff_eq (k := ⟨b, 0⟩) hb, Base.eq_iff_eq hb, implies_true]
    | true =>
      cases b with
      | binary f =>
        constructor
        · intro h P v hv
          cases P with
          | nil => exact Option.some.inj hv ▸ h
          | cons axis rest => cases hv
        · exact fun h => h [] p rfl
      | _ => cases hb
  | succ n ih =>
    rw [eq_coordinate, Point.eqBy_eq_true_iff]
    constructor
    · intro h P v hv
      cases P with
      | nil => cases hv
      | cons axis rest => exact (ih (Point.get p axis)).mp (h axis) rest v hv
    · exact fun h axis => (ih (Point.get p axis)).mpr fun rest v hv => h (axis :: rest) v hv

end Kind

theorem Leads.eq_around_iff {b : Base} {n d : Nat} {p : Nested b.Val n} {P : List Axis}
    {u : Nested b.Val d} {around : Nested b.Val d → Nested b.Val n}
    (h : Leads b n p P d u around) (v : Nested b.Val d) :
    Kind.eq ⟨b, n⟩ p (around v) = true ↔ Kind.eq ⟨b, d⟩ u v = true ∧
      ∀ Q, Parallel P Q → ∀ w, Kind.leaf? ⟨b, n⟩ p Q = some w → b.eq w w = true := by
  induction h with
  | here p => exact (and_iff_left fun Q hQ => absurd hQ Parallel.not_nil).symm
  | @coordinate b n d p axis rest u around _ ih =>
    rw [Kind.eq_coordinate, Point.eqBy_set_iff, ih, Parallel.forall_cons_iff, and_assoc]
    exact and_congr_right fun _ => and_congr_right fun _ =>
      Kind.eq_self_iff_leaf? (k := ⟨b, n⟩) (p.get axis.other)
  | @subtree f d p axis rest u around _ ih =>
    rw [Kind.eq_subtree, Point.eqBy_set_iff, ih, Parallel.forall_cons_iff, and_assoc]
    exact and_congr_right fun _ => and_congr_right fun _ =>
      Kind.eq_self_iff_leaf? (k := ⟨.tree f, 0⟩) (p.get axis.other)

namespace Store

variable {k : Kind} {s : Store k}

theorem step_duplicate {d : Datum} {source slot : String} {p : k.point.Val}
    (hop : d.op? = some .clone ∨ d.op? = some .copy ∧ k.has .copy = true)
    (hfrom : d.name? "from" = some source) (hp : s[source]? = some p)
    (hto : d.name? "to" = some slot) : s.step d = ⟨.ok .done, s.apply (.put slot p)⟩ := by
  rcases hop with hop | ⟨hop, hk⟩
  · exact (Performs.clone hfrom hp hto).step hop
  · exact (Performs.copy hk hfrom hp hto).step hop

/-- The place may be a leaf, a point or a subtree. The last part is on kinds without
NaNs, where nothing but the value that was set can make a difference. -/
theorem copy_equals_original_iff {a b : String} {p : k.point.Val} {duplicate set : Datum}
    {P : List Axis} {d : Nat} {u v : Nested k.base.Val d} (hab : a ≠ b) (hp : s[a]? = some p)
    (hop : duplicate.op? = some .clone ∨ duplicate.op? = some .copy ∧ k.has .copy = true)
    (hfrom : duplicate.name? "from" = some a) (hto : duplicate.name? "to" = some b)
    (hP : P ≠ []) (hu : k.point.get? p P = some ⟨d, u⟩) (hset : set.Along .set b (.ofPath P))
    (hv : set.Carries ⟨k.base, d⟩ v) :
    let t := s.after [duplicate, set]
    (s.step duplicate).result = .ok .done ∧
    ((s.step duplicate).store.step set).result = .ok .done ∧
    t[a]? = some p ∧
    Kind.eq ⟨k.base, d⟩ v u = Kind.eq ⟨k.base, d⟩ u v ∧
    ∀ same differ : Datum,
      same.op? = some .eq ∧ same.name? "a" = some a ∧ same.name? "b" = some b →
      differ.op? = some .ne ∧ differ.name? "a" = some a ∧ differ.name? "b" = some b →
      ∃ equal : Bool, (t.step same).result = .ok (.truth equal) ∧
        (t.step differ).result = .ok (.truth !equal) ∧
        (equal = true ↔ Kind.eq ⟨k.base, d⟩ v u = true ∧
          ∀ Q, Parallel P Q → ∀ w, k.point.leaf? p Q = some w → k.base.eq w w = true) ∧
        (k.base.isBinary = false → (equal = false ↔ v ≠ u)) := by
  intro t
  obtain ⟨around, h⟩ := Kind.exists_leads hu
  have hcopied : s.step duplicate = ⟨.ok .done, s.apply (.put b p)⟩ :=
    step_duplicate hop hfrom hp hto
  have hassigned : (s.step duplicate).store.step set =
      ⟨.ok .done, s.apply (.put b (around v))⟩ := by
    rw [hcopied, step_set hset hv hP (getElem?_apply_put ..) h, apply_put_put]
  have ht : t = s.apply (.put b (around v)) := congrArg Entry.store hassigned
  have hta : t[a]? = some p := by rw [ht, getElem?_apply_put_of_ne s hab.symm, hp]
  have htb : t[b]? = some (around v) := by rw [ht, getElem?_apply_put]
  have hcomm : Kind.eq ⟨k.base, d⟩ v u = Kind.eq ⟨k.base, d⟩ u v :=
    Bool.eq_iff_iff.mpr ⟨Kind.eq_symmetric ⟨k.base, d⟩ v u, Kind.eq_symmetric ⟨k.base, d⟩ u v⟩
  refine ⟨congrArg Entry.result hcopied, congrArg Entry.result hassigned, hta, hcomm, ?_⟩
  rintro same differ ⟨hsame, hsa, hsb⟩ ⟨hdiffer, hda, hdb⟩
  have hiff : k.point.eq p (around v) = true ↔ Kind.eq ⟨k.base, d⟩ u v = true ∧
      ∀ Q, Parallel P Q → ∀ w, k.point.leaf? p Q = some w → k.base.eq w w = true :=
    h.eq_around_iff v
  refine ⟨k.point.eq p (around v), ?_, ?_, hcomm ▸ hiff, fun hk => ?_⟩
  · rw [(Performs.eq hsa hta hsb htb).step hsame]
    rfl
  · rw [(Performs.ne hda hta hdb htb).step hdiffer, ← Kind.ne_eq_not]
    rfl
  · have hself : ∀ Q, Parallel P Q → ∀ w, k.point.leaf? p Q = some w → k.base.eq w w = true :=
      fun _ _ w _ => (Base.eq_iff_eq hk w w).mpr rfl
    have heq : Kind.eq ⟨k.base, d⟩ u v = true ↔ u = v := Kind.eq_iff_eq (k := ⟨k.base, d⟩) hk u v
    rw [← Bool.not_eq_true, hiff, and_iff_left hself, heq, eq_comm]

/-- The zero of the other sign is a different value, and equal. -/
theorem copy_with_other_zero_equals_original :
    let k : Kind := { base := .binary .single }
    let p : k.point.Val := ⟨0#32, 0x3f800000#32⟩
    let s : Store k := (∅ : Store k).apply (.put "p" p)
    let duplicate : Datum := .record [("op", .text "copy"), ("from", .text "p"), ("to", .text "q")]
    let set : Datum := .record [("op", .text "set"), ("slot", .text "q"), ("path", .ofPath [.x]),
      ("v", .text "80000000")]
    let same : Datum := .record [("op", .text "eq"), ("a", .text "p"), ("b", .text "q")]
    let differ : Datum := .record [("op", .text "ne"), ("a", .text "p"), ("b", .text "q")]
    let t := s.after [duplicate, set]
    t[("p" : String)]? = some p ∧ (t.step same).result = .ok (.truth true) ∧
      (t.step differ).result = .ok (.truth false) := by
  intro k p s duplicate set same differ t
  have hp : s[("p" : String)]? = some p := getElem?_apply_put ..
  have hset : set.Along .set "q" (.ofPath [.x]) := ⟨rfl, rfl, rfl⟩
  have hv : set.Carries ⟨k.base, 0⟩ (0x80000000#32 : k.base.Val) := rfl
  have hop : duplicate.op? = some .clone ∨ duplicate.op? = some .copy ∧ k.has .copy = true :=
    Or.inr ⟨rfl, rfl⟩
  obtain ⟨-, -, htp, -, hcompare⟩ := copy_equals_original_iff
    (show ("p" : String) ≠ "q" by decide) hp hop rfl rfl (by decide) rfl hset hv
  obtain ⟨equal, hsame, hdiffer, hiff, -⟩ :=
    hcompare same differ ⟨rfl, rfl, rfl⟩ ⟨rfl, rfl, rfl⟩
  have hself : k.point.eq p p = true := by decide +kernel
  have hequal : equal = true :=
    hiff.mpr ⟨by decide +kernel, fun Q _ => (Kind.eq_self_iff_leaf? p).mp hself Q⟩
  subst hequal
  exact ⟨htp, hsame, hdiffer⟩

end Store

end Planar
