import Planar.Proofs.Laws
import Planar.Proofs.Step.Meaning
import Planar.Proofs.Written.RoundTrip

/-! Whether two points are equal can be told from what is written of them. Without
binary numbers they are equal when the same is written. With binary numbers no
NaN may be written, and the zeros of both signs count as the same. -/

namespace Planar

namespace Datum

def coordinates : Nat → Datum → List Datum
  | 0, d => [d]
  | n + 1, d =>
    (d.field? Axis.x.name).elim [] (coordinates n) ++ (d.field? Axis.y.name).elim [] (coordinates n)

theorem coordinates_write {α : Type} (leaf : α → Datum) (n : Nat) (p : Nested α n) :
    coordinates n (Nested.write leaf n p) = (Nested.leaves n p).map leaf := by
  induction n with
  | zero => rfl
  | succ n ih =>
    rw [Nested.leaves, List.map_append, ← ih, ← ih]
    rfl

def nan : Datum := .text "nan"

end Datum

namespace Binary.Format

def zeros : Format → List Datum
  | .single => [.text "00000000", .text "80000000"]
  | .double => [.text "0000000000000000", .text "8000000000000000"]

variable (f : Format)

theorem zeros_eq : f.zeros =
    [Base.write (.binary f) f.zero, Base.write (.binary f) (f.ofMagnitude true 0)] := by
  cases f <;> rfl

theorem toNat_lt (v : f.Val) : v.toNat < 2 * f.signBit := by
  cases f <;> exact v.isLt

theorem isZero_iff (v : f.Val) : f.isZero v = true ↔ v = f.zero ∨ v = f.ofMagnitude true 0 := by
  have hzero : f.zero.toNat = 0 := by cases f <;> rfl
  have hminus : (f.ofMagnitude true 0).toNat = f.signBit := by cases f <;> rfl
  have hlt := f.toNat_lt v
  rw [isZero, magnitude, decide_eq_true_iff, ← BitVec.toNat_inj, ← BitVec.toNat_inj, hzero, hminus]
  constructor
  · intro h
    by_cases hs : v.toNat < f.signBit
    · exact Or.inl (by rwa [Nat.mod_eq_of_lt hs] at h)
    · have hs : f.signBit ≤ v.toNat := Nat.le_of_not_lt hs
      rw [Nat.mod_eq_sub_mod hs, Nat.mod_eq_of_lt (by omega)] at h
      exact Or.inr (by omega)
  · rintro (h | h)
    · rw [h, Nat.zero_mod]
    · rw [h, Nat.mod_self]

theorem write_eq_nan_iff (v : f.Val) : Base.write (.binary f) v = .nan ↔ f.isNaN v = true := by
  constructor
  · intro h
    by_contra hv
    have hv : Base.isNaN (.binary f) v = false := Bool.eq_false_iff.mpr hv
    have hr := Base.read?_write hv
    rw [h] at hr
    have hnan : Base.read? (.binary f) .nan = none := by cases f <;> rfl
    rw [hnan] at hr
    cases hr
  · intro h
    rw [Base.write, write, if_pos h]
    rfl

theorem write_inj {v w : f.Val} (hv : f.isNaN v = false) (hw : f.isNaN w = false) :
    Base.write (.binary f) v = Base.write (.binary f) w ↔ v = w := by
  refine ⟨fun h => ?_, fun h => h ▸ rfl⟩
  have hrv : Base.read? (.binary f) (Base.write (.binary f) v) = some v := Base.read?_write hv
  have hrw : Base.read? (.binary f) (Base.write (.binary f) w) = some w := Base.read?_write hw
  rw [h, hrw] at hrv
  exact (Option.some.inj hrv).symm

theorem write_mem_zeros_iff {v : f.Val} (hv : f.isNaN v = false) :
    Base.write (.binary f) v ∈ f.zeros ↔ f.isZero v = true := by
  have hzero : f.isNaN f.zero = false := by cases f <;> decide
  have hminus : f.isNaN (f.ofMagnitude true 0) = false := by cases f <;> decide
  rw [zeros_eq, List.mem_pair, f.write_inj hv hzero, f.write_inj hv hminus, isZero_iff]

theorem eq_iff_written (v w : f.Val) :
    f.eq v w = true ↔
      (Base.write (.binary f) v ≠ .nan ∧ Base.write (.binary f) w ≠ .nan) ∧
      (Base.write (.binary f) v = Base.write (.binary f) w ∨
        Base.write (.binary f) v ∈ f.zeros ∧ Base.write (.binary f) w ∈ f.zeros) := by
  rw [Ne, Ne, write_eq_nan_iff, write_eq_nan_iff]
  cases hv : f.isNaN v with
  | true => simp [eq, hv]
  | false =>
    cases hw : f.isNaN w with
    | true => simp [eq, hw]
    | false =>
      rw [f.write_inj hv hw, f.write_mem_zeros_iff hv, f.write_mem_zeros_iff hw]
      simp [eq, hv, hw]

end Binary.Format

namespace Kind

variable {k : Kind}

theorem eq_iff_alike (h : k.base.isBinary = false) (p q : k.Val) :
    k.eq p q = true ↔ (k.write p).Alike (k.write q) := by
  rw [k.eq_iff_eq h]
  constructor
  · rintro rfl
    exact .refl _
  · exact write_inj_of_alike (hasNaN_of_not_binary h p) (hasNaN_of_not_binary h q)

/-- Corresponding coordinates are written alike or are zeros, and none is a NaN. -/
def Matching (f : Binary.Format) (cs ds : List Datum) : Prop :=
  (∀ c ∈ cs ++ ds, c ≠ .nan) ∧ ∀ c ∈ cs.zip ds, c.1 = c.2 ∨ c.1 ∈ f.zeros ∧ c.2 ∈ f.zeros

theorem eq_iff_matching (f : Binary.Format) (n : Nat) (p q : Nested f.Val n) :
    eq ⟨.binary f, n⟩ p q = true ↔
      Matching f ((write ⟨.binary f, n⟩ p).coordinates n)
        ((write ⟨.binary f, n⟩ q).coordinates n) := by
  have hfst : (Nested.pairs n p q).map Prod.fst = Nested.leaves n p :=
    List.map_fst_zip (Nat.le_of_eq (by rw [Nested.length_leaves, Nested.length_leaves]))
  have hsnd : (Nested.pairs n p q).map Prod.snd = Nested.leaves n q :=
    List.map_snd_zip (Nat.le_of_eq (by rw [Nested.length_leaves, Nested.length_leaves]))
  have hzip : ((Nested.leaves n p).map (Base.write (.binary f))).zip
      ((Nested.leaves n q).map (Base.write (.binary f))) =
        (Nested.pairs n p q).map (Prod.map (Base.write (.binary f)) (Base.write (.binary f))) :=
    List.zip_map ..
  rw [eq, Nested.eqBy_iff_pairs, Matching, write, write, Datum.coordinates_write,
    Datum.coordinates_write, hzip, ← hfst, ← hsnd]
  simp only [List.forall_mem_append, List.forall_mem_map, ← forall₂_and]
  exact forall₂_congr fun pair _ => f.eq_iff_written pair.1 pair.2

end Kind

namespace Store

variable {k : Kind}

theorem exists_of_field?_toDatum {s : Store k} {slot : String} {d : Datum}
    (h : s.toDatum.field? slot = some d) : ∃ p, s[slot]? = some p ∧ k.point.write p = d := by
  rwa [field?_toDatum, Option.map_eq_some_iff] at h

theorem comparison_of_written {steps : List Datum} {a b : String} {da db same differ : Datum}
    (ha : ((∅ : Store k).after steps).toDatum.field? a = some da)
    (hb : ((∅ : Store k).after steps).toDatum.field? b = some db)
    (hsame : same.op? = some .eq ∧ same.name? "a" = some a ∧ same.name? "b" = some b)
    (hdiffer : differ.op? = some .ne ∧ differ.name? "a" = some a ∧ differ.name? "b" = some b) :
    ∃ equal : Bool,
      (((∅ : Store k).after steps).step same).result = .ok (.truth equal) ∧
      (((∅ : Store k).after steps).step differ).result = .ok (.truth !equal) ∧
      (k.base.isBinary = false → (equal = true ↔ da = db) ∧ (equal = true ↔ da.Alike db)) ∧
      ∀ f, k.base = .binary f →
        (equal = true ↔ Kind.Matching f (da.coordinates (k.depth + 1))
          (db.coordinates (k.depth + 1))) := by
  obtain ⟨p, hp, rfl⟩ := exists_of_field?_toDatum ha
  obtain ⟨q, hq, rfl⟩ := exists_of_field?_toDatum hb
  refine ⟨k.point.eq p q, ?_, ?_, fun h => ?_, fun f hf => ?_⟩
  · obtain ⟨hop, hl, hr⟩ := hsame
    rw [(Performs.eq hl hp hr hq).step hop]
    rfl
  · obtain ⟨hop, hl, hr⟩ := hdiffer
    rw [(Performs.ne hl hp hr hq).step hop, ← Kind.ne_eq_not]
    rfl
  · have halike : k.point.eq p q = true ↔ (k.point.write p).Alike (k.point.write q) :=
      Kind.eq_iff_alike (k := k.point) h p q
    refine ⟨⟨fun he => ?_, fun hw => halike.mpr (hw ▸ .refl _)⟩, halike⟩
    rw [(k.point.eq_iff_eq h p q).mp he]
  · obtain ⟨base, n⟩ := k
    cases hf
    exact Kind.eq_iff_matching f (n + 1) p q

/-- Zeros of different signs are written differently. -/
theorem comparison_of_zeros :
    let k : Kind := { base := .binary .single }
    let steps : List Datum :=
      [.record [("op", .text "new"), ("x", .text "00000000"), ("y", .text "80000000"),
        ("to", .text "a")],
      .record [("op", .text "transpose"), ("from", .text "a"), ("to", .text "b")]]
    let da : Datum := .record [("x", .text "00000000"), ("y", .text "80000000")]
    let db : Datum := .record [("x", .text "80000000"), ("y", .text "00000000")]
    let same : Datum := .record [("op", .text "eq"), ("a", .text "a"), ("b", .text "b")]
    let differ : Datum := .record [("op", .text "ne"), ("a", .text "a"), ("b", .text "b")]
    let s := (∅ : Store k).after steps
    s.toDatum.field? "a" = some da ∧ s.toDatum.field? "b" = some db ∧
    ∃ equal : Bool, (s.step same).result = .ok (.truth equal) ∧
      (s.step differ).result = .ok (.truth !equal) ∧
      (equal = true ↔ Kind.Matching .single (da.coordinates 1) (db.coordinates 1)) := by
  have hp : Kind.write ⟨.binary .single, 1⟩ ⟨0#32, 0x80000000#32⟩ =
      .record [("x", .text "00000000"), ("y", .text "80000000")] := rfl
  have hq : Kind.write ⟨.binary .single, 1⟩ ⟨0x80000000#32, 0#32⟩ =
      .record [("x", .text "80000000"), ("y", .text "00000000")] := rfl
  intro k steps da db same differ s
  let p : k.point.Val := ⟨0#32, 0x80000000#32⟩
  let built : Store k := (∅ : Store k).apply (.put "a" p)
  have hbuild : (∅ : Store k).step (.record [("op", .text "new"), ("x", .text "00000000"),
      ("y", .text "80000000"), ("to", .text "a")]) = ⟨.ok .done, built⟩ :=
    (Performs.build rfl rfl rfl : Performs (∅ : Store k) _ .build (.put "a" p)).step rfl
  have hswap : built.step (.record [("op", .text "transpose"), ("from", .text "a"),
      ("to", .text "b")]) = ⟨.ok .done, built.apply (.put "b" p.swap)⟩ :=
    (Performs.transpose rfl (getElem?_apply_put ..) rfl).step rfl
  have hs : s = built.apply (.put "b" p.swap) := by
    simp only [s, steps, after, List.foldl_cons, List.foldl_nil, hbuild, hswap]
  have ha : s.toDatum.field? "a" = some da := by
    rw [field?_toDatum, hs, getElem?_apply_of_ne _ (by decide), getElem?_apply_put]
    exact congrArg some hp
  have hb : s.toDatum.field? "b" = some db := by
    rw [field?_toDatum, hs, getElem?_apply_put]
    exact congrArg some hq
  have hsame : same.op? = some .eq ∧ same.name? "a" = some "a" ∧ same.name? "b" = some "b" :=
    ⟨rfl, rfl, rfl⟩
  have hdiffer : differ.op? = some .ne ∧ differ.name? "a" = some "a" ∧
      differ.name? "b" = some "b" :=
    ⟨rfl, rfl, rfl⟩
  obtain ⟨equal, hequal, hunequal, -, hmatching⟩ := comparison_of_written ha hb hsame hdiffer
  exact ⟨ha, hb, equal, hequal, hunequal, hmatching .single rfl⟩

end Store

end Planar
