import Planar.Proofs.Laws
import Planar.Proofs.Step.Meaning
import Planar.Proofs.Written.RoundTrip
import Planar.Request

/-! The comparison matrix of a list of points is made of blocks. Equality of points
is symmetric and transitive, so that points which are equal to something have the
same row as everything they are equal to. A point is equal to itself unless it
holds a NaN, and then it is equal to nothing. -/

namespace Planar

theorem Binary.Format.eq_trans {f : Binary.Format} {u v w : f.Val} (huv : f.eq u v = true)
    (hvw : f.eq v w = true) : f.eq u w = true := by
  simp only [eq, Bool.and_eq_true, Bool.or_eq_true, beq_iff_eq] at huv hvw ⊢
  obtain ⟨⟨hu, hv⟩, huv⟩ := huv
  obtain ⟨⟨-, hw⟩, hvw⟩ := hvw
  refine ⟨⟨hu, hw⟩, ?_⟩
  rcases huv with rfl | ⟨hu0, hv0⟩
  · exact hvw
  · rcases hvw with rfl | ⟨-, hw0⟩
    · exact Or.inr ⟨hu0, hv0⟩
    · exact Or.inr ⟨hu0, hw0⟩

namespace Base

theorem eq_symmetric (b : Base) : Law.symmetric.Holds b.eq := by
  intro v w h
  cases hb : b.isBinary with
  | true =>
    cases b with
    | binary f => exact (f.eq_comm w v).trans h
    | _ => cases hb
  | false => exact (eq_iff_eq hb w v).mpr ((eq_iff_eq hb v w).mp h).symm

theorem eq_transitive (b : Base) : Law.transitive.Holds b.eq := by
  intro u v w huv hvw
  cases hb : b.isBinary with
  | true =>
    cases b with
    | binary f => exact Binary.Format.eq_trans huv hvw
    | _ => cases hb
  | false => exact (eq_iff_eq hb u v).mp huv ▸ hvw

theorem eq_self_iff (b : Base) (v : b.Val) : b.eq v v = true ↔ b.isNaN v = false := by
  cases hb : b.isBinary with
  | true =>
    cases b with
    | binary f => exact f.eq_self_iff v
    | _ => cases hb
  | false => simp [isNaN_of_not_binary hb, eq_iff_eq hb]

end Base

namespace Kind

theorem eq_symmetric (k : Kind) : Law.symmetric.Holds k.eq :=
  (Law.symmetric.holds_nested_iff k.base.eq k.depth).mpr k.base.eq_symmetric

theorem eq_transitive (k : Kind) : Law.transitive.Holds k.eq :=
  (Law.transitive.holds_nested_iff k.base.eq k.depth).mpr k.base.eq_transitive

theorem eq_self_iff (k : Kind) (p : k.Val) : k.eq p p = true ↔ k.hasNaN p = false := by
  rw [eq, Nested.eqBy_self_iff, hasNaN_eq_false_iff]
  exact forall₂_congr fun v _ => k.base.eq_self_iff v

end Kind

namespace Matrix

def cell? (rows : List (List Bool)) (i j : Nat) : Option Bool := rows[i]? >>= fun row => row[j]?

def column (rows : List (List Bool)) (j : Nat) : List (Option Bool) := rows.map fun row => row[j]?

/-- The character in a row and a column of a written matrix. -/
def mark? (d : Datum) (i j : Nat) : Option Char := do
  let row ← (← d.list?)[i]?
  (← row.text?).toList[j]?

theorem mark?_toDatum (rows : List (List Bool)) (i j : Nat) :
    mark? (toDatum rows) i j = (cell? rows i j).map fun b => if b then '1' else '0' := by
  rw [cell?, mark?, toDatum]
  cases h : rows[i]? <;> simp [Datum.list?, Datum.text?, Datum.ofChars, h]

variable {α : Type} {rel : α → α → Bool} {members : List α} {i j c : Nat}

theorem cell?_compare_eq_some_iff {b : Bool} :
    cell? (compare rel members) i j = some b ↔
      ∃ p q, members[i]? = some p ∧ members[j]? = some q ∧ rel p q = b := by
  rw [cell?, getElem?_compare]
  cases members[i]? <;> cases members[j]? <;> simp

theorem getElem?_compare_row (rel : α → α → Bool) (members : List α) (i : Nat) :
    (compare rel members)[i]? = members[i]?.map fun p => members.map (rel p) := by
  rw [compare, List.getElem?_map]

theorem column_compare (rel : α → α → Bool) (members : List α) (j : Nat) :
    column (compare rel members) j = members.map fun p => members[j]?.map (rel p) := by
  simp [column, compare]

theorem compare_not (rel : α → α → Bool) (members : List α) :
    compare (fun p q => !rel p q) members = (compare rel members).map (List.map not) := by
  simp [compare]

section PartialEquivalence

variable (hs : Law.symmetric.Holds rel) (ht : Law.transitive.Holds rel)
include hs ht

theorem rel_congr_left {p q : α} (h : rel p q = true) (r : α) : rel p r = rel q r := by
  rw [Bool.eq_iff_iff]
  exact ⟨ht q p r (hs p q h), ht p q r h⟩

theorem rel_congr_right {p q : α} (h : rel p q = true) (r : α) : rel r p = rel r q := by
  rw [Bool.eq_iff_iff]
  exact ⟨fun hr => ht r p q hr h, fun hr => ht r q p hr (hs p q h)⟩

theorem rel_self {p q : α} (h : rel p q = true) : rel p p = true := ht p q p h (hs p q h)

theorem block_of_cell (h : cell? (compare rel members) i j = some true) :
    cell? (compare rel members) j i = some true ∧
    cell? (compare rel members) i i = some true ∧
    cell? (compare rel members) j j = some true ∧
    (compare rel members)[i]? = (compare rel members)[j]? ∧
    column (compare rel members) i = column (compare rel members) j := by
  obtain ⟨p, q, hp, hq, hpq⟩ := cell?_compare_eq_some_iff.mp h
  have hqp : rel q p = true := hs p q hpq
  refine ⟨cell?_compare_eq_some_iff.mpr ⟨q, p, hq, hp, hqp⟩,
    cell?_compare_eq_some_iff.mpr ⟨p, p, hp, hp, rel_self hs ht hpq⟩,
    cell?_compare_eq_some_iff.mpr ⟨q, q, hq, hq, rel_self hs ht hqp⟩, ?_, ?_⟩
  · rw [getElem?_compare_row, getElem?_compare_row, hp, hq, Option.map_some, Option.map_some,
      funext (rel_congr_left hs ht hpq)]
  · simp only [column_compare, hp, hq, Option.map_some, rel_congr_right hs ht hpq]

theorem cell_of_common (hi : cell? (compare rel members) i c = some true)
    (hj : cell? (compare rel members) j c = some true) :
    cell? (compare rel members) i j = some true := by
  obtain ⟨p, r, hp, hr, hpr⟩ := cell?_compare_eq_some_iff.mp hi
  obtain ⟨q, r', hq, hr', hqr⟩ := cell?_compare_eq_some_iff.mp hj
  obtain rfl : r = r' := Option.some.inj (hr.symm.trans hr')
  exact cell?_compare_eq_some_iff.mpr ⟨p, q, hp, hq, ht p r q hpr (hs q r hqr)⟩

theorem cell_equivalence :
    Equivalence fun i j : {i // cell? (compare rel members) i i = some true} =>
      cell? (compare rel members) i j = some true where
  refl i := i.2
  symm h := (block_of_cell hs ht h).1
  trans hij hjk := cell_of_common hs ht hij (block_of_cell hs ht hjk).1

theorem cells_of_not_self {p : α} (hp : members[i]? = some p) (h : rel p p = false)
    (hj : j < members.length) :
    cell? (compare rel members) i j = some false ∧
      cell? (compare rel members) j i = some false := by
  have hq : members[j]? = some members[j] := List.getElem?_eq_getElem hj
  have hpq : rel p members[j] = false := Bool.eq_false_iff.mpr fun hpq =>
    Bool.eq_false_iff.mp h (rel_self hs ht hpq)
  have hqp : rel members[j] p = false := Bool.eq_false_iff.mpr fun hqp =>
    Bool.eq_false_iff.mp hpq (hs _ _ hqp)
  exact ⟨cell?_compare_eq_some_iff.mpr ⟨p, _, hp, hq, hpq⟩,
    cell?_compare_eq_some_iff.mpr ⟨_, p, hq, hp, hqp⟩⟩

end PartialEquivalence

end Matrix

namespace Kind

open Planar.Matrix (cell? column mark?)

theorem answer_matrix {k : Kind} {points : List k.point.Val} {request : Datum} {type : String}
    (hop : request.name? "op" = some "matrix") (ht : request.name? "t" = some type)
    (hk : Kind.ofName? type = some k)
    (hpoints : (request.field? "points").bind
      (fun part => part.list? >>= List.mapM k.point.read?) = some points) :
    Request.answer request = .record [("eq", Matrix.toDatum (Matrix.compare k.point.eq points)),
      ("ne", Matrix.toDatum (Matrix.compare k.point.ne points))] := by
  have hkind : Request.answer? request = Request.onKind "matrix" k request :=
    Request.answer?_of_kind (Store.need_eq_ok_iff.mpr hop) (by decide) (by decide)
      (Store.need_eq_ok_iff.mpr ht) hk
  have hneed : request.need "points" (fun part => part.list? >>= List.mapM k.point.read?) =
      .ok points := Store.need_eq_ok_iff.mpr hpoints
  rw [Request.answer, hkind, Request.onKind, Request.matrix, hneed]
  rfl

/-- The rows of the points that are equal to themselves fall into classes, and the
others are empty. -/
theorem matrix_has_blocks (k : Kind) (points : List k.point.Val) :
    let E := Matrix.compare k.point.eq points
    let N := Matrix.compare k.point.ne points
    (∀ (request : Datum) (type : String), request.name? "op" = some "matrix" →
      request.name? "t" = some type → Kind.ofName? type = some k →
      (request.field? "points").bind (fun part => part.list? >>= List.mapM k.point.read?) =
        some points →
      Request.answer request = .record [("eq", Matrix.toDatum E), ("ne", Matrix.toDatum N)]) ∧
    (∀ i j, cell? E i j = (points[i]? >>= fun p => points[j]?.map (k.point.eq p)) ∧
      mark? (Matrix.toDatum E) i j = (cell? E i j).map (fun b => if b then '1' else '0') ∧
      mark? (Matrix.toDatum N) i j = (cell? N i j).map (fun b => if b then '1' else '0')) ∧
    N = E.map (List.map not) ∧
    (∀ i j, cell? E i j = some true → cell? E j i = some true ∧ cell? E i i = some true ∧
      cell? E j j = some true ∧ E[i]? = E[j]? ∧ column E i = column E j) ∧
    (∀ i j c, cell? E i c = some true → cell? E j c = some true → cell? E i j = some true) ∧
    (Equivalence fun i j : {i // cell? E i i = some true} => cell? E i j = some true) ∧
    (∀ i p, points[i]? = some p → (cell? E i i = some false ↔ k.point.hasNaN p = true) ∧
      (k.point.hasNaN p = true → ∀ j < points.length,
        cell? E i j = some false ∧ cell? E j i = some false)) ∧
    (k.base.isBinary = false → ∀ p ∈ points, k.point.hasNaN p = false) := by
  have hs := k.point.eq_symmetric
  have ht := k.point.eq_transitive
  intro E N
  refine ⟨fun request type hop htype hk => answer_matrix hop htype hk,
    fun i j => ⟨Matrix.getElem?_compare .., Matrix.mark?_toDatum .., Matrix.mark?_toDatum ..⟩, ?_,
    fun i j => Matrix.block_of_cell hs ht, fun i j c => Matrix.cell_of_common hs ht,
    Matrix.cell_equivalence hs ht, fun i p hp => ?_,
    fun h p _ => hasNaN_of_not_binary (k := k.point) h p⟩
  · have hne : k.point.ne = fun p q => !k.point.eq p q :=
      funext fun p => funext fun q => k.point.ne_eq_not p q
    simp only [N, E, hne, Matrix.compare_not]
  · have hself : k.point.eq p p = false ↔ k.point.hasNaN p = true := by
      rw [← Bool.not_eq_true, k.point.eq_self_iff, Bool.not_eq_false]
    refine ⟨?_, fun hnan j => Matrix.cells_of_not_self hs ht hp (hself.mpr hnan)⟩
    rw [← hself, Matrix.cell?_compare_eq_some_iff]
    constructor
    · rintro ⟨p₁, p₂, h₁, h₂, h⟩
      obtain rfl : p = p₁ := Option.some.inj (hp.symm.trans h₁)
      obtain rfl : p = p₂ := Option.some.inj (hp.symm.trans h₂)
      exact h
    · exact fun h => ⟨p, p, hp, hp, h⟩

/-- Zeros of different signs share a block, and the NaN has none. -/
theorem blocks_of_zeros :
    let k : Kind := { base := .binary .single }
    let points : List k.point.Val :=
      [⟨0#32, 0#32⟩, ⟨0x80000000#32, 0#32⟩, ⟨0x7fc00000#32, 0#32⟩]
    let E := Matrix.compare k.point.eq points
    cell? E 0 1 = some true ∧ E[0]? = E[1]? ∧ column E 0 = column E 1 ∧
    ∀ j < 3, cell? E 2 j = some false ∧ cell? E j 2 = some false := by
  intro k points E
  obtain ⟨-, -, -, hblock, -, -, hnan, -⟩ := matrix_has_blocks k points
  have hzeros : cell? E 0 1 = some true := by decide +kernel
  obtain ⟨-, -, -, hrows, hcolumns⟩ := hblock 0 1 hzeros
  exact ⟨hzeros, hrows, hcolumns, (hnan 2 _ rfl).2 (by decide +kernel)⟩

end Kind

end Planar
