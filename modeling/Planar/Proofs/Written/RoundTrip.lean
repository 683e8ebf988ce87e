import Planar.Proofs.Written.Record
import Planar.Store

/-! What is written of a value is read back as the value, except for a NaN, which
is written by a word that is no number. The state of a store is written slot by slot. -/

namespace Planar

namespace Base

def isNaN : (b : Base) → b.Val → Bool
  | .binary f, v => f.isNaN v
  | _, _ => false

theorem read?_write {b : Base} {v : b.Val} (h : b.isNaN v = false) :
    b.read? (b.write v) = some v := by
  cases b with
  | integer f => exact readInteger?_writeInteger f v
  | binary f =>
    have hv : f.read? (f.write v) = some v := f.read?_write h
    simpa [read?, write, Datum.ofChars, Datum.text?] using hv
  | char => simp [read?, write, Datum.ofChars, Datum.text?]
  | option f =>
    cases v with
    | none => rfl
    | some v =>
      exact congrArg (some <$> ·) (readInteger?_writeInteger f v)
  | list f =>
    have hitems : (v.map (writeInteger f)).mapM (readInteger? f) = some v := by
      clear h
      induction v with
      | nil => rfl
      | cons a v ih =>
        rw [List.map_cons, List.mapM_cons, readInteger?_writeInteger, ih]
        rfl
    exact hitems
  | tree f => exact Tree.read?_write (readInteger?_writeInteger f) (fun _ => rfl) v
  | _ => rfl

theorem isNaN_of_not_binary {b : Base} (h : b.isBinary = false) (v : b.Val) :
    b.isNaN v = false := by
  cases b with
  | binary f => cases h
  | _ => rfl

theorem exists_read?_eq (b : Base) (v : b.Val) : ∃ e, b.read? e = some v := by
  cases b with
  | binary f =>
    refine ⟨.ofChars (Text.Hexadecimal.write (f.bits / 4) v.toNat), ?_⟩
    simpa [read?, Datum.ofChars, Datum.text?] using f.read?_bits v
  | _ => exact ⟨_, read?_write (isNaN_of_not_binary rfl v)⟩

end Base

namespace Kind

variable {k : Kind}

def hasNaN (k : Kind) (p : k.Val) : Bool := (Nested.leaves k.depth p).any k.base.isNaN

theorem hasNaN_eq_false_iff {p : k.Val} :
    k.hasNaN p = false ↔ ∀ v ∈ Nested.leaves k.depth p, k.base.isNaN v = false := by
  simp [hasNaN]

theorem hasNaN_of_not_binary (h : k.base.isBinary = false) (p : k.Val) : k.hasNaN p = false :=
  hasNaN_eq_false_iff.mpr fun v _ => Base.isNaN_of_not_binary h v

theorem read?_write {p : k.Val} (h : k.hasNaN p = false) : k.read? (k.write p) = some p :=
  Nested.read?_write k.depth fun v hv => Base.read?_write (hasNaN_eq_false_iff.mp h v hv)

theorem exists_read?_eq (k : Kind) (p : k.Val) : ∃ e, k.read? e = some p := by
  obtain ⟨b, n⟩ := k
  induction n with
  | zero => exact b.exists_read?_eq p
  | succ n ih =>
    obtain ⟨ex, hx⟩ := ih p.x
    obtain ⟨ey, hy⟩ := ih p.y
    have fx : (Point.write id ⟨ex, ey⟩).field? Axis.x.name = some ex := rfl
    have fy : (Point.write id ⟨ex, ey⟩).field? Axis.y.name = some ey := rfl
    have hp : Point.read? (read? ⟨b, n⟩) (Point.write id ⟨ex, ey⟩) = some p := by
      simp [Point.read?, fx, fy, hx, hy]
    exact ⟨_, hp⟩

theorem write_inj_of_alike {p q : k.Val} (hp : k.hasNaN p = false) (hq : k.hasNaN q = false)
    (h : (k.write p).Alike (k.write q)) : p = q := by
  have hr := read?_eq_of_alike h k
  rw [read?_write hp, read?_write hq] at hr
  exact Option.some.inj hr

end Kind

namespace Store

variable {k : Kind} (s : Store k)

theorem distinct_written : Datum.Distinct s.written := by
  rw [Datum.Distinct, written, List.map_map, List.nodup_iff_pairwise_ne, List.pairwise_map]
  refine s.distinct_keys_toList.imp fun hkey => ?_
  simpa using hkey

theorem mem_written_iff {slot : String} {d : Datum} :
    (slot, d) ∈ s.written ↔ ∃ p, s[slot]? = some p ∧ k.point.write p = d := by
  simp [written, Std.ExtTreeMap.mem_toList_iff_getElem?_eq_some]

theorem field?_toDatum (slot : String) :
    s.toDatum.field? slot = s[slot]?.map k.point.write := by
  refine Option.ext fun d => ?_
  rw [toDatum, Datum.field?, Datum.lookup_eq_some_iff_mem s.distinct_written, mem_written_iff,
    Option.map_eq_some_iff]

end Store

end Planar
