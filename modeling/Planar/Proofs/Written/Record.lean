import Planar.Kind.Basic
import Mathlib.Data.List.Basic

/-! Records whose fields have different names are the same data in any order of
the fields, and they are read alike as values of any kind. -/

namespace Planar

namespace Datum

def Distinct (fields : List (String × Datum)) : Prop := (fields.map Prod.fst).Nodup

theorem lookup_eq_some_iff_mem {fields : List (String × Datum)} (h : Distinct fields)
    {name : String} {d : Datum} : fields.lookup name = some d ↔ (name, d) ∈ fields := by
  induction fields with
  | nil => simp
  | cons field rest ih =>
    obtain ⟨key, e⟩ := field
    obtain ⟨hkey, hrest⟩ := List.nodup_cons.mp h
    rw [List.lookup_cons, List.mem_cons, Prod.mk.injEq]
    by_cases hk : name = key
    · subst hk
      have hmem : (name, d) ∉ rest := fun hm => hkey (List.mem_map.mpr ⟨(name, d), hm, rfl⟩)
      simp [hmem, eq_comm]
    · rw [beq_false_of_ne hk]
      simp [hk, ih hrest]

theorem lookup_perm {fields others : List (String × Datum)} (hp : fields.Perm others)
    (h : Distinct fields) (name : String) : fields.lookup name = others.lookup name := by
  have ho : Distinct others := (hp.map Prod.fst).nodup_iff.mp h
  refine Option.ext fun d => ?_
  rw [lookup_eq_some_iff_mem h, lookup_eq_some_iff_mem ho, hp.mem_iff]

/-- The same data, up to the order of the fields of the records in it. -/
inductive Alike : Datum → Datum → Prop
  | refl (d : Datum) : Alike d d
  | trans {d e f : Datum} : Alike d e → Alike e f → Alike d f
  | reorder {fields others : List (String × Datum)} :
    fields.Perm others → Distinct fields → Alike (.record fields) (.record others)
  | field {d e : Datum} (name : String) (front rest : List (String × Datum)) :
    Alike d e → Alike (.record (front ++ (name, d) :: rest)) (.record (front ++ (name, e) :: rest))
  | item {d e : Datum} (front rest : List Datum) :
    Alike d e → Alike (.list (front ++ d :: rest)) (.list (front ++ e :: rest))

theorem bind_field?_congr {α : Type} {part? : Datum → Option α} {d e : Datum}
    (h : part? d = part? e) (key : String) (front rest : List (String × Datum)) (name : String) :
    ((record (front ++ (key, d) :: rest)).field? name).bind part? =
      ((record (front ++ (key, e) :: rest)).field? name).bind part? := by
  simp only [field?, List.lookup_append, List.lookup_cons]
  cases front.lookup name <;> cases name == key <;> simp [h]

end Datum

open Datum

namespace Point

variable {α : Type} {coordinate : Datum → Option α}

theorem read?_reorder {fields others : List (String × Datum)} (hp : fields.Perm others)
    (h : Distinct fields) :
    read? coordinate (.record fields) = read? coordinate (.record others) := by
  simp only [read?, field?, lookup_perm hp h]

theorem read?_field {d e : Datum} (h : coordinate d = coordinate e) (key : String)
    (front rest : List (String × Datum)) :
    read? coordinate (.record (front ++ (key, d) :: rest)) =
      read? coordinate (.record (front ++ (key, e) :: rest)) := by
  simp only [read?, Option.bind_eq_bind, bind_field?_congr h]

end Point

namespace Kind

/-- Where two records are read alike as points of any coordinates, they are read
alike as values, for nothing but points is read from records. -/
theorem read?_record_congr {fields others : List (String × Datum)}
    (h : ∀ k : Kind,
      Point.read? k.read? (.record fields) = Point.read? k.read? (.record others)) (k : Kind) :
    k.read? (.record fields) = k.read? (.record others) := by
  obtain ⟨b, n⟩ := k
  cases n with
  | zero =>
    cases b with
    | tree f =>
      have hnode : Tree.node <$> Point.read? (Tree.read? (Base.readInteger? f)) (.record fields) =
          Tree.node <$> Point.read? (Tree.read? (Base.readInteger? f)) (.record others) :=
        congrArg (Tree.node <$> ·) (h ⟨.tree f, 0⟩)
      rwa [← Tree.read?_record, ← Tree.read?_record] at hnode
    | _ => rfl
  | succ n => exact h ⟨b, n⟩

theorem read?_list_congr {d e : Datum} (h : ∀ k : Kind, k.read? d = k.read? e)
    (front rest : List Datum) (k : Kind) :
    k.read? (.list (front ++ d :: rest)) = k.read? (.list (front ++ e :: rest)) := by
  obtain ⟨b, n⟩ := k
  cases n with
  | zero =>
    cases b with
    | list f =>
      have hd : Base.readInteger? f d = Base.readInteger? f e := h ⟨.integer f, 0⟩
      have hitems : (front ++ d :: rest).mapM (Base.readInteger? f) =
          (front ++ e :: rest).mapM (Base.readInteger? f) := by
        simp only [List.mapM_append, List.mapM_cons, hd]
      exact hitems
    | _ => rfl
  | succ n => rfl

theorem read?_eq_of_alike {d e : Datum} (h : Alike d e) (k : Kind) : k.read? d = k.read? e := by
  induction h generalizing k with
  | refl d => rfl
  | trans _ _ ihd ihe => rw [ihd, ihe]
  | reorder hp hd => exact read?_record_congr (fun k => Point.read?_reorder hp hd) k
  | field name front rest _ ih =>
    exact read?_record_congr (fun k => Point.read?_field (ih k) name front rest) k
  | item front rest _ ih => exact read?_list_congr ih front rest k

end Kind

end Planar
