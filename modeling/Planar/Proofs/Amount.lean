import Planar.Proofs.Leaf
import Planar.Proofs.Step.Atomic
import Mathlib.Algebra.Group.Nat.Defs
import Mathlib.Algebra.Ring.Int.Defs
import Mathlib.Data.List.Basic

/-! Changes in place. A leaf is changed by an amount of its kind, and what it comes to
by many amounts has a closed form: integers grow by the sum and wrap around once, truth
values are flipped by all amounts together, and texts and lists go on with the amounts
one after the other. Except for binary numbers a change can be taken back, so that
different leaves stay different. -/

namespace Planar

namespace Integer.Format

variable (f : Format)

def wrap (i : Int) : Int :=
  if f.signed then i.bmod (2 ^ f.bits) else i % (2 ^ f.bits : Nat)

theorem wrap_toInt (v : f.Val) : f.wrap (f.toInt v) = f.toInt v := by
  unfold wrap toInt
  split
  · exact v.toInt_bmod_cancel
  · exact Int.emod_eq_of_lt (Int.natCast_nonneg _) (Int.ofNat_lt.mpr v.isLt)

theorem wrap_wrap_add (i j : Int) : f.wrap (f.wrap i + j) = f.wrap (i + j) := by
  unfold wrap
  split
  · exact Int.bmod_add_bmod
  · exact Int.emod_add_emod ..

theorem toInt_add (v w : f.Val) :
    f.toInt (v + w : BitVec f.bits) = f.wrap (f.toInt v + f.toInt w) := by
  unfold wrap toInt
  split
  · exact BitVec.toInt_add v w
  · rw [BitVec.toNat_add]
    rfl

theorem toInt_foldl_add (v : f.Val) (amounts : List f.Val) :
    f.toInt (amounts.foldl (fun v a : BitVec f.bits => v + a) v) =
      f.wrap (f.toInt v + (amounts.map f.toInt).sum) := by
  induction amounts generalizing v with
  | nil => simp [wrap_toInt]
  | cons a amounts ih =>
    rw [List.foldl_cons, ih, toInt_add, wrap_wrap_add, List.map_cons, List.sum_cons, Int.add_assoc]

end Integer.Format

namespace Base

abbrev Amount : Base → Type
  | .integer f => f.Val
  | .binary f => f.Val
  | .bool => Bool
  | .list f => List f.Val
  | .text => String
  | .raw => String
  | .tree f => f.Val
  | .char => Empty
  | .unit => Empty
  | .option _ => Empty

def amount? : (b : Base) → Datum → Option b.Amount
  | .integer f, e => readInteger? f e
  | .binary f, e => read? (.binary f) e
  | .bool, e => e.bool?
  | .list f, e => read? (.list f) e
  | .text, e => e.text?
  | .raw, e => e.text?
  | .tree f, e => readInteger? f e
  | .char, _ => none
  | .unit, _ => none
  | .option _, _ => none

def adjust : (b : Base) → b.Val → b.Amount → b.Val
  | .integer f, v, a => (v + a : BitVec f.bits)
  | .binary f, v, a => f.mul v a
  | .bool, v, a => v ^^ a
  | .list _, v, a => v ++ a
  | .text, v, a => v ++ a
  | .raw, v, a => v ++ a
  | .tree f, .leaf v, a => .leaf (v + a : BitVec f.bits)
  | .tree _, .node p, _ => .node p
  | .char, v, _ => v
  | .unit, v, _ => v
  | .option _, v, _ => v

variable {b : Base} {v w : b.Val} {e : Datum} {a : b.Amount}

theorem update_eq_ok_iff :
    b.update v e = .ok w ↔ b.isLeaf v = true ∧ ∃ a, b.amount? e = some a ∧ b.adjust v a = w := by
  cases b with
  | char | unit | option f =>
    constructor
    · intro h
      cases h
    · rintro ⟨-, a, -, -⟩
      cases a
  | tree f =>
    cases v with
    | leaf v =>
      rw [update, Fault.map_eq_ok_iff]
      simp only [Fault.ifNone_eq_ok_iff, isLeaf, true_and]
      rfl
    | node p => simp [update, isLeaf]
  | _ =>
    rw [update, Fault.map_eq_ok_iff]
    simp only [Fault.ifNone_eq_ok_iff, isLeaf, true_and]
    rfl

theorem isLeaf_adjust (hv : b.isLeaf v = true) (a : b.Amount) : b.isLeaf (b.adjust v a) = true := by
  cases b with
  | tree f =>
    cases v with
    | leaf v => rfl
    | node p => cases hv
  | _ => rfl

theorem adjust_inj (hb : b.isBinary = false) (hv : b.isLeaf v = true) (hw : b.isLeaf w = true) :
    b.adjust v a = b.adjust w a ↔ v = w := by
  cases b with
  | integer f => exact BitVec.add_left_inj a
  | binary f => cases hb
  | bool => exact Bool.xor_left_inj
  | list f => exact List.append_left_inj a
  | text | raw => exact String.append_left_inj a
  | tree f =>
    cases v with
    | node p => cases hv
    | leaf v =>
      cases w with
      | node q => cases hw
      | leaf w =>
        rw [adjust, adjust, Tree.leaf.injEq, Tree.leaf.injEq]
        exact BitVec.add_left_inj a
  | char | unit | option f => cases a

theorem readInteger?_eq_some_iff {f : Integer.Format} {v : f.Val} :
    readInteger? f e = some v ↔ e = writeInteger f v := by
  constructor
  · intro h
    obtain ⟨s, hs, hv⟩ := Option.bind_eq_some_iff.mp h
    cases e with
    | text t =>
      obtain rfl : t = s := Option.some.inj hs
      rw [writeInteger, Datum.ofChars, ← f.read?_eq_some_iff.mp hv, String.ofList_toList]
    | _ => cases hs
  · rintro rfl
    exact readInteger?_writeInteger f v

theorem writeInteger_inj {f : Integer.Format} {v w : f.Val} :
    writeInteger f v = writeInteger f w ↔ v = w := by
  rw [← readInteger?_eq_some_iff, readInteger?_writeInteger, Option.some_inj, eq_comm]

def neutral : Base → Datum
  | .integer _ => .text "0"
  | .tree _ => .text "0"
  | .bool => .bool false
  | .list _ => .list []
  | .text => .text ""
  | .raw => .text ""
  | _ => .null

theorem writeInteger_zero (f : Integer.Format) :
    writeInteger f (0 : BitVec f.bits) = .text "0" := by
  have hzero : f.toInt (0 : BitVec f.bits) = 0 := by
    unfold Integer.Format.toInt
    split <;> simp
  rw [writeInteger, Integer.Format.write, hzero]
  rfl

theorem integer_amount_eq_zero_iff {f : Integer.Format} {a : f.Val}
    (ha : readInteger? f e = some a) : a = (0 : BitVec f.bits) ↔ e = .text "0" := by
  rw [readInteger?_eq_some_iff.mp ha, ← writeInteger_zero f, writeInteger_inj]

theorem adjust_eq_self_iff (hb : b.isBinary = false) (hv : b.isLeaf v = true)
    (ha : b.amount? e = some a) : b.adjust v a = v ↔ e = b.neutral := by
  cases b with
  | integer f =>
    rw [neutral, ← integer_amount_eq_zero_iff ha]
    exact BitVec.add_right_eq_self
  | binary f => cases hb
  | bool =>
    cases e with
    | bool c =>
      obtain rfl : c = a := Option.some.inj ha
      cases v <;> simp [adjust, neutral]
    | _ => cases ha
  | list f =>
    cases e with
    | list items =>
      have ha : items.mapM (readInteger? f) = some a := ha
      rw [neutral, Datum.list.injEq]
      cases items with
      | nil =>
        obtain rfl : [] = a := Option.some.inj ha
        simp [adjust]
      | cons item items =>
        rw [List.mapM_cons] at ha
        obtain ⟨i, -, ha⟩ := Option.bind_eq_some_iff.mp ha
        obtain ⟨is, -, ha⟩ := Option.bind_eq_some_iff.mp ha
        obtain rfl : i :: is = a := Option.some.inj ha
        simp [adjust]
    | _ => cases ha
  | text | raw =>
    cases e with
    | text t =>
      obtain rfl : t = a := Option.some.inj ha
      simp [adjust, neutral]
    | _ => cases ha
  | tree f =>
    cases v with
    | leaf v =>
      rw [neutral, ← integer_amount_eq_zero_iff ha, adjust, Tree.leaf.injEq]
      exact BitVec.add_right_eq_self
    | node p => cases hv
  | char | unit | option f => cases a

def orderFree : Base → Bool
  | .integer _ | .bool | .tree _ => true
  | _ => false

theorem adjust_right_comm (hb : b.orderFree = true) (v : b.Val) (a c : b.Amount) :
    b.adjust (b.adjust v a) c = b.adjust (b.adjust v c) a := by
  have hadd {n : Nat} (i j l : BitVec n) : i + j + l = i + l + j := by
    rw [BitVec.add_assoc, BitVec.add_comm j l, BitVec.add_assoc]
  cases b with
  | integer f => exact hadd v a c
  | bool => exact Bool.xor_right_comm v a c
  | tree f =>
    cases v with
    | leaf v => exact congrArg Tree.leaf (hadd v a c)
    | node p => rfl
  | _ => cases hb

def Accumulates : (b : Base) → b.Val → List b.Amount → b.Val → Prop
  | .integer f, v, amounts, w => f.toInt w = f.wrap (f.toInt v + (amounts.map f.toInt).sum)
  | .binary f, v, amounts, w => w = amounts.foldl f.mul v
  | .bool, v, amounts, w => w = (v ^^ amounts.foldr (· ^^ ·) false)
  | .list _, v, amounts, w => w = v ++ amounts.flatten
  | .text, v, amounts, w => w.toList = v.toList ++ amounts.flatMap String.toList
  | .raw, v, amounts, w => w.toList = v.toList ++ amounts.flatMap String.toList
  | .tree f, .leaf v, amounts, .leaf w =>
    f.toInt w = f.wrap (f.toInt v + (amounts.map f.toInt).sum)
  | .tree _, _, _, _ => False
  | .char, v, _, w => w = v
  | .unit, v, _, w => w = v
  | .option _, v, _, w => w = v

theorem toList_foldl_append (s : String) (amounts : List String) :
    (amounts.foldl (· ++ ·) s).toList = s.toList ++ amounts.flatMap String.toList := by
  induction amounts generalizing s with
  | nil => simp
  | cons t amounts ih => simp [ih]

theorem foldl_adjust_leaf {f : Integer.Format} (v : f.Val) (amounts : List f.Val) :
    amounts.foldl (adjust (.tree f)) (.leaf v) =
      .leaf (amounts.foldl (fun v a : BitVec f.bits => v + a) v) := by
  induction amounts generalizing v with
  | nil => rfl
  | cons a amounts ih => exact ih (v + a : BitVec f.bits)

theorem accumulates_foldl (hv : b.isLeaf v = true) (amounts : List b.Amount) :
    b.Accumulates v amounts (amounts.foldl b.adjust v) := by
  cases b with
  | integer f => exact f.toInt_foldl_add v amounts
  | binary f => rfl
  | bool =>
    induction amounts generalizing v with
    | nil => simp [Accumulates]
    | cons a amounts ih => simpa [Accumulates, adjust] using ih (v := v ^^ a) rfl
  | list f =>
    induction amounts generalizing v with
    | nil => simp [Accumulates]
    | cons a amounts ih => simpa [Accumulates, adjust] using ih (v := v ++ a) rfl
  | text | raw => exact toList_foldl_append v amounts
  | tree f =>
    cases v with
    | node p => cases hv
    | leaf v =>
      rw [foldl_adjust_leaf]
      exact f.toInt_foldl_add v amounts
  | char | unit | option f =>
    cases amounts with
    | nil => rfl
    | cons a amounts => cases a

end Base

namespace Kind

variable {k : Kind} {p q : k.Val} {P : List Axis} {e : Datum}

theorem leaf?_of_update (h : k.update p P e = .ok q) :
    ∃ v a, k.leaf? p P = some v ∧ k.base.amount? e = some a ∧
      ∀ Q, k.leaf? q Q = if Q = P then some (k.base.adjust v a) else k.leaf? p Q := by
  obtain ⟨d, v, around, w, hP, hw, rfl⟩ := exists_leads_of_modify h
  cases d with
  | zero =>
    obtain ⟨hv, a, ha, rfl⟩ := Base.update_eq_ok_iff.mp hw
    exact ⟨v, a, leaf?_eq_some_iff.mpr ⟨hP.get?, hv⟩, ha,
      hP.leaf?_around hv (Base.isLeaf_adjust hv a)⟩
  | succ d => cases hw

theorem exists_update {v : k.base.Val} {a : k.base.Amount} (hv : k.leaf? p P = some v)
    (ha : k.base.amount? e = some a) : ∃ q, k.update p P e = .ok q := by
  obtain ⟨hget, hleaf⟩ := leaf?_eq_some_iff.mp hv
  obtain ⟨around, hP⟩ := exists_leads hget
  have hupdate : k.update p P e = around <$> k.base.update v e := hP.modify _
  rw [hupdate, Base.update_eq_ok_iff.mpr ⟨hleaf, a, ha, rfl⟩]
  exact ⟨_, rfl⟩

end Kind

theorem Store.exists_update_of_done {k : Kind} {s : Store k} {d : Datum}
    (hop : d.op? = some .update) (h : (s.step d).result = .ok .done) :
    ∃ slot P e p q, d.name? "slot" = some slot ∧ d.path? = some P ∧ d.field? "v" = some e ∧
      s[slot]? = some p ∧ k.point.update p P e = .ok q ∧
      s.step d = ⟨.ok .done, s.apply (.put slot q)⟩ := by
  obtain ⟨op, action, hop', hperforms, hstep⟩ := exists_performs h
  obtain rfl : Op.update = op := Option.some.inj (hop.symm.trans hop')
  cases hperforms with
  | update hslot hp hpath he hq => exact ⟨_, _, _, _, _, hslot, hpath, he, hp, hq, hstep⟩

end Planar
