import Planar.Probe
import Mathlib.Algebra.Group.Nat.Defs

/-! The comparison of nested points is a scan of the pairs of corresponding
leaves, from left to right, which ends at the first pair that does not answer
yes. For probes the scan is resolved into its trace and its outcome: how far it
reaches is decided by the answers alone. -/

namespace Planar

namespace Nested

variable {α : Type} {m : Type → Type} [Monad m]

def pairs (n : Nat) (a b : Nested α n) : List (α × α) := (leaves n a).zip (leaves n b)

theorem length_leaves (n : Nat) (a : Nested α n) : (leaves n a).length = 2 ^ n := by
  induction n with
  | zero => rfl
  | succ n ih =>
    have hx := ih a.x
    have hy := ih a.y
    rw [leaves, List.length_append, hx, hy, pow_succ]
    omega

theorem length_pairs (n : Nat) (a b : Nested α n) : (pairs n a b).length = 2 ^ n := by
  rw [pairs, List.length_zip, length_leaves, length_leaves, Nat.min_self]

theorem pairs_succ (n : Nat) (p q : Nested α (n + 1)) :
    pairs (n + 1) p q = pairs n p.x q.x ++ pairs n p.y q.y := by
  have hx : (leaves n p.x).length = (leaves n q.x).length := by
    rw [length_leaves, length_leaves]
  exact List.zip_append hx

theorem allM_cons (f : α → m Bool) (a : α) (s : List α) :
    (a :: s).allM f = f a >>= fun holds => if holds then s.allM f else pure false := by
  rw [List.allM]
  refine bind_congr fun holds => ?_
  cases holds <;> rfl

variable [LawfulMonad m]

theorem allM_singleton (f : α → m Bool) (a : α) : [a].allM f = f a := by
  rw [allM_cons]
  conv => rhs; rw [← bind_pure (f a)]
  refine bind_congr fun holds => ?_
  cases holds <;> rfl

theorem allM_append (f : α → m Bool) (s t : List α) :
    (s ++ t).allM f = s.allM f >>= fun holds => if holds then t.allM f else pure false := by
  induction s with
  | nil => simp
  | cons a s ih =>
    rw [List.cons_append, allM_cons, allM_cons, bind_assoc]
    refine bind_congr fun holds => ?_
    cases holds with
    | false => simp
    | true => exact ih

theorem nested_eq_allM (c : Comparator m α) (n : Nat) (a b : Nested α n) :
    (c.nested n).eq a b = (pairs n a b).allM fun pair => c.eq pair.1 pair.2 := by
  induction n with
  | zero => exact (allM_singleton _ _).symm
  | succ n ih =>
    have hx := ih a.x b.x
    have hy := ih a.y b.y
    rw [pairs_succ, allM_append, ← hx, ← hy]
    rfl

end Nested

namespace Probe

def answer (pair : Probe × Probe) : Option Bool :=
  pair.1.eqRule.apply pair.1.value pair.2.value

def entry (pair : Probe × Probe) : Comparison := ⟨.eq, pair.1.value, pair.2.value⟩

/-- The count of the comparisons up to the first that does not answer yes, that
one included, and of all comparisons where there is none. -/
def reach (pairs : List (Probe × Probe)) : Nat :=
  min (pairs.findIdx (fun pair => answer pair ≠ some true) + 1) pairs.length

def scan (pairs : List (Probe × Probe)) : Traced Bool :=
  pairs.allM fun pair => eq pair.1 pair.2

theorem scan_cons_of_yes {pair : Probe × Probe} (h : answer pair = some true)
    (rest : List (Probe × Probe)) :
    scan (pair :: rest) = ⟨entry pair :: (scan rest).trace, (scan rest).outcome⟩ := by
  have ho : (eq pair.1 pair.2).outcome = some true := h
  rw [scan, Nested.allM_cons, Traced.bind_of_some ho]
  rfl

theorem scan_cons_of_not_yes {pair : Probe × Probe} (h : answer pair ≠ some true)
    (rest : List (Probe × Probe)) : scan (pair :: rest) = ⟨[entry pair], answer pair⟩ := by
  have hp : eq pair.1 pair.2 = ⟨[entry pair], answer pair⟩ := rfl
  rw [scan, Nested.allM_cons, hp]
  match ha : answer pair with
  | none => rw [Traced.bind_of_none rfl]
  | some false => rfl
  | some true => exact absurd ha h

theorem reach_cons_of_yes {pair : Probe × Probe} (h : answer pair = some true)
    (rest : List (Probe × Probe)) : reach (pair :: rest) = reach rest + 1 := by
  simp only [reach, List.findIdx_cons, h, ne_eq, not_true, decide_false, cond_false,
    List.length_cons]
  omega

theorem reach_cons_of_not_yes {pair : Probe × Probe} (h : answer pair ≠ some true)
    (rest : List (Probe × Probe)) : reach (pair :: rest) = 1 := by
  simp only [reach, List.findIdx_cons, h, ne_eq, not_false_iff, decide_true, cond_true,
    List.length_cons]
  omega

theorem scan_trace (pairs : List (Probe × Probe)) :
    (scan pairs).trace = (pairs.take (reach pairs)).map entry := by
  induction pairs with
  | nil => rfl
  | cons pair rest ih =>
    by_cases h : answer pair = some true
    · rw [scan_cons_of_yes h, reach_cons_of_yes h, List.take_succ_cons, List.map_cons, ih]
    · rw [scan_cons_of_not_yes h, reach_cons_of_not_yes h]
      rfl

theorem scan_of_all_yes {pairs : List (Probe × Probe)}
    (h : ∀ pair ∈ pairs, answer pair = some true) : scan pairs = ⟨pairs.map entry, some true⟩ := by
  induction pairs with
  | nil => rfl
  | cons pair rest ih =>
    obtain ⟨hp, hr⟩ := List.forall_mem_cons.mp h
    rw [scan_cons_of_yes hp, ih hr]
    rfl

theorem scan_of_first_not_yes {front : List (Probe × Probe)} {pair : Probe × Probe}
    (hf : ∀ p ∈ front, answer p = some true) (hp : answer pair ≠ some true)
    (rest : List (Probe × Probe)) :
    scan (front ++ pair :: rest) = ⟨(front ++ [pair]).map entry, answer pair⟩ := by
  induction front with
  | nil => exact scan_cons_of_not_yes hp rest
  | cons p front ih =>
    obtain ⟨h, hf⟩ := List.forall_mem_cons.mp hf
    rw [List.cons_append, scan_cons_of_yes h, ih hf]
    rfl

theorem reach_pos {pairs : List (Probe × Probe)} (h : pairs ≠ []) : 0 < reach pairs := by
  have := List.length_pos_iff.mpr h
  unfold reach
  omega

theorem scan_outcome {pairs : List (Probe × Probe)} (h : pairs ≠ []) :
    ∃ last, pairs[reach pairs - 1]? = some last ∧ (scan pairs).outcome = answer last := by
  induction pairs with
  | nil => exact absurd rfl h
  | cons pair rest ih =>
    by_cases hp : answer pair = some true
    · rw [scan_cons_of_yes hp, reach_cons_of_yes hp]
      by_cases hr : rest = []
      · subst hr
        exact ⟨pair, rfl, hp.symm⟩
      · obtain ⟨last, hl, ho⟩ := ih hr
        have hpos := reach_pos hr
        refine ⟨last, ?_, ho⟩
        rw [List.getElem?_cons, if_neg (by omega)]
        exact hl
    · rw [scan_cons_of_not_yes hp, reach_cons_of_not_yes hp]
      exact ⟨pair, rfl, rfl⟩

theorem scan_outcome_eq_true_iff (pairs : List (Probe × Probe)) :
    (scan pairs).outcome = some true ↔ ∀ pair ∈ pairs, answer pair = some true := by
  refine ⟨fun h => ?_, fun h => by rw [scan_of_all_yes h]⟩
  induction pairs with
  | nil => simp
  | cons pair rest ih =>
    by_cases hp : answer pair = some true
    · rw [scan_cons_of_yes hp] at h
      exact List.forall_mem_cons.mpr ⟨hp, ih h⟩
    · rw [scan_cons_of_not_yes hp] at h
      exact absurd h hp

theorem probe_eq (n : Nat) (a b : Nested Probe n) :
    Nested.probe .eq n a b = scan (Nested.pairs n a b) :=
  Nested.nested_eq_allM comparator n a b

theorem pairs_ne_nil (n : Nat) (a b : Nested Probe n) : Nested.pairs n a b ≠ [] := by
  have hl : 0 < (Nested.pairs n a b).length := by
    rw [Nested.length_pairs]
    exact Nat.two_pow_pos n
  exact List.length_pos_iff.mp hl

/-- The comparisons made are the first `k`, where only the last of them may answer
anything but yes, and its answer is the outcome. -/
theorem equality_scans_leaves (n : Nat) (a b : Nested Probe (n + 1)) :
    let pairs := Nested.pairs (n + 1) a b
    let k := reach pairs
    let run := Nested.probe .eq (n + 1) a b
    pairs.length = 2 ^ (n + 1) ∧
    run.trace = (pairs.take k).map entry ∧
    (run.outcome = some true ↔ ∀ pair ∈ pairs, answer pair = some true) ∧
    (∃ last, pairs[k - 1]? = some last ∧
      (run.outcome = some false ↔ answer last = some false) ∧
      (run.outcome = none ↔ answer last = none)) ∧
    ∀ front pair rest, pairs = front ++ pair :: rest →
      (∀ p ∈ front, answer p = some true) → answer pair = some false →
      run = ⟨(front ++ [pair]).map entry, some false⟩ := by
  intro pairs k run
  have hrun : run = scan pairs := probe_eq (n + 1) a b
  obtain ⟨last, hlast, houtcome⟩ := scan_outcome (pairs_ne_nil (n + 1) a b)
  refine ⟨Nested.length_pairs (n + 1) a b, ?_, ?_, ⟨last, hlast, ?_, ?_⟩, ?_⟩
  · rw [hrun]
    exact scan_trace pairs
  · rw [hrun]
    exact scan_outcome_eq_true_iff pairs
  · rw [hrun, houtcome]
  · rw [hrun, houtcome]
  · intro front pair rest hsplit hfront hpair
    have hne : answer pair ≠ some true := by simp [hpair]
    rw [hrun, hsplit, scan_of_first_not_yes hfront hne rest, hpair]

end Probe

end Planar
