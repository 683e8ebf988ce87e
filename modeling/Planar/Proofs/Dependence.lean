import Planar.Proofs.Scan

/-! What the comparison of nested points depends on. The difference of points is
their equality with the answer turned round and the same trace. Neither looks at
the leaves behind the end of the scan, at a right operand's rules, or at any
coordinate's own test for difference. -/

namespace Planar

theorem Traced.map_outcome {α β : Type} (t : Traced α) (f : α → β) :
    (do return f (← t)) = (⟨t.trace, t.outcome.map f⟩ : Traced β) := by
  cases h : t.outcome with
  | none => rw [Traced.bind_of_none h, Option.map_none]
  | some a => simp [Traced.bind_of_some h]

namespace Probe

theorem probe_ne (n : Nat) (a b : Nested Probe (n + 1)) :
    Nested.probe .ne (n + 1) a b =
      ⟨(Nested.probe .eq (n + 1) a b).trace, (Nested.probe .eq (n + 1) a b).outcome.map (!·)⟩ :=
  Traced.map_outcome _ _

theorem relation_of_mem_trace {pairs : List (Probe × Probe)} {c : Comparison}
    (h : c ∈ (scan pairs).trace) : c.relation = .eq := by
  rw [scan_trace] at h
  obtain ⟨pair, -, rfl⟩ := List.mem_map.mp h
  rfl

/-- The last part says that the coordinates' own test for difference, be they
probes or points, may be any other. -/
theorem difference_negates_equality (n : Nat) (a b : Nested Probe (n + 1)) :
    let same := Nested.probe .eq (n + 1) a b
    let differ := Nested.probe .ne (n + 1) a b
    differ.trace = same.trace ∧
    differ.outcome = same.outcome.map (!·) ∧
    (∀ c ∈ same.trace ++ differ.trace, c.relation = .eq) ∧
    ∀ ne, (Comparator.point ⟨(comparator.nested n).eq, ne⟩).ne a b = differ := by
  intro same differ
  have hdiffer : differ = ⟨same.trace, same.outcome.map (!·)⟩ := probe_ne n a b
  have hsame : same = scan (Nested.pairs (n + 1) a b) := probe_eq (n + 1) a b
  refine ⟨by rw [hdiffer], by rw [hdiffer], ?_, fun ne => rfl⟩
  intro c hc
  rw [hdiffer, List.mem_append, or_self, hsame] at hc
  exact relation_of_mem_trace hc

def asked (p : Probe) : Int × Rule := (p.value, p.eqRule)

def view (pair : Probe × Probe) : (Int × Rule) × Int := (pair.1.asked, pair.2.value)

theorem answer_congr {p q : Probe × Probe} (h : view p = view q) : answer p = answer q := by
  simp only [view, asked, Prod.mk.injEq] at h
  obtain ⟨⟨hv, hr⟩, hw⟩ := h
  rw [answer, answer, hv, hr, hw]

theorem entry_congr {p q : Probe × Probe} (h : view p = view q) : entry p = entry q := by
  simp only [view, asked, Prod.mk.injEq] at h
  obtain ⟨⟨hv, -⟩, hw⟩ := h
  rw [entry, entry, hv, hw]

theorem scan_congr {ps qs : List (Probe × Probe)} (hl : ps.length = qs.length)
    (h : (ps.take (reach ps)).map view = (qs.take (reach ps)).map view) : scan ps = scan qs := by
  induction ps generalizing qs with
  | nil =>
    have hq : qs = [] := List.length_eq_zero_iff.mp hl.symm
    rw [hq]
  | cons p ps ih =>
    obtain ⟨q, qs, rfl⟩ := List.exists_cons_of_length_eq_add_one hl.symm
    by_cases hp : answer p = some true
    · rw [reach_cons_of_yes hp, List.take_succ_cons, List.take_succ_cons, List.map_cons,
        List.map_cons, List.cons.injEq] at h
      obtain ⟨hview, hrest⟩ := h
      have hq : answer q = some true := answer_congr hview ▸ hp
      rw [scan_cons_of_yes hp, scan_cons_of_yes hq, entry_congr hview,
        ih (Nat.succ.inj hl) hrest]
    -- Both scans end here, and the rests may differ.
    · rw [reach_cons_of_not_yes hp] at h
      have hview : view p = view q := (List.cons.inj h).1
      have hq : answer q ≠ some true := answer_congr hview ▸ hp
      rw [scan_cons_of_not_yes hp, scan_cons_of_not_yes hq, entry_congr hview, answer_congr hview]

theorem map_view_take_pairs (n k : Nat) (a b : Nested Probe n) :
    ((Nested.pairs n a b).take k).map view =
      (((Nested.leaves n a).take k).map asked).zip (((Nested.leaves n b).take k).map value) := by
  rw [List.zip_map, Nested.pairs, List.zip, List.take_zipWith]
  rfl

/-- Two runs give the same wherever the left operands agree in number and rule
for equality and the right operands in number, at every leaf up to the end of
the first run's scan. -/
theorem probe_congr (n : Nat) (a b a' b' : Nested Probe (n + 1))
    (ha : ((Nested.leaves (n + 1) a).take (reach (Nested.pairs (n + 1) a b))).map asked =
      ((Nested.leaves (n + 1) a').take (reach (Nested.pairs (n + 1) a b))).map asked)
    (hb : ((Nested.leaves (n + 1) b).take (reach (Nested.pairs (n + 1) a b))).map value =
      ((Nested.leaves (n + 1) b').take (reach (Nested.pairs (n + 1) a b))).map value) :
    ∀ relation, Nested.probe relation (n + 1) a b = Nested.probe relation (n + 1) a' b' := by
  have hlength : (Nested.pairs (n + 1) a b).length = (Nested.pairs (n + 1) a' b').length := by
    rw [Nested.length_pairs, Nested.length_pairs]
  have hscan : scan (Nested.pairs (n + 1) a b) = scan (Nested.pairs (n + 1) a' b') := by
    apply scan_congr hlength
    rw [map_view_take_pairs, map_view_take_pairs, ha, hb]
  have heq : Nested.probe .eq (n + 1) a b = Nested.probe .eq (n + 1) a' b' := by
    rw [probe_eq, probe_eq, hscan]
  intro relation
  cases relation with
  | eq => exact heq
  | ne => rw [probe_ne, probe_ne, heq]

/-- The second leaves end both scans, so that no refusal behind them is heard. -/
theorem probe_congr_behind_mismatch :
    let a : Nested Probe 2 :=
      ⟨⟨⟨7, .always, .never⟩, ⟨5, .le, .value⟩⟩, ⟨⟨0, .value, .value⟩, ⟨0, .value, .value⟩⟩⟩
    let a' : Nested Probe 2 :=
      ⟨⟨⟨7, .always, .fail⟩, ⟨5, .le, .fail⟩⟩, ⟨⟨1, .fail, .fail⟩, ⟨2, .fail, .fail⟩⟩⟩
    let b : Nested Probe 2 :=
      ⟨⟨⟨3, .value, .value⟩, ⟨4, .value, .value⟩⟩, ⟨⟨0, .value, .value⟩, ⟨0, .value, .value⟩⟩⟩
    let b' : Nested Probe 2 :=
      ⟨⟨⟨3, .fail, .fail⟩, ⟨4, .fail, .fail⟩⟩, ⟨⟨8, .fail, .fail⟩, ⟨9, .fail, .fail⟩⟩⟩
    let k := reach (Nested.pairs 2 a b)
    k = 2 ∧
    ((Nested.leaves 2 a).take k).map asked = ((Nested.leaves 2 a').take k).map asked ∧
    ((Nested.leaves 2 b).take k).map value = ((Nested.leaves 2 b').take k).map value ∧
    ∀ relation, Nested.probe relation 2 a b = Nested.probe relation 2 a' b' :=
  ⟨rfl, rfl, rfl, probe_congr 1 _ _ _ _ rfl rfl⟩

end Probe

end Planar
