import Planar.Proofs.Place
import Planar.Proofs.Step.Footprint
import Planar.Proofs.Written.RoundTrip
import Planar.Request

/-! A step is done as a whole or not at all. One that fails leaves the store as
it was. One that succeeds leaves every slot but its target as it was, and a change
inside a point leaves the places parallel to its path as they were. The answer to
a script tells the steps one by one, each with the store after it. -/

namespace Planar

namespace Store

variable {k : Kind} {s : Store k} {d : Datum} {op : Op} {a : Action k}

theorem step_of_action {fault : Fault} (h : s.action d = .error fault) :
    s.step d = ⟨.error fault, s⟩ := by
  rw [step, h]

theorem exists_performs {reply : Reply k.base} (h : (s.step d).result = .ok reply) :
    ∃ op a, d.op? = some op ∧ s.Performs d op a ∧ s.step d = ⟨.ok a.reply, s.apply a.change⟩ := by
  cases hop : d.op? with
  | none =>
    obtain ⟨fault, hfault⟩ := action_of_no_op (k := k) hop
    rw [step_of_action (hfault s)] at h
    cases h
  | some op =>
    cases ha : s.act d op with
    | error fault =>
      rw [step_of_action (action_of_op hop ▸ ha)] at h
      cases h
    | ok a =>
      have hperforms : s.Performs d op a := act_eq_ok_iff.mp ha
      exact ⟨op, a, rfl, hperforms, hperforms.step hop⟩

theorem Performs.change_of_no_target (h : s.Performs d op a) (ht : op.target? = none) :
    a.change = .keep := by
  cases h with
  | get | eq | ne | debug => rfl
  | _ => cases ht

theorem Performs.name?_target {field : String} (h : s.Performs d op a)
    (ht : op.target? = some field) :
    ∃ slot, d.name? field = some slot ∧ a.change.target? = some slot := by
  cases h <;> cases ht
  all_goals exact ⟨_, by assumption, rfl⟩

theorem Performs.change_inside (h : s.Performs d op a) (hop : op = .set ∨ op = .update) :
    ∃ slot P p q, d.name? "slot" = some slot ∧ d.path? = some P ∧ s[slot]? = some p ∧
      a.change = .put slot q ∧ ∀ Q, Parallel P Q → k.point.get? q Q = k.point.get? p Q := by
  cases h with
  | set hslot hp hpath _ hq =>
    exact ⟨_, _, _, _, hslot, hpath, hp, rfl, fun Q hPQ => Kind.get?_of_modify hq hPQ⟩
  | update hslot hp hpath _ hq =>
    exact ⟨_, _, _, _, hslot, hpath, hp, rfl, fun Q hPQ => Kind.get?_of_modify hq hPQ⟩
  | _ => simp at hop

theorem after_take_succ (s : Store k) {steps : List Datum} {i : Nat} (h : steps[i]? = some d) :
    s.after (steps.take (i + 1)) = ((s.after (steps.take i)).step d).store := by
  rw [List.take_add_one, h, after, List.foldl_append]
  rfl

theorem getElem?_run (s : Store k) {steps : List Datum} {i : Nat} (h : steps[i]? = some d) :
    (s.run steps)[i]? = some ((s.after (steps.take i)).step d) := by
  induction steps generalizing s i with
  | nil => cases h
  | cons first rest ih =>
    cases i with
    | zero =>
      cases h
      rfl
    | succ i => exact ih _ h

theorem answer_run {request : Datum} {type : String} {steps : List Datum}
    (hop : request.name? "op" = some "run") (ht : request.name? "t" = some type)
    (hk : Kind.ofName? type = some k)
    (hsteps : (request.field? "steps").bind Datum.list? = some steps) :
    Request.answer request = .list (((∅ : Store k).run steps).map Entry.toDatum) := by
  have hkind : Request.answer? request = Request.onKind "run" k request :=
    Request.answer?_of_kind (need_eq_ok_iff.mpr hop) (by decide) (by decide)
      (need_eq_ok_iff.mpr ht) hk
  have hneed : request.need "steps" Datum.list? = .ok steps := need_eq_ok_iff.mpr hsteps
  rw [Request.answer, hkind, Request.onKind, Request.run, hneed]
  rfl

/-- The last part is on whole scripts: the answer has one entry for each step, in
their order, and tells what the step came to on the store that the steps before
it left, and the store after it. -/
theorem steps_are_atomic (s : Store k) (d : Datum) :
    (∀ fault, (s.step d).result = .error fault → (s.step d).store = s) ∧
    (∀ reply, (s.step d).result = .ok reply → ∃ op, d.op? = some op ∧
      (op.target? = none → (s.step d).store = s) ∧
      (∀ field, op.target? = some field → ∃ slot, d.name? field = some slot ∧
        ∀ other, other ≠ slot → (s.step d).store[other]? = s[other]?) ∧
      (op = .set ∨ op = .update → ∃ slot P p q, d.name? "slot" = some slot ∧
        d.path? = some P ∧ s[slot]? = some p ∧ (s.step d).store[slot]? = some q ∧
        ∀ Q, Parallel P Q → k.point.get? q Q = k.point.get? p Q)) ∧
    ∀ (request : Datum) (type : String) (steps : List Datum),
      request.name? "op" = some "run" → request.name? "t" = some type →
      Kind.ofName? type = some k → (request.field? "steps").bind Datum.list? = some steps →
      ∃ answers, Request.answer request = .list answers ∧ answers.length = steps.length ∧
        ∀ (i : Nat) (step : Datum), steps[i]? = some step →
          let e := ((∅ : Store k).after (steps.take i)).step step
          answers[i]? = some e.toDatum ∧ e.store = (∅ : Store k).after (steps.take (i + 1)) ∧
          e.toDatum.field? "s" = some e.store.toDatum ∧
          ∀ slot, e.store.toDatum.field? slot = e.store[slot]?.map k.point.write := by
  refine ⟨fun fault => s.store_step_of_error, ?_, ?_⟩
  · intro reply h
    obtain ⟨op, a, hop, hperforms, hstep⟩ := exists_performs h
    rw [hstep]
    refine ⟨op, hop, fun ht => ?_, fun field ht => ?_, fun hset => ?_⟩
    · rw [hperforms.change_of_no_target ht, apply_keep]
    · obtain ⟨slot, hslot, hchange⟩ := hperforms.name?_target ht
      refine ⟨slot, hslot, fun other hne => s.getElem?_apply_of_ne fun h => ?_⟩
      exact hne (Option.some.inj (h.symm.trans hchange))
    · obtain ⟨slot, P, p, q, hslot, hP, hp, hchange, hQ⟩ := hperforms.change_inside hset
      exact ⟨slot, P, p, q, hslot, hP, hp, by rw [hchange, getElem?_apply_put], hQ⟩
  · intro request type steps hop ht hk hsteps
    refine ⟨_, answer_run hop ht hk hsteps, by rw [List.length_map, length_run], ?_⟩
    intro i step hi e
    refine ⟨?_, (after_take_succ ∅ hi).symm, rfl, e.store.field?_toDatum⟩
    rw [List.getElem?_map, getElem?_run ∅ hi]
    rfl

/-- The second step of the script is no record. -/
theorem malformed_step_is_atomic :
    let k : Kind := { base := .bool }
    let build : Datum := .record
      [("op", .text "new"), ("x", .bool true), ("y", .bool false), ("to", .text "p")]
    let request : Datum :=
      .record [("op", .text "run"), ("t", .text "bool"), ("steps", .list [build, .null])]
    let s := (∅ : Store k).after [build]
    (s.step .null).store = s ∧
    ∃ answers, Request.answer request = .list answers ∧ answers.length = 2 ∧
      answers[1]? = some (s.step .null).toDatum := by
  intro k build request s
  obtain ⟨hfails, -, hanswer⟩ := steps_are_atomic s .null
  obtain ⟨answers, h, hlength, hentry⟩ :=
    hanswer request "bool" [build, .null] rfl rfl rfl rfl
  exact ⟨hfails .badInput rfl, answers, h, hlength, (hentry 1 .null rfl).1⟩

end Store

end Planar
