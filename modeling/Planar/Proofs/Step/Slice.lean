import Planar.Proofs.Step.Footprint
import Planar.Proofs.Written.RoundTrip

/-! A script can be cut down to some of its slots. Where no other step writes one
of these slots, the steps that name nothing but them come to the same without
the others, and they find the same points in these slots. -/

namespace Planar

namespace Datum

def Within (S : String → Prop) (d : Datum) : Prop := ∀ slot ∈ d.slots, S slot

variable {S : String → Prop}

theorem Within.reads {d : Datum} (h : d.Within S) : ∀ slot ∈ d.reads, S slot :=
  fun slot hslot => h slot (List.mem_append_left _ hslot)

variable [DecidablePred S]

instance (d : Datum) : Decidable (d.Within S) := inferInstanceAs (Decidable (∀ _ ∈ _, _))

def restrict (S : String → Prop) [DecidablePred S] : Datum → Datum
  | .record fields => .record (fields.filter fun field => S field.1)
  | d => d

end Datum

def Entry.view {k : Kind} (S : String → Prop) [DecidablePred S] (e : Entry k) :
    Except Fault (Reply k.base) × Datum :=
  (e.result, e.store.toDatum.restrict S)

namespace Store

variable {k : Kind} {s t : Store k} {S : String → Prop}

theorem agree_after {steps : List Datum} (h : ∀ d ∈ steps, ∀ slot ∈ d.target?, ¬ S slot) :
    Agree S (s.after steps) s := by
  induction steps generalizing s with
  | nil => exact Agree.refl s
  | cons d rest ih =>
    obtain ⟨hd, hrest⟩ := List.forall_mem_cons.mp h
    exact (ih hrest).trans (Agree.step_elsewhere hd)

theorem target?_of_duplication {d : Datum} {duplicate : String}
    (hop : d.op? = some .clone ∨ d.op? = some .copy) (hto : d.name? "to" = some duplicate) :
    d.target? = some duplicate := by
  rcases hop with hop | hop
  · rw [Datum.target?_of_op hop, Op.target?, Option.bind_some, hto]
  · rw [Datum.target?_of_op hop, Op.target?, Option.bind_some, hto]

variable [DecidablePred S]

theorem restrict_toDatum (s : Store k) :
    s.toDatum.restrict S = toDatum (s.filter fun slot _ => S slot) := by
  rw [toDatum, toDatum, written, written, Std.ExtTreeMap.toList_filter, Datum.restrict,
    List.filter_map]
  rfl

theorem Agree.restrict_toDatum (h : Agree S s t) :
    s.toDatum.restrict S = t.toDatum.restrict S := by
  have hfilter : s.filter (fun slot _ => S slot) = t.filter fun slot _ => S slot := by
    refine Std.ExtTreeMap.ext_getElem? fun slot => ?_
    rw [Std.ExtTreeMap.getElem?_filter', Std.ExtTreeMap.getElem?_filter']
    by_cases hslot : S slot
    · rw [h slot hslot]
    · simp [hslot]
  rw [Store.restrict_toDatum, Store.restrict_toDatum, hfilter]

theorem Agree.view_step {d : Datum} (h : Agree S s t) (hd : d.Within S) :
    (s.step d).view S = (t.step d).view S := by
  obtain ⟨hresult, hstore⟩ := h.step hd.reads
  rw [Entry.view, Entry.view, hresult, hstore.restrict_toDatum]

theorem Agree.view_run {steps : List Datum} (hst : Agree S s t)
    (h : ∀ d ∈ steps, d.Within S ∨ ∀ slot ∈ d.target?, ¬ S slot) :
    ((steps.zip (s.run steps)).filter fun e => e.1.Within S).map (fun e => e.2.view S) =
      (t.run (steps.filter fun d => d.Within S)).map (Entry.view S) := by
  induction steps generalizing s t with
  | nil => rfl
  | cons d rest ih =>
    obtain ⟨hd, hrest⟩ := List.forall_mem_cons.mp h
    rw [run, List.zip_cons_cons]
    by_cases hw : d.Within S
    · have hstep : Agree S (s.step d).store (t.step d).store := (hst.step hw.reads).2
      rw [List.filter_cons_of_pos (by simpa using hw), List.filter_cons_of_pos (by simpa using hw),
        run, List.map_cons, List.map_cons, hst.view_step hw, ih hstep hrest]
    · -- The step that is left out touches no slot of the set.
      have hstep : Agree S (s.step d).store t :=
        (Agree.step_elsewhere (hd.resolve_left hw)).trans hst
      rw [List.filter_cons_of_neg (by simpa using hw), List.filter_cons_of_neg (by simpa using hw),
        ih hstep hrest]

/-- The second part is on a point that was duplicated: whatever is done to the
duplicate, the original is found as it was. -/
theorem slots_are_independent {steps : List Datum}
    (h : ∀ d ∈ steps, d.Within S ∨ ∀ slot ∈ d.target?, ¬ S slot) :
    ((steps.zip ((∅ : Store k).run steps)).filter fun e => e.1.Within S).map
        (fun e => e.2.view S) =
      ((∅ : Store k).run (steps.filter fun d => d.Within S)).map (Entry.view S) ∧
    ∀ (before after : List Datum) (d : Datum) (original duplicate : String),
      d.op? = some .clone ∨ d.op? = some .copy →
      d.name? "from" = some original → d.name? "to" = some duplicate → original ≠ duplicate →
      (∀ e ∈ after, ∀ slot ∈ e.target?, slot = duplicate) →
      let s := (∅ : Store k).after before
      let t := s.after (d :: after)
      t.toDatum.field? original = s.toDatum.field? original ∧
      ∀ e : Datum, e.Within (· = original) → (t.step e).result = (s.step e).result := by
  refine ⟨(Agree.refl ∅).view_run h, ?_⟩
  intro before after d original duplicate hop hfrom hto hne hafter s t
  have htarget : ∀ e ∈ d :: after, ∀ slot ∈ e.target?, slot = duplicate := by
    refine List.forall_mem_cons.mpr ⟨fun slot hslot => ?_, hafter⟩
    rw [target?_of_duplication hop hto] at hslot
    exact (Option.some.inj hslot).symm
  have hagree : Agree (· = original) t s :=
    agree_after fun e he slot hslot hs => hne (hs ▸ htarget e he slot hslot)
  refine ⟨?_, fun e he => (hagree.step he.reads).1⟩
  rw [field?_toDatum, field?_toDatum, hagree original rfl]

/-- The point in the slot `p` is built, duplicated and read, and in between its
duplicate grows. -/
theorem original_unchanged_by_growth :
    let k : Kind := { base := .text }
    let build : Datum := .record
      [("op", .text "new"), ("x", .text "left"), ("y", .text "top"), ("to", .text "p")]
    let clone : Datum := .record [("op", .text "clone"), ("from", .text "p"), ("to", .text "q")]
    let grow : Datum := .record
      [("op", .text "update"), ("slot", .text "q"), ("path", .list [.text "y"]), ("v", .text "-most")]
    let read : Datum := .record
      [("op", .text "get"), ("slot", .text "p"), ("path", .list [.text "y"])]
    let steps := [build, clone, grow, read]
    let S : String → Prop := (· = "p")
    let s := (∅ : Store k).after [build]
    (∀ d ∈ steps, d.Within S ∨ ∀ slot ∈ d.target?, ¬ S slot) ∧
    ((steps.zip ((∅ : Store k).run steps)).filter fun e => e.1.Within S).map
        (fun e => e.2.view S) =
      ((∅ : Store k).run [build, read]).map (Entry.view S) ∧
    ((s.after [clone, grow]).step read).result = (s.step read).result := by
  intro k build clone grow read steps S s
  have h : ∀ d ∈ steps, d.Within S ∨ ∀ slot ∈ d.target?, ¬ S slot := by
    decide
  obtain ⟨hcut, horiginal⟩ := slots_are_independent (k := k) h
  have hgrow : ∀ e ∈ [grow], ∀ slot ∈ e.target?, slot = "q" := by
    decide
  exact ⟨h, hcut, (horiginal [build] [grow] clone "p" "q" (Or.inl rfl) rfl rfl (by decide)
    hgrow).2 read (by decide)⟩

end Store

end Planar
