import Mathlib.Data.List.Induction

/-! # Properties of whole runs

A run feeds a list of events to a machine; the states it passes through are those after its initial
parts. A property that a step keeps exactly when a condition on the step holds is true throughout a run
exactly when every step meets the condition.
-/

namespace Machine

variable {σ ε : Type*} (step : σ → ε → σ)

/-- The property holds in every state a run passes through, the first and the last included. -/
def Throughout (P : σ → Prop) (s : σ) (events : List ε) : Prop := ∀ done, done <+: events → P (done.foldl step s)

/-- Every step of a run meets a condition on the state before it and its event. -/
def EachStep (C : σ → ε → Prop) (s : σ) (events : List ε) : Prop :=
  ∀ done e, done ++ [e] <+: events → C (done.foldl step s) e

variable {step} {P I : σ → Prop} {C : σ → ε → Prop} {s : σ} {events : List ε}

theorem eachStep_nil : EachStep step C s [] := by
  intro done e reached
  cases done <;> simp at reached

theorem eachStep_cons {e : ε} {rest : List ε} (first : C s e) (later : EachStep step C (step s e) rest) :
    EachStep step C s (e :: rest) := by
  intro done e' reached
  cases done with
  | nil =>
    obtain ⟨rfl, -⟩ := List.cons_prefix_cons.mp reached
    exact first
  | cons head done =>
    obtain ⟨rfl, onward⟩ := List.cons_prefix_cons.mp reached
    exact later done e' onward

/-- A run is longer by a step that meets the condition. -/
theorem eachStep_append_singleton {e : ε} :
    EachStep step C s (events ++ [e]) ↔ EachStep step C s events ∧ C (events.foldl step s) e := by
  constructor
  · intro each
    exact ⟨fun done e' reached => each done e' (reached.trans (List.prefix_append events [e])),
      each events e List.prefix_rfl⟩
  · rintro ⟨each, last⟩ done e' reached
    rcases List.prefix_concat_iff.mp reached with whole | before
    · obtain ⟨rfl, rfl⟩ := List.append_singleton_inj.mp whole
      exact last
    · exact each done e' before

/-- What every step that meets the condition keeps holds throughout. -/
theorem throughout_of_eachStep (start : P s) (keep : ∀ s e, P s → C s e → P (step s e))
    (each : EachStep step C s events) : Throughout step P s events := by
  intro done
  induction done using List.reverseRecOn with
  | nil => exact fun _ => start
  | append_singleton done e ih =>
    intro reached
    rw [List.foldl_append]
    exact keep _ e (ih ((List.prefix_append done [e]).trans reached)) (each done e reached)

/-- With an `I` that the steps that meet `C` keep, a condition that is `C` wherever `I` holds is met by each step
exactly when `C` is. -/
theorem eachStep_iff_eachStep {D : σ → ε → Prop} (invariant : I s) (kept : ∀ s e, I s → C s e → I (step s e))
    (exactly : ∀ s e, I s → (D s e ↔ C s e)) : EachStep step D s events ↔ EachStep step C s events := by
  induction events using List.reverseRecOn with
  | nil => exact iff_of_true eachStep_nil eachStep_nil
  | append_singleton events e ih =>
    rw [eachStep_append_singleton, eachStep_append_singleton, ih]
    refine and_congr_right fun each => exactly _ e ?_
    exact throughout_of_eachStep invariant kept each events List.prefix_rfl

/-- With an `I` that steps from `P` keep in the runs whose steps meet `D`: in these `P` holds throughout exactly when
every step meets `C`. -/
theorem throughout_iff_eachStep_while {D : σ → ε → Prop} (domain : EachStep step D s events) (invariant : I s)
    (kept : ∀ s e, I s → P s → D s e → I (step s e)) (start : P s)
    (exactly : ∀ s e, I s → D s e → P s → (P (step s e) ↔ C s e)) :
    Throughout step P s events ↔ EachStep step C s events := by
  constructor
  · intro holds done e reached
    have earlier (done : List ε) (e : ε) (reached : done ++ [e] <+: events) : P (done.foldl step s) :=
      holds done ((List.prefix_append done [e]).trans reached)
    have always : Throughout step I s events :=
      throughout_of_eachStep (C := fun s e => P s ∧ D s e) invariant (fun s e i met => kept s e i met.1 met.2)
        fun done e reached => ⟨earlier done e reached, domain done e reached⟩
    have after := holds (done ++ [e]) reached
    rw [List.foldl_append] at after
    exact (exactly _ e (always done ((List.prefix_append done [e]).trans reached)) (domain done e reached)
      (earlier done e reached)).mp after
  · intro each
    have within : EachStep step (fun s e => D s e ∧ C s e) s events :=
      fun done e reached => ⟨domain done e reached, each done e reached⟩
    have both : Throughout step (fun s => I s ∧ P s) s events :=
      throughout_of_eachStep ⟨invariant, start⟩
        (fun s e holds met => ⟨kept s e holds.1 holds.2 met.1, (exactly s e holds.1 met.1 holds.2).mpr met.2⟩) within
    exact fun done reached => (both done reached).2

/-- With an invariant `I` of the runs whose steps meet `D`: in these `P` holds throughout exactly when every step
meets `C`. -/
theorem throughout_iff_eachStep_of {D : σ → ε → Prop} (domain : EachStep step D s events) (invariant : I s)
    (kept : ∀ s e, I s → D s e → I (step s e)) (start : P s)
    (exactly : ∀ s e, I s → D s e → P s → (P (step s e) ↔ C s e)) :
    Throughout step P s events ↔ EachStep step C s events :=
  throughout_iff_eachStep_while domain invariant (fun s e holds _ => kept s e holds) start exactly

/-- With an invariant `I` of all runs. -/
theorem throughout_iff_eachStep (invariant : I s) (kept : ∀ s e, I s → I (step s e)) (start : P s)
    (exactly : ∀ s e, I s → P s → (P (step s e) ↔ C s e)) :
    Throughout step P s events ↔ EachStep step C s events :=
  throughout_iff_eachStep_of (D := fun _ _ => True) (fun _ _ _ => trivial) invariant (fun s e holds _ => kept s e holds)
    start fun s e holds _ => exactly s e holds

/-- Where a step can lose `P` but never regain it: `P` holds at the end of a run exactly when every step meets `C`. -/
theorem final_iff_eachStep_of {D : σ → ε → Prop} (domain : EachStep step D s events) (invariant : I s)
    (kept : ∀ s e, I s → D s e → I (step s e)) (start : P s)
    (exactly : ∀ s e, I s → D s e → (P (step s e) ↔ P s ∧ C s e)) :
    P (events.foldl step s) ↔ EachStep step C s events := by
  have always : Throughout step I s events := throughout_of_eachStep invariant kept domain
  induction events using List.reverseRecOn with
  | nil => exact iff_of_true start eachStep_nil
  | append_singleton events e ih =>
    obtain ⟨before, last⟩ := eachStep_append_singleton.mp domain
    have whole := always events (List.prefix_append events [e])
    have earlier : P (events.foldl step s) ↔ EachStep step C s events :=
      ih before fun done reached => always done (reached.trans (List.prefix_append events [e]))
    rw [List.foldl_append, eachStep_append_singleton]
    exact (exactly _ e whole last).trans (and_congr_left' earlier)

/-- A property of what has happened, which a step keeps exactly when it meets `C`, holds of every initial part of a run
exactly when every step meets `C`. -/
theorem forall_prefix_iff_eachStep {H : List ε → Prop} (invariant : I s)
    (kept : ∀ s e, I s → I (step s e)) (start : H [])
    (exactly : ∀ done e, I (done.foldl step s) → H done → (H (done ++ [e]) ↔ C (done.foldl step s) e)) :
    (∀ done, done <+: events → H done) ↔ EachStep step C s events := by
  have always : Throughout step I s events :=
    throughout_of_eachStep (C := fun _ _ => True) invariant (fun s e holds _ => kept s e holds) fun _ _ _ => trivial
  induction events using List.reverseRecOn with
  | nil =>
    refine iff_of_true (fun done reached => ?_) eachStep_nil
    rw [List.prefix_nil.mp reached]
    exact start
  | append_singleton events e ih =>
    have holds := always events (List.prefix_append events [e])
    have earlier : (∀ done, done <+: events → H done) ↔ EachStep step C s events :=
      ih fun done reached => always done (reached.trans (List.prefix_append events [e]))
    rw [eachStep_append_singleton, ← earlier]
    constructor
    · intro all
      have before := all events (List.prefix_append events [e])
      exact ⟨fun done reached => all done (reached.trans (List.prefix_append events [e])),
        (exactly events e holds before).mp (all _ List.prefix_rfl)⟩
    · rintro ⟨all, last⟩ done reached
      rcases List.prefix_concat_iff.mp reached with whole | before
      · obtain rfl := whole
        exact (exactly events e holds (all events List.prefix_rfl)).mpr last
      · exact all done before

end Machine
