import Cypfr.Machine.Run
import Mathlib.Data.List.Count

/-! # What a run gathers

Each step of a run gives a list, and the run gives all of them, in order. When every step accounts for what it takes in,
holds, gives out and loses, so does the run.
-/

namespace Machine

variable {σ ε ω ω' : Type*} (step : σ → ε → σ)

/-- What the steps of a run give. -/
def gathered (out : σ → ε → List ω) : σ → List ε → List ω
  | _, [] => []
  | s, e :: rest => out s e ++ gathered out (step s e) rest

variable {step} {out : σ → ε → List ω} {s : σ} {events : List ε}

theorem gathered_append {done rest : List ε} :
    gathered step out s (done ++ rest) = gathered step out s done ++ gathered step out (done.foldl step s) rest := by
  induction done generalizing s with
  | nil => rfl
  | cons first done ih =>
    rw [List.cons_append, gathered, gathered, ih, List.append_assoc]
    rfl

theorem gathered_append_singleton {e : ε} :
    gathered step out s (events ++ [e]) = gathered step out s events ++ out (events.foldl step s) e := by
  rw [gathered_append, gathered, gathered, List.append_nil]

/-- A run gives nothing when none of its steps does. -/
theorem gathered_eq_nil_iff : gathered step out s events = [] ↔ EachStep step (fun s e => out s e = []) s events := by
  induction events using List.reverseRecOn with
  | nil => exact iff_of_true rfl eachStep_nil
  | append_singleton events e ih =>
    rw [gathered_append_singleton, List.append_eq_nil_iff, eachStep_append_singleton, ih]

theorem filterMap_gathered {f : ω → Option ω'} :
    (gathered step out s events).filterMap f = gathered step (fun s e => (out s e).filterMap f) s events := by
  induction events generalizing s with
  | nil => rfl
  | cons e rest ih => rw [gathered, gathered, List.filterMap_append, ih]

/-- What a run takes in and what was held before it are what is held after it and what it gave out and lost. -/
theorem gathered_perm (held : σ → List ω) (taken given lost : σ → ε → List ω)
    (each : ∀ s e, (taken s e ++ held s).Perm (held (step s e) ++ (given s e ++ lost s e))) (s : σ) (events : List ε) :
    (gathered step taken s events ++ held s).Perm
      (held (events.foldl step s) ++ (gathered step given s events ++ gathered step lost s events)) := by
  classical
  induction events generalizing s with
  | nil => simp [gathered]
  | cons e rest ih =>
    rw [List.perm_iff_count]
    intro x
    have first := (each s e).count_eq x
    have later := (ih (step s e)).count_eq x
    simp only [gathered, List.foldl_cons, List.count_append] at first later ⊢
    omega

end Machine
