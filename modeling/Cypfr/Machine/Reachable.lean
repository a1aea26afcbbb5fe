import Mathlib.Data.List.Basic

/-! # Reachable states of a guarded deterministic machine

A machine takes labelled steps; a guard says which label may be taken in which state. Every safety
result is one invariant: it holds at the start and one guarded step keeps it. A concrete tape of
labels is a way to exhibit a reachable state.
-/

namespace Machine

variable {σ α : Type*} {step : σ → α → σ} {allowed : σ → α → Prop} {start : σ}

/-- The states reached from `start` by any number of allowed steps. -/
inductive Reachable (step : σ → α → σ) (allowed : σ → α → Prop) (start : σ) : σ → Prop
  | start : Reachable step allowed start start
  | step {s : σ} {a : α} : Reachable step allowed start s → allowed s a →
      Reachable step allowed start (step s a)

/-- What holds at the start and survives every allowed step holds in every reachable state. -/
theorem Reachable.invariant (I : σ → Prop) (initial : I start)
    (preserved : ∀ s a, I s → allowed s a → I (step s a)) {t : σ}
    (reach : Reachable step allowed start t) : I t := by
  induction reach with
  | start => exact initial
  | step _ guard ih => exact preserved _ _ ih guard

/-- Every allowed tape of labels leads to a reachable state. -/
theorem Reachable.run {s : σ} (reach : Reachable step allowed start s) (tape : List α)
    (guarded : ∀ n a, tape[n]? = some a → allowed ((tape.take n).foldl step s) a) :
    Reachable step allowed start (tape.foldl step s) := by
  induction tape generalizing s with
  | nil => exact reach
  | cons a rest ih =>
    apply ih (.step reach (guarded 0 a rfl))
    intro n b present
    exact guarded (n + 1) b present

end Machine
