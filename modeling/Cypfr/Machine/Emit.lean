import Mathlib.Algebra.Ring.Nat
import Mathlib.Data.List.Basic

/-! # Programs that change a state and emit messages

A program takes the state to a result, the next state and the messages it emitted on the way, in
order. Its three parts are computed by the rules below, one for each way to build a program.
-/

/-- A program over the states `σ` that emits messages `ω`. -/
def Emit (σ ω α : Type) : Type := σ → α × σ × List ω

namespace Emit

variable {σ ω α β : Type}

def result (p : Emit σ ω α) (s : σ) : α := (p s).1

/-- The state a program leaves. -/
def next (p : Emit σ ω α) (s : σ) : σ := (p s).2.1

/-- The messages of a program, in order. -/
def emitted (p : Emit σ ω α) (s : σ) : List ω := (p s).2.2

instance : Monad (Emit σ ω) where
  pure a := fun s => (a, s, [])
  bind p f := fun s =>
    let first := p s
    let second := f first.1 first.2.1
    (second.1, second.2.1, first.2.2 ++ second.2.2)

def get : Emit σ ω σ := fun s => (s, s, [])

def modify (f : σ → σ) : Emit σ ω Unit := fun s => ((), f s, [])

def emit (w : ω) : Emit σ ω Unit := fun s => ((), s, [w])

section Rules

variable (s : σ)

@[simp] theorem result_pure (a : α) : (pure a : Emit σ ω α).result s = a := rfl
@[simp] theorem next_pure (a : α) : (pure a : Emit σ ω α).next s = s := rfl
@[simp] theorem emitted_pure (a : α) : (pure a : Emit σ ω α).emitted s = [] := rfl
@[simp] theorem result_get : (get : Emit σ ω σ).result s = s := rfl
@[simp] theorem next_get : (get : Emit σ ω σ).next s = s := rfl
@[simp] theorem emitted_get : (get : Emit σ ω σ).emitted s = [] := rfl
@[simp] theorem next_modify (f : σ → σ) : (modify f : Emit σ ω Unit).next s = f s := rfl
@[simp] theorem emitted_modify (f : σ → σ) : (modify f : Emit σ ω Unit).emitted s = [] := rfl
@[simp] theorem next_emit (w : ω) : (emit w : Emit σ ω Unit).next s = s := rfl
@[simp] theorem emitted_emit (w : ω) : (emit w : Emit σ ω Unit).emitted s = [w] := rfl

variable (p : Emit σ ω α) (f : α → Emit σ ω β)

@[simp] theorem result_bind : (p >>= f).result s = (f (p.result s)).result (p.next s) := rfl
@[simp] theorem next_bind : (p >>= f).next s = (f (p.result s)).next (p.next s) := rfl
@[simp] theorem emitted_bind : (p >>= f).emitted s = p.emitted s ++ (f (p.result s)).emitted (p.next s) := rfl

/-- A program after another, from what each of them comes to. -/
theorem bind_eq {s s' s'' : σ} {a : α} {b : β} {v w : List ω} {p : Emit σ ω α} {f : α → Emit σ ω β}
    (first : p s = (a, s', v)) (second : f a s' = (b, s'', w)) : (p >>= f) s = (b, s'', v ++ w) := by
  change ((f (p s).1 (p s).2.1).1, (f (p s).1 (p s).2.1).2.1, (p s).2.2 ++ (f (p s).1 (p s).2.1).2.2) = _
  rw [first, second]

variable (g : σ → Emit σ ω β)

/-- A program that reads the state first, from what the rest comes to. -/
theorem get_bind_eq {s s' : σ} {b : β} {w : List ω} {g : σ → Emit σ ω β} (rest : g s s = (b, s', w)) :
    ((get : Emit σ ω σ) >>= g) s = (b, s', w) := rest

theorem get_bind_apply : ((get : Emit σ ω σ) >>= g) s = g s s := rfl
@[simp high] theorem result_get_bind : ((get : Emit σ ω σ) >>= g).result s = (g s).result s := rfl
@[simp high] theorem next_get_bind : ((get : Emit σ ω σ) >>= g).next s = (g s).next s := rfl
@[simp high] theorem emitted_get_bind : ((get : Emit σ ω σ) >>= g).emitted s = (g s).emitted s := rfl

variable (c : Prop) [Decidable c] (q : Emit σ ω α)

@[simp] theorem result_ite : (if c then p else q).result s = if c then p.result s else q.result s := by
  split <;> rfl

@[simp] theorem next_ite : (if c then p else q).next s = if c then p.next s else q.next s := by
  split <;> rfl

@[simp] theorem emitted_ite : (if c then p else q).emitted s = if c then p.emitted s else q.emitted s := by
  split <;> rfl

/-- A program that only emits a message, and only under a condition. -/
theorem emit_ite_apply (w : ω) : (if c then emit w else pure () : Emit σ ω Unit) s =
    ((), s, if c then [w] else []) := by
  split <;> rfl

end Rules

section Each

variable (f : α → Emit σ ω Unit)

/-- The state that a program for each element of a list leaves. -/
theorem next_forM (elements : List α) (s : σ) :
    (elements.forM f).next s = elements.foldl (fun s element => (f element).next s) s := by
  induction elements generalizing s with
  | nil => rfl
  | cons first rest ih => exact ih ((f first).next s)

/-- What a program for each element of a list emits, when the state does not matter for it. -/
theorem emitted_forM (out : α → List ω) (emits : ∀ element s, (f element).emitted s = out element) (elements : List α)
    (s : σ) : (elements.forM f).emitted s = elements.flatMap out := by
  induction elements generalizing s with
  | nil => rfl
  | cons first rest ih =>
    have tail := ih ((f first).next s)
    rw [List.flatMap_cons, ← emits first s, ← tail]
    rfl

end Each

section Only

variable {P : ω → Prop} {p q : Emit σ ω α} {f : α → Emit σ ω β}

/-- A program that emits no messages but those with a property, whatever the state. -/
def Only (P : ω → Prop) (p : Emit σ ω α) : Prop := ∀ s, ∀ w ∈ p.emitted s, P w

theorem only_pure (a : α) : (pure a : Emit σ ω α).Only P := fun _ _ => List.not_mem_nil.elim

theorem only_modify (f : σ → σ) : (modify f : Emit σ ω Unit).Only P := fun _ _ => List.not_mem_nil.elim

theorem only_emit {w : ω} (holds : P w) : (emit w : Emit σ ω Unit).Only P :=
  fun _ _ emitted => List.mem_singleton.mp emitted ▸ holds

theorem Only.bind (first : p.Only P) (second : ∀ a, (f a).Only P) : (p >>= f).Only P := by
  intro s w emitted
  rw [emitted_bind] at emitted
  exact (List.mem_append.mp emitted).elim (first s w) (second _ _ w)

theorem only_get_bind {g : σ → Emit σ ω β} (rest : ∀ s, (g s).Only P) : ((get : Emit σ ω σ) >>= g).Only P :=
  fun s => rest s s

theorem only_ite {c : Prop} [Decidable c] (holds : p.Only P) (fails : q.Only P) : (if c then p else q).Only P := by
  split
  · exact holds
  · exact fails

end Only

section Total

variable {measure : ω → ℕ} {s : σ}

/-- What the messages of a program come to. -/
def total (measure : ω → ℕ) (p : Emit σ ω α) (s : σ) : ℕ := ((p.emitted s).map measure).sum

variable (p q : Emit σ ω α) (f : α → Emit σ ω β)

@[simp] theorem total_pure (a : α) : (pure a : Emit σ ω α).total measure s = 0 := rfl

@[simp] theorem total_get : (get : Emit σ ω σ).total measure s = 0 := rfl

@[simp] theorem total_modify (f : σ → σ) : (modify f : Emit σ ω Unit).total measure s = 0 := rfl

@[simp] theorem total_emit (w : ω) : (emit w : Emit σ ω Unit).total measure s = measure w := Nat.add_zero _

@[simp] theorem total_bind : (p >>= f).total measure s = p.total measure s + (f (p.result s)).total measure
    (p.next s) := by
  rw [total, emitted_bind, List.map_append, List.sum_append]
  rfl

@[simp high] theorem total_get_bind (g : σ → Emit σ ω β) :
    ((get : Emit σ ω σ) >>= g).total measure s = (g s).total measure s := rfl

@[simp] theorem total_ite (c : Prop) [Decidable c] :
    (if c then p else q).total measure s = if c then p.total measure s else q.total measure s := by
  split <;> rfl

/-- A program whose messages all come to nothing. -/
theorem total_eq_zero {p : Emit σ ω α} (none : ∀ w ∈ p.emitted s, measure w = 0) : p.total measure s = 0 := by
  apply List.sum_eq_zero_iff_forall_eq_nat.mpr
  intro n member
  obtain ⟨w, emitted, rfl⟩ := List.mem_map.mp member
  exact none w emitted

end Total

section Keeps

variable {γ : Type} {view : σ → γ} {p q : Emit σ ω α} {f : α → Emit σ ω β}

/-- A program that leaves a part of the state as it is. -/
def Keeps (view : σ → γ) (p : Emit σ ω α) : Prop := ∀ s, view (p.next s) = view s

theorem keeps_pure (a : α) : (pure a : Emit σ ω α).Keeps view := fun _ => rfl

theorem keeps_emit (w : ω) : (emit w : Emit σ ω Unit).Keeps view := fun _ => rfl

theorem keeps_modify {f : σ → σ} (same : ∀ s, view (f s) = view s) : (modify f : Emit σ ω Unit).Keeps view := same

theorem Keeps.bind (first : p.Keeps view) (second : ∀ a, (f a).Keeps view) : (p >>= f).Keeps view :=
  fun s => (second _ _).trans (first s)

theorem keeps_get_bind {g : σ → Emit σ ω β} (rest : ∀ s, (g s).Keeps view) : ((get : Emit σ ω σ) >>= g).Keeps view :=
  fun s => rest s s

theorem keeps_ite {c : Prop} [Decidable c] (holds : p.Keeps view) (fails : q.Keeps view) :
    (if c then p else q).Keeps view := by
  split
  · exact holds
  · exact fails

theorem keeps_forM {g : α → Emit σ ω Unit} {elements : List α} (each : ∀ element, (g element).Keeps view) :
    (elements.forM g).Keeps view := by
  induction elements with
  | nil => exact keeps_pure ()
  | cons first rest ih => exact (each first).bind fun _ => ih

end Keeps

end Emit
