import Mathlib.Data.List.Basic

/-! # Programs that write to a device and may be cut off between two writes

A program yields, from the state it starts in, its result and the writes it issues in order; later
parts of the program read the state the earlier writes leave. Power loss keeps a prefix of those
writes, so the states a cut can leave are the prefixes' states. `Keeps` says what holds at every write
boundary and what at the end, and composes along the program.
-/

namespace Journal

variable {σ ω α β : Type}

/-- A program over a device whose writes act by `apply`. -/
def Prog (_apply : σ → ω → σ) (α : Type) : Type := σ → α × List ω

namespace Prog

variable {apply : σ → ω → σ}

def result (p : Prog apply α) (s : σ) : α := (p s).1

def writes (p : Prog apply α) (s : σ) : List ω := (p s).2

/-- The state after the first `k` writes; all of them when there are fewer. -/
def cut (p : Prog apply α) (s : σ) (k : ℕ) : σ := ((p.writes s).take k).foldl apply s

/-- The state the uninterrupted program leaves. -/
def final (p : Prog apply α) (s : σ) : σ := (p.writes s).foldl apply s

instance : Monad (Prog apply) where
  pure a := fun _ => (a, [])
  bind p f := fun s =>
    let first := p s
    let second := f first.1 (first.2.foldl apply s)
    (second.1, first.2 ++ second.2)

/-- Read the device. -/
def get : Prog apply σ := fun s => (s, [])

/-- Issue one write. -/
def emit (w : ω) : Prog apply Unit := fun _ => ((), [w])

@[simp] theorem result_pure (a : α) (s : σ) : (pure a : Prog apply α).result s = a := rfl
@[simp] theorem writes_pure (a : α) (s : σ) : (pure a : Prog apply α).writes s = [] := rfl
@[simp] theorem final_pure (a : α) (s : σ) : (pure a : Prog apply α).final s = s := rfl
@[simp] theorem result_get (s : σ) : (get : Prog apply σ).result s = s := rfl
@[simp] theorem final_get (s : σ) : (get : Prog apply σ).final s = s := rfl

@[simp] theorem result_bind (p : Prog apply α) (f : α → Prog apply β) (s : σ) :
    (p >>= f).result s = (f (p.result s)).result (p.final s) := rfl

@[simp] theorem writes_bind (p : Prog apply α) (f : α → Prog apply β) (s : σ) :
    (p >>= f).writes s = p.writes s ++ (f (p.result s)).writes (p.final s) := rfl

@[simp] theorem final_bind (p : Prog apply α) (f : α → Prog apply β) (s : σ) :
    (p >>= f).final s = (f (p.result s)).final (p.final s) := by
  simp only [final, writes_bind, List.foldl_append]

theorem pure_apply (a : α) (s : σ) : (pure a : Prog apply α) s = (a, []) := rfl

theorem get_bind_apply (f : σ → Prog apply β) (s : σ) : (get >>= f : Prog apply β) s = f s s := rfl

theorem emit_bind_apply (w : ω) (f : Unit → Prog apply β) (s : σ) :
    (emit w >>= f : Prog apply β) s = ((f () (apply s w)).1, w :: (f () (apply s w)).2) := rfl

theorem bind_apply (p : Prog apply α) (f : α → Prog apply β) (s : σ) :
    (p >>= f) s = ((f (p s).1 ((p s).2.foldl apply s)).1, (p s).2 ++ (f (p s).1 ((p s).2.foldl apply s)).2) := rfl

theorem cut_of_length_le (p : Prog apply α) (s : σ) {k : ℕ} (covered : (p.writes s).length ≤ k) :
    p.cut s k = p.final s := by
  rw [cut, List.take_of_length_le covered, final]

/-- A cut inside a composition falls in its first part or in its second. -/
theorem cut_bind (p : Prog apply α) (f : α → Prog apply β) (s : σ) (k : ℕ) :
    (p >>= f).cut s k = p.cut s k ∨
      (p >>= f).cut s k = (f (p.result s)).cut (p.final s) (k - (p.writes s).length) := by
  rcases Nat.le_total k (p.writes s).length with early | late
  · left
    rw [cut, writes_bind, List.take_append_of_le_length early, cut]
  · right
    rw [cut, writes_bind, List.take_append, List.take_of_length_le late, List.foldl_append]
    rfl

theorem cut_bind_pure (p : Prog apply α) (f : α → β) (s : σ) (k : ℕ) :
    (p >>= fun a => pure (f a)).cut s k = p.cut s k := by
  rw [cut, writes_bind, writes_pure, List.append_nil, cut]

theorem cut_get_bind (f : σ → Prog apply β) (s : σ) (k : ℕ) : (get >>= f).cut s k = (f s).cut s k := rfl

/-- A crash triple at a state: `I` holds at every write boundary of the program, and `J` at its end. -/
structure Keeps (I J : σ → Prop) (p : Prog apply α) (s : σ) : Prop where
  boundaries : ∀ k, I (p.cut s k)
  ends : J (p.final s)

section Keeps

variable {I J : σ → Prop} {s : σ}

theorem keeps_pure (weaken : ∀ s, J s → I s) (start : J s) (a : α) : (pure a : Prog apply α).Keeps I J s :=
  ⟨fun k => by simpa [cut] using weaken s start, start⟩

theorem keeps_get {f : σ → Prog apply β} (rest : (f s).Keeps I J s) : (get >>= f).Keeps I J s :=
  ⟨rest.boundaries, rest.ends⟩

theorem keeps_bind {p : Prog apply α} {f : α → Prog apply β} (first : p.Keeps I J s)
    (second : J (p.final s) → (f (p.result s)).Keeps I J (p.final s)) : (p >>= f).Keeps I J s := by
  have second := second first.ends
  refine ⟨fun k => ?_, ?_⟩
  · rcases cut_bind p f s k with early | late
    · rw [early]; exact first.boundaries k
    · rw [late]; exact second.boundaries _
  · rw [final_bind]; exact second.ends

end Keeps

end Prog

end Journal
