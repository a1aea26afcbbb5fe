import Mathlib.Order.Nat

/-! # Scanning a list from its end

A loop that goes down through the entries of a list and stops once enough of them are separators. On
fields joined by separators it stops at the separator in front of them, whatever stands before that.
-/

variable {α : Type*} (hit : α → Bool) (limit : ℕ)

/-- Goes down from below `n` until `limit` entries have been hits: the hits so far and the place reached. -/
def scanBack (s : List α) : ℕ → ℕ → ℕ × ℕ
  | 0, count => (count, 0)
  | n + 1, count =>
    if count < limit then scanBack s n (if s[n]?.any hit then count + 1 else count) else (count, n + 1)

variable {hit limit}

theorem scanBack_of_limit (s : List α) (n : ℕ) {count : ℕ} (reached : limit ≤ count) :
    scanBack hit limit s n count = (count, n) := by
  cases n with
  | zero => rfl
  | succ n => rw [scanBack, if_neg (by omega)]

theorem scanBack_le (s : List α) (n count : ℕ) : (scanBack hit limit s n count).2 ≤ n := by
  induction n generalizing count with
  | zero => exact le_rfl
  | succ n ih =>
    rw [scanBack]
    by_cases more : count < limit
    · rw [if_pos more]
      exact (ih _).trans n.le_succ
    · rw [if_neg more]

/-- What lies behind the start is not looked at. -/
theorem scanBack_prefix (front rest : List α) {n : ℕ} (within : n ≤ front.length) (count : ℕ) :
    scanBack hit limit (front ++ rest) n count = scanBack hit limit front n count := by
  induction n generalizing count with
  | zero => rfl
  | succ n ih => rw [scanBack, scanBack, List.getElem?_append_left within, ih (by omega)]

theorem scanBack_miss (front rest : List α) (miss : ∀ b ∈ rest, hit b = false) {n : ℕ} (beyond : front.length ≤ n)
    {count : ℕ} (more : count < limit) :
    scanBack hit limit (front ++ rest) n count = scanBack hit limit front front.length count := by
  induction n, beyond using Nat.le_induction with
  | base => exact scanBack_prefix front rest le_rfl count
  | succ n beyond ih =>
    have none : ((front ++ rest)[n]?).any hit = false := by
      rw [List.getElem?_append_right beyond]
      cases entry : rest[n - front.length]? with
      | none => rfl
      | some b => exact miss b (List.mem_of_getElem? entry)
    rw [scanBack, if_pos more, none]
    exact ih

/-- The last field is passed over, its separator counted. -/
theorem scanBack_separator (front rest : List α) {sep : α} (hitSep : hit sep = true)
    (miss : ∀ b ∈ rest, hit b = false) {n : ℕ} (beyond : front.length < n) {count : ℕ} (more : count < limit) :
    scanBack hit limit (front ++ sep :: rest) n count = scanBack hit limit front front.length (count + 1) := by
  have joined : front ++ sep :: rest = (front ++ [sep]) ++ rest := by simp
  rw [joined, scanBack_miss _ _ miss (by rwa [List.length_append]) more, List.length_append, List.length_singleton,
    scanBack, if_pos more, List.getElem?_concat_length, Option.any_some, hitSep, if_pos rfl,
    scanBack_prefix front [sep] le_rfl]
