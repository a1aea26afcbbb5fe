import Mathlib.Data.List.Basic

/-! # Loops that may fail

A loop over a list whose rounds may fail is a fold in `Option`. What holds before it and is kept by
every round that succeeds, together with what the round has dealt with, holds when the loop succeeds;
where every round succeeds and keeps it, so does the loop.
-/

namespace OptionFold

variable {α β : Type*}

theorem induction {f : β → α → Option β} (motive : List α → β → Prop) {init final : β} {l : List α}
    (run : l.foldlM f init = some final) (start : motive [] init)
    (round : ∀ done x acc next, done ++ [x] <+: l → motive done acc → f acc x = some next → motive (done ++ [x]) next) :
    motive l final := by
  suffices general : ∀ (rest done : List α) (acc : β), done ++ rest = l → motive done acc →
      rest.foldlM f acc = some final → motive l final from general l [] init rfl start run
  intro rest
  induction rest with
  | nil =>
    rintro done acc rfl holds ended
    simp only [List.foldlM_nil, Option.pure_def, Option.some.injEq] at ended
    rwa [List.append_nil, ← ended]
  | cons x rest ih =>
    intro done acc whole holds continued
    simp only [List.foldlM_cons, Option.bind_eq_bind, Option.bind_eq_some_iff] at continued
    obtain ⟨next, stepped, continued⟩ := continued
    have through : done ++ [x] ++ rest = l := by rw [← whole, List.append_assoc, List.singleton_append]
    exact ih (done ++ [x]) next through (round done x acc next ⟨rest, through⟩ holds stepped) continued

theorem progress {f : β → α → Option β} (motive : List α → β → Prop) {init : β} {l : List α} (start : motive [] init)
    (round : ∀ done x acc, done ++ [x] <+: l → motive done acc → ∃ next, f acc x = some next ∧
    motive (done ++ [x]) next) :
    ∃ final, l.foldlM f init = some final := by
  suffices general : ∀ (rest done : List α) (acc : β), done ++ rest = l → motive done acc →
      ∃ final, rest.foldlM f acc = some final from general l [] init rfl start
  intro rest
  induction rest with
  | nil => exact fun done acc _ _ => ⟨acc, rfl⟩
  | cons x rest ih =>
    intro done acc whole holds
    have through : done ++ [x] ++ rest = l := by rw [← whole, List.append_assoc, List.singleton_append]
    obtain ⟨next, stepped, kept⟩ := round done x acc ⟨rest, through⟩ holds
    obtain ⟨final, continued⟩ := ih (done ++ [x]) next through kept
    exact ⟨final, by rw [List.foldlM_cons, stepped]; exact continued⟩

end OptionFold
