import Mathlib.Logic.Function.Basic
import Mathlib.Data.List.Basic
import Mathlib.Data.List.Nodup

/-! # Masks whose flags are numbered twice

A flag has a bit in each of two numberings, and a mask of one is translated into the other flag by flag. Where
every flag has a bit of its own in both, what is translated there and back is the flags of the mask.
-/

namespace BitMask

variable {β γ : Type*} {v w : ℕ}

/-- The bit of `target` is added to `out` for each of the flags whose bit of `source` the mask has. -/
def translate (flags : List β) (source : β → BitVec v) (target : β → BitVec w) (mask : BitVec v) (out : BitVec w) :
    BitVec w :=
  flags.foldl (fun out flag => if mask &&& source flag ≠ 0 then out ||| target flag else out) out

/-- A mask has only bits of flags. -/
def Uses (value : β → BitVec w) (mask : BitVec w) : Prop :=
  ∀ k, mask.getLsbD k = true → ∃ flag, (value flag).getLsbD k = true

namespace Uses

variable {value : β → BitVec w} {a b : BitVec w}

theorem zero : Uses value 0 := by
  intro k has
  simp at has

theorem flag (value : β → BitVec w) (flag : β) : Uses value (value flag) := fun _ has => ⟨flag, has⟩

theorem or (first : Uses value a) (second : Uses value b) : Uses value (a ||| b) := by
  intro k has
  rw [BitVec.getLsbD_or, Bool.or_eq_true] at has
  exact has.elim (first k) (second k)

end Uses

/-- Each flag has a bit of its own. -/
structure Numbering (value : β → BitVec w) : Prop where
  single (flag : β) : ∃ k : Fin w, value flag = BitVec.twoPow w k
  distinct : Function.Injective value

theorem ne_zero_iff {mask : BitVec w} : mask ≠ 0 ↔ ∃ k, mask.getLsbD k = true := by
  constructor
  · intro nonzero
    by_contra none
    push Not at none
    exact nonzero (BitVec.eq_of_getLsbD_eq fun k _ => by simpa using none k)
  · rintro ⟨k, has⟩ rfl
    simp at has

section Or

variable {out other : BitVec w}

theorem or_and_ne_zero_iff {mask : BitVec w} :
    (out ||| mask) &&& other ≠ 0 ↔ out &&& other ≠ 0 ∨ mask &&& other ≠ 0 := by
  simp only [ne_zero_iff, BitVec.getLsbD_and, BitVec.getLsbD_or, Bool.and_eq_true, Bool.or_eq_true, or_and_right,
    exists_or]

/-- Masks that are added up share a bit with another if one of them does. -/
theorem foldl_or_and_ne_zero_iff {masks : List β} {value : β → BitVec w} :
    masks.foldl (fun out flag => out ||| value flag) out &&& other ≠ 0 ↔
      out &&& other ≠ 0 ∨ ∃ flag ∈ masks, value flag &&& other ≠ 0 := by
  induction masks generalizing out with
  | nil => simp
  | cons flag masks ih => rw [List.foldl_cons, ih, or_and_ne_zero_iff, List.exists_mem_cons_iff, or_assoc]

end Or

section Translate

variable {flags : List β} {source : β → BitVec v} {target : β → BitVec w} {mask : BitVec v} {out : BitVec w}

theorem getLsbD_translate {k : ℕ} : (translate flags source target mask out).getLsbD k = true ↔
    out.getLsbD k = true ∨ ∃ flag ∈ flags, mask &&& source flag ≠ 0 ∧ (target flag).getLsbD k = true := by
  induction flags generalizing out with
  | nil => simp [translate]
  | cons flag flags ih =>
    rw [translate, List.foldl_cons, ← translate, ih, List.exists_mem_cons_iff]
    by_cases has : mask &&& source flag ≠ 0
    · rw [if_pos has, BitVec.getLsbD_or, Bool.or_eq_true, or_assoc, and_iff_right has]
    · rw [if_neg has]
      refine or_congr_right ⟨.inr, ?_⟩
      rintro (both | rest)
      · exact absurd both.1 has
      · exact rest

theorem translate_and_ne_zero_iff {other : BitVec w} : translate flags source target mask out &&& other ≠ 0 ↔
    out &&& other ≠ 0 ∨ ∃ flag ∈ flags, mask &&& source flag ≠ 0 ∧ target flag &&& other ≠ 0 := by
  simp only [ne_zero_iff, BitVec.getLsbD_and, Bool.and_eq_true, getLsbD_translate]
  constructor
  · rintro ⟨k, has | ⟨flag, member, asked, has⟩, also⟩
    · exact .inl ⟨k, has, also⟩
    · exact .inr ⟨flag, member, asked, k, has, also⟩
  · rintro (⟨k, has, also⟩ | ⟨flag, member, asked, k, has, also⟩)
    · exact ⟨k, .inl has, also⟩
    · exact ⟨k, .inr ⟨flag, member, asked, has⟩, also⟩

end Translate

namespace Numbering

variable {value : β → BitVec w} {mask : BitVec w} {a b flag : β}

theorem of_nodup {flags : List β} (complete : ∀ flag, flag ∈ flags) (nodup : (flags.map value).Nodup)
    (single : ∀ flag, ∃ k : Fin w, value flag = BitVec.twoPow w k) : Numbering value where
  single := single
  distinct a b same := List.inj_on_of_nodup_map nodup (complete a) (complete b) same

/-- A mask has a flag if it has its bit. -/
theorem and_ne_zero_iff (numbering : Numbering value) {k : ℕ} (has : (value flag).getLsbD k = true) :
    mask &&& value flag ≠ 0 ↔ mask.getLsbD k = true := by
  obtain ⟨i, bit⟩ := numbering.single flag
  rw [bit, BitVec.getLsbD_twoPow, Bool.and_eq_true, decide_eq_true_eq, decide_eq_true_eq] at has
  rw [bit, BitVec.and_twoPow, has.2]
  split
  · rename_i is
    refine iff_of_true (ne_zero_iff.mpr ⟨k, ?_⟩) is
    rw [BitVec.getLsbD_twoPow, decide_eq_true (has.2 ▸ has.1), decide_eq_true rfl]
    rfl
  · rename_i isNot
    exact iff_of_false (not_not_intro rfl) isNot

theorem self_ne_zero (numbering : Numbering value) (flag : β) : ∃ k, (value flag).getLsbD k = true := by
  obtain ⟨i, bit⟩ := numbering.single flag
  refine ⟨i, ?_⟩
  rw [bit, BitVec.getLsbD_twoPow, decide_eq_true i.isLt, decide_eq_true rfl]
  rfl

/-- No two flags share a bit. -/
theorem and_value_ne_zero_iff (numbering : Numbering value) : value a &&& value b ≠ 0 ↔ a = b := by
  obtain ⟨k, has⟩ := numbering.self_ne_zero b
  rw [numbering.and_ne_zero_iff has]
  constructor
  · intro also
    obtain ⟨i, first⟩ := numbering.single a
    obtain ⟨j, second⟩ := numbering.single b
    rw [first, BitVec.getLsbD_twoPow, Bool.and_eq_true, decide_eq_true_eq, decide_eq_true_eq] at also
    rw [second, BitVec.getLsbD_twoPow, Bool.and_eq_true, decide_eq_true_eq, decide_eq_true_eq] at has
    refine numbering.distinct ?_
    rw [first, second, also.2, has.2]
  · rintro rfl
    exact has

end Numbering

section RoundTrip

variable {flags there back : List β} {source : β → BitVec v} {target : β → BitVec w} {mask : BitVec v}

/-- A translated mask has the flags of the mask, whatever other bits it is added to. -/
theorem has_translate_iff_of_apart (numbering : Numbering target) (complete : ∀ flag, flag ∈ there) {flag : β}
    {out : BitVec w} (apart : out &&& target flag = 0) :
    translate there source target mask out &&& target flag ≠ 0 ↔ mask &&& source flag ≠ 0 := by
  rw [translate_and_ne_zero_iff]
  constructor
  · rintro (has | ⟨other, -, has, shared⟩)
    · exact absurd apart has
    · exact numbering.and_value_ne_zero_iff.mp shared ▸ has
  · intro has
    exact .inr ⟨flag, complete flag, has, numbering.and_value_ne_zero_iff.mpr rfl⟩

theorem has_translate_iff (numbering : Numbering target) (complete : ∀ flag, flag ∈ there) (flag : β) :
    translate there source target mask 0 &&& target flag ≠ 0 ↔ mask &&& source flag ≠ 0 :=
  has_translate_iff_of_apart numbering complete BitVec.zero_and

/-- Translating back adds the flags of the mask. -/
theorem getLsbD_translate_back (numbering : Numbering source) (complete : ∀ flag, flag ∈ back) {middle : BitVec w}
    (same : ∀ flag, middle &&& target flag ≠ 0 ↔ mask &&& source flag ≠ 0) {out : BitVec v} {k : ℕ} :
    (translate back target source middle out).getLsbD k = true ↔
      out.getLsbD k = true ∨ mask.getLsbD k = true ∧ ∃ flag, (source flag).getLsbD k = true := by
  rw [getLsbD_translate]
  refine or_congr_right ⟨?_, ?_⟩
  · rintro ⟨flag, -, has, bit⟩
    exact ⟨(numbering.and_ne_zero_iff bit).mp ((same flag).mp has), flag, bit⟩
  · rintro ⟨has, flag, bit⟩
    exact ⟨flag, complete flag, (same flag).mpr ((numbering.and_ne_zero_iff bit).mpr has), bit⟩

/-- A mask that has only bits of flags is got back from another that has the same flags. -/
theorem translate_back (numbering : Numbering source) (complete : ∀ flag, flag ∈ back) {middle : BitVec w}
    (same : ∀ flag, middle &&& target flag ≠ 0 ↔ mask &&& source flag ≠ 0) (uses : Uses source mask) :
    translate back target source middle 0 = mask := by
  refine BitVec.eq_of_getLsbD_eq fun k _ => Bool.eq_iff_iff.mpr ?_
  rw [getLsbD_translate_back numbering complete same]
  constructor
  · rintro (none | has)
    · simp at none
    · exact has.1
  · intro has
    exact .inr ⟨has, uses k has⟩

end RoundTrip

end BitMask
