import Cypfr.Model.SystemStatusNmea
import Cypfr.Proofs.CString
import Cypfr.Proofs.SystemStatus
import Mathlib

/-! # Sentences with too few fields

No parser rejects a sentence that has too few fields: its record is stored as an item as if it had been sent, so that
the reports stay as they are only if their latest items are the same already.
-/

namespace Cypfr.SystemStatus

/-- A report stays as it is, apart from when its latest item was last reported. -/
def Unchanged {T : Type} (before after : List (Reported T)) : Prop :=
  after.dropLast = before.dropLast ∧
    after.getLast?.map (fun entry => (entry.item, entry.mUtcTime)) =
      before.getLast?.map fun entry => (entry.item, entry.mUtcTime)

/-- The latest item is found equal to this one, or else there are as many entries as are kept and all of them are this
one. -/
def Keeps {T : Type} (equals : T → T → Bool) (report : List (Reported T)) (item : T) (utc : ℕ) : Prop :=
  ∃ back, report.getLast? = some back ∧ (equals back.item item = true ∨
    maxItem ≤ report.length ∧ (∀ entry ∈ report, entry = back) ∧ back.item = item ∧ back.mUtcTime = utc)

section Report

variable {T : Type} {equals : T → T → Bool} {report : List (Reported T)} {item : T} {utc : ℕ}

theorem Unchanged.refl : Unchanged report report := ⟨rfl, rfl⟩

theorem tail_eq_dropLast_iff {back : Reported T} (last : report.getLast? = some back) :
    report.tail = report.dropLast ↔ ∀ entry ∈ report, entry = back := by
  induction report with
  | nil => simp
  | cons first rest ih =>
    cases rest with
    | nil =>
      obtain rfl : first = back := by simpa using last
      simp
    | cons second later =>
      rw [List.getLast?_cons_cons] at last
      rw [List.tail_cons, List.dropLast_cons_cons, List.cons_eq_cons, List.forall_mem_cons, ← ih last, List.tail_cons]
      constructor
      · rintro ⟨rfl, same⟩
        exact ⟨(ih last).mp same second List.mem_cons_self, same⟩
      · rintro ⟨rfl, same⟩
        exact ⟨(ih last).mp same second List.mem_cons_self, same⟩

/-- An item that is stored leaves the report as it is only if it is full of it. -/
theorem unchanged_store_iff {back : Reported T} (last : report.getLast? = some back) :
    Unchanged report (setDefaultIteminReport report ⟨item, utc, utc⟩) ↔
      maxItem ≤ report.length ∧ (∀ entry ∈ report, entry = back) ∧ back.item = item ∧ back.mUtcTime = utc := by
  have length : (report ++ [(⟨item, utc, utc⟩ : Reported T)]).length = report.length + 1 := List.length_append
  have some' : report ≠ [] := by
    rintro rfl
    cases last
  rw [Unchanged, getLast?_setDefaultIteminReport, last, Option.map_some, Option.map_some, Option.some_inj, Prod.mk_inj,
    setDefaultIteminReport, length]
  split_ifs with full
  · have shifted : (report ++ [(⟨item, utc, utc⟩ : Reported T)]).tail.dropLast = report.tail := by
      rw [List.tail_append_of_ne_nil some', List.dropLast_concat]
    rw [shifted, tail_eq_dropLast_iff last]
    constructor
    · rintro ⟨same, rfl, rfl⟩
      exact ⟨Nat.le_of_lt_succ full, same, rfl, rfl⟩
    · rintro ⟨-, same, rfl, rfl⟩
      exact ⟨same, rfl, rfl⟩
  · refine iff_of_false (fun same => ?_) fun held => full (Nat.lt_succ_of_le held.1)
    have shorter := congrArg List.length same.1
    rw [List.dropLast_concat, List.length_dropLast] at shorter
    have positive := List.length_pos_of_ne_nil some'
    omega

/-- An item leaves its report as it is exactly when the latest is found equal, but for a report that is full of it. -/
theorem unchanged_setItem_iff : Unchanged report (setItem equals report item utc) ↔ Keeps equals report item utc := by
  rw [setItem, setIteminReport, if_neg Bool.false_ne_true]
  cases last : report.getLast? with
  | none =>
    obtain rfl := List.getLast?_eq_none_iff.mp last
    refine iff_of_false (fun same => ?_) fun kept => ?_
    · exact absurd same.2 (by simp [setDefaultIteminReport, maxItem])
    · obtain ⟨back, there, -⟩ := kept
      cases there.symm.trans last
  | some back =>
    have keeps : Keeps equals report item utc ↔ equals back.item item = true ∨
        maxItem ≤ report.length ∧ (∀ entry ∈ report, entry = back) ∧ back.item = item ∧ back.mUtcTime = utc := by
      constructor
      · rintro ⟨other, there, cases⟩
        obtain rfl := Option.some_inj.mp (last.symm.trans there)
        exact cases
      · exact fun cases => ⟨back, last, cases⟩
    rw [keeps]
    cases same : equals back.item item with
    | true =>
      refine iff_of_true ?_ (.inl rfl)
      simp only [same, if_true]
      refine ⟨List.dropLast_concat, ?_⟩
      rw [List.getLast?_concat, last]
      rfl
    | false =>
      simp only [same, Bool.false_eq_true, if_false, false_or]
      exact unchanged_store_iff last

end Report

namespace Sentence

/-- The number of fields its parser needs. -/
def needs : Sentence → ℕ
  | pqwm1 => 23
  | pqwp1 => 9
  | pqwp2 => 7
  | pqwp3 => 13
  | pqwp4 => 7
  | pqwp5 => 17
  | pqwp6 => 3
  | pqwp7 => 404
  | pqws1 => 4

/-- The reports it is stored in have what its parser leaves of a short sentence: zeros for the first type, and the
memory of its record for the others. -/
def KeepsBlank {D F : Type} (ops : FloatOps D F) (memory : ParserMemory F) (utc : ℕ) (mCache : SystemStatusReports D F) :
    Sentence → Prop
  | pqwm1 =>
    Keeps equalsAll mCache.mTimeAndClock (.ofNmea (zeroPQWM1 ops)) utc ∧
      Keeps equalsAll mCache.mXoState (.ofNmea (zeroPQWM1 ops)) utc ∧
        Keeps (SystemStatusRfAndParams.equals ops) mCache.mRfAndParams (.ofNmea (zeroPQWM1 ops)) utc
  | pqwp1 => Keeps (SystemStatusPQWP1.equals ops) mCache.mInjectedPosition memory.mP1 utc
  | pqwp2 => Keeps (SystemStatusPQWP2.equals ops) mCache.mBestPosition memory.mP2 utc
  | pqwp3 => Keeps equalsAll mCache.mXtra memory.mP3 utc
  | pqwp4 => Keeps equalsAll mCache.mEphemeris memory.mP4 utc
  | pqwp5 => Keeps SystemStatusPQWP5.equals mCache.mSvHealth memory.mP5 utc
  | pqwp6 => Keeps equalsAll mCache.mPdr memory.mP6 utc
  | pqwp7 => Keeps equalsAll mCache.mNavData memory.mP7 utc
  | pqws1 => Keeps equalsAll mCache.mPositionFailure memory.mS1 utc

/-- The reports with what its parser leaves of a short sentence. -/
def storeBlank {D F : Type} (ops : FloatOps D F) (memory : ParserMemory F) (utc : ℕ)
    (mCache : SystemStatusReports D F) : Sentence → SystemStatusReports D F
  | pqwm1 =>
    { mCache with
      mTimeAndClock := setItem equalsAll mCache.mTimeAndClock (.ofNmea (zeroPQWM1 ops)) utc
      mXoState := setItem equalsAll mCache.mXoState (.ofNmea (zeroPQWM1 ops)) utc
      mRfAndParams := setItem (SystemStatusRfAndParams.equals ops) mCache.mRfAndParams (.ofNmea (zeroPQWM1 ops)) utc }
  | pqwp1 =>
    { mCache with
      mInjectedPosition := setItem (SystemStatusPQWP1.equals ops) mCache.mInjectedPosition memory.mP1 utc }
  | pqwp2 =>
    { mCache with mBestPosition := setItem (SystemStatusPQWP2.equals ops) mCache.mBestPosition memory.mP2 utc }
  | pqwp3 => { mCache with mXtra := setItem equalsAll mCache.mXtra memory.mP3 utc }
  | pqwp4 => { mCache with mEphemeris := setItem equalsAll mCache.mEphemeris memory.mP4 utc }
  | pqwp5 => { mCache with mSvHealth := setItem SystemStatusPQWP5.equals mCache.mSvHealth memory.mP5 utc }
  | pqwp6 => { mCache with mPdr := setItem equalsAll mCache.mPdr memory.mP6 utc }
  | pqwp7 => { mCache with mNavData := setItem equalsAll mCache.mNavData memory.mP7 utc }
  | pqws1 => { mCache with mPositionFailure := setItem equalsAll mCache.mPositionFailure memory.mS1 utc }

/-- The data that begin with the text of a type are of it. -/
theorem sentenceOf_text (sentence : Sentence) (rest : Bytes) :
    sentenceOf (ascii sentence.text ++ rest) = some sentence := by
  cases sentence <;> rfl

end Sentence

/-- Each report stays as it is, apart from when its latest item was last reported. -/
structure CacheUnchanged {D F : Type} (before after : SystemStatusReports D F) : Prop where
  mTimeAndClock : Unchanged before.mTimeAndClock after.mTimeAndClock
  mXoState : Unchanged before.mXoState after.mXoState
  mRfAndParams : Unchanged before.mRfAndParams after.mRfAndParams
  mErrRecovery : Unchanged before.mErrRecovery after.mErrRecovery
  mInjectedPosition : Unchanged before.mInjectedPosition after.mInjectedPosition
  mBestPosition : Unchanged before.mBestPosition after.mBestPosition
  mXtra : Unchanged before.mXtra after.mXtra
  mEphemeris : Unchanged before.mEphemeris after.mEphemeris
  mSvHealth : Unchanged before.mSvHealth after.mSvHealth
  mPdr : Unchanged before.mPdr after.mPdr
  mNavData : Unchanged before.mNavData after.mNavData
  mPositionFailure : Unchanged before.mPositionFailure after.mPositionFailure

theorem CacheUnchanged.refl {D F : Type} {mCache : SystemStatusReports D F} : CacheUnchanged mCache mCache :=
  ⟨.refl, .refl, .refl, .refl, .refl, .refl, .refl, .refl, .refl, .refl, .refl, .refl⟩

section Short

variable {D F : Type} {ops : FloatOps D F} {memory : ParserMemory F} {utc : ℕ} {mCache : SystemStatusReports D F}
  {data : Bytes} {len : ℕ} {sentence : Sentence}

theorem storeSentence_short {field : List Bytes} (short : field.length < sentence.needs) :
    storeSentence ops memory utc mCache field sentence = sentence.storeBlank ops memory utc mCache := by
  cases sentence with
  | pqwm1 =>
    have blank : parsePQWM1 ops field = zeroPQWM1 ops := if_pos (Nat.le_of_lt_succ short)
    rw [storeSentence, blank]
    rfl
  | pqwp1 =>
    have blank : parsePQWP1 ops field memory.mP1 = memory.mP1 := if_pos short
    rw [storeSentence, blank]
    rfl
  | pqwp2 =>
    have blank : parsePQWP2 ops field memory.mP2 = memory.mP2 := if_pos short
    rw [storeSentence, blank]
    rfl
  | pqwp3 =>
    have blank : parsePQWP3 field memory.mP3 = memory.mP3 := if_pos short
    rw [storeSentence, blank]
    rfl
  | pqwp4 =>
    have blank : parsePQWP4 field memory.mP4 = memory.mP4 := if_pos short
    rw [storeSentence, blank]
    rfl
  | pqwp5 =>
    have blank : parsePQWP5 field memory.mP5 = memory.mP5 := if_pos short
    rw [storeSentence, blank]
    rfl
  | pqwp6 =>
    have blank : parsePQWP6 field memory.mP6 = memory.mP6 := if_pos short
    rw [storeSentence, blank]
    rfl
  | pqwp7 =>
    have blank : parsePQWP7 field memory.mP7 = memory.mP7 := if_pos short
    rw [storeSentence, blank]
    rfl
  | pqws1 =>
    have blank : parsePQWS1 field memory.mS1 = memory.mS1 := if_pos short
    rw [storeSentence, blank]
    rfl

/-- What a short sentence is stored as. -/
theorem setNmeaString_short (debug : locNmeaIsDebug data len = true)
    (type : strncmpEq 6 data (ascii sentence.text) = true)
    (short : (mField (strlcpy data 4097) len).length < sentence.needs) :
    (setNmeaString ops memory utc mCache data len).1 = sentence.storeBlank ops memory utc mCache := by
  have nonzero : 0 ∉ ascii sentence.text := by
    cases sentence <;> decide
  have long : (ascii sentence.text).length ≤ 6 := by
    cases sentence <;> decide
  obtain ⟨rest, rfl⟩ := starts_of_strncmpEq [] nonzero long (by rwa [List.append_nil])
  rw [setNmeaString, if_pos debug, Sentence.sentenceOf_text]
  exact storeSentence_short short

end Short

/-- A sentence with too few fields leaves the reports as they are exactly when they have what its parser leaves. -/
theorem short_unchanged_iff {D F : Type} (ops : FloatOps D F) (memory : ParserMemory F) (utc : ℕ)
    (mCache : SystemStatusReports D F) (data : Bytes) (len : ℕ) (sentence : Sentence)
    (debug : locNmeaIsDebug data len = true) (type : strncmpEq 6 data (ascii sentence.text) = true)
    (short : (mField (strlcpy data 4097) len).length < sentence.needs) :
    CacheUnchanged mCache (setNmeaString ops memory utc mCache data len).1 ↔
      sentence.KeepsBlank ops memory utc mCache := by
  rw [setNmeaString_short debug type short]
  cases sentence with
  | pqwm1 =>
    refine Iff.trans ?_ (and_congr unchanged_setItem_iff (and_congr unchanged_setItem_iff unchanged_setItem_iff))
    exact ⟨fun same => ⟨same.mTimeAndClock, same.mXoState, same.mRfAndParams⟩,
      fun ⟨time, xo, rf⟩ => { CacheUnchanged.refl with mTimeAndClock := time, mXoState := xo, mRfAndParams := rf }⟩
  | pqwp1 =>
    refine Iff.trans ?_ unchanged_setItem_iff
    exact ⟨fun same => same.mInjectedPosition, fun same => { CacheUnchanged.refl with mInjectedPosition := same }⟩
  | pqwp2 =>
    refine Iff.trans ?_ unchanged_setItem_iff
    exact ⟨fun same => same.mBestPosition, fun same => { CacheUnchanged.refl with mBestPosition := same }⟩
  | pqwp3 =>
    refine Iff.trans ?_ unchanged_setItem_iff
    exact ⟨fun same => same.mXtra, fun same => { CacheUnchanged.refl with mXtra := same }⟩
  | pqwp4 =>
    refine Iff.trans ?_ unchanged_setItem_iff
    exact ⟨fun same => same.mEphemeris, fun same => { CacheUnchanged.refl with mEphemeris := same }⟩
  | pqwp5 =>
    refine Iff.trans ?_ unchanged_setItem_iff
    exact ⟨fun same => same.mSvHealth, fun same => { CacheUnchanged.refl with mSvHealth := same }⟩
  | pqwp6 =>
    refine Iff.trans ?_ unchanged_setItem_iff
    exact ⟨fun same => same.mPdr, fun same => { CacheUnchanged.refl with mPdr := same }⟩
  | pqwp7 =>
    refine Iff.trans ?_ unchanged_setItem_iff
    exact ⟨fun same => same.mNavData, fun same => { CacheUnchanged.refl with mNavData := same }⟩
  | pqws1 =>
    refine Iff.trans ?_ unchanged_setItem_iff
    exact ⟨fun same => same.mPositionFailure, fun same => { CacheUnchanged.refl with mPositionFailure := same }⟩

/-- Integers in place of floating point. -/
def integerOps : FloatOps ℤ ℤ := ⟨0, fun s => (atoi s).toInt, id, Int32.toInt, (· != ·), (· != ·)⟩

def blankMemory : ParserMemory ℤ where
  mP1 := ⟨0, 0, 0, 0, 0, 0, 0⟩
  mP2 := ⟨0, 0, 0, 0, 0⟩
  mP3 := ⟨0, 0, 0, 0, 0, 0, 0, 0, 0, 0, 0, 0, 0⟩
  mP4 := ⟨0, 0, 0, 0, 0⟩
  mP5 := ⟨⟨0, 0, 0, 0, 0, 0⟩, ⟨0, 0, 0, 0, 0, 0⟩, ⟨0, 0, 0, 0, 0, 0⟩⟩
  mP6 := ⟨0⟩
  mP7 := fun _ => ⟨0, 0, 0⟩
  mS1 := ⟨0, 0⟩

def emptyCache : SystemStatusReports ℤ ℤ := ⟨[], [], [], [], [], [], [], [], [], [], [], []⟩

/-- A position failure without its fields, after one whose fields were zero. -/
theorem short_unchanged_after_zero : CacheUnchanged { emptyCache with mPositionFailure := [⟨⟨0, 0⟩, 1, 1⟩] }
    (setNmeaString integerOps blankMemory 2 { emptyCache with mPositionFailure := [⟨⟨0, 0⟩, 1, 1⟩] }
      (ascii "$PQWS1,1*") 9).1 :=
  (short_unchanged_iff integerOps blankMemory 2 _ (ascii "$PQWS1,1*") 9 .pqws1 (by decide) (by decide)
    (by decide)).mpr ⟨_, rfl, .inl rfl⟩

/-- The first sentence of its type has no fields, and an item of zeros is stored. -/
theorem short_sentence_is_stored : ¬ ∀ {D F : Type} (ops : FloatOps D F) (memory : ParserMemory F) (utc : ℕ)
    (mCache : SystemStatusReports D F) (data : Bytes) (len : ℕ) (sentence : Sentence),
    locNmeaIsDebug data len = true → strncmpEq 6 data (ascii sentence.text) = true →
      (mField (strlcpy data 4097) len).length < sentence.needs →
        CacheUnchanged mCache (setNmeaString ops memory utc mCache data len).1 := by
  intro all
  have same := all integerOps blankMemory 1 emptyCache (ascii "$PQWM1*") 7 .pqwm1 (by decide) (by decide) (by decide)
  exact absurd same.mXoState.2 (by decide)

end Cypfr.SystemStatus
