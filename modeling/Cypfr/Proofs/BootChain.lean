import Cypfr.Model.BootUpdate
import Cypfr.Proofs.CString

/-! # What the boot chain swap does to the entries

`gpt_boot_chain_swap` goes through the swap list and exchanges entries in place, searching the array
it is changing. Since no entry matches two names of the list, the rounds do not disturb each other:
the array it leaves has, for each name, the first two entries of the original array that match it
exchanged, and every other entry where it was.
-/

namespace Cypfr.Gpt

open ByteList

/-- The number of entries of 128 bytes. -/
def entryCount (pentries : Bytes) : ℕ := pentries.length / ptnEntrySize

def entryAt (pentries : Bytes) (i : ℕ) : Bytes := read pentries (ptnEntrySize * i) ptnEntrySize

/-- The name in an entry, without the upper bytes of its characters. -/
def entryName (entry : Bytes) : Bytes := cstr (name8 (read entry partitionNameOffset 72))

/-- The entry is a partition with this name, or its backup twin. -/
def Matches (name : String) (entry : Bytes) : Prop :=
  entryName entry = ascii name ∨ entryName entry = ascii name ++ ascii "bak"

instance (name : String) : DecidablePred (Matches name) := fun entry =>
  inferInstanceAs (Decidable (entryName entry = ascii name ∨ entryName entry = ascii name ++ ascii "bak"))

/-- The index of the first matching entry from index `i` on. -/
def firstFrom (name : String) (pentries : Bytes) (i : ℕ) : Option ℕ :=
  (List.range' i (entryCount pentries - i)).find? fun j => Matches name (entryAt pentries j)

/-- The first two matching entries. -/
def firstTwo (name : String) (pentries : Bytes) : Option (ℕ × ℕ) :=
  match firstFrom name pentries 0 with
  | none => none
  | some a => (firstFrom name pentries (a + 1)).map fun b => (a, b)

/-- The names the swap handles: on UFS the XBL partitions are left to the boot LUN. -/
def swapNames (isUfs : Bool) : List String :=
  ptnSwapList.filter fun name => !(isUfs && strncmpEq 3 (ascii name) (ascii "xbl"))

/-- Where the exchange of the first two matches of one name sends an index. -/
def exchange (name : String) (pentries : Bytes) (i : ℕ) : Option ℕ :=
  match firstTwo name pentries with
  | none => none
  | some (a, b) => if i = a then some b else if i = b then some a else none

/-- Where the entry at index `i` comes from when the first two matches of each name are exchanged. -/
def partner (names : List String) (pentries : Bytes) (i : ℕ) : ℕ :=
  (names.findSome? fun name => exchange name pentries i).getD i

theorem nameMatches_iff {name : String} (nonzero : 0 ∉ ascii name) (raw : Bytes) :
    nameMatches (ascii name) raw = true ↔
      cstr (name8 raw) = ascii name ∨ cstr (name8 raw) = ascii name ++ ascii "bak" := by
  rw [nameMatches, Bool.and_eq_true, Bool.or_eq_true, strcmpEq_iff]
  constructor
  · rintro ⟨starts, rest⟩
    rw [strncmpEq_comm] at starts
    obtain ⟨tail, joined⟩ := starts_of_strncmpEq [] nonzero le_rfl (by simpa using starts)
    rw [← joined] at rest ⊢
    rw [cstr_append nonzero]
    rcases rest with ended | bak
    · left
      cases tail with
      | nil => simp
      | cons b tail =>
        have zero : b = 0 := by simpa using ended
        rw [cstr_cons, if_pos zero, List.append_nil]
    · right
      rw [List.drop_left] at bak
      rw [bak]
      congr 1
  · intro text
    have starts : ascii name <+: name8 raw := by
      have text' : cstr (name8 raw) <+: name8 raw := List.takeWhile_prefix _
      rcases text with plain | bak
      · rwa [plain] at text'
      · rw [bak] at text'
        exact (List.prefix_append _ _).trans text'
    have compared := strncmpEq_of_starts starts []
    rw [List.append_nil, strncmpEq_comm] at compared
    refine ⟨compared, ?_⟩
    obtain ⟨tail, joined⟩ := starts
    rw [← joined, cstr_append nonzero] at text
    rw [← joined, List.drop_left]
    rcases text with plain | bak
    · left
      have empty : cstr tail = [] := by simpa using plain
      cases tail with
      | nil => simp
      | cons b tail =>
        rw [cstr_cons] at empty
        split_ifs at empty with zero
        simp [zero]
    · right
      rw [List.append_cancel_left bak]
      decide

section Seek

variable {name : String} {pentries : Bytes}

theorem matches_entryAt (plain : 0 ∉ ascii name) (i : ℕ) :
    Matches name (entryAt pentries i) ↔
      nameMatches (ascii name) (read pentries (ptnEntrySize * i + partitionNameOffset) 72) = true := by
  rw [nameMatches_iff plain, ← read_read pentries (show partitionNameOffset + 72 ≤ ptnEntrySize by decide)]
  rfl

/-- The search of the code finds the first matching entry. -/
theorem gptPentrySeek_eq (plain : 0 ∉ ascii name) (whole : ptnEntrySize ∣ pentries.length) {fuel i : ℕ}
    (enough : entryCount pentries - i ≤ fuel) :
    gptPentrySeek (ascii name) pentries ptnEntrySize fuel (ptnEntrySize * i) =
      (firstFrom name pentries i).map (ptnEntrySize * ·) := by
  have length : pentries.length = ptnEntrySize * entryCount pentries := (Nat.mul_div_cancel' whole).symm
  induction fuel generalizing i with
  | zero =>
    have none : entryCount pentries - i = 0 := by omega
    simp [gptPentrySeek, firstFrom, none]
  | succ fuel ih =>
    rw [gptPentrySeek]
    by_cases inside : i < entryCount pentries
    · have room : ptnEntrySize * i + partitionNameOffset < pentries.length := by
        rw [length, ptnEntrySize, partitionNameOffset]; omega
      obtain ⟨left, more⟩ : ∃ left, entryCount pentries - i = left + 1 := ⟨entryCount pentries - (i + 1), by omega⟩
      have next : entryCount pentries - (i + 1) = left := by omega
      have later := ih (i := i + 1) (by omega)
      rw [firstFrom, next] at later
      rw [if_pos room, firstFrom, more, List.range'_succ]
      by_cases here : Matches name (entryAt pentries i)
      · rw [if_pos ((matches_entryAt plain i).mp here), List.find?_cons_of_pos (by simpa using here), Option.map_some]
      · rw [if_neg (mt (matches_entryAt plain i).mpr here), List.find?_cons_of_neg (by simpa using here), ← later,
          Nat.mul_succ]
    · have none : entryCount pentries - i = 0 := by omega
      rw [if_neg (by rw [length, ptnEntrySize, partitionNameOffset]; omega)]
      simp [firstFrom, none]

theorem firstFrom_eq_some {i j : ℕ} (found : firstFrom name pentries i = some j) :
    i ≤ j ∧ j < entryCount pentries ∧ Matches name (entryAt pentries j) := by
  have member := List.mem_of_find?_eq_some found
  have here := List.find?_some found
  rw [List.mem_range'_1] at member
  exact ⟨member.1, by omega, by simpa using here⟩

theorem firstTwo_eq_some {a b : ℕ} (found : firstTwo name pentries = some (a, b)) :
    a < b ∧ b < entryCount pentries ∧ Matches name (entryAt pentries a) ∧ Matches name (entryAt pentries b) := by
  unfold firstTwo at found
  split at found
  · cases found
  · next first here =>
    obtain ⟨second, there, same⟩ := Option.map_eq_some_iff.mp found
    obtain ⟨rfl, rfl⟩ := Prod.mk.inj same
    obtain ⟨-, -, matchA⟩ := firstFrom_eq_some here
    obtain ⟨after, inside, matchB⟩ := firstFrom_eq_some there
    exact ⟨after, inside, matchA, matchB⟩

/-- A name with two matching entries has a first and a second one. -/
theorem firstTwo_ne_none {i j : ℕ} (left : i < entryCount pentries) (right : j < entryCount pentries) (apart : i ≠ j)
    (matchI : Matches name (entryAt pentries i)) (matchJ : Matches name (entryAt pentries j)) :
    firstTwo name pentries ≠ none := by
  have some_of {k l : ℕ} (low : k ≤ l) (high : l < entryCount pentries) (here : Matches name (entryAt pentries l)) :
      firstFrom name pentries k ≠ none := by
    intro none
    rw [firstFrom, List.find?_range'_eq_none] at none
    simpa [here] using none l low (by omega)
  obtain ⟨a, first⟩ := Option.ne_none_iff_exists'.mp (some_of (Nat.zero_le i) left matchI)
  have earliest {l : ℕ} (here : Matches name (entryAt pentries l)) : a ≤ l := by
    by_contra before
    have found := first
    rw [firstFrom, List.find?_range'_eq_some] at found
    simpa [here] using found.2.2 l (Nat.zero_le l) (by omega)
  have later : firstFrom name pentries (a + 1) ≠ none := by
    have lowI := earliest matchI
    have lowJ := earliest matchJ
    by_cases next : a < i
    · exact some_of next left matchI
    · exact some_of (show a + 1 ≤ j by omega) right matchJ
  obtain ⟨b, second⟩ := Option.ne_none_iff_exists'.mp later
  simp [firstTwo, first, second]

end Seek

section Exchange

variable {pentries : Bytes} {a b : ℕ}

/-- Two entries change places and the others stay. -/
theorem entryAt_swapEntries (left : a < entryCount pentries) (right : b < entryCount pentries) (apart : a ≠ b)
    (i : ℕ) :
    entryAt (swapEntries pentries (ptnEntrySize * a) (ptnEntrySize * b)) i =
      if i = a then entryAt pentries b else if i = b then entryAt pentries a else entryAt pentries i := by
  have room {j : ℕ} (inside : j < entryCount pentries) : ptnEntrySize * j + ptnEntrySize ≤ pentries.length := by
    have := Nat.mul_div_le pentries.length ptnEntrySize
    rw [entryCount] at inside
    simp only [ptnEntrySize] at *
    omega
  have lengthA : (entryAt pentries a).length = ptnEntrySize := length_read_of_le (room left)
  have lengthB : (entryAt pentries b).length = ptnEntrySize := length_read_of_le (room right)
  have away {i j : ℕ} (other : i ≠ j) : ptnEntrySize * j + ptnEntrySize ≤ ptnEntrySize * i ∨
      ptnEntrySize * i + ptnEntrySize ≤ ptnEntrySize * j := by
    simp only [ptnEntrySize]; omega
  rw [swapEntries, ← entryAt, ← entryAt, entryAt]
  split_ifs with first second
  · subst first
    rw [read_write_disjoint (by rw [lengthA]; exact away apart)]
    have back := read_write_same pentries (ptnEntrySize * i) (entryAt pentries b)
      (by rw [lengthB]; exact room left)
    rwa [lengthB] at back
  · subst second
    have back := read_write_same (write pentries (ptnEntrySize * a) (entryAt pentries i))
      (ptnEntrySize * i) (entryAt pentries a) (by rw [lengthA, length_write]; exact room right)
    rwa [lengthA] at back
  · rw [read_write_disjoint (by rw [lengthA]; exact away second),
      read_write_disjoint (by rw [lengthB]; exact away first)]
    rfl

theorem entryCount_eq {pentries pentries' : Bytes} (length : pentries'.length = pentries.length) :
    entryCount pentries' = entryCount pentries := by rw [entryCount, length, entryCount]

/-- A round exchanges the first two matches of its name. -/
theorem swapRound_eq {isUfs : Bool} {name : String} (plain : 0 ∉ ascii name) (whole : ptnEntrySize ∣ pentries.length)
    (handled : (isUfs && strncmpEq 3 (ascii name) (ascii "xbl")) = false) (notFound : Bool) :
    swapRound isUfs ptnEntrySize (notFound, pentries) name =
      match firstTwo name pentries with
      | none => (notFound, pentries)
      | some (a, b) => (false, swapEntries pentries (ptnEntrySize * a) (ptnEntrySize * b)) := by
  have fuel (i : ℕ) : entryCount pentries - i ≤ pentries.length :=
    (Nat.sub_le _ _).trans (Nat.div_le_self _ _)
  have first := gptPentrySeek_eq plain whole (fuel 0)
  rw [Nat.mul_zero] at first
  rw [swapRound, handled, if_neg Bool.false_ne_true, first, firstTwo]
  cases here : firstFrom name pentries 0 with
  | none => rfl
  | some a =>
    have second := gptPentrySeek_eq plain whole (fuel (a + 1))
    rw [Nat.mul_succ] at second
    simp only [Option.map_some, second]
    cases firstFrom name pentries (a + 1) <;> rfl

theorem exchange_matches {name : String} {i j : ℕ} (moved : exchange name pentries i = some j) :
    Matches name (entryAt pentries i) ∧ Matches name (entryAt pentries j) := by
  unfold exchange at moved
  split at moved
  · cases moved
  · next a b found =>
    obtain ⟨-, -, matchA, matchB⟩ := firstTwo_eq_some found
    split_ifs at moved with first second
    · obtain rfl := Option.some.inj moved
      exact ⟨first ▸ matchA, matchB⟩
    · obtain rfl := Option.some.inj moved
      exact ⟨second ▸ matchB, matchA⟩

/-- No entry matches both names. -/
def Separate (m n : String) : Prop := ∀ entry, ¬ (Matches m entry ∧ Matches n entry)

/-- An entry that matches a further name is moved by none of the others. -/
theorem findSome_exchange_eq_none {names : List String} {name : String} (separate : ∀ m ∈ names, Separate m name)
    {i : ℕ} (here : Matches name (entryAt pentries i)) :
    (names.findSome? fun m => exchange m pentries i) = none := by
  rw [List.findSome?_eq_none_iff]
  intro m member
  cases moved : exchange m pentries i with
  | none => rfl
  | some j => exact absurd ⟨(exchange_matches moved).1, here⟩ (separate m member _)

theorem matches_partner {names : List String} {name : String} (separate : ∀ m ∈ names, Separate m name) (i : ℕ) :
    Matches name (entryAt pentries (partner names pentries i)) ↔ Matches name (entryAt pentries i) := by
  cases moved : names.findSome? fun m => exchange m pentries i with
  | none => rw [partner, moved, Option.getD_none]
  | some j =>
    obtain ⟨m, member, here⟩ := List.exists_of_findSome?_eq_some moved
    obtain ⟨from', to'⟩ := exchange_matches here
    rw [partner, moved, Option.getD_some]
    exact ⟨fun there => absurd ⟨to', there⟩ (separate m member _), fun there =>
      absurd ⟨from', there⟩ (separate m member _)⟩

theorem firstTwo_congr {name : String} {pentries' : Bytes} (length : pentries'.length = pentries.length)
    (same : ∀ i, Matches name (entryAt pentries' i) ↔ Matches name (entryAt pentries i)) :
    firstTwo name pentries' = firstTwo name pentries := by
  have from' : firstFrom name pentries' = firstFrom name pentries := by
    funext i
    simp only [firstFrom, entryCount_eq length, same]
  rw [firstTwo, firstTwo, from']

/-- The rounds together: every entry goes to its partner's place, and the flag is kept only when no name
has two matches. -/
theorem foldl_swapRound (isUfs : Bool) (names : List String) (plain : ∀ name ∈ names, 0 ∉ ascii name)
    (handled : ∀ name ∈ names, (isUfs && strncmpEq 3 (ascii name) (ascii "xbl")) = false)
    (separate : names.Pairwise Separate) (whole : ptnEntrySize ∣ pentries.length) :
    let swapped := names.foldl (swapRound isUfs ptnEntrySize) (true, pentries)
    swapped.2.length = pentries.length ∧
      (∀ i, entryAt swapped.2 i = entryAt pentries (partner names pentries i)) ∧
      (swapped.1 = true ↔ ∀ name ∈ names, firstTwo name pentries = none) := by
  induction names using List.reverseRecOn with
  | nil => simp [partner]
  | append_singleton names name ih =>
    rw [List.pairwise_append] at separate
    obtain ⟨earlier, -, across⟩ := separate
    have others : ∀ m ∈ names, Separate m name := fun m member => across m member name (List.mem_singleton.mpr rfl)
    obtain ⟨length, entries, flag⟩ := ih (fun m member => plain m (List.mem_append_left _ member))
      (fun m member => handled m (List.mem_append_left _ member)) earlier
    rw [List.foldl_append, List.foldl_cons, List.foldl_nil]
    generalize names.foldl (swapRound isUfs ptnEntrySize) (true, pentries) = swapped at *
    obtain ⟨notFound, array⟩ := swapped
    simp only at length entries flag
    have same : firstTwo name array = firstTwo name pentries :=
      firstTwo_congr length fun i => by rw [entries, matches_partner others]
    have here := List.mem_append_right names (List.mem_singleton.mpr (Eq.refl name))
    rw [swapRound_eq (plain name here) (length ▸ whole) (handled name here), same]
    cases found : firstTwo name pentries with
    | none =>
      have still (i : ℕ) : exchange name pentries i = none := by rw [exchange, found]
      refine ⟨length, fun i => ?_, ?_⟩
      · simp only
        rw [entries, partner, partner, List.findSome?_append, List.findSome?_singleton, still, Option.or_none]
      · rw [flag]
        simp only [List.mem_append, List.mem_singleton, or_imp, forall_and, forall_eq, found, and_true]
    | some pair =>
      obtain ⟨a, b⟩ := pair
      obtain ⟨order, inside, matchA, matchB⟩ := firstTwo_eq_some found
      refine ⟨(length_write ..).trans ((length_write ..).trans length), fun i => ?_, ?_⟩
      · have stay {j : ℕ} (match' : Matches name (entryAt pentries j)) : partner names pentries j = j := by
          rw [partner, findSome_exchange_eq_none others match', Option.getD_none]
        have moves : exchange name pentries i = if i = a then some b else if i = b then some a else none := by
          rw [exchange, found]
        simp only
        rw [entryAt_swapEntries (by rw [entryCount_eq length]; omega) (by rw [entryCount_eq length]; omega) (by omega),
          entries, entries, entries, stay matchA, stay matchB]
        rw [partner, partner, List.findSome?_append, List.findSome?_singleton, moves]
        split_ifs with first second
        · rw [first, findSome_exchange_eq_none others matchA]; rfl
        · rw [second, findSome_exchange_eq_none others matchB]; rfl
        · rw [Option.or_none]
      · simp only [Bool.false_eq_true, false_iff, not_forall]
        exact ⟨name, here, by simp [found]⟩

end Exchange

section SwapList

theorem plain_swapList : ∀ name ∈ ptnSwapList, 0 ∉ ascii name := by decide

/-- No two names of the swap list share a partition or a twin. -/
theorem separate_swapList : ptnSwapList.Pairwise Separate := by
  have names : ptnSwapList.Pairwise fun m n => ascii m ≠ ascii n ∧ ascii m ≠ ascii n ++ ascii "bak" ∧
      ascii m ++ ascii "bak" ≠ ascii n ∧ ascii m ++ ascii "bak" ≠ ascii n ++ ascii "bak" := by decide
  refine names.imp fun {m n} distinct entry both => ?_
  obtain ⟨left, right⟩ := both
  rcases left with left | left <;> rcases right with right | right <;> rw [left] at right
  · exact distinct.1 right
  · exact distinct.2.1 right
  · exact distinct.2.2.1 right
  · exact distinct.2.2.2 right

theorem foldl_swapNames (isUfs : Bool) (pentrySize : ℕ) (found : Bool × Bytes) :
    ptnSwapList.foldl (swapRound isUfs pentrySize) found =
      (swapNames isUfs).foldl (swapRound isUfs pentrySize) found := by
  rw [swapNames, List.foldl_filter]
  congr 1
  funext found name
  by_cases skipped : (isUfs && strncmpEq 3 (ascii name) (ascii "xbl")) = true
  · simp [swapRound, skipped]
  · simp [skipped]

/-- `gpt_boot_chain_swap` on an array of whole entries. -/
theorem gptBootChainSwap_spec (isUfs : Bool) {pentries : Bytes} (whole : ptnEntrySize ∣ pentries.length) :
    (∀ i, entryAt (gptBootChainSwap isUfs pentries ptnEntrySize).2 i =
        entryAt pentries (partner (swapNames isUfs) pentries i)) ∧
      ((gptBootChainSwap isUfs pentries ptnEntrySize).1 = true ↔
        ∀ name ∈ swapNames isUfs, firstTwo name pentries = none) := by
  have listed {name : String} (member : name ∈ swapNames isUfs) : name ∈ ptnSwapList :=
    (List.mem_filter.mp member).1
  have spec := foldl_swapRound isUfs (swapNames isUfs)
    (fun name member => plain_swapList name (listed member))
    (fun name member => by simpa only [Bool.not_eq_true'] using (List.mem_filter.mp member).2)
    (separate_swapList.sublist List.filter_sublist) whole
  rw [gptBootChainSwap, foldl_swapNames]
  exact spec.2

end SwapList

end Cypfr.Gpt
