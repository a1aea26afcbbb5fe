import Cypfr.Model.SockNode
import Cypfr.Proofs.CNumber
import Mathlib.Data.List.TakeWhile

/-! # A socket node is found in its name

The prefix may hold dots and digits of its own: `create` looks for the two dots from the end of the name,
and neither id has one. It finds them from any start that an `int32_t` keeps behind the name, whichever
overload chose it. A name of more than `2 ^ 31` bytes has no such start, and its prefix is cut.
-/

namespace Cypfr.SockNode

theorem no_dot_in_id {i : Int32} {b : UInt8} (member : b ∈ stdToString i) : (b == 46) = false := by
  rcases stdToString_bytes member with rfl | digit
  · rfl
  · rw [beq_eq_false_iff_ne]
    rintro rfl
    exact absurd digit (by decide)

theorem getNodePathname_eq (node : SockNode) : node.getNodePathname =
    (node.nodePathnamePrefix ++ 46 :: stdToString node.id1) ++ 46 :: stdToString node.id2 := by
  simp [getNodePathname]

/-- From behind the name the loop comes to the dot behind the prefix. -/
theorem countDots_getNodePathname (node : SockNode) {indx : Int32}
    (behind : (node.getNodePathname.length : ℤ) ≤ indx.toInt + 1) :
    countDots node.getNodePathname indx = (2, node.nodePathnamePrefix.length) := by
  rw [getNodePathname_eq] at behind ⊢
  rw [List.length_append, List.length_cons] at behind
  rw [countDots, scanBack_separator _ _ rfl (fun b => no_dot_in_id) (by omega) (by omega),
    scanBack_separator _ _ rfl (fun b => no_dot_in_id) (by simp) (by omega), scanBack_of_limit _ _ le_rfl]

theorem scanIds_getNodePathname (node : SockNode) :
    scanIds (node.getNodePathname.drop (node.nodePathnamePrefix.length + 1)) = (node.id1, node.id2) := by
  have tail : node.getNodePathname.drop (node.nodePathnamePrefix.length + 1) =
      stdToString node.id1 ++ 46 :: (stdToString node.id2 ++ []) := by
    rw [getNodePathname_eq, List.append_assoc, List.cons_append, List.append_nil,
      List.drop_length_add_append, List.drop_one, List.tail_cons]
  have first : scanD (stdToString node.id1 ++ 46 :: (stdToString node.id2 ++ [])) =
      some (node.id1, 46 :: (stdToString node.id2 ++ [])) := scanD_stdToString (by simp; decide) node.id1
  have second : scanD (stdToString node.id2 ++ []) = some (node.id2, []) := scanD_stdToString (by simp) node.id2
  rw [tail, scanIds, first]
  simp only [second, Option.map_some, Option.getD_some]

theorem create_some (fullPathName : Bytes) (length : Int32) : create (some fullPathName) length =
    if (countDots fullPathName (startIndx fullPathName length)).1 = 2 then
      ⟨(scanIds (fullPathName.drop ((countDots fullPathName (startIndx fullPathName length)).2 + 1))).1,
        (scanIds (fullPathName.drop ((countDots fullPathName (startIndx fullPathName length)).2 + 1))).2,
        fullPathName.take (countDots fullPathName (startIndx fullPathName length)).2⟩
    else ⟨-1, -1, []⟩ := rfl

theorem create_getNodePathname (node : SockNode) {length : Int32}
    (behind : (node.getNodePathname.length : ℤ) ≤ (startIndx node.getNodePathname length).toInt + 1) :
    create (some node.getNodePathname) length = node := by
  have front : node.getNodePathname.take node.nodePathnamePrefix.length = node.nodePathnamePrefix := by
    rw [getNodePathname_eq, List.append_assoc, List.take_left]
  rw [create_some, countDots_getNodePathname node behind, if_pos rfl, scanIds_getNodePathname, front]

/-- The prefix found ends before the start of the loop. -/
theorem length_create_le (fullPathName : Bytes) (length : Int32) :
    (create (some fullPathName) length).nodePathnamePrefix.length ≤
      ((startIndx fullPathName length).toInt + 1).toNat := by
  have reached : (countDots fullPathName (startIndx fullPathName length)).2 ≤ _ := scanBack_le ..
  rw [create_some]
  split_ifs
  · rw [List.length_take]
    exact (Nat.min_le_left ..).trans reached
  · exact Nat.zero_le _

section Start

variable {node : SockNode} (nulFree : 0 ∉ node.nodePathnamePrefix)

theorem length_getNodePathname (node : SockNode) :
    node.nodePathnamePrefix.length + 2 ≤ node.getNodePathname.length ∧
      node.getNodePathname.length ≤ node.nodePathnamePrefix.length + 24 := by
  have first := length_stdToString_le node.id1
  have second := length_stdToString_le node.id2
  simp only [getNodePathname_eq, List.length_append, List.length_cons]
  omega

include nulFree

theorem strlen_getNodePathname : strlen node.getNodePathname = node.getNodePathname.length := by
  have text : ∀ i : Int32, ∀ b ∈ stdToString i, b ≠ 0 := by
    rintro i b member rfl
    rcases stdToString_bytes member with minus | digit
    · exact absurd minus (by decide)
    · exact absurd digit (by decide)
  rw [strlen, List.takeWhile_eq_self_iff.mpr]
  intro b member
  rw [bne_iff_ne]
  simp only [getNodePathname_eq, List.mem_append, List.mem_cons] at member
  rcases member with (front | rfl | first) | rfl | second
  · rintro rfl
    exact nulFree front
  · decide
  · exact text node.id1 b first
  · decide
  · exact text node.id2 b second

/-- Both overloads start at the last byte of the name or right behind it, as far as an `int32_t` can say so. -/
theorem toInt_startIndx {length : Int32}
    (passed : length = -1 ∨ length = (UInt64.ofNat node.getNodePathname.length).toUInt32.toInt32) :
    (startIndx node.getNodePathname length).toInt = ((node.getNodePathname.length : ℤ) - 1).bmod (2 ^ 32) ∨
      0 ≤ (node.getNodePathname.length : ℤ).bmod (2 ^ 32) ∧
        (startIndx node.getNodePathname length).toInt = (node.getNodePathname.length : ℤ).bmod (2 ^ 32) := by
  rw [startIndx, strlen_getNodePathname nulFree]
  by_cases negative : length < 0
  · rw [if_pos negative]
    exact Or.inl (by simp)
  · rw [if_neg negative]
    rcases passed with rfl | rfl
    · exact absurd (by decide) negative
    · rw [Int32.lt_iff_toInt_lt] at negative
      refine Or.inr ⟨?_, by simp⟩
      simpa using negative

/-- The loop starts behind a name of at most `2 ^ 31` bytes, and inside the prefix of a longer one. -/
theorem startIndx_cases {length : Int32}
    (passed : length = -1 ∨ length = (UInt64.ofNat node.getNodePathname.length).toUInt32.toInt32) :
    node.getNodePathname.length ≤ 2 ^ 31 ∧
        (node.getNodePathname.length : ℤ) ≤ (startIndx node.getNodePathname length).toInt + 1 ∨
      2 ^ 31 < node.getNodePathname.length ∧
        ((startIndx node.getNodePathname length).toInt + 1).toNat < node.nodePathnamePrefix.length := by
  have bounds := length_getNodePathname node
  rcases toInt_startIndx nulFree passed with last | ⟨positive, behind⟩
  · rw [last, Int.bmod_def]
    split_ifs <;> omega
  · rw [behind, Int.bmod_def]
    rw [Int.bmod_def] at positive
    split_ifs at positive ⊢ <;> omega

theorem create_getNodePathname_iff {length : Int32}
    (passed : length = -1 ∨ length = (UInt64.ofNat node.getNodePathname.length).toUInt32.toInt32) :
    create (some node.getNodePathname) length = node ↔ node.getNodePathname.length ≤ 2 ^ 31 := by
  rcases startIndx_cases nulFree passed with ⟨short, behind⟩ | ⟨long, inside⟩
  · exact iff_of_true (create_getNodePathname node behind) short
  · refine iff_of_false (fun same => ?_) (not_le.mpr long)
    have cut := length_create_le node.getNodePathname length
    rw [same] at cut
    omega

end Start

/-- Both overloads give back the node a name was made from, as long as an `int32_t` can index the name; a
longer name is given back by neither. -/
theorem round_trip_iff (node : SockNode) (nulFree : 0 ∉ node.nodePathnamePrefix) :
    (createString node.getNodePathname = node ↔ node.getNodePathname.length ≤ 2 ^ 31) ∧
      (createMeasured node.getNodePathname = node ↔ node.getNodePathname.length ≤ 2 ^ 31) :=
  ⟨create_getNodePathname_iff nulFree (Or.inr rfl), create_getNodePathname_iff nulFree (Or.inl rfl)⟩

theorem round_trip_iff_negative_id :
    0 ∉ ascii "/a.1." ∧ (createString (getNodePathname ⟨-7, 0, ascii "/a.1."⟩) = ⟨-7, 0, ascii "/a.1."⟩ ∧
      createMeasured (getNodePathname ⟨-7, 0, ascii "/a.1."⟩) = ⟨-7, 0, ascii "/a.1."⟩) := by
  have nulFree : 0 ∉ ascii "/a.1." := by decide
  have both := round_trip_iff ⟨-7, 0, ascii "/a.1."⟩ nulFree
  exact ⟨nulFree, both.1.mpr (by decide), both.2.mpr (by decide)⟩

theorem replicate_lost {n : ℕ} (long : 2 ^ 31 ≤ n) : 0 ∉ List.replicate n (97 : UInt8) ∧
    createString (getNodePathname ⟨0, 0, List.replicate n 97⟩) ≠ ⟨0, 0, List.replicate n 97⟩ ∧
    createMeasured (getNodePathname ⟨0, 0, List.replicate n 97⟩) ≠ ⟨0, 0, List.replicate n 97⟩ := by
  have nulFree : 0 ∉ List.replicate n (97 : UInt8) := by
    intro member
    exact absurd (List.eq_of_mem_replicate member) (by decide)
  have bounds := (length_getNodePathname ⟨0, 0, List.replicate n 97⟩).1
  simp only [List.length_replicate] at bounds
  refine ⟨nulFree, fun same => ?_, fun same => ?_⟩
  · have short := (create_getNodePathname_iff nulFree (Or.inr rfl)).mp same
    omega
  · have short := (create_getNodePathname_iff nulFree (Or.inl rfl)).mp same
    omega

/-- A prefix of `2 ^ 31` bytes does not come back. -/
theorem long_prefix_lost : 0 ∉ List.replicate (2 ^ 31) (97 : UInt8) ∧
    createString (getNodePathname ⟨0, 0, List.replicate (2 ^ 31) 97⟩) ≠ ⟨0, 0, List.replicate (2 ^ 31) 97⟩ ∧
    createMeasured (getNodePathname ⟨0, 0, List.replicate (2 ^ 31) 97⟩) ≠ ⟨0, 0, List.replicate (2 ^ 31) 97⟩ :=
  replicate_lost le_rfl

end Cypfr.SockNode
