import Cypfr.Machine.Run
import Cypfr.Proofs.LocNmea

/-! # The groups of GSA sentences

The sentences of a call are a group under one code, which no two groups in a row have, as long as the code is below the
last one: that is taken back in the middle of its group.
-/

namespace Cypfr.LocNmea

open Machine

namespace GsaRun

/-- The sentences of a group: one code in its range and not that of the group before, numbers from one on with the
count, and the numbers of the set bits in order. -/
def WellFormed (svMeta : LocNmeaSvMeta) (sentences : List GsaSentence) (previous : Option UInt32) : Prop :=
  (∃ code : UInt32, 1 ≤ code ∧ code ≤ maxTagBlockGroupCode ∧ previous ≠ some code ∧
      sentences.map (·.tagBlock) = (List.range sentences.length).map fun k =>
        some ⟨UInt32.ofNat (1 + k), UInt32.ofNat sentences.length, code⟩) ∧
    sentences.flatMap (·.svIds) = ((List.range 64).filter svMeta.mask.toNat.testBit).map fun k =>
      UInt32.ofNat (1 + k) + svMeta.gsaOffset

/-- The last call, if it had more than twelve satellites, made a group. -/
def Right (r : GsaRun) : Prop := ∀ svMeta sentences, r.last = some (svMeta, sentences) → 12 < svMeta.used.length →
  WellFormed svMeta sentences r.previous

/-- A group is not made under the last code. -/
def MayGroup (r : GsaRun) (call : GsaCall) : Prop := grouped call = true → r.code ≠ maxTagBlockGroupCode

/-- The code is in its range and not that of the last group. -/
structure Formed (r : GsaRun) : Prop where
  least : 1 ≤ r.code
  most : r.code ≤ maxTagBlockGroupCode
  fresh : r.groupCode ≠ some r.code

section Call

variable {svMeta : LocNmeaSvMeta} {dop : String} {code : UInt32}

/-- The number of sentences of a group. -/
def sentenceCount (svMeta : LocNmeaSvMeta) : ℕ :=
  svMeta.used.length / 12 + if svMeta.used.length % 12 = 0 then 0 else 1

theorem sentenceCount_bounds (many : 12 < svMeta.used.length) :
    2 ≤ sentenceCount svMeta ∧ svMeta.used.length ≤ sentenceCount svMeta * 12 := by
  rw [sentenceCount]
  split_ifs <;> omega

theorem generate_of_many (many : 12 < svMeta.used.length) : locNmeaGenerateGSA code svMeta dop true =
    let result := gsaLoop svMeta dop true true (UInt32.ofNat (sentenceCount svMeta)) (sentenceCount svMeta) 1
      svMeta.used code
    if result.2.2 then (result.1, result.2.1 + 1, svMeta.used.length) else (result.1, result.2.1, 0) := by
  have some' : svMeta.used.length ≠ 0 := by omega
  rw [locNmeaGenerateGSA]
  simp only [some', if_false, many, decide_true, Bool.true_and, if_true]
  rfl

/-- A group under a code that is not the last. -/
theorem generate_eq (short : svMeta.talker.length ≤ 2) (many : 12 < svMeta.used.length)
    (within : code ≠ maxTagBlockGroupCode) : locNmeaGenerateGSA code svMeta dop true =
      (groupSentences svMeta dop (UInt32.ofNat (sentenceCount svMeta)) code 1 svMeta.used (sentenceCount svMeta),
        code + 1, svMeta.used.length) := by
  rw [generate_of_many many, gsaLoop_eq short within]
  rfl

/-- Under the last code only the first sentence of a group has it. -/
theorem generate_last (short : svMeta.talker.length ≤ 2) (many : 12 < svMeta.used.length) :
    locNmeaGenerateGSA maxTagBlockGroupCode svMeta dop true =
      (groupSentences svMeta dop (UInt32.ofNat (sentenceCount svMeta)) maxTagBlockGroupCode 1 svMeta.used 1 ++
        groupSentences svMeta dop (UInt32.ofNat (sentenceCount svMeta)) 1 2 (svMeta.used.drop 12)
          (sentenceCount svMeta - 1), 2, svMeta.used.length) := by
  obtain ⟨n, more⟩ := Nat.exists_eq_add_of_le' (Nat.le_of_succ_le (sentenceCount_bounds many).1)
  rw [generate_of_many many, more, gsaLoop_succ short]
  simp only [if_true, Nat.add_sub_cancel]
  rw [gsaLoop_eq short (by decide)]
  rfl

/-- A call for few satellites leaves the code. -/
theorem generate_code_of_few (few : ¬ 12 < svMeta.used.length) :
    (locNmeaGenerateGSA code svMeta dop true).2.1 = code := by
  rw [locNmeaGenerateGSA]
  simp only [few, decide_false, Bool.false_and, Bool.false_eq_true, if_false]
  split_ifs <;> first | rfl | exact gsaLoop_code _ _ _

/-- A group is well formed exactly when its code is not the last. -/
theorem wellFormed_iff (short : svMeta.talker.length ≤ 2) (many : 12 < svMeta.used.length) (least : 1 ≤ code)
    (most : code ≤ maxTagBlockGroupCode) {previous : Option UInt32} (fresh : previous ≠ some code) :
    WellFormed svMeta (locNmeaGenerateGSA code svMeta dop true).1 previous ↔ code ≠ maxTagBlockGroupCode := by
  have bounds := sentenceCount_bounds many
  constructor
  · rintro ⟨⟨one, -, -, -, same⟩, -⟩ rfl
    have each (sentence : GsaSentence)
      (member : sentence ∈ (locNmeaGenerateGSA maxTagBlockGroupCode svMeta dop true).1) :
        sentence.tagBlock.map (·.code) = some one := by
      have tag : sentence.tagBlock ∈ (locNmeaGenerateGSA maxTagBlockGroupCode svMeta dop true).1.map (·.tagBlock) :=
        List.mem_map_of_mem member
      rw [same] at tag
      obtain ⟨k, -, equal⟩ := List.mem_map.mp tag
      rw [← equal]
      rfl
    rw [generate_last short many] at each
    have last := code_eq_of_each (Nat.le_refl 1) fun sentence member => each sentence (List.mem_append_left _ member)
    have next := code_eq_of_each (Nat.le_sub_one_of_lt bounds.1) fun sentence member =>
      each sentence (List.mem_append_right _ member)
    exact absurd (last.trans next.symm) (by decide)
  · intro within
    rw [generate_eq short many within]
    refine ⟨⟨code, least, most, fresh, ?_⟩, ?_⟩
    · rw [length_groupSentences, groupSentences, List.map_map]
      apply List.map_congr_left
      intro k _
      rw [Function.comp_apply, UInt32.ofNat_add]
      rfl
    · rw [flatMap_groupSentences, List.take_of_length_le bounds.2, used_eq]

end Call

theorem grouped_iff {call : GsaCall} {svMeta : LocNmeaSvMeta}
    (made : locNmeaSvMetaInit call.info call.svType call.signalType true = some svMeta) :
    grouped call = true ↔ 12 < svMeta.used.length := by
  rw [grouped, made, Option.any_some, decide_eq_true_eq]

theorem step_of_made {r : GsaRun} {call : GsaCall} {svMeta : LocNmeaSvMeta}
    (made : locNmeaSvMetaInit call.info call.svType call.signalType true = some svMeta) :
    r.step call = ⟨(locNmeaGenerateGSA r.code svMeta call.dop true).2.1,
      some (svMeta, (locNmeaGenerateGSA r.code svMeta call.dop true).1), r.groupCode⟩ := by
  rw [step, made]

theorem step_of_none {r : GsaRun} {call : GsaCall}
    (none : locNmeaSvMetaInit call.info call.svType call.signalType true = none) :
    r.step call = { r with last := .none, previous := r.groupCode } := by
  rw [step, none]

/-- The code after a call is one more, or begins again after the last one. -/
theorem code_step (r : GsaRun) (call : GsaCall) : (r.step call).code =
    if grouped call = true then if r.code = maxTagBlockGroupCode then 2 else r.code + 1 else r.code := by
  cases made : locNmeaSvMetaInit call.info call.svType call.signalType true with
  | none =>
    have few : ¬ grouped call = true := by
      rw [grouped, made]
      exact Bool.false_ne_true
    rw [step_of_none made, if_neg few]
  | some svMeta =>
    rw [step_of_made made]
    by_cases many : 12 < svMeta.used.length
    · rw [if_pos ((grouped_iff made).mpr many)]
      split_ifs with last
      · rw [last, generate_last (talker_length made) many]
      · rw [generate_eq (talker_length made) many last]
    · rw [if_neg (mt (grouped_iff made).mp many)]
      exact generate_code_of_few many

/-- The code of the last group after a call. -/
theorem groupCode_step (r : GsaRun) (call : GsaCall) :
    (r.step call).groupCode = if grouped call = true then some r.code else r.groupCode := by
  cases made : locNmeaSvMetaInit call.info call.svType call.signalType true with
  | none =>
    have few : ¬ grouped call = true := by
      rw [grouped, made]
      exact Bool.false_ne_true
    rw [step_of_none made, if_neg few]
    rfl
  | some svMeta =>
    rw [step_of_made made, groupCode]
    by_cases many : 12 < svMeta.used.length
    · rw [if_pos ((grouped_iff made).mpr many)]
      refine (if_pos many).trans ?_
      have two := (sentenceCount_bounds many).1
      by_cases last : r.code = maxTagBlockGroupCode
      · rw [last, generate_last (talker_length made) many]
        rfl
      · rw [generate_eq (talker_length made) many last]
        exact head_groupSentences (Nat.le_of_succ_le two)
    · rw [if_neg (mt (grouped_iff made).mp many)]
      exact if_neg many

theorem Formed.start : Formed start := ⟨by decide, by decide, Option.some_ne_none _ |>.symm⟩

theorem Formed.step {r : GsaRun} (formed : Formed r) (call : GsaCall) : Formed (r.step call) := by
  by_cases many : grouped call = true
  · have code := code_step r call
    have group := groupCode_step r call
    rw [if_pos many] at code group
    by_cases last : r.code = maxTagBlockGroupCode
    · rw [if_pos last] at code
      rw [last] at group
      refine ⟨?_, ?_, ?_⟩ <;> rw [code]
      · decide
      · decide
      · rw [group]
        decide
    · rw [if_neg last] at code
      have most := UInt32.le_iff_toNat_le.mp formed.most
      have least := UInt32.le_iff_toNat_le.mp formed.least
      have different := mt UInt32.toNat_inj.mp last
      have bound : maxTagBlockGroupCode.toNat = 99999 := rfl
      have one : (1 : UInt32).toNat = 1 := rfl
      have next : (r.code + 1).toNat = r.code.toNat + 1 := by
        rw [UInt32.toNat_add, one, Nat.mod_eq_of_lt (by omega)]
      refine ⟨?_, ?_, ?_⟩ <;> rw [code]
      · rw [UInt32.le_iff_toNat_le]
        omega
      · rw [UInt32.le_iff_toNat_le]
        omega
      · rw [group, Ne, Option.some_inj, ← UInt32.toNat_inj]
        omega
  · have code := code_step r call
    have group := groupCode_step r call
    rw [if_neg many] at code group
    refine ⟨?_, ?_, ?_⟩ <;> rw [code]
    · exact formed.least
    · exact formed.most
    · rw [group]
      exact formed.fresh

/-- A call makes what it should exactly when it makes no group under the last code. -/
theorem right_step_iff {r : GsaRun} (formed : Formed r) (call : GsaCall) : Right (r.step call) ↔ MayGroup r call := by
  cases made : locNmeaSvMetaInit call.info call.svType call.signalType true with
  | none =>
    have few : ¬ grouped call = true := by
      rw [grouped, made]
      exact Bool.false_ne_true
    rw [step_of_none made]
    exact iff_of_true (fun _ _ there => absurd there.symm (Option.some_ne_none _)) fun many => absurd many few
  | some svMeta =>
    rw [step_of_made made, MayGroup, grouped_iff made]
    constructor
    · intro right many
      exact (wellFormed_iff (talker_length made) many formed.least formed.most formed.fresh).mp (right _ _ rfl many)
    · intro within svMeta' sentences there many
      cases there
      exact (wellFormed_iff (talker_length made) many formed.least formed.most formed.fresh).mpr (within many)

/-- As long as no group is made under the last code, each group has taken one code. -/
theorem code_eq_of_eachStep {calls : List GsaCall} (each : EachStep GsaRun.step MayGroup start calls) :
    (calls.foldl GsaRun.step start).code.toNat = 1 + calls.countP grouped := by
  induction calls using List.reverseRecOn with
  | nil => rfl
  | append_singleton calls call ih =>
    obtain ⟨before, last⟩ := eachStep_append_singleton.mp each
    have formed : Formed (calls.foldl GsaRun.step start) :=
      throughout_of_eachStep Formed.start (fun _ call formed _ => formed.step call) before _ List.prefix_rfl
    have most := UInt32.le_iff_toNat_le.mp formed.most
    have bound : maxTagBlockGroupCode.toNat = 99999 := rfl
    rw [List.foldl_append, List.foldl_cons, List.foldl_nil, code_step, List.countP_append, List.countP_singleton]
    by_cases many : grouped call = true
    · rw [if_pos many, if_pos many, if_neg (last many)]
      have one : (1 : UInt32).toNat = 1 := rfl
      rw [UInt32.toNat_add, one, Nat.mod_eq_of_lt (by omega), ih before]
      omega
    · rw [if_neg many, if_neg many, ih before]
      rfl

/-- No group is made under the last code exactly when there are fewer groups than codes. -/
theorem eachStep_mayGroup_iff {calls : List GsaCall} : EachStep GsaRun.step MayGroup start calls ↔
    calls.countP grouped < maxTagBlockGroupCode.toNat := by
  have bound : maxTagBlockGroupCode.toNat = 99999 := rfl
  constructor
  · intro each
    have formed : Formed (calls.foldl GsaRun.step start) :=
      throughout_of_eachStep Formed.start (fun _ call formed _ => formed.step call) each _ List.prefix_rfl
    have most := UInt32.le_iff_toNat_le.mp formed.most
    have code := code_eq_of_eachStep each
    omega
  · intro few
    induction calls using List.reverseRecOn with
    | nil => exact eachStep_nil
    | append_singleton calls call ih =>
      rw [List.countP_append, List.countP_singleton] at few
      have each := ih (Nat.lt_of_le_of_lt (Nat.le_add_right _ _) few)
      refine eachStep_append_singleton.mpr ⟨each, fun many last => ?_⟩
      have code := code_eq_of_eachStep each
      rw [last, if_pos many] at *
      omega

/-- The calls of a run make what they should exactly when no group is made under the last code. -/
theorem right_iff_mayGroup (calls : List GsaCall) :
    Throughout GsaRun.step Right start calls ↔ EachStep GsaRun.step MayGroup start calls :=
  throughout_iff_eachStep Formed.start (fun _ call formed => formed.step call)
    (fun _ _ there => absurd there.symm (Option.some_ne_none _)) fun _ call formed _ => right_step_iff formed call

/-- In every run each call with more than twelve satellites makes a group as it should exactly when there are fewer of
them than codes. -/
theorem groups_right_iff (calls : List GsaCall) :
    Throughout GsaRun.step Right start calls ↔ calls.countP grouped < maxTagBlockGroupCode.toNat := by
  rw [right_iff_mayGroup, eachStep_mayGroup_iff]

/-- A call for thirteen satellites of GPS. -/
def thirteen : GsaCall := ⟨⟨0x1FFF, 0, 0, 0, 0, 0, fun _ => 0⟩, .gps, Signal.gpsL1ca, ",,,"⟩

/-- So many such calls that the last code is taken back within its group. -/
theorem last_code_is_split : ¬ ∀ calls : List GsaCall, Throughout GsaRun.step Right start calls := by
  intro all
  have few := eachStep_mayGroup_iff.mp ((right_iff_mayGroup _).mp (all (List.replicate 99999 thirteen)))
  rw [List.countP_replicate, if_pos (by decide)] at few
  exact absurd few (by decide)

end GsaRun

end Cypfr.LocNmea
