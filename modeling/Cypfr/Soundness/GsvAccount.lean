import Cypfr.Proofs.LocNmeaGsv
import Mathlib.Data.List.Nodup
import Mathlib.Data.List.Perm.Subperm

/-! # The account of GSV sentences

A satellite is counted in a class and listed under a signal. The sentences account for every satellite exactly when the
two agree for each of them.
-/

namespace Cypfr.LocNmea

/-- The sentences for a talker and a signal. -/
def sentencesOf (sentences : List GsvSentence) (talker : String) (signalId : UInt32) : List GsvSentence :=
  sentences.filter fun sentence => sentence.talker = talker ∧ sentence.signalId = signalId

/-- The satellites of the blocks of sentences, with their numbers. -/
def entriesOf (sentences : List GsvSentence) : List (GnssSv × ℕ) :=
  (sentences.flatMap (·.blocks)).map fun block => (block.sv, block.svNumber)

/-- Sentences announce as many satellites as they have blocks, are numbered and have at most four blocks each. -/
structure Announced (sentences : List GsvSentence) : Prop where
  total : ∀ sentence ∈ sentences, sentence.svCount = (sentences.flatMap (·.blocks)).length
  number : sentences.map (·.sentenceNumber) = (List.range sentences.length).map (1 + ·)
  count : ∀ sentence ∈ sentences, sentence.sentenceCount = sentences.length
  few : ∀ sentence ∈ sentences, sentence.blocks.length ≤ 4

/-- The sentences for each talker and signal are announced, and a satellite of a known type is in one block. -/
structure Accounts (svNotify : GnssSvNotification) : Prop where
  announced : ∀ talker signalId, Announced (sentencesOf (locNmeaGenerateSv svNotify) talker signalId)
  once : ∀ entry ∈ svNotify.gnssSvs.zipIdx 1, entry.1.type ≠ .unknown →
    (entriesOf (locNmeaGenerateSv svNotify)).count entry = 1

/-- A satellite has the signal of the class in which it is counted. -/
def GnssSv.AsCounted (sv : GnssSv) : Prop := ∀ counter, sv.counter = some counter → sv.signalId = some counter.signalId

namespace GnssSv

variable {sv : GnssSv} {counter : SvCounter} {info : LocSvCacheInfo}

theorem known_of_lists (listed : (counter.svMeta info).lists sv = true) : sv.type ≠ .unknown := by
  intro unknown
  have type := (lists_iff.mp listed).1
  rw [unknown] at type
  cases counter <;> cases type

/-- A satellite that has the signal of its class is listed where it is counted. -/
theorem lists_iff_counter (asCounted : sv.AsCounted) :
    (counter.svMeta info).lists sv = true ↔ sv.counter = some counter := by
  constructor
  · intro listed
    obtain ⟨own, counted⟩ := exists_counter (known_of_lists listed)
    have there : (own.svMeta info).lists sv = true := lists_iff.mpr ⟨listedAs_of_counter counted, asCounted own counted⟩
    rw [counted, eq_of_lists listed there]
  · intro counted
    exact lists_iff.mpr ⟨listedAs_of_counter counted, asCounted counter counted⟩

/-- A satellite that has another signal than its class is counted in the class without one. -/
theorem plain_of_not_asCounted (counted : sv.counter = some counter) (other : sv.signalId ≠ some counter.signalId) :
    counter.plain = true := by
  cases plain : counter.plain with
  | true => rfl
  | false => exact absurd (signalId_of_counter counted plain) other

end GnssSv

namespace SvCounter

variable {svNotify : GnssSvNotification} {counter : SvCounter}

theorem nodup_listed : (counter.listed svNotify).Nodup := by
  have numbers : ((svNotify.gnssSvs.zipIdx 1).map Prod.snd).Nodup := by
    rw [List.zipIdx_map_snd]
    exact List.nodup_range'
  exact List.Nodup.filter _ (List.Nodup.of_map _ numbers)

theorem length_listed : (counter.listed svNotify).length =
    svNotify.gnssSvs.countP (counter.svMeta svNotify.cacheInfo).lists := by
  rw [listed, LocNmeaSvMeta.listed, ← List.countP_eq_length_filter]
  conv_rhs => rw [← List.zipIdx_map_fst 1 svNotify.gnssSvs, List.countP_map]
  rfl

theorem entriesOf_sentences : entriesOf (counter.sentences svNotify) =
    (counter.listed svNotify).take (4 * gsvSentenceCount (counter.counted svNotify)) := by
  rw [entriesOf, flatMap_sentences, map_printedBlocks]

theorem mem_sentences {sentence : GsvSentence} (member : sentence ∈ counter.sentences svNotify) :
    sentence.talker = (counter.svMeta svNotify.cacheInfo).talker ∧ sentence.signalId = counter.signalId ∧
      sentence.sentenceCount = (counter.sentences svNotify).length ∧ sentence.svCount = counter.counted svNotify ∧
        sentence.blocks.length ≤ 4 := by
  have length : (counter.sentences svNotify).length = gsvSentenceCount (counter.counted svNotify) := by
    rw [sentences_eq, length_gsvSentences]
  rw [sentences_eq] at member
  obtain ⟨talker, signal, sentences, count, few⟩ := mem_gsvSentences member
  refine ⟨talker, signal.trans (signalId_svMeta counter _), sentences.trans length.symm, ?_, few⟩
  rw [count, svCount_svMeta, count_cacheInfo, counted]

/-- A list made of pieces that are empty but for one is that piece. -/
theorem flatMap_eq_of_ne {α : Type*} {f : SvCounter → List α} (others : ∀ other, other ≠ counter → f other = []) :
    all.flatMap f = f counter := by
  obtain ⟨before, after, split⟩ := List.append_of_mem (mem_all counter)
  have nodup := nodup_all
  rw [split, List.nodup_middle, List.nodup_cons, List.mem_append, not_or] at nodup
  have first : before.flatMap f = [] :=
    List.flatMap_eq_nil_iff.mpr fun other member => others other fun same => nodup.1.1 (same ▸ member)
  have last : after.flatMap f = [] :=
    List.flatMap_eq_nil_iff.mpr fun other member => others other fun same => nodup.1.2 (same ▸ member)
  rw [split, List.flatMap_append, List.flatMap_cons, first, last, List.nil_append, List.append_nil]

/-- The sentences of a counter are those for its talker and its signal. -/
theorem sentencesOf_generate : sentencesOf (locNmeaGenerateSv svNotify) (counter.svMeta svNotify.cacheInfo).talker
    counter.signalId = counter.sentences svNotify := by
  rw [locNmeaGenerateSv_eq, sentencesOf, List.filter_flatMap, flatMap_eq_of_ne]
  · rw [List.filter_eq_self]
    intro sentence member
    exact decide_eq_true ⟨(mem_sentences member).1, (mem_sentences member).2.1⟩
  · intro other different
    rw [List.filter_eq_nil_iff]
    intro sentence member key
    have both := of_decide_eq_true key
    refine different (eq_of_talker_of_signalId svNotify.cacheInfo ?_ ?_)
    · exact (mem_sentences member).1.symm.trans both.1
    · rw [signalId_svMeta, signalId_svMeta]
      exact (mem_sentences member).2.1.symm.trans both.2

/-- A talker and a signal without sentences, or those of a counter. -/
theorem sentencesOf_cases (svNotify : GnssSvNotification) (talker : String) (signalId : UInt32) :
    sentencesOf (locNmeaGenerateSv svNotify) talker signalId = [] ∨
      ∃ counter : SvCounter, sentencesOf (locNmeaGenerateSv svNotify) talker signalId = counter.sentences svNotify := by
  cases none : sentencesOf (locNmeaGenerateSv svNotify) talker signalId with
  | nil => exact Or.inl rfl
  | cons sentence rest =>
    right
    have member : sentence ∈ sentencesOf (locNmeaGenerateSv svNotify) talker signalId := none ▸ List.mem_cons_self
    obtain ⟨made, key⟩ := List.mem_filter.mp member
    rw [locNmeaGenerateSv_eq] at made
    obtain ⟨counter, -, own⟩ := List.mem_flatMap.mp made
    obtain ⟨rfl, rfl⟩ := of_decide_eq_true key
    refine ⟨counter, ?_⟩
    rw [← none, ← sentencesOf_generate, (mem_sentences own).1, (mem_sentences own).2.1]

theorem entriesOf_generate (svNotify : GnssSvNotification) :
    entriesOf (locNmeaGenerateSv svNotify) = all.flatMap fun counter => entriesOf (counter.sentences svNotify) := by
  rw [entriesOf, locNmeaGenerateSv_eq, List.flatMap_assoc, List.map_flatMap]
  rfl

/-- What is listed by the sentences is listed once. -/
theorem nodup_entriesOf_generate (svNotify : GnssSvNotification) : (entriesOf (locNmeaGenerateSv svNotify)).Nodup := by
  rw [entriesOf_generate, List.nodup_flatMap]
  constructor
  · intro counter _
    rw [entriesOf_sentences]
    exact nodup_listed.sublist (List.take_sublist ..)
  · refine nodup_all.imp fun {counter other} different => ?_
    intro entry one two
    have one : entry ∈ entriesOf (counter.sentences svNotify) := one
    have two : entry ∈ entriesOf (other.sentences svNotify) := two
    rw [entriesOf_sentences] at one two
    have listed := (mem_listed.mp (List.mem_of_mem_take one)).2
    have there := (mem_listed.mp (List.mem_of_mem_take two)).2
    exact different (GnssSv.eq_of_lists listed there)

section AsCounted

variable (asCounted : ∀ sv ∈ svNotify.gnssSvs, sv.AsCounted)
include asCounted

theorem length_listed_of_asCounted : (counter.listed svNotify).length = counter.counted svNotify := by
  rw [length_listed, counted]
  apply List.countP_congr
  intro sv member
  rw [GnssSv.lists_iff_counter (asCounted sv member), decide_eq_true_eq]

theorem entriesOf_sentences_of_asCounted (counter : SvCounter) : entriesOf (counter.sentences svNotify) =
    counter.listed svNotify := by
  rw [entriesOf_sentences]
  apply List.take_of_length_le
  rw [length_listed_of_asCounted asCounted]
  exact (le_gsvSentenceCount _).1

theorem announced_of_asCounted : Announced (counter.sentences svNotify) := by
  refine ⟨fun sentence member => ?_, ?_, fun sentence member => ?_, fun sentence member => ?_⟩
  · have blocks := congrArg List.length (entriesOf_sentences_of_asCounted asCounted counter)
    rw [entriesOf, List.length_map, length_listed_of_asCounted asCounted] at blocks
    rw [(mem_sentences member).2.2.2.1, blocks]
  · rw [sentences_eq, map_sentenceNumber_gsvSentences, length_gsvSentences]
  · exact (mem_sentences member).2.2.1
  · exact (mem_sentences member).2.2.2.2

theorem accounts_of_asCounted : Accounts svNotify := by
  constructor
  · intro talker signalId
    obtain none | ⟨counter, own⟩ := sentencesOf_cases svNotify talker signalId
    · rw [none]
      exact ⟨nofun, rfl, nofun, nofun⟩
    · rw [own]
      exact announced_of_asCounted asCounted
  · intro entry member known
    apply List.count_eq_one_of_mem (nodup_entriesOf_generate svNotify)
    obtain ⟨counter, counted⟩ := GnssSv.exists_counter known
    have own := asCounted entry.1 (List.fst_mem_of_mem_zipIdx member)
    rw [entriesOf_generate]
    refine List.mem_flatMap.mpr ⟨counter, mem_all counter, ?_⟩
    rw [entriesOf_sentences_of_asCounted asCounted]
    exact mem_listed.mpr ⟨member, (GnssSv.lists_iff_counter own).mpr counted⟩

end AsCounted

theorem exists_of_count {entry : GnssSv × ℕ} (once : (entriesOf (locNmeaGenerateSv svNotify)).count entry = 1) :
    ∃ counter : SvCounter, entry ∈ entriesOf (counter.sentences svNotify) := by
  have member : entry ∈ entriesOf (locNmeaGenerateSv svNotify) := by
    rw [← List.count_pos_iff, once]
    exact Nat.one_pos
  rw [entriesOf_generate] at member
  obtain ⟨counter, -, own⟩ := List.mem_flatMap.mp member
  exact ⟨counter, own⟩

/-- A weaker condition that one more element meets is met more often. -/
theorem countP_lt_of_imp {α : Type*} {p q : α → Bool} {l : List α} (weaker : ∀ a, p a = true → q a = true) {a : α}
    (member : a ∈ l) (new : q a = true) (old : ¬ p a = true) : l.countP p < l.countP q := by
  obtain ⟨before, after, rfl⟩ := List.append_of_mem member
  have first := List.countP_mono_left (l := before) fun a _ => weaker a
  have last := List.countP_mono_left (l := after) fun a _ => weaker a
  rw [List.countP_append, List.countP_append, List.countP_cons_of_pos new, List.countP_cons_of_neg old]
  omega

/-- When every satellite is in a block, those that are listed under a counter are in its sentences. -/
theorem entriesOf_sentences_of_accounts (accounts : Accounts svNotify) (counter : SvCounter) :
    entriesOf (counter.sentences svNotify) = counter.listed svNotify := by
  have each : ∀ entry ∈ counter.listed svNotify, entry ∈ entriesOf (counter.sentences svNotify) := by
    intro entry member
    obtain ⟨there, listed⟩ := mem_listed.mp member
    have once := accounts.once entry there (GnssSv.known_of_lists listed)
    obtain ⟨other, own⟩ := exists_of_count once
    have prefixed := own
    rw [entriesOf_sentences] at prefixed
    rwa [GnssSv.eq_of_lists listed (mem_listed.mp (List.mem_of_mem_take prefixed)).2]
  rw [entriesOf_sentences] at each ⊢
  have length := (nodup_listed.subperm each).length_le
  apply List.take_of_length_le
  rw [List.length_take] at length
  omega

/-- When the sentences account for every satellite, each has the signal of the class in which it is counted. -/
theorem asCounted_of_accounts (accounts : Accounts svNotify) : ∀ sv ∈ svNotify.gnssSvs, sv.AsCounted := by
  intro sv member counter counted
  by_contra different
  obtain ⟨i, below, place⟩ := List.getElem_of_mem member
  have entry : (sv, 1 + i) ∈ svNotify.gnssSvs.zipIdx 1 :=
    List.mk_add_mem_zipIdx_iff_getElem?.mpr (List.getElem?_eq_some_iff.mpr ⟨below, place⟩)
  have once := accounts.once _ entry (GnssSv.known_of_counter counted)
  obtain ⟨other, own⟩ := exists_of_count once
  have listed := (mem_listed.mp (entriesOf_sentences_of_accounts accounts other ▸ own)).2
  have talker := (GnssSv.lists_iff.mp listed).1
  have elsewhere : other ≠ counter := by
    rintro rfl
    exact different (GnssSv.lists_iff.mp listed).2
  have special : other.plain = false := by
    cases plain : other.plain with
    | false => rfl
    | true =>
      have type := (GnssSv.listedAs_of_counter counted).symm.trans talker
      exact absurd (eq_of_plain plain (GnssSv.plain_of_not_asCounted counted different) type.symm) elsewhere
  have more : other.counted svNotify < (other.listed svNotify).length := by
    rw [length_listed, SvCounter.counted]
    refine countP_lt_of_imp (fun sv here => ?_) member listed fun here => elsewhere ?_
    · have own := of_decide_eq_true here
      exact GnssSv.lists_iff.mpr ⟨GnssSv.listedAs_of_counter own, GnssSv.signalId_of_counter own special⟩
    · exact Option.some_inj.mp ((of_decide_eq_true here).symm.trans counted)
  have announced := accounts.announced (other.svMeta svNotify.cacheInfo).talker other.signalId
  rw [sentencesOf_generate] at announced
  obtain ⟨block, inside, -⟩ := List.mem_map.mp own
  obtain ⟨sentence, present, -⟩ := List.mem_flatMap.mp inside
  have total := announced.total sentence present
  have length := congrArg List.length (entriesOf_sentences_of_accounts accounts other)
  rw [entriesOf, List.length_map, ← total, (mem_sentences present).2.2.2.1] at length
  omega

end SvCounter

/-- The sentences of a report account for every satellite exactly when each has the signal of its class. -/
theorem accounts_iff (svNotify : GnssSvNotification) : Accounts svNotify ↔ ∀ sv ∈ svNotify.gnssSvs, sv.AsCounted :=
  ⟨SvCounter.asCounted_of_accounts, SvCounter.accounts_of_asCounted⟩

/-- A satellite of GPS with the signal L1C. -/
def l1c : GnssSvNotification := ⟨[⟨5, .gps, some 40, 30, 120, true, Signal.gpsL1c⟩], by decide⟩

/-- It is announced, but in no block. -/
theorem l1c_is_announced : ¬ ∀ svNotify, Accounts svNotify := by
  intro all
  exact absurd (SvCounter.asCounted_of_accounts (all l1c) _ List.mem_cons_self .gpsL1 (by decide)) (by decide)

end Cypfr.LocNmea
