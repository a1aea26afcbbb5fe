import Cypfr.Proofs.SlotSwitch

/-! # Switching the active slot

`boot_ctl_set_active_slot_for_partitions` reads the device of the A partitions and the device of the B
partitions, edits the one copy and the other, and writes back the A copy before the B copy. When the two
are one device, the second write restores the A entries that the first one changed: the call succeeds,
and the A entries are what they were before it.
-/

namespace Cypfr.BootControl

open Cypfr.Gpt ByteList Journal

/-- Both slots of a partition lie on one device. -/
def Together (hal : Hal) (ptn : String) : Prop :=
  hal.devPath (ptn ++ Slot.a.suffix) = hal.devPath (ptn ++ Slot.b.suffix)

/-- A slot is read back as it should be, in both tables. -/
def Settled (hal : Hal) (s s' : Store) (slot : Slot) (ptn : String) (which : Slot) : Prop :=
  ∀ gpt : GptInstance, ∃ entry, entryOf hal s' (ptn ++ which.suffix) gpt = some entry ∧
    Wanted hal s slot ptn which entry

/-- What an accepted switch of some partitions leaves: B is settled, and A where it lies on another device. -/
structure Outcome (hal : Hal) (slot : Slot) (ptns : List String) (s s' : Store) : Prop where
  evolves : Evolves (fun ptn _ => ptn ∈ ptns) s s'
  settledB : ∀ ptn ∈ ptns, Settled hal s s' slot ptn .b
  apart : ∀ ptn ∈ ptns, ¬ Together hal ptn → Settled hal s s' slot ptn .a
  together : ∀ ptn ∈ ptns, Together hal ptn → ∀ gpt : GptInstance, ∃ entry,
    entryOf hal s (ptn ++ Slot.a.suffix) gpt = some entry ∧ entryOf hal s' (ptn ++ Slot.a.suffix) gpt = some entry

section Commit

variable {hal : Hal} {s t : Store} {slot which : Slot} {ptns : List String} {image : GptDisk} {d d₁ d' : BlockDevice}

/-- The slots that an image has switched. -/
abbrev switchedIn (ptns : List String) (which : Slot) (ptn : String) (other : Slot) : Prop := ptn ∈ ptns ∧ other = which

theorem Image.commit (held : Image hal s slot which ptns image d) (wf : d.WellFormed)
    (there : t image.devpath = some d₁) (rewritten : Rewritten d d₁) :
    (gptDiskCommit image).result t = 0 ∧ ∃ d', Retagged (switchedIn ptns which) d d' ∧
      (∀ gpt : GptInstance, d'.tables gpt.array = image.pentryArr gpt) ∧
      (gptDiskCommit image).final t = Function.update t image.devpath (some d') := by
  obtain ⟨accepted, d', rewritten', tables, final⟩ :=
    run_gptDiskCommit there rewritten.wellFormed (held.fits.rewritten wf rewritten)
  refine ⟨accepted, d', ⟨rewritten.trans rewritten', fun gpt => ?_⟩, fun gpt => (tables gpt).2, final⟩
  rw [(tables gpt).2]
  exact held.edited gpt

/-- On the device that holds an image its partitions are settled. -/
theorem Image.settled (held : Image hal s slot which ptns image d) (layout : AbLayout d)
    (there : t image.devpath = some d') (retagged : Retagged (switchedIn ptns which) d d')
    (arrays : ∀ gpt : GptInstance, d'.tables gpt.array = image.pentryArr gpt) {ptn : String} (member : ptn ∈ ptns) :
    Settled hal s t slot ptn which := by
  intro gpt
  obtain ⟨pentry, found, wanted⟩ := held.switched ptn member gpt
  refine ⟨_, entryOf_eq_some.mpr ⟨image.devpath, d', pentry, held.placed ptn member, there, ?_, rfl⟩, ?_⟩
  · exact (retagged.entryOffset_eq layout gpt _).trans found
  · rw [arrays]
    exact wanted

theorem Image.exists_entry (held : Image hal s slot which ptns image d) {ptn : String} (member : ptn ∈ ptns)
    (gpt : GptInstance) : ∃ entry, entryOf hal s (ptn ++ which.suffix) gpt = some entry := by
  obtain ⟨pentry, found, -⟩ := held.switched ptn member gpt
  exact ⟨_, entryOf_eq_some.mpr ⟨image.devpath, d, pentry, held.placed ptn member, held.here, found, rfl⟩⟩

end Commit

section Images

variable {hal : Hal} {s : Store} {slot : Slot} {ptns : List String} {imageA imageB : GptDisk} {dA dB : BlockDevice}

/-- Writing back two images, the A image first. -/
def commitBoth (imageA imageB : GptDisk) (s : Store) : Store :=
  (gptDiskCommit imageB).final ((gptDiskCommit imageA).final s)

theorem outcome_apart (layouts : s.All AbLayout) (heldA : Image hal s slot .a ptns imageA dA)
    (heldB : Image hal s slot .b ptns imageB dB) (different : imageA.devpath ≠ imageB.devpath) :
    Outcome hal slot ptns s (commitBoth imageA imageB s) := by
  have layoutA := layouts _ dA heldA.here
  have layoutB := layouts _ dB heldB.here
  obtain ⟨-, dA', retaggedA, arraysA, finalA⟩ :=
    heldA.commit layoutA.toWellFormed heldA.here (.refl layoutA.toWellFormed)
  have thereB : (gptDiskCommit imageA).final s imageB.devpath = some dB := by
    rw [finalA, Function.update_of_ne different.symm, heldB.here]
  obtain ⟨-, dB', retaggedB, arraysB, finalB⟩ :=
    heldB.commit layoutB.toWellFormed thereB (.refl layoutB.toWellFormed)
  have evolvesA := Evolves.update layouts heldA.here retaggedA
  rw [← finalA] at evolvesA
  have evolvesB := Evolves.update (evolvesA.layouts layouts) thereB retaggedB
  have hereA : commitBoth imageA imageB s imageA.devpath = some dA' := by
    rw [commitBoth, finalB, Function.update_of_ne different, finalA, Function.update_self]
  have hereB : commitBoth imageA imageB s imageB.devpath = some dB' := by
    rw [commitBoth, finalB, Function.update_self]
  refine ⟨?_, ?_, ?_, ?_⟩
  · rw [commitBoth, finalB]
    exact .trans layouts (evolvesA.mono fun ptn _ named => named.1) (evolvesB.mono fun ptn _ named => named.1)
  · intro ptn member
    exact heldB.settled layoutB hereB retaggedB arraysB member
  · intro ptn member _
    exact heldA.settled layoutA hereA retaggedA arraysA member
  · intro ptn member together
    rw [Together, heldA.placed ptn member, heldB.placed ptn member] at together
    exact absurd (Option.some.inj together) different

/-- On one device the B image overwrites the A entries with those read before the switch. -/
theorem outcome_together (layouts : s.All AbLayout) (ab : ptns ⊆ abPtnList) (heldA : Image hal s slot .a ptns imageA dA)
    (heldB : Image hal s slot .b ptns imageB dB) (same : imageA.devpath = imageB.devpath) :
    Outcome hal slot ptns s (commitBoth imageA imageB s) := by
  obtain rfl : dA = dB := Option.some.inj (heldA.here.symm.trans (same ▸ heldB.here))
  have layout := layouts _ dA heldA.here
  obtain ⟨-, dA', retaggedA, -, finalA⟩ := heldA.commit layout.toWellFormed heldA.here (.refl layout.toWellFormed)
  have there : (gptDiskCommit imageA).final s imageB.devpath = some dA' := by
    rw [finalA, same, Function.update_self]
  obtain ⟨-, dB', retaggedB, arraysB, finalB⟩ := heldB.commit layout.toWellFormed there retaggedA.rewritten
  have final : commitBoth imageA imageB s = Function.update s imageB.devpath (some dB') := by
    rw [commitBoth, finalB, finalA, same, Function.update_idem]
  have here : commitBoth imageA imageB s imageB.devpath = some dB' := by rw [final, Function.update_self]
  have evolves := Evolves.update layouts heldB.here retaggedB
  rw [← final] at evolves
  refine ⟨evolves.mono fun ptn _ named => named.1, ?_, ?_, ?_⟩
  · intro ptn member
    exact heldB.settled layout here retaggedB arraysB member
  · intro ptn member apart
    refine absurd ?_ apart
    rw [Together, heldA.placed ptn member, heldB.placed ptn member, same]
  · intro ptn member _ gpt
    obtain ⟨entry, reads⟩ := heldA.exists_entry member gpt
    have other : ¬ switchedIn ptns .b ptn .a := by
      rintro ⟨-, wrong⟩
      cases wrong
    exact ⟨entry, reads, (evolves.entryOf_eq layouts (fun _ _ named => ab named.1) (ab member) other gpt).trans reads⟩

/-- An accepted call for the partitions of a group. -/
theorem outcome_partitions {names : List String} (group : Group hal s names)
    (accepted : (setActiveSlotForPartitions hal slot names).result s = 0) :
    Outcome hal slot (pairsOf hal names) s ((setActiveSlotForPartitions hal slot names).final s) := by
  have layouts := group.layout.devices
  have ab := List.Subset.trans group.linked (linkedPtns_subset hal)
  rw [setActiveSlotForPartitions, Prog.result_bind, Prog.result_get, Prog.final_get] at accepted
  rw [setActiveSlotForPartitions, Prog.final_bind, Prog.result_get, Prog.final_get]
  cases run : names.foldlM (switchRound hal s slot) (none, none) with
  | none =>
    rw [run] at accepted
    exact absurd (show (-1 : ℤ) = 0 from accepted) (by decide)
  | some disks =>
    rcases tracks_partitions group run with ⟨none, rfl⟩ | ⟨imageA, imageB, dA, dB, rfl, heldA, heldB⟩
    · rw [none]
      exact ⟨.refl layouts, nofun, nofun, nofun⟩
    · have layoutA := layouts _ dA heldA.here
      obtain ⟨zero, -⟩ := heldA.commit layoutA.toWellFormed heldA.here (.refl layoutA.toWellFormed)
      have final : ((commitDisk (some imageA) >>= fun r => if r ≠ 0 then pure (-1) else do
          let r ← commitDisk (some imageB)
          pure (if r ≠ 0 then -1 else 0) : StoreProg ℤ)).final s = commitBoth imageA imageB s := by
        rw [Prog.final_bind, commitDisk, zero, if_neg (by decide), Prog.final_bind, Prog.final_pure]
        rfl
      simp only
      rw [final]
      rcases eq_or_ne imageA.devpath imageB.devpath with same | different
      · exact outcome_together layouts ab heldA heldB same
      · exact outcome_apart layouts heldA heldB different

end Images

section Devices

variable {hal : Hal} {s s' s'' : Store} {slot which : Slot} {ptns more : List String} {ptn : String}

/-- The partition is read back alike from two stores. -/
def SameEntries (hal : Hal) (s s' : Store) (ptn : String) : Prop :=
  ∀ (which : Slot) (gpt : GptInstance), entryOf hal s' (ptn ++ which.suffix) gpt = entryOf hal s (ptn ++ which.suffix) gpt

theorem sameEntries (evolves : Evolves (fun ptn _ => ptn ∈ ptns) s s') (layouts : s.All AbLayout)
    (ab : ptns ⊆ abPtnList)
    (listed : ptn ∈ abPtnList) (other : ptn ∉ ptns) : SameEntries hal s s' ptn :=
  fun _ gpt => evolves.entryOf_eq layouts (fun _ _ named => ab named) listed other gpt

theorem Settled.from_before (same : SameEntries hal s s' ptn) (settled : Settled hal s' s'' slot ptn which) :
    Settled hal s s'' slot ptn which := by
  intro gpt
  obtain ⟨entry, reads, ⟨source, former, formerly, states, guid⟩, active, clear⟩ := settled gpt
  exact ⟨entry, reads, ⟨source, former, (same source .primaryGpt).symm.trans formerly, states, guid⟩, active, clear⟩

theorem Settled.to_after (settled : Settled hal s s' slot ptn which) (same : SameEntries hal s' s'' ptn) :
    Settled hal s s'' slot ptn which := by
  intro gpt
  obtain ⟨entry, reads, wanted⟩ := settled gpt
  exact ⟨entry, (same which gpt).trans reads, wanted⟩

/-- Calls for different partitions, one after the other. -/
theorem Outcome.append (layouts : s.All AbLayout) (ab : ptns ++ more ⊆ abPtnList) (disjoint : List.Disjoint ptns more)
    (first : Outcome hal slot ptns s s') (second : Outcome hal slot more s' s'') :
    Outcome hal slot (ptns ++ more) s s'' := by
  obtain ⟨abFirst, abSecond⟩ := List.append_subset.mp ab
  have layouts' := first.evolves.layouts layouts
  have before (ptn : String) (member : ptn ∈ more) : SameEntries hal s s' ptn :=
    sameEntries first.evolves layouts abFirst (abSecond member) fun earlier => disjoint earlier member
  have after (ptn : String) (member : ptn ∈ ptns) : SameEntries hal s' s'' ptn :=
    sameEntries second.evolves layouts' abSecond (abFirst member) (disjoint member)
  refine ⟨?_, ?_, ?_, ?_⟩
  · exact .trans layouts (first.evolves.mono fun ptn _ member => List.mem_append_left more member)
      (second.evolves.mono fun ptn _ member => List.mem_append_right ptns member)
  · intro ptn member
    rcases List.mem_append.mp member with earlier | later
    · exact (first.settledB ptn earlier).to_after (after ptn earlier)
    · exact (second.settledB ptn later).from_before (before ptn later)
  · intro ptn member apart
    rcases List.mem_append.mp member with earlier | later
    · exact (first.apart ptn earlier apart).to_after (after ptn earlier)
    · exact (second.apart ptn later apart).from_before (before ptn later)
  · intro ptn member together gpt
    rcases List.mem_append.mp member with earlier | later
    · obtain ⟨entry, reads, reads'⟩ := first.together ptn earlier together gpt
      exact ⟨entry, reads, (after ptn earlier .a gpt).trans reads'⟩
    · obtain ⟨entry, reads, reads'⟩ := second.together ptn later together gpt
      exact ⟨entry, (before ptn later .a gpt).symm.trans reads, reads'⟩

/-- The layout for the partitions that are still to come. -/
theorem Layout.evolve (layout : Layout hal (ptns ++ more) s) (ab : ptns ++ more ⊆ abPtnList)
    (disjoint : List.Disjoint ptns more) (evolves : Evolves (fun ptn _ => ptn ∈ ptns) s s') : Layout hal more s' := by
  obtain ⟨abFirst, abSecond⟩ := List.append_subset.mp ab
  refine ⟨evolves.layouts layout.devices, ?_, ?_⟩
  · intro path d' there ptn linked which gpt pentry found
    obtain ⟨d, here, retagged⟩ := evolves.back there
    rw [retagged.entryOffset_eq (layout.devices path d here)] at found
    exact layout.placed path d here ptn linked which gpt pentry found
  · intro ptn member
    obtain ⟨current, one⟩ := layout.oneActive ptn (List.mem_append_right ptns member)
    refine ⟨current, fun which => ?_⟩
    obtain ⟨entry, reads, active⟩ := one which
    have same : SameEntries hal s s' ptn :=
      sameEntries evolves layout.devices abFirst (abSecond member) fun earlier => disjoint earlier member
    exact ⟨entry, (same which .primaryGpt).trans reads, active⟩

/-- The loop of `set_active_boot_slot` over the devices. -/
theorem outcome_switchDevices {map : List (String × List String)} (group : Group hal s (map.flatMap Prod.snd))
    (accepted : (switchDevices hal slot map).result s = 0) :
    Outcome hal slot (pairsOf hal (map.flatMap Prod.snd)) s ((switchDevices hal slot map).final s) := by
  induction map generalizing s with
  | nil => exact ⟨.refl group.layout.devices, nofun, nofun, nofun⟩
  | cons entry rest ih =>
    obtain ⟨path, names⟩ := entry
    obtain ⟨layout, linked, nodup⟩ := group
    rw [List.flatMap_cons, pairsOf_append] at layout linked ⊢
    rw [List.flatMap_cons, List.map_append, List.nodup_append'] at nodup
    have ab := List.Subset.trans linked (linkedPtns_subset hal)
    obtain ⟨linkedFirst, linkedSecond⟩ := List.append_subset.mp linked
    have disjoint : List.Disjoint (pairsOf hal names) (pairsOf hal (rest.flatMap Prod.snd)) := by
      intro ptn earlier later
      exact nodup.2.2 (List.mem_of_mem_filter earlier) (List.mem_of_mem_filter later)
    have here : Group hal s names :=
      ⟨⟨layout.devices, layout.placed, fun ptn member => layout.oneActive ptn (List.mem_append_left _ member)⟩,
        linkedFirst, nodup.1⟩
    rw [switchDevices, Prog.result_bind] at accepted
    rw [switchDevices, Prog.final_bind]
    split_ifs at accepted ⊢ with failed
    · exact absurd (show (-1 : ℤ) = 0 from accepted) (by decide)
    · have first := outcome_partitions here (not_not.mp failed)
      have second := ih ⟨layout.evolve ab disjoint first.evolves, linkedSecond, nodup.2.1⟩ accepted
      exact first.append layout.devices ab disjoint second

end Devices

section Call

variable {hal : Hal} {s : Store} {slot : Slot}

theorem mem_pairsOf_slotMap {ptn : String} : ptn ∈ pairsOf hal ((slotMap hal slot).flatMap Prod.snd) ↔
    ptn ∈ linkedPtns hal := by
  rw [pairsOf, List.mem_filter, (perm_slotMap hal slot).mem_iff, List.mem_filter, mem_linkedPtns]
  constructor
  · rintro ⟨⟨handled, -⟩, both⟩
    exact ⟨handled, both⟩
  · rintro ⟨handled, both⟩
    refine ⟨⟨handled, ?_⟩, both⟩
    rw [Hal.hasSlots, Bool.and_eq_true] at both
    rw [Env.devPath]
    split_ifs
    · cases slot with
      | a => simpa [Env.stat] using both.1
      | b => simpa [Env.stat] using both.2
    · rfl

theorem nodup_slotMap (hal : Hal) (slot : Slot) : (((slotMap hal slot).flatMap Prod.snd).map chopSuffix).Nodup := by
  have all : abPtnList.Nodup := by decide
  exact (perm_slotMap hal slot).nodup_iff.mpr ((all.filter _).filter _)

theorem group_slotMap (layout : Layout hal (linkedPtns hal) s) : Group hal s ((slotMap hal slot).flatMap Prod.snd) where
  layout := ⟨layout.devices, layout.placed, fun ptn member => layout.oneActive ptn (mem_pairsOf_slotMap.mp member)⟩
  linked _ member := mem_pairsOf_slotMap.mp member
  nodup := nodup_slotMap hal slot

/-- The platform checks of `set_active_boot_slot` pass. -/
def Admitted (hal : Hal) (slot : Slot) : Prop :=
  ¬ (hal.gvmqPlatform && (!hal.miscMessage || getNumberSlots hal < 1 ||
      getNumberSlots hal - 1 < (getCurrentSlot hal).index)) = true ∧ checkSlotSanity hal slot = true

/-- What is left to do when the entries are switched: on UFS the boot LUN. -/
def finishSwitch (hal : Hal) (slot : Slot) (r : ℤ) : StoreProg ℤ :=
  if r ≠ 0 then pure (-1)
  else if hal.isUfs then pure (if hal.setXblBootPartition slot.bootChain ≠ 0 then -1 else 0)
  else pure 0

theorem final_finishSwitch (r : ℤ) : (finishSwitch hal slot r).final s = s := by
  rw [finishSwitch]
  split_ifs <;> rfl

theorem finishSwitch_accepted {r : ℤ} (accepted : (finishSwitch hal slot r).result s = 0) : r = 0 := by
  by_contra failed
  rw [finishSwitch, if_pos failed] at accepted
  exact absurd (show (-1 : ℤ) = 0 from accepted) (by decide)

theorem setActiveBootSlot_eq (admitted : Admitted hal slot) :
    setActiveBootSlot hal slot = switchDevices hal slot (slotMap hal slot) >>= finishSwitch hal slot := by
  rw [setActiveBootSlot, if_neg admitted.1, if_neg (by simp [admitted.2])]
  rfl

theorem admitted_of_accepted (accepted : (setActiveBootSlot hal slot).result s = 0) : Admitted hal slot := by
  have failed : ¬ (-1 : ℤ) = 0 := by decide
  rw [setActiveBootSlot] at accepted
  split at accepted
  · exact absurd accepted failed
  · next platform =>
    split at accepted
    · exact absurd accepted failed
    · next sane => exact ⟨platform, by simpa using sane⟩

/-- An accepted call. -/
theorem outcome_setActiveBootSlot (layout : Layout hal (linkedPtns hal) s)
    (accepted : (setActiveBootSlot hal slot).result s = 0) :
    Outcome hal slot (pairsOf hal ((slotMap hal slot).flatMap Prod.snd)) s ((setActiveBootSlot hal slot).final s) := by
  have program := setActiveBootSlot_eq (admitted_of_accepted accepted)
  rw [program, Prog.result_bind] at accepted
  rw [program, Prog.final_bind, final_finishSwitch]
  exact outcome_switchDevices (group_slotMap layout) (finishSwitch_accepted accepted)

end Call

/-- What is asked of `set_active_boot_slot`: both slots of every handled partition are read back as they
should be, and no other entry of any device is changed. -/
structure SlotSwitched (hal : Hal) (slot : Slot) (s s' : Store) : Prop where
  entries : ∀ ptn ∈ linkedPtns hal, ∀ which : Slot, Settled hal s s' slot ptn which
  others : ∀ path d, s path = some d → ∃ d', s' path = some d' ∧ ∀ (gpt : GptInstance) (j : ℕ),
    (∀ ptn ∈ linkedPtns hal, ∀ which : Slot, entryOffset d gpt (ptn ++ which.suffix) ≠ some (entrySizeOf d * j)) →
      read (d'.tables gpt.array) (entrySizeOf d * j) (entrySizeOf d) =
        read (d.tables gpt.array) (entrySizeOf d * j) (entrySizeOf d)

/-- The A entry of a partition is active or not as it should become, bootable and not yet successful if
it is to be active, and has one type GUID in both tables. -/
def AlreadySet (hal : Hal) (s : Store) (slot : Slot) (ptn : String) : Prop :=
  ∃ former, entryOf hal s (ptn ++ Slot.a.suffix) .primaryGpt = some former ∧
    ∀ gpt entry, entryOf hal s (ptn ++ Slot.a.suffix) gpt = some entry →
      entry.1 = former.1 ∧ (HasAttr .slotActive entry ↔ slot = .a) ∧
      (slot = .a → ¬ HasAttr .unbootable entry ∧ ¬ HasAttr .bootSuccessful entry)

section Condition

variable {hal : Hal} {s s' : Store} {slot : Slot} {ptns : List String} {ptn : String}

theorem Outcome.others (outcome : Outcome hal slot ptns s s') (layouts : s.All AbLayout) {path : String}
    {d : BlockDevice} (here : s path = some d) : ∃ d', s' path = some d' ∧ ∀ (gpt : GptInstance) (j : ℕ),
      (∀ ptn ∈ ptns, ∀ which : Slot, entryOffset d gpt (ptn ++ which.suffix) ≠ some (entrySizeOf d * j)) →
        read (d'.tables gpt.array) (entrySizeOf d * j) (entrySizeOf d) =
          read (d.tables gpt.array) (entrySizeOf d * j) (entrySizeOf d) := by
  have layout := layouts path d here
  obtain ⟨d', there, retagged⟩ := outcome.evolves.device path d here
  refine ⟨d', there, fun gpt j away => (retagged.edited gpt).read_entry layout.large layout.aligned ?_⟩
  rintro ⟨ptn, which, member, found⟩
  exact away ptn member which found

/-- An A entry that stays as it is satisfies what is asked exactly when it is already set. -/
theorem settled_iff_alreadySet (one : OneActive hal s ptn)
    (stays : ∀ gpt : GptInstance, ∃ entry, entryOf hal s (ptn ++ Slot.a.suffix) gpt = some entry ∧
      entryOf hal s' (ptn ++ Slot.a.suffix) gpt = some entry) :
    Settled hal s s' slot ptn .a ↔ AlreadySet hal s slot ptn := by
  have wanted : Settled hal s s' slot ptn .a ↔
      ∀ gpt entry, entryOf hal s (ptn ++ Slot.a.suffix) gpt = some entry → Wanted hal s slot ptn .a entry := by
    constructor
    · intro settled gpt entry reads
      obtain ⟨old, reads', after⟩ := stays gpt
      obtain ⟨entry', after', wanted⟩ := settled gpt
      obtain rfl : entry = old := Option.some.inj (reads.symm.trans reads')
      obtain rfl : entry = entry' := Option.some.inj (after.symm.trans after')
      exact wanted
    · intro wanted gpt
      obtain ⟨entry, reads, after⟩ := stays gpt
      exact ⟨entry, after, wanted gpt entry reads⟩
  rw [wanted]
  obtain ⟨current, active⟩ := one
  obtain ⟨former, formerly, states⟩ := active .a
  constructor
  · intro wanted
    have same : Slot.a = current ↔ Slot.a = slot := states.symm.trans (wanted .primaryGpt former formerly).active
    refine ⟨former, formerly, fun gpt entry reads => ?_⟩
    obtain ⟨⟨source, origin, originally, origins, guid⟩, entryActive, clear⟩ := wanted gpt entry reads
    refine ⟨?_, entryActive.trans eq_comm, fun chosen => clear chosen.symm⟩
    obtain ⟨origin', originally', sourceActive⟩ := active source
    obtain rfl : origin = origin' := Option.some.inj (originally.symm.trans originally')
    have home : source = current ↔ Slot.a = current := (sourceActive.symm.trans origins).trans same.symm
    obtain rfl : source = .a := by
      revert home
      cases source <;> cases current <;> decide
    rw [guid, Option.some.inj (originally.symm.trans formerly)]
  · rintro ⟨first, firstly, set⟩ gpt entry reads
    obtain rfl : first = former := Option.some.inj (firstly.symm.trans formerly)
    obtain ⟨guid, entryActive, clear⟩ := set gpt entry reads
    refine ⟨⟨.a, first, formerly, ?_, guid⟩, entryActive.trans eq_comm, fun chosen => clear chosen.symm⟩
    exact (set .primaryGpt first formerly).2.1.trans eq_comm

/-- Where both slots lie on one device, the A entry is not changed, so what is asked must hold before. -/
theorem alreadySet_of_switched (layout : Layout hal (linkedPtns hal) s)
    (accepted : (setActiveBootSlot hal slot).result s = 0)
    (switched : SlotSwitched hal slot s ((setActiveBootSlot hal slot).final s)) (member : ptn ∈ linkedPtns hal)
    (together : Together hal ptn) : AlreadySet hal s slot ptn := by
  have outcome := outcome_setActiveBootSlot layout accepted
  have stays := outcome.together ptn (mem_pairsOf_slotMap.mpr member) together
  exact (settled_iff_alreadySet (layout.oneActive ptn member) stays).mp (switched.entries ptn member .a)

end Condition

/-- An accepted switch does what is asked exactly when, in every pair on one device, the A entry is already
set. -/
theorem slots_switched_iff (hal : Hal) (s : Store) (slot : Slot) (layout : Layout hal (linkedPtns hal) s)
    (accepted : (setActiveBootSlot hal slot).result s = 0) :
    SlotSwitched hal slot s ((setActiveBootSlot hal slot).final s) ↔
      ∀ ptn ∈ linkedPtns hal, Together hal ptn → AlreadySet hal s slot ptn := by
  have outcome := outcome_setActiveBootSlot layout accepted
  constructor
  · intro switched ptn member together
    exact alreadySet_of_switched layout accepted switched member together
  · intro set
    constructor
    · intro ptn member which
      have listed : ptn ∈ pairsOf hal ((slotMap hal slot).flatMap Prod.snd) := mem_pairsOf_slotMap.mpr member
      cases which with
      | a =>
        by_cases together : Together hal ptn
        · exact (settled_iff_alreadySet (layout.oneActive ptn member) (outcome.together ptn listed together)).mpr
            (set ptn member together)
        · exact outcome.apart ptn listed together
      | b => exact outcome.settledB ptn listed
    · intro path d here
      obtain ⟨d', there, same⟩ := outcome.others layout.devices here
      exact ⟨d', there, fun gpt j away =>
        same gpt j fun ptn member which => away ptn (mem_pairsOf_slotMap.mp member) which⟩

section Emmc

variable {hal : Hal} {s : Store} {slot : Slot}

theorem foldl_pushPartition (path : String) (names : List String) (listed : List String) :
    names.foldl (fun map name => pushPartition path name map) [(path, listed)] = [(path, listed ++ names)] := by
  induction names generalizing listed with
  | nil => rw [List.foldl_nil, List.append_nil]
  | cons name rest ih =>
    rw [List.foldl_cons, pushPartition, if_pos rfl, ih, List.append_assoc, List.singleton_append]

/-- On eMMC there is one group. -/
theorem slotMap_emmc (emmc : hal.isUfs = false) :
    slotMap hal slot = [("/dev/block/mmcblk0", (handledPtns hal).map (· ++ slot.suffix))] := by
  have every : handledPtns hal = abPtnList := by
    rw [handledPtns, emmc, List.filter_eq_self]
    exact fun _ _ => rfl
  simp only [slotMap, getPartitionMap, devPath_emmc emmc]
  rw [every, abPtnList, ptnSwapList, List.cons_append, List.map_cons, List.foldl_cons]
  exact foldl_pushPartition _ _ _

theorem Image.after {which other : Slot} {ptns : List String} {image written : GptDisk} {d d₁ : BlockDevice}
    (layouts : s.All AbLayout) (held : Image hal s slot which ptns image d)
    (held' : Image hal s slot other ptns written d₁) :
    ∃ d', (gptDiskCommit written).final s image.devpath = some d' ∧ Rewritten d d' := by
  have layout := layouts _ d₁ held'.here
  obtain ⟨-, d', retagged, -, final⟩ := held'.commit layout.toWellFormed held'.here (.refl layout.toWellFormed)
  rw [final, Function.update_apply]
  split_ifs with same
  · obtain rfl : d₁ = d := Option.some.inj (held'.here.symm.trans (same ▸ held.here))
    exact ⟨d', rfl, retagged.rewritten⟩
  · exact ⟨d, held.here, .refl (layouts _ d held.here).toWellFormed⟩

theorem accepted_partitions {names : List String} {path : Slot → String} (group : Group hal s names)
    (gathered : Gathered hal s names path) : (setActiveSlotForPartitions hal slot names).result s = 0 := by
  have layouts := group.layout.devices
  obtain ⟨disks, run⟩ := exists_partitions group gathered
  rw [setActiveSlotForPartitions, Prog.result_bind, Prog.result_get, Prog.final_get, run]
  rcases tracks_partitions group run with ⟨-, rfl⟩ | ⟨imageA, imageB, dA, dB, rfl, heldA, heldB⟩
  · rfl
  · have layoutA := layouts _ dA heldA.here
    obtain ⟨zeroA, -⟩ := heldA.commit layoutA.toWellFormed heldA.here (.refl layoutA.toWellFormed)
    obtain ⟨d', there, rewritten⟩ := heldB.after layouts heldA
    obtain ⟨zeroB, -⟩ := heldB.commit (layouts _ dB heldB.here).toWellFormed there rewritten
    simp only [commitDisk]
    rw [Prog.result_bind, zeroA, if_neg (by decide), Prog.result_bind, zeroB]
    rfl

/-- On eMMC the call succeeds when every handled partition has its entries in both tables. -/
theorem accepted_emmc (emmc : hal.isUfs = false) (admitted : Admitted hal slot)
    (layout : Layout hal (linkedPtns hal) s) {d : BlockDevice} (here : s "/dev/block/mmcblk0" = some d)
    (found : ∀ ptn ∈ linkedPtns hal, ∀ (which : Slot) (gpt : GptInstance), ∃ pentry,
      entryOffset d gpt (ptn ++ which.suffix) = some pentry) : (setActiveBootSlot hal slot).result s = 0 := by
  have group : Group hal s ((slotMap hal slot).flatMap Prod.snd) := group_slotMap layout
  have members (ptn : String) : ptn ∈ pairsOf hal ((slotMap hal slot).flatMap Prod.snd) ↔ ptn ∈ linkedPtns hal :=
    mem_pairsOf_slotMap
  rw [slotMap_emmc emmc, List.flatMap_singleton] at group members
  have gathered : Gathered hal s ((handledPtns hal).map (· ++ slot.suffix)) fun _ => "/dev/block/mmcblk0" := by
    constructor
    · intro name member
      have long : ∀ ptn ∈ abPtnList, 1 ≤ ptn.length := by decide
      obtain ⟨ptn, handled, rfl⟩ := List.mem_map.mp member
      have two : slot.suffix.length = 2 := by cases slot <;> decide
      rw [String.length_append, two]
      exact Nat.add_le_add_right (long ptn (List.mem_of_mem_filter handled)) 2
    · intro ptn member which
      exact ⟨devPath_emmc emmc _, d, here, found ptn ((members ptn).mp member) which⟩
  rw [setActiveBootSlot_eq admitted, slotMap_emmc emmc, Prog.result_bind, switchDevices, Prog.result_bind,
    accepted_partitions group gathered, if_neg (by decide), switchDevices, Prog.result_pure, finishSwitch,
    if_neg (by decide), if_neg (by simp [emmc]), Prog.result_pure]

end Emmc

/-! ## The boot pair on eMMC -/

section Boot

theorem linkedPtns_bootHal : linkedPtns bootHal = ["boot"] := by decide

theorem entryOf_bootStore (which : Slot) (gpt : GptInstance) :
    entryOf bootHal bootStore ("boot" ++ which.suffix) gpt = some (entryAt bootPair (which.index * ptnEntrySize)) := by
  refine entryOf_eq_some.mpr ⟨"/dev/block/mmcblk0", bootDisk, _, devPath_emmc rfl _, bootStore_here,
    entryOffset_bootDisk which gpt, ?_⟩
  rw [array_bootDisk]

theorem layout_bootStore : Layout bootHal (linkedPtns bootHal) bootStore := by
  refine ⟨all_bootStore abLayout_bootDisk, ?_, ?_⟩
  · intro path d here ptn linked which gpt pentry found
    rw [bootStore, Function.update_apply] at here
    split_ifs at here with same
    rw [devPath_emmc rfl, same]
  · intro ptn member
    rw [linkedPtns_bootHal, List.mem_singleton] at member
    subst member
    refine ⟨.a, fun which => ⟨_, entryOf_bootStore which .primaryGpt, ?_⟩⟩
    cases which <;> decide

theorem accepted_bootStore (slot : Slot) : (setActiveBootSlot bootHal slot).result bootStore = 0 := by
  have admitted : Admitted bootHal slot := by cases slot <;> exact ⟨by decide, by decide⟩
  refine accepted_emmc rfl admitted layout_bootStore bootStore_here ?_
  intro ptn member which gpt
  rw [linkedPtns_bootHal, List.mem_singleton] at member
  subst member
  exact ⟨_, entryOffset_bootDisk which gpt⟩

/-- Choosing slot A again, on a device where it is active. -/
theorem slots_switched_boot : (setActiveBootSlot bootHal .a).result bootStore = 0 ∧
    SlotSwitched bootHal .a bootStore ((setActiveBootSlot bootHal .a).final bootStore) := by
  refine ⟨accepted_bootStore .a, (slots_switched_iff bootHal bootStore .a layout_bootStore
    (accepted_bootStore .a)).mpr ?_⟩
  intro ptn member _
  rw [linkedPtns_bootHal, List.mem_singleton] at member
  subst member
  refine ⟨_, entryOf_bootStore .a .primaryGpt, fun gpt entry reads => ?_⟩
  obtain rfl := Option.some.inj ((entryOf_bootStore .a gpt).symm.trans reads)
  exact ⟨rfl, by decide, fun _ => by decide⟩

/-- Choosing slot B succeeds and leaves slot A active. -/
theorem both_slots_active : Layout bootHal (linkedPtns bootHal) bootStore ∧
    (setActiveBootSlot bootHal .b).result bootStore = 0 ∧
    ¬ SlotSwitched bootHal .b bootStore ((setActiveBootSlot bootHal .b).final bootStore) := by
  refine ⟨layout_bootStore, accepted_bootStore .b, fun switched => ?_⟩
  have member : "boot" ∈ linkedPtns bootHal := by rw [linkedPtns_bootHal]; exact List.mem_singleton_self _
  have together : Together bootHal "boot" := by rw [Together, devPath_emmc rfl, devPath_emmc rfl]
  obtain ⟨former, -, set⟩ := alreadySet_of_switched layout_bootStore (accepted_bootStore .b) switched member together
  have active : HasAttr .slotActive (entryAt bootPair (Slot.a.index * ptnEntrySize)) := by decide
  exact absurd ((set .primaryGpt _ (entryOf_bootStore .a .primaryGpt)).2.1.mp active) (by decide)

end Boot

end Cypfr.BootControl
