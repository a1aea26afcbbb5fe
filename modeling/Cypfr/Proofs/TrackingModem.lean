import Cypfr.Model.TrackingModem
import Cypfr.Proofs.Tracking

/-! # What a step leaves of a run

A program of the adapter leaves its state to the run and adds to the log, to the outstanding requests and to the
reports what it emitted. An answer changes only what the log says of its request.
-/

namespace Cypfr.Tracking

variable {Client : Type} [LinearOrder Client]

/-- The request of an output. -/
def Output.asked : Output Client → Option LocApiRequest
  | .request sent _ => some sent
  | .reportResponse _ _ => none

/-- The response of an output to a client. -/
def Output.told (origin : Option (Command Client)) : Output Client → Option (Report Client)
  | .request _ _ => none
  | .reportResponse key err => some ⟨origin, key, err⟩

namespace Session

variable {s : Session Client} {origin : Option (Command Client)} (p : AdapterM Client Unit)

section Recorded

variable (outputs : List (Output Client))

theorem adapter_foldl_record : (outputs.foldl (record origin) s).adapter = s.adapter := by
  induction outputs generalizing s with
  | nil => rfl
  | cons output rest ih =>
    rw [List.foldl_cons, ih]
    cases output <;> rfl

theorem log_foldl_record :
    (outputs.foldl (record origin) s).log = s.log ++ (outputs.filterMap Output.asked).map fun request =>
    (request, none) := by
  induction outputs generalizing s with
  | nil => exact (List.append_nil _).symm
  | cons output rest ih =>
    rw [List.foldl_cons, ih]
    cases output with
    | request request response => exact List.append_assoc ..
    | reportResponse key err => rfl

/-- A request that is outstanding was so or is one of the outputs, under its number in the log. -/
theorem mem_outstanding_foldl_record {waiting : Outstanding Client}
    (member : waiting ∈ (outputs.foldl (record origin) s).outstanding) :
    waiting ∈ s.outstanding ∨ waiting.origin = origin ∧ s.log.length ≤ waiting.number ∧
      ∃ request, .request request (some waiting.response) ∈ outputs ∧
        (outputs.foldl (record origin) s).log[waiting.number]? = some (request, none) := by
  induction outputs generalizing s with
  | nil => exact .inl member
  | cons output rest ih =>
    rw [List.foldl_cons] at member ⊢
    rcases ih member with before | ⟨same, beyond, request, among, logged⟩
    · cases output with
      | reportResponse key err => exact .inl before
      | request request response =>
        rcases List.mem_append.mp before with before | added
        · exact .inl before
        · obtain ⟨response, rfl, rfl⟩ : ∃ answer, response = some answer ∧ waiting =
            ⟨s.log.length, origin, answer⟩ := by
            cases response with
            | none => cases added
            | some answer => exact ⟨answer, rfl, List.mem_singleton.mp added⟩
          refine .inr ⟨rfl, le_rfl, request, List.mem_cons_self, ?_⟩
          rw [log_foldl_record, record, List.append_assoc, List.getElem?_append_right le_rfl, Nat.sub_self]
          rfl
    · refine .inr ⟨same, le_trans ?_ beyond, request, List.mem_cons_of_mem _ among, logged⟩
      cases output with
      | request request response =>
        rw [record, List.length_append]
        exact Nat.le_add_right ..
      | reportResponse key err => exact le_rfl

theorem reports_foldl_record :
    (outputs.foldl (record origin) s).reports = s.reports ++ outputs.filterMap (Output.told origin) := by
  induction outputs generalizing s with
  | nil => exact (List.append_nil _).symm
  | cons output rest ih =>
    rw [List.foldl_cons, ih]
    cases output with
    | request request response => rfl
    | reportResponse key err => exact List.append_assoc ..

end Recorded

@[simp] theorem adapter_after : (s.after origin p).adapter = p.next s.adapter := adapter_foldl_record _

theorem log_after : (s.after origin p).log =
    s.log ++ ((p.emitted s.adapter).filterMap Output.asked).map fun request => (request, none) :=
  log_foldl_record _

theorem mem_outstanding_after {waiting : Outstanding Client} (member : waiting ∈ (s.after origin p).outstanding) :
    waiting ∈ s.outstanding ∨ waiting.origin = origin ∧ s.log.length ≤ waiting.number ∧
      ∃ request, .request request (some waiting.response) ∈ p.emitted s.adapter ∧
        (s.after origin p).log[waiting.number]? = some (request, none) :=
  mem_outstanding_foldl_record _ member

theorem reports_after :
    (s.after origin p).reports = s.reports ++ (p.emitted s.adapter).filterMap (Output.told origin) :=
  reports_foldl_record _

/-- A command is processed in one of the ways. -/
theorem step_command (s : Session Client) (command : Command Client) :
    ∃ p, Runs s.adapter command p ∧ s.step (.command command) = s.after (some command) p := by
  obtain ⟨p, runs, same⟩ := runs_proc s.adapter command
  refine ⟨p, runs, ?_⟩
  rw [step, after, after, Emit.emitted, Emit.next, same]
  rfl

end Session

end Cypfr.Tracking
