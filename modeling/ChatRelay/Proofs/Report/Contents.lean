import Mathlib.Data.List.Forall2
import ChatRelay.Proofs.Cycle.InStep
import ChatRelay.Report

/-!
What a report says. It is compiled from the result of the cycle and from the recorded conditions: drops are listed, and
each other condition becomes one error at the end. The counts, the lists and the reason stay in step throughout.
-/

namespace ChatRelay

open ChatRelay.Json (Value)

/-- The drops among some conditions. -/
def dropsOf (notes : List Diagnostic) : List Diagnostic := notes.filter fun d => d.code.isDrop

/-- The conditions that count as errors. -/
def troublesOf (notes : List Diagnostic) : List Diagnostic := notes.filter fun d => !d.code.isDrop

section Notes

variable {notes more : List Diagnostic}

/-- Drops are updates from below the floor and messages from chats that are not allowed. -/
theorem mem_dropsOf {d : Diagnostic} :
    d ∈ dropsOf notes ↔ d ∈ notes ∧ (d.code = .staleDrop ∨ d.code = .allowlistDrop) := by
  have hDrop : d.code.isDrop = true ↔ d.code = .staleDrop ∨ d.code = .allowlistDrop := by
    cases d.code <;> simp [DiagnosticCode.isDrop]
  rw [dropsOf, List.mem_filter, hDrop]

@[simp] theorem dropsOf_append : dropsOf (notes ++ more) = dropsOf notes ++ dropsOf more := List.filter_append ..

@[simp] theorem troublesOf_append : troublesOf (notes ++ more) = troublesOf notes ++ troublesOf more :=
  List.filter_append ..

@[simp] theorem dropsOf_dropsOf : dropsOf (dropsOf notes) = dropsOf notes := by
  simp [dropsOf]

@[simp] theorem dropsOf_troublesOf : dropsOf (troublesOf notes) = [] := by
  simp [dropsOf, troublesOf]

@[simp] theorem troublesOf_dropsOf : troublesOf (dropsOf notes) = [] := by
  simp [dropsOf, troublesOf]

@[simp] theorem troublesOf_troublesOf : troublesOf (troublesOf notes) = troublesOf notes := by
  simp [troublesOf]

end Notes

namespace Diagnostic

/-- Which error a recorded condition counts as: it has a stage of its own, names the update that the condition names,
and gives its text. Only trouble with the cursor file may pass by itself. -/
structure CountsAs (d : Diagnostic) (e : CycleError) : Prop where
  stage : e.stage = .diagnostic
  updateId : e.updateId = d.updateId
  message : e.message = Text.compact d.message
  retryable : e.retryable = true ↔ d.code = .cursorLoadError ∨ d.code = .cursorSaveError

/-- There is exactly one such error. -/
theorem countsAs_iff {d : Diagnostic} {e : CycleError} : d.CountsAs e ↔ d.toError = e := by
  have hRetryable : d.code.isRetryable = true ↔ d.code = .cursorLoadError ∨ d.code = .cursorSaveError := by
    cases d.code <;> simp [DiagnosticCode.isRetryable]
  constructor
  · rintro ⟨hStage, hUpdate, hMessage, hSame⟩
    cases e
    simp only at hStage hUpdate hMessage hSame
    rw [toError, hStage, hUpdate, hMessage, Bool.eq_iff_iff.2 (hRetryable.trans hSame.symm)]
  · rintro rfl
    exact ⟨rfl, rfl, rfl, hRetryable⟩

/-- The errors about conditions are determined by the conditions. -/
theorem forall₂_countsAs_iff {notes : List Diagnostic} {errors : List CycleError} :
    List.Forall₂ CountsAs notes errors ↔ errors = notes.map toError := by
  have hSame : CountsAs = fun d e => toError d = e := funext₂ fun _ _ => propext countsAs_iff
  rw [hSame, ← List.forall₂_map_left_iff (R := Eq), List.forall₂_eq_eq_eq, eq_comm]

end Diagnostic

/-- What a condition adds to a result. -/
def CycleResult.addTrouble (r : CycleResult) (d : Diagnostic) : CycleResult := r.addError d.toError

namespace CycleReport

/-- How a report follows from the result of a cycle and from the conditions. -/
structure Compiled (core : CycleResult) (notes : List Diagnostic) (report : CycleReport) : Prop where
  status : report.result.status = core.status
  fetched : report.result.fetched = core.fetched
  sent : report.result.sent = core.sent
  acked : report.result.acked = core.acked
  ackSkipped : report.result.ackSkipped = core.ackSkipped
  details : ∃ errors, report.result.details = core.details ++ errors ∧
    List.Forall₂ Diagnostic.CountsAs (troublesOf notes) errors
  agrees : report.result.Agrees
  reason : report.result.reason = report.result.gist
  dropped : report.dropped = dropsOf notes
  droppedCount : report.droppedCount = report.dropped.length

variable {core : CycleResult} {notes : List Diagnostic} {report : CycleReport}

/-- Adding conditions one by one. -/
theorem compiled_foldl (hCore : core.Core) (notes : List Diagnostic) (failures elapsed : Nat) :
    Compiled core notes
      { result := (troublesOf notes).foldl CycleResult.addTrouble core
        droppedCount := (dropsOf notes).length
        dropped := dropsOf notes
        notifyFailures := failures
        elapsed := elapsed } := by
  suffices h : ∀ (troubles : List Diagnostic) (r : CycleResult), r.reason = r.gist → r.Agrees →
      let last := troubles.foldl CycleResult.addTrouble r
      (last.status = r.status ∧ last.fetched = r.fetched ∧ last.sent = r.sent ∧ last.acked = r.acked ∧
        last.ackSkipped = r.ackSkipped) ∧
      last.details = r.details ++ troubles.map Diagnostic.toError ∧ last.Agrees ∧ last.reason = last.gist by
    obtain ⟨⟨hStatus, hFetched, hSent, hAcked, hSkipped⟩, hDetails, hAgrees, hLast⟩ :=
      h (troublesOf notes) core hCore.reason_eq hCore.agrees
    exact ⟨hStatus, hFetched, hSent, hAcked, hSkipped, ⟨_, hDetails, Diagnostic.forall₂_countsAs_iff.2 rfl⟩, hAgrees,
      hLast, rfl, rfl⟩
  intro troubles
  induction troubles with
  | nil => exact fun r hReason hAgrees => ⟨⟨rfl, rfl, rfl, rfl, rfl⟩, by simp, hAgrees, hReason⟩
  | cons d rest ih =>
      intro r hReason hAgrees
      obtain ⟨hSame, hDetails, hRest⟩ :=
        ih (r.addTrouble d) (CycleResult.reason_addError hReason d.toError) (hAgrees.addError d.toError)
      refine ⟨hSame, ?_, hRest⟩
      rw [List.foldl_cons, hDetails]
      simp [CycleResult.addTrouble, CycleResult.addError]

/-- The errors about recorded conditions are those of the troubles, one for each and in the same order. -/
theorem Compiled.diagnosed (h : Compiled core notes report) (hCore : core.Core) :
    List.Forall₂ Diagnostic.CountsAs (troublesOf notes)
      (report.result.details.filter fun e => e.stage = .diagnostic) := by
  obtain ⟨errors, hDetails, hCounts⟩ := h.details
  have hNone : (core.details.filter fun e => e.stage = .diagnostic) = [] :=
    List.filter_eq_nil_iff.2 fun e he => by simpa using hCore.stage_ne e he
  have hAll : errors.filter (fun e => e.stage = .diagnostic) = errors := by
    rw [Diagnostic.forall₂_countsAs_iff.1 hCounts]
    exact List.filter_eq_self.2 fun e he => by
      obtain ⟨d, -, rfl⟩ := List.mem_map.1 he
      rfl
  rwa [hDetails, List.filter_append, hNone, hAll, List.nil_append]

theorem field?_message (e : CycleError) : e.toJson.field? "message" = some (.string e.message) := by
  cases hId : e.updateId <;> simp [CycleError.toJson, hId] <;> rfl

/-- The members of the JSON form agree with each other: every list is as long as its count says, and the texts of the
errors are the messages of their details. -/
structure Tallied (json : Value) (texts details dropped : List Value) : Prop where
  errors : json.field? "errors" = some (.array texts)
  error_details : json.field? "error_details" = some (.array details)
  error_count : json.field? "error_count" = some (.nat texts.length)
  length_details : details.length = texts.length
  message : ∀ i : Nat, (details[i]?).bind (Value.field? "message") = texts[i]?
  dropped_updates : json.field? "dropped_updates" = some (.array dropped)
  dropped_count : json.field? "dropped_count" = some (.nat dropped.length)

/-- Every number in the JSON form is the length of the list beside it. -/
theorem tallied_toJson (hAgrees : report.result.Agrees) (hDropped : report.droppedCount = report.dropped.length) :
    Tallied report.toJson (report.result.errors.map Value.string)
      (report.result.details.map CycleError.toJson) (report.dropped.map Diagnostic.toJson) where
  errors := rfl
  error_details := rfl
  error_count := by
    rw [List.length_map, ← hAgrees.errorCount_eq]
    rfl
  length_details := by rw [List.length_map, List.length_map, hAgrees.errors_eq, List.length_map]
  message i := by
    rw [hAgrees.errors_eq, List.getElem?_map, List.getElem?_map, List.getElem?_map]
    cases report.result.details[i]? with
    | none => rfl
    | some e => exact field?_message e
  dropped_updates := rfl
  dropped_count := by
    rw [List.length_map, ← hDropped]
    rfl

end CycleReport

end ChatRelay
