import ChatRelay.Proofs.Tandem
import ChatRelay.Report

/-!
Two cycles side by side, over channels and handlers that give the same answers. The cycles then come to the same
result. That result tells whether the fetch failed, its reason is the gist of the rest, and none of its errors is
about a recorded condition. Two notifiers that answer the same are told the same.
-/

namespace ChatRelay

open ChatRelay.Json (Value)

namespace CycleResult

/-- The reason that the rest of a result calls for. -/
def gist (r : CycleResult) : CycleReason :=
  if r.status = .failed then .fetchFailed
  else if 0 < r.errorCount then .completedWithErrors
  else if r.fetched = 0 then .noUpdates
  else .processed

/-- An error changes the reason to what the rest of the result calls for. -/
theorem reason_addError {r : CycleResult} (h : r.reason = r.gist) (e : CycleError) :
    (r.addError e).reason = (r.addError e).gist := by
  cases hStatus : r.status with
  | ok => simp [addError, gist, isOk, hStatus]
  | failed => simp [addError, gist, isOk, hStatus, h]

/-- The result of a cycle by itself, before any recorded conditions are added. -/
structure Core (r : CycleResult) : Prop where
  reason_eq : r.reason = r.gist
  agrees : r.Agrees
  stage_ne : ∀ e ∈ r.details, e.stage ≠ .diagnostic

variable {r : CycleResult}

/-- An error from a stage of the cycle itself keeps a result of the cycle by itself. -/
theorem Core.addError (h : r.Core) {e : CycleError} (hStage : e.stage ≠ .diagnostic) : (r.addError e).Core where
  reason_eq := reason_addError h.reason_eq e
  agrees := h.agrees.addError e
  stage_ne := by
    intro other hOther
    rcases List.mem_append.1 hOther with hOld | hNew
    · exact h.stage_ne other hOld
    · rwa [List.mem_singleton.1 hNew]

/-- The other counts do not matter for it. -/
theorem Core.count (h : r.Core) (sent acked ackSkipped : Nat) :
    ({ r with sent := sent, acked := acked, ackSkipped := ackSkipped } : CycleResult).Core :=
  ⟨h.reason_eq, ⟨h.agrees.errors_eq, h.agrees.errorCount_eq⟩, h.stage_ne⟩

theorem core_failed {e : CycleError} (hStage : e.stage ≠ .diagnostic) : (failed .fetchFailed e).Core :=
  have hStart : ({ status := .failed, reason := .fetchFailed } : CycleResult).Core := ⟨rfl, ⟨rfl, rfl⟩, nofun⟩
  hStart.addError hStage

end CycleResult

namespace Cycle

open CycleResult (Core)

/-- The stages at which the processing of a message can fail. -/
def Staged : Except (CycleStage × Error) Bool → Prop
  | .ok _ => True
  | .error (stage, _) => stage ≠ .diagnostic

variable {r : CycleResult} (updateId : String)

/-- Step of a cycle: the outcome of processing a message is entered. -/
theorem core_enter (h : r.Core) {outcome : Except (CycleStage × Error) Bool} (hStaged : Staged outcome) :
    (enter r updateId outcome).Core ∧ (enter r updateId outcome).status = r.status := by
  match outcome with
  | .ok true => exact ⟨h.count _ _ _, rfl⟩
  | .ok false => exact ⟨h, rfl⟩
  | .error (stage, e) => exact ⟨h.addError hStaged, rfl⟩

/-- Step of a cycle: the outcome of its acknowledgement is entered. -/
theorem core_enterAck (h : r.Core) (answer : Except Error Unit) :
    (enterAck r updateId answer).Core ∧ (enterAck r updateId answer).status = r.status := by
  cases answer with
  | ok done => exact ⟨h.count _ _ _, rfl⟩
  | error e => exact ⟨h.addError nofun, rfl⟩

section InStep

variable {m : Type → Type} [Monad m] [LawfulMonad m] {S T : Type} {I : S → T → Prop}
  {c : Channel (StateT S m)} {d : Channel (StateT T m)} {h : Handler (StateT S m)} {k : Handler (StateT T m)}

/-- Whatever is asked for a message, both sides give the same answer and stay related. -/
structure InStep (I : S → T → Prop) (c : Channel (StateT S m)) (d : Channel (StateT T m)) (h : Handler (StateT S m))
    (k : Handler (StateT T m)) : Prop where
  handle : ∀ inbound session, Alike I (h.handle inbound session) (k.handle inbound session) fun _ => I
  send : ∀ outbound, Alike I (c.send outbound) (d.send outbound) fun _ => I
  acknowledge : ∀ id, Alike I (c.acknowledge id) (d.acknowledge id) fun _ => I

namespace InStep

variable {policy : AckPolicy}

/-- In step, both sides process a message with the same outcome. -/
theorem process (hStep : InStep I c d h k) (inbound : Inbound) :
    Alike I (process c h (.standard policy) inbound) (process d k (.standard policy) inbound)
      fun outcome s t => Staged outcome ∧ I s t := by
  have hSession : Alike I ((CycleOptions.standard policy : CycleOptions (StateT S m)).session inbound)
      ((CycleOptions.standard policy : CycleOptions (StateT T m)).session inbound) fun _ => I :=
    alike_pure fun _ _ hRelated => hRelated
  apply hSession.bind
  intro found
  cases found with
  | error e => exact alike_pure fun _ _ hRelated => ⟨nofun, hRelated⟩
  | ok session =>
      apply (hStep.handle inbound session).bind
      intro answer
      match answer with
      | .error e => exact alike_pure fun _ _ hRelated => ⟨nofun, hRelated⟩
      | .ok none => exact alike_pure fun _ _ hRelated => ⟨trivial, hRelated⟩
      | .ok (some outbound) =>
          apply (hStep.send outbound).bind
          intro sent
          cases sent with
          | error e => exact alike_pure fun _ _ hRelated => ⟨nofun, hRelated⟩
          | ok done => exact alike_pure fun _ _ hRelated => ⟨trivial, hRelated⟩

/-- Step of two cycles in step: one message leads to the same result on both sides. -/
theorem runItem (hStep : InStep I c d h k) (hCore : r.Core) (inbound : Inbound) :
    Alike I (runItem c h (.standard policy) r inbound) (runItem d k (.standard policy) r inbound)
      fun r' s t => (r'.Core ∧ r'.status = r.status) ∧ I s t := by
  apply (hStep.process inbound).bind
  intro outcome
  apply Tandem.assume
  intro hStaged
  have hEntered := core_enter inbound.updateId hCore hStaged
  have hAcked : Alike I
      (c.acknowledge inbound.updateId >>= fun answer =>
        pure (enterAck (enter r inbound.updateId outcome) inbound.updateId answer))
      (d.acknowledge inbound.updateId >>= fun answer =>
        pure (enterAck (enter r inbound.updateId outcome) inbound.updateId answer))
      fun r' s t => (r'.Core ∧ r'.status = r.status) ∧ I s t := by
    apply (hStep.acknowledge inbound.updateId).bind
    intro answer
    have hLast := core_enterAck inbound.updateId hEntered.1 answer
    exact alike_pure fun _ _ hRelated => ⟨⟨hLast.1, hLast.2.trans hEntered.2⟩, hRelated⟩
  cases outcome with
  | ok sent => exact hAcked
  | error e =>
      cases policy with
      | always => simpa [Alike, CycleOptions.standard, Except.toBool] using hAcked
      | onSuccess =>
          simpa [Alike, CycleOptions.standard, Except.toBool] using
            alike_pure fun _ _ hRelated => ⟨⟨hEntered.1.count _ _ _, hEntered.2⟩, hRelated⟩

/-- Run lemma: so do any number of messages, by induction. -/
theorem runItems (hStep : InStep I c d h k) (hCore : r.Core) (messages : List Inbound) :
    Alike I (runItems c h (.standard policy) r messages) (runItems d k (.standard policy) r messages)
      fun r' s t => (r'.Core ∧ r'.status = r.status) ∧ I s t := by
  induction messages generalizing r with
  | nil => exact alike_pure fun _ _ hRelated => ⟨⟨hCore, rfl⟩, hRelated⟩
  | cons inbound rest ih =>
      apply (hStep.runItem hCore inbound).bind
      intro r'
      apply Tandem.assume
      rintro ⟨hCore', hStatus⟩
      exact (ih hCore').imp (fun _ _ hRelated => hRelated) fun _ _ _ hEnd =>
        ⟨⟨hEnd.1.1, hEnd.1.2.trans hStatus⟩, hEnd.2⟩

end InStep

/-- What a cycle makes of the answer to its fetch. -/
structure Outcome (answer : Except Error (List Inbound)) (r : CycleResult) : Prop where
  core : r.Core
  failed_iff : r.status = .failed ↔ answer.toBool = false

/-- Two cycles that fetch the same and then go on in step come to the same result. -/
theorem alike_run {P : S → T → Prop} {policy : AckPolicy} {I : Except Error (List Inbound) → S → T → Prop}
    (hFetch : Alike P c.fetch d.fetch I) (hStep : ∀ answer, InStep (I answer) c d h k) :
    Alike P (run c h (.standard policy)) (run d k (.standard policy))
      fun r s t => ∃ answer, Outcome answer r ∧ I answer s t := by
  apply hFetch.bind
  intro answer
  match answer with
  | .error e =>
      have hFailed : (CycleResult.failed .fetchFailed (fetchError e)).status = .failed ↔
          (Except.error e : Except Error (List Inbound)).toBool = false := iff_of_true rfl rfl
      exact alike_pure fun _ _ hRelated => ⟨.error e, ⟨CycleResult.core_failed nofun, hFailed⟩, hRelated⟩
  | .ok [] =>
      exact alike_pure fun _ _ hRelated =>
        ⟨.ok [], ⟨⟨rfl, ⟨rfl, rfl⟩, nofun⟩, by simp [Except.toBool]⟩, hRelated⟩
  | .ok (inbound :: rest) =>
      have hStart : ({ status := .ok, reason := .processed, fetched := (inbound :: rest).length } : CycleResult).Core :=
        ⟨by simp [CycleResult.gist], ⟨rfl, rfl⟩, nofun⟩
      refine ((hStep (.ok (inbound :: rest))).runItems hStart (inbound :: rest)).imp (fun _ _ hRelated => hRelated)
        fun r s t hEnd => ⟨.ok (inbound :: rest), ⟨hEnd.1.1, ?_⟩, hEnd.2⟩
      rw [hEnd.1.2]
      simp [Except.toBool]

end InStep

/-- The news of a cycle that failed or had errors. -/
def newsOf (r : CycleResult) : List (String × Value) :=
  if !r.isOk || 0 < r.errorCount then [("channel cycle failure: " ++ r.reason.name, failureContext r)] else []

/-- The news of a condition that counts as an error. -/
def noticeOf (d : Diagnostic) : String × Value := (d.code.name ++ " failure: " ++ d.message, d.toJson.sorted)

section Tell

variable {m : Type → Type} [Monad m] [LawfulMonad m] {S T : Type} {n : Option (Notifier (StateT S m))}
  {n' : Option (Notifier (StateT T m))} {R : List (String × Value) → Nat → S → T → Prop}

/-- Two notifiers that answer the same. The relation can speak of the news so far and of the failures among them. -/
def TellAlike (n : Option (Notifier (StateT S m))) (n' : Option (Notifier (StateT T m)))
    (R : List (String × Value) → Nat → S → T → Prop) : Prop :=
  ∀ news failures text context, Alike (R news failures) (tell n text context) (tell n' text context)
    fun failed => R (news ++ [(text, context)]) (failures + failed)

namespace TellAlike

/-- Both notifiers hear of the cycle, or neither does. -/
theorem tellResult (h : TellAlike n n' R) (r : CycleResult) (news : List (String × Value)) (failures : Nat) :
    Alike (R news failures) (tellResult n r) (tellResult n' r)
      fun failed => R (news ++ newsOf r) (failures + failed) := by
  by_cases hNews : (!r.isOk || decide (0 < r.errorCount)) = true
  · simp only [Cycle.tellResult, newsOf, hNews, if_true]
    exact h _ _ _ _
  · simp only [Cycle.tellResult, newsOf, hNews, if_false, Bool.false_eq_true]
    exact alike_pure fun s t hRelated => by simpa using hRelated

/-- Both notifiers hear of the same conditions in the same order. -/
theorem tellAll (h : TellAlike n n' R) (notes : List Diagnostic) (news : List (String × Value)) (failures : Nat) :
    Alike (R news failures) (tellAll n notes) (tellAll n' notes)
      fun failed => R (news ++ notes.map noticeOf) (failures + failed) := by
  induction notes generalizing news failures with
  | nil => exact alike_pure fun s t hRelated => by simpa using hRelated
  | cons d rest ih =>
      apply (h news failures (noticeOf d).1 (noticeOf d).2).bind
      intro failed
      apply (ih _ _).bind
      intro later
      exact alike_pure fun s t hRelated => by simpa [Nat.add_assoc] using hRelated

end TellAlike

end Tell

end Cycle

end ChatRelay
