import Mathlib.Data.List.Forall2
import ChatRelay.Cycle

/-!
What a cycle asks of its parties, call by call. A log stands beside the state of the monad, so that no party can see
it. The cycle is also written as a program that collects what became of each message. Its result and its calls are
read off this account, whatever the parties do, and its errors tell of the failed calls one by one.
-/

namespace ChatRelay

namespace Cycle

/-- A call to one of the parties, with what it gave. -/
inductive Step where
  | fetched (answer : Except Error (List Inbound))
  | resolved (inbound : Inbound) (answer : Except Error String)
  | handled (inbound : Inbound) (session : String) (answer : Except Error (Option Outbound))
  | sent (outbound : Outbound) (answer : Except Error Unit)
  | acknowledged (id : String) (answer : Except Error Unit)
  | drained (notes : List Diagnostic)

namespace Step

/-- A reply that was delivered. -/
def delivers : Step → Bool
  | .sent _ (.ok ()) => true
  | _ => false

/-- An acknowledgement that was accepted. -/
def settles : Step → Bool
  | .acknowledged _ (.ok ()) => true
  | _ => false

/-- A call that failed. -/
def fails : Step → Bool
  | .fetched (.error _) | .resolved _ (.error _) | .handled _ _ (.error _) | .sent _ (.error _)
  | .acknowledged _ (.error _) => true
  | _ => false

/-- An acknowledgement that failed. -/
def refuses : Step → Bool
  | .acknowledged _ (.error _) => true
  | _ => false

end Step

/-- A call that was made for an update, together with the id of the update. -/
abbrev CallFor := String × Step

/-- Which error tells of a call that failed. It names the stage and the update, says whether the failure may pass, and
its text gives the cause. -/
inductive Tells : CallFor → CycleError → Prop where
  | session (id : String) (inbound : Inbound) (cause : Error) :
      Tells (id, .resolved inbound (.error cause))
        { stage := .session
          updateId := some id
          message := Text.compact ("update " ++ id ++ ": " ++ cause.message)
          retryable := cause.isTransient }
  | handler (id : String) (inbound : Inbound) (session : String) (cause : Error) :
      Tells (id, .handled inbound session (.error cause))
        { stage := .handler
          updateId := some id
          message := Text.compact ("update " ++ id ++ ": " ++ cause.message)
          retryable := cause.isTransient }
  | send (id : String) (outbound : Outbound) (cause : Error) :
      Tells (id, .sent outbound (.error cause))
        { stage := .send
          updateId := some id
          message := Text.compact ("update " ++ id ++ ": " ++ cause.message)
          retryable := cause.isTransient }
  | ack (id : String) (acknowledged : String) (cause : Error) :
      Tells (id, .acknowledged acknowledged (.error cause))
        { stage := .ack
          updateId := some id
          message := Text.compact ("update " ++ id ++ ": ack failed: " ++ cause.message)
          retryable := cause.isTransient }

/-- How the processing of a message went. -/
inductive Course where
  | noSession (e : Error)
  | unhandled (session : String) (e : Error)
  | silent (session : String)
  | answered (session : String) (reply : Outbound) (delivery : Except Error Unit)

namespace Course

/-- The calls that the processing consists of. Each one is made because of the answers before it. -/
def steps (inbound : Inbound) : Course → List Step
  | .noSession e => [.resolved inbound (.error e)]
  | .unhandled session e => [.resolved inbound (.ok session), .handled inbound session (.error e)]
  | .silent session => [.resolved inbound (.ok session), .handled inbound session (.ok none)]
  | .answered session reply delivery =>
      [.resolved inbound (.ok session), .handled inbound session (.ok (some reply)), .sent reply delivery]

def outcome : Course → Except (CycleStage × Error) Bool
  | .noSession e => .error (.session, e)
  | .unhandled _ e => .error (.handler, e)
  | .silent _ => .ok false
  | .answered _ _ (.error e) => .error (.send, e)
  | .answered _ _ (.ok ()) => .ok true

def failed (course : Course) : Bool := !course.outcome.toBool

/-- The test that decides whether a message is left for later. -/
theorem test_iff (course : Course) (policy : AckPolicy) :
    (!course.outcome.toBool && decide (policy = .onSuccess)) = true ↔ course.failed = true ∧ policy = .onSuccess := by
  simp [failed]

end Course

/-- What became of one message under a policy: how its processing went and what its acknowledgement gave. It is not
acknowledged exactly if it failed and failures are left for later. -/
structure Handling (policy : AckPolicy) where
  inbound : Inbound
  course : Course
  ack : Option (Except Error Unit)
  ack_eq_none_iff : ack = none ↔ course.failed = true ∧ policy = .onSuccess

namespace Handling

variable {policy : AckPolicy}

/-- The calls for a message: those of its processing, and then its acknowledgement. -/
def steps (item : Handling policy) : List Step :=
  item.course.steps item.inbound ++ item.ack.toList.map (Step.acknowledged item.inbound.updateId)

/-- The calls for a message that failed, in their order. -/
def failedCalls (item : Handling policy) : List CallFor :=
  (item.steps.filter Step.fails).map (item.inbound.updateId, ·)

/-- Enter a message into the result of a cycle. -/
def enter (r : CycleResult) (item : Handling policy) : CycleResult :=
  let r := Cycle.enter r item.inbound.updateId item.course.outcome
  match item.ack with
  | none => { r with ackSkipped := r.ackSkipped + 1 }
  | some answer => enterAck r item.inbound.updateId answer

end Handling

/-- A whole cycle under a policy. -/
inductive Trace (policy : AckPolicy) where
  | refused (e : Error)
  | taken (items : List (Handling policy))

namespace Trace

variable {policy : AckPolicy}

def steps : Trace policy → List Step
  | .refused e => [.fetched (.error e)]
  | .taken items => .fetched (.ok (items.map Handling.inbound)) :: items.flatMap Handling.steps

def result : Trace policy → CycleResult
  | .refused e => .failed .fetchFailed (fetchError e)
  | .taken [] => { status := .ok, reason := .noUpdates }
  | .taken items => items.foldl Handling.enter { status := .ok, reason := .processed, fetched := items.length }

end Trace

/-- What became of some messages, in their order. -/
structure Handlings (policy : AckPolicy) (messages : List Inbound) where
  items : List (Handling policy)
  inbound_items : items.map Handling.inbound = messages

namespace Handlings

variable {policy : AckPolicy} {inbound : Inbound} {rest messages : List Inbound}

def none : Handlings policy [] := ⟨[], rfl⟩

def cons (item : { item : Handling policy // item.inbound = inbound }) (later : Handlings policy rest) :
    Handlings policy (inbound :: rest) :=
  ⟨item.val :: later.items, by rw [List.map_cons, item.property, later.inbound_items]⟩

theorem length_items (handlings : Handlings policy messages) : handlings.items.length = messages.length := by
  have h := congrArg List.length handlings.inbound_items
  rwa [List.length_map] at h

/-- The result of a cycle with at least one message. -/
theorem result_eq (handlings : Handlings policy (inbound :: rest)) :
    (Trace.taken handlings.items).result = handlings.items.foldl Handling.enter
      { status := .ok, reason := .processed, fetched := (inbound :: rest).length } := by
  rw [← handlings.length_items]
  match handlings with
  | ⟨[], hNone⟩ => cases hNone
  | ⟨_ :: _, _⟩ => rfl

end Handlings

section Record

variable {m : Type → Type} [Monad m] (channel : Channel m) (handler : Handler m) (options : CycleOptions m)

/-- Process one message and keep how it went. -/
def recordCourse (inbound : Inbound) : m Course := do
  match ← options.session inbound with
  | .error e => return .noSession e
  | .ok session =>
      match ← handler.handle inbound session with
      | .error e => return .unhandled session e
      | .ok none => return .silent session
      | .ok (some reply) => return .answered session reply (← channel.send reply)

/-- Process and acknowledge one message and keep what became of it. -/
def recordItem (inbound : Inbound) : m { item : Handling options.ackPolicy // item.inbound = inbound } := do
  let course ← recordCourse channel handler options inbound
  if h : course.failed = true ∧ options.ackPolicy = .onSuccess then
    return ⟨⟨inbound, course, none, iff_of_true rfl h⟩, rfl⟩
  else
    let answer ← channel.acknowledge inbound.updateId
    return ⟨⟨inbound, course, some answer, iff_of_false nofun h⟩, rfl⟩

def recordItems : (messages : List Inbound) → m (Handlings options.ackPolicy messages)
  | [] => return .none
  | inbound :: rest => do
      let item ← recordItem channel handler options inbound
      return .cons item (← recordItems rest)

/-- Go on after the fetch of a cycle. -/
def recordAnswer : Except Error (List Inbound) → m (Trace options.ackPolicy)
  | .error e => return .refused e
  | .ok messages => (fun handlings => .taken handlings.items) <$> recordItems channel handler options messages

/-- Run one cycle and keep what became of every message. -/
def record : m (Trace options.ackPolicy) := channel.fetch >>= recordAnswer channel handler options

variable [LawfulMonad m]

/-- Processing a message is keeping its course and reading the outcome off it. -/
theorem process_eq_map (inbound : Inbound) :
    process channel handler options inbound = Course.outcome <$> recordCourse channel handler options inbound := by
  simp only [process, recordCourse, map_bind]
  refine bind_congr fun found => ?_
  cases found with
  | error e => simp [Course.outcome]
  | ok session =>
      simp only [map_bind]
      refine bind_congr fun answer => ?_
      cases answer with
      | error e => simp [Course.outcome]
      | ok reply =>
          cases reply with
          | none => simp [Course.outcome]
          | some reply =>
              simp only [map_bind]
              refine bind_congr fun delivery => ?_
              cases delivery with
              | error e => simp [Course.outcome]
              | ok done => simp [Course.outcome]

/-- Running a message is keeping what became of it and entering that into the result. -/
theorem runItem_eq_map (r : CycleResult) (inbound : Inbound) :
    runItem channel handler options r inbound =
      (fun item => item.val.enter r) <$> recordItem channel handler options inbound := by
  simp only [runItem, process_eq_map, recordItem, bind_map_left, map_bind]
  refine bind_congr fun course => ?_
  by_cases hLeft : course.failed = true ∧ options.ackPolicy = .onSuccess
  · rw [dif_pos hLeft, if_pos ((course.test_iff _).mpr hLeft)]
    simp [Handling.enter]
  · rw [dif_neg hLeft, if_neg (mt (course.test_iff _).mp hLeft)]
    simp [Handling.enter]

/-- So it is for any number of messages, by induction. -/
theorem runItems_eq_map (r : CycleResult) (messages : List Inbound) :
    runItems channel handler options r messages =
      (fun handlings => handlings.items.foldl Handling.enter r) <$> recordItems channel handler options messages := by
  induction messages generalizing r with
  | nil => simp [runItems, recordItems, Handlings.none]
  | cons inbound rest ih =>
      simp [runItems, recordItems, runItem_eq_map, ih, Handlings.cons]

/-- The result of a cycle is read off what became of its messages. -/
theorem run_eq_map : run channel handler options = Trace.result <$> record channel handler options := by
  simp only [run, record, map_bind]
  refine bind_congr fun answer => ?_
  match answer with
  | .error e => simp [recordAnswer, Trace.result]
  | .ok [] => simp [recordAnswer, recordItems, Handlings.none, Trace.result]
  | .ok (inbound :: rest) =>
      simp only [recordAnswer, runItems_eq_map, Functor.map_map]
      refine congrArg (· <$> _) (funext fun handlings => ?_)
      exact handlings.result_eq.symm

end Record

section Logged

variable {m : Type → Type} [Monad m] {α : Type}

/-- Make a call and write it down with its answer. -/
def logCall (step : α → Step) (call : m α) : StateT (List Step) m α := fun log => do
  let answer ← call
  return (answer, log ++ [step answer])

end Logged

end Cycle

section Logged

variable {m : Type → Type} [Monad m]

/-- The same channel, with a log of the calls to it. -/
def Channel.logged (channel : Channel m) : Channel (StateT (List Cycle.Step) m) where
  fetch := Cycle.logCall .fetched channel.fetch
  send outbound := Cycle.logCall (.sent outbound) (channel.send outbound)
  acknowledge id := Cycle.logCall (.acknowledged id) (channel.acknowledge id)
  drain := Cycle.logCall .drained channel.drain

/-- The same handler, with a log of the calls to it. -/
def Handler.logged (handler : Handler m) : Handler (StateT (List Cycle.Step) m) where
  handle inbound session := Cycle.logCall (.handled inbound session) (handler.handle inbound session)
  drain := Cycle.logCall .drained handler.drain

/-- The same rules, with a log of the sessions that were asked for. -/
def CycleOptions.logged (options : CycleOptions m) : CycleOptions (StateT (List Cycle.Step) m) where
  ackPolicy := options.ackPolicy
  session inbound := Cycle.logCall (.resolved inbound) (options.session inbound)

end Logged

namespace Cycle

section Logged

variable {m : Type → Type} [Monad m] [LawfulMonad m] {α : Type} (channel : Channel m) (handler : Handler m)
  (options : CycleOptions m) (log : List Step)

@[simp] theorem run_logCall (step : α → Step) (call : m α) :
    (logCall step call).run log = (fun answer => (answer, log ++ [step answer])) <$> call := by
  simp [logCall, StateT.run]

/-- With the calls written down, the log of a message is the list of calls of its course. -/
theorem process_logged (inbound : Inbound) :
    (process channel.logged handler.logged options.logged inbound).run log =
      (fun course => (course.outcome, log ++ course.steps inbound)) <$>
        recordCourse channel handler options inbound := by
  simp only [process, recordCourse, CycleOptions.logged, StateT.run_bind, run_logCall, bind_map_left, map_bind]
  refine bind_congr fun found => ?_
  cases found with
  | error e => simp [Course.outcome, Course.steps]
  | ok session =>
      simp only [Handler.logged, StateT.run_bind, run_logCall, bind_map_left, map_bind]
      refine bind_congr fun answer => ?_
      cases answer with
      | error e => simp [Course.outcome, Course.steps]
      | ok reply =>
          cases reply with
          | none => simp [Course.outcome, Course.steps]
          | some reply =>
              simp only [Channel.logged, StateT.run_bind, run_logCall, bind_map_left, map_bind]
              refine bind_congr fun delivery => ?_
              cases delivery with
              | error e => simp [Course.outcome, Course.steps]
              | ok done => simp [Course.outcome, Course.steps]

/-- Step of the log: one message with its acknowledgement. -/
theorem runItem_logged (r : CycleResult) (inbound : Inbound) :
    (runItem channel.logged handler.logged options.logged r inbound).run log =
      (fun item => (item.val.enter r, log ++ item.val.steps)) <$> recordItem channel handler options inbound := by
  simp only [runItem, StateT.run_bind, process_logged, recordItem, bind_map_left, map_bind]
  refine bind_congr fun course => ?_
  by_cases hLeft : course.failed = true ∧ options.ackPolicy = .onSuccess
  · rw [dif_pos hLeft, if_pos ((course.test_iff options.logged.ackPolicy).mpr hLeft)]
    simp [Handling.enter, Handling.steps]
  · rw [dif_neg hLeft, if_neg (mt (course.test_iff options.logged.ackPolicy).mp hLeft)]
    simp [Handling.enter, Handling.steps, Channel.logged]

/-- Run lemma of the log: any number of messages, by induction. -/
theorem runItems_logged (r : CycleResult) (messages : List Inbound) :
    (runItems channel.logged handler.logged options.logged r messages).run log =
      (fun handlings => (handlings.items.foldl Handling.enter r, log ++ handlings.items.flatMap Handling.steps)) <$>
        recordItems channel handler options messages := by
  induction messages generalizing r log with
  | nil => simp [runItems, recordItems, Handlings.none]
  | cons inbound rest ih =>
      simp [runItems, recordItems, runItem_logged, ih, Handlings.cons]

/-- So is the log of its calls. -/
theorem run_logged :
    (run channel.logged handler.logged options.logged).run log =
      (fun trace => (trace.result, log ++ trace.steps)) <$> record channel handler options := by
  simp only [run, record, Channel.logged, StateT.run_bind, run_logCall, bind_map_left, map_bind]
  refine bind_congr fun answer => ?_
  match answer with
  | .error e => simp [recordAnswer, Trace.result, Trace.steps]
  | .ok [] => simp [recordAnswer, recordItems, Handlings.none, Trace.result, Trace.steps]
  | .ok (inbound :: rest) =>
      have hItems := runItems_logged channel handler options (log ++ [.fetched (.ok (inbound :: rest))])
        { status := .ok, reason := .processed, fetched := (inbound :: rest).length } (inbound :: rest)
      simp only [Channel.logged] at hItems
      simp only [recordAnswer, hItems, Functor.map_map]
      refine congrArg (· <$> _) (funext fun handlings => ?_)
      rw [handlings.result_eq, Trace.steps, handlings.inbound_items]
      simp

end Logged

section Tally

/-- How a result grows by some calls, by the failed ones among them, and by a number of messages that are left. -/
structure Grown (r : CycleResult) (calls : List Step) (failures : List CallFor) (left : Nat)
    (r' : CycleResult) : Prop where
  status : r'.status = r.status
  fetched : r'.fetched = r.fetched
  sent : r'.sent = r.sent + calls.countP Step.delivers
  acked : r'.acked = r.acked + calls.countP Step.settles
  ackSkipped : r'.ackSkipped = r.ackSkipped + left
  details : ∃ more, r'.details = r.details ++ more ∧ List.Forall₂ Tells failures more
  agrees : r.Agrees → r'.Agrees
  reason : r.status = .ok → r'.reason = if failures.isEmpty then r.reason else .completedWithErrors

variable {r r' r'' : CycleResult} {calls calls' : List Step} {failures failures' : List CallFor}
  {left left' : Nat}

/-- Calls without a failure, as far as the counts go. -/
theorem grown_count (calls : List Step) (r : CycleResult) (left : Nat) :
    Grown r calls [] left
      { r with
        sent := r.sent + calls.countP Step.delivers
        acked := r.acked + calls.countP Step.settles
        ackSkipped := r.ackSkipped + left } where
  status := rfl
  fetched := rfl
  sent := rfl
  acked := rfl
  ackSkipped := rfl
  details := ⟨[], (List.append_nil _).symm, .nil⟩
  agrees h := ⟨h.errors_eq, h.errorCount_eq⟩
  reason _ := rfl

/-- What happens one after the other adds up, and the errors keep the order of the calls. -/
theorem Grown.append (h : Grown r calls failures left r') (h' : Grown r' calls' failures' left' r'') :
    Grown r (calls ++ calls') (failures ++ failures') (left + left') r'' where
  status := h'.status.trans h.status
  fetched := h'.fetched.trans h.fetched
  sent := by rw [h'.sent, h.sent, List.countP_append, Nat.add_assoc]
  acked := by rw [h'.acked, h.acked, List.countP_append, Nat.add_assoc]
  ackSkipped := by rw [h'.ackSkipped, h.ackSkipped, Nat.add_assoc]
  details := by
    obtain ⟨more, hMore, hTells⟩ := h.details
    obtain ⟨more', hMore', hTells'⟩ := h'.details
    exact ⟨more ++ more', by rw [hMore', hMore, List.append_assoc], List.rel_append hTells hTells'⟩
  agrees hAgrees := h'.agrees (h.agrees hAgrees)
  reason := by
    intro hOk
    rw [h'.reason (h.status.trans hOk), h.reason hOk]
    cases failures with
    | nil => rfl
    | cons e rest => simp

/-- From a result without errors on, one error is counted for each failed call. -/
theorem Grown.errorCount_eq (h : Grown r calls failures left r') (hAgrees : r.Agrees) (hNone : r.details = []) :
    r'.errorCount = failures.length := by
  obtain ⟨more, hMore, hTells⟩ := h.details
  have hAfter := h.agrees hAgrees
  rw [hAfter.errorCount_eq, hAfter.errors_eq, hMore, hNone, List.nil_append, List.length_map, hTells.length_eq]

/-- Calls of which the last one failed, and the error that tells of it. -/
theorem grown_addError (r : CycleResult) {failure : CallFor} {e : CycleError} (hTells : Tells failure e)
    (hSent : calls.countP Step.delivers = 0) (hAcked : calls.countP Step.settles = 0) :
    Grown r calls [failure] 0 (r.addError e) where
  status := rfl
  fetched := rfl
  sent := by rw [hSent]; rfl
  acked := by rw [hAcked]; rfl
  ackSkipped := rfl
  details := ⟨[e], rfl, .cons hTells .nil⟩
  agrees h := h.addError e
  reason hOk := by simp [CycleResult.addError, CycleResult.isOk, hOk]

/-- The calls for processing a message, whatever course it takes. -/
theorem Course.grown (course : Course) (inbound : Inbound) (r : CycleResult) :
    Grown r (course.steps inbound) (((course.steps inbound).filter Step.fails).map (inbound.updateId, ·)) 0
      (Cycle.enter r inbound.updateId course.outcome) := by
  match course with
  | .noSession e => exact grown_addError r (.session ..) rfl rfl
  | .unhandled session e => exact grown_addError r (.handler ..) rfl rfl
  | .silent session => exact grown_count _ r 0
  | .answered session reply (.error e) => exact grown_addError r (.send ..) rfl rfl
  | .answered session reply (.ok ()) => exact grown_count _ r 0

/-- The acknowledgement of a message, whatever it gives. -/
theorem grown_enterAck (id : String) (answer : Except Error Unit) (r : CycleResult) :
    Grown r [.acknowledged id answer] (([Step.acknowledged id answer].filter Step.fails).map (id, ·)) 0
      (enterAck r id answer) := by
  match answer with
  | .ok () => exact grown_count _ r 0
  | .error e => exact grown_addError r (.ack ..) rfl rfl

namespace Handling

variable {policy : AckPolicy}

/-- One message grows the result by its calls, and by its own failures alone. -/
theorem grown (item : Handling policy) (r : CycleResult) :
    Grown r item.steps item.failedCalls (if item.ack.isNone then 1 else 0) (item.enter r) := by
  have hCourse := item.course.grown item.inbound r
  cases hAck : item.ack with
  | none => simpa [failedCalls, steps, enter, hAck] using hCourse.append (grown_count [] _ 1)
  | some answer =>
      simpa [failedCalls, steps, enter, hAck] using hCourse.append (grown_enterAck item.inbound.updateId answer _)

/-- So do any number of messages, one after the other. -/
theorem grown_foldl (items : List (Handling policy)) (r : CycleResult) :
    Grown r (items.flatMap steps) (items.flatMap failedCalls) (items.countP fun item => item.ack.isNone)
      (items.foldl enter r) := by
  induction items generalizing r with
  | nil => exact grown_count _ r 0
  | cons item rest ih =>
      rw [List.flatMap_cons, List.flatMap_cons, List.countP_cons, Nat.add_comm]
      exact (item.grown r).append (ih (item.enter r))

/-- A message is acknowledged, or left, or its acknowledgement fails. -/
theorem balance (item : Handling policy) :
    item.steps.countP Step.settles + (if item.ack.isNone then 1 else 0) +
      item.failedCalls.countP (fun failure => failure.2.refuses) = 1 := by
  have hCourse : (item.course.steps item.inbound).countP Step.settles = 0 ∧
      (item.course.steps item.inbound).countP (fun step => step.refuses && step.fails) = 0 := by
    match item.course with
    | .noSession e => exact ⟨rfl, rfl⟩
    | .unhandled session e => exact ⟨rfl, rfl⟩
    | .silent session => exact ⟨rfl, rfl⟩
    | .answered session reply (.ok ()) => exact ⟨rfl, rfl⟩
    | .answered session reply (.error e) => exact ⟨rfl, rfl⟩
  simp only [failedCalls, steps, List.countP_map, Function.comp_def, List.countP_filter, List.countP_append, hCourse]
  match item.ack with
  | none => rfl
  | some (.ok ()) => rfl
  | some (.error e) => rfl

/-- So it is for all messages together. -/
theorem balance_all (items : List (Handling policy)) :
    (items.flatMap steps).countP Step.settles + (items.countP fun item => item.ack.isNone) +
      (items.flatMap failedCalls).countP (fun failure => failure.2.refuses) = items.length := by
  induction items with
  | nil => rfl
  | cons item rest ih =>
      have hItem := item.balance
      simp only [List.flatMap_cons, List.countP_append, List.countP_cons, List.length_cons]
      omega

end Handling

/-- The errors of the last stage are those of the acknowledgements that failed. -/
theorem countP_ack {errors : List CycleError} (h : List.Forall₂ Tells failures errors) :
    errors.countP (fun e => e.stage = .ack) = failures.countP fun failure => failure.2.refuses := by
  induction h with
  | nil => rfl
  | cons hTells _ ih =>
      rw [List.countP_cons, List.countP_cons, ih]
      cases hTells <;> rfl

/-- What the result of a cycle says about its messages. -/
structure Tally {policy : AckPolicy} (items : List (Handling policy)) (r : CycleResult) : Prop where
  status : r.status = .ok
  reason : r.reason = if items.isEmpty then .noUpdates else if r.errorCount = 0 then .processed else
    .completedWithErrors
  fetched : r.fetched = items.length
  sent : r.sent = (items.flatMap Handling.steps).countP Step.delivers
  acked : r.acked = (items.flatMap Handling.steps).countP Step.settles
  ackSkipped : r.ackSkipped =
    if policy = .onSuccess then items.countP fun item => item.course.failed else 0
  balance : r.acked + r.ackSkipped + r.details.countP (fun e => e.stage = .ack) = r.fetched
  details : List.Forall₂ Tells (items.flatMap Handling.failedCalls) r.details
  agrees : r.Agrees

variable {policy : AckPolicy}

/-- The messages that are left are the failed ones, or none at all. -/
theorem Handling.countP_left (items : List (Handling policy)) :
    (items.countP fun item => item.ack.isNone) =
      if policy = .onSuccess then items.countP fun item => item.course.failed else 0 := by
  split
  case isTrue hLater =>
    refine List.countP_congr fun item _ => ?_
    simp [item.ack_eq_none_iff, hLater]
  case isFalse hNow =>
    simp only [List.countP_eq_zero, Option.isNone_iff_eq_none]
    exact fun item _ hNone => hNow (item.ack_eq_none_iff.mp hNone).2

theorem Trace.result_taken (items : List (Handling policy)) :
    (Trace.taken items).result = items.foldl Handling.enter
      { status := .ok, reason := if items.isEmpty then .noUpdates else .processed, fetched := items.length } := by
  cases items with
  | nil => rfl
  | cons item rest => rfl

/-- The result of a cycle whose fetch gave messages is the tally of what became of them. -/
theorem Trace.tally (items : List (Handling policy)) : Tally items (Trace.taken items).result := by
  rw [Trace.result_taken]
  have h := Handling.grown_foldl items
    { status := .ok, reason := if items.isEmpty then .noUpdates else .processed, fetched := items.length }
  obtain ⟨errors, hDetails, hTells⟩ := h.details
  have hSent := h.sent
  have hAcked := h.acked
  have hSkipped := h.ackSkipped
  simp only [Nat.zero_add, List.nil_append] at hSent hAcked hSkipped hDetails
  have hAgrees := h.agrees ⟨rfl, rfl⟩
  constructor
  case status => exact h.status
  case reason =>
    rw [h.reason rfl, h.errorCount_eq ⟨rfl, rfl⟩ rfl]
    simp only [List.length_eq_zero_iff, List.isEmpty_iff]
    cases items with
    | nil => rfl
    | cons item rest => rfl
  case fetched => exact h.fetched
  case sent => exact hSent
  case acked => exact hAcked
  case ackSkipped => exact hSkipped.trans (Handling.countP_left items)
  case balance =>
    rw [hAcked, hSkipped, hDetails, countP_ack hTells, h.fetched]
    exact Handling.balance_all items
  case details => rwa [hDetails]
  case agrees => exact hAgrees

end Tally

section Run

variable {σ : Type} (channel : Channel (StateM σ)) (handler : Handler (StateM σ)) (options : CycleOptions (StateM σ))

/-- **A cycle treats its messages one by one.** Whatever the parties answer, and whatever they remember, a cycle
fetches once. After a failed fetch there is no other call, and the one error tells of it. Otherwise the messages are
taken in their order, each one exactly once: its session, the handler, the reply and the acknowledgement, as far as its
own answers lead. So the calls for a message do not depend on what became of another. The result counts these calls,
and its errors tell of the failed ones, in the same order and with the stage, the update and the nature of each failure.
Writing the calls down changes nothing. -/
theorem run_one_by_one (w : σ) :
    ∃ r calls w', (run channel.logged handler.logged options.logged).run [] w = ((r, calls), w') ∧
      run channel handler options w = (r, w') ∧
      match (channel.fetch w).1 with
      | .error e =>
          calls = [.fetched (.error e)] ∧
            r = { status := .failed
                  reason := .fetchFailed
                  errorCount := 1
                  errors := [Text.compact e.message]
                  details :=
                    [{ stage := .fetch
                       updateId := none
                       message := Text.compact e.message
                       retryable := e.isTransient }] }
      | .ok messages => ∃ items : List (Handling options.ackPolicy),
          items.map Handling.inbound = messages ∧
            calls = .fetched (.ok messages) :: items.flatMap Handling.steps ∧ Tally items r := by
  have hLogged := congrFun (run_logged channel handler options []) w
  have hPlain := congrFun (run_eq_map channel handler options) w
  -- both runs are read off the same account
  obtain ⟨kept, hKept⟩ : ∃ kept, record channel handler options w = kept := ⟨_, rfl⟩
  refine ⟨kept.1.result, kept.1.steps, kept.2, hKept ▸ hLogged, hKept ▸ hPlain, ?_⟩
  change recordAnswer channel handler options (channel.fetch w).1 (channel.fetch w).2 = kept at hKept
  cases hAnswer : (channel.fetch w).1 with
  | error e =>
      rw [hAnswer] at hKept
      exact hKept ▸ ⟨rfl, rfl⟩
  | ok messages =>
      rw [hAnswer] at hKept
      let handlings := (recordItems channel handler options messages (channel.fetch w).2).1
      have hTrace : kept.1 = .taken handlings.items := hKept ▸ rfl
      rw [hTrace, Trace.steps, handlings.inbound_items]
      exact ⟨handlings.items, handlings.inbound_items, rfl, Trace.tally handlings.items⟩

/-- A channel with five messages. It counts the replies, cannot send the first one, and refuses to acknowledge one of
the messages. -/
def fiveMessages : Channel (StateM Nat) where
  fetch := pure <| .ok <| [("11", "lost"), ("12", "odd"), ("13", "hello"), ("14", "hello"), ("15", "quiet")].filterMap
    fun message => (Inbound.make message.1 "7" "5" message.2).toOption
  send _ := fun sent => (if sent = 0 then .error (.external "line  down") else .ok (), sent + 1)
  acknowledge id := pure (if id = "14" then .error (.contract (.other "too late")) else .ok ())
  drain := pure []

/-- A handler that fails on one text, has nothing to say to another and repeats the rest. -/
def choosy : Handler (StateM Nat) where
  handle inbound _ := pure <|
    if inbound.text = "odd" then .error (.json "no\nsense")
    else if inbound.text = "quiet" then .ok none
    else (Outbound.make inbound.chatId inbound.text).map some
  drain := pure []

/-- Failures are left for later, and one text has no session. -/
def choosyRules : CycleOptions (StateM Nat) where
  ackPolicy := .onSuccess
  session inbound := pure (if inbound.text = "lost" then .error (.io "no session") else .ok inbound.chatId)

/-- One message fails at each stage, and the last one is settled without a reply. Of the fourteen calls four fail. -/
theorem run_one_by_one_in_fiveMessages :
    ∃ (r : CycleResult) (calls : List Step) (items : List (Handling choosyRules.ackPolicy)),
      run fiveMessages choosy choosyRules 0 = (r, 2) ∧
      calls = .fetched (.ok (items.map Handling.inbound)) :: items.flatMap Handling.steps ∧
      calls.length = 14 ∧ calls.countP Step.fails = 4 ∧ Tally items r ∧
      r = { status := .ok
            reason := .completedWithErrors
            fetched := 5
            sent := 1
            acked := 1
            ackSkipped := 3
            errorCount := 4
            errors :=
              [ "update 11: i/o error: no session", "update 12: json error: no sense",
                "update 13: external error: line down", "update 14: ack failed: contract violation: too late" ]
            details :=
              [ ⟨.session, some "11", "update 11: i/o error: no session", true⟩,
                ⟨.handler, some "12", "update 12: json error: no sense", false⟩,
                ⟨.send, some "13", "update 13: external error: line down", true⟩,
                ⟨.ack, some "14", "update 14: ack failed: contract violation: too late", false⟩ ] } := by
  obtain ⟨r, calls, w', hLogged, hRun, items, hInbound, hCalls, hTally⟩ :=
    run_one_by_one fiveMessages choosy choosyRules 0
  have hEnd : (run fiveMessages choosy choosyRules 0).2 = 2 := by decide +kernel
  have hLog : ((run fiveMessages.logged choosy.logged choosyRules.logged).run [] 0).1.2.length = 14 ∧
      ((run fiveMessages.logged choosy.logged choosyRules.logged).run [] 0).1.2.countP Step.fails = 4 := by
    decide +kernel
  rw [hLogged] at hLog
  refine ⟨r, calls, items, ?_, ?_, hLog.1, hLog.2, hTally, ?_⟩
  · rw [← hEnd, hRun]
  · rw [hCalls, hInbound]
  · have hResult : (run fiveMessages choosy choosyRules 0).1 = r := by rw [hRun]
    rw [← hResult]
    decide +kernel

end Run

end Cycle

end ChatRelay
