import ChatRelay.Cycle
import ChatRelay.Proofs.Process

/-!
Rules for cycles over any channel and handler. The rule for the messages of a cycle carries the list of those
that are still to come, so that an invariant can speak of them, and the other rules follow the code.
-/

namespace ChatRelay

/-- The same options in a larger monad. -/
def CycleOptions.lift {m n : Type → Type} (f : {α : Type} → m α → n α) (options : CycleOptions m) :
    CycleOptions n where
  ackPolicy := options.ackPolicy
  session inbound := f (options.session inbound)

namespace Cycle

variable {S σ : Type} {channel : Channel (Program S σ)} {handler : Handler (Program S σ)}
  {options : CycleOptions (Program S σ)} {inbound : Inbound} {P : S → σ → Prop} {stopped : σ → Prop}

/-- The messages that a fetch gives. -/
def messagesOf : Except Error (List Inbound) → List Inbound
  | .ok messages => messages
  | .error _ => []

/-- The outcome of processing a message whose reply was handed to the channel. -/
def sentOutcome : Except Error Unit → Except (CycleStage × Error) Bool
  | .ok () => .ok true
  | .error e => .error (.send, e)

/-- `N` after the session, `H` after the handler, and `D` when the message is processed. -/
theorem ensures_process {N : Except Error String → S → σ → Prop} {H : Except Error (Option Outbound) → S → σ → Prop}
    {D : Except (CycleStage × Error) Bool → S → σ → Prop}
    (hSession : Program.Ensures P (options.session inbound) N stopped)
    (hNoSession : ∀ e s w, N (.error e) s w → D (.error (.session, e)) s w)
    (hHandle : ∀ session, Program.Ensures (N (.ok session)) (handler.handle inbound session) H stopped)
    (hFailed : ∀ e s w, H (.error e) s w → D (.error (.handler, e)) s w)
    (hSilent : ∀ s w, H (.ok none) s w → D (.ok false) s w)
    (hSend : ∀ outbound, Program.Ensures (H (.ok (some outbound))) (channel.send outbound)
      (fun r => D (sentOutcome r)) stopped) :
    Program.Ensures P (process channel handler options inbound) D stopped := by
  apply hSession.bind
  intro found
  cases found with
  | error e => exact Program.ensures_pure (hNoSession e)
  | ok session =>
      apply (hHandle session).bind
      intro answer
      cases answer with
      | error e => exact Program.ensures_pure (hFailed e)
      | ok reply =>
          cases reply with
          | none => exact Program.ensures_pure hSilent
          | some outbound =>
              apply (hSend outbound).bind
              intro r
              cases r with
              | error e => exact Program.ensures_pure fun _ _ h => h
              | ok done => exact Program.ensures_pure fun _ _ h => h

/-- By the usual rules a message always has a session, so that it comes to the handler. -/
theorem ensures_process_standard {policy : AckPolicy} {H : Except Error (Option Outbound) → S → σ → Prop}
    {D : Except (CycleStage × Error) Bool → S → σ → Prop}
    (hHandle : ∀ session, Program.Ensures P (handler.handle inbound session) H stopped)
    (hFailed : ∀ e s w, H (.error e) s w → D (.error (.handler, e)) s w)
    (hSilent : ∀ s w, H (.ok none) s w → D (.ok false) s w)
    (hSend : ∀ outbound, Program.Ensures (H (.ok (some outbound))) (channel.send outbound)
      (fun r => D (sentOutcome r)) stopped) :
    Program.Ensures P (process channel handler (.standard policy) inbound) D stopped := by
  have hSession : Program.Ensures P ((CycleOptions.standard policy).session inbound)
      (fun found s w => (∃ session, found = .ok session) ∧ P s w) stopped :=
    Program.ensures_pure fun _ _ h => ⟨⟨_, inbound.session_eq⟩, h⟩
  refine ensures_process hSession (fun e _ _ h => ?_) (fun session => ?_) hFailed hSilent hSend
  · obtain ⟨⟨session, hNot⟩, -⟩ := h
    cases hNot
  · exact (hHandle session).imp (fun _ _ h => h.2) (fun _ _ _ h => h) fun _ h => h

/-- A message is acknowledged after it is processed, or skipped when it failed and failures are left. -/
theorem ensures_runItem {D : Except (CycleStage × Error) Bool → S → σ → Prop} {Q : S → σ → Prop}
    (hProcess : Program.Ensures P (process channel handler options inbound) D stopped)
    (hSkip : options.ackPolicy = .onSuccess → ∀ e s w, D (.error e) s w → Q s w)
    (hAck : ∀ outcome, Program.Ensures (D outcome) (channel.acknowledge inbound.updateId) (fun _ => Q) stopped)
    (r : CycleResult) :
    Program.Ensures P (runItem channel handler options r inbound) (fun _ => Q) stopped := by
  apply hProcess.bind
  intro outcome
  have hAcked : Program.Ensures (D outcome)
      (channel.acknowledge inbound.updateId >>= fun answer =>
        pure (enterAck (enter r inbound.updateId outcome) inbound.updateId answer)) (fun _ => Q) stopped :=
    (hAck outcome).bind fun _ => Program.ensures_pure fun _ _ h => h
  cases outcome with
  | ok sent => exact hAcked
  | error e =>
      cases hPolicy : options.ackPolicy with
      | always => simpa [hPolicy, Except.toBool] using hAcked
      | onSuccess => simpa [hPolicy, Except.toBool] using Program.ensures_pure (hSkip hPolicy e)

variable {I : List Inbound → S → σ → Prop}

/-- Run lemma for the messages of a cycle: an invariant that each message passes on to the rest holds when none is
left. -/
theorem ensures_runItems
    (hItem : ∀ inbound rest r, Program.Ensures (I (inbound :: rest))
      (runItem channel handler options r inbound) (fun _ => I rest) stopped)
    (messages : List Inbound) (r : CycleResult) :
    Program.Ensures (I messages) (runItems channel handler options r messages) (fun _ => I [])
      stopped := by
  induction messages generalizing r with
  | nil => exact Program.ensures_pure fun _ _ h => h
  | cons inbound rest ih => exact (hItem inbound rest r).bind fun r => ih r

/-- Rule for a whole cycle: the fetch establishes the invariant for its messages, and each message passes it on. -/
theorem ensures_run
    (hFetch : Program.Ensures P channel.fetch (fun answer => I (messagesOf answer)) stopped)
    (hItem : ∀ inbound rest r, Program.Ensures (I (inbound :: rest))
      (runItem channel handler options r inbound) (fun _ => I rest) stopped) :
    Program.Ensures P (run channel handler options) (fun _ => I []) stopped := by
  apply hFetch.bind
  intro answer
  cases answer with
  | error e => exact Program.ensures_pure fun _ _ h => h
  | ok messages =>
      cases messages with
      | nil => exact Program.ensures_pure fun _ _ h => h
      | cons inbound rest => exact ensures_runItems hItem (inbound :: rest) _

/-- Run cycles one after the other, each with its own options. -/
def runAll {m : Type → Type} [Monad m] (channel : Channel m) (handler : Handler m) :
    List (CycleOptions m) → m (List CycleResult)
  | [] => return []
  | options :: rest => do
      let r ← run channel handler options
      return r :: (← runAll channel handler rest)

/-- Run lemma for cycles: what every cycle keeps is kept by any number of them. -/
theorem ensures_runAll {rules : List (CycleOptions (Program S σ))}
    (h : ∀ options ∈ rules, Program.Ensures P (run channel handler options) (fun _ => P) stopped) :
    Program.Ensures P (runAll channel handler rules) (fun _ => P) stopped := by
  induction rules with
  | nil => exact Program.ensures_pure fun _ _ h => h
  | cons options rest ih =>
      apply (h options List.mem_cons_self).bind
      intro r
      apply (ih fun other hOther => h other (List.mem_cons_of_mem _ hOther)).bind
      intro results
      exact Program.ensures_pure fun _ _ h => h

end Cycle

end ChatRelay
