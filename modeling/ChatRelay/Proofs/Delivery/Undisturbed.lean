import Mathlib.Data.List.Forall2
import ChatRelay.Proofs.Cycle.Reports
import ChatRelay.Proofs.Journal
import ChatRelay.Proofs.Report.Contents
import ChatRelay.Proofs.UpdateId
import ChatRelay.Relay

/-!
Delivery does not depend on what stands beside it. A look-up that fails and a notifier that does as it likes change
what is told of a cycle, but neither what is asked of the provider, nor the feed, nor what is saved. So two relays are
run in the same world. The look-up of the second one finds nothing wherever that of the first one fails, and its
notifier is another one or there is none.
-/

namespace ChatRelay

open ChatRelay.Json (Value)

/-- What a relay does in its world, and how its feed stands after each operation on it. -/
inductive Mark where
  | requested (operation : Operation) (body : Value)
  | saving (floor : Int)
  | stands (feed : Feed)

/-- A world with a trail of what happened in it. Each mark keeps the world as it was then. -/
abbrev Trailed (σ : Type) := Chronicle (Mark × σ) σ

namespace Trailed

variable {σ α : Type}

def mark (mark : Mark) : StateM (Trailed σ) Unit := Chronicle.write fun w => (mark, w)

/-- An operation that shows how the feed stands after it. -/
def standing (run : StateT Relay (StateM (Trailed σ)) α) : StateT Relay (StateM (Trailed σ)) α := fun relay => do
  let (a, relay) ← run relay
  mark (.stands relay.feed)
  return (a, relay)

end Trailed

open Chronicle (past)
open Trailed (mark standing)

section Sides

variable {σ ν : Type}

/-- The same operations, with a trail of what is asked. -/
def BotApi.trailed (api : BotApi (StateM σ)) : BotApi (StateM (Trailed σ)) where
  getUpdates request := do
    mark (.requested .getUpdates request.toJson)
    past (api.getUpdates request)
  sendMessage request := do
    mark (.requested .sendMessage request.toJson)
    past (api.sendMessage request)

/-- The same store, with a trail of what is saved. -/
def CursorStore.trailed (store : CursorStore (StateM σ)) : CursorStore (StateM (Trailed σ)) where
  load := past store.load
  save floor := do
    mark (.saving floor)
    past (store.save floor)

/-- A notifier beside a relay. It may look at the world, but it changes only what it remembers itself. -/
def Notifier.aside (notifier : Notifier (ReaderT σ (StateM ν))) :
    Notifier (StateT (Relay × ν) (StateM (Trailed σ))) where
  notify text context := fun (relay, v) t =>
    let (answer, v) := notifier.notify text context t.world v
    ((answer, relay, v), t)

end Sides

/-- An operation of a relay with something beside it. -/
def Relay.beside {m : Type → Type} [Monad m] {ν α : Type} (run : StateT Relay m α) : StateT (Relay × ν) m α :=
  fun (relay, v) => do
    let (a, relay) ← run relay
    return (a, relay, v)

/-- What a look-up finds, if a failure counts as having found nothing. -/
def Echo.forgiven : Except Error (Option String) → Except Error (Option String)
  | .ok found => .ok found
  | .error _ => .ok none

/-- The same look-up, which finds nothing wherever it would fail. -/
def Echo.forgiving {m : Type → Type} [Monad m] (lookup : Lookup m) : Lookup m := fun text => forgiven <$> lookup text

namespace Relay

variable {σ ν : Type} (api : BotApi (StateM σ)) (store : Option (CursorStore (StateM σ))) (chats : Allowlist)
  (clock : StateM σ Nat) (lookup : Option (Echo.Lookup (StateM σ)))

/-- The channel of a relay, with a trail of all that it does. -/
def channelTrailed : Channel (StateT Relay (StateM (Trailed σ))) :=
  (channel api.trailed (store.map CursorStore.trailed)).lift standing

/-- The handler of a relay in a world with a trail. -/
def handlerPast : Handler (StateT Relay (StateM (Trailed σ))) :=
  handler chats (lookup.map fun find text => past (find text))

/-- Cycles of a relay with a notifier beside it, each with its own policy. -/
def cyclesBeside (notifier : Option (Notifier (ReaderT σ (StateM ν)))) (policies : List AckPolicy) :
    StateT (Relay × ν) (StateM (Trailed σ)) (List CycleReport) :=
  Cycle.reportAll ((channelTrailed api store).lift beside) ((handlerPast chats lookup).lift beside)
    (notifier.map Notifier.aside) (StateT.lift (past clock)) policies

end Relay

/-- All of these conditions are failed look-ups. -/
def LookupsFailed (notes : List Diagnostic) : Prop := ∀ d ∈ notes, ∃ inbound e, d = Echo.lookupNote inbound e

namespace LookupsFailed

variable {notes : List Diagnostic}

theorem snoc (h : LookupsFailed notes) (inbound : Inbound) (e : Error) :
    LookupsFailed (notes ++ [Echo.lookupNote inbound e]) := by
  intro d hd
  rcases List.mem_append.1 hd with hOld | hNew
  · exact h d hOld
  · exact ⟨inbound, e, List.mem_singleton.1 hNew⟩

/-- A failed look-up is no drop. -/
theorem isDrop_eq (h : LookupsFailed notes) {d : Diagnostic} (hd : d ∈ notes) : d.code.isDrop = false := by
  obtain ⟨inbound, e, rfl⟩ := h d hd
  rfl

theorem dropsOf_eq (h : LookupsFailed notes) : dropsOf notes = [] :=
  List.filter_eq_nil_iff.2 fun d hd => by simp [h.isDrop_eq hd]

theorem troublesOf_eq (h : LookupsFailed notes) : troublesOf notes = notes :=
  List.filter_eq_self.2 fun d hd => by simp [h.isDrop_eq hd]

end LookupsFailed

/-- Two reports on the same delivery. The first one may have an error for each of some failed look-ups that the second
one does not have, the counts, texts and reasons follow the errors, and nothing is said of what the notifiers
answered. -/
structure SameDelivery (first second : CycleReport) : Prop where
  status : first.result.status = second.result.status
  fetched : first.result.fetched = second.result.fetched
  sent : first.result.sent = second.result.sent
  acked : first.result.acked = second.result.acked
  ackSkipped : first.result.ackSkipped = second.result.ackSkipped
  dropped : first.dropped = second.dropped
  droppedCount : first.droppedCount = second.droppedCount
  elapsed : first.elapsed = second.elapsed
  details : ∃ failed before errors after, LookupsFailed failed ∧ List.Forall₂ Diagnostic.CountsAs failed errors ∧
    first.result.details = before ++ errors ++ after ∧ second.result.details = before ++ after
  agrees : first.result.Agrees ∧ second.result.Agrees
  reason : first.result.reason = first.result.gist ∧ second.result.reason = second.result.gist

/-- Reports on one result, with failed look-ups among the conditions of one of them. -/
theorem CycleReport.Compiled.sameDelivery {core : CycleResult} {before failed after : List Diagnostic}
    {first second : CycleReport} (h : Compiled core (before ++ failed ++ after) first)
    (h' : Compiled core (before ++ after) second) (hFailed : LookupsFailed failed)
    (hElapsed : first.elapsed = second.elapsed) : SameDelivery first second where
  status := h.status.trans h'.status.symm
  fetched := h.fetched.trans h'.fetched.symm
  sent := h.sent.trans h'.sent.symm
  acked := h.acked.trans h'.acked.symm
  ackSkipped := h.ackSkipped.trans h'.ackSkipped.symm
  dropped := by
    rw [h.dropped, h'.dropped]
    simp [hFailed.dropsOf_eq]
  droppedCount := by
    rw [h.droppedCount, h'.droppedCount, h.dropped, h'.dropped]
    simp [hFailed.dropsOf_eq]
  elapsed := hElapsed
  details := by
    obtain ⟨errors, hDetails, hCounts⟩ := h.details
    obtain ⟨errors', hDetails', hCounts'⟩ := h'.details
    rw [Diagnostic.forall₂_countsAs_iff] at hCounts hCounts'
    refine ⟨failed, core.details ++ (troublesOf before).map Diagnostic.toError, failed.map Diagnostic.toError,
      (troublesOf after).map Diagnostic.toError, hFailed, Diagnostic.forall₂_countsAs_iff.2 rfl, ?_, ?_⟩
    · rw [hDetails, hCounts]
      simp [hFailed.troublesOf_eq]
    · rw [hDetails', hCounts']
      simp
  agrees := ⟨h.agrees, h'.agrees⟩
  reason := ⟨h.reason, h'.reason⟩

section Silence

variable {τ ν ν' α β : Type}

/-- What touches neither the relay nor the world. -/
def Silent (run : StateT (Relay × ν) (StateM τ) α) : Prop :=
  ∀ relay v t, ∃ a v', run (relay, v) t = ((a, relay, v'), t)

theorem silent_pure (a : α) : Silent (pure a : StateT (Relay × ν) (StateM τ) α) := fun _ v _ => ⟨a, v, rfl⟩

/-- Silent parts make a silent whole. -/
theorem Silent.bind {run : StateT (Relay × ν) (StateM τ) α} {f : α → StateT (Relay × ν) (StateM τ) β}
    (h : Silent run) (hNext : ∀ a, Silent (f a)) : Silent (run >>= f) := by
  intro relay v t
  obtain ⟨a, v', hRun⟩ := h relay v t
  obtain ⟨b, v'', hLast⟩ := hNext a relay v' t
  refine ⟨b, v'', ?_⟩
  show (run (relay, v) >>= fun r => f r.1 r.2) t = _
  rw [bind_of_run _ hRun, hLast]

/-- Two relays that are related, whatever stands beside them. -/
def Beside (R : Relay → Relay → Prop) (s : Relay × ν) (t : Relay × ν') : Prop := R s.1 t.1

variable {R : Relay → Relay → Prop}

/-- Two silent programs keep every relation, and need not be alike. -/
theorem tandem_of_silent {p : StateT (Relay × ν) (StateM τ) α} {q : StateT (Relay × ν') (StateM τ) β} (hp : Silent p)
    (hq : Silent q) : Tandem (Beside R) p q fun _ _ => Beside R := by
  rintro ⟨first, v⟩ ⟨second, v'⟩ hRelated
  apply paired_of_run
  intro t
  obtain ⟨a, after, hFirst⟩ := hp first v t
  obtain ⟨b, after', hSecond⟩ := hq second v' t
  rw [hFirst, hSecond]
  exact ⟨hRelated, rfl⟩

/-- What holds of two relays holds of them beside anything. -/
theorem tandem_beside {p : StateT Relay (StateM τ) α} {q : StateT Relay (StateM τ) β}
    {Q : α → β → Relay → Relay → Prop} (h : Tandem R p q Q) :
    Tandem (Beside R) (Relay.beside (ν := ν) p) (Relay.beside (ν := ν') q) fun a b => Beside (Q a b) := by
  rintro ⟨first, v⟩ ⟨second, v'⟩ hRelated
  apply (h first second hRelated).bind
  rintro ⟨a, first⟩ ⟨b, second⟩ hAfter
  exact .pure hAfter

end Silence

namespace Notifier

variable {σ ν : Type} (notifier : Option (Notifier (ReaderT σ (StateM ν))))

theorem silent_tell (text : String) (context : Value) : Silent (Cycle.tell (notifier.map aside) text context) := by
  cases notifier with
  | none => exact silent_pure 0
  | some notifier =>
      have hCall : Silent (notifier.aside.notify text context) := fun _ _ _ => ⟨_, _, rfl⟩
      apply hCall.bind
      intro answer
      cases answer with
      | ok done => exact silent_pure 0
      | error e => exact silent_pure 1

theorem silent_tellResult (r : CycleResult) : Silent (Cycle.tellResult (notifier.map aside) r) := by
  rw [Cycle.tellResult]
  split
  · exact silent_tell notifier _ _
  · exact silent_pure 0

/-- Telling a notifier that stands aside is silent, by induction on what it is told. -/
theorem silent_tellAll (notes : List Diagnostic) : Silent (Cycle.tellAll (notifier.map aside) notes) := by
  induction notes with
  | nil => exact silent_pure 0
  | cons d rest ih => exact (silent_tell notifier _ _).bind fun _ => ih.bind fun _ => silent_pure _

end Notifier

/-- Of two lists of failed look-ups, the second one has stayed as it was. -/
def Surplus (old first second : List Diagnostic) : Prop :=
  second = old ∧ ∃ failed, first = old ++ failed ∧ LookupsFailed failed

/-- Two relays that differ in nothing but failed look-ups. -/
structure Matched (old : List Diagnostic) (first second : Relay) : Prop where
  feed : first.feed = second.feed
  heldBack : first.heldBack = second.heldBack
  failedLookups : Surplus old first.failedLookups second.failedLookups

section Operations

variable {m : Type → Type} [Monad m] [LawfulMonad m] {α : Type} {old : List Diagnostic}

theorem alike_onFeed (run : StateT Feed m α) :
    Alike (Matched old) (Relay.onFeed run) (Relay.onFeed run) fun _ => Matched old := by
  intro first second hMatched
  show Paired _ (run first.feed >>= _) (run second.feed >>= _)
  rw [← hMatched.feed]
  apply (Paired.refl (run first.feed)).bind
  rintro ⟨a, feed⟩ _ rfl
  exact .pure ⟨rfl, rfl, hMatched.heldBack, hMatched.failedLookups⟩

/-- A program over the records that stays within failed look-ups, told of the relay. -/
theorem alike_onRecords {run run' : StateT (List Diagnostic) (StateT (List Diagnostic) m) α}
    (h : ∀ held, Alike (Surplus old) (run held) (run' held) fun _ => Surplus old) :
    Alike (Matched old) (Relay.onRecords run) (Relay.onRecords run') fun _ => Matched old := by
  intro first second hMatched
  show Paired _ (run first.heldBack first.failedLookups >>= _) (run' second.heldBack second.failedLookups >>= _)
  rw [← hMatched.heldBack]
  apply (h first.heldBack _ _ hMatched.failedLookups).bind
  rintro ⟨⟨a, held⟩, failed⟩ ⟨_, kept⟩ ⟨rfl, hSurplus⟩
  exact .pure ⟨rfl, hMatched.feed, rfl, hSurplus⟩

/-- A gate lets the same through to handlers that do the same. -/
theorem Allowlist.alike_gate {S T : Type} {P : S → T → Prop} {chats : Allowlist} {inner : Handler (StateT S m)}
    {inner' : Handler (StateT T m)} {inbound : Inbound} {session : String}
    (h : Alike P (inner.handle inbound session) (inner'.handle inbound session) fun _ => P) (held : List Diagnostic) :
    Alike P ((gate chats inner).handle inbound session held) ((gate chats inner').handle inbound session held)
      fun _ => P := by
  by_cases hAllowed : chats.allows inbound.chatId = true
  · simp only [gate, hAllowed, if_true]
    exact h.bind fun answer => alike_pure fun _ _ hRelated => hRelated
  · simp only [gate, hAllowed, if_false, Bool.false_eq_true]
    exact alike_pure fun _ _ hRelated => hRelated

/-- The reply is the same whether a look-up fails or finds nothing. -/
theorem Echo.alike_handle {find find' : Lookup m}
    (h : ∀ text, Paired (fun found found' => found' = forgiven found) (find text) (find' text)) (inbound : Inbound)
    (session : String) :
    Alike (Surplus old) ((handler (some find)).handle inbound session) ((handler (some find')).handle inbound session)
      fun _ => Surplus old := by
  rintro first second ⟨rfl, failed, rfl, hFailed⟩
  apply (h inbound.text).bind
  rintro found _ rfl
  cases found with
  | ok found => exact .pure ⟨rfl, List.append_nil _, failed, List.append_nil _, hFailed⟩
  | error e =>
      exact .pure ⟨rfl, List.append_nil _, failed ++ [lookupNote inbound e], List.append_assoc ..,
        hFailed.snoc inbound e⟩

end Operations

section Trail

variable {σ α : Type} {old : List Diagnostic}

theorem alike_standing {run run' : StateT Relay (StateM (Trailed σ)) α}
    (h : Alike (Matched old) run run' fun _ => Matched old) :
    Alike (Matched old) (standing run) (standing run') fun _ => Matched old := by
  intro first second hMatched
  apply (h first second hMatched).bind
  rintro ⟨a, first⟩ ⟨_, second⟩ ⟨rfl, hMatched⟩
  show Paired _ (mark (.stands first.feed) >>= _) (mark (.stands second.feed) >>= _)
  rw [← hMatched.feed]
  apply (Paired.refl (mark (.stands first.feed))).bind
  rintro _ _ rfl
  exact .pure ⟨rfl, hMatched⟩

variable (chats : Allowlist) (lookup : Option (Echo.Lookup (StateM σ)))

/-- The handler gives the same reply with a look-up that fails as with one that is forgiven. -/
theorem alike_handle_forgiving (inbound : Inbound) (session : String) :
    Alike (Matched old) ((Relay.handlerPast chats lookup).handle inbound session)
      ((Relay.handlerPast chats (lookup.map Echo.forgiving)).handle inbound session) fun _ => Matched old := by
  apply alike_onRecords
  apply Allowlist.alike_gate
  cases lookup with
  | none => exact fun first second hSurplus => .pure ⟨rfl, hSurplus⟩
  | some find =>
      have hFind (text : String) : Paired (m := StateM (Trailed σ)) (fun found found' => found' = Echo.forgiven found)
          (past (find text)) (past (Echo.forgiving find text)) := paired_of_run fun t => ⟨rfl, rfl⟩
      exact Echo.alike_handle hFind inbound session

/-- All conditions of the second handler are among those of the first one, which come with failed look-ups. -/
theorem tandem_drain_forgiving :
    Tandem (Matched old) (Relay.handlerPast chats lookup).drain
      (Relay.handlerPast chats (lookup.map Echo.forgiving)).drain
      fun notes notes' first second => (∃ failed, notes = notes' ++ failed ∧ LookupsFailed failed) ∧
        Matched [] first second := by
  intro first second hMatched
  obtain ⟨hOld, failed, hFailures, hFailed⟩ := hMatched.failedLookups
  apply paired_of_run
  intro t
  refine ⟨⟨⟨failed, ?_, hFailed⟩, hMatched.feed, rfl, rfl, [], rfl, nofun⟩, rfl⟩
  show first.heldBack ++ first.failedLookups = second.heldBack ++ second.failedLookups ++ failed
  rw [hMatched.heldBack, hFailures, hOld, List.append_assoc]

variable (api : BotApi (StateM σ)) (store : Option (CursorStore (StateM σ))) (clock : StateM σ Nat) {ν ν' : Type}
  (notifier : Option (Notifier (ReaderT σ (StateM ν)))) (other : Option (Notifier (ReaderT σ (StateM ν'))))

/-- One cycle of each relay: the reports are on the same delivery, and nothing but failed look-ups sets the relays
apart. -/
theorem tandem_report (policy : AckPolicy) :
    Tandem (Beside (Matched old))
      (Cycle.report ((Relay.channelTrailed api store).lift Relay.beside)
        ((Relay.handlerPast chats lookup).lift Relay.beside) policy (notifier.map Notifier.aside)
        (StateT.lift (past clock)))
      (Cycle.report ((Relay.channelTrailed api store).lift Relay.beside)
        ((Relay.handlerPast chats (lookup.map Echo.forgiving)).lift Relay.beside) policy (other.map Notifier.aside)
        (StateT.lift (past clock)))
      fun report report' s t => SameDelivery report report' ∧ Beside (Matched []) s t := by
  -- each operation of the channel is the same program on both sides
  have hChannel {α : Type} {old : List Diagnostic} (run : StateT Feed (StateM (Trailed σ)) α) :
      Alike (Beside (Matched old)) (Relay.beside (ν := ν) (standing (Relay.onFeed run)))
        (Relay.beside (ν := ν') (standing (Relay.onFeed run))) fun _ => Beside (Matched old) :=
    tandem_beside (alike_standing (alike_onFeed run))
  have hStep : Cycle.InStep (Beside (Matched old)) ((Relay.channelTrailed api store).lift (Relay.beside (ν := ν)))
      ((Relay.channelTrailed api store).lift (Relay.beside (ν := ν')))
      ((Relay.handlerPast chats lookup).lift Relay.beside)
      ((Relay.handlerPast chats (lookup.map Echo.forgiving)).lift Relay.beside) :=
    { handle := fun inbound session => tandem_beside (alike_handle_forgiving chats lookup inbound session)
      send := fun outbound => hChannel _
      acknowledge := fun id => hChannel _ }
  apply (alike_lift (past clock)).bind
  intro started
  apply (Cycle.alike_run (hChannel _) fun _ => hStep).bind
  intro core
  apply Tandem.of_exists
  intro answer
  apply Tandem.assume
  intro hOutcome
  apply (tandem_of_silent (Notifier.silent_tellResult notifier core) (Notifier.silent_tellResult other core)).bind
  intro failures failures'
  apply (tandem_beside (tandem_drain_forgiving chats lookup)).bind
  intro notes notes'
  apply Tandem.assume
  rintro ⟨failed, rfl, hFailed⟩
  apply (hChannel _).bind
  intro more
  apply (tandem_of_silent (Notifier.silent_tellAll notifier (troublesOf (notes' ++ failed ++ more)))
    (Notifier.silent_tellAll other (troublesOf (notes' ++ more)))).bind
  intro later later'
  apply (alike_lift (past clock)).bind
  intro finished
  refine tandem_pure fun s t hMatched => ⟨?_, hMatched⟩
  have hCore := hOutcome.core
  exact (CycleReport.compiled_foldl hCore _ (failures + later) (finished - started)).sameDelivery
    (CycleReport.compiled_foldl hCore _ (failures' + later') (finished - started)) hFailed rfl

/-- All the cycles, by induction on their policies. -/
theorem tandem_cyclesBeside (policies : List AckPolicy) :
    Tandem (Beside (Matched old)) (Relay.cyclesBeside api store chats clock lookup notifier policies)
      (Relay.cyclesBeside api store chats clock (lookup.map Echo.forgiving) other policies)
      fun reports reports' s t => List.Forall₂ SameDelivery reports reports' ∧ ∃ old, Beside (Matched old) s t := by
  induction policies generalizing old with
  | nil => exact tandem_pure fun s t hMatched => ⟨.nil, old, hMatched⟩
  | cons policy rest ih =>
      apply (tandem_report chats lookup api store clock notifier other policy).bind
      intro report report'
      apply Tandem.assume
      intro hSame
      apply ih.bind
      intro reports reports'
      exact tandem_pure fun s t hEnd => ⟨.cons hSame hEnd.1, hEnd.2⟩

end Trail

/-- **Side channels leave delivery alone.** Take a relay in any state, and let the provider, the store, the look-up,
the clock and the notifier do as they like. Run it again from the same world, with a look-up that finds nothing
wherever the first one fails and with any other notifier, or with none. Both runs leave the same world and the same
trail: the same requests with the same bodies, the same floors to save, the same feed after each operation, and the
same world at each of these points. Their reports are on the same delivery, cycle by cycle. -/
theorem delivery_undisturbed {σ ν ν' : Type} (api : BotApi (StateM σ)) (store : Option (CursorStore (StateM σ)))
    (chats : Allowlist) (clock : StateM σ Nat) (lookup : Option (Echo.Lookup (StateM σ)))
    (notifier : Option (Notifier (ReaderT σ (StateM ν)))) (other : Option (Notifier (ReaderT σ (StateM ν'))))
    (policies : List AckPolicy) (relay : Relay) (v : ν) (v' : ν') (w : σ) :
    ∃ reports first reports' second t,
      Relay.cyclesBeside api store chats clock lookup notifier policies (relay, v) ⟨w, []⟩ = ((reports, first), t) ∧
      Relay.cyclesBeside api store chats clock (lookup.map Echo.forgiving) other policies (relay, v') ⟨w, []⟩ =
        ((reports', second), t) ∧
      List.Forall₂ SameDelivery reports reports' ∧ first.1.feed = second.1.feed ∧
      first.1.heldBack = second.1.heldBack := by
  have hStart : Beside (Matched relay.failedLookups) (relay, v) (relay, v') :=
    ⟨rfl, rfl, rfl, [], (List.append_nil _).symm, nofun⟩
  obtain ⟨⟨hSame, _, hMatched⟩, hWorld⟩ :=
    (tandem_cyclesBeside chats lookup api store clock notifier other policies _ _ hStart).run ⟨w, []⟩
  exact ⟨_, _, _, _, _, rfl, Prod.ext rfl hWorld.symm, hSame, hMatched.feed, hMatched.heldBack⟩

/-- One cycle on one message, and the reasons in its reports. -/
def reasonsWith (lookup : Echo.Lookup (StateM Unit)) : List CycleReason :=
  let feed : Feed := ⟨{}, Cursor.start none, []⟩
  let cycles := Relay.cyclesBeside (ν := Unit) (BotApi.constant [Update.plain 1 "hello"]) none ⟨[]⟩ (pure 0)
    (some lookup) none [.always]
  (cycles (⟨feed, [], []⟩, ()) ⟨(), []⟩).1.1.map fun report => report.result.reason

/-- The reports can differ: a look-up that fails leaves a cycle with errors. -/
example : (reasonsWith fun _ => pure (.error (.external "unreachable"))) = [.completedWithErrors] ∧
    (reasonsWith (Echo.forgiving fun _ => pure (.error (.external "unreachable")))) = [.processed] := by
  decide +kernel

end ChatRelay
