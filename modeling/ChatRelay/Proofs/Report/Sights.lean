import ChatRelay.Proofs.Journal
import ChatRelay.Proofs.Report.Contents

/-!
A cycle with a report, seen from outside: what the fetch gave, what was drained, and what the notifier was told and
answered. Looking on changes nothing. The notifier hears of the cycle itself if it failed or had errors, and of each
recorded condition that counts as an error, and nothing else.
-/

namespace ChatRelay

open ChatRelay.Json (Value)

/-- What the notifier was told, and its answer. -/
structure Telling where
  text : String
  context : Value
  answer : Except Error Unit

namespace Telling

def failed (t : Telling) : Bool := !t.answer.toBool

/-- The news without the answer. -/
def news (t : Telling) : String × Value := (t.text, t.context)

end Telling

/-- What can be seen of a cycle with a report. -/
inductive Sight where
  | fetched (answer : Except Error (List Inbound))
  | drained (notes : List Diagnostic)
  | told (telling : Telling)

/-- A world with what was seen so far. -/
abbrev Sighted (σ : Type) := Chronicle Sight σ

namespace Sighted

open Chronicle (past write)

variable {σ α : Type}

/-- What is seen once it has happened. -/
def seen (sight : α → Sight) (run : StateM σ α) : StateM (Sighted σ) α := do
  let a ← past run
  write fun _ => sight a
  return a

/-- Both runs are in one world, and these sights were seen. -/
def At (sights : List Sight) (w : σ) (t : Sighted σ) : Prop := t = ⟨w, sights⟩

variable {sights : List Sight}

theorem alike_past (run : StateM σ α) : Alike (m := Id) (At sights) run (past run) fun _ => At sights := by
  rintro w _ rfl
  exact Paired.pure (m := Id) ⟨rfl, rfl⟩

theorem alike_seen (sight : α → Sight) (run : StateM σ α) :
    Alike (m := Id) (At sights) run (seen sight run) fun a => At (sights ++ [sight a]) := by
  rintro w _ rfl
  exact Paired.pure (m := Id) ⟨rfl, rfl⟩

end Sighted

open Chronicle (past)
open Sighted (seen At alike_past alike_seen)

variable {σ : Type}

/-- The same channel, with a look at what it gives. -/
def Channel.sighted (channel : Channel (StateM σ)) : Channel (StateM (Sighted σ)) where
  fetch := seen .fetched channel.fetch
  send outbound := past (channel.send outbound)
  acknowledge id := past (channel.acknowledge id)
  drain := seen .drained channel.drain

/-- The same handler, with a look at the conditions that it gives up. -/
def Handler.sighted (handler : Handler (StateM σ)) : Handler (StateM (Sighted σ)) where
  handle inbound session := past (handler.handle inbound session)
  drain := seen .drained handler.drain

/-- The same notifier, with a look at what it is told. -/
def Notifier.sighted (notifier : Notifier (StateM σ)) : Notifier (StateM (Sighted σ)) where
  notify text context := seen (fun answer => .told ⟨text, context, answer⟩) (notifier.notify text context)

namespace Cycle

/-- What was told is seen, as far as there is anyone to tell, and the failures among it are counted. -/
def Heard (notifier : Option (Notifier (StateM σ))) (sights : List Sight) (news : List (String × Value))
    (failures : Nat) (w : σ) (t : Sighted σ) : Prop :=
  ∃ tellings : List Telling, (tellings.map Telling.news = (if notifier.isSome then news else []) ∧
    failures = tellings.countP Telling.failed) ∧ At (sights ++ tellings.map .told) w t

/-- Each telling that is looked at is heard, and counts as a failure if it failed. -/
theorem tellAlike_sighted (notifier : Option (Notifier (StateM σ))) (sights : List Sight) :
    TellAlike (m := Id) notifier (notifier.map Notifier.sighted) (Heard notifier sights) := by
  intro news failures text context
  apply Tandem.of_exists
  intro tellings
  apply Tandem.assume
  rintro ⟨hNews, hFailures⟩
  cases notifier with
  | none => exact alike_pure (m := Id) fun w t hAt => ⟨tellings, ⟨by simpa using hNews, hFailures⟩, hAt⟩
  | some notifier =>
      have hCall : Alike (m := Id) (At (sights ++ tellings.map .told)) (notifier.notify text context)
          (notifier.sighted.notify text context)
          fun answer => At (sights ++ tellings.map .told ++ [.told ⟨text, context, answer⟩]) :=
        alike_seen (fun answer => .told ⟨text, context, answer⟩) (notifier.notify text context)
      apply hCall.bind
      intro answer
      have hMore (failed : Nat) (hFailed : failed = [Telling.mk text context answer].countP Telling.failed) (w : σ)
          (t : Sighted σ) (hAt : At (sights ++ tellings.map .told ++ [.told ⟨text, context, answer⟩]) w t) :
          Heard (some notifier) sights (news ++ [(text, context)]) (failures + failed) w t := by
        refine ⟨tellings ++ [⟨text, context, answer⟩], ⟨?_, ?_⟩, by simpa using hAt⟩
        · rw [List.map_append, hNews]
          rfl
        · rw [List.countP_append, hFailures, hFailed]
      cases answer with
      | ok done => exact alike_pure (m := Id) (hMore 0 rfl)
      | error e => exact alike_pure (m := Id) (hMore 1 rfl)

/-- Before anything is told. -/
theorem heard_nil {notifier : Option (Notifier (StateM σ))} {sights : List Sight} {w : σ} {t : Sighted σ}
    (hAt : At sights w t) : Heard notifier sights [] 0 w t :=
  ⟨[], ⟨by simp, rfl⟩, by simpa using hAt⟩

/-- A cycle with a report, told from what can be seen of it. -/
structure Account where
  answer : Except Error (List Inbound)
  core : CycleResult
  handlerNotes : List Diagnostic
  channelNotes : List Diagnostic
  first : List Telling
  later : List Telling

namespace Account

def notes (a : Account) : List Diagnostic := a.handlerNotes ++ a.channelNotes

/-- The sights in their order. -/
def sights (a : Account) : List Sight :=
  .fetched a.answer :: a.first.map .told ++ [.drained a.handlerNotes, .drained a.channelNotes] ++ a.later.map .told

/-- How a report follows from the account. -/
structure Explains (notifier : Option (Notifier (StateM σ))) (a : Account) (report : CycleReport) : Prop where
  outcome : Outcome a.answer a.core
  compiled : CycleReport.Compiled a.core a.notes report
  first : a.first.map Telling.news = if notifier.isSome then newsOf a.core else []
  later : a.later.map Telling.news = if notifier.isSome then (troublesOf a.notes).map noticeOf else []
  failures : report.notifyFailures = (a.first ++ a.later).countP Telling.failed

end Account

/-- Looking on changes nothing, and the report is as the sights call for. -/
theorem alike_report (channel : Channel (StateM σ)) (handler : Handler (StateM σ)) (policy : AckPolicy)
    (notifier : Option (Notifier (StateM σ))) (clock : StateM σ Nat) :
    Alike (m := Id) (At []) (report channel handler policy notifier clock)
      (report channel.sighted handler.sighted policy (notifier.map Notifier.sighted) (past clock))
      fun report w t => ∃ a : Account, a.Explains notifier report ∧ At a.sights w t := by
  have hClock {sights : List Sight} : Alike (m := Id) (At sights) clock (past clock) fun _ => At sights := alike_past _
  have hRun : Alike (m := Id) (At []) (run channel handler (.standard policy))
      (run channel.sighted handler.sighted (.standard policy))
      fun core w t => ∃ answer, Outcome answer core ∧ At [.fetched answer] w t :=
    alike_run (m := Id) (I := fun answer => At [.fetched answer]) (alike_seen _ _) fun answer =>
      ⟨fun _ _ => alike_past _, fun _ => alike_past _, fun _ => alike_past _⟩
  have hDrain {sights : List Sight} : Alike (m := Id) (At sights) handler.drain handler.sighted.drain
      fun notes => At (sights ++ [.drained notes]) := alike_seen _ _
  have hDrain' {sights : List Sight} : Alike (m := Id) (At sights) channel.drain channel.sighted.drain
      fun notes => At (sights ++ [.drained notes]) := alike_seen _ _
  apply hClock.bind
  intro started
  apply hRun.bind
  intro core
  apply Tandem.of_exists
  intro answer
  apply Tandem.assume
  intro hOutcome
  apply (((tellAlike_sighted notifier _).tellResult core [] 0).imp (fun _ _ => heard_nil) fun _ _ _ hEnd => hEnd).bind
  intro resultFailures
  apply Tandem.of_exists
  intro first
  apply Tandem.assume
  intro hFirst
  apply hDrain.bind
  intro handlerNotes
  apply hDrain'.bind
  intro channelNotes
  apply (((tellAlike_sighted notifier _).tellAll (troublesOf (handlerNotes ++ channelNotes)) [] 0).imp
    (fun _ _ => heard_nil) fun _ _ _ hEnd => hEnd).bind
  intro noteFailures
  apply Tandem.of_exists
  intro later
  apply Tandem.assume
  intro hLater
  apply hClock.bind
  intro finished
  refine alike_pure (m := Id) fun w t hAt => ⟨⟨answer, core, handlerNotes, channelNotes, first, later⟩,
    ⟨hOutcome, CycleReport.compiled_foldl hOutcome.core _ _ _, hFirst.1, hLater.1, ?_⟩, ?_⟩
  · show resultFailures + noteFailures = _
    rw [List.countP_append, ← hFirst.2, ← hLater.2, Nat.zero_add, Nat.zero_add]
  · simpa [Account.sights] using hAt

/-- From every world. -/
theorem report_seen (channel : Channel (StateM σ)) (handler : Handler (StateM σ)) (policy : AckPolicy)
    (notifier : Option (Notifier (StateM σ))) (clock : StateM σ Nat) (w : σ) :
    ∃ (report : CycleReport) (a : Account) (w' : σ),
      Cycle.report channel handler policy notifier clock w = (report, w') ∧
      Cycle.report channel.sighted handler.sighted policy (notifier.map Notifier.sighted) (past clock) ⟨w, []⟩ =
        (report, ⟨w', a.sights⟩) ∧
      a.Explains notifier report := by
  obtain ⟨report, w', hRun⟩ : ∃ report w', Cycle.report channel handler policy notifier clock w = (report, w') :=
    ⟨_, _, rfl⟩
  have hBoth := (alike_report channel handler policy notifier clock w ⟨w, []⟩ rfl).of_id
  rw [hRun] at hBoth
  obtain ⟨hSame, a, hExplains, hAt⟩ := hBoth
  exact ⟨report, a, w', hRun, Prod.ext hSame.symm hAt, hExplains⟩

end Cycle

end ChatRelay
