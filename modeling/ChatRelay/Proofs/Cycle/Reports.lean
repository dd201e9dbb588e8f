import ChatRelay.Proofs.Cycle.Rules
import ChatRelay.Report

/-!
Rules for cycles with reports. The clock and the notifier stand aside: they change nothing that a property of the
cycle speaks of. The report lists the drops among all conditions that the handler and the channel gave up.
-/

namespace ChatRelay

namespace Cycle

/-- Run cycles one after the other, each with its own policy and with a report. -/
def reportAll {m : Type → Type} [Monad m] (channel : Channel m) (handler : Handler m) (notifier : Option (Notifier m))
    (clock : m Nat) : List AckPolicy → m (List CycleReport)
  | [] => return []
  | policy :: rest => do
      let report ← report channel handler policy notifier clock
      return report :: (← reportAll channel handler notifier clock rest)

variable {S σ : Type} {channel : Channel (Program S σ)} {handler : Handler (Program S σ)}
  {notifier : Option (Notifier (Program S σ))} {clock : Program S σ Nat} {policy : AckPolicy} {P : S → σ → Prop}
  {stopped : σ → Prop}

/-- What neither the clock nor the notifier changes. -/
structure Aside (notifier : Option (Notifier (Program S σ))) (clock : Program S σ Nat) (P : S → σ → Prop)
    (stopped : σ → Prop) : Prop where
  clock : Program.Ensures P clock (fun _ => P) stopped
  notify : ∀ told ∈ notifier, ∀ text context, Program.Ensures P (told.notify text context) (fun _ => P) stopped

namespace Aside

/-- Telling the notifier stands aside. -/
theorem tell (h : Aside notifier clock P stopped) (text : String) (context : Json.Value) :
    Program.Ensures P (tell notifier text context) (fun _ => P) stopped := by
  cases hTold : notifier with
  | none => exact Program.ensures_pure fun _ _ h => h
  | some told =>
      apply (h.notify told hTold text context).bind
      intro answer
      cases answer with
      | ok done => exact Program.ensures_pure fun _ _ h => h
      | error e => exact Program.ensures_pure fun _ _ h => h

/-- So does telling of a cycle. -/
theorem tellResult (h : Aside notifier clock P stopped) (r : CycleResult) :
    Program.Ensures P (tellResult notifier r) (fun _ => P) stopped := by
  simp only [Cycle.tellResult]
  split
  · exact h.tell _ _
  · exact Program.ensures_pure fun _ _ h => h

/-- So does telling of any number of conditions. -/
theorem tellAll (h : Aside notifier clock P stopped) (notes : List Diagnostic) :
    Program.Ensures P (tellAll notifier notes) (fun _ => P) stopped := by
  induction notes with
  | nil => exact Program.ensures_pure fun _ _ h => h
  | cons note rest ih =>
      exact (h.tell _ _).bind fun _ => ih.bind fun _ => Program.ensures_pure fun _ _ h => h

end Aside

/-- `I` after the cycle, `H` when the handler has given up its conditions, and `C` when the channel has as well. -/
theorem ensures_report {I : S → σ → Prop} {H C : List Diagnostic → S → σ → Prop}
    (hBefore : Aside notifier clock P stopped) (hAfter : Aside notifier clock I stopped)
    (hEnd : ∀ notes, Aside notifier clock (C notes) stopped)
    (hRun : Program.Ensures P (run channel handler (.standard policy)) (fun _ => I) stopped)
    (hHandler : Program.Ensures I handler.drain H stopped)
    (hChannel : ∀ notes, Program.Ensures (H notes) channel.drain (fun more => C (notes ++ more)) stopped) :
    Program.Ensures P (report channel handler policy notifier clock)
      (fun report s w => ∃ notes, report.dropped = (notes.filter fun d => d.code.isDrop) ∧ C notes s w) stopped := by
  apply hBefore.clock.bind
  intro started
  apply hRun.bind
  intro result
  apply (hAfter.tellResult result).bind
  intro resultFailures
  apply hHandler.bind
  intro handlerNotes
  apply (hChannel handlerNotes).bind
  intro channelNotes
  apply ((hEnd (handlerNotes ++ channelNotes)).tellAll _).bind
  intro noteFailures
  apply (hEnd (handlerNotes ++ channelNotes)).clock.bind
  intro finished
  exact Program.ensures_pure fun s w h => ⟨handlerNotes ++ channelNotes, rfl, h⟩

/-- The invariant speaks of the reports so far. -/
theorem ensures_reportAll {I : List CycleReport → S → σ → Prop}
    (h : ∀ policy done, Program.Ensures (I done) (report channel handler policy notifier clock)
      (fun report => I (done ++ [report])) stopped) (policies : List AckPolicy) (done : List CycleReport) :
    Program.Ensures (I done) (reportAll channel handler notifier clock policies) (fun reports => I (done ++ reports))
      stopped := by
  induction policies generalizing done with
  | nil => exact Program.ensures_pure fun _ _ h => by simpa using h
  | cons policy rest ih =>
      apply (h policy done).bind
      intro report
      exact (ih (done ++ [report])).bind fun reports => Program.ensures_pure fun _ _ h => by simpa using h

end Cycle

end ChatRelay
