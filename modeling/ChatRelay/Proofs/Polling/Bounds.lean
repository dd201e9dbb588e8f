import ChatRelay.Polling
import ChatRelay.Proofs.Journal

/-!
How often the loop runs its cycle. Seen from outside, the loop goes round: it asks whether it is cancelled, runs a
cycle, tells of its report and pauses. It leaves the round in one of two places only, and what the reports say has
nothing to do with it.
-/

namespace ChatRelay

/-- What the loop is seen to do. -/
inductive PollStep where
  | asked (cancelled : Bool)
  | ran (report : CycleReport)
  | told (report : CycleReport)
  | paused (interval : Nat)
deriving DecidableEq

namespace PollStep

def ran? : PollStep → Option CycleReport
  | ran report => some report
  | _ => none

def told? : PollStep → Option CycleReport
  | told report => some report
  | _ => none

end PollStep

namespace Polling

open Chronicle (past write)

section Seen

variable {σ : Type}

/-- The same cycle, seen from outside. -/
def seenCycle (cycle : StateM σ CycleReport) : StateM (Chronicle PollStep σ) CycleReport := do
  let report ← past cycle
  write fun _ => .ran report
  return report

/-- The same hooks, seen from outside. -/
def seenHooks (hooks : PollingHooks (StateM σ)) : PollingHooks (StateM (Chronicle PollStep σ)) where
  isCancelled := do
    let cancelled ← past hooks.isCancelled
    write fun _ => .asked cancelled
    return cancelled
  onCycle report := do
    past (hooks.onCycle report)
    write fun _ => .told report
  pause interval := do
    past (hooks.pause interval)
    write fun _ => .paused interval

end Seen

/-- Once round, with a cycle that is not the last one. -/
def round (options : PollingOptions) (report : CycleReport) : List PollStep :=
  [.asked false, .ran report, .told report, .paused options.pollInterval]

/-- A course of the loop after a number of cycles: the reports of its further cycles and the steps that are seen. The
loop can be left before a cycle, when it is cancelled, and after one, when it is done. It breaks off when the fuel is
used up. -/
inductive Course (options : PollingOptions) : (fuel cycles : Nat) → List CycleReport → List PollStep → Prop where
  | starved {cycles : Nat} : Course options 0 cycles [] []
  | cancelled {fuel cycles : Nat} : Course options (fuel + 1) cycles [] [.asked true]
  | done {fuel cycles : Nat} {report : CycleReport} (h : options.isDone (cycles + 1) = true) :
      Course options (fuel + 1) cycles [report] [.asked false, .ran report, .told report]
  | next {fuel cycles : Nat} {report : CycleReport} {reports : List CycleReport} {steps : List PollStep}
      (h : options.isDone (cycles + 1) = false) (rest : Course options fuel (cycles + 1) reports steps) :
      Course options (fuel + 1) cycles (report :: reports) (round options report ++ steps)

section Rounds

variable {σ : Type} {cycle : StateM σ CycleReport} {options : PollingOptions} {hooks : PollingHooks (StateM σ)}
  {fuel cycles : Nat} {last : Option CycleReport} {report : CycleReport} {w w₁ w₂ w₃ w₄ : σ}

/-- The first way through the loop: it is cancelled before a cycle. -/
theorem runFrom_of_cancelled (hAsk : hooks.isCancelled w = (true, w₁)) :
    runFrom cycle options hooks (fuel + 1) cycles last w = (last, w₁) := by
  rw [runFrom, bind_of_run _ hAsk]
  rfl

/-- The second way: the cycle was the last one. -/
theorem runFrom_of_done (hAsk : hooks.isCancelled w = (false, w₁)) (hCycle : cycle w₁ = (report, w₂))
    (hTell : hooks.onCycle report w₂ = ((), w₃)) (hDone : options.isDone (cycles + 1) = true) :
    runFrom cycle options hooks (fuel + 1) cycles last w = (some report, w₃) := by
  rw [runFrom, bind_of_run _ hAsk, if_neg Bool.false_ne_true, bind_of_run _ hCycle, bind_of_run _ hTell, if_pos hDone]
  rfl

/-- The third way: once round, and on with the fuel that is left. -/
theorem runFrom_of_next (hAsk : hooks.isCancelled w = (false, w₁)) (hCycle : cycle w₁ = (report, w₂))
    (hTell : hooks.onCycle report w₂ = ((), w₃)) (hPause : hooks.pause options.pollInterval w₃ = ((), w₄))
    (hNext : options.isDone (cycles + 1) = false) :
    runFrom cycle options hooks (fuel + 1) cycles last w =
      runFrom cycle options hooks fuel (cycles + 1) (some report) w₄ := by
  rw [runFrom, bind_of_run _ hAsk, if_neg Bool.false_ne_true, bind_of_run _ hCycle, bind_of_run _ hTell,
    if_neg (by simp [hNext]), bind_of_run _ hPause]

variable {entries : List PollStep} {cancelled : Bool}

theorem seenHooks_isCancelled (hAsk : hooks.isCancelled w = (cancelled, w₁)) :
    (seenHooks hooks).isCancelled ⟨w, entries⟩ = (cancelled, ⟨w₁, entries ++ [.asked cancelled]⟩) :=
  bind_of_run _ (Chronicle.past_of_run hAsk)

theorem seenCycle_run (hCycle : cycle w = (report, w₁)) :
    seenCycle cycle ⟨w, entries⟩ = (report, ⟨w₁, entries ++ [.ran report]⟩) :=
  bind_of_run _ (Chronicle.past_of_run hCycle)

theorem seenHooks_onCycle (hTell : hooks.onCycle report w = ((), w₁)) :
    (seenHooks hooks).onCycle report ⟨w, entries⟩ = ((), ⟨w₁, entries ++ [.told report]⟩) :=
  bind_of_run _ (Chronicle.past_of_run hTell)

theorem seenHooks_pause {interval : Nat} (hPause : hooks.pause interval w = ((), w₁)) :
    (seenHooks hooks).pause interval ⟨w, entries⟩ = ((), ⟨w₁, entries ++ [.paused interval]⟩) :=
  bind_of_run _ (Chronicle.past_of_run hPause)

end Rounds

/-- The loop takes a course, and with more fuel the same one unless it used up all of it. -/
theorem exists_course {σ : Type} (cycle : StateM σ CycleReport) (options : PollingOptions)
    (hooks : PollingHooks (StateM σ)) (fuel cycles : Nat) (last : Option CycleReport) (w : σ)
    (entries : List PollStep) :
    ∃ reports steps w', Course options fuel cycles reports steps ∧
      (∀ more, more = 0 ∨ reports.length < fuel →
        runFrom cycle options hooks (fuel + more) cycles last w = (reports.getLast?.or last, w')) ∧
      runFrom (seenCycle cycle) options (seenHooks hooks) fuel cycles last ⟨w, entries⟩ =
        (reports.getLast?.or last, ⟨w', entries ++ steps⟩) := by
  -- for every number of cycles and every last report, since a round changes both
  induction fuel generalizing cycles last w entries with
  | zero =>
      refine ⟨[], [], w, .starved, fun more hMore => ?_, ?_⟩
      · obtain rfl := hMore.resolve_right (Nat.not_lt_zero _)
        rfl
      · rw [List.append_nil]
        rfl
  | succ fuel ih =>
      rcases hAsk : hooks.isCancelled w with ⟨cancelled, w₁⟩
      cases cancelled with
      | true =>
          refine ⟨[], [.asked true], w₁, .cancelled, fun more _ => ?_,
            runFrom_of_cancelled (seenHooks_isCancelled hAsk)⟩
          rw [Nat.add_right_comm]
          exact runFrom_of_cancelled hAsk
      | false =>
          rcases hCycle : cycle w₁ with ⟨report, w₂⟩
          rcases hTell : hooks.onCycle report w₂ with ⟨⟨⟩, w₃⟩
          have hSeenAsk : (seenHooks hooks).isCancelled ⟨w, entries⟩ = _ := seenHooks_isCancelled hAsk
          cases hDone : options.isDone (cycles + 1) with
          | true =>
              refine ⟨[report], [.asked false, .ran report, .told report], w₃, .done hDone, fun more _ => ?_, ?_⟩
              · rw [Nat.add_right_comm]
                exact runFrom_of_done hAsk hCycle hTell hDone
              · rw [runFrom_of_done hSeenAsk (seenCycle_run hCycle) (seenHooks_onCycle hTell) hDone]
                simp
          | false =>
              rcases hPause : hooks.pause options.pollInterval w₃ with ⟨⟨⟩, w₄⟩
              obtain ⟨reports, steps, w', hRest, hPlain, hSeen⟩ :=
                ih (cycles + 1) (some report) w₄ (entries ++ round options report)
              have hLast : (report :: reports).getLast?.or last = reports.getLast?.or (some report) := by
                rw [List.getLast?_cons]
                cases reports.getLast? <;> rfl
              refine ⟨report :: reports, round options report ++ steps, w', .next hDone hRest, fun more hMore => ?_, ?_⟩
              · rw [Nat.add_right_comm, runFrom_of_next hAsk hCycle hTell hPause hDone, hLast]
                exact hPlain more (hMore.imp_right Nat.lt_of_succ_lt_succ)
              · have hRound : ((((entries ++ [.asked false]) ++ [.ran report]) ++ [.told report]) ++
                    [.paused options.pollInterval]) = entries ++ round options report := by
                  simp [round]
                rw [runFrom_of_next hSeenAsk (seenCycle_run hCycle) (seenHooks_onCycle hTell) (seenHooks_pause hPause)
                  hDone, hRound, hSeen, hLast, List.append_assoc]

section Courses

variable {options : PollingOptions} {fuel cycles : Nat} {reports : List CycleReport} {steps : List PollStep}

/-- Every report is of one cycle, and is told once. -/
theorem Course.reports_eq (h : Course options fuel cycles reports steps) :
    steps.filterMap PollStep.ran? = reports ∧ steps.filterMap PollStep.told? = reports := by
  induction h with
  | starved => exact ⟨rfl, rfl⟩
  | cancelled => exact ⟨rfl, rfl⟩
  | done _ => exact ⟨rfl, rfl⟩
  | next _ _ ih =>
      rw [List.filterMap_append, List.filterMap_append, ih.1, ih.2]
      exact ⟨rfl, rfl⟩

/-- Between two cycles the loop is not done. -/
theorem Course.not_done (h : Course options fuel cycles reports steps) {k : Nat} (hSome : 0 < k)
    (hLess : k < reports.length) : options.isDone (cycles + k) = false := by
  induction h generalizing k with
  | starved => exact absurd hLess (Nat.not_lt_zero k)
  | cancelled => exact absurd hLess (Nat.not_lt_zero k)
  | done _ =>
      simp only [List.length_singleton] at hLess
      omega
  | next hNot _ ih =>
      obtain ⟨k, rfl⟩ := Nat.exists_eq_succ_of_ne_zero (Nat.ne_of_gt hSome)
      rcases Nat.eq_zero_or_pos k with rfl | hPos
      · exact hNot
      · have hRest := ih hPos (Nat.lt_of_succ_lt_succ hLess)
        rwa [Nat.add_right_comm] at hRest

theorem asked_true_not_mem_round {report : CycleReport} : .asked true ∉ round options report := by
  simp [round]

/-- Nothing happens once the loop knows that it is cancelled. -/
theorem Course.eq_nil_of_cancelled (h : Course options fuel cycles reports steps) {before after : List PollStep}
    (hParts : steps = before ++ .asked true :: after) : after = [] := by
  induction h generalizing before with
  | starved => simp at hParts
  | cancelled =>
      cases before with
      | nil => exact (List.cons.inj hParts).2.symm
      | cons step before => simp at hParts
  | done _ =>
      have hMem : PollStep.asked true ∈ before ++ .asked true :: after := by simp
      rw [← hParts] at hMem
      simp at hMem
  | next _ _ ih =>
      rcases List.append_eq_append_iff.mp hParts with ⟨between, -, hRest⟩ | ⟨between, hRound, hRest⟩
      · exact ih hRest
      · -- the answer is not part of the round, so that it comes right behind it
        cases between with
        | nil =>
            have hFirst : _ = [] ++ .asked true :: after := hRest.symm
            exact ih hFirst
        | cons step between =>
            obtain ⟨rfl, -⟩ := List.cons.inj hRest
            exact absurd (hRound ▸ List.mem_append_right _ List.mem_cons_self) asked_true_not_mem_round

/-- No more cycles run than it takes for the loop to be done. -/
theorem Course.length_le (h : Course options fuel 0 reports steps) {most : Nat} (hSome : 0 < most)
    (hMost : options.isDone most = true) : reports.length ≤ most := by
  refine Nat.le_of_not_lt fun hMore => ?_
  have hNot := h.not_done hSome hMore
  rw [Nat.zero_add, hMost] at hNot
  cases hNot

end Courses

/-- How the loop ends after a number of cycles, with all that is seen of it: it goes round, and then it learns that it
is cancelled, or runs a cycle after which it is done. Without either, it goes on as long as there is fuel. -/
inductive Ending (options : PollingOptions) (fuel cycles : Nat) : List CycleReport → List PollStep → Prop where
  | cancelled (reports : List CycleReport) :
      Ending options fuel cycles reports (reports.flatMap (round options) ++ [.asked true])
  | done (earlier : List CycleReport) (last : CycleReport) (h : options.isDone (cycles + earlier.length + 1) = true) :
      Ending options fuel cycles (earlier ++ [last])
        (earlier.flatMap (round options) ++ [.asked false, .ran last, .told last])
  | starved (reports : List CycleReport) (h : reports.length = fuel) :
      Ending options fuel cycles reports (reports.flatMap (round options))

section Endings

variable {options : PollingOptions} {fuel cycles : Nat} {reports : List CycleReport} {steps : List PollStep}

/-- A round more before the end. -/
theorem Ending.next (h : Ending options fuel (cycles + 1) reports steps) (report : CycleReport) :
    Ending options (fuel + 1) cycles (report :: reports) (round options report ++ steps) := by
  cases h with
  | cancelled => exact .cancelled (report :: reports)
  | done earlier last hDone =>
      have hSame : cycles + (report :: earlier).length + 1 = cycles + 1 + earlier.length + 1 := by
        rw [List.length_cons]
        omega
      exact .done (report :: earlier) last (hSame ▸ hDone)
  | starved _ hFuel =>
      rw [← List.flatMap_cons]
      exact .starved (report :: reports) (congrArg Nat.succ hFuel)

/-- Every course of the loop comes to one of the three ends, by induction on the course. -/
theorem Course.ending (h : Course options fuel cycles reports steps) : Ending options fuel cycles reports steps := by
  induction h with
  | starved => exact .starved [] rfl
  | cancelled => exact .cancelled []
  | done hDone => exact .done [] _ hDone
  | next _ _ ih => exact ih.next _

end Endings

/-- **The loop respects its bounds.** Whatever the channel, the handler, the notifier, the clock and the hooks do: the
loop runs no more cycles than the options allow, where a first one is always allowed, and one at most if it is to run
once. Each report is told once, in order, and nothing happens after the loop has learned that it is cancelled. The
result is the last report, so that there is none exactly if no cycle ran. Before the fuel is used up, the loop ends only
because it is cancelled or because of the number of its cycles, and then more fuel makes no difference. -/
theorem bounds_respected {σ : Type} (channel : Channel (StateM σ)) (handler : Handler (StateM σ))
    (notifier : Option (Notifier (StateM σ))) (clock : StateM σ Nat) (options : PollingOptions)
    (hooks : PollingHooks (StateM σ)) (fuel : Nat) (w : σ) :
    let cycle := Cycle.report channel handler options.ackPolicy notifier clock
    ∃ reports steps w',
      run cycle options hooks fuel w = (reports.getLast?, w') ∧
      run (seenCycle cycle) options (seenHooks hooks) fuel ⟨w, []⟩ = (reports.getLast?, ⟨w', steps⟩) ∧
      steps.filterMap PollStep.ran? = reports ∧ steps.filterMap PollStep.told? = reports ∧
      ((run cycle options hooks fuel w).1 = none ↔ reports = []) ∧
      (∀ most, options.maxCycles = some most → reports.length ≤ max most 1) ∧
      (options.once = true → reports.length ≤ 1) ∧
      (∀ before after, steps = before ++ .asked true :: after → after = []) ∧
      Ending options fuel 0 reports steps ∧
      (reports.length < fuel → ∀ more, run cycle options hooks (fuel + more) w = (reports.getLast?, w')) := by
  intro cycle
  obtain ⟨reports, steps, w', hCourse, hPlain, hSeen⟩ := exists_course cycle options hooks fuel 0 none w []
  rw [Option.or_none] at hPlain hSeen
  have hRun : run cycle options hooks fuel w = (reports.getLast?, w') := hPlain 0 (.inl rfl)
  refine ⟨reports, steps, w', hRun, hSeen, hCourse.reports_eq.1, hCourse.reports_eq.2, ?_, fun most hMost => ?_,
    fun hOnce => ?_, fun before after => hCourse.eq_nil_of_cancelled, hCourse.ending,
    fun hLess more => hPlain more (.inr hLess)⟩
  · rw [hRun]
    exact List.getLast?_eq_none_iff
  · have hDone : options.isDone (max most 1) = true := by
      simp only [PollingOptions.isDone, hMost, Bool.or_eq_true, decide_eq_true_eq]
      exact .inr (Nat.le_max_left most 1)
    exact hCourse.length_le (Nat.lt_of_lt_of_le Nat.one_pos (Nat.le_max_right most 1)) hDone
  · have hDone : options.isDone 1 = true := by simp [PollingOptions.isDone, hOnce]
    exact hCourse.length_le Nat.one_pos hDone

/-- A channel that is down. The world counts the tries. -/
def downChannel : Channel (StateM Nat) where
  fetch := fun tries => (.error (.external "down"), tries + 1)
  send _ := pure (.ok ())
  acknowledge _ := pure (.ok ())
  drain := pure []

def silentHandler : Handler (StateM Nat) where
  handle _ _ := pure (.ok none)
  drain := pure []

/-- Hooks that ask to stop after a number of tries. -/
def stopAfter (most : Nat) : PollingHooks (StateM Nat) where
  isCancelled := fun tries => (decide (most ≤ tries), tries)
  onCycle _ := pure ()
  pause _ := pure ()

/-- Options for a loop that pauses for a moment between its cycles, of which there may be a number. -/
def atMost (most : Nat) : PollingOptions :=
  { ackPolicy := .always, pollInterval := 1, once := false, maxCycles := some most }

/-- Failed cycles count like any other. -/
theorem bounds_respected_by_failures :
    ∃ (reports : List CycleReport) (w' : Nat),
      run (Cycle.report downChannel silentHandler .always none (pure 0)) (atMost 3) (stopAfter 5) 10 0 =
        (reports.getLast?, w') ∧
      reports.length = 3 ∧ ∀ report ∈ reports, report.result.status = .failed := by
  obtain ⟨reports, steps, w', hRun, hSeen, hReports, -⟩ :=
    bounds_respected downChannel silentHandler none (pure 0) (atMost 3) (stopAfter 5) 10 0
  have hSteps := congrArg (fun r => r.2.entries.filterMap PollStep.ran?) hSeen
  rw [hReports] at hSteps
  refine ⟨reports, w', hRun, ?_⟩
  rw [← hSteps]
  decide +kernel

/-- A first cycle runs even if there may be none. -/
theorem one_cycle_of_none :
    (atMost 0).maxCycles = some 0 ∧
      (run (seenCycle (Cycle.report downChannel silentHandler .always none (pure 0))) (atMost 0)
        (seenHooks (stopAfter 5)) 10 ⟨0, []⟩).2.entries.countP (fun step => step.ran?.isSome) = 1 := by
  decide +kernel

end Polling

end ChatRelay
