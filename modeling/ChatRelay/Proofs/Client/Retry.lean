import Mathlib.Order.Bounds.Defs
import ChatRelay.Client
import ChatRelay.Proofs.Process
import ChatRelay.Proofs.UpdateId

/-!
The course of a request. The client attempts until the first outcome that settles the request, and waits
between two attempts and at no other time. What the transport answers may depend on all that happened before,
so the outcomes of the attempts can be any sequence.
-/

namespace ChatRelay

open ChatRelay.Json (Value)
open ChatRelay.Http (Exchange Transport)

/-- What a client does with its transport. -/
inductive Deed where
  | posted (request : Http.Request) (exchange : Exchange)
  | read (time : Int)
  | slept (delay : Nat)

def Deed.isPost : Deed → Bool
  | .posted _ _ => true
  | .read _ | .slept _ => false

/-- What one attempt brings: an exchange, and the time at which it was over. -/
structure Trial where
  exchange : Exchange
  time : Int

def Trial.outcome (trial : Trial) (operation : Operation) : Except ApiError Value :=
  Client.exchangeResult operation trial.time trial.exchange

/-- What the client does in one attempt. -/
def Trial.deeds (trial : Trial) (request : Http.Request) : List Deed :=
  [.posted request trial.exchange, .read trial.time]

/-- Whether the outcome of an attempt ends a request: it is a success, or a failure that will not pass, or
the last retry is used up. -/
def Settles (maxRetries attempt : Nat) : Except ApiError Value → Prop
  | .ok _ => True
  | .error e => e.transient = false ∨ attempt = maxRetries

/-- The wait that an outcome asks for. -/
def hint? : Except ApiError Value → Option Nat
  | .ok _ => none
  | .error e => e.retryAfterSeconds

/-- The wait between an attempt and the next one, in milliseconds. -/
def ClientConfig.waitAfter (config : ClientConfig) (attempt : Nat) (outcome : Except ApiError Value) : Nat :=
  match hint? outcome with
  | some seconds => seconds * 1000
  | none => (config.backoff[min attempt (config.backoff.length - 1)]?).getD 0

/-- Attempts up to the one with a number, with a wait after each but the last. -/
def deedsUpTo (attempts : Nat → List Deed) (waits : Nat → Nat) (k : Nat) : List Deed :=
  ((List.range k).flatMap fun i => attempts i ++ [.slept (waits i)]) ++ attempts k

section Log

variable {attempts : Nat → List Deed} {waits : Nat → Nat} {k : Nat}

/-- The deeds up to an attempt are those of the first one, a wait, and the deeds of the rest. -/
theorem deedsUpTo_succ :
    deedsUpTo attempts waits (k + 1) =
      attempts 0 ++ [.slept (waits 0)] ++ deedsUpTo (fun i => attempts (i + 1)) (fun i => waits (i + 1)) k := by
  simp [deedsUpTo, List.range_succ_eq_map, List.flatMap_map]

/-- With one post for each attempt, the number of posts is one more than that of the waits. -/
theorem countP_deedsUpTo (h : ∀ i, (attempts i).countP Deed.isPost = 1) :
    (deedsUpTo attempts waits k).countP Deed.isPost = k + 1 := by
  induction k generalizing attempts waits with
  | zero => exact h 0
  | succ k ih =>
      rw [deedsUpTo_succ, List.countP_append, List.countP_append, h 0, ih fun i => h (i + 1)]
      show 1 + 0 + (k + 1) = k + 1 + 1
      omega

/-- Every post belongs to one of the attempts. -/
theorem posted_of_mem_deedsUpTo {request : Http.Request} {exchange : Exchange}
    (h : .posted request exchange ∈ deedsUpTo attempts waits k) :
    ∃ i ≤ k, .posted request exchange ∈ attempts i := by
  rcases List.mem_append.1 h with hEarlier | hLast
  · obtain ⟨i, hIn, hMem⟩ := List.mem_flatMap.1 hEarlier
    exact ⟨i, Nat.le_of_lt (List.mem_range.1 hIn), by simpa using hMem⟩
  · exact ⟨k, Nat.le_refl k, hLast⟩

end Log

section Logged

variable {σ : Type}

/-- The same transport with a log of its use, which nothing in the world depends on. -/
def Http.Transport.logged (transport : Transport (StateM σ)) :
    Transport (StateT (List Deed) (StateM σ)) where
  exchange request := do
    let exchange ← transport.exchange request
    modify (· ++ [.posted request exchange])
    return exchange
  sleep delay := do
    transport.sleep delay
    modify (· ++ [.slept delay])
  now := do
    let time ← transport.now
    modify (· ++ [.read time])
    return time

end Logged

/-- An outcome settles a request with one retry more when it does so without it, one attempt earlier. -/
theorem settles_succ_succ {left attempt : Nat} {outcome : Except ApiError Value} :
    Settles (left + 1) (attempt + 1) outcome ↔ Settles left attempt outcome := by
  cases outcome with
  | ok v => exact Iff.rfl
  | error e => simp [Settles]

/-- The least number with a property that zero does not have is the one after the least predecessor. -/
theorem isLeast_succ {P : Nat → Prop} {k : Nat} (hZero : ¬ P 0) (h : IsLeast {i | P (i + 1)} k) :
    IsLeast {i | P i} (k + 1) := by
  constructor
  · exact h.1
  · intro i hi
    cases i with
    | zero => exact absurd hi hZero
    | succ i => exact Nat.succ_le_succ (h.2 hi)

namespace Client

/-- What a usable configuration passes on to its client. An empty schedule becomes a single zero. -/
theorem make_eq_ok {config : ClientConfig} {client : Client} (hMake : make config = .ok client) :
    client.maxRetries = config.maxRetries ∧
      client.backoff = if config.backoff.isEmpty then [0] else config.backoff := by
  simp only [make] at hMake
  split at hMake
  · cases hMake
  split at hMake
  · cases hMake
  split at hMake
  · cases hMake
  cases hMake
  exact ⟨rfl, rfl⟩

/-- The schedule of a client is that of its configuration, where the last entry stands for all later ones
and an empty list for no waiting. -/
theorem scheduled_make {config : ClientConfig} {client : Client} (hMake : make config = .ok client)
    (attempt : Nat) :
    client.scheduled attempt = (config.backoff[min attempt (config.backoff.length - 1)]?).getD 0 := by
  rw [scheduled, (make_eq_ok hMake).2]
  match config.backoff with
  | [] => cases attempt <;> rfl
  | delay :: rest =>
      show (match (delay :: rest)[attempt]? with
        | some wait => wait
        | none => (delay :: rest).getLast?.getD 0) = _
      by_cases hIn : attempt < (delay :: rest).length
      · rw [Nat.min_eq_left (by omega), List.getElem?_eq_getElem hIn]
        rfl
      · rw [Nat.min_eq_right (by omega), List.getElem?_eq_none (by omega), List.getLast?_eq_getElem?]

theorem delayAfter_make {config : ClientConfig} {client : Client} (hMake : make config = .ok client)
    (attempt : Nat) (e : ApiError) : client.delayAfter attempt e = config.waitAfter attempt (.error e) := by
  rw [delayAfter, ClientConfig.waitAfter, scheduled_make hMake]
  rfl

variable {σ : Type}

/-- The request that an attempt posts. Only its number tells it from that of another attempt. -/
def posting (client : Client) (operation : Operation) (body : Value) (extraTime attempt : Nat) :
    Http.Request :=
  { url := client.url operation
    attempt := attempt
    body := body.print
    timeout := client.timeout + extraTime }

/-- One exchange, and the time after it. -/
def trial (transport : Transport (StateM σ)) (request : Http.Request) : StateM σ Trial := do
  let exchange ← transport.exchange request
  return { exchange := exchange, time := ← transport.now }

section Next

variable {m : Type → Type} [Monad m]

/-- What follows on the outcome of an attempt. -/
def next (client : Client) (sleep : Nat → m Unit) (once : Nat → m (Except ApiError Value)) (attempt : Nat) :
    (left : Nat) → Except ApiError Value → m (Except ApiError Value)
  | _, .ok v => pure (.ok v)
  | 0, .error e => pure (.error e)
  | left + 1, .error e =>
      if e.transient then do
        sleep (client.delayAfter attempt e)
        client.attemptFrom sleep once left (attempt + 1)
      else pure (.error e)

variable {client : Client} {sleep : Nat → m Unit} {once : Nat → m (Except ApiError Value)} {left attempt : Nat}

/-- One attempt is made, and its outcome decides on the rest. -/
theorem attemptFrom_eq :
    client.attemptFrom sleep once left attempt = once attempt >>= client.next sleep once attempt left := by
  rw [attemptFrom.eq_def]
  show once attempt >>= _ = _
  congr 1
  funext outcome
  cases outcome with
  | ok v => rfl
  | error e => cases left <;> cases hPasses : e.transient <;> simp [next, hPasses]

/-- An outcome that settles the request is returned at once. -/
theorem next_of_settles {outcome : Except ApiError Value} (h : Settles left 0 outcome) :
    client.next sleep once attempt left outcome = pure outcome := by
  cases outcome with
  | ok v => rfl
  | error e =>
      cases left with
      | zero => rfl
      | succ left =>
          have hStays : e.transient = false := h.resolve_right (by omega)
          simp [next, hStays]

/-- An outcome that does not settle a request is a failure that may pass, with a retry left. -/
theorem eq_error_of_not_settles {outcome : Except ApiError Value} (h : ¬ Settles left 0 outcome) :
    ∃ e rest, outcome = .error e ∧ left = rest + 1 ∧ e.transient = true := by
  cases outcome with
  | ok v => exact absurd trivial h
  | error e =>
      simp only [Settles, not_or, Bool.not_eq_false] at h
      exact ⟨e, left - 1, rfl, by omega, h.1⟩

end Next

section Course

variable (client : Client) (transport : Transport (StateM σ)) (operation : Operation) (body : Value)
  (extraTime : Nat)

/-- An attempt is one trial. -/
theorem attemptFrom_run {left attempt : Nat} {w w' : σ} {t : Trial}
    (hTrial : trial transport (client.posting operation body extraTime attempt) w = (t, w')) :
    client.attemptFrom transport.sleep (client.attempt transport operation body extraTime) left attempt w =
      client.next transport.sleep (client.attempt transport operation body extraTime) attempt left
        (t.outcome operation) w' := by
  have hAttempt : client.attempt transport operation body extraTime attempt w = (t.outcome operation, w') :=
    congrArg (fun r : Trial × σ => (r.1.outcome operation, r.2)) hTrial
  rw [attemptFrom_eq]
  exact bind_of_run _ hAttempt

/-- An attempt is logged as an exchange and a look at the clock. -/
theorem attemptFrom_logged {left attempt : Nat} {w w' : σ} {t : Trial} (log : List Deed)
    (hTrial : trial transport (client.posting operation body extraTime attempt) w = (t, w')) :
    client.attemptFrom transport.logged.sleep (client.attempt transport.logged operation body extraTime)
        left attempt log w =
      client.next transport.logged.sleep (client.attempt transport.logged operation body extraTime) attempt
        left (t.outcome operation)
        (log ++ t.deeds (client.posting operation body extraTime attempt)) w' := by
  have hAttempt : client.attempt transport.logged operation body extraTime attempt log w =
      ((t.outcome operation, log ++ t.deeds (client.posting operation body extraTime attempt)), w') := by
    refine Eq.trans ?_ (congrArg (fun r : Trial × σ => ((r.1.outcome operation,
      log ++ r.1.deeds (client.posting operation body extraTime attempt)), r.2)) hTrial)
    show ((_, log ++ [_] ++ [_]), _) = ((_, log ++ ([_] ++ [_])), _)
    rw [List.append_assoc]
    rfl
  rw [attemptFrom_eq]
  exact congrArg (fun r : (Except ApiError Value × List Deed) × σ =>
    client.next transport.logged.sleep (client.attempt transport.logged operation body extraTime) attempt left
      r.1.1 r.1.2 r.2) hAttempt

/-- The attempts from one on: they end with the first outcome that settles the request, and both the world and
the log go through them one by one. -/
def Course (config : ClientConfig) (left attempt : Nat) (w : σ) (log : List Deed) : Prop :=
  ∃ (trials : Nat → Trial) (k : Nat) (w' : σ),
    let outcome i := (trials i).outcome operation
    let attempts i := (trials i).deeds (client.posting operation body extraTime (attempt + i))
    let waits i := config.waitAfter (attempt + i) (outcome i)
    IsLeast {i | Settles left i (outcome i)} k ∧
    client.attemptFrom transport.sleep (client.attempt transport operation body extraTime) left attempt w =
      (outcome k, w') ∧
    client.attemptFrom transport.logged.sleep (client.attempt transport.logged operation body extraTime)
        left attempt log w =
      ((outcome k, log ++ deedsUpTo attempts waits k), w')

variable {client transport operation body extraTime}
variable {config : ClientConfig} {left attempt : Nat} {w : σ} {log : List Deed}

/-- The course of a request whose next attempt settles it: one post, and no wait. -/
theorem course_of_settles {t : Trial} {w' : σ}
    (hTrial : trial transport (client.posting operation body extraTime attempt) w = (t, w'))
    (hSettles : Settles left 0 (t.outcome operation)) :
    Course client transport operation body extraTime config left attempt w log := by
  refine ⟨fun _ => t, 0, w', ⟨hSettles, fun i _ => Nat.zero_le i⟩, ?_, ?_⟩
  · rw [attemptFrom_run client transport operation body extraTime hTrial, next_of_settles hSettles]
    rfl
  · rw [attemptFrom_logged client transport operation body extraTime log hTrial, next_of_settles hSettles]
    rfl

/-- A failure that may pass is followed by its wait and then by the other attempts. -/
theorem course_succ (hMake : make config = .ok client) {t : Trial} {w' : σ} {e : ApiError}
    (hTrial : trial transport (client.posting operation body extraTime attempt) w = (t, w'))
    (hOutcome : t.outcome operation = .error e) (hPasses : e.transient = true)
    (hRest : Course client transport operation body extraTime config left (attempt + 1)
      (transport.sleep (config.waitAfter attempt (.error e)) w').2
      (log ++ t.deeds (client.posting operation body extraTime attempt) ++
        [.slept (config.waitAfter attempt (.error e))])) :
    Course client transport operation body extraTime config (left + 1) attempt w log := by
  obtain ⟨trials, k, last, hLeast, hPlain, hLogged⟩ := hRest
  -- the first trial stands before the others
  let all : Nat → Trial := fun i => Nat.casesOn (motive := fun _ => Trial) i t trials
  have hFirst : (all 0).outcome operation = .error e := hOutcome
  have hNumber (i : Nat) : attempt + 1 + i = attempt + (i + 1) := by omega
  refine ⟨all, k + 1, last, isLeast_succ ?_ ?_, ?_, ?_⟩
  · show ¬ Settles (left + 1) 0 ((all 0).outcome operation)
    rw [hFirst]
    simp [Settles, hPasses]
  · simpa only [settles_succ_succ] using hLeast
  · rw [attemptFrom_run client transport operation body extraTime hTrial, hOutcome, next, if_pos hPasses,
      delayAfter_make hMake]
    exact hPlain
  · rw [attemptFrom_logged client transport operation body extraTime log hTrial, hOutcome, next,
      if_pos hPasses, delayAfter_make hMake]
    refine hLogged.trans ?_
    simp only [deedsUpTo_succ, hNumber, hFirst, List.append_assoc, Nat.add_zero]
    rfl

/-- Run lemma for the retries: by induction on the attempts that are left, a request takes the course up to the first
attempt that settles it, whatever the transport does. -/
theorem course_attemptFrom (hMake : make config = .ok client) (left attempt : Nat) (w : σ) (log : List Deed) :
    Course client transport operation body extraTime config left attempt w log := by
  induction left generalizing attempt w log with
  | zero =>
      by_cases hSettles : Settles 0 0
          ((trial transport (client.posting operation body extraTime attempt) w).1.outcome operation)
      · exact course_of_settles rfl hSettles
      · obtain ⟨e, rest, -, hLeft, -⟩ := eq_error_of_not_settles hSettles
        omega
  | succ left ih =>
      by_cases hSettles : Settles (left + 1) 0
          ((trial transport (client.posting operation body extraTime attempt) w).1.outcome operation)
      · exact course_of_settles rfl hSettles
      · obtain ⟨e, rest, hOutcome, -, hPasses⟩ := eq_error_of_not_settles hSettles
        exact course_succ hMake rfl hOutcome hPasses (ih _ _ _)

end Course

/-- **A request is attempted until the first outcome that settles it, and returns that outcome.** Whatever the
transport answers, there is a first outcome that is a success, or a failure that will not pass, or that of the
last retry. The attempts are made one after another up to that one and no further, all with the same body and
each with its own number. Between two of them the client sleeps, as long as the last failure asks for or else as
long as the schedule of the configuration says. There is at most one attempt more than there are retries, and
the number of an attempt needs no more than the 32 bits of the number of retries. -/
theorem request_posts_until_settled {config : ClientConfig} {client : Client}
    (hMake : make config = .ok client) (transport : Transport (StateM σ)) (operation : Operation) (body : Value)
    (extraTime : Nat) (w : σ) :
    ∃ (trials : Nat → Trial) (k : Nat) (w' : σ) (deeds : List Deed),
      let outcome i := (trials i).outcome operation
      let attempts i := (trials i).deeds (client.posting operation body extraTime i)
      let waits i := config.waitAfter i (outcome i)
      IsLeast {i | Settles config.maxRetries i (outcome i)} k ∧
      client.request transport operation body extraTime w = (outcome k, w') ∧
      client.request transport.logged operation body extraTime [] w = ((outcome k, deeds), w') ∧
      deeds = deedsUpTo attempts waits k ∧
      deeds.countP Deed.isPost = k + 1 ∧
      k ≤ config.maxRetries ∧
      (config.maxRetries ≤ Text.maxUnsigned32 →
        ∀ request exchange, Deed.posted request exchange ∈ deeds → request.attempt ≤ Text.maxUnsigned32) := by
  have hCourse : Course client transport operation body extraTime config config.maxRetries 0 w [] :=
    course_attemptFrom hMake config.maxRetries 0 w []
  obtain ⟨trials, k, w', hLeast, hPlain, hLogged⟩ := hCourse
  simp only [Nat.zero_add, List.nil_append] at hLogged
  -- the last retry settles the request, whatever its outcome
  have hMost : k ≤ config.maxRetries := by
    refine hLeast.2 ?_
    show Settles config.maxRetries config.maxRetries ((trials config.maxRetries).outcome operation)
    cases (trials config.maxRetries).outcome operation with
    | ok v => trivial
    | error e => exact .inr rfl
  rw [request, request, (make_eq_ok hMake).1]
  refine ⟨trials, k, w', _, hLeast, hPlain, hLogged, rfl, countP_deedsUpTo fun i => rfl, hMost, ?_⟩
  intro hWord request exchange hPosted
  obtain ⟨i, hLe, hMem⟩ := posted_of_mem_deedsUpTo hPosted
  have hRequest : request = client.posting operation body extraTime i := by
    simp only [Trial.deeds, List.mem_cons, Deed.posted.injEq, reduceCtorEq, List.not_mem_nil, or_false] at hMem
    exact hMem.1
  rw [hRequest]
  exact Nat.le_trans (Nat.le_trans hLe hMost) hWord

/-- A transport whose exchanges are given. -/
def scripted : Transport (StateM (List Exchange)) where
  exchange _ := fun
    | [] => (.failed "the script is over", [])
    | exchange :: rest => (exchange, rest)
  sleep _ := pure ()
  now := pure 0

def Deed.delay? : Deed → Option Nat
  | .slept delay => some delay
  | .posted _ _ | .read _ => none

/-- Three failures that may pass, of which the second one asks for seven seconds, and then a success. The third
wait is the last one of a shorter schedule. -/
theorem request_posts_until_success :
    let config : ClientConfig := { token := "t", maxRetries := 5, backoff := [250, 400] }
    let client : Client :=
      { token := "t", apiBase := config.apiBase, timeout := config.timeout, maxRetries := 5, backoff := [250, 400] }
    let script : List Exchange :=
      [ .failed "reset",
        .answered { status := 429, headers := [("Retry-After", "7")], body := "{}".toUTF8 },
        .timedOut "late",
        .answered { status := 200, headers := [], body := "\x7b\"ok\": true, \"result\": 1\x7d".toUTF8 } ]
    make config = .ok client ∧
      ∃ (trials : Nat → Trial) (result : Value) (w' : List Exchange) (deeds : List Deed),
        client.request scripted.logged .sendMessage .null 0 [] script = ((.ok result, deeds), w') ∧
        IsLeast {i | Settles 5 i ((trials i).outcome .sendMessage)} 3 ∧
        deeds.countP Deed.isPost = 4 ∧
        deeds.filterMap Deed.delay? = [250, 7000, 400] := by
  intro config client script
  have hMake : make config = .ok client := eq_ok_of_toOption (by decide +kernel)
  obtain ⟨trials, k, w', deeds, hLeast, -, hLogged, -, hPosts, -, -⟩ :=
    request_posts_until_settled hMake scripted .sendMessage .null 0 script
  have hLog : (client.request scripted.logged .sendMessage .null 0 [] script).1.2 = deeds :=
    congrArg (fun r => r.1.2) hLogged
  have hFour : deeds.countP Deed.isPost = 4 := by
    rw [← hLog]
    decide +kernel
  have hWaits : deeds.filterMap Deed.delay? = [250, 7000, 400] := by
    rw [← hLog]
    decide +kernel
  have hOk : (client.request scripted.logged .sendMessage .null 0 [] script).1.1.isOk = true := by
    decide +kernel
  obtain rfl : k = 3 := by omega
  rw [hLogged] at hOk
  dsimp only at hOk hLogged
  cases hOutcome : (trials 3).outcome .sendMessage with
  | ok result => exact ⟨hMake, trials, result, w', deeds, hOutcome ▸ hLogged, hLeast, hFour, hWaits⟩
  | error e =>
      rw [hOutcome] at hOk
      cases hOk

end Client
end ChatRelay
