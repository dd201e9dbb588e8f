import ChatRelay.Channel
import ChatRelay.BotApi
import ChatRelay.CursorFile

/-!
Processes over a world. The world is everything outside the relay, and it may be of any type: what a
provider, a disk or a handler answers can depend on all that happened before. A process may also be stopped
at any point, and then only the world is left. `Ensures` says what holds when it ends and when it is stopped,
and the rules below follow the structure of a program.
-/

namespace ChatRelay

/-- A computation over a world that may be stopped before it ends. -/
abbrev Process (σ : Type) := OptionT (StateM σ)

/-- A process that carries a state of its own. When it is stopped, that state is lost. -/
abbrev Program (S σ : Type) := StateT S (Process σ)

/-- What is known of the first part of a run decides where the rest starts. -/
theorem bind_of_run {σ α β : Type} {run : StateM σ α} (f : α → StateM σ β) {w w' : σ} {a : α}
    (h : run w = (a, w')) : (run >>= f) w = f a w' := by
  show f (run w).1 (run w).2 = _
  rw [h]

/-- A run in two parts that ends somewhere passes the end of the first part. -/
theorem exists_of_bind_run {σ α β : Type} {run : StateM σ α} {f : α → StateM σ β} {w w' : σ} {b : β}
    (h : (run >>= f) w = (b, w')) : ∃ a mid, run w = (a, mid) ∧ f a mid = (b, w') := ⟨_, _, rfl, h⟩

/-- A run of a program with a state, whose result is wrapped. -/
theorem run_return {S σ α β : Type} {run : StateT S (StateM σ) α} {s s' : S} {w w' : σ} {a : α} (f : α → β)
    (h : run s w = ((a, s'), w')) : (run >>= fun a => pure (f a)) s w = ((f a, s'), w') := by
  have hBind : (run >>= fun a => pure (f a)) s w = (run s >>= fun r => pure (f r.1, r.2)) w := rfl
  rw [hBind, bind_of_run _ h]
  rfl

/-- What holds after a success, and what holds after a failure. -/
def Tried {ε σ : Type} (good bad : σ → Prop) : Except ε Unit → σ → Prop
  | .ok () => good
  | .error _ => bad

namespace Process

variable {σ τ α β : Type}

/-- From every world with `P`, the process ends with a result and a world as in `Q`, or it is stopped
in a world as in `stopped`. -/
def Ensures (P : σ → Prop) (run : Process σ α) (Q : α → σ → Prop) (stopped : σ → Prop) : Prop :=
  ∀ w, P w → match run w with
    | (some a, w') => Q a w'
    | (none, w') => stopped w'

variable {P : σ → Prop} {run : Process σ α} {Q : α → σ → Prop} {stopped : σ → Prop}

/-- What is ensured, read off a run that ended and off a run that was stopped. -/
theorem Ensures.at_end (h : Ensures P run Q stopped) {w : σ} (hw : P w) :
    (∀ a, (run w).1 = some a → Q a (run w).2) ∧ ((run w).1 = none → stopped (run w).2) := by
  have hAll := h w hw
  match hRun : run w with
  | (some a, w') =>
      rw [hRun] at hAll
      refine ⟨fun b hb => ?_, fun hNone => by cases hNone⟩
      cases hb
      exact hAll
  | (none, w') =>
      rw [hRun] at hAll
      exact ⟨fun a ha => (by cases ha), fun _ => hAll⟩

/-- A run with a known result, and with the world that it leaves. -/
theorem run_of_fst {w : σ} {r : Option α} (h : (run w).1 = r) : run w = (r, (run w).2) := Prod.ext h rfl

/-- What is ensured of a run that is known to have ended. -/
theorem Ensures.of_some (h : Ensures P run Q stopped) {w w' : σ} {a : α} (hw : P w)
    (hRun : run w = (some a, w')) : Q a w' := by
  have hAll := h w hw
  rw [hRun] at hAll
  exact hAll

/-- A process that is never stopped ends. -/
theorem Ensures.exists_end (h : Ensures P run Q fun _ => False) {w : σ} (hw : P w) :
    ∃ a w', run w = (some a, w') ∧ Q a w' := by
  have hAll := h w hw
  match hRun : run w with
  | (some a, w') =>
      rw [hRun] at hAll
      exact ⟨a, w', rfl, hAll⟩
  | (none, _) =>
      rw [hRun] at hAll
      exact hAll.elim

/-- What holds at every end and whenever the process is stopped holds after the run. -/
theorem Ensures.always {R : σ → Prop} (h : Ensures P run (fun _ => R) R) {w : σ} (hw : P w) :
    R (run w).2 := by
  have hEnd := h.at_end hw
  cases hRun : (run w).1 with
  | none => exact hEnd.2 hRun
  | some a => exact hEnd.1 a hRun

theorem ensures_pure {a : α} (h : ∀ w, P w → Q a w) : Ensures P (pure a) Q stopped :=
  fun w hw => h w hw

/-- Every process ends or is stopped. -/
theorem ensures_trivial (run : Process σ α) :
    Ensures (fun _ => True) run (fun _ _ => True) (fun _ => True) := by
  intro w _
  match run w with
  | (some _, _) => trivial
  | (none, _) => trivial

theorem bind_of_some {w w' : σ} {a : α} (f : α → Process σ β) (h : run w = (some a, w')) :
    (run >>= f) w = f a w' := by
  simp only [Bind.bind, OptionT.bind, OptionT.mk, StateT.bind]
  rw [h]

theorem bind_of_none {w w' : σ} (f : α → Process σ β) (h : run w = (none, w')) :
    (run >>= f) w = (none, w') := by
  simp only [Bind.bind, OptionT.bind, OptionT.mk, StateT.bind]
  rw [h]
  rfl

/-- The rule for two processes in a row: the rest starts from what the first part ensures, and both may be stopped. -/
theorem Ensures.bind {f : α → Process σ β} {last : β → σ → Prop} (h : Ensures P run Q stopped)
    (hNext : ∀ a, Ensures (Q a) (f a) last stopped) : Ensures P (run >>= f) last stopped := by
  intro w hw
  have hFirst := h w hw
  match hRun : run w with
  | (some a, w') =>
      rw [hRun] at hFirst
      rw [bind_of_some f hRun]
      exact hNext a w' hFirst
  | (none, w') =>
      rw [hRun] at hFirst
      rw [bind_of_none f hRun]
      exact hFirst

/-- The rule of consequence: less may be asked of the start, and more promised, than was proved. -/
theorem Ensures.imp {P' : σ → Prop} {Q' : α → σ → Prop} {stopped' : σ → Prop}
    (h : Ensures P run Q stopped) (hPre : ∀ w, P' w → P w) (hPost : ∀ a w, Q a w → Q' a w)
    (hStopped : ∀ w, stopped w → stopped' w) : Ensures P' run Q' stopped' := by
  intro w hw
  have hAll := h w (hPre w hw)
  match hRun : run w with
  | (some a, w') =>
      rw [hRun] at hAll
      exact hPost a w' hAll
  | (none, w') =>
      rw [hRun] at hAll
      exact hStopped w' hAll

/-- The rule of consequence for a call that may fail. -/
theorem Ensures.tried {ε : Type} {run : Process σ (Except ε Unit)} {good bad good' bad' stopped' : σ → Prop}
    (h : Ensures P run (Tried good bad) stopped) (hGood : ∀ w, good w → good' w) (hBad : ∀ w, bad w → bad' w)
    (hStopped : ∀ w, stopped w → stopped' w) : Ensures P run (Tried good' bad') stopped' := by
  refine h.imp (fun _ hw => hw) (fun r w hEnd => ?_) hStopped
  cases r with
  | ok done => exact hGood w hEnd
  | error e => exact hBad w hEnd

/-- What holds after a success and after a failure alike. -/
theorem Ensures.of_tried {ε : Type} {run : Process σ (Except ε Unit)} {good bad R : σ → Prop}
    (h : Ensures P run (Tried good bad) stopped) (hGood : ∀ w, good w → R w) (hBad : ∀ w, bad w → R w) :
    Ensures P run (fun _ => R) stopped := by
  refine (h.tried hGood hBad fun _ hw => hw).imp (fun _ hw => hw) (fun r w hEnd => ?_) fun _ hw => hw
  cases r with
  | ok done => exact hEnd
  | error e => exact hEnd

/-- Two things that are ensured are ensured together. -/
theorem Ensures.and {P' : σ → Prop} {Q' : α → σ → Prop} {stopped' : σ → Prop} (h : Ensures P run Q stopped)
    (h' : Ensures P' run Q' stopped') :
    Ensures (fun w => P w ∧ P' w) run (fun a w => Q a w ∧ Q' a w) fun w => stopped w ∧ stopped' w := by
  intro w hw
  have hFirst := h w hw.1
  have hSecond := h' w hw.2
  match hRun : run w with
  | (some a, w') =>
      rw [hRun] at hFirst hSecond
      exact ⟨hFirst, hSecond⟩
  | (none, w') =>
      rw [hRun] at hFirst hSecond
      exact ⟨hFirst, hSecond⟩

/-- What holds of every world at the start and is not about the world can be assumed. -/
theorem Ensures.of_fact {F : Prop} (hFact : ∀ w, P w → F) (h : F → Ensures P run Q stopped) :
    Ensures P run Q stopped :=
  fun w hw => h (hFact w hw) w hw

/-- What is not about the world is not changed by what happens to it. -/
theorem ensures_fact (F : Prop) (run : Process σ α) :
    Ensures (fun _ => F) run (fun _ _ => F) fun _ => True :=
  Ensures.of_fact (fun _ h => h) fun hF =>
    (ensures_trivial run).imp (fun _ _ => trivial) (fun _ _ _ => hF) fun _ h => h

/-- A process that is never stopped. -/
def ofState (run : StateM σ α) : Process σ α := fun w => (some (run w).1, (run w).2)

theorem ensures_ofState {run : StateM σ α} (h : ∀ w, P w → Q (run w).1 (run w).2) :
    Ensures P (ofState run) Q stopped := h

/-- A process over a part of a world. -/
def zoom (get : τ → σ) (set : σ → τ → τ) (run : Process σ α) : Process τ α := fun t =>
  ((run (get t)).1, set (run (get t)).2 t)

/-- What a process over a part ensures of the part, told of the whole world. -/
theorem Ensures.zoom {get : τ → σ} {set : σ → τ → τ} {P' : τ → Prop} {Q' : α → τ → Prop}
    {stopped' : τ → Prop} (part : τ → σ → Prop)
    (h : ∀ t, P' t → Ensures (part t) run (fun a w => Q' a (set w t)) fun w => stopped' (set w t))
    (hPart : ∀ t, P' t → part t (get t)) : Ensures P' (run.zoom get set) Q' stopped' := by
  intro t ht
  have hAll := h t ht (get t) (hPart t ht)
  simp only [Process.zoom]
  match hRun : run (get t) with
  | (some a, w) =>
      rw [hRun] at hAll
      exact hAll
  | (none, w) =>
      rw [hRun] at hAll
      exact hAll

/-- What is not about a part of the world is not disturbed in it. -/
theorem ensures_zoom_keep {get : τ → σ} {set : σ → τ → τ} (run : Process σ α) {P R : τ → Prop}
    (hKeep : ∀ w t, P t → P (set w t)) (hStop : ∀ t, P t → R t) :
    Ensures P (run.zoom get set) (fun _ => P) R :=
  Ensures.zoom (fun _ _ => True)
    (fun t ht => (ensures_trivial run).imp (fun _ h => h) (fun _ w _ => hKeep w t ht)
      fun w _ => hStop _ (hKeep w t ht)) fun _ _ => trivial

/-- A process over the first half of a world. -/
def first (run : Process σ α) : Process (σ × τ) α := run.zoom Prod.fst fun w t => (w, t.2)

/-- A process over the second half of a world. -/
def second (run : Process τ α) : Process (σ × τ) α := run.zoom Prod.snd fun w t => (t.1, w)

/-- What happens in the first half leaves the second one alone. -/
theorem ensures_first (run : Process σ α) {E R : τ → Prop} (hStop : ∀ t, E t → R t) :
    Ensures (fun w => E w.2) run.first (fun _ w => E w.2) fun w => R w.2 :=
  ensures_zoom_keep run (fun _ _ h => h) fun t => hStop t.2

/-- What a process ensures of the second half, it ensures beside any first half. -/
theorem Ensures.second {P R : τ → Prop} {run : Process τ α} {Q : α → τ → Prop} (h : Ensures P run Q R) :
    Ensures (fun w : σ × τ => P w.2) run.second (fun a w => Q a w.2) fun w => R w.2 :=
  Ensures.zoom (fun _ => P) (fun _ _ => h) fun _ ht => ht

end Process

namespace Program

variable {S σ α β : Type} {P : S → σ → Prop} {run : Program S σ α} {Q : α → S → σ → Prop}
  {stopped : σ → Prop}

/-- The same for a program with a state. -/
def Ensures (P : S → σ → Prop) (run : Program S σ α) (Q : α → S → σ → Prop)
    (stopped : σ → Prop) : Prop :=
  ∀ s, Process.Ensures (P s) (run s) (fun r => Q r.1 r.2) stopped

/-- A process that does not see the state. -/
def outside (run : Process σ α) : Program S σ α := fun s => run >>= fun a => pure (a, s)

/-- What a process ensures from the worlds of each state, with the state left as it is. -/
theorem ensures_outside {run : Process σ α} (h : ∀ s, Process.Ensures (P s) run (fun a => Q a s) stopped) :
    Ensures P (outside run) Q stopped :=
  fun s => (h s).bind fun _ => Process.ensures_pure fun _ hw => hw

theorem ensures_pure {a : α} (h : ∀ s w, P s w → Q a s w) : Ensures P (pure a) Q stopped :=
  fun s => Process.ensures_pure fun w hw => h s w hw

/-- The rule for two programs in a row. -/
theorem Ensures.bind {f : α → Program S σ β} {last : β → S → σ → Prop} (h : Ensures P run Q stopped)
    (hNext : ∀ a, Ensures (Q a) (f a) last stopped) : Ensures P (run >>= f) last stopped :=
  fun s => (h s).bind fun r => hNext r.1 r.2

theorem ensures_map {f : α → β} {last : β → S → σ → Prop} (h : Ensures P run (fun a => last (f a)) stopped) :
    Ensures P (f <$> run) last stopped := by
  rw [map_eq_pure_bind]
  exact h.bind fun _ => ensures_pure fun _ _ hw => hw

theorem run_map_of_some {s s' : S} {w w' : σ} {a : α} (f : α → β) (h : run s w = (some (a, s'), w')) :
    (f <$> run) s w = (some (f a, s'), w') := by
  rw [map_eq_pure_bind]
  exact Process.bind_of_some _ h

/-- The rule of consequence for programs. -/
theorem Ensures.imp {P' : S → σ → Prop} {Q' : α → S → σ → Prop} {stopped' : σ → Prop}
    (h : Ensures P run Q stopped) (hPre : ∀ s w, P' s w → P s w)
    (hPost : ∀ a s w, Q a s w → Q' a s w) (hStopped : ∀ w, stopped w → stopped' w) :
    Ensures P' run Q' stopped' :=
  fun s => (h s).imp (hPre s) (fun r => hPost r.1 r.2) hStopped

theorem Ensures.and {P' : S → σ → Prop} {Q' : α → S → σ → Prop} {stopped' : σ → Prop}
    (h : Ensures P run Q stopped) (h' : Ensures P' run Q' stopped') :
    Ensures (fun s w => P s w ∧ P' s w) run (fun a s w => Q a s w ∧ Q' a s w) fun w => stopped w ∧ stopped' w :=
  fun s => (h s).and (h' s)

/-- What holds of every state and world at the start and is about neither can be assumed. -/
theorem Ensures.of_fact {F : Prop} (hFact : ∀ s w, P s w → F) (h : F → Ensures P run Q stopped) :
    Ensures P run Q stopped :=
  fun s => Process.Ensures.of_fact (hFact s) fun hF => h hF s

end Program

/-- A provider that gives the same answer each time. -/
def BotApi.constant {m : Type → Type} [Monad m] (updates : List Json.Fields) : BotApi m where
  getUpdates _ := pure (.ok updates)
  sendMessage _ := pure (.ok [])

/-- The same operations in a larger monad. -/
def BotApi.lift {m n : Type → Type} (f : {α : Type} → m α → n α) (api : BotApi m) : BotApi n where
  getUpdates request := f (api.getUpdates request)
  sendMessage request := f (api.sendMessage request)

/-- The same store in a larger monad. -/
def CursorStore.lift {m n : Type → Type} (f : {α : Type} → m α → n α) (store : CursorStore m) :
    CursorStore n where
  load := f store.load
  save floor := f (store.save floor)

end ChatRelay
