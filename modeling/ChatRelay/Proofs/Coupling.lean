import ChatRelay.Proofs.Feed.Calls

/-!
Programs with different states that do the same. Nothing is known of the monad beyond its laws, so that two
coupled programs make the same calls to the world, one after the other, and learn the same from each.
-/

namespace ChatRelay

variable {m : Type → Type} [Monad m] {S T α β : Type}

/-- Whatever follows does the same after both programs, if it does the same from all related states. -/
def Coupled (R : S → T → Prop) (p : m (α × S)) (q : m (α × T)) : Prop :=
  ∀ (γ : Type) (k : α → S → m γ) (k' : α → T → m γ), (∀ a s t, R s t → k a s = k' a t) →
    (p >>= fun r => k r.1 r.2) = q >>= fun r => k' r.1 r.2

namespace Coupled

variable [LawfulMonad m] {R : S → T → Prop}

theorem pure {s : S} {t : T} (a : α) (h : R s t) : Coupled R (Pure.pure (a, s) : m _) (Pure.pure (a, t)) := by
  intro γ k k' hSame
  rw [pure_bind, pure_bind]
  exact hSame a s t h

/-- Two coupled programs in a row. -/
theorem bind {p : m (α × S)} {q : m (α × T)} {f : α → S → m (β × S)} {g : α → T → m (β × T)} (h : Coupled R p q)
    (hNext : ∀ a s t, R s t → Coupled R (f a s) (g a t)) :
    Coupled R (p >>= fun r => f r.1 r.2) (q >>= fun r => g r.1 r.2) := by
  intro γ k k' hSame
  rw [bind_assoc, bind_assoc]
  exact h γ _ _ fun a s t hRelated => hNext a s t hRelated γ k k' hSame

/-- A call to the world that sees neither state. -/
theorem outside {f : α → m (β × S)} {g : α → m (β × T)} (run : m α) (hNext : ∀ a, Coupled R (f a) (g a)) :
    Coupled R (run >>= f) (run >>= g) := by
  intro γ k k' hSame
  rw [bind_assoc, bind_assoc]
  exact bind_congr fun a => hNext a γ k k' hSame

end Coupled

namespace Channel

variable {V : Type}

/-- Perform calls one after the other, and look at the state after each. -/
def showAll (channel : Channel (StateT S m)) (view : S → V) : List Call → S → m (List (Outcome × V))
  | [], _ => return []
  | call :: rest, s => do
      let (outcome, s) ← call.perform channel s
      return (outcome, view s) :: (← showAll channel view rest s)

variable [LawfulMonad m] {R : S → T → Prop} {c : Channel (StateT S m)} {d : Channel (StateT T m)}

/-- Two channels whose operations are coupled. -/
structure Twins (R : S → T → Prop) (c : Channel (StateT S m)) (d : Channel (StateT T m)) : Prop where
  fetch : ∀ s t, R s t → Coupled R (c.fetch s) (d.fetch t)
  send : ∀ outbound s t, R s t → Coupled R (c.send outbound s) (d.send outbound t)
  acknowledge : ∀ id s t, R s t → Coupled R (c.acknowledge id s) (d.acknowledge id t)
  drain : ∀ s t, R s t → Coupled R (c.drain s) (d.drain t)

/-- Twin channels perform every call alike. -/
theorem Twins.perform (h : Twins R c d) (call : Call) {s : S} {t : T} (hRelated : R s t) :
    Coupled R (call.perform c s) (call.perform d t) := by
  cases call with
  | fetch => exact (h.fetch s t hRelated).bind fun answer _ _ hAfter => .pure (Outcome.messages answer) hAfter
  | send outbound =>
      exact (h.send outbound s t hRelated).bind fun answer _ _ hAfter => .pure (Outcome.done answer) hAfter
  | acknowledge id =>
      exact (h.acknowledge id s t hRelated).bind fun answer _ _ hAfter => .pure (Outcome.done answer) hAfter
  | drain => exact (h.drain s t hRelated).bind fun notes _ _ hAfter => .pure (Outcome.notes notes) hAfter

/-- They give the same answers and show the same after every call. -/
theorem Twins.showAll_eq (h : Twins R c d) {view : S → V} {view' : T → V} (hView : ∀ s t, R s t → view s = view' t)
    (calls : List Call) {s : S} {t : T} (hRelated : R s t) : c.showAll view calls s = d.showAll view' calls t := by
  induction calls generalizing s t with
  | nil => rfl
  | cons call rest ih =>
      refine h.perform call hRelated _ (fun outcome s => do return (outcome, view s) :: (← c.showAll view rest s))
        (fun outcome t => do return (outcome, view' t) :: (← d.showAll view' rest t)) fun outcome s t hAfter => ?_
      rw [hView s t hAfter, ih hAfter]

end Channel

end ChatRelay
