import Mathlib.Control.Traversable.Basic
import ChatRelay.Proofs.Process

/-!
Two programs side by side. They are paired when one joint program stands for both of them: it makes each call to the
world once, and either program is what it gives on its side. So the two make the same calls in the same order and learn
the same from each, while their own states and results may differ as far as a relation lets them.
-/

namespace ChatRelay

variable {m : Type → Type} {S T α β γ δ σ : Type}

/-- Two results that are related. -/
abbrev Related (R : α → β → Prop) := { r : α × β // R r.1 r.2 }

/-- One program gives both results, and they are related. -/
def Paired [Functor m] (R : α → β → Prop) (p : m α) (q : m β) : Prop :=
  ∃ both : m (Related R), (fun r => r.val.1) <$> both = p ∧ (fun r => r.val.2) <$> both = q

/-- Programs with states of their own that are paired from all states as in `P`, with results and states as in `Q`. -/
def Tandem [Functor m] (P : S → T → Prop) (p : StateT S m α) (q : StateT T m β) (Q : α → β → S → T → Prop) : Prop :=
  ∀ s t, P s t → Paired (fun a b => Q a.1 b.1 a.2 b.2) (p s) (q t)

/-- The same for programs that give the same result. -/
def Alike [Functor m] (P : S → T → Prop) (p : StateT S m α) (q : StateT T m α) (Q : α → S → T → Prop) : Prop :=
  Tandem P p q fun a b s t => a = b ∧ Q a s t

section Assumptions

variable [Functor m] {P : S → T → Prop} {p : StateT S m α} {q : StateT T m β} {Q : α → β → S → T → Prop}

/-- What is about neither state can be assumed. -/
theorem Tandem.assume {F : Prop} (h : F → Tandem P p q Q) : Tandem (fun s t => F ∧ P s t) p q Q :=
  fun s t hBoth => h hBoth.1 s t hBoth.2

/-- What exists at the start can be named. -/
theorem Tandem.of_exists {ι : Type} {R : ι → S → T → Prop} (h : ∀ x, Tandem (R x) p q Q) :
    Tandem (fun s t => ∃ x, R x s t) p q Q := by
  rintro s t ⟨x, hRelated⟩
  exact h x s t hRelated

end Assumptions

section Rules

variable [Monad m] [LawfulMonad m]

namespace Paired

variable {R : α → β → Prop} {R' : γ → δ → Prop} {p : m α} {q : m β} {f : α → m γ} {g : β → m δ}

theorem pure {a : α} {b : β} (h : R a b) : Paired R (Pure.pure a : m α) (Pure.pure b) :=
  ⟨Pure.pure ⟨(a, b), h⟩, by simp⟩

/-- Two programs in a row are paired when their parts are. -/
theorem bind (h : Paired R p q) (hNext : ∀ a b, R a b → Paired R' (f a) (g b)) : Paired R' (p >>= f) (q >>= g) := by
  obtain ⟨both, rfl, rfl⟩ := h
  -- a joint program for what follows each pair of related results
  obtain ⟨next, hBoth⟩ := Classical.skolem.1 fun r : Related R => hNext r.val.1 r.val.2 r.property
  exact ⟨both >>= next, by simp [(hBoth _).1], by simp [(hBoth _).2]⟩

theorem imp {R' : α → β → Prop} (h : Paired R p q) (hImp : ∀ a b, R a b → R' a b) : Paired R' p q := by
  obtain ⟨both, rfl, rfl⟩ := h
  exact ⟨(fun r => ⟨r.val, hImp _ _ r.property⟩) <$> both, by simp, by simp⟩

/-- A program beside itself. -/
theorem refl (p : m α) : Paired (· = ·) p p := ⟨(fun a => ⟨(a, a), rfl⟩) <$> p, by simp⟩

end Paired

/-- Without a world there are only the results. -/
theorem Paired.of_id {R : α → β → Prop} {a : α} {b : β} (h : Paired (m := Id) R a b) : R a b := by
  obtain ⟨both, rfl, rfl⟩ := h
  exact both.property

/-- From one world, two paired programs come to related results and to the same world. -/
theorem Paired.run {R : α → β → Prop} {p : StateM σ α} {q : StateM σ β} (h : Paired R p q) (w : σ) :
    R (p w).1 (q w).1 ∧ (p w).2 = (q w).2 := by
  obtain ⟨both, rfl, rfl⟩ := h
  exact ⟨(both w).1.property, rfl⟩

/-- And the other way around. -/
theorem paired_of_run {R : α → β → Prop} {p : StateM σ α} {q : StateM σ β}
    (h : ∀ w, R (p w).1 (q w).1 ∧ (p w).2 = (q w).2) : Paired R p q := by
  refine ⟨fun w => (⟨((p w).1, (q w).1), (h w).1⟩, (p w).2), rfl, ?_⟩
  funext w
  exact Prod.ext rfl (h w).2

variable {P : S → T → Prop} {p : StateT S m α} {q : StateT T m β} {Q : α → β → S → T → Prop}

theorem tandem_pure {a : α} {b : β} (h : ∀ s t, P s t → Q a b s t) :
    Tandem P (pure a : StateT S m α) (pure b) Q :=
  fun s t hRelated => .pure (h s t hRelated)

/-- The rule for two pairs of programs in a row. -/
theorem Tandem.bind {f : α → StateT S m γ} {g : β → StateT T m δ} {last : γ → δ → S → T → Prop} (h : Tandem P p q Q)
    (hNext : ∀ a b, Tandem (Q a b) (f a) (g b) last) : Tandem P (p >>= f) (q >>= g) last :=
  fun s t hRelated => (h s t hRelated).bind fun r r' hAfter => hNext r.1 r'.1 r.2 r'.2 hAfter

/-- The rule of consequence. -/
theorem Tandem.imp {P' : S → T → Prop} {Q' : α → β → S → T → Prop} (h : Tandem P p q Q)
    (hPre : ∀ s t, P' s t → P s t) (hPost : ∀ a b s t, Q a b s t → Q' a b s t) : Tandem P' p q Q' :=
  fun s t hRelated => (h s t (hPre s t hRelated)).imp fun r r' => hPost r.1 r'.1 r.2 r'.2

section Alike

variable {q : StateT T m α} {Q : α → S → T → Prop}

theorem alike_pure {a : α} (h : ∀ s t, P s t → Q a s t) : Alike P (pure a : StateT S m α) (pure a) Q :=
  tandem_pure fun s t hRelated => ⟨rfl, h s t hRelated⟩

/-- Where the first programs give the same result, what follows may be told by that result. -/
theorem Alike.bind {f : α → StateT S m γ} {g : α → StateT T m δ} {last : γ → δ → S → T → Prop} (h : Alike P p q Q)
    (hNext : ∀ a, Tandem (Q a) (f a) (g a) last) : Tandem P (p >>= f) (q >>= g) last := by
  refine Tandem.bind h fun a b => ?_
  apply Tandem.assume
  rintro rfl
  exact hNext a

theorem Alike.imp {P' : S → T → Prop} {Q' : α → S → T → Prop} (h : Alike P p q Q) (hPre : ∀ s t, P' s t → P s t)
    (hPost : ∀ a s t, Q a s t → Q' a s t) : Alike P' p q Q' :=
  Tandem.imp h hPre fun a _ s t hEnd => ⟨hEnd.1, hPost a s t hEnd.2⟩

/-- A call to the world that sees neither state. -/
theorem alike_lift (run : m α) :
    Alike P (StateT.lift run : StateT S m α) (StateT.lift run : StateT T m α) fun _ => P := by
  intro s t hRelated
  refine (Paired.refl run).bind fun a b hSame => ?_
  exact .pure ⟨hSame, hRelated⟩

end Alike

end Rules

end ChatRelay
