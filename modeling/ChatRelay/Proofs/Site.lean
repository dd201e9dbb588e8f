import ChatRelay.Proofs.Feed.Calls

/-!
A relay that goes down and is brought up again. Whatever stops it, its feed is lost and the world stays, and
the next start begins with what the world holds.
-/

namespace ChatRelay

/-- A relay with its feed, or without one while it is down. -/
structure Site (σ : Type) where
  feed : Option Feed
  world : σ

namespace Site

variable {σ α : Type}

/-- Bring the relay up, whether it is down or not. It stays down if that fails. -/
def restart (begin : Process σ (Except Error Feed)) (s : Site σ) : Site σ :=
  match begin s.world with
  | (some (.ok feed), w) => ⟨some feed, w⟩
  | (_, w) => ⟨none, w⟩

/-- Let the relay run a program. Nothing happens while it is down. -/
def run (program : Program Feed σ α) (s : Site σ) : Site σ :=
  match s.feed with
  | none => s
  | some feed =>
      match program feed s.world with
      | (some (_, feed), w) => ⟨some feed, w⟩
      | (none, w) => ⟨none, w⟩

/-- `I` while the relay is up, and `R` while it is down. -/
def Holds (I : Feed → σ → Prop) (R : σ → Prop) (s : Site σ) : Prop :=
  match s.feed with
  | some feed => I feed s.world
  | none => R s.world

variable {I : Feed → σ → Prop} {R : σ → Prop} {s : Site σ}

/-- Up or down, the world is as it is while the relay is down. -/
theorem Holds.world (h : s.Holds I R) (hDown : ∀ feed w, I feed w → R w) : R s.world := by
  simp only [Holds] at h
  split at h
  · exact hDown _ _ h
  · exact h

/-- The other step of a life: a start takes what the last feed left and opens a new one. -/
theorem Holds.restart {begin : Process σ (Except Error Feed)} (h : s.Holds I R)
    (hDown : ∀ feed w, I feed w → R w)
    (hBegin : Process.Ensures R begin (Feed.Started I R) R) : (s.restart begin).Holds I R := by
  have hAfter := hBegin s.world (h.world hDown)
  simp only [Site.restart]
  match hRun : begin s.world with
  | (some (.ok feed), w) =>
      rw [hRun] at hAfter
      exact hAfter
  | (some (.error e), w) =>
      rw [hRun] at hAfter
      exact hAfter
  | (none, w) =>
      rw [hRun] at hAfter
      exact hAfter

/-- The step of a life: a program of a running feed keeps the invariant, and so does one that is cut off. -/
theorem Holds.run {program : Program Feed σ α} (h : s.Holds I R)
    (hProgram : Program.Ensures I program (fun _ => I) R) : (s.run program).Holds I R := by
  simp only [Site.run]
  cases hFeed : s.feed with
  | none => exact h
  | some feed =>
      have hBefore : I feed s.world := by simpa [Holds, hFeed] using h
      have hAfter := hProgram feed s.world hBefore
      match hRun : program feed s.world with
      | (some (a, feed'), w) =>
          rw [hRun] at hAfter
          simp only [hRun]
          exact hAfter
      | (none, w) =>
          rw [hRun] at hAfter
          simp only [hRun]
          exact hAfter

end Site

/-- What happens to a relay from outside: it is brought up, or a call is made. -/
inductive Act where
  | restart (config : FeedConfig)
  | call (call : Channel.Call)

def Act.perform {σ : Type} (api : BotApi (Process σ)) (store : Option (CursorStore (Process σ))) :
    Act → Site σ → Site σ
  | .restart config, s => s.restart (Feed.start store config)
  | .call c, s => s.run (c.perform (Feed.channel api store))

/-- Any number of these, one after the other. -/
def Act.performAll {σ : Type} (api : BotApi (Process σ)) (store : Option (CursorStore (Process σ)))
    (acts : List Act) (s : Site σ) : Site σ :=
  acts.foldl (fun s act => act.perform api store s) s

/-- What a feed keeps in every call and has after every start holds all the time. -/
theorem Site.Holds.performAll {σ : Type} {api : BotApi (Process σ)} {store : Option (CursorStore (Process σ))}
    {I : Feed → σ → Prop} {R : σ → Prop} (hKept : Feed.Kept api store I R) (hDown : ∀ feed w, I feed w → R w)
    (hStart : ∀ config, Process.Ensures R (Feed.start store config) (Feed.Started I R) R)
    (acts : List Act) {s : Site σ} (h : s.Holds I R) : (Act.performAll api store acts s).Holds I R := by
  apply List.foldlRecOn acts _ h
  intro s hs act _
  cases act with
  | restart config => exact hs.restart hDown (hStart config)
  | call call => exact hs.run (hKept.perform call)

end ChatRelay
