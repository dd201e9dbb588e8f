import ChatRelay.Proofs.Cycle.Rules
import ChatRelay.Proofs.Delivery.Guard
import ChatRelay.Proofs.Site

/-!
A relay at work between a provider, a disk and others. The others are the network, the handler and whoever
receives the replies, and they may do anything: fail, make updates arrive, or stop the relay. The journal has
the acknowledgements that the relay gives and the updates that the provider drops.
-/

namespace ChatRelay

/-- What becomes of a request for updates. -/
inductive Fate where
  | answered
  /-- The provider gets the request, but its answer does not arrive. Without an error, the relay is stopped while
  it waits. -/
  | lost (e : Option ApiError)
  /-- The provider does not get the request. -/
  | unsent (e : ApiError)

/-- All that the relay does not have in its hands. -/
structure Others (σ : Type) where
  handler : Handler (Process σ)
  sendMessage : SendMessage → Process σ (Except ApiError Json.Fields)
  fate : GetUpdates → Process σ Fate
  arrivals : Process σ (List Delivery)

structure World (σ : Type) where
  provider : Provider
  medium : Medium
  others : σ

namespace World

variable {σ α : Type}

def outside (run : Process σ α) : Process (Journaled (World σ)) α :=
  run.zoom (fun j => j.world.others) fun s j => { j with world := { j.world with others := s } }

def withMedium (m : Medium) (j : Journaled (World σ)) : Journaled (World σ) :=
  { j with world := { j.world with medium := m } }

def onDisk (run : Process Medium α) : Process (Journaled (World σ)) α := run.zoom (fun j => j.world.medium) withMedium

def arrive (j : Journaled (World σ)) (d : Delivery) : Journaled (World σ) :=
  { j with world := { j.world with provider := j.world.provider.arrive d } }

def arriveAll (arrived : List Delivery) : Process (Journaled (World σ)) Unit := fun j =>
  (some (), arrived.foldl arrive j)

/-- Drop what a request with this offset tells the provider to drop. -/
def drop (offset : Option Int) : Process (Journaled (World σ)) Unit := fun j =>
  (some (), {
    events := j.events ++ j.world.provider.discards offset
    world := { j.world with provider := j.world.provider.discard offset } })

def answer (limit : Nat) : Process (Journaled (World σ)) (Except ApiError (List Json.Fields)) := fun j =>
  (some (.ok (j.world.provider.answer limit)), j)

/-- What is left when no answer comes. -/
def silence (e : Option ApiError) : Process (Journaled (World σ)) (Except ApiError (List Json.Fields)) := fun j =>
  (e.map .error, j)

/-- The store of the file. Nobody else touches it. -/
def store (file : CursorFile) : CursorStore (Process (Journaled (World σ))) := (file.store Medium.disk).lift onDisk

end World

namespace Others

open World

variable {σ α : Type} (others : Others σ)

/-- Something happens outside, and before that updates may arrive. -/
def act (run : Process σ α) : Process (Journaled (World σ)) α := do
  arriveAll (← outside others.arrivals)
  outside run

def getUpdates (request : GetUpdates) : Process (Journaled (World σ)) (Except ApiError (List Json.Fields)) := do
  match ← others.act (others.fate request) with
  | .unsent e => return .error e
  | .lost e => do
      drop request.offset
      silence e
  | .answered => do
      drop request.offset
      answer request.limit

def api : BotApi (Process (Journaled (World σ))) where
  getUpdates := others.getUpdates
  sendMessage request := others.act (others.sendMessage request)

/-- The feed as a channel, with its acknowledgements in the journal. -/
def channel (file : CursorFile) : Channel (Program Feed (Journaled (World σ))) :=
  (Feed.channel others.api (some (store file))).watched Journaled.noteIn

def handling : Handler (Program Feed (Journaled (World σ))) :=
  others.handler.lift fun run => Program.outside (others.act run)

def rules (options : CycleOptions (Process σ)) : CycleOptions (Program Feed (Journaled (World σ))) :=
  options.lift fun run => Program.outside (others.act run)

end Others

/-- What happens next: an update arrives, the relay is brought up, or it runs a cycle. A cycle in which the relay is
stopped is over, and there is no other until the relay is brought up again. -/
inductive Turn (σ : Type) where
  | arrival (d : Delivery)
  | restart (config : FeedConfig)
  | cycle (options : CycleOptions (Process σ))

section Turns

variable {σ : Type} (others : Others σ) (file : CursorFile)

def Turn.perform (s : Site (Journaled (World σ))) : Turn σ → Site (Journaled (World σ))
  | .arrival d => { s with world := World.arrive s.world d }
  | .restart config => s.restart (Feed.start (some (World.store file)) config)
  | .cycle options => s.run (Cycle.run (others.channel file) others.handling (others.rules options))

/-- Any number of turns, from a world in which the relay is down. -/
def Turn.performAll (turns : List (Turn σ)) (w : World σ) : Site (Journaled (World σ)) :=
  turns.foldl (Turn.perform others file) ⟨none, [], w⟩

end Turns

end ChatRelay
