import ChatRelay.Proofs.UpdateId

/-!
The provider as a queue. Updates arrive with greater and greater ids. A request drops those below its offset and
is answered with the first of the others, so that an answer leaves out nothing before the last update in it.
-/

namespace ChatRelay

/-- An update as the provider keeps it. Its payload is the same each time, and if an id can be read from it, then
it is the id of the update. -/
structure Delivery where
  id : Int
  raw : Json.Fields
  named : ∀ other, (Update.ofJson raw).id? = some other → other = id

/-- The updates that are waiting, and those that were dropped. -/
structure Provider where
  past : List Delivery
  queue : List Delivery
  increasing : (past ++ queue).Pairwise fun a b => a.id < b.id

namespace Delivery

def isBelow (offset : Option Int) (d : Delivery) : Bool :=
  match offset with
  | some n => d.id < n
  | none => false

variable {offset : Option Int}

theorem isBelow_iff {d : Delivery} : d.isBelow offset = true ↔ ∃ n, offset = some n ∧ d.id < n := by
  simp only [isBelow]
  cases offset <;> simp

theorem isBelow_of_lt {a b : Delivery} (hLt : a.id < b.id) (h : b.isBelow offset = true) :
    a.isBelow offset = true := by
  obtain ⟨n, hOffset, hBelow⟩ := isBelow_iff.mp h
  exact isBelow_iff.mpr ⟨n, hOffset, Int.lt_trans hLt hBelow⟩

/-- What lies below an offset comes first. -/
theorem filter_isBelow_append {ds : List Delivery} (h : ds.Pairwise fun a b => a.id < b.id) :
    ds.filter (isBelow offset) ++ ds.filter (fun d => !d.isBelow offset) = ds := by
  induction ds with
  | nil => rfl
  | cons d rest ih =>
      obtain ⟨hFirst, hRest⟩ := List.pairwise_cons.mp h
      cases hBelow : d.isBelow offset with
      | true => simp [hBelow, ih hRest]
      | false =>
          have hNone : rest.filter (isBelow offset) = [] := by
            apply List.filter_eq_nil_iff.mpr
            intro a ha hA
            rw [isBelow_of_lt (hFirst a ha) hA] at hBelow
            cases hBelow
          have hAll := ih hRest
          rw [hNone, List.nil_append] at hAll
          simp [hBelow, hNone, hAll]

/-- A message carries the id of its update. -/
theorem updateId_of_message {d : Delivery} {id : Int} {m : Inbound} (h : Update.ofJson d.raw = .message id m) :
    id = d.id ∧ m.updateId = toString d.id := by
  obtain rfl := d.named id (by rw [h]; rfl)
  exact ⟨rfl, Update.updateId_of_message h⟩

end Delivery

namespace Provider

def empty : Provider := ⟨[], [], List.Pairwise.nil⟩

/-- All updates that ever arrived. -/
def history (p : Provider) : List Delivery := p.past ++ p.queue

/-- An update arrives. Its id has to be greater than all before it. -/
def arrive (p : Provider) (d : Delivery) : Provider :=
  if h : ∀ a ∈ p.past ++ p.queue, a.id < d.id then
    { past := p.past
      queue := p.queue ++ [d]
      increasing := by
        rw [← List.append_assoc]
        exact List.pairwise_append.mpr ⟨p.increasing, List.pairwise_singleton _ _, by simpa using h⟩ }
  else p

/-- What a request with this offset makes the provider drop. -/
def dropped (p : Provider) (offset : Option Int) : List Delivery := p.queue.filter (Delivery.isBelow offset)

theorem pairwise_queue (p : Provider) : p.queue.Pairwise fun a b => a.id < b.id :=
  (List.pairwise_append.mp p.increasing).2.1

/-- Dropping moves updates from the queue to the past, and loses none. -/
theorem append_dropped (p : Provider) (offset : Option Int) :
    (p.past ++ p.dropped offset) ++ p.queue.filter (fun d => !d.isBelow offset) = p.past ++ p.queue := by
  rw [List.append_assoc, dropped, Delivery.filter_isBelow_append p.pairwise_queue]

def discard (p : Provider) (offset : Option Int) : Provider where
  past := p.past ++ p.dropped offset
  queue := p.queue.filter fun d => !d.isBelow offset
  increasing := by
    rw [p.append_dropped]
    exact p.increasing

/-- The first updates in the queue. -/
def first (p : Provider) (limit : Nat) : List Delivery := p.queue.take limit

/-- Their payloads, as they are sent. -/
def answer (p : Provider) (limit : Nat) : List Json.Fields := (p.first limit).map Delivery.raw

variable {p : Provider}

/-- An arrival counts only if the id is greater than all before it. -/
theorem arrive_cases (p : Provider) (d : Delivery) :
    p.arrive d = p ∨ (p.arrive d).history = p.history ++ [d] ∧ (p.arrive d).queue = p.queue ++ [d] ∧
      ∀ a ∈ p.history, a.id < d.id := by
  simp only [arrive]
  split
  · rename_i hGreater
    exact Or.inr ⟨(List.append_assoc _ _ _).symm, rfl, hGreater⟩
  · exact Or.inl rfl

/-- What is dropped was there. -/
theorem history_discard (p : Provider) (offset : Option Int) : (p.discard offset).history = p.history :=
  p.append_dropped offset

theorem mem_queue_of_first {limit : Nat} {d : Delivery} (h : d ∈ p.first limit) : d ∈ p.queue :=
  List.mem_of_mem_take h

theorem mem_history_of_queue {d : Delivery} (h : d ∈ p.queue) : d ∈ p.history := List.mem_append_right _ h

/-- An id stands for one update. -/
theorem eq_of_id {a b : Delivery} (ha : a ∈ p.queue) (hb : b ∈ p.queue) (hId : a.id = b.id) : a = b := by
  have hBefore : p.queue.Pairwise fun a b => a.id = b.id → a = b :=
    p.pairwise_queue.imp fun hLt hSame => absurd hSame (Int.ne_of_lt hLt)
  have hAfter : p.queue.Pairwise (flip fun a b => a.id = b.id → a = b) :=
    p.pairwise_queue.imp fun hLt hSame => absurd hSame (Int.ne_of_gt hLt)
  exact List.Pairwise.forall_of_forall_of_flip (fun _ _ _ => rfl) hBefore hAfter ha hb hId

/-- An answer leaves out nothing before the last update in it. -/
theorem mem_first_of_le {limit : Nat} {a b : Delivery} (ha : a ∈ p.queue) (hb : b ∈ p.first limit)
    (hLe : a.id ≤ b.id) : a ∈ p.first limit := by
  rw [← List.take_append_drop limit p.queue] at ha
  rcases List.mem_append.mp ha with hFirst | hLater
  · exact hFirst
  · have hSplit := p.pairwise_queue
    rw [← List.take_append_drop limit p.queue] at hSplit
    have hLt := (List.pairwise_append.mp hSplit).2.2 b hb a hLater
    omega

end Provider

end ChatRelay
