import ChatRelay.Proofs.Disk.Medium

/-!
A disk that does no more harm than it reports. A change that fails is not made, except that the bytes of a file may be
written in part. A file that can be removed is removed. The process may still be stopped at any change, before it or
after it or in the middle of the bytes.
-/

namespace ChatRelay.Medium

/-- Make a change that nothing but the tree can prevent. The process may be stopped by it. -/
def attemptSurely (whole : Change) : Process Medium (Except DiskFault Unit) := fun m =>
  let rest : Medium := { m with troubles := m.troubles.tail }
  match m.troubles.head?.join with
  | some ⟨none, extent⟩ => (none, (rest.make (whole.orNothing extent)).2)
  | _ => (some (rest.make whole).1, (rest.make whole).2)

/-- Try a change, of which nothing is made when it fails. -/
def attemptWhole (whole : Change) : Process Medium (Except DiskFault Unit) := fun m =>
  match m.troubles.head?.join with
  | some ⟨some fault, _⟩ => (some (.error fault), { m with troubles := m.troubles.tail })
  | _ => attemptSurely whole m

/-- The file operations on such a disk. -/
def plainDisk : Disk (Process Medium) :=
  { disk with
    makeDirectory := fun path => attemptWhole (.makeDirectory path)
    makeFile := fun path => attemptWhole (.makeFile path)
    sync := fun _ => attemptWhole .nothing
    rename := fun source target => attemptWhole (.rename source target)
    removeFile := fun path => attemptSurely (.removeFile path) }

variable {P G B X : FileTree → Prop}

/-- Inversion of a change on the medium: it is made as a whole, or refused without effect. -/
theorem make_cases (m : Medium) (change : Change) :
    (∃ tree, change.apply m.tree = .ok tree ∧ (m.make change).1 = .ok () ∧ (m.make change).2.tree = tree) ∨
      ∃ fault, change.apply m.tree = .error fault ∧ m.make change = (.error fault, m) := by
  cases hApply : change.apply m.tree with
  | ok tree => exact Or.inl ⟨tree, rfl, make_of_ok hApply⟩
  | error fault => exact Or.inr ⟨fault, rfl, make_of_error hApply⟩

/-- When the process is stopped, the change may have been made. -/
theorem make_orNothing {m : Medium} (whole : Change) (extent : Nat)
    (hWhole : ∀ t t', P t → whole.apply t = .ok t' → G t') (hBefore : ∀ t, P t → X t)
    (hAfter : ∀ t, G t → X t) (h : P m.tree) :
    X (m.make (whole.orNothing extent)).2.tree := by
  simp only [Change.orNothing]
  by_cases hZero : extent = 0
  · have hNothing : Change.nothing.apply m.tree = .ok m.tree := rfl
    rw [if_pos hZero, (make_of_ok hNothing).2]
    exact hBefore _ h
  · rw [if_neg hZero]
    rcases m.make_cases whole with ⟨tree, hApply, -, hTree⟩ | ⟨fault, -, hMade⟩
    · rw [hTree]
      exact hAfter _ (hWhole _ _ h hApply)
    · rw [hMade]
      exact hBefore _ h

/-- `P` before the change, `G` when it is made, `B` when the tree prevents it and `X` when the process is stopped. -/
theorem ensures_attemptSurely (whole : Change) (hWhole : ∀ t t', P t → whole.apply t = .ok t' → G t')
    (hFails : ∀ t fault, P t → whole.apply t = .error fault → B t) (hBefore : ∀ t, P t → X t)
    (hAfter : ∀ t, G t → X t) :
    Process.Ensures (fun m => P m.tree) (attemptSurely whole) (Tried (fun m => G m.tree) fun m => B m.tree)
      fun m => X m.tree := by
  intro m hm
  let rest : Medium := { m with troubles := m.troubles.tail }
  have hMade : Tried (fun m => G m.tree) (fun m => B m.tree) (rest.make whole).1 (rest.make whole).2 := by
    rcases rest.make_cases whole with ⟨tree, hApply, hAnswer, hTree⟩ | ⟨fault, hApply, hMade⟩
    · rw [hAnswer]
      change G (rest.make whole).2.tree
      rw [hTree]
      exact hWhole _ _ hm hApply
    · rw [hMade]
      exact hFails _ _ hm hApply
  simp only [attemptSurely]
  cases m.troubles.head?.join with
  | none => exact hMade
  | some trouble =>
      obtain ⟨fault, extent⟩ := trouble
      cases fault with
      | some fault => exact hMade
      | none => exact make_orNothing (m := rest) whole extent hWhole hBefore hAfter hm

/-- The same when the change may also fail for reasons of its own. -/
theorem ensures_attemptWhole (whole : Change) (hWhole : ∀ t t', P t → whole.apply t = .ok t' → G t')
    (hFails : ∀ t, P t → B t) (hBefore : ∀ t, P t → X t) (hAfter : ∀ t, G t → X t) :
    Process.Ensures (fun m => P m.tree) (attemptWhole whole) (Tried (fun m => G m.tree) fun m => B m.tree)
      fun m => X m.tree := by
  intro m hm
  have hSurely := ensures_attemptSurely whole hWhole (fun t _ h _ => hFails t h) hBefore hAfter m hm
  simp only [attemptWhole]
  cases m.troubles.head?.join with
  | none => exact hSurely
  | some trouble =>
      obtain ⟨fault, extent⟩ := trouble
      cases fault with
      | some fault => exact hFails _ hm
      | none => exact hSurely

section Follows

variable {α β : Type}

/-- As long as there is no trouble, a process on a medium goes like a program on its tree. -/
def Follows (run : Process Medium α) (plan : StateM FileTree α) : Prop :=
  ∀ m, m.troubles = [] →
    (run m).1 = some (plan m.tree).1 ∧ (run m).2.tree = (plan m.tree).2 ∧ (run m).2.troubles = []

theorem follows_pure (a : α) : Follows (pure a) (pure a) := fun _ h => ⟨rfl, rfl, h⟩

/-- Programs that follow plans step by step follow them as a whole. -/
theorem Follows.bind {run : Process Medium α} {plan : StateM FileTree α} {f : α → Process Medium β}
    {g : α → StateM FileTree β} (h : Follows run plan) (hNext : ∀ a, Follows (f a) (g a)) :
    Follows (run >>= f) (plan >>= g) := by
  intro m hCalm
  obtain ⟨hEnd, hTree, hStill⟩ := h m hCalm
  have hLast := hNext (plan m.tree).1 (run m).2 hStill
  rw [hTree] at hLast
  rw [Process.bind_of_some f (Process.run_of_fst hEnd)]
  exact hLast

/-- A change on the medium does to the tree what the change by itself does, and gives the same answer. -/
theorem make_eq_change (m : Medium) (change : Change) :
    (m.make change).1 = (FileTree.change change.apply m.tree).1 ∧
      (m.make change).2.tree = (FileTree.change change.apply m.tree).2 ∧
        (m.make change).2.troubles = m.troubles := by
  simp only [make, FileTree.change]
  split
  · rename_i tree hApply
    simp [hApply]
  · rename_i fault hApply
    simp [hApply]

/-- A change that cannot fail by itself follows the bare one. -/
theorem follows_attemptSurely (whole : Change) : Follows (attemptSurely whole) (FileTree.change whole.apply) := by
  intro m hCalm
  obtain ⟨hEnd, hTree, hStill⟩ := make_eq_change { m with troubles := m.troubles.tail } whole
  simp only [attemptSurely, hCalm, List.head?_nil, Option.join_none]
  rw [hCalm] at hEnd hTree hStill
  exact ⟨congrArg some hEnd, hTree, hStill⟩

/-- So does one that is made as a whole or not at all, without troubles. -/
theorem follows_attemptWhole (whole : Change) : Follows (attemptWhole whole) (FileTree.change whole.apply) := by
  intro m hCalm
  have hSurely := follows_attemptSurely whole m hCalm
  simp only [attemptWhole, hCalm, List.head?_nil, Option.join_none]
  exact hSurely

/-- So does one that could stop half-way, without troubles. -/
theorem follows_attempt (whole : Change) (part : Nat → Change) :
    Follows (attempt whole part) (FileTree.change whole.apply) := by
  intro m hCalm
  obtain ⟨hEnd, hTree, hStill⟩ := make_eq_change { m with troubles := m.troubles.tail } whole
  simp only [attempt, hCalm, List.head?_nil, Option.join_none]
  rw [hCalm] at hEnd hTree hStill
  exact ⟨congrArg some hEnd, hTree, hStill⟩

theorem follows_isDirectory (path : Path) : Follows (plainDisk.isDirectory path) (FileTree.disk.isDirectory path) :=
  fun _ h => ⟨rfl, rfl, h⟩

theorem follows_unlessDirectory (path : Path) (fault : DiskFault) :
    Follows (do if ← plainDisk.isDirectory path then return Except.ok () else return Except.error fault)
      (do if ← FileTree.disk.isDirectory path then return Except.ok () else return Except.error fault) := by
  refine (follows_isDirectory path).bind fun found => ?_
  cases found with
  | true => exact follows_pure _
  | false => exact follows_pure _

/-- The making of directories follows the plan, by induction on the names. -/
theorem follows_makeNames (absolute : Bool) (names : List String) :
    Follows (plainDisk.makeNames absolute names) (FileTree.disk.makeNames absolute names) := by
  induction names with
  | nil => exact follows_pure _
  | cons name above ih =>
      have hMake := follows_attemptWhole (.makeDirectory ⟨absolute, (name :: above).reverse, false⟩)
      refine hMake.bind fun r => ?_
      cases r with
      | ok done => exact follows_pure _
      | error fault =>
          cases fault with
          | notFound =>
              refine ih.bind fun r => ?_
              cases r with
              | error fault => exact follows_pure _
              | ok done =>
                  refine hMake.bind fun r => ?_
                  cases r with
                  | ok done => exact follows_pure _
                  | error fault => exact follows_unlessDirectory _ fault
          | _ => exact follows_unlessDirectory _ _

end Follows

end ChatRelay.Medium
