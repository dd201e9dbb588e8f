import ChatRelay.Proofs.Disk.Grounded
import ChatRelay.Proofs.Process

/-!
A disk on which every change can fail. A change that fails may have been made in part, and the process may be
stopped by it instead of learning of the failure. Reading is reliable, since all that it can go wrong about is
in the file tree.
-/

namespace ChatRelay

/-- A change that keeps everything in directories. -/
structure Change where
  apply : FileTree → Except DiskFault FileTree
  grounded : ∀ {tree tree'}, tree.Grounded → apply tree = .ok tree' → tree'.Grounded

namespace Change

def nothing : Change where
  apply tree := .ok tree
  grounded h hEq := by
    cases hEq
    exact h

def makeDirectory (path : Path) : Change := ⟨fun tree => tree.makeDirectory path, fun h => h.makeDirectory⟩

def makeFile (path : Path) : Change := ⟨fun tree => tree.makeFile path, fun h => h.makeFile⟩

def append (path : Path) (bytes : ByteArray) : Change :=
  ⟨fun tree => tree.append path bytes, fun h => h.append⟩

def rename (source target : Path) : Change := ⟨fun tree => tree.rename source target, fun h => h.rename⟩

def removeFile (path : Path) : Change := ⟨fun tree => tree.removeFile path, fun h => h.removeFile⟩

/-- A change that cannot be made in part. -/
def orNothing (change : Change) (extent : Nat) : Change := if extent = 0 then nothing else change

end Change

/-- Why a change does not go through. -/
structure Trouble where
  /-- What is reported, unless the process is stopped. -/
  fault : Option DiskFault
  /-- How much of the change is made all the same. -/
  extent : Nat

/-- A file tree and the troubles with the changes to come. Without any trouble left, every change goes
through that the tree allows. -/
structure Medium where
  tree : FileTree
  grounded : tree.Grounded
  troubles : List (Option Trouble)

namespace Medium

def make (m : Medium) (change : Change) : Except DiskFault Unit × Medium :=
  match h : change.apply m.tree with
  | .ok tree => (.ok (), { m with tree := tree, grounded := change.grounded m.grounded h })
  | .error fault => (.error fault, m)

/-- Try a change, of which the given part may be made when there is trouble. -/
def attempt (whole : Change) (part : Nat → Change) : Process Medium (Except DiskFault Unit) := fun m =>
  let rest : Medium := { m with troubles := m.troubles.tail }
  match m.troubles.head?.join with
  | none => (some (rest.make whole).1, (rest.make whole).2)
  | some trouble => (trouble.fault.map .error, (rest.make (part trouble.extent)).2)

/-- The file operations on such a disk. -/
def disk : Disk (Process Medium) where
  isPresent path := fun m => (some (m.tree.isPresent path), m)
  isDirectory path := fun m => (some (m.tree.isDirectory path), m)
  read path := fun m => (some (m.tree.read path), m)
  makeDirectory path := attempt (.makeDirectory path) (Change.makeDirectory path).orNothing
  makeFile path := attempt (.makeFile path) (Change.makeFile path).orNothing
  append path bytes := attempt (.append path bytes) fun extent => .append path (bytes.extract 0 extent)
  sync _ := attempt .nothing Change.nothing.orNothing
  rename source target := attempt (.rename source target) (Change.rename source target).orNothing
  removeFile path := attempt (.removeFile path) (Change.removeFile path).orNothing

/-- A change that the tree admits is made, whatever troubles are ahead. -/
theorem make_of_ok {m : Medium} {change : Change} {tree : FileTree} (h : change.apply m.tree = .ok tree) :
    (m.make change).1 = .ok () ∧ (m.make change).2.tree = tree := by
  simp only [make]
  split
  · rename_i other hOther
    rw [h] at hOther
    cases hOther
    exact ⟨rfl, rfl⟩
  · rename_i fault hFault
    rw [h] at hFault
    cases hFault

/-- A change that the tree refuses leaves everything as it was. -/
theorem make_of_error {m : Medium} {change : Change} {fault : DiskFault}
    (h : change.apply m.tree = .error fault) : m.make change = (.error fault, m) := by
  simp only [make]
  split
  · rename_i other hOther
    rw [h] at hOther
    cases hOther
  · rename_i other hOther
    rw [h] at hOther
    cases hOther
    rfl

/-- `P` before the change, `G` when it goes through and `B` when it does not. -/
theorem ensures_attempt (whole : Change) (part : Nat → Change) {P G B : FileTree → Prop}
    (hNothing : ∀ t, P t → B t) (hPart : ∀ n t t', P t → (part n).apply t = .ok t' → B t')
    (hWhole : ∀ t t', P t → whole.apply t = .ok t' → G t') :
    Process.Ensures (fun m => P m.tree) (attempt whole part)
      (Tried (fun m => G m.tree) fun m => B m.tree) fun m => B m.tree := by
  intro m hm
  simp only [attempt]
  let rest : Medium := { m with troubles := m.troubles.tail }
  cases hHead : m.troubles.head?.join with
  | none =>
      simp only
      cases hApply : whole.apply rest.tree with
      | error fault =>
          rw [make_of_error hApply]
          exact hNothing _ hm
      | ok tree =>
          obtain ⟨hAnswer, hTree⟩ := make_of_ok hApply
          rw [hAnswer]
          change G (rest.make whole).2.tree
          rw [hTree]
          exact hWhole _ _ hm hApply
  | some trouble =>
      simp only
      have hAfter : B (rest.make (part trouble.extent)).2.tree := by
        cases hApply : (part trouble.extent).apply rest.tree with
        | error fault =>
            rw [make_of_error hApply]
            exact hNothing _ hm
        | ok tree =>
            rw [(make_of_ok hApply).2]
            exact hPart _ _ _ hm hApply
      cases trouble.fault with
      | none => exact hAfter
      | some fault => exact hAfter

/-- The same for a change that is made as a whole or not at all. -/
theorem ensures_attempt_orNothing {whole : Change} {P G B : FileTree → Prop} (hNothing : ∀ t, P t → B t)
    (hGone : ∀ t, G t → B t) (hWhole : ∀ t t', P t → whole.apply t = .ok t' → G t') :
    Process.Ensures (fun m => P m.tree) (attempt whole whole.orNothing)
      (Tried (fun m => G m.tree) fun m => B m.tree) fun m => B m.tree := by
  refine ensures_attempt whole whole.orNothing hNothing (fun n t t' hP hApply => ?_) hWhole
  simp only [Change.orNothing] at hApply
  by_cases hZero : n = 0
  · rw [if_pos hZero] at hApply
    cases hApply
    exact hNothing t hP
  · rw [if_neg hZero] at hApply
    exact hGone t' (hWhole t t' hP hApply)

end Medium

end ChatRelay
