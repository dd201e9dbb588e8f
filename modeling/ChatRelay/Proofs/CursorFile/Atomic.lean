import ChatRelay.Proofs.CursorFile.Save
import ChatRelay.Proofs.Disk.Plain

/-!
A save replaces the file as a whole or leaves it alone. It is followed through the whole tree, on a disk that does no
more harm than it reports: the directories that it makes, the file that it writes beside the target, and the move.
When it fails, nothing of it is left but directories.
-/

namespace ChatRelay

/-- The places that a path leads through, with the last one. -/
def Path.Passes (path : Path) (place : Place) : Prop :=
  ∃ names, names <+: path.names ∧ place = Path.place ⟨path.absolute, names, false⟩

namespace FileTree

/-- What the making of directories does to a tree. -/
structure Grown (path : Path) (tree tree' : FileTree) : Prop where
  kept : ∀ q node, tree.node? q = some node → tree'.node? q = some node
  added : ∀ q node, tree.node? q = none → tree'.node? q = some node → node = .directory ∧ path.Passes q

/-- There is no directory at some point of a path. -/
def Blocked (path : Path) (tree : FileTree) : Prop :=
  ∃ names, names ≠ [] ∧ names <+: path.names ∧ tree.isDirectory ⟨path.absolute, names, false⟩ = false

variable {tree before after : FileTree} {path : Path}

theorem Grown.refl : Grown path tree tree where
  kept _ _ h := h
  added q node hNone h := by
    rw [hNone] at h
    cases h

/-- Making one more directory on the way of the path adds that directory and changes nothing else. -/
theorem Grown.makeDirectory (h : Grown path tree before) {names : List String} (hPrefix : names <+: path.names)
    (hMake : before.makeDirectory ⟨path.absolute, names, false⟩ = .ok after) : Grown path tree after := by
  obtain ⟨_, hFree, hAfter⟩ := makeDirectory_eq_ok hMake
  constructor
  · intro q node hNode
    have hOld := h.kept q node hNode
    have hElse : q ≠ Path.place ⟨path.absolute, names, false⟩ := by
      rintro rfl
      rw [hFree] at hOld
      cases hOld
    rw [hAfter, if_neg hElse]
    exact hOld
  · intro q node hNone hNode
    rw [hAfter] at hNode
    by_cases hHere : q = Path.place ⟨path.absolute, names, false⟩
    · rw [if_pos hHere] at hNode
      exact ⟨(Option.some.inj hNode).symm, names, hPrefix, hHere⟩
    · rw [if_neg hHere] at hNode
      exact h.added q node hNone hNode

/-- No path leads on from where there is no directory. -/
theorem Blocked.not_find {target : Path} (h : Blocked path tree) (hRoot : target.absolute = path.absolute)
    {name : String} (hNames : target.names = path.names ++ [name]) (q : Place) (node : Node) :
    tree.find target ≠ .ok (q, node) := by
  intro hFind
  obtain ⟨names, hSome, hPrefix, hNot⟩ := h
  have hProper : names ≠ target.names := fun hEq => by
    have hLong := hPrefix.length_le
    rw [hEq, hNames, List.length_append, List.length_singleton] at hLong
    omega
  have hThere := isDirectory_of_resolve (find_eq_ok hFind).1 hSome
    (hNames ▸ hPrefix.trans (List.prefix_append _ _)) hProper
  rw [hRoot, hNot] at hThere
  cases hThere

/-- Making directories fails only where something else than a directory is in the way. -/
theorem ensures_makeDirectories (path : Path) (tree : FileTree) :
    Process.Ensures (fun m => Grown path tree m.tree) (Medium.plainDisk.makeDirectories path)
      (Tried (fun m => Grown path tree m.tree) fun m => Grown path tree m.tree ∧ Blocked path m.tree)
      fun m => Grown path tree m.tree := by
  have hMake : ∀ names, names ≠ [] → names <+: path.names →
      Process.Ensures (fun m => Grown path tree m.tree)
        (Medium.plainDisk.makeDirectory ⟨path.absolute, names, false⟩) (fun _ m => Grown path tree m.tree)
        fun m => Grown path tree m.tree := fun names _ hPrefix =>
    (Medium.ensures_attemptWhole (.makeDirectory ⟨path.absolute, names, false⟩) (P := Grown path tree)
      (G := Grown path tree) (B := Grown path tree) (X := Grown path tree)
      (fun _ _ h hMade => h.makeDirectory hPrefix hMade) (fun _ h => h) (fun _ h => h) fun _ h => h).of_tried
      (fun _ h => h) fun _ h => h
  have hTest : ∀ names, names ≠ [] → names <+: path.names →
      Process.Ensures (fun m => Grown path tree m.tree)
        (Medium.plainDisk.isDirectory ⟨path.absolute, names, false⟩)
        (fun found m => Grown path tree m.tree ∧ (found = false → Blocked path m.tree))
        fun m => Grown path tree m.tree := fun names hSome hPrefix m h =>
    ⟨h, fun hNot => ⟨names, hSome, hPrefix, hNot⟩⟩
  have hAll : path.names.reverse.reverse <+: path.names := by simp
  exact Disk.ensures_makeNames hMake hTest hAll

theorem change_of_ok {f : FileTree → Except DiskFault FileTree} {tree' : FileTree} (h : f tree = .ok tree') :
    change f tree = (.ok (), tree') := by
  rw [change, h]

/-- Nothing is made where there is a directory already. -/
theorem makeNames_of_isDirectory {absolute : Bool} {names : List String}
    (h : names ≠ [] → tree.isDirectory ⟨absolute, names.reverse, false⟩ = true) :
    disk.makeNames absolute names tree = (.ok (), tree) := by
  cases names with
  | nil => rfl
  | cons name above =>
      have hDirectory := h (by simp)
      have hMake : disk.makeDirectory ⟨absolute, (name :: above).reverse, false⟩ tree =
          (.error .alreadyExists, tree) := by
        simp only [disk, change, makeDirectory_of_isDirectory hDirectory]
      have hTest : disk.isDirectory ⟨absolute, (name :: above).reverse, false⟩ tree = (true, tree) := by
        rw [← hDirectory]
        rfl
      exact (bind_of_run _ hMake).trans (bind_of_run _ hTest)

end FileTree

namespace CursorFile

open Cursor (InRange)
open FileTree (Grown Blocked change_of_ok)
open Medium (Follows follows_pure)

/-- The path of the file that a save writes first, if the path of the cursor file has a name. -/
def beside? (file : CursorFile) : Option Path :=
  file.path.fileName?.map fun name => file.path.withFileName (besideName name)

/-- The content at the place of the file. -/
def contentIn (file : CursorFile) (tree : FileTree) : Option ByteArray :=
  match tree.node? file.path.place with
  | some (.file content) => some content
  | _ => none

/-- What a save that succeeds does to a tree. -/
structure Replaced (file : CursorFile) (floor : Int) (beside : Path) (tree tree' : FileTree) : Prop where
  written : tree'.node? file.path.place = some (.file (encode floor).toUTF8)
  gone : tree'.node? beside.place = none
  kept : ∀ q node, q ≠ file.path.place → q ≠ beside.place → tree.node? q = some node → tree'.node? q = some node
  added : ∀ q node, q ≠ file.path.place → tree.node? q = none → tree'.node? q = some node →
    node = .directory ∧ file.path.parent.Passes q

/-- What a save that fails does to a tree. -/
structure Abandoned (file : CursorFile) (tree tree' : FileTree) : Prop where
  untouched : file.contentIn tree' = file.contentIn tree
  kept : ∀ q node, (∀ beside, file.beside? = some beside → q ≠ beside.place) → tree.node? q = some node →
    tree'.node? q = some node
  directories : ∀ q, tree.node? q = some .directory → tree'.node? q = some .directory
  added : ∀ q node, tree.node? q = none → tree'.node? q = some node →
    node = .directory ∧ file.path.parent.Passes q
  cleaned : ∀ beside, file.beside? = some beside → ∀ q content, tree'.find beside ≠ .ok (q, .file content)

/-- What a save has done to a tree before its last step: nothing but directories, apart from the place beside the
file. -/
structure Touched (file : CursorFile) (beside : Path) (tree tree' : FileTree) : Prop where
  kept : ∀ q node, q ≠ beside.place → tree.node? q = some node → tree'.node? q = some node
  directories : ∀ q, tree.node? q = some .directory → tree'.node? q = some .directory
  added : ∀ q node, q ≠ beside.place → tree.node? q = none → tree'.node? q = some node →
    node = .directory ∧ file.path.parent.Passes q

/-- The file beside the target holds some content. -/
structure Staged (file : CursorFile) (beside : Path) (tree : FileTree) (content : ByteArray) (tree' : FileTree) :
    Prop extends Touched file beside tree tree' where
  there : tree'.find beside = .ok (beside.place, .file content)

/-- Where a save stands when one of its steps fails. -/
def Failing (file : CursorFile) (beside : Path) (tree tree' : FileTree) : Prop :=
  Grown file.path.parent tree tree' ∨ ∃ content, Staged file beside tree content tree'

/-- The content of the file is the old one or the complete new one. -/
def Whole (file : CursorFile) (floor : Int) (tree tree' : FileTree) : Prop :=
  file.contentIn tree' = file.contentIn tree ∨ file.contentIn tree' = some (encode floor).toUTF8

variable {file : CursorFile} {floor : Int} {beside : Path} {tree before after : FileTree} {content bytes : ByteArray}

/-- A directory that is made says nothing about the content of the file. -/
theorem contentIn_of_kept
    (hKept : ∀ node, tree.node? file.path.place = some node → after.node? file.path.place = some node)
    (hAdded : ∀ node, tree.node? file.path.place = none → after.node? file.path.place = some node →
      node = .directory) : file.contentIn after = file.contentIn tree := by
  simp only [contentIn]
  cases hOld : tree.node? file.path.place with
  | some node => rw [hKept node hOld]
  | none =>
      cases hNew : after.node? file.path.place with
      | none => rfl
      | some node => rw [hAdded node hOld hNew]

/-- While there are only directories, nothing beside the file was touched. -/
theorem Touched.of_grown (h : Grown file.path.parent tree after) : Touched file beside tree after where
  kept q node _ := h.kept q node
  directories q := h.kept q .directory
  added q node _ := h.added q node

/-- A save that has made directories and no file can be given up as it is. -/
theorem Abandoned.of_grown (h : Grown file.path.parent tree after)
    (hClean : ∀ beside, file.beside? = some beside → ∀ q content, after.find beside ≠ .ok (q, .file content)) :
    Abandoned file tree after where
  untouched := contentIn_of_kept (h.kept _) fun node hNone hNode => (h.added _ node hNone hNode).1
  kept q node _ := h.kept q node
  directories q := h.kept q .directory
  added := h.added
  cleaned := hClean

/-- Only the place beside the file is touched, and no directory is there. -/
theorem Touched.set (h : Touched file beside tree before) (hNot : before.node? beside.place ≠ some .directory)
    (hAfter : ∀ q, q ≠ beside.place → after.node? q = before.node? q) : Touched file beside tree after where
  kept q node hElse hNode := by
    rw [hAfter q hElse]
    exact h.kept q node hElse hNode
  directories q hNode := by
    have hOld := h.directories q hNode
    have hElse : q ≠ beside.place := fun hEq => hNot (hEq ▸ hOld)
    rw [hAfter q hElse]
    exact hOld
  added q node hElse hNone hNode := by
    rw [hAfter q hElse] at hNode
    exact h.added q node hElse hNone hNode

/-- What happens beside the file does not change its content. -/
theorem Touched.untouched (h : Touched file beside tree after) (hBeside : beside.place ≠ file.path.place) :
    file.contentIn after = file.contentIn tree :=
  contentIn_of_kept (fun node => h.kept _ node hBeside.symm) fun node hNone hNode =>
    (h.added _ node hBeside.symm hNone hNode).1

/-- With nothing left beside the file, the save is as good as never tried. -/
theorem Touched.abandoned (h : Touched file beside tree after) (hName : file.beside? = some beside)
    (hBeside : beside.place ≠ file.path.place) (hGone : after.node? beside.place = none) :
    Abandoned file tree after where
  untouched := h.untouched hBeside
  kept q node hElse := h.kept q node (hElse beside hName)
  directories := h.directories
  added q node hNone hNode := by
    have hElse : q ≠ beside.place := by
      rintro rfl
      rw [hGone] at hNode
      cases hNode
    exact h.added q node hElse hNone hNode
  cleaned other hOther q content hFind := by
    rw [hName] at hOther
    obtain rfl := Option.some.inj hOther
    obtain ⟨hResolve, hNode, _⟩ := FileTree.find_eq_ok hFind
    rw [FileTree.eq_place_of_resolve hResolve, hGone] at hNode
    cases hNode

theorem Staged.node (h : Staged file beside tree content after) :
    after.node? beside.place = some (.file content) := (FileTree.find_eq_ok h.there).2.1

/-- A new content beside the file. -/
theorem Touched.staged (h : Touched file beside tree before) (hResolve : before.resolve beside = .ok beside.place)
    (hFits : beside.mustBeDirectory = false) (hNot : before.node? beside.place ≠ some .directory)
    (hAfter : ∀ q, after.node? q = if q = beside.place then some (.file content) else before.node? q) :
    Staged file beside tree content after where
  toTouched := h.set hNot fun q hElse => by rw [hAfter, if_neg hElse]
  there := FileTree.find_of_set hResolve hFits hNot hAfter

/-- Step of a save: making the file beside the target. -/
theorem Staged.of_makeFile (h : Grown file.path.parent tree before) (hMake : before.makeFile beside = .ok after) :
    Staged file beside tree ByteArray.empty after := by
  obtain ⟨hResolve, hFits, hNot, hAfter⟩ := FileTree.makeFile_eq_ok hMake
  exact (Touched.of_grown h).staged hResolve hFits hNot hAfter

/-- Step of a save: writing some more bytes. -/
theorem Staged.append (h : Staged file beside tree content before)
    (hAppend : before.append beside bytes = .ok after) : Staged file beside tree (content ++ bytes) after := by
  obtain ⟨hResolve, hNode, hFits⟩ := FileTree.find_eq_ok h.there
  obtain ⟨found, hFound, hAfter⟩ := FileTree.append_eq_ok hAppend
  rw [hNode] at hFound
  cases hFound
  exact h.toTouched.staged hResolve (hFits (by simp)) (by simp [hNode]) hAfter

/-- Moving the complete content into place ends the save. -/
theorem Staged.rename (h : Staged file beside tree (encode floor).toUTF8 before)
    (hBeside : beside.place ≠ file.path.place) (hMove : before.rename beside file.path = .ok after) :
    Replaced file floor beside tree after := by
  obtain ⟨_, _, found, hFound, _, hAfter⟩ := FileTree.rename_eq_ok hMove
  rw [h.node] at hFound
  cases hFound
  constructor
  · rw [hAfter, if_pos rfl]
  · rw [hAfter, if_neg hBeside, if_pos rfl]
  · intro q node hTarget hElse hNode
    rw [hAfter, if_neg hTarget, if_neg hElse]
    exact h.kept q node hElse hNode
  · intro q node hTarget hNone hNode
    rw [hAfter, if_neg hTarget] at hNode
    split at hNode
    · cases hNode
    · rename_i hElse
      exact h.added q node hElse hNone hNode

theorem Staged.failing (h : Staged file beside tree content after) : Failing file beside tree after :=
  Or.inr ⟨content, h⟩

/-- Wherever a save fails, only the place beside the file was touched. -/
theorem Failing.touched (h : Failing file beside tree after) : Touched file beside tree after := by
  rcases h with hGrown | ⟨content, hStaged⟩
  · exact Touched.of_grown hGrown
  · exact hStaged.toTouched

/-- Cleaning up after a failure leaves nothing of the save but directories. -/
theorem Failing.removeFile (h : Failing file beside tree before) (hName : file.beside? = some beside)
    (hBeside : beside.place ≠ file.path.place) (hRemove : before.removeFile beside = .ok after) :
    Abandoned file tree after := by
  obtain ⟨content, hNode, hAfter⟩ := FileTree.removeFile_eq_ok hRemove
  have hTouched := h.touched.set (by simp [hNode]) fun q hElse => by rw [hAfter, if_neg hElse]
  exact hTouched.abandoned hName hBeside (by rw [hAfter, if_pos rfl])

/-- What cannot be removed was not made by the save. -/
theorem Failing.abandoned (h : Failing file beside tree after) (hName : file.beside? = some beside)
    {fault : DiskFault} (hRemove : after.removeFile beside = .error fault) : Abandoned file tree after := by
  have hClean := FileTree.not_find_of_removeFile hRemove
  rcases h with hGrown | ⟨content, hStaged⟩
  · refine Abandoned.of_grown hGrown fun other hOther => ?_
    rw [hName] at hOther
    obtain rfl := Option.some.inj hOther
    exact hClean
  · exact absurd hStaged.there (hClean _ _)

/-- After the move the file holds the new content. -/
theorem Replaced.contentIn (h : Replaced file floor beside tree after) :
    file.contentIn after = some (encode floor).toUTF8 := by
  simp [CursorFile.contentIn, h.written]

section Steps

variable (tree) (hBeside : beside.place ≠ file.path.place)

include hBeside

/-- At a failure the content of the file is still the old one. -/
theorem Failing.whole (h : Failing file beside tree after) : Whole file floor tree after :=
  Or.inl (h.touched.untouched hBeside)

theorem Staged.whole (h : Staged file beside tree content after) : Whole file floor tree after :=
  Or.inl (h.toTouched.untouched hBeside)

/-- Rule for the first step of a save. When it fails, or when the process stops, the old content stands. -/
theorem ensures_creating :
    Process.Ensures (fun m => Grown file.path.parent tree m.tree) (Medium.plainDisk.makeFile beside)
      (Tried (fun m => Staged file beside tree ByteArray.empty m.tree) fun m => Failing file beside tree m.tree)
      fun m => Whole file floor tree m.tree :=
  Medium.ensures_attemptWhole (.makeFile beside) (P := Grown file.path.parent tree)
    (G := Staged file beside tree ByteArray.empty) (B := Failing file beside tree) (X := Whole file floor tree)
    (fun _ _ h hMade => Staged.of_makeFile h hMade) (fun _ h => Or.inl h)
    (fun _ h => Failing.whole tree hBeside (Or.inl h)) fun _ h => h.whole tree hBeside

/-- Some of the bytes may be written before the step fails. -/
theorem ensures_writing (bytes : ByteArray) :
    Process.Ensures (fun m => Staged file beside tree ByteArray.empty m.tree) (Medium.plainDisk.append beside bytes)
      (Tried (fun m => Staged file beside tree bytes m.tree) fun m => Failing file beside tree m.tree)
      fun m => Whole file floor tree m.tree := by
  refine (Medium.ensures_attempt (.append beside bytes) (fun n => .append beside (bytes.extract 0 n))
    (P := Staged file beside tree ByteArray.empty) (G := Staged file beside tree bytes)
    (B := Failing file beside tree) (fun _ h => h.failing) (fun _ _ _ h hMade => (h.append hMade).failing)
    fun t t' h hMade => ?_).imp (fun _ h => h) (fun _ _ h => h) fun _ h => Failing.whole tree hBeside h
  have hAll := h.append hMade
  rwa [ByteArray.empty_append] at hAll

/-- Rule for writing through to the disk, which changes nothing in the tree. -/
theorem ensures_syncing :
    Process.Ensures (fun m => Staged file beside tree content m.tree) (Medium.plainDisk.sync beside)
      (Tried (fun m => Staged file beside tree content m.tree) fun m => Failing file beside tree m.tree)
      fun m => Whole file floor tree m.tree := by
  refine Medium.ensures_attemptWhole .nothing (P := Staged file beside tree content)
    (G := Staged file beside tree content) (B := Failing file beside tree) (X := Whole file floor tree)
    (fun t t' h hMade => ?_) (fun _ h => h.failing) (fun _ h => h.whole tree hBeside) fun _ h => h.whole tree hBeside
  cases hMade
  exact h

/-- Rule for the last step of a save: either the new content is in place, or the move has failed and the old one
stands. -/
theorem ensures_moving (hFloor : InRange floor) :
    Process.Ensures (fun m => Staged file beside tree (encode floor).toUTF8 m.tree)
      (Medium.plainDisk.rename beside file.path)
      (Tried (fun m => Replaced file floor beside tree m.tree ∧ file.loaded m.tree = .ok (some floor))
        fun m => Failing file beside tree m.tree)
      fun m => Whole file floor tree m.tree :=
  Medium.ensures_attemptWhole (.rename beside file.path) (P := Staged file beside tree (encode floor).toUTF8)
    (G := fun t => Replaced file floor beside tree t ∧ file.loaded t = .ok (some floor))
    (B := Failing file beside tree) (X := Whole file floor tree)
    (fun _ _ h hMade => ⟨h.rename hBeside hMade, loaded_of_rename h.node hFloor hMade⟩) (fun _ h => h.failing)
    (fun _ h => h.whole tree hBeside) fun _ h => Or.inr h.1.contentIn

/-- The steps put the complete content into place, or they fail before. -/
theorem ensures_replacing (hFloor : InRange floor) :
    Process.Ensures (fun m => Grown file.path.parent tree m.tree)
      (performAll Medium.plainDisk beside file.path (writeSteps (encode floor).toUTF8))
      (Tried (fun m => Replaced file floor beside tree m.tree ∧ file.loaded m.tree = .ok (some floor))
        fun m => Failing file beside tree m.tree)
      fun m => Whole file floor tree m.tree :=
  ensures_writeSteps (ensures_creating tree hBeside) (ensures_writing tree hBeside _) (ensures_syncing tree hBeside)
    (ensures_moving tree hBeside hFloor)

/-- Rule for cleaning up after a failure: nothing is left beside the file, whether or not there was something to
remove. -/
theorem ensures_cleaning (hName : file.beside? = some beside) :
    Process.Ensures (fun m => Failing file beside tree m.tree) (Medium.plainDisk.removeFile beside)
      (fun _ m => Abandoned file tree m.tree) fun m => Whole file floor tree m.tree :=
  (Medium.ensures_attemptSurely (.removeFile beside) (P := Failing file beside tree)
    (G := Abandoned file tree) (B := Abandoned file tree) (X := Whole file floor tree)
    (fun _ _ h hMade => h.removeFile hName hBeside hMade) (fun _ _ h hFails => h.abandoned hName hFails)
    (fun _ h => Failing.whole tree hBeside h) fun _ h => Or.inl h.untouched).of_tried (fun _ h => h) fun _ h => h

end Steps

theorem beside_eq (file : CursorFile) {name : String} (h : file.path.fileName? = some name) :
    file.beside? = some (file.path.withFileName (besideName name)) := by
  rw [beside?, h]
  rfl

/-- Without its directories there is nothing beside the file. -/
theorem Abandoned.of_blocked (h : Grown file.path.parent tree after) (hBlocked : Blocked file.path.parent after) :
    Abandoned file tree after := by
  refine Abandoned.of_grown h fun beside hBeside q content => ?_
  obtain ⟨name, -, rfl⟩ := Option.map_eq_some_iff.mp hBeside
  have hRoot : (file.path.withFileName (besideName name)).absolute = file.path.parent.absolute := rfl
  exact hBlocked.not_find hRoot rfl q _

/-- Where a save leaves the tree. -/
theorem ensures_save_atomic (file : CursorFile) (tree : FileTree) (hFloor : InRange floor) :
    Process.Ensures (fun m => Grown file.path.parent tree m.tree) (file.save Medium.plainDisk floor)
      (Tried (fun m => file.loaded m.tree = .ok (some floor) ∧
          ∃ beside, file.beside? = some beside ∧ Replaced file floor beside tree m.tree)
        fun m => Abandoned file tree m.tree)
      fun m => Whole file floor tree m.tree := by
  have hOld : ∀ t, Grown file.path.parent tree t → Whole file floor tree t := fun t h =>
    Or.inl (contentIn_of_kept (h.kept _) fun node hNone hNode => (h.added _ node hNone hNode).1)
  have hNameless : file.path.fileName? = none → ∀ m : Medium, Grown file.path.parent tree m.tree →
      Abandoned file tree m.tree := by
    intro hNone m h
    refine Abandoned.of_grown h fun beside hBeside => ?_
    simp [beside?, hNone] at hBeside
  have hDirectories : Process.Ensures (fun m => Grown file.path.parent tree m.tree)
      (Medium.plainDisk.makeDirectories file.path.parent)
      (Tried (fun m => Grown file.path.parent tree m.tree) fun m => Abandoned file tree m.tree)
      fun m => Whole file floor tree m.tree :=
    (FileTree.ensures_makeDirectories file.path.parent tree).tried (fun _ h => h)
      (fun _ h => Abandoned.of_blocked h.1 h.2) fun m => hOld m.tree
  have hSteps : ∀ name, file.path.fileName? = some name →
      Process.Ensures (fun m => Grown file.path.parent tree m.tree)
        (performAll Medium.plainDisk (file.path.withFileName (besideName name)) file.path
          (writeSteps (encode floor).toUTF8))
        (Tried (fun m => file.loaded m.tree = .ok (some floor) ∧
            ∃ beside, file.beside? = some beside ∧ Replaced file floor beside tree m.tree)
          fun m => Failing file (file.path.withFileName (besideName name)) tree m.tree)
        fun m => Whole file floor tree m.tree := fun name hName =>
    (ensures_replacing tree (place_beside hName) hFloor).tried
      (fun _ h => ⟨h.2, _, file.beside_eq hName, h.1⟩) (fun _ h => h) fun _ h => h
  exact ensures_save_of_replace hFloor.1 (ensures_replace hNameless (fun _ _ => hDirectories) hSteps
    fun name hName => ensures_cleaning tree (place_beside hName) (file.beside_eq hName))

/-- The steps of a save on the disk with faults follow those on the bare tree, as long as the disk does no harm. -/
theorem follows_performAll (beside target : Path) (steps : List WriteStep) :
    Follows (performAll Medium.plainDisk beside target steps) (performAll FileTree.disk beside target steps) := by
  induction steps with
  | nil => exact follows_pure _
  | cons step steps ih =>
      have hStep : Follows (step.perform Medium.plainDisk beside target)
          (step.perform FileTree.disk beside target) := by
        cases step with
        | create => exact Medium.follows_attemptWhole (.makeFile beside)
        | write bytes =>
            exact Medium.follows_attempt (.append beside bytes) fun extent =>
              .append beside (bytes.extract 0 extent)
        | sync => exact Medium.follows_attemptWhole .nothing
        | moveIntoPlace => exact Medium.follows_attemptWhole (.rename beside target)
      refine hStep.bind fun r => ?_
      cases r with
      | error fault => exact follows_pure _
      | ok done => exact ih

/-- So does the whole replacement of a file. -/
theorem follows_replace (file : CursorFile) (bytes : ByteArray) :
    Follows (file.replace Medium.plainDisk bytes) (file.replace FileTree.disk bytes) := by
  simp only [replace]
  cases file.path.fileName? with
  | none => exact follows_pure _
  | some name =>
      refine (Medium.follows_makeNames file.path.parent.absolute _).bind fun r => ?_
      cases r with
      | error fault => exact follows_pure _
      | ok done =>
          refine (follows_performAll _ file.path _).bind fun r => ?_
          cases r with
          | ok done => exact follows_pure _
          | error fault =>
              exact (Medium.follows_attemptSurely (.removeFile _)).bind fun _ => follows_pure _

/-- Without any trouble, a save goes as it does on the tree alone. -/
theorem follows_save (file : CursorFile) (floor : Int) :
    Follows (file.save Medium.plainDisk floor) (file.save FileTree.disk floor) := by
  simp only [save]
  split
  · exact follows_pure _
  · refine (follows_replace file _).bind fun r => ?_
    cases r with
    | ok done => exact follows_pure _
    | error fault => exact follows_pure _

/-- A step that succeeds leaves the rest of the steps to be done. -/
theorem performAll_cons {disk : Disk (StateM FileTree)} {target : Path} {step : WriteStep} {steps : List WriteStep}
    {tree' : FileTree} (h : step.perform disk beside target tree = (.ok (), tree')) :
    performAll disk beside target (step :: steps) tree = performAll disk beside target steps tree' :=
  bind_of_run _ h

/-- The steps of a save succeed when there is room for both files. -/
theorem performAll_of_room {bytes : ByteArray} {p q : Place} (hRoom : tree.filePlace beside = .ok p)
    (hTarget : tree.filePlace file.path = .ok q) :
    ∃ after, performAll FileTree.disk beside file.path (writeSteps bytes) tree = (.ok (), after) := by
  obtain ⟨made, hMake⟩ : ∃ made, tree.makeFile beside = .ok made :=
    ⟨_, by rw [FileTree.makeFile, hRoom]; rfl⟩
  obtain ⟨hResolve, hFits, hNot, hMade⟩ := FileTree.makeFile_eq_ok hMake
  have hFound := FileTree.find_of_set hResolve hFits hNot hMade
  obtain ⟨written, hAppend⟩ : ∃ written, made.append beside bytes = .ok written :=
    ⟨_, by rw [FileTree.append, hFound]; rfl⟩
  obtain ⟨hAgain, hNode, _⟩ := FileTree.find_eq_ok hFound
  obtain ⟨content, hContent, hWritten⟩ := FileTree.append_eq_ok hAppend
  have hFile : made.node? beside.place ≠ some .directory := by simp [hNode]
  have hComplete := FileTree.find_of_set hAgain hFits hFile hWritten
  have hStill := FileTree.filePlace_of_set (FileTree.filePlace_of_set hTarget hNot hMade) hFile hWritten
  obtain ⟨moved, hMove⟩ : ∃ moved, written.rename beside file.path = .ok moved :=
    ⟨_, by rw [FileTree.rename, hComplete]; simp only [bind, Except.bind, hStill]; rfl⟩
  have hCreates : WriteStep.create.perform FileTree.disk beside file.path tree = (.ok (), made) :=
    change_of_ok (f := fun t => t.makeFile beside) hMake
  have hWrites : (WriteStep.write bytes).perform FileTree.disk beside file.path made = (.ok (), written) :=
    change_of_ok (f := fun t => t.append beside bytes) hAppend
  have hSyncs : WriteStep.sync.perform FileTree.disk beside file.path written = (.ok (), written) := rfl
  have hMoves : WriteStep.moveIntoPlace.perform FileTree.disk beside file.path written = (.ok (), moved) :=
    change_of_ok (f := fun t => t.rename beside file.path) hMove
  refine ⟨moved, ?_⟩
  rw [writeSteps, performAll_cons hCreates, performAll_cons hWrites, performAll_cons hSyncs, performAll_cons hMoves]
  rfl

/-- Without any trouble, a save succeeds when there is room for both files. -/
theorem save_of_room {floor : Int} (hFloor : 0 ≤ floor) (hName : file.beside? = some beside) {p q : Place}
    (hRoom : tree.filePlace beside = .ok p) (hTarget : tree.filePlace file.path = .ok q) :
    (file.save FileTree.disk floor tree).1 = .ok () := by
  obtain ⟨name, hLast, rfl⟩ := Option.map_eq_some_iff.mp hName
  have hThere : FileTree.disk.makeDirectories file.path.parent tree = (.ok (), tree) := by
    apply FileTree.makeNames_of_isDirectory
    intro hSome
    rw [List.reverse_reverse]
    have hProper : file.path.parent.names ≠ (file.path.withFileName (besideName name)).names := by
      simp [Path.parent, Path.withFileName]
    have hWay := (FileTree.filePlace_eq_ok hRoom).1
    have hDirectory : tree.isDirectory ⟨(file.path.withFileName (besideName name)).absolute,
        file.path.parent.names, false⟩ = true :=
      FileTree.isDirectory_of_resolve hWay (by simpa using hSome) (List.prefix_append _ _) hProper
    exact hDirectory
  obtain ⟨after, hSteps⟩ := @performAll_of_room file _ tree (encode floor).toUTF8 p q hRoom hTarget
  have hReplace : file.replace FileTree.disk (encode floor).toUTF8 tree = (.ok (), after) := by
    simp only [replace, hLast]
    exact (bind_of_run _ hThere).trans (bind_of_run _ hSteps)
  have hSave : file.save FileTree.disk floor tree = (.ok (), after) := by
    simp only [save]
    rw [if_neg (Int.not_lt.mpr hFloor)]
    exact bind_of_run _ hReplace
  rw [hSave]

/-- **A save is atomic.** If it succeeds, the floor is loaded from then on, the file beside the target is gone and all
other files are as they were. If it fails, no file has changed but the one beside the target, and none is left there.
Only directories on the way to the file are added. Whether it ends or the process is stopped at any point of it, the
content of the file is the old one or the complete new one. Without any trouble, this is what happens on the tree
alone, and there it succeeds when the tree has room for both files. -/
theorem save_atomic (file : CursorFile) (hFloor : InRange floor) (m : Medium) :
    ((file.save Medium.plainDisk floor m).1 = some (.ok ()) →
      (file.load Medium.plainDisk (file.save Medium.plainDisk floor m).2).1 = some (.ok (some floor)) ∧
        ∃ beside, file.beside? = some beside ∧
          Replaced file floor beside m.tree (file.save Medium.plainDisk floor m).2.tree) ∧
      (∀ e, (file.save Medium.plainDisk floor m).1 = some (.error e) →
        Abandoned file m.tree (file.save Medium.plainDisk floor m).2.tree) ∧
      Whole file floor m.tree (file.save Medium.plainDisk floor m).2.tree ∧
      (m.troubles = [] → (file.save Medium.plainDisk floor m).1 = some (file.save FileTree.disk floor m.tree).1 ∧
        (file.save Medium.plainDisk floor m).2.tree = (file.save FileTree.disk floor m.tree).2) ∧
      ∀ beside p q, file.beside? = some beside → m.tree.filePlace beside = .ok p →
        m.tree.filePlace file.path = .ok q → (file.save FileTree.disk floor m.tree).1 = .ok () := by
  have hSave := (ensures_save_atomic file m.tree hFloor).at_end (w := m) FileTree.Grown.refl
  have hLoad : ∀ m', file.load Medium.plainDisk m' = (some (file.loaded m'.tree), m') := file.load_eq
  have hFollows := file.follows_save floor m
  refine ⟨fun hEnd => ?_, fun e hEnd => hSave.1 _ hEnd, ?_, fun hCalm => ⟨(hFollows hCalm).1, (hFollows hCalm).2.1⟩,
    fun beside p q hName hRoom hTarget => save_of_room hFloor.1 hName hRoom hTarget⟩
  · obtain ⟨hLoaded, hReplaced⟩ := hSave.1 _ hEnd
    rw [hLoad, hLoaded]
    exact ⟨rfl, hReplaced⟩
  · cases hEnd : (file.save Medium.plainDisk floor m).1 with
    | none => exact hSave.2 hEnd
    | some r =>
        have hLast := hSave.1 r hEnd
        cases r with
        | ok done =>
            obtain ⟨-, beside, -, hReplaced⟩ := hLast
            exact Or.inr hReplaced.contentIn
        | error e => exact Or.inl hLast.untouched

/-- A disk on which the second save is stopped after five bytes. -/
def stoppedMidway : Medium := ⟨FileTree.empty, FileTree.grounded_empty, List.replicate 7 none ++ [some ⟨none, 5⟩]⟩

/-- The floor that was saved first is loaded, and the save that is stopped leaves a complete content. -/
theorem save_atomic_of_stoppedMidway :
    InRange 7 ∧ InRange 8 ∧
      (load Medium.plainDisk ⟨"state/cursor.json"⟩ (save Medium.plainDisk ⟨"state/cursor.json"⟩ 7 stoppedMidway).2).1 =
        some (.ok (some 7)) ∧
      (save Medium.plainDisk ⟨"state/cursor.json"⟩ 8
        (save Medium.plainDisk ⟨"state/cursor.json"⟩ 7 stoppedMidway).2).1 = none ∧
      Whole ⟨"state/cursor.json"⟩ 8 (save Medium.plainDisk ⟨"state/cursor.json"⟩ 7 stoppedMidway).2.tree
        (save Medium.plainDisk ⟨"state/cursor.json"⟩ 8
          (save Medium.plainDisk ⟨"state/cursor.json"⟩ 7 stoppedMidway).2).2.tree := by
  have hSeven : InRange 7 := by simp [InRange, Text.maxSigned]
  have hEight : InRange 8 := by simp [InRange, Text.maxSigned]
  have hOk : (save Medium.plainDisk ⟨"state/cursor.json"⟩ 7 stoppedMidway).1.bind Except.toOption = some () := by
    decide +kernel
  have hFirst : (save Medium.plainDisk ⟨"state/cursor.json"⟩ 7 stoppedMidway).1 = some (.ok ()) := by
    obtain ⟨r, hEnd, hOk⟩ := Option.bind_eq_some_iff.mp hOk
    rw [hEnd, eq_ok_of_toOption hOk]
  have hStopped : (save Medium.plainDisk ⟨"state/cursor.json"⟩ 8
      (save Medium.plainDisk ⟨"state/cursor.json"⟩ 7 stoppedMidway).2).1.isNone = true := by
    decide +kernel
  exact ⟨hSeven, hEight, ((save_atomic ⟨"state/cursor.json"⟩ hSeven stoppedMidway).1 hFirst).1,
    Option.isNone_iff_eq_none.mp hStopped, (save_atomic ⟨"state/cursor.json"⟩ hEight _).2.2.1⟩

end CursorFile

end ChatRelay
