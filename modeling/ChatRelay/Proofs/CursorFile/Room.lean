import ChatRelay.Proofs.CursorFile.Atomic

/-!
A file that could be saved once can be saved again. Without any trouble, whether a save succeeds depends on the
directories alone, and a save that succeeds leaves them as they were but for those that it makes on the way.
-/

namespace ChatRelay

namespace FileTree

/-- Two trees with the same directories. Their files need not be the same. -/
def SameDirectories (tree tree' : FileTree) : Prop :=
  ∀ place, tree'.node? place = some .directory ↔ tree.node? place = some .directory

variable {tree mid tree' : FileTree} {path source target : Path} {place : Place}

theorem SameDirectories.symm (h : SameDirectories tree tree') : SameDirectories tree' tree := fun place =>
  (h place).symm

theorem SameDirectories.trans (h : SameDirectories tree mid) (h' : SameDirectories mid tree') :
    SameDirectories tree tree' := fun place => (h' place).trans (h place)

/-- Where a file can stand is a matter of the directories. -/
theorem SameDirectories.filePlace (h : SameDirectories tree tree') (hPlace : tree.filePlace path = .ok place) :
    tree'.filePlace path = .ok place := by
  obtain ⟨hResolve, hNot, hFits⟩ := filePlace_eq_ok hPlace
  refine filePlace_of_resolve (resolve_of_directories (fun q => (h q).mpr) hResolve) (fun hThere => ?_) hFits
  exact hNot ((h place).mp hThere)

/-- A change at one place where no directory is, before and after. -/
theorem sameDirectories_of_else (hBefore : tree.node? place ≠ some .directory)
    (hAfter : tree'.node? place ≠ some .directory) (hElse : ∀ q, q ≠ place → tree'.node? q = tree.node? q) :
    SameDirectories tree tree' := by
  intro q
  by_cases hHere : q = place
  · rw [hHere]
    exact iff_of_false hAfter hBefore
  · rw [hElse q hHere]

theorem sameDirectories_makeFile (h : tree.makeFile path = .ok tree') : SameDirectories tree tree' := by
  obtain ⟨-, -, hNot, hAfter⟩ := makeFile_eq_ok h
  refine sameDirectories_of_else hNot (by simp [hAfter]) fun q hElse => ?_
  rw [hAfter, if_neg hElse]

/-- So does writing to it. -/
theorem sameDirectories_append {bytes : ByteArray} (h : tree.append path bytes = .ok tree') :
    SameDirectories tree tree' := by
  obtain ⟨content, hNode, hAfter⟩ := append_eq_ok h
  have hBefore : tree.node? path.place ≠ some .directory := by simp [hNode]
  refine sameDirectories_of_else hBefore (by simp [hAfter]) fun q hElse => ?_
  rw [hAfter, if_neg hElse]

/-- So does moving it. -/
theorem sameDirectories_rename (h : tree.rename source target = .ok tree') : SameDirectories tree tree' := by
  obtain ⟨-, -, content, hNode, hNot, hAfter⟩ := rename_eq_ok h
  refine fun q => ⟨fun hThere => ?_, directory_of_rename h⟩
  rw [hAfter] at hThere
  split at hThere
  · cases hThere
  · split at hThere
    · cases hThere
    · exact hThere

theorem exists_filePlace_of_makeFile (h : tree.makeFile path = .ok tree') :
    ∃ place, tree.filePlace path = .ok place := by
  obtain ⟨hResolve, hFits, hNot, -⟩ := makeFile_eq_ok h
  exact ⟨path.place, filePlace_of_resolve hResolve hNot hFits⟩

theorem exists_filePlace_of_rename (h : tree.rename source target = .ok tree') :
    ∃ place, tree.filePlace target = .ok place := by
  obtain ⟨hResolve, hFits, -, -, hNot, -⟩ := rename_eq_ok h
  exact ⟨target.place, filePlace_of_resolve hResolve hNot hFits⟩

/-- A change that succeeded was one that the tree admits. -/
theorem eq_ok_of_change {f : FileTree → Except DiskFault FileTree} (h : change f tree = (.ok (), tree')) :
    f tree = .ok tree' := by
  simp only [change] at h
  split at h
  · rename_i found hFound
    rw [hFound]
    cases h
    rfl
  · cases h

end FileTree

namespace CursorFile

open FileTree (SameDirectories eq_ok_of_change)

variable {file : CursorFile} {beside target : Path} {tree grown after : FileTree} {bytes : ByteArray} {floor : Int}

/-- There is room for the file and for the one beside it. -/
structure HasRoom (file : CursorFile) (beside : Path) (tree : FileTree) : Prop where
  target : ∃ place, tree.filePlace file.path = .ok place
  beside : ∃ place, tree.filePlace beside = .ok place

/-- Room for a file depends on nothing but the directories. -/
theorem HasRoom.of_sameDirectories (h : HasRoom file beside tree) (hSame : SameDirectories tree after) :
    HasRoom file beside after where
  target := h.target.imp fun _ => hSame.filePlace
  beside := h.beside.imp fun _ => hSame.filePlace

/-- Steps that succeed start with one that succeeds. -/
theorem exists_of_performAll_cons {step : WriteStep} {steps : List WriteStep}
    (h : performAll FileTree.disk beside target (step :: steps) tree = (.ok (), after)) :
    ∃ mid, step.perform FileTree.disk beside target tree = (.ok (), mid) ∧
      performAll FileTree.disk beside target steps mid = (.ok (), after) := by
  obtain ⟨r, mid, hStep, hRest⟩ := exists_of_bind_run h
  cases r with
  | ok done => exact ⟨mid, hStep, hRest⟩
  | error fault => cases hRest

/-- What the steps of a save that succeed find and leave. -/
structure Performed (file : CursorFile) (beside : Path) (bytes : ByteArray) (tree after : FileTree) : Prop where
  room : HasRoom file beside tree
  same : SameDirectories tree after
  written : after.node? file.path.place = some (.file bytes)

/-- What the steps of a save have done when all of them have succeeded. -/
theorem performed_of_performAll
    (h : performAll FileTree.disk beside file.path (writeSteps bytes) tree = (.ok (), after)) :
    Performed file beside bytes tree after := by
  obtain ⟨made, hMakes, hLater⟩ := exists_of_performAll_cons h
  obtain ⟨written, hWrites, hLater⟩ := exists_of_performAll_cons hLater
  obtain ⟨synced, hSyncs, hLater⟩ := exists_of_performAll_cons hLater
  obtain ⟨moved, hMoves, hEnd⟩ := exists_of_performAll_cons hLater
  obtain rfl : written = synced := congrArg Prod.snd hSyncs
  obtain rfl : moved = after := (Prod.mk.inj hEnd).2
  have hMake := eq_ok_of_change (f := fun t => t.makeFile beside) hMakes
  have hAppend := eq_ok_of_change (f := fun t => t.append beside bytes) hWrites
  have hMove := eq_ok_of_change (f := fun t => t.rename beside file.path) hMoves
  have hSame := (FileTree.sameDirectories_makeFile hMake).trans (FileTree.sameDirectories_append hAppend)
  constructor
  case room =>
    refine ⟨?_, FileTree.exists_filePlace_of_makeFile hMake⟩
    exact (FileTree.exists_filePlace_of_rename hMove).imp fun _ => hSame.symm.filePlace
  case same => exact hSame.trans (FileTree.sameDirectories_rename hMove)
  case written =>
    -- the bytes are written to an empty file, which is then moved
    obtain ⟨-, -, -, hMade⟩ := FileTree.makeFile_eq_ok hMake
    obtain ⟨old, hOld, hWritten⟩ := FileTree.append_eq_ok hAppend
    obtain ⟨-, -, found, hFound, -, hMoved⟩ := FileTree.rename_eq_ok hMove
    rw [hMade, if_pos rfl] at hOld
    rw [hWritten, if_pos rfl] at hFound
    cases hOld
    cases hFound
    rw [hMoved, if_pos rfl, ByteArray.empty_append]

/-- A save that succeeds makes directories first and then performs its steps. -/
theorem exists_of_save (h : file.save FileTree.disk floor tree = (.ok (), after)) :
    ∃ beside grown, file.beside? = some beside ∧
      FileTree.disk.makeDirectories file.path.parent tree = (.ok (), grown) ∧
      performAll FileTree.disk beside file.path (writeSteps (encode floor).toUTF8) grown = (.ok (), after) := by
  simp only [save] at h
  split at h
  · cases h
  obtain ⟨r, mid, hReplace, hEnd⟩ := exists_of_bind_run h
  cases r with
  | error fault => cases hEnd
  | ok done =>
      obtain rfl : mid = after := (Prod.mk.inj hEnd).2
      simp only [replace] at hReplace
      cases hName : file.path.fileName? with
      | none =>
          rw [hName] at hReplace
          cases hReplace
      | some name =>
          rw [hName] at hReplace
          obtain ⟨made, grown, hMake, hRest⟩ := exists_of_bind_run hReplace
          cases made with
          | error fault => cases hRest
          | ok done =>
              obtain ⟨answer, last, hSteps, hEnd⟩ := exists_of_bind_run hRest
              cases answer with
              | error fault =>
                  obtain ⟨removed, last, hClean, hEnd⟩ := exists_of_bind_run hEnd
                  cases hEnd
              | ok done =>
                  obtain rfl : last = mid := (Prod.mk.inj hEnd).2
                  exact ⟨_, grown, file.beside_eq hName, hMake, hSteps⟩

/-- A save succeeds when its directories can be made and its steps succeed. -/
theorem save_of_performAll (hFloor : 0 ≤ floor) (hName : file.beside? = some beside)
    (hMake : FileTree.disk.makeDirectories file.path.parent tree = (.ok (), grown))
    (hSteps : performAll FileTree.disk beside file.path (writeSteps (encode floor).toUTF8) grown = (.ok (), after)) :
    file.save FileTree.disk floor tree = (.ok (), after) := by
  obtain ⟨name, hLast, rfl⟩ := Option.map_eq_some_iff.mp hName
  have hReplace : file.replace FileTree.disk (encode floor).toUTF8 tree = (.ok (), after) := by
    simp only [replace, hLast]
    exact (bind_of_run _ hMake).trans (bind_of_run _ hSteps)
  simp only [save]
  rw [if_neg (Int.not_lt.mpr hFloor)]
  exact bind_of_run _ hReplace

/-- Some floor can be saved. -/
def Saveable (file : CursorFile) (tree : FileTree) : Prop :=
  ∃ floor, (file.save FileTree.disk floor tree).1 = .ok ()

/-- Where one floor can be saved, each one can, and again after that. -/
theorem Saveable.save (h : Saveable file tree) (hFloor : 0 ≤ floor) :
    ∃ after, file.save FileTree.disk floor tree = (.ok (), after) ∧ Saveable file after ∧
      file.contentIn after = some (encode floor).toUTF8 := by
  obtain ⟨first, hFirst⟩ := h
  obtain ⟨beside, grown, hName, hMake, hFirstSteps⟩ := exists_of_save (Prod.ext hFirst rfl)
  obtain ⟨⟨q, hTarget⟩, ⟨p, hBeside⟩⟩ := (performed_of_performAll hFirstSteps).room
  obtain ⟨after, hSteps⟩ : ∃ after, performAll FileTree.disk beside file.path (writeSteps (encode floor).toUTF8) grown =
      (.ok (), after) := performAll_of_room hBeside hTarget
  have hPerformed := performed_of_performAll hSteps
  obtain ⟨⟨q', hTarget'⟩, ⟨p', hBeside'⟩⟩ := hPerformed.room.of_sameDirectories hPerformed.same
  refine ⟨after, save_of_performAll hFloor hName hMake hSteps, ⟨0, ?_⟩, ?_⟩
  · exact save_of_room (Int.le_refl 0) hName hBeside' hTarget'
  · rw [contentIn, hPerformed.written]

end CursorFile

end ChatRelay
