import ChatRelay.Proofs.Process

/-!
Rules for the programs that work with files, on a disk of which nothing is known but what its operations ensure.
Making the directories of a path comes down to making and testing single ones, and a save comes down to its steps.
-/

namespace ChatRelay

variable {σ : Type} {disk : Disk (Process σ)} {stopped : σ → Prop}

namespace Disk

variable {P B : σ → Prop} {absolute : Bool}

/-- Rule for the test that forgives a directory which is already there. -/
theorem ensures_unlessDirectory {path : Path} (fault : DiskFault)
    (hTest : Process.Ensures P (disk.isDirectory path) (fun found w => P w ∧ (found = false → B w)) stopped) :
    Process.Ensures P
      (do if ← disk.isDirectory path then return Except.ok () else return Except.error fault)
      (Tried P fun w => P w ∧ B w) stopped := by
  apply hTest.bind
  intro found
  cases found with
  | true => exact Process.ensures_pure fun _ h => h.1
  | false => exact Process.ensures_pure fun _ h => ⟨h.1, h.2 rfl⟩

/-- Making directories keeps what making one of them keeps. It only fails over a path that is no directory. -/
theorem ensures_makeNames {all : List String}
    (hMake : ∀ names, names ≠ [] → names <+: all →
      Process.Ensures P (disk.makeDirectory ⟨absolute, names, false⟩) (fun _ => P) stopped)
    (hTest : ∀ names, names ≠ [] → names <+: all →
      Process.Ensures P (disk.isDirectory ⟨absolute, names, false⟩) (fun found w => P w ∧ (found = false → B w))
        stopped)
    {names : List String} (hNames : names.reverse <+: all) :
    Process.Ensures P (disk.makeNames absolute names) (Tried P fun w => P w ∧ B w) stopped := by
  induction names with
  | nil => exact Process.ensures_pure fun _ h => h
  | cons name above ih =>
      have hSome : (name :: above).reverse ≠ [] := by simp
      have hAbove : above.reverse <+: all := by
        refine List.IsPrefix.trans ?_ hNames
        rw [List.reverse_cons]
        exact List.prefix_append _ _
      have hAgain := fun fault => ensures_unlessDirectory fault (hTest _ hSome hNames)
      apply (hMake _ hSome hNames).bind
      intro r
      cases r with
      | ok done => exact Process.ensures_pure fun _ h => h
      | error fault =>
          cases fault with
          | notFound =>
              apply (ih hAbove).bind
              intro r
              cases r with
              | error fault => exact Process.ensures_pure fun _ h => h
              | ok done =>
                  apply (hMake _ hSome hNames).bind
                  intro r
                  cases r with
                  | ok done => exact Process.ensures_pure fun _ h => h
                  | error fault => exact hAgain fault
          | _ => exact hAgain _

end Disk

namespace CursorFile

variable {file : CursorFile} {bytes : ByteArray} {before made created written synced bad good failed : σ → Prop}

/-- The steps of writing a content, one after the other. -/
theorem ensures_writeSteps {beside : Path}
    (hCreate : Process.Ensures made (disk.makeFile beside) (Tried created bad) stopped)
    (hWrite : Process.Ensures created (disk.append beside bytes) (Tried written bad) stopped)
    (hSync : Process.Ensures written (disk.sync beside) (Tried synced bad) stopped)
    (hMove : Process.Ensures synced (disk.rename beside file.path) (Tried good bad) stopped) :
    Process.Ensures made (performAll disk beside file.path (writeSteps bytes)) (Tried good bad) stopped := by
  have hStep : ∀ {first next : σ → Prop} (step : WriteStep) (rest : List WriteStep),
      Process.Ensures first (step.perform disk beside file.path) (Tried next bad) stopped →
      Process.Ensures next (performAll disk beside file.path rest) (Tried good bad) stopped →
      Process.Ensures first (performAll disk beside file.path (step :: rest)) (Tried good bad) stopped := by
    intro first next step rest hFirst hRest
    apply hFirst.bind
    intro r
    cases r with
    | error fault => exact Process.ensures_pure fun _ h => h
    | ok done => exact hRest
  have hDone : Process.Ensures good (performAll disk beside file.path []) (Tried good bad) stopped :=
    Process.ensures_pure fun _ h => h
  exact hStep _ _ hCreate (hStep _ _ hWrite (hStep _ _ hSync (hStep _ _ hMove hDone)))

/-- A content is put into the file by its steps, and what they leave behind is removed when they fail. -/
theorem ensures_replace {bad : String → σ → Prop} (hNameless : file.path.fileName? = none → ∀ w, before w → failed w)
    (hDirectories : ∀ name, file.path.fileName? = some name →
      Process.Ensures before (disk.makeDirectories file.path.parent) (Tried made failed) stopped)
    (hSteps : ∀ name, file.path.fileName? = some name →
      Process.Ensures made (performAll disk (file.path.withFileName (besideName name)) file.path (writeSteps bytes))
        (Tried good (bad name)) stopped)
    (hClean : ∀ name, file.path.fileName? = some name →
      Process.Ensures (bad name) (disk.removeFile (file.path.withFileName (besideName name))) (fun _ => failed)
        stopped) :
    Process.Ensures before (file.replace disk bytes) (Tried good failed) stopped := by
  simp only [replace]
  cases hName : file.path.fileName? with
  | none => exact Process.ensures_pure (hNameless hName)
  | some name =>
      apply (hDirectories name hName).bind
      intro r
      cases r with
      | error fault => exact Process.ensures_pure fun _ h => h
      | ok done =>
          apply (hSteps name hName).bind
          intro r
          cases r with
          | ok done => exact Process.ensures_pure fun _ h => h
          | error fault => exact (hClean name hName).bind fun _ => Process.ensures_pure fun _ h => h

/-- A floor that is not negative is saved as its text. -/
theorem ensures_save_of_replace {floor : Int} (hFloor : 0 ≤ floor)
    (h : Process.Ensures before (file.replace disk (encode floor).toUTF8) (Tried good failed) stopped) :
    Process.Ensures before (file.save disk floor) (Tried good failed) stopped := by
  simp only [save]
  rw [if_neg (Int.not_lt.mpr hFloor)]
  apply h.bind
  intro r
  cases r with
  | ok done => exact Process.ensures_pure fun _ h => h
  | error fault => exact Process.ensures_pure fun _ h => h

end CursorFile

end ChatRelay
