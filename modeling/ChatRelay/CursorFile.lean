import ChatRelay.Disk
import ChatRelay.Error
import ChatRelay.Json.Printer
import ChatRelay.Json.Reader

/-!
The file that keeps the cursor between runs of the relay. It holds a JSON object with the committed
floor. A save writes a second file beside it and moves that one into its place, so that the old value
stays until the new one is complete.
-/

namespace ChatRelay

open ChatRelay.Json (Value)

/-- A cursor file, given by the text of its path. -/
structure CursorFile where
  text : String
deriving DecidableEq

namespace CursorFile

/-- The version of the format that is written. -/
def version : Nat := 1

def path (file : CursorFile) : Path := Path.ofString file.text

/-- What a cursor file says: a floor, or that there is none yet. Members other than the floor do not
count. -/
def decode (text : String) : Except StoreError (Option Int) :=
  match Json.parse? text with
  | none => .error ⟨.loadJson, "the text is not a JSON document"⟩
  | some value =>
      match value.object? with
      | none => .error ⟨.loadShape, "state root must be an object"⟩
      | some fields =>
          match fields.get? "committed_floor" with
          | none | some .null => .ok none
          | some raw =>
              match raw.lenientSigned? with
              | none => .error ⟨.loadFloor, "committed_floor must be an integer"⟩
              | some floor =>
                  if floor < 0 then .error ⟨.loadFloor, "committed_floor must be >= 0"⟩
                  else .ok (some floor)

/-- The text of a cursor file. -/
def encode (floor : Int) : String :=
  (Value.object [("version", .nat version), ("committed_floor", .int floor)]).print

variable {m : Type → Type} [Monad m]

/-- The floor in the file. A missing file means that there is none yet. -/
def load (disk : Disk m) (file : CursorFile) : m (Except StoreError (Option Int)) := do
  if ← disk.isPresent file.path then
    match ← disk.readText file.path with
    | .error fault => return .error ⟨.loadIo, fault.message⟩
    | .ok text => return decode text
  else return .ok none

/-- The steps that write a file beside the old one and move it into place. -/
inductive WriteStep where
  | create
  | write (bytes : ByteArray)
  | sync
  | moveIntoPlace

/-- All steps of writing a content, in order. -/
def writeSteps (bytes : ByteArray) : List WriteStep :=
  [.create, .write bytes, .sync, .moveIntoPlace]

def WriteStep.perform (disk : Disk m) (beside target : Path) :
    WriteStep → m (Except DiskFault Unit)
  | .create => disk.makeFile beside
  | .write bytes => disk.append beside bytes
  | .sync => disk.sync beside
  | .moveIntoPlace => disk.rename beside target

/-- Perform steps until one fails. -/
def performAll (disk : Disk m) (beside target : Path) :
    List WriteStep → m (Except DiskFault Unit)
  | [] => return .ok ()
  | step :: steps => do
      match ← step.perform disk beside target with
      | .error fault => return .error fault
      | .ok () => performAll disk beside target steps

/-- The file beside the target that a save writes first. -/
def besideName (name : String) : String := name ++ ".tmp"

/-- Make the missing directories, write the content beside the target and move it into place. A file that
could not be moved is removed again. -/
def replace (disk : Disk m) (file : CursorFile) (bytes : ByteArray) :
    m (Except DiskFault Unit) := do
  match file.path.fileName? with
  | none => return .error (.other ("state path has no file name: " ++ file.text))
  | some name =>
      let beside := file.path.withFileName (besideName name)
      match ← disk.makeDirectories file.path.parent with
      | .error fault => return .error fault
      | .ok () =>
          match ← performAll disk beside file.path (writeSteps bytes) with
          | .ok () => return .ok ()
          | .error fault =>
              let _ ← disk.removeFile beside
              return .error fault

/-- Put a floor into the file. -/
def save (disk : Disk m) (file : CursorFile) (floor : Int) : m (Except StoreError Unit) := do
  if floor < 0 then return .error ⟨.saveFloor, "committed_floor must be >= 0"⟩
  else
    match ← replace disk file (encode floor).toUTF8 with
    | .ok () => return .ok ()
    | .error fault => return .error ⟨.saveIo, fault.message⟩

end CursorFile

/-- A place that keeps the cursor's floor. -/
structure CursorStore (m : Type → Type) where
  load : m (Except StoreError (Option Int))
  save : Int → m (Except StoreError Unit)

/-- The store that keeps the floor in a file. -/
def CursorFile.store {m : Type → Type} [Monad m] (file : CursorFile) (disk : Disk m) :
    CursorStore m where
  load := file.load disk
  save floor := file.save disk floor

end ChatRelay
