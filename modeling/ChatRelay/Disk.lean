import ChatRelay.Disk.Path

/-!
The file operations that the relay needs. A program that works with files is written for any `Disk`, so
that it runs on a file tree in memory and on a real file system alike.
-/

namespace ChatRelay

/-- Why a file operation fails. -/
inductive DiskFault where
  | notFound
  | notADirectory
  | isADirectory
  | alreadyExists
  | nameTooLong
  | invalidPath
  | invalidText
  | other (text : String)
deriving DecidableEq

/-- The wording of the system, with the number that it gives to the fault. -/
def DiskFault.message : DiskFault → String
  | .notFound => "No such file or directory (os error 2)"
  | .notADirectory => "Not a directory (os error 20)"
  | .isADirectory => "Is a directory (os error 21)"
  | .alreadyExists => "File exists (os error 17)"
  | .nameTooLong => "File name too long (os error 36)"
  | .invalidPath => "file name contained an unexpected NUL byte"
  | .invalidText => "stream did not contain valid UTF-8"
  | .other text => text

/-- The file operations. A file is made empty or emptied first, and its bytes are added afterwards. -/
structure Disk (m : Type → Type) where
  isPresent : Path → m Bool
  isDirectory : Path → m Bool
  read : Path → m (Except DiskFault ByteArray)
  makeDirectory : Path → m (Except DiskFault Unit)
  makeFile : Path → m (Except DiskFault Unit)
  append : Path → ByteArray → m (Except DiskFault Unit)
  sync : Path → m (Except DiskFault Unit)
  rename : Path → Path → m (Except DiskFault Unit)
  removeFile : Path → m (Except DiskFault Unit)

namespace Disk

/-- The same operations in a larger monad. -/
def lift {m n : Type → Type} (f : {α : Type} → m α → n α) (disk : Disk m) : Disk n where
  isPresent path := f (disk.isPresent path)
  isDirectory path := f (disk.isDirectory path)
  read path := f (disk.read path)
  makeDirectory path := f (disk.makeDirectory path)
  makeFile path := f (disk.makeFile path)
  append path bytes := f (disk.append path bytes)
  sync path := f (disk.sync path)
  rename source target := f (disk.rename source target)
  removeFile path := f (disk.removeFile path)

variable {m : Type → Type} [Monad m]

/-- The text of a file. -/
def readText (disk : Disk m) (path : Path) : m (Except DiskFault String) := do
  match ← disk.read path with
  | .error fault => return .error fault
  | .ok bytes =>
      match String.fromUTF8? bytes with
      | some text => return .ok text
      | none => return .error .invalidText

/-- Make a directory. It is no failure when there is one already. -/
def ensureDirectory (disk : Disk m) (path : Path) : m (Except DiskFault Unit) := do
  match ← disk.makeDirectory path with
  | .ok () => return .ok ()
  | .error fault => if ← disk.isDirectory path then return .ok () else return .error fault

/-- Make a directory and the directories above it, given by its names from the last one to the first. -/
def makeNames (disk : Disk m) (absolute : Bool) : List String → m (Except DiskFault Unit)
  | [] => return .ok ()
  | name :: above => do
      let path : Path := ⟨absolute, (name :: above).reverse, false⟩
      match ← disk.makeDirectory path with
      | .ok () => return .ok ()
      | .error .notFound =>
          match ← makeNames disk absolute above with
          | .error fault => return .error fault
          | .ok () => disk.ensureDirectory path
      | .error fault => if ← disk.isDirectory path then return .ok () else return .error fault

/-- Make a directory and all directories above it that are missing. -/
def makeDirectories (disk : Disk m) (path : Path) : m (Except DiskFault Unit) :=
  disk.makeNames path.absolute path.names.reverse

end Disk

end ChatRelay
