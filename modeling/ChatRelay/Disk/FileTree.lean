import ChatRelay.Disk

/-!
A file tree in memory. Every entry has a place, which is the list of names that lead to it from the
working directory, the last name first. The places above the working directory are known as directories,
and so is the root. A path is followed name by name, and each name is looked up in a directory.
-/

namespace ChatRelay

/-- The names on the way to an entry, the last one first. A name of two dots leads above the working
directory, and a slash stands for the root. -/
abbrev Place := List String

/-- An entry of a file tree. -/
inductive Node where
  | directory
  | file (content : ByteArray)

structure FileTree where
  entries : List (Place × Node)

namespace FileTree

/-- The tree of an empty working directory. -/
def empty : FileTree := ⟨[]⟩

/-- The longest name that a directory can hold, in bytes. -/
def maxNameBytes : Nat := 255

/-- The longest path, in bytes and with the byte that ends it. -/
def maxPathBytes : Nat := 4096

/-- The working directory, the directories above it and the root. -/
def isFixed (place : Place) : Bool := place == ["/"] || place.all (· == "..")

/-- The entry at a place. -/
def node? (tree : FileTree) (place : Place) : Option Node :=
  if isFixed place then some .directory
  else (tree.entries.find? fun entry => entry.1 == place).map Prod.snd

/-- The tree without the entry at a place. -/
def erase (tree : FileTree) (place : Place) : FileTree :=
  ⟨tree.entries.filter fun entry => entry.1 != place⟩

/-- The tree with an entry at a place instead of the one that may be there. -/
def put (tree : FileTree) (place : Place) (node : Node) : FileTree :=
  ⟨(tree.erase place).entries ++ [(place, node)]⟩

theorem node?_put (tree : FileTree) {place other : Place} (node : Node)
    (h : isFixed place = false) :
    (tree.put place node).node? other = if other = place then some node else tree.node? other := by
  unfold node? put erase
  by_cases hEq : other = place
  · subst hEq
    have hNone : (tree.entries.filter fun entry => entry.1 != other).find?
        (fun entry => entry.1 == other) = none := by
      simp [List.find?_eq_none]
    rw [h, List.find?_append, hNone]
    simp
  · have hNe : (place == other) = false := by
      simpa using fun h' => hEq h'.symm
    have hFind : (tree.entries.filter fun entry => entry.1 != place).find?
        (fun entry => entry.1 == other) = tree.entries.find? fun entry => entry.1 == other := by
      rw [List.find?_filter]
      congr 1
      funext entry
      cases hb : entry.1 == other with
      | false => simp
      | true =>
          have : entry.1 = other := by simpa using hb
          simp [this, hEq]
    rw [List.find?_append, hFind]
    simp [hEq, hNe]

theorem node?_erase (tree : FileTree) {place other : Place} (h : isFixed place = false) :
    (tree.erase place).node? other = if other = place then none else tree.node? other := by
  unfold node? erase
  by_cases hEq : other = place
  · subst hEq
    simp [h, List.find?_eq_none]
  · have hFind : (tree.entries.filter fun entry => entry.1 != place).find?
        (fun entry => entry.1 == other) = tree.entries.find? fun entry => entry.1 == other := by
      rw [List.find?_filter]
      congr 1
      funext entry
      cases hb : entry.1 == other with
      | false => simp
      | true =>
          have : entry.1 = other := by simpa using hb
          simp [this, hEq]
    rw [hFind]
    simp [hEq]

/-- The directory above a place. The root stands above itself. -/
def above : Place → Place
  | [] => [".."]
  | ["/"] => ["/"]
  | ".." :: place => ".." :: ".." :: place
  | _ :: place => place

/-- Follow one name from a place. The place has to be a directory. -/
def follow (tree : FileTree) (place : Place) (name : String) : Except DiskFault Place :=
  match tree.node? place with
  | none => .error .notFound
  | some (.file _) => .error .notADirectory
  | some .directory =>
      if name = "." then .ok place
      else if name = ".." then .ok (above place)
      else if maxNameBytes < name.utf8ByteSize then .error .nameTooLong
      else .ok (name :: place)

/-- The length of a path in bytes, with the slashes and the byte that ends it. -/
def pathBytes (path : Path) : Nat :=
  path.names.foldl (fun sum name => sum + name.utf8ByteSize + 1) (if path.absolute then 1 else 0)

/-- The place that a path leads to. There may be nothing at the place itself. -/
def resolve (tree : FileTree) (path : Path) : Except DiskFault Place :=
  if !path.absolute && path.names.isEmpty then .error .notFound
  else if path.names.any fun name => name.toList.contains '\x00' then .error .invalidPath
  else if maxPathBytes < pathBytes path then .error .nameTooLong
  else path.names.foldlM tree.follow (if path.absolute then ["/"] else [])

/-- The entry that a path leads to. A path that only fits a directory does not lead to a file. -/
def find (tree : FileTree) (path : Path) : Except DiskFault (Place × Node) := do
  let place ← tree.resolve path
  match tree.node? place with
  | none => .error .notFound
  | some .directory => .ok (place, .directory)
  | some (.file content) =>
      if path.mustBeDirectory then .error .notADirectory else .ok (place, .file content)

def isPresent (tree : FileTree) (path : Path) : Bool := (tree.find path).toBool

def isDirectory (tree : FileTree) (path : Path) : Bool :=
  match tree.find path with
  | .ok (_, .directory) => true
  | _ => false

def read (tree : FileTree) (path : Path) : Except DiskFault ByteArray := do
  match ← tree.find path with
  | (_, .directory) => .error .isADirectory
  | (_, .file content) => .ok content

def makeDirectory (tree : FileTree) (path : Path) : Except DiskFault FileTree := do
  let place ← tree.resolve path
  match tree.node? place with
  | some _ => .error .alreadyExists
  | none => .ok (tree.put place .directory)

/-- The place of a file, which need not be there. -/
def filePlace (tree : FileTree) (path : Path) : Except DiskFault Place := do
  let place ← tree.resolve path
  match tree.node? place with
  | some .directory => .error .isADirectory
  | _ => if path.mustBeDirectory then .error .notADirectory else .ok place

def makeFile (tree : FileTree) (path : Path) : Except DiskFault FileTree := do
  let place ← tree.filePlace path
  .ok (tree.put place (.file ByteArray.empty))

def append (tree : FileTree) (path : Path) (bytes : ByteArray) : Except DiskFault FileTree := do
  match ← tree.find path with
  | (_, .directory) => .error .isADirectory
  | (place, .file content) => .ok (tree.put place (.file (content ++ bytes)))

/-- Move a file over another one or to a free place. -/
def rename (tree : FileTree) (source target : Path) : Except DiskFault FileTree := do
  match ← tree.find source with
  | (_, .directory) => .error .isADirectory
  | (place, .file content) =>
      let goal ← tree.filePlace target
      .ok ((tree.erase place).put goal (.file content))

def removeFile (tree : FileTree) (path : Path) : Except DiskFault FileTree := do
  match ← tree.find path with
  | (_, .directory) => .error .isADirectory
  | (place, .file _) => .ok (tree.erase place)

/-- The tree without the entry that a path leads to and without everything inside it. -/
def removeAll (tree : FileTree) (path : Path) : Except DiskFault FileTree := do
  let found ← tree.find path
  .ok ⟨tree.entries.filter fun entry => !found.1.isSuffixOf entry.1⟩

/-- A change of the tree that is undone when it fails. -/
def change (f : FileTree → Except DiskFault FileTree) : StateM FileTree (Except DiskFault Unit) :=
  fun tree =>
    match f tree with
    | .ok tree => (.ok (), tree)
    | .error fault => (.error fault, tree)

/-- The file operations on a tree in memory. Nothing is left to be written out by `sync`. -/
def disk : Disk (StateM FileTree) where
  isPresent path := fun tree => (tree.isPresent path, tree)
  isDirectory path := fun tree => (tree.isDirectory path, tree)
  read path := fun tree => (tree.read path, tree)
  makeDirectory path := change fun tree => tree.makeDirectory path
  makeFile path := change fun tree => tree.makeFile path
  append path bytes := change fun tree => tree.append path bytes
  sync _ := fun tree => (.ok (), tree)
  rename source target := change fun tree => tree.rename source target
  removeFile path := change fun tree => tree.removeFile path

end FileTree

end ChatRelay
