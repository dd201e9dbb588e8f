import ChatRelay.Proofs.CursorFile.Rules
import ChatRelay.Proofs.CursorFile.Text
import ChatRelay.Proofs.Disk.Medium

/-!
Saving a floor on a disk where every change can fail. The entry at the place of the file is what a load reads,
and only the last step of a save touches it. So whatever happens, the floor in the file is the old one or the
new one, and after a save without a failure the new one is loaded.
-/

namespace ChatRelay

/-- The floor that an entry holds, if it is a file with a floor. -/
def Node.floor? : Option Node → Option Int
  | some (.file content) =>
      (String.fromUTF8? content).bind fun text => (CursorFile.decode text).toOption.join
  | _ => none

namespace CursorFile

open Cursor (InRange)

theorem fromUTF8?_toUTF8 (s : String) : String.fromUTF8? s.toUTF8 = some s := by
  simp only [String.fromUTF8?]
  exact dif_pos s.isValidUTF8

/-- The floor is read back from the content that a save writes. -/
theorem floor?_encode {floor : Int} (h : InRange floor) :
    Node.floor? (some (.file (encode floor).toUTF8)) = some floor := by
  rw [Node.floor?, fromUTF8?_toUTF8, Option.bind_some, decode_encode h]
  rfl

/-- The floor in the file, read off the tree. -/
def floorIn (file : CursorFile) (tree : FileTree) : Option Int := Node.floor? (tree.node? file.path.place)

variable {file : CursorFile} {tree tree' : FileTree} {floor : Int}

/-- Changes elsewhere do not matter. -/
theorem floorIn_of_node (h : tree'.node? file.path.place = tree.node? file.path.place) :
    file.floorIn tree' = file.floorIn tree := by
  rw [floorIn, floorIn, h]

theorem place_of_names {path : Path} {init : List String} {name : String} (h : path.names = init ++ [name])
    (hDot : name ≠ ".") (hUp : name ≠ "..") :
    path.place = name :: init.foldl FileTree.further path.origin := by
  rw [Path.place, h, List.foldl_append]
  simp [FileTree.further, hDot, hUp]

/-- The file beside the target is at another place. -/
theorem place_beside {name : String} (h : file.path.fileName? = some name) :
    (file.path.withFileName (besideName name)).place ≠ file.path.place := by
  obtain ⟨init, hNames, hDot, hUp⟩ := FileTree.names_of_fileName? h
  have hLong : (besideName name).length = name.length + 4 := by
    rw [besideName, String.length_append]
    rfl
  have hBesideDot : besideName name ≠ "." := fun hEq => by
    rw [hEq] at hLong
    have hOne : ".".length = 1 := by decide
    omega
  have hBesideUp : besideName name ≠ ".." := fun hEq => by
    rw [hEq] at hLong
    have hTwo : "..".length = 2 := by decide
    omega
  have hBeside : (file.path.withFileName (besideName name)).names = init ++ [besideName name] := by
    simp [Path.withFileName, hNames]
  rw [place_of_names hNames hDot hUp, place_of_names hBeside hBesideDot hBesideUp]
  intro hEq
  have hSame := (List.cons.inj hEq).1
  rw [hSame] at hLong
  omega

end CursorFile

/-- The text of a file, read off the tree. -/
def FileTree.readText (tree : FileTree) (path : Path) : Except DiskFault String :=
  match tree.read path with
  | .error fault => .error fault
  | .ok bytes =>
      match String.fromUTF8? bytes with
      | some text => .ok text
      | none => .error .invalidText

/-- Reading changes nothing and always comes to its end. -/
theorem Medium.readText_eq (path : Path) (m : Medium) :
    disk.readText path m = (some (m.tree.readText path), m) := by
  have hRead : disk.read path m = (some (m.tree.read path), m) := rfl
  rw [Disk.readText, Process.bind_of_some _ hRead, FileTree.readText]
  cases m.tree.read path with
  | error fault => rfl
  | ok bytes =>
      simp only
      cases String.fromUTF8? bytes with
      | none => rfl
      | some text => rfl

namespace CursorFile

open Cursor (InRange)

variable {file : CursorFile} {tree tree' : FileTree} {floor : Int}

/-- What a load of the file gives on a tree. -/
def loaded (file : CursorFile) (tree : FileTree) : Except StoreError (Option Int) :=
  if tree.isPresent file.path then
    match tree.readText file.path with
    | .error fault => .error ⟨.loadIo, fault.message⟩
    | .ok text => decode text
  else .ok none

/-- A load changes nothing and is never stopped. -/
theorem load_eq (file : CursorFile) (m : Medium) :
    file.load Medium.disk m = (some (file.loaded m.tree), m) := by
  have hPresent : Medium.disk.isPresent file.path m = (some (m.tree.isPresent file.path), m) := rfl
  rw [load, Process.bind_of_some _ hPresent, loaded]
  cases m.tree.isPresent file.path with
  | false => rfl
  | true =>
      rw [if_pos rfl, if_pos rfl, Process.bind_of_some _ (Medium.readText_eq file.path m)]
      cases m.tree.readText file.path with
      | error fault => rfl
      | ok text => rfl

theorem decode_of_floor? {content : ByteArray} (h : Node.floor? (some (.file content)) = some floor) :
    ∃ text, String.fromUTF8? content = some text ∧ decode text = .ok (some floor) := by
  obtain ⟨text, hText, hDecode⟩ := Option.bind_eq_some_iff.mp h
  exact ⟨text, hText, eq_ok_of_toOption (Option.join_eq_some_iff.mp hDecode)⟩

/-- A load that gives a floor has found a file that holds it. -/
theorem find_of_loaded (h : file.loaded tree = .ok (some floor)) :
    ∃ content, tree.find file.path = .ok (file.path.place, .file content) ∧
      Node.floor? (some (.file content)) = some floor := by
  simp only [loaded] at h
  split at h
  · simp only [FileTree.readText, FileTree.read] at h
    cases hFind : tree.find file.path with
    | error fault => simp [hFind, bind, Except.bind] at h
    | ok found =>
        obtain ⟨place, node⟩ := found
        have hPlace := FileTree.eq_place_of_resolve (FileTree.find_eq_ok hFind).1
        cases node with
        | directory => simp [hFind, bind, Except.bind] at h
        | file content =>
            refine ⟨content, by rw [hPlace], ?_⟩
            simp only [hFind, bind, Except.bind] at h
            cases hText : String.fromUTF8? content with
            | none => simp [hText] at h
            | some text =>
                simp only [hText] at h
                rw [Node.floor?, hText, Option.bind_some, h]
                rfl
  · cases h

/-- A load gives the floor of the file that is found at the path. -/
theorem loaded_of_find {content : ByteArray}
    (hFind : tree.find file.path = .ok (file.path.place, .file content))
    (hFloor : Node.floor? (some (.file content)) = some floor) : file.loaded tree = .ok (some floor) := by
  obtain ⟨text, hText, hDecode⟩ := decode_of_floor? hFloor
  have hPresent : tree.isPresent file.path = true := by simp [FileTree.isPresent, hFind, Except.toBool]
  have hRead : tree.readText file.path = .ok text := by
    simp [FileTree.readText, FileTree.read, hFind, hText, bind, Except.bind]
  rw [loaded, if_pos hPresent, hRead]
  exact hDecode

/-- The floor that a load gives is the one in the file. -/
theorem floorIn_of_loaded (h : file.loaded tree = .ok (some floor)) : file.floorIn tree = some floor := by
  obtain ⟨content, hFind, hFloor⟩ := find_of_loaded h
  rw [floorIn, (FileTree.find_eq_ok hFind).2.1]
  exact hFloor

theorem inRange_of_loaded (h : file.loaded tree = .ok (some floor)) : Cursor.InRange floor := by
  obtain ⟨content, _, hFloor⟩ := find_of_loaded h
  obtain ⟨text, _, hDecode⟩ := decode_of_floor? hFloor
  exact inRange_of_decode hDecode

/-- Once the path of the file has led to a floor, every floor that the file holds is loaded. -/
theorem loaded_of_floorIn (hUp : ".." ∉ file.path.names) {seen : Int} (hOnce : file.loaded tree = .ok (some seen))
    (hGrounded : tree'.Grounded) (h : file.floorIn tree' = some floor) : file.loaded tree' = .ok (some floor) := by
  obtain ⟨content, hFind, _⟩ := find_of_loaded hOnce
  obtain ⟨hResolve, _, hFits⟩ := FileTree.find_eq_ok hFind
  obtain ⟨name, hName⟩ := FileTree.exists_fileName?_of_find hUp hFind
  cases hNode : tree'.node? file.path.place with
  | none => simp [floorIn, hNode, Node.floor?] at h
  | some node =>
      cases node with
      | directory => simp [floorIn, hNode, Node.floor?] at h
      | file content' =>
          have hAgain := hGrounded.resolve hName hUp hResolve (by simp [hNode])
          rw [floorIn, hNode] at h
          exact loaded_of_find (FileTree.find_of_file hAgain hNode (hFits (by simp))) h

variable {old : Option Int}

/-- A change keeps the floor in the file when it leaves the file alone, or makes a directory where nothing
was. -/
theorem floorIn_of_makeDirectory {path : Path} (h : tree.makeDirectory path = .ok tree') :
    file.floorIn tree' = file.floorIn tree := by
  obtain ⟨_, hNone, hAfter⟩ := FileTree.makeDirectory_eq_ok h
  simp only [floorIn]
  rw [hAfter]
  by_cases hPlace : file.path.place = path.place
  · rw [if_pos hPlace, hPlace, hNone]
    rfl
  · rw [if_neg hPlace]

/-- A file that holds the text of a floor is loaded once it is moved into place. -/
theorem loaded_of_rename {beside : Path} (hNode : tree.node? beside.place = some (.file (encode floor).toUTF8))
    (hFloor : InRange floor) (h : tree.rename beside file.path = .ok tree') :
    file.loaded tree' = .ok (some floor) := by
  obtain ⟨hResolve, hFits, found, hFound, _, hAfter⟩ := FileTree.rename_eq_ok h
  rw [hNode] at hFound
  cases hFound
  have hAgain := FileTree.resolve_of_directories (fun q => FileTree.directory_of_rename h) hResolve
  have hThere : tree'.node? file.path.place = some (.file (encode floor).toUTF8) := by
    rw [hAfter, if_pos rfl]
  exact loaded_of_find (FileTree.find_of_file hAgain hThere hFits) (floor?_encode hFloor)

/-- The floor in the file is the old one or the new one. -/
def Between (file : CursorFile) (old : Option Int) (floor : Int) (tree : FileTree) : Prop :=
  file.floorIn tree = old ∨ file.floorIn tree = some floor

/-- The file beside the target holds some content while the floor is the old one. -/
def Prepared (file : CursorFile) (beside : Path) (old : Option Int) (content : ByteArray) (tree : FileTree) :
    Prop :=
  file.floorIn tree = old ∧ tree.node? beside.place = some (.file content)

section Steps

variable {beside : Path} (hBeside : beside.place ≠ file.path.place)

theorem Prepared.between {content : ByteArray} (h : Prepared file beside old content tree) :
    Between file old floor tree := Or.inl h.1

include hBeside

/-- Step of a save: the new file beside the target is empty at first. -/
theorem prepared_makeFile (hOld : file.floorIn tree = old) (h : tree.makeFile beside = .ok tree') :
    Prepared file beside old ByteArray.empty tree' := by
  obtain ⟨_, _, _, hAfter⟩ := FileTree.makeFile_eq_ok h
  refine ⟨?_, ?_⟩
  · rw [floorIn_of_node, hOld]
    rw [hAfter, if_neg hBeside.symm]
  · rw [hAfter, if_pos rfl]

/-- Step of a save: bytes are added beside the target. -/
theorem Prepared.append {content bytes : ByteArray} (hOld : Prepared file beside old content tree)
    (h : tree.append beside bytes = .ok tree') : Prepared file beside old (content ++ bytes) tree' := by
  obtain ⟨found, hFound, hAfter⟩ := FileTree.append_eq_ok h
  obtain rfl : content = found := by
    rw [hOld.2] at hFound
    cases hFound
    rfl
  refine ⟨?_, ?_⟩
  · rw [floorIn_of_node, hOld.1]
    rw [hAfter, if_neg hBeside.symm]
  · rw [hAfter, if_pos rfl]

/-- Removing the file beside the target does not touch the floor. -/
theorem floorIn_of_removeFile (h : tree.removeFile beside = .ok tree') :
    file.floorIn tree' = file.floorIn tree := by
  obtain ⟨_, _, hAfter⟩ := FileTree.removeFile_eq_ok h
  apply floorIn_of_node
  rw [hAfter, if_neg hBeside.symm]

/-- The steps of a save up to the last one leave the floor as it is, and the last one puts the new one in. -/
theorem ensures_steps (hFloor : InRange floor) :
    Process.Ensures (fun m => file.floorIn m.tree = old)
      (performAll Medium.disk beside file.path (writeSteps (encode floor).toUTF8))
      (Tried (fun m => file.loaded m.tree = .ok (some floor)) fun m => Between file old floor m.tree)
      fun m => Between file old floor m.tree := by
  have hCreate : Process.Ensures (fun m => file.floorIn m.tree = old) (Medium.disk.makeFile beside)
      (Tried (fun m => Prepared file beside old ByteArray.empty m.tree) fun m => Between file old floor m.tree)
      fun m => Between file old floor m.tree :=
    Medium.ensures_attempt_orNothing (P := fun t => file.floorIn t = old)
      (G := Prepared file beside old ByteArray.empty) (B := Between file old floor) (fun _ h => Or.inl h)
      (fun _ h => h.between) fun _ _ hOld h => prepared_makeFile hBeside hOld h
  have hWrite : Process.Ensures (fun m => Prepared file beside old ByteArray.empty m.tree)
      (Medium.disk.append beside (encode floor).toUTF8)
      (Tried (fun m => Prepared file beside old (encode floor).toUTF8 m.tree)
        fun m => Between file old floor m.tree)
      fun m => Between file old floor m.tree := by
    refine Medium.ensures_attempt (.append beside (encode floor).toUTF8)
      (fun n => .append beside ((encode floor).toUTF8.extract 0 n)) (P := Prepared file beside old ByteArray.empty)
      (G := Prepared file beside old (encode floor).toUTF8) (B := Between file old floor) (fun _ h => h.between)
      (fun _ _ _ hOld h => (hOld.append hBeside h).between) fun t t' hOld h => ?_
    have hAll := hOld.append hBeside h
    rwa [ByteArray.empty_append] at hAll
  have hSync : Process.Ensures (fun m => Prepared file beside old (encode floor).toUTF8 m.tree)
      (Medium.disk.sync beside)
      (Tried (fun m => Prepared file beside old (encode floor).toUTF8 m.tree)
        fun m => Between file old floor m.tree)
      fun m => Between file old floor m.tree :=
    Medium.ensures_attempt_orNothing (P := Prepared file beside old (encode floor).toUTF8)
      (G := Prepared file beside old (encode floor).toUTF8) (B := Between file old floor) (fun _ h => h.between)
      (fun _ h => h.between) fun _ _ hOld h => by
      cases h
      exact hOld
  have hMove : Process.Ensures (fun m => Prepared file beside old (encode floor).toUTF8 m.tree)
      (Medium.disk.rename beside file.path)
      (Tried (fun m => file.loaded m.tree = .ok (some floor)) fun m => Between file old floor m.tree)
      fun m => Between file old floor m.tree :=
    Medium.ensures_attempt_orNothing (P := Prepared file beside old (encode floor).toUTF8)
      (G := fun t => file.loaded t = .ok (some floor)) (B := Between file old floor) (fun _ h => h.between)
      (fun _ h => Or.inr (floorIn_of_loaded h)) fun _ _ hOld h => loaded_of_rename hOld.2 hFloor h
  exact ensures_writeSteps hCreate hWrite hSync hMove

/-- Rule for cleaning up: the floor is the old one or the new one, as before. -/
theorem ensures_clean :
    Process.Ensures (fun m => Between file old floor m.tree) (Medium.disk.removeFile beside)
      (fun _ m => Between file old floor m.tree) fun m => Between file old floor m.tree := by
  have hKeep : ∀ t t', Between file old floor t → t.removeFile beside = .ok t' → Between file old floor t' := by
    intro t t' hOld h
    simp only [Between]
    rw [floorIn_of_removeFile hBeside h]
    exact hOld
  exact (Medium.ensures_attempt_orNothing (fun _ h => h) (fun _ h => h) hKeep).of_tried (fun _ h => h) fun _ h => h

end Steps

/-- Rule for making directories: the old floor stays in place. -/
theorem ensures_directories (file : CursorFile) (old : Option Int) (floor : Int) :
    Process.Ensures (fun m => file.floorIn m.tree = old) (Medium.disk.makeDirectories file.path.parent)
      (Tried (fun m => file.floorIn m.tree = old) fun m => Between file old floor m.tree)
      fun m => Between file old floor m.tree := by
  have hMake : ∀ path, Process.Ensures (fun m => file.floorIn m.tree = old) (Medium.disk.makeDirectory path)
      (fun _ m => file.floorIn m.tree = old) fun m => file.floorIn m.tree = old := fun path =>
    (Medium.ensures_attempt_orNothing (P := fun t => file.floorIn t = old) (fun _ h => h) (fun _ h => h)
      fun _ _ hOld h => (floorIn_of_makeDirectory h).trans hOld).of_tried (fun _ h => h) fun _ h => h
  have hAll : file.path.parent.names.reverse.reverse <+: file.path.parent.names := by simp
  exact (Disk.ensures_makeNames (B := fun _ => True) (fun _ _ _ => hMake _)
    (fun _ _ _ m h => ⟨h, fun _ => trivial⟩) hAll).tried (fun _ h => h) (fun _ h => Or.inl h.1) fun _ h => Or.inl h

/-- **A save leaves the old floor or the new one in the file.** If it succeeds, the new one is loaded. -/
theorem ensures_save_loaded (old : Option Int) (hFloor : InRange floor) :
    Process.Ensures (fun m => file.floorIn m.tree = old) (file.save Medium.disk floor)
      (Tried (fun m => file.loaded m.tree = .ok (some floor)) fun m => Between file old floor m.tree)
      fun m => Between file old floor m.tree :=
  ensures_save_of_replace hFloor.1 (ensures_replace (fun _ _ h => Or.inl h)
    (fun _ _ => ensures_directories file old floor) (fun _ hName => ensures_steps (place_beside hName) hFloor)
    fun _ hName => ensures_clean (place_beside hName))

/-- However a save goes, and even if it is cut off. -/
theorem ensures_save_between (old : Option Int) (hFloor : InRange floor) :
    Process.Ensures (fun m => file.floorIn m.tree = old) (file.save Medium.disk floor)
      (fun _ m => Between file old floor m.tree) fun m => Between file old floor m.tree :=
  (ensures_save_loaded old hFloor).of_tried (fun _ h => Or.inr (floorIn_of_loaded h)) fun _ h => h

end CursorFile

end ChatRelay
