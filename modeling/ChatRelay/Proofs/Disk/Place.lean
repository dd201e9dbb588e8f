import ChatRelay.Disk.FileTree

/-!
Where paths lead in a file tree. The tree decides whether a path can be followed, but the place that it leads
to is read off its names alone. So what one operation does to the entry at a place can be said without looking
at the rest of the tree.
-/

namespace ChatRelay

namespace FileTree

/-- The place one name further, if the name can be followed at all. -/
def further (place : Place) (name : String) : Place :=
  if name = "." then place else if name = ".." then above place else name :: place

end FileTree

/-- The place that a path starts from. -/
def Path.origin (path : Path) : Place := if path.absolute then ["/"] else []

/-- The place that the names of a path lead to. -/
def Path.place (path : Path) : Place := path.names.foldl FileTree.further path.origin

namespace FileTree

variable {tree tree' : FileTree} {path : Path} {place : Place}

theorem node?_of_isFixed (h : isFixed place = true) : tree.node? place = some .directory := by
  simp [node?, h]

theorem isFixed_of_ne_directory (h : tree.node? place ≠ some .directory) : isFixed place = false := by
  cases hFixed : isFixed place with
  | false => rfl
  | true => exact absurd (node?_of_isFixed hFixed) h

theorem isFixed_of_none (h : tree.node? place = none) : isFixed place = false := by
  have hNot : tree.node? place ≠ some .directory := by simp [h]
  exact isFixed_of_ne_directory hNot

theorem isFixed_of_file {content : ByteArray} (h : tree.node? place = some (.file content)) :
    isFixed place = false := by
  have hNot : tree.node? place ≠ some .directory := by simp [h]
  exact isFixed_of_ne_directory hNot

/-- Inversion of one step along a path. -/
theorem follow_eq_ok {a b : Place} {name : String} (h : tree.follow a name = .ok b) :
    tree.node? a = some .directory ∧ b = further a name ∧ (name ≠ "." → name ≠ ".." →
      ¬ maxNameBytes < name.utf8ByteSize) := by
  simp only [follow] at h
  cases hNode : tree.node? a with
  | none => simp [hNode] at h
  | some node =>
      cases node with
      | file content => simp [hNode] at h
      | directory =>
          simp only [hNode] at h
          unfold further
          by_cases hDot : name = "."
          · simp_all
          · by_cases hUp : name = ".."
            · simp_all
            · rw [if_neg hDot, if_neg hUp] at h ⊢
              split at h
              · cases h
              · cases h
                exact ⟨rfl, rfl, fun _ _ => by assumption⟩

/-- A walk that succeeds ends where the names alone lead to. -/
theorem eq_of_foldlM_follow {names : List String} {a b : Place} (h : names.foldlM tree.follow a = .ok b) :
    b = names.foldl further a := by
  induction names generalizing a with
  | nil =>
      cases h
      rfl
  | cons name names ih =>
      rw [List.foldlM_cons] at h
      cases hStep : tree.follow a name with
      | error fault =>
          rw [hStep] at h
          cases h
      | ok next =>
          rw [hStep] at h
          rw [List.foldl_cons, ← (follow_eq_ok hStep).2.1]
          exact ih h

/-- A step can be repeated in any tree with a directory at its start. -/
theorem follow_of_directory {a b : Place} {name : String} (hEq : tree.follow a name = .ok b)
    (hDirectory : tree'.node? a = some .directory) : tree'.follow a name = .ok b := by
  have hOld := (follow_eq_ok hEq).1
  simp only [follow] at hEq ⊢
  rw [hOld] at hEq
  rw [hDirectory]
  exact hEq

/-- A path that resolves can be walked name by name. -/
theorem foldlM_of_resolve (h : tree.resolve path = .ok place) :
    path.names.foldlM tree.follow path.origin = .ok place := by
  simp only [resolve] at h
  split at h
  · cases h
  · split at h
    · cases h
    · split at h
      · cases h
      · exact h

/-- Beyond its names, a path that can be followed in one tree can be followed in every tree. -/
theorem resolve_of_foldlM {other : Place} (h : tree.resolve path = .ok place)
    (hFold : path.names.foldlM tree'.follow path.origin = .ok other) : tree'.resolve path = .ok other := by
  simp only [resolve] at h ⊢
  split at h
  · cases h
  · rename_i hSomewhere
    rw [if_neg hSomewhere]
    split at h
    · cases h
    · rename_i hValid
      rw [if_neg hValid]
      split at h
      · cases h
      · rename_i hShort
        rw [if_neg hShort]
        exact hFold

/-- A path can still be followed when all directories are kept. -/
theorem resolve_of_directories (hKeep : ∀ q, tree.node? q = some .directory → tree'.node? q = some .directory)
    (h : tree.resolve path = .ok place) : tree'.resolve path = .ok place := by
  have hFold : ∀ (names : List String) (a : Place), names.foldlM tree.follow a = .ok place →
      names.foldlM tree'.follow a = .ok place := by
    intro names
    induction names with
    | nil => exact fun a hEq => hEq
    | cons name names ih =>
        intro a hEq
        rw [List.foldlM_cons] at hEq ⊢
        cases hStep : tree.follow a name with
        | error fault =>
            rw [hStep] at hEq
            cases hEq
        | ok next =>
            rw [hStep] at hEq
            rw [follow_of_directory hStep (hKeep a (follow_eq_ok hStep).1)]
            exact ih next hEq
  exact resolve_of_foldlM h (hFold _ _ (foldlM_of_resolve h))

/-- A path never leads anywhere but to its place. -/
theorem eq_place_of_resolve (h : tree.resolve path = .ok place) : place = path.place :=
  eq_of_foldlM_follow (foldlM_of_resolve h)

theorem foldlM_follow_singleton (tree : FileTree) (a : Place) (name : String) :
    [name].foldlM tree.follow a = tree.follow a name := by
  change (tree.follow a name >>= fun b => pure b) = _
  cases tree.follow a name <;> rfl

/-- Every walk of at least one step starts at a directory. -/
theorem directory_of_foldlM {name : String} {names : List String} {a b : Place}
    (h : (name :: names).foldlM tree.follow a = .ok b) : tree.node? a = some .directory := by
  rw [List.foldlM_cons] at h
  cases hStep : tree.follow a name with
  | error fault =>
      rw [hStep] at h
      cases h
  | ok next => exact (follow_eq_ok hStep).1

/-- A walk can be cut in two. -/
theorem foldlM_follow_append {init rest : List String} {a b : Place}
    (h : (init ++ rest).foldlM tree.follow a = .ok b) :
    ∃ parent, init.foldlM tree.follow a = .ok parent ∧ rest.foldlM tree.follow parent = .ok b := by
  rw [List.foldlM_append] at h
  cases hInit : init.foldlM tree.follow a with
  | error fault =>
      rw [hInit] at h
      cases h
  | ok parent =>
      rw [hInit] at h
      exact ⟨parent, rfl, h⟩

/-- A walk can be cut before its last step. -/
theorem foldlM_follow_concat {init : List String} {name : String} {a b : Place}
    (h : (init ++ [name]).foldlM tree.follow a = .ok b) :
    ∃ parent, init.foldlM tree.follow a = .ok parent ∧ tree.follow parent name = .ok b := by
  obtain ⟨parent, hInit, hStep⟩ := foldlM_follow_append h
  rw [foldlM_follow_singleton] at hStep
  exact ⟨parent, hInit, hStep⟩

/-- Inversion of a look-up by path. -/
theorem find_eq_ok {node : Node} (h : tree.find path = .ok (place, node)) :
    tree.resolve path = .ok place ∧ tree.node? place = some node ∧
      (node ≠ .directory → path.mustBeDirectory = false) := by
  simp only [find] at h
  cases hResolve : tree.resolve path with
  | error fault =>
      rw [hResolve] at h
      cases h
  | ok found =>
      rw [hResolve] at h
      simp only [bind, Except.bind] at h
      cases hNode : tree.node? found with
      | none => simp [hNode] at h
      | some other =>
          cases other with
          | directory =>
              simp only [hNode] at h
              cases h
              exact ⟨rfl, hNode, fun hNot => absurd rfl hNot⟩
          | file content =>
              simp only [hNode] at h
              split at h
              · cases h
              · rename_i hFits
                cases h
                exact ⟨rfl, hNode, fun _ => by simpa using hFits⟩

theorem isFixed_origin (path : Path) : isFixed path.origin = true := by
  simp only [Path.origin]
  split <;> rfl

/-- Only a path with a name of its own at the end leads to a file, unless it leads upwards. -/
theorem exists_fileName?_of_find {content : ByteArray} (hUp : ".." ∉ path.names)
    (h : tree.find path = .ok (place, .file content)) : ∃ name, path.fileName? = some name := by
  obtain ⟨hResolve, hNode, _⟩ := find_eq_ok h
  have hFold := foldlM_of_resolve hResolve
  cases hLast : path.names.getLast? with
  | none =>
      have hNil : path.names = [] := List.getLast?_eq_none_iff.mp hLast
      rw [hNil] at hFold
      cases hFold
      rw [node?_of_isFixed (isFixed_origin path)] at hNode
      cases hNode
  | some name =>
      refine ⟨name, Option.filter_eq_some_iff.mpr ⟨hLast, ?_⟩⟩
      obtain ⟨init, hNames⟩ := List.getLast?_eq_some_iff.mp hLast
      have hNotUp : name ≠ ".." := fun hEq => hUp (by simp [hNames, hEq])
      have hNotDot : name ≠ "." := by
        rintro rfl
        rw [hNames] at hFold
        obtain ⟨parent, _, hStep⟩ := foldlM_follow_concat hFold
        obtain ⟨hDirectory, hSame, _⟩ := follow_eq_ok hStep
        rw [further, if_pos rfl] at hSame
        rw [hSame, hDirectory] at hNode
        cases hNode
      simp [Path.isProper, hNotUp, hNotDot]

/-- A file is found at the place that its path resolves to. -/
theorem find_of_file {content : ByteArray} (hResolve : tree.resolve path = .ok place)
    (hNode : tree.node? place = some (.file content)) (hFits : path.mustBeDirectory = false) :
    tree.find path = .ok (place, .file content) := by
  simp only [find]
  rw [hResolve]
  simp [bind, Except.bind, hNode, hFits]

/-- A path is not shorter than the way to it. -/
theorem pathBytes_le_of_prefix {names : List String} (h : names <+: path.names) :
    pathBytes ⟨path.absolute, names, false⟩ ≤ pathBytes path := by
  obtain ⟨rest, hRest⟩ := h
  have hGrows : ∀ (rest : List String) (sum : Nat),
      sum ≤ rest.foldl (fun sum name => sum + name.utf8ByteSize + 1) sum := by
    intro rest
    induction rest with
    | nil => exact fun sum => Nat.le_refl sum
    | cons name rest ih =>
        intro sum
        have hStep : sum ≤ sum + name.utf8ByteSize + 1 := by omega
        exact Nat.le_trans hStep (ih _)
  simp only [pathBytes]
  rw [← hRest, List.foldl_append]
  exact hGrows rest _

/-- A path that can be followed can be left early. -/
theorem resolve_of_prefix {names : List String} (h : tree.resolve path = .ok place) (hSome : names ≠ [])
    (hPrefix : names <+: path.names) {passed : Place} (hFold : names.foldlM tree.follow path.origin = .ok passed) :
    tree.resolve ⟨path.absolute, names, false⟩ = .ok passed := by
  simp only [resolve] at h ⊢
  split at h
  · cases h
  · split at h
    · cases h
    · rename_i hValid
      split at h
      · cases h
      · rename_i hShort
        have hStillValid : ¬ names.any (fun name => name.toList.contains '\x00') = true := by
          intro hAny
          obtain ⟨name, hMem, hName⟩ := List.any_eq_true.mp hAny
          exact hValid (List.any_eq_true.mpr ⟨name, hPrefix.subset hMem, hName⟩)
        have hStillShort : ¬ maxPathBytes < pathBytes ⟨path.absolute, names, false⟩ := by
          have := pathBytes_le_of_prefix hPrefix
          omega
        rw [if_neg (by simp [hSome]), if_neg hStillValid, if_neg hStillShort]
        exact hFold

/-- Whatever is passed on the way to a place is a directory. -/
theorem isDirectory_of_resolve {names : List String} (h : tree.resolve path = .ok place) (hSome : names ≠ [])
    (hPrefix : names <+: path.names) (hProper : names ≠ path.names) :
    tree.isDirectory ⟨path.absolute, names, false⟩ = true := by
  obtain ⟨rest, hRest⟩ := id hPrefix
  have hFold := foldlM_of_resolve h
  rw [← hRest] at hFold
  obtain ⟨passed, hFirst, hLast⟩ := foldlM_follow_append hFold
  have hResolve := resolve_of_prefix h hSome hPrefix hFirst
  have hDirectory : tree.node? passed = some .directory := by
    cases rest with
    | nil => exact absurd (by simpa using hRest) hProper
    | cons next rest => exact directory_of_foldlM hLast
  simp [isDirectory, find, hResolve, bind, Except.bind, hDirectory]

/-- Inversion of the search for a place for a file. -/
theorem filePlace_eq_ok (h : tree.filePlace path = .ok place) :
    tree.resolve path = .ok place ∧ tree.node? place ≠ some .directory ∧ path.mustBeDirectory = false := by
  simp only [filePlace] at h
  cases hResolve : tree.resolve path with
  | error fault =>
      rw [hResolve] at h
      cases h
  | ok found =>
      rw [hResolve] at h
      simp only [bind, Except.bind] at h
      split at h
      · cases h
      · rename_i hNot
        split at h
        · cases h
        · rename_i hFits
          cases h
          exact ⟨rfl, hNot, by simpa using hFits⟩

/-- Where no directory is, there is a place for a file. -/
theorem filePlace_of_resolve (hResolve : tree.resolve path = .ok place) (hNot : tree.node? place ≠ some .directory)
    (hFits : path.mustBeDirectory = false) : tree.filePlace path = .ok place := by
  cases hNode : tree.node? place with
  | none => simp [filePlace, hResolve, hNode, hFits, bind, Except.bind]
  | some node =>
      cases node with
      | directory => exact absurd hNode hNot
      | file content => simp [filePlace, hResolve, hNode, hFits, bind, Except.bind]

/-- A place for a file stays one when a file is put anywhere. -/
theorem filePlace_of_set {other : Place} {content : ByteArray} (h : tree.filePlace path = .ok place)
    (hNot : tree.node? other ≠ some .directory)
    (hAfter : ∀ q, tree'.node? q = if q = other then some (.file content) else tree.node? q) :
    tree'.filePlace path = .ok place := by
  obtain ⟨hResolve, hFile, hFits⟩ := filePlace_eq_ok h
  refine filePlace_of_resolve (resolve_of_directories (fun q hq => ?_) hResolve) (fun hDirectory => ?_) hFits
  · have hElse : q ≠ other := fun hEq => hNot (hEq ▸ hq)
    rw [hAfter, if_neg hElse]
    exact hq
  · rw [hAfter] at hDirectory
    split at hDirectory
    · cases hDirectory
    · exact hFile hDirectory

/-- A directory is not made twice. -/
theorem makeDirectory_of_isDirectory (h : tree.isDirectory path = true) :
    tree.makeDirectory path = .error .alreadyExists := by
  simp only [isDirectory] at h
  split at h
  · rename_i q hFind
    obtain ⟨hResolve, hNode, _⟩ := find_eq_ok hFind
    simp [makeDirectory, hResolve, hNode, bind, Except.bind]
  · cases h

/-- What a change that succeeds leaves at every place. -/
theorem makeDirectory_eq_ok (h : tree.makeDirectory path = .ok tree') :
    tree.resolve path = .ok path.place ∧ tree.node? path.place = none ∧
      ∀ q, tree'.node? q = if q = path.place then some .directory else tree.node? q := by
  simp only [makeDirectory] at h
  cases hResolve : tree.resolve path with
  | error fault =>
      rw [hResolve] at h
      cases h
  | ok found =>
      rw [hResolve] at h
      simp only [bind, Except.bind] at h
      obtain rfl := eq_place_of_resolve hResolve
      split at h
      · cases h
      · rename_i hNone
        cases h
        exact ⟨rfl, hNone, fun q => node?_put _ _ (isFixed_of_none hNone)⟩

/-- Inversion of the making of a file: what it needs, and the tree after it. -/
theorem makeFile_eq_ok (h : tree.makeFile path = .ok tree') :
    tree.resolve path = .ok path.place ∧ path.mustBeDirectory = false ∧ tree.node? path.place ≠ some .directory ∧
      ∀ q, tree'.node? q = if q = path.place then some (.file ByteArray.empty) else tree.node? q := by
  simp only [makeFile] at h
  cases hPlace : tree.filePlace path with
  | error fault =>
      rw [hPlace] at h
      cases h
  | ok found =>
      rw [hPlace] at h
      obtain ⟨hResolve, hFile, hFits⟩ := filePlace_eq_ok hPlace
      obtain rfl := eq_place_of_resolve hResolve
      cases h
      exact ⟨hResolve, hFits, hFile, fun q => node?_put _ _ (isFixed_of_ne_directory hFile)⟩

/-- Inversion of writing to a file. -/
theorem append_eq_ok {bytes : ByteArray} (h : tree.append path bytes = .ok tree') :
    ∃ content, tree.node? path.place = some (.file content) ∧
      ∀ q, tree'.node? q = if q = path.place then some (.file (content ++ bytes)) else tree.node? q := by
  simp only [append] at h
  cases hFind : tree.find path with
  | error fault =>
      rw [hFind] at h
      cases h
  | ok found =>
      obtain ⟨found, node⟩ := found
      rw [hFind] at h
      obtain ⟨hResolve, hNode, _⟩ := find_eq_ok hFind
      obtain rfl := eq_place_of_resolve hResolve
      cases node with
      | directory => cases h
      | file content =>
          cases h
          exact ⟨content, hNode, fun q => node?_put _ _ (isFixed_of_file hNode)⟩

/-- Inversion of the removal of a file. -/
theorem removeFile_eq_ok (h : tree.removeFile path = .ok tree') :
    ∃ content, tree.node? path.place = some (.file content) ∧
      ∀ q, tree'.node? q = if q = path.place then none else tree.node? q := by
  simp only [removeFile] at h
  cases hFind : tree.find path with
  | error fault =>
      rw [hFind] at h
      cases h
  | ok found =>
      obtain ⟨found, node⟩ := found
      rw [hFind] at h
      obtain ⟨hResolve, hNode, _⟩ := find_eq_ok hFind
      obtain rfl := eq_place_of_resolve hResolve
      cases node with
      | directory => cases h
      | file content =>
          cases h
          exact ⟨content, hNode, fun q => node?_erase _ (isFixed_of_file hNode)⟩

/-- Only a path that leads to no file can be kept from being removed. -/
theorem not_find_of_removeFile {fault : DiskFault} (h : tree.removeFile path = .error fault) (q : Place)
    (content : ByteArray) : tree.find path ≠ .ok (q, .file content) := by
  intro hFind
  simp [removeFile, hFind, bind, Except.bind] at h

/-- A path leads to the file that is put at its place. -/
theorem find_of_set {content : ByteArray} (hResolve : tree.resolve path = .ok path.place)
    (hFits : path.mustBeDirectory = false) (hNot : tree.node? path.place ≠ some .directory)
    (hAfter : ∀ q, tree'.node? q = if q = path.place then some (.file content) else tree.node? q) :
    tree'.find path = .ok (path.place, .file content) := by
  have hKeep : ∀ q, tree.node? q = some .directory → tree'.node? q = some .directory := by
    intro q hq
    have hElse : q ≠ path.place := fun hEq => hNot (hEq ▸ hq)
    rw [hAfter, if_neg hElse]
    exact hq
  have hThere : tree'.node? path.place = some (.file content) := by rw [hAfter, if_pos rfl]
  exact find_of_file (resolve_of_directories hKeep hResolve) hThere hFits

/-- Inversion of the move of a file: what it needs, and the tree after it. -/
theorem rename_eq_ok {source target : Path} (h : tree.rename source target = .ok tree') :
    tree.resolve target = .ok target.place ∧ target.mustBeDirectory = false ∧
      ∃ content, tree.node? source.place = some (.file content) ∧ tree.node? target.place ≠ some .directory ∧
        ∀ q, tree'.node? q = if q = target.place then some (.file content)
          else if q = source.place then none else tree.node? q := by
  simp only [rename] at h
  cases hFind : tree.find source with
  | error fault =>
      rw [hFind] at h
      cases h
  | ok found =>
      obtain ⟨found, node⟩ := found
      rw [hFind] at h
      obtain ⟨hResolve, hNode, _⟩ := find_eq_ok hFind
      obtain rfl := eq_place_of_resolve hResolve
      cases node with
      | directory => cases h
      | file content =>
          cases hPlace : tree.filePlace target with
          | error fault =>
              simp only [bind, Except.bind, hPlace] at h
              cases h
          | ok goal =>
              simp only [bind, Except.bind, hPlace] at h
              obtain ⟨hGoal, hFile, hFits⟩ := filePlace_eq_ok hPlace
              obtain rfl := eq_place_of_resolve hGoal
              cases h
              refine ⟨hGoal, hFits, content, hNode, hFile, fun q => ?_⟩
              rw [node?_put _ _ (isFixed_of_ne_directory hFile),
                node?_erase _ (isFixed_of_file hNode)]

/-- Moving a file leaves all directories where they are. -/
theorem directory_of_rename {source target : Path} (h : tree.rename source target = .ok tree') {q : Place}
    (hq : tree.node? q = some .directory) : tree'.node? q = some .directory := by
  obtain ⟨_, _, content, hFile, hNot, hAfter⟩ := rename_eq_ok h
  have hTarget : q ≠ target.place := fun hEq => hNot (hEq ▸ hq)
  have hSource : q ≠ source.place := fun hEq => by
    rw [hEq, hFile] at hq
    cases hq
  rw [hAfter, if_neg hTarget, if_neg hSource]
  exact hq

end FileTree

end ChatRelay
