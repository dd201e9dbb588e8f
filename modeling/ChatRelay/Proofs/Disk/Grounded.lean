import ChatRelay.Proofs.Disk.Place

/-!
File trees in which everything stands in a directory. Every operation keeps a tree so. In such a tree, a path
without steps upwards can be followed as soon as there is something at its place, which makes the entry at the
place all that matters of the tree.
-/

namespace ChatRelay.FileTree

/-- Whatever stands in the tree stands in a directory. -/
def Grounded (tree : FileTree) : Prop :=
  ∀ place node, tree.node? place = some node → tree.node? (above place) = some .directory

variable {tree tree' : FileTree} {path : Path} {place : Place}

/-- Above a place that always exists there is another one. -/
theorem isFixed_above (h : isFixed place = true) : isFixed (above place) = true := by
  simp only [isFixed, Bool.or_eq_true, beq_iff_eq] at h ⊢
  rcases h with rfl | h
  · exact Or.inl rfl
  · right
    cases place with
    | nil => rfl
    | cons name rest =>
        obtain ⟨hName, hRest⟩ : (name == "..") = true ∧ rest.all (· == "..") = true := by
          simpa using h
        obtain rfl : name = ".." := by simpa using hName
        simpa [above] using hRest

/-- The empty tree is grounded. -/
theorem grounded_empty : Grounded empty := by
  intro place node h
  have hFixed : isFixed place = true := by
    cases hFixed : isFixed place with
    | true => rfl
    | false => simp [node?, hFixed, empty] at h
  exact node?_of_isFixed (isFixed_above hFixed)

theorem above_cons {name : String} (h : name ≠ "..") : above (name :: place) = place ∨ name :: place = ["/"] := by
  simp only [above]
  split <;> simp_all

/-- The place of every path that can be followed stands in a directory. -/
theorem Grounded.above_of_resolve (h : Grounded tree) (hResolve : tree.resolve path = .ok place) :
    tree.node? (above place) = some .directory := by
  have hFold : ∀ (names : List String) (a b : Place), names.foldlM tree.follow a = .ok b →
      tree.node? (above a) = some .directory → tree.node? (above b) = some .directory := by
    intro names
    induction names with
    | nil =>
        intro a b hEq ha
        cases hEq
        exact ha
    | cons name names ih =>
        intro a b hEq ha
        rw [List.foldlM_cons] at hEq
        cases hStep : tree.follow a name with
        | error fault =>
            rw [hStep] at hEq
            cases hEq
        | ok next =>
            rw [hStep] at hEq
            refine ih next b hEq ?_
            obtain ⟨hDirectory, rfl, _⟩ := follow_eq_ok hStep
            simp only [further]
            by_cases hDot : name = "."
            · rw [if_pos hDot]
              exact ha
            · by_cases hUp : name = ".."
              · rw [if_neg hDot, if_pos hUp]
                exact h _ _ ha
              · rw [if_neg hDot, if_neg hUp]
                rcases @above_cons a _ hUp with hAbove | hRoot
                · rw [hAbove]
                  exact hDirectory
                · rw [hRoot]
                  rfl
  simp only [resolve] at hResolve
  split at hResolve
  · cases hResolve
  · split at hResolve
    · cases hResolve
    · split at hResolve
      · cases hResolve
      · refine hFold _ _ _ hResolve ?_
        split <;> rfl

/-- A change that keeps all directories, and puts new entries into directories only. -/
theorem Grounded.change (h : Grounded tree)
    (hKeep : ∀ q, tree.node? q = some .directory → tree'.node? q = some .directory)
    (hNew : ∀ q, (tree'.node? q).isSome → (tree.node? q).isSome ∨ tree.node? (above q) = some .directory) :
    Grounded tree' := by
  intro q node hNode
  apply hKeep
  rcases hNew q (by simp [hNode]) with hOld | hAbove
  · obtain ⟨old, hOld⟩ := Option.isSome_iff_exists.mp hOld
    exact h q old hOld
  · exact hAbove

/-- Putting an entry where no directory stands. -/
theorem Grounded.set (h : Grounded tree) {new : Option Node} (hNot : tree.node? place ≠ some .directory)
    (hAbove : tree.node? (above place) = some .directory)
    (hAfter : ∀ q, tree'.node? q = if q = place then new else tree.node? q) : Grounded tree' := by
  refine h.change (fun q hq => ?_) fun q hq => ?_
  · have hNe : q ≠ place := fun hEq => hNot (hEq ▸ hq)
    rw [hAfter, if_neg hNe]
    exact hq
  · by_cases hEq : q = place
    · rw [hEq]
      exact Or.inr hAbove
    · rw [hAfter, if_neg hEq] at hq
      exact Or.inl hq

/-- Each operation keeps a tree grounded: first the making of a directory. -/
theorem Grounded.makeDirectory (h : Grounded tree) (hEq : tree.makeDirectory path = .ok tree') :
    Grounded tree' := by
  obtain ⟨hResolve, hNone, hAfter⟩ := makeDirectory_eq_ok hEq
  exact h.set (by simp [hNone]) (h.above_of_resolve hResolve) hAfter

/-- Then the making of a file. -/
theorem Grounded.makeFile (h : Grounded tree) (hEq : tree.makeFile path = .ok tree') : Grounded tree' := by
  obtain ⟨hResolve, _, hNot, hAfter⟩ := makeFile_eq_ok hEq
  exact h.set hNot (h.above_of_resolve hResolve) hAfter

/-- Then writing to a file, which is there already. -/
theorem Grounded.append {bytes : ByteArray} (h : Grounded tree) (hEq : tree.append path bytes = .ok tree') :
    Grounded tree' := by
  obtain ⟨content, hFile, hAfter⟩ := append_eq_ok hEq
  exact h.set (by simp [hFile]) (h _ _ hFile) hAfter

/-- Then the removal of a file, which has nothing below it. -/
theorem Grounded.removeFile (h : Grounded tree) (hEq : tree.removeFile path = .ok tree') : Grounded tree' := by
  obtain ⟨content, hFile, hAfter⟩ := removeFile_eq_ok hEq
  exact h.set (by simp [hFile]) (h _ _ hFile) hAfter

/-- And last the move of a file. -/
theorem Grounded.rename {target : Path} (h : Grounded tree) (hEq : tree.rename path target = .ok tree') :
    Grounded tree' := by
  obtain ⟨hResolve, _, content, _, _, hAfter⟩ := rename_eq_ok hEq
  refine h.change (fun q hq => directory_of_rename hEq hq) fun q hq => ?_
  by_cases hTarget : q = target.place
  · rw [hTarget]
    exact Or.inr (h.above_of_resolve hResolve)
  · rw [hAfter, if_neg hTarget] at hq
    by_cases hSource : q = path.place
    · rw [if_pos hSource] at hq
      cases hq
    · rw [if_neg hSource] at hq
      exact Or.inl hq

/-- In a grounded tree, what has something below it is a directory. -/
theorem Grounded.directory_of_cons (h : Grounded tree) {a : Place} {name : String} (hName : name ≠ "..")
    (hSome : (tree.node? (name :: a)).isSome) : tree.node? a = some .directory := by
  obtain ⟨node, hNode⟩ := Option.isSome_iff_exists.mp hSome
  rcases @above_cons a _ hName with hAbove | hRoot
  · have hDirectory := h _ _ hNode
    rwa [hAbove] at hDirectory
  · obtain rfl : a = [] := (List.cons.inj hRoot).2
    rfl

/-- Without a step upwards, whatever is passed on the way to a directory is a directory. -/
theorem Grounded.directory_of_further (h : Grounded tree) {names : List String} (hNames : ".." ∉ names)
    {a : Place} (hEnd : tree.node? (names.foldl further a) = some .directory) :
    tree.node? a = some .directory := by
  induction names generalizing a with
  | nil => exact hEnd
  | cons name names ih =>
      obtain ⟨hName, hRest⟩ : name ≠ ".." ∧ ".." ∉ names := by
        simpa [eq_comm] using hNames
      have hNext := ih hRest hEnd
      simp only [further] at hNext
      by_cases hDot : name = "."
      · simpa [hDot] using hNext
      · rw [if_neg hDot, if_neg hName] at hNext
        exact h.directory_of_cons hName (by simp [hNext])

/-- What can be followed in one tree can be followed in another one that has a directory at the end. -/
theorem Grounded.foldlM_follow (h : Grounded tree') {names : List String} (hNames : ".." ∉ names)
    {a b : Place} (hEq : names.foldlM tree.follow a = .ok b) (hEnd : tree'.node? b = some .directory) :
    names.foldlM tree'.follow a = .ok b := by
  induction names generalizing a with
  | nil => exact hEq
  | cons name names ih =>
      have hDirectory : tree'.node? a = some .directory := by
        rw [eq_of_foldlM_follow hEq] at hEnd
        exact h.directory_of_further hNames hEnd
      rw [List.foldlM_cons] at hEq ⊢
      cases hStep : tree.follow a name with
      | error fault =>
          rw [hStep] at hEq
          cases hEq
      | ok next =>
          rw [hStep] at hEq
          rw [follow_of_directory hStep hDirectory]
          exact ih (fun hMem => hNames (List.mem_cons_of_mem _ hMem)) hEq

/-- A path with a last name ends with it. -/
theorem names_of_fileName? {name : String} (h : path.fileName? = some name) :
    ∃ init, path.names = init ++ [name] ∧ name ≠ "." ∧ name ≠ ".." := by
  obtain ⟨hLast, hProper⟩ := Option.filter_eq_some_iff.mp h
  obtain ⟨init, hInit⟩ := List.getLast?_eq_some_iff.mp hLast
  exact ⟨init, hInit, by simpa [Path.isProper] using hProper⟩

/-- A path that can be followed in one tree can be followed in every tree with an entry at its place. -/
theorem Grounded.resolve (h : Grounded tree') {name : String} (hName : path.fileName? = some name)
    (hUp : ".." ∉ path.names) (hEq : tree.resolve path = .ok place) (hSome : (tree'.node? place).isSome) :
    tree'.resolve path = .ok place := by
  obtain ⟨init, hNames, hDot, hProper⟩ := names_of_fileName? hName
  have hUpInit : ".." ∉ init := fun hMem => hUp (by simp [hNames, hMem])
  have hFold : ∀ a, path.names.foldlM tree.follow a = .ok place →
      path.names.foldlM tree'.follow a = .ok place := by
    intro a hOld
    rw [hNames] at hOld ⊢
    obtain ⟨parent, hInit, hStep⟩ := foldlM_follow_concat hOld
    have hPlace : place = name :: parent := by
      rw [(follow_eq_ok hStep).2.1, further, if_neg hDot, if_neg hProper]
    rw [hPlace] at hSome
    have hDirectory := h.directory_of_cons hProper hSome
    rw [List.foldlM_append, h.foldlM_follow hUpInit hInit hDirectory]
    change [name].foldlM tree'.follow parent = .ok place
    rw [foldlM_follow_singleton]
    exact follow_of_directory hStep hDirectory
  exact resolve_of_foldlM hEq (hFold _ (foldlM_of_resolve hEq))

end ChatRelay.FileTree
