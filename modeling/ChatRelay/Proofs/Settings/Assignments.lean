import ChatRelay.Proofs.CursorFile.Save
import ChatRelay.Proofs.Text.Pieces
import ChatRelay.Settings.DotEnv

/-!
What a file of assignments adds to the variables. A name is written with its value between quotation marks, and the
value comes back as it was, whatever marks it has itself. A variable that is there keeps its value, so that the first
assignment to a name decides, and a second reading of the file finds nothing to add.
-/

namespace ChatRelay

namespace DotEnv

open ChatRelay.Text (isSpace trimChars)

/-- A line of a file of assignments. -/
inductive Line where
  /-- A name and its value between quotation marks, with what stands behind them. -/
  | pair (key value back : String)
  /-- A line that assigns nothing. -/
  | idle (text : String)

/-- A name that a line can start with. -/
structure IsName (key : String) : Prop where
  nonempty : key ≠ ""
  trimmed : Text.trim key = key
  noComment : key.toList.head? ≠ some '#'
  plain : ∀ c ∈ key.toList, c ≠ '=' ∧ c ≠ '\n' ∧ c ≠ '\x00'

instance (key : String) : Decidable (IsName key) :=
  have : Decidable (∀ c ∈ key.toList, c ≠ '=' ∧ c ≠ '\n' ∧ c ≠ '\x00') := List.decidableBAll _ _
  decidable_of_iff (key ≠ "" ∧ Text.trim key = key ∧ key.toList.head? ≠ some '#' ∧
      ∀ c ∈ key.toList, c ≠ '=' ∧ c ≠ '\n' ∧ c ≠ '\x00')
    ⟨fun h => ⟨h.1, h.2.1, h.2.2.1, h.2.2.2⟩, fun h => ⟨h.nonempty, h.trimmed, h.noComment, h.plain⟩⟩

namespace Line

def text : Line → String
  | pair key value back => key ++ "=\"" ++ value ++ "\"" ++ back
  | idle text => text

def entry? : Line → Option (String × String)
  | pair key value _ => some (key, value)
  | idle _ => none

/-- What can stand on a line. The space behind a value can be the first half of a line end, and a line that assigns
nothing is blank or a comment. -/
def Fits : Line → Prop
  | pair key value back => IsName key ∧ (∀ c ∈ value.toList, c ≠ '\n' ∧ c ≠ '\x00') ∧
      ∀ c ∈ back.toList, isSpace c = true ∧ c ≠ '\n'
  | idle text => '\n' ∉ text.toList ∧ (Text.isBlank text = true ∨ (Text.trim text).toList.head? = some '#')

-- the checks of all characters are those of a list, not of the whole type
instance : (line : Line) → Decidable line.Fits
  | pair key value back =>
      have : Decidable (∀ c ∈ value.toList, c ≠ '\n' ∧ c ≠ '\x00') := List.decidableBAll _ _
      have : Decidable (∀ c ∈ back.toList, isSpace c = true ∧ c ≠ '\n') := List.decidableBAll _ _
      inferInstanceAs (Decidable (IsName key ∧ (∀ c ∈ value.toList, c ≠ '\n' ∧ c ≠ '\x00') ∧
        ∀ c ∈ back.toList, isSpace c = true ∧ c ≠ '\n'))
  | idle text => inferInstanceAs (Decidable ('\n' ∉ text.toList ∧
      (Text.isBlank text = true ∨ (Text.trim text).toList.head? = some '#')))

end Line

/-- The text of a file with some lines. -/
def fileText (lines : List Line) : String := String.ofList (['\n'].intercalate (lines.map fun line => line.text.toList))

/-- The assignments on the lines, in order. -/
def pairs (lines : List Line) : Variables := lines.filterMap Line.entry?

/-- What becomes of variables when assignments are loaded. -/
structure Loaded (vars entries result : Variables) : Prop where
  kept : ∀ key value, vars.get? key = some value → result.get? key = some value
  first : ∀ before key value after, entries = before ++ (key, value) :: after → (∀ entry ∈ before, entry.1 ≠ key) →
    vars.get? key = none → result.get? key = some value
  nothingElse : ∀ key, vars.get? key = none → (∀ entry ∈ entries, entry.1 ≠ key) → result.get? key = none

section Reading

variable {key value : String} {line : Line} {lines : List Line}

/-- Only the outer quotation marks are taken away. -/
theorem unquote_quoted (value : List Char) : unquote ('"' :: (value ++ ['"'])) = value := by
  simp [unquote]

/-- A quoted assignment is read back as it was written. -/
theorem assignment?_pair (hKey : IsName key) {back : List Char} (hBack : ∀ c ∈ back, isSpace c = true) :
    assignment? (key.toList ++ '=' :: '"' :: (value.toList ++ ['"']) ++ back) = some (key, value) := by
  obtain ⟨first, rest, hFirst⟩ := List.exists_cons_of_ne_nil (String.toList_eq_nil_iff.not.mpr hKey.nonempty)
  have hTight := Text.tight_of_trim_eq hKey.trimmed
  have hLine : trimChars (key.toList ++ '=' :: '"' :: (value.toList ++ ['"']) ++ back) =
      key.toList ++ '=' :: '"' :: (value.toList ++ ['"']) := by
    have hEnclosed := Text.tight_enclosed (rest ++ '=' :: '"' :: value.toList) (hTight.first first rest hFirst)
      (by decide : isSpace '"' = false)
    have hBare := hEnclosed.trimChars_surrounded (List.forall_mem_nil _) hBack
    simpa [hFirst] using hBare
  have hSplit := Text.splitFirst_append ('"' :: (value.toList ++ ['"'])) fun h => (hKey.plain '=' h).1 rfl
  have hValue : trimChars ('"' :: (value.toList ++ ['"'])) = '"' :: (value.toList ++ ['"']) :=
    (Text.tight_enclosed value.toList (by decide) (by decide)).trimChars_eq
  have hComment : first ≠ '#' := fun h => hKey.noComment (by rw [hFirst, h, List.head?_cons])
  simp only [assignment?, hLine, hSplit, hTight.trimChars_eq, hValue, unquote_quoted, String.ofList_toList]
  simp [hFirst, hComment]

/-- A blank line and a comment assign nothing. -/
theorem assignment?_idle {text : String}
    (h : Text.isBlank text = true ∨ (Text.trim text).toList.head? = some '#') : assignment? text.toList = none := by
  have hSkipped : (Text.trim text).toList.isEmpty = true ∨ (Text.trim text).toList.head? = some '#' := by
    refine h.imp_left fun hBlank => ?_
    rw [(Text.trim_eq_empty_iff text).mpr hBlank]
    rfl
  simp only [assignment?, ← Text.toList_trim]
  exact if_pos (by simpa only [Bool.or_eq_true, decide_eq_true_eq] using hSkipped)

/-- Every line that fits is read back as what it was written for. -/
theorem assignment?_text (h : line.Fits) : assignment? line.text.toList = line.entry? := by
  cases line with
  | pair key value back =>
      rw [Line.text, Line.entry?, ← assignment?_pair h.1 fun c hc => (h.2.2 c hc).1]
      simp
  | idle text => exact assignment?_idle h.2

/-- The text of a line is one line. -/
theorem newline_not_mem_text (h : line.Fits) : '\n' ∉ line.text.toList := by
  cases line with
  | pair key value back =>
      simp only [Line.text, String.toList_append, List.mem_append, not_or]
      exact ⟨⟨⟨⟨fun hc => (h.1.plain _ hc).2.1 rfl, by decide⟩, fun hc => (h.2.1 _ hc).1 rfl⟩, by decide⟩,
        fun hc => (h.2.2 _ hc).2 rfl⟩
  | idle text => exact h.1

/-- The assignments of a file are the ones that its lines make. -/
theorem assignments_fileText (hLines : ∀ line ∈ lines, line.Fits) : assignments (fileText lines) = pairs lines := by
  by_cases hNone : lines = []
  · subst hNone
    decide
  · have hSplit : Text.lines (fileText lines) = lines.map Line.text := by
      rw [Text.lines, fileText, String.toList_ofList, Text.splitWhere_intercalate (by simpa using hNone)]
      · simp
      · exact List.forall_mem_map.mpr fun line hLine => newline_not_mem_text (hLines line hLine)
    rw [assignments, hSplit, List.filterMap_map]
    exact List.filterMap_congr fun line hLine => assignment?_text (hLines line hLine)

end Reading

section Defining

variable {vars entries : Variables} {key value : String}

theorem get?_cons (entry : String × String) (rest : Variables) (key : String) :
    Variables.get? (entry :: rest) key = if entry.1 = key then some entry.2 else Variables.get? rest key := by
  by_cases h : entry.1 = key <;> simp [Variables.get?, h]

theorem get?_append (front back : Variables) (key : String) :
    Variables.get? (front ++ back) key = (front.get? key).or (back.get? key) := by
  simp [Variables.get?, List.find?_append, Option.map_or]

/-- Defining a variable does not change one that is there. -/
theorem get?_define (vars : Variables) (entry : String × String) (key : String) :
    (define vars entry).get? key = (vars.get? key).or (Variables.get? [entry] key) := by
  rw [define]
  split
  · rename_i value hValue
    rw [get?_cons]
    by_cases hSame : entry.1 = key
    · rw [← hSame, hValue]
      rfl
    · simp [hSame, Variables.get?]
  · exact get?_append vars [entry] key

/-- A variable has the value that it had, or else the first one that is assigned to it. -/
theorem get?_foldl_define (vars entries : Variables) (key : String) :
    (entries.foldl define vars).get? key = (vars.get? key).or (entries.get? key) := by
  induction entries generalizing vars with
  | nil => simp [Variables.get?]
  | cons entry entries ih =>
      rw [List.foldl_cons, ih, get?_define, Option.or_assoc, ← get?_append, List.singleton_append]

/-- Variables that are there already are not added. -/
theorem foldl_define_eq_self (h : ∀ entry ∈ entries, (vars.get? entry.1).isSome = true) :
    entries.foldl define vars = vars := by
  induction entries with
  | nil => rfl
  | cons entry entries ih =>
      obtain ⟨hFirst, hRest⟩ := List.forall_mem_cons.mp h
      obtain ⟨value, hValue⟩ := Option.isSome_iff_exists.mp hFirst
      rw [List.foldl_cons, define, hValue]
      exact ih hRest

theorem get?_eq_none_iff : entries.get? key = none ↔ ∀ entry ∈ entries, entry.1 ≠ key := by
  simp [Variables.get?, List.find?_eq_none]

/-- Run lemma for a file of assignments: by induction over its lines, each name has the value from before or else its
first one. -/
theorem loaded_foldl_define (vars entries : Variables) : Loaded vars entries (entries.foldl define vars) where
  kept key value h := by
    rw [get?_foldl_define, h, Option.some_or]
  first before key value after hParts hBefore hNew := by
    rw [get?_foldl_define, hNew, hParts, get?_append, get?_eq_none_iff.mpr hBefore, get?_cons, if_pos rfl]
    rfl
  nothingElse key hNew hOthers := by
    rw [get?_foldl_define, hNew, get?_eq_none_iff.mpr hOthers, Option.none_or]

/-- A second time there is nothing to add. -/
theorem foldl_define_foldl_define (vars entries : Variables) :
    entries.foldl define (entries.foldl define vars) = entries.foldl define vars := by
  refine foldl_define_eq_self fun entry hEntry => ?_
  rw [get?_foldl_define, Option.isSome_or, Bool.or_eq_true]
  refine .inr (Option.isSome_iff_ne_none.mpr fun hNone => ?_)
  exact get?_eq_none_iff.mp hNone entry hEntry rfl

end Defining

section File

variable {vars : Variables} {tree : FileTree} {text : String}

/-- The file of assignments is found at its place. -/
theorem find_fileName {content : ByteArray} (h : tree.node? [fileName] = some (.file content)) :
    tree.find (Path.ofString fileName) = .ok ([fileName], .file content) := by
  have hPath : Path.ofString fileName = ⟨false, [fileName], false⟩ := by decide +kernel
  have hResolve : tree.resolve (Path.ofString fileName) = .ok [fileName] := by
    have hDot : FileTree.follow tree [] fileName = .ok [fileName] := by
      have hTop : tree.node? [] = some .directory := FileTree.node?_of_isFixed rfl
      rw [FileTree.follow, hTop]
      decide +kernel
    have hFollow : [fileName].foldlM tree.follow [] = .ok [fileName] := by
      rw [FileTree.foldlM_follow_singleton, hDot]
    rw [hPath, FileTree.resolve, if_neg (by decide), if_neg (by decide +kernel), if_neg (by decide +kernel)]
    exact hFollow
  exact FileTree.find_of_file hResolve h (by rw [hPath])

/-- Where there is a file with a text, its assignments are loaded, and the file stays as it is. -/
theorem loadFile_eq (h : tree.node? [fileName] = some (.file text.toUTF8)) :
    loadFile FileTree.disk vars tree = (.ok (load vars text), tree) := by
  have hFind := find_fileName h
  have hPresent : FileTree.disk.isPresent (Path.ofString fileName) tree = (true, tree) := by
    show (tree.isPresent _, tree) = _
    rw [FileTree.isPresent, hFind]
    rfl
  have hRead : FileTree.disk.read (Path.ofString fileName) tree = (.ok text.toUTF8, tree) := by
    show (tree.read _, tree) = _
    rw [FileTree.read, hFind]
    rfl
  have hText : FileTree.disk.readText (Path.ofString fileName) tree = (.ok text, tree) := by
    rw [Disk.readText, bind_of_run _ hRead]
    simp only [CursorFile.fromUTF8?_toUTF8]
    rfl
  rw [loadFile, bind_of_run _ hPresent, if_pos rfl, bind_of_run _ hText]
  rfl

end File

/-- **A file of assignments gives back what was written, and nothing that is there is lost.** Whatever the variables
are, and whatever stands between the quotation marks and on the lines without an assignment: variables that are there
stay as they are, any other name on the lines gets exactly the first value that is written for it, and nothing else is
added. Another reading of the file adds nothing. The file is not changed. -/
theorem written_values_loaded (vars : Variables) {lines : List Line} (hLines : ∀ line ∈ lines, line.Fits)
    {tree : FileTree} (hFile : tree.node? [fileName] = some (.file (fileText lines).toUTF8)) :
    ∃ result, loadFile FileTree.disk vars tree = (.ok result, tree) ∧ Loaded vars (pairs lines) result ∧
      loadFile FileTree.disk result tree = (.ok result, tree) := by
  refine ⟨(pairs lines).foldl define vars, ?_, loaded_foldl_define vars (pairs lines), ?_⟩
  · rw [loadFile_eq hFile, load, assignments_fileText hLines]
  · rw [loadFile_eq hFile, load, assignments_fileText hLines, foldl_define_foldl_define]

/-- A comment, a name that is there, and a name that is written twice, first with a value full of marks. -/
def quotedLines : List Line := [
  .idle "  # KEY=\"x\"", .pair "HOME" "/tmp" "", .pair "KEY" "'a=\" #" "\r", .pair "KEY" "b" "", .idle ""]

/-- A value with both kinds of quotes comes through, a variable of the environment keeps its value, and a comment adds
nothing. -/
theorem quotedLines_loaded :
    ∃ result, loadFile FileTree.disk [("HOME", "/root")] (FileTree.empty.put [fileName]
        (.file (fileText quotedLines).toUTF8)) =
      (.ok result, FileTree.empty.put [fileName] (.file (fileText quotedLines).toUTF8)) ∧
      result.get? "HOME" = some "/root" ∧ result.get? "KEY" = some "'a=\" #" ∧ result.get? "OTHER" = none := by
  have hLines : ∀ line ∈ quotedLines, line.Fits := by decide +kernel
  have hFile : (FileTree.empty.put [fileName] (.file (fileText quotedLines).toUTF8)).node? [fileName] =
      some (.file (fileText quotedLines).toUTF8) := by
    rw [FileTree.node?_put _ _ (by decide), if_pos rfl]
  obtain ⟨result, hLoad, hLoaded, -⟩ := written_values_loaded [("HOME", "/root")] hLines hFile
  exact ⟨result, hLoad, hLoaded.kept _ _ (by decide),
    hLoaded.first [("HOME", "/tmp")] _ _ [("KEY", "b")] (by decide) (by decide) (by decide),
    hLoaded.nothingElse _ (by decide) (by decide)⟩

end DotEnv

end ChatRelay
