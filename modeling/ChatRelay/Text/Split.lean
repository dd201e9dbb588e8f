import ChatRelay.Text.Blank

/-!
Cutting a text into pieces. The pieces between separators keep everything but the separators, so that
joining them again gives the text back. Words, comma lists and lines are all cut this way, and a
compacted text is its words with one space between them, cut off after a fixed number of characters.
-/

namespace ChatRelay.Text

/-- The pieces between the characters that satisfy `sep`. There is always one piece more than there are
separators. -/
def splitWhere (sep : Char → Bool) : List Char → List (List Char)
  | [] => [[]]
  | c :: cs =>
      if sep c then [] :: splitWhere sep cs
      else
        match splitWhere sep cs with
        | [] => [[c]]
        | piece :: pieces => (c :: piece) :: pieces

theorem splitWhere_ne_nil (sep : Char → Bool) (cs : List Char) : splitWhere sep cs ≠ [] := by
  induction cs with
  | nil => simp [splitWhere]
  | cons c cs ih =>
      rw [splitWhere]
      split
      · simp
      · split <;> simp

/-- No piece holds a separator. -/
theorem not_sep_of_mem_splitWhere {sep : Char → Bool} {cs piece : List Char}
    (h : piece ∈ splitWhere sep cs) : ∀ c ∈ piece, sep c = false := by
  induction cs generalizing piece with
  | nil => simp_all [splitWhere]
  | cons c cs ih =>
      rw [splitWhere] at h
      split at h
      · rcases List.mem_cons.mp h with rfl | h
        · simp
        · exact ih h
      · rename_i hc
        split at h
        · rename_i hNil
          exact absurd hNil (splitWhere_ne_nil sep cs)
        · rename_i first pieces hSplit
          rcases List.mem_cons.mp h with rfl | h
          · intro d hd
            rcases List.mem_cons.mp hd with rfl | hd
            · simpa using hc
            · exact ih (by rw [hSplit]; exact List.mem_cons_self) d hd
          · exact ih (by rw [hSplit]; exact List.mem_cons_of_mem _ h)

/-- The maximal runs of characters other than space. -/
def words (cs : List Char) : List (List Char) :=
  (splitWhere isSpace cs).filter fun piece => !piece.isEmpty

/-- The trimmed pieces between commas, the empty ones included. -/
def commaParts (s : String) : List String :=
  (splitWhere (· == ',') s.toList).map fun piece => String.ofList (trimChars piece)

/-- The pieces between line feeds. A text that ends with a line feed has an empty last piece. -/
def lines (s : String) : List String :=
  (splitWhere (· == '\n') s.toList).map String.ofList

/-- What stands before and after the first occurrence of a character, if it occurs. -/
def splitFirst (mark : Char) : List Char → Option (List Char × List Char)
  | [] => none
  | c :: cs =>
      if c = mark then some ([], cs)
      else (splitFirst mark cs).map fun parts => (c :: parts.1, parts.2)

/-- A text cut at the first occurrence of a character that its front part does not hold. -/
theorem splitFirst_append {mark : Char} {front : List Char} (rest : List Char)
    (h : mark ∉ front) : splitFirst mark (front ++ mark :: rest) = some (front, rest) := by
  induction front with
  | nil => simp [splitFirst]
  | cons c front ih =>
      have hc : c ≠ mark := fun hEq => h (by simp [hEq])
      have hRest : mark ∉ front := fun hMem => h (List.mem_cons_of_mem _ hMem)
      simp [splitFirst, hc, ih hRest]

/-- At most `max` characters of a text, from its start. -/
def truncate (max : Nat) (s : String) : String := String.ofList (s.toList.take max)

/-- The number of characters that a compacted error text keeps. -/
def maxErrorChars : Nat := 500

/-- One readable line: the words of a text with one space between them, cut off after `maxErrorChars`
characters. -/
def compact (s : String) : String :=
  truncate maxErrorChars (String.ofList ([' '].intercalate (words s.toList)))

theorem length_toList_truncate (max : Nat) (s : String) :
    (truncate max s).toList.length = min max s.toList.length := by
  simp [truncate]

theorem length_toList_compact_le (s : String) : (compact s).toList.length ≤ maxErrorChars := by
  rw [compact, length_toList_truncate]
  exact Nat.min_le_left _ _

end ChatRelay.Text
