import ChatRelay.Proofs.Text.Spelling
import ChatRelay.Text.Split
import Mathlib.Data.List.Forall2

/-!
The pieces of a text between separators. They are told from the outside: no piece holds the separator, and with one
separator between each two of them they make the text. Only one list of pieces is like that, and splitting finds it.
-/

namespace ChatRelay.Text

section Splitting

variable {sep : Char → Bool} {mark c : Char} {cs front back : List Char} {pieces more : List (List Char)}

/-- A text without separators is one piece. -/
theorem splitWhere_of_forall (h : ∀ c ∈ cs, sep c = false) : splitWhere sep cs = [cs] := by
  induction cs with
  | nil => rfl
  | cons c cs ih =>
      obtain ⟨hFirst, hRest⟩ := List.forall_mem_cons.mp h
      simp [splitWhere, hFirst, ih hRest]

/-- A separator parts the pieces in front of it from those behind it. -/
theorem splitWhere_append_cons (h : sep c = true) :
    splitWhere sep (front ++ c :: back) = splitWhere sep front ++ splitWhere sep back := by
  induction front with
  | nil => simp [splitWhere, h]
  | cons d front ih =>
      obtain ⟨first, rest, hSplit⟩ := List.exists_cons_of_ne_nil (splitWhere_ne_nil sep front)
      rw [List.cons_append, splitWhere, splitWhere, ih, hSplit]
      split <;> rfl

/-- Pieces without the mark are cut into the same pieces again after they were joined by it. -/
theorem splitWhere_intercalate (hSome : pieces ≠ []) (hPlain : ∀ piece ∈ pieces, mark ∉ piece) :
    splitWhere (· == mark) ([mark].intercalate pieces) = pieces := by
  induction pieces with
  | nil => exact absurd rfl hSome
  | cons piece rest ih =>
      obtain ⟨hFirst, hRest⟩ := List.forall_mem_cons.mp hPlain
      have hWhole : splitWhere (· == mark) piece = [piece] :=
        splitWhere_of_forall fun c hc => beq_false_of_ne fun hMark => hFirst (hMark ▸ hc)
      cases rest with
      | nil => rw [List.intercalate_singleton, hWhole]
      | cons next rest =>
          rw [List.intercalate_cons_cons, List.append_assoc, List.singleton_append,
            splitWhere_append_cons (by simp), hWhole, ih (List.cons_ne_nil next rest) hRest,
            List.singleton_append]

/-- Joining can be done on either side of a mark. -/
theorem intercalate_append (hFront : pieces ≠ []) (hBack : more ≠ []) :
    [mark].intercalate (pieces ++ more) = [mark].intercalate pieces ++ mark :: [mark].intercalate more := by
  induction pieces with
  | nil => exact absurd rfl hFront
  | cons piece rest ih =>
      cases rest with
      | nil =>
          obtain ⟨next, later, rfl⟩ := List.exists_cons_of_ne_nil hBack
          simp [List.intercalate_cons_cons]
      | cons next rest =>
          have hRest := ih (List.cons_ne_nil next rest)
          simp only [List.cons_append, List.intercalate_cons_cons, List.append_assoc] at hRest ⊢
          rw [hRest]

/-- Nothing but the separators is lost. -/
theorem intercalate_splitWhere (mark : Char) (cs : List Char) :
    [mark].intercalate (splitWhere (· == mark) cs) = cs := by
  induction cs with
  | nil => rfl
  | cons c cs ih =>
      obtain ⟨first, rest, hSplit⟩ := List.exists_cons_of_ne_nil (splitWhere_ne_nil (· == mark) cs)
      rw [hSplit] at ih
      by_cases hMark : c = mark
      · simp [splitWhere, hMark, hSplit, List.intercalate_cons_cons, ih]
      · have hCons : splitWhere (· == mark) (c :: cs) = (c :: first) :: rest := by simp [splitWhere, hMark, hSplit]
        rw [hCons, ← ih]
        cases rest with
        | nil => simp
        | cons next rest => simp [List.intercalate_cons_cons]

/-- The pieces of a text are told by what they are joined to. -/
theorem splitWhere_eq_iff : splitWhere (· == mark) cs = pieces ↔
    pieces ≠ [] ∧ (∀ piece ∈ pieces, mark ∉ piece) ∧ cs = [mark].intercalate pieces := by
  constructor
  · rintro rfl
    refine ⟨splitWhere_ne_nil _ cs, fun piece hPiece hMark => ?_, (intercalate_splitWhere mark cs).symm⟩
    simpa using not_sep_of_mem_splitWhere hPiece mark hMark
  · rintro ⟨hSome, hPlain, rfl⟩
    exact splitWhere_intercalate hSome hPlain

/-- What is in the text is a separator or in one of the pieces. -/
theorem mem_or_eq_of_mem_intercalate {c : Char} (h : c ∈ [mark].intercalate pieces) :
    c = mark ∨ ∃ piece ∈ pieces, c ∈ piece := by
  induction pieces with
  | nil => cases h
  | cons piece rest ih =>
      cases rest with
      | nil => exact .inr ⟨piece, List.mem_cons_self, by simpa using h⟩
      | cons next rest =>
          rw [List.intercalate_cons_cons, List.append_assoc, List.mem_append, List.singleton_append, List.mem_cons] at h
          rcases h with hFirst | hMark | hRest
          · exact .inr ⟨piece, List.mem_cons_self, hFirst⟩
          · exact .inl hMark
          · exact (ih hRest).imp id fun ⟨other, hMem, hc⟩ => ⟨other, List.mem_cons_of_mem piece hMem, hc⟩

theorem mem_intercalate_of_mem {c : Char} {piece : List Char} (hPiece : piece ∈ pieces) (hc : c ∈ piece) :
    c ∈ [mark].intercalate pieces := by
  induction pieces with
  | nil => cases hPiece
  | cons first rest ih =>
      cases rest with
      | nil =>
          obtain rfl := List.mem_singleton.mp hPiece
          simpa using hc
      | cons next rest =>
          rw [List.intercalate_cons_cons, List.append_assoc, List.mem_append, List.singleton_append, List.mem_cons]
          rcases List.mem_cons.mp hPiece with rfl | hRest
          · exact .inl hc
          · exact .inr (.inr (ih hRest))

end Splitting

/-- The items of a list between commas, each without the space around it. -/
def CommaList (text : String) (items : List String) : Prop :=
  ∃ pieces : List (List Char), pieces ≠ [] ∧ (∀ piece ∈ pieces, ',' ∉ piece) ∧
    text.toList = [','].intercalate pieces ∧
    List.Forall₂ (fun piece item => TrimsTo (String.ofList piece) item) pieces items

section Lists

variable {text : String} {items : List String}

/-- The reader of comma lists gives exactly the items of a list. -/
theorem commaParts_eq_iff : commaParts text = items ↔ CommaList text items := by
  have hTrim : ∀ {pieces : List (List Char)},
      List.Forall₂ (fun piece item => TrimsTo (String.ofList piece) item) pieces items ↔
        pieces.map (fun piece => String.ofList (trimChars piece)) = items := by
    intro pieces
    rw [← List.forall₂_eq_eq_eq, List.forall₂_map_left_iff]
    simp only [← trim_eq_iff, trim, String.toList_ofList]
  simp only [commaParts, CommaList, hTrim]
  constructor
  · rintro rfl
    obtain ⟨hSome, hPlain, hText⟩ := splitWhere_eq_iff.mp (rfl : splitWhere (· == ',') text.toList = _)
    exact ⟨_, hSome, hPlain, hText, rfl⟩
  · rintro ⟨pieces, hSome, hPlain, hText, rfl⟩
    rw [splitWhere_eq_iff.mpr ⟨hSome, hPlain, hText⟩]

/-- Every text is a list, if only of one item. -/
theorem exists_commaList (text : String) : ∃ items, CommaList text items := ⟨_, commaParts_eq_iff.mp rfl⟩

theorem CommaList.unique {other : List String} (h : CommaList text items) (h' : CommaList text other) : items = other :=
  (commaParts_eq_iff.mpr h).symm.trans (commaParts_eq_iff.mpr h')

theorem CommaList.ne_nil (h : CommaList text items) : items ≠ [] := by
  obtain ⟨pieces, hSome, -, -, hTrims⟩ := h
  rintro rfl
  cases hTrims
  exact hSome rfl

/-- All items are blank exactly if the text has nothing but commas and space. -/
theorem CommaList.all_blank_iff (h : CommaList text items) :
    (∀ item ∈ items, item = "") ↔ ∀ c ∈ text.toList, c = ',' ∨ isSpace c = true := by
  have hItems := commaParts_eq_iff.mpr h
  obtain ⟨hSome, hPlain, hText⟩ := splitWhere_eq_iff.mp (rfl : splitWhere (· == ',') text.toList = _)
  have hBlank : ∀ piece : List Char, String.ofList (trimChars piece) = "" ↔ ∀ c ∈ piece, isSpace c = true := by
    intro piece
    rw [String.ofList_eq_empty_iff, trimChars_eq_nil_iff]
  rw [← hItems, commaParts, List.forall_mem_map]
  simp only [hBlank]
  constructor
  · intro hAll c hc
    rw [hText] at hc
    exact (mem_or_eq_of_mem_intercalate hc).imp id fun ⟨piece, hPiece, hc⟩ => hAll piece hPiece c hc
  · intro hAll piece hPiece c hc
    have hIn : c ∈ text.toList := hText ▸ mem_intercalate_of_mem hPiece hc
    refine (hAll c hIn).resolve_left ?_
    rintro rfl
    exact hPlain piece hPiece hc

end Lists

end ChatRelay.Text
