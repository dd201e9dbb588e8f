import ChatRelay.Handler.Echo
import ChatRelay.Proofs.Text.Pieces
import ChatRelay.Report
import Mathlib.Data.List.Chain

/-!
What compacting makes of a text. Readable texts are told from the outside, by the places where space may stand, and
they are the texts that compacting leaves as they are. A compacted text is one of them unless the cut comes right
behind the space after a word. That space stays at the end then, and a second compacting takes it away, so that a
report on a failed look-up differs from the record of it.
-/

namespace ChatRelay.Text

/-- Some characters, none of which is space. -/
def IsWord (cs : List Char) : Prop := cs ≠ [] ∧ ∀ c ∈ cs, isSpace c = false

/-- All space stands between words, as a single U+0020. -/
structure Spaced (cs : List Char) : Prop where
  tight : Tight cs
  plain : ∀ c ∈ cs, isSpace c = true → c = ' '
  single : cs.IsChain fun c d => isSpace c = false ∨ isSpace d = false

/-- A text that stays one readable line of limited length. -/
structure Readable (s : String) : Prop where
  short : s.toList.length ≤ maxErrorChars
  spaced : Spaced s.toList

/-- The words of a text with one space between them. -/
def joined (cs : List Char) : List Char := [' '].intercalate (words cs)

/-- The first words of a text, with one space between them, take all but one of the characters that are kept, and more
words follow. The last character that is kept is the space behind them then. -/
def CutBehindSpace (s : String) : Prop :=
  ∃ front back, words s.toList = front ++ back ∧ back ≠ [] ∧ ([' '].intercalate front).length + 1 = maxErrorChars

section Words

variable {c : Char} {cs word front back : List Char} {ws : List (List Char)}

theorem isWord_of_mem_words (h : word ∈ words cs) : IsWord word := by
  obtain ⟨hPiece, hSome⟩ := List.mem_filter.mp h
  exact ⟨by simpa using hSome, not_sep_of_mem_splitWhere hPiece⟩

theorem IsWord.words_eq (h : IsWord word) : words word = [word] := by
  rw [words, splitWhere_of_forall h.2]
  simp [h.1]

/-- No word goes on behind a space. -/
theorem words_append_cons (h : isSpace c = true) : words (front ++ c :: back) = words front ++ words back := by
  rw [words, splitWhere_append_cons h, List.filter_append]
  rfl

/-- Words that are joined by spaces are cut into the same words again. -/
theorem words_intercalate (h : ∀ word ∈ ws, IsWord word) : words ([' '].intercalate ws) = ws := by
  induction ws with
  | nil => rfl
  | cons word rest ih =>
      obtain ⟨hWord, hRest⟩ := List.forall_mem_cons.mp h
      cases rest with
      | nil => rw [List.intercalate_singleton, hWord.words_eq]
      | cons next rest =>
          rw [List.intercalate_cons_cons, List.append_assoc, List.singleton_append, words_append_cons rfl,
            hWord.words_eq, ih hRest, List.singleton_append]

theorem words_joined (cs : List Char) : words (joined cs) = words cs :=
  words_intercalate fun _ => isWord_of_mem_words

end Words

section Spacing

variable {c : Char} {cs word front back : List Char} {ws : List (List Char)}

theorem spaced_nil : Spaced [] where
  tight := ⟨fun _ _ h => by simp at h, fun _ _ h => by simp at h⟩
  plain := by simp
  single := .nil

theorem IsWord.spaced (h : IsWord word) : Spaced word where
  tight := ⟨fun c _ hParts => h.2 c (by simp [hParts]), fun _ c hParts => h.2 c (by simp [hParts])⟩
  plain c hc hSpace := by simp [h.2 c hc] at hSpace
  single := (List.pairwise_of_forall_mem_list fun c hc _ _ => .inl (h.2 c hc)).isChain

/-- A spaced text can be cut behind a character that is no space. -/
theorem Spaced.of_append_left (h : Spaced (front ++ back))
    (hLast : ∀ rest c, front = rest ++ [c] → isSpace c = false) : Spaced front where
  tight := ⟨fun c rest hParts => h.tight.first c (rest ++ back) (by rw [hParts, List.cons_append]), hLast⟩
  plain c hc := h.plain c (List.mem_append_left _ hc)
  single := (List.isChain_append.mp h.single).1

/-- A spaced text can be cut before a character that is no space. -/
theorem Spaced.of_append_right (h : Spaced (front ++ back))
    (hFirst : ∀ c rest, back = c :: rest → isSpace c = false) : Spaced back where
  tight := ⟨hFirst, fun rest c hParts => h.tight.last (front ++ rest) c (by rw [hParts, List.append_assoc])⟩
  plain c hc := h.plain c (List.mem_append_right _ hc)
  single := (List.isChain_append.mp h.single).2.1

/-- Each space parts such a text into two of the same kind, and none of them is empty. -/
theorem Spaced.parted (h : Spaced (front ++ c :: back)) (hSpace : isSpace c = true) :
    c = ' ' ∧ (Spaced front ∧ front ≠ []) ∧ Spaced back ∧ back ≠ [] := by
  obtain ⟨-, hBehind, hAround⟩ := List.isChain_append.mp h.single
  have hLast : ∀ rest d, front = rest ++ [d] → isSpace d = false := by
    rintro rest d rfl
    simpa [hSpace] using hAround d (by simp) c (by simp)
  have hFirst : ∀ d rest, back = d :: rest → isSpace d = false := by
    rintro d rest rfl
    simpa [hSpace] using (List.isChain_cons_cons.mp hBehind).1
  have hWhole : Spaced ((front ++ [c]) ++ back) := by simpa using h
  refine ⟨h.plain c (by simp) hSpace, ⟨h.of_append_left hLast, ?_⟩, hWhole.of_append_right hFirst, ?_⟩
  · rintro rfl
    simpa [hSpace] using h.tight.first c back rfl
  · rintro rfl
    simpa [hSpace] using h.tight.last front c rfl

/-- Two spaced texts with a space between them are spaced. -/
theorem Spaced.append_space (hFront : Spaced front) (hSome : front ≠ []) (hBack : Spaced back) (hMore : back ≠ []) :
    Spaced (front ++ ' ' :: back) where
  tight := by
    obtain ⟨first, rest, rfl⟩ := List.exists_cons_of_ne_nil hSome
    obtain ⟨middle, last, rfl⟩ : ∃ middle last, back = middle ++ [last] :=
      ⟨_, _, (List.dropLast_append_getLast hMore).symm⟩
    simpa using tight_enclosed (rest ++ ' ' :: middle) (hFront.tight.first first rest rfl)
      (hBack.tight.last middle last rfl)
  plain c hc hSpace := by
    rcases List.mem_append.mp hc with hc | hc
    · exact hFront.plain c hc hSpace
    · exact (List.mem_cons.mp hc).elim id fun hc => hBack.plain c hc hSpace
  single := by
    obtain ⟨next, later, rfl⟩ := List.exists_cons_of_ne_nil hMore
    have hNext : isSpace next = false := hBack.tight.first next later rfl
    refine List.isChain_append.mpr ⟨hFront.single, List.isChain_cons_cons.mpr ⟨.inr hNext, hBack.single⟩, ?_⟩
    intro c hc _ _
    obtain ⟨before, hBefore⟩ := List.getLast?_eq_some_iff.mp hc
    exact .inl (hFront.tight.last before c hBefore)

/-- Words that are joined by spaces are spaced, by induction on the words. -/
theorem spaced_intercalate (h : ∀ word ∈ ws, IsWord word) : Spaced ([' '].intercalate ws) := by
  induction ws with
  | nil => exact spaced_nil
  | cons word rest ih =>
      obtain ⟨hWord, hRest⟩ := List.forall_mem_cons.mp h
      cases rest with
      | nil => simpa using hWord.spaced
      | cons next rest =>
          rw [List.intercalate_cons_cons, List.append_assoc, List.singleton_append]
          refine hWord.spaced.append_space hWord.1 (ih hRest) fun hNone => ?_
          have hWords := words_intercalate hRest
          rw [hNone] at hWords
          cases hWords

theorem spaced_joined (cs : List Char) : Spaced (joined cs) := spaced_intercalate fun _ => isWord_of_mem_words

/-- At each of its spaces a joined text falls into two spaced ones. -/
theorem parted_joined (h : joined cs = front ++ ' ' :: back) : (Spaced front ∧ front ≠ []) ∧ Spaced back ∧ back ≠ [] :=
  ((h ▸ spaced_joined cs).parted rfl).2

theorem words_ne_nil_of_joined (h : joined cs = cs) (hSome : cs ≠ []) : words cs ≠ [] := by
  intro hNone
  rw [joined, hNone] at h
  exact hSome h.symm

theorem joined_append_cons (hSpace : isSpace c = true) (hFront : words front ≠ []) (hBack : words back ≠ []) :
    joined (front ++ c :: back) = joined front ++ ' ' :: joined back := by
  rw [joined, words_append_cons hSpace, intercalate_append hFront hBack, joined, joined]

/-- Joining the words of such a text gives it back. -/
theorem Spaced.joined_eq (h : Spaced cs) : joined cs = cs := by
  induction hLength : cs.length using Nat.strongRecOn generalizing cs with
  | ind n ih =>
      by_cases hNone : ∀ c ∈ cs, isSpace c = false
      · by_cases hSome : cs = []
        · rw [hSome]
          rfl
        · have hWord : IsWord cs := ⟨hSome, hNone⟩
          rw [joined, hWord.words_eq, List.intercalate_singleton]
      · -- a space parts the text into two shorter ones
        obtain ⟨c, hMem, hSpace⟩ : ∃ c ∈ cs, isSpace c = true := by simpa using hNone
        obtain ⟨front, back, rfl⟩ := List.append_of_mem hMem
        obtain ⟨rfl, ⟨hFront, hSome⟩, hBack, hMore⟩ := h.parted hSpace
        rw [List.length_append, List.length_cons] at hLength
        have hFirst : joined front = front := ih front.length (by omega) hFront rfl
        have hSecond : joined back = back := ih back.length (by omega) hBack rfl
        rw [joined_append_cons hSpace (words_ne_nil_of_joined hFirst hSome) (words_ne_nil_of_joined hSecond hMore),
          hFirst, hSecond]

/-- A cut leaves such a text, or it comes right behind a space. -/
theorem Spaced.take (h : Spaced cs) (n : Nat) :
    Spaced (cs.take n) ∨ ∃ front back, cs = front ++ ' ' :: back ∧ front.length + 1 = n := by
  rcases List.eq_nil_or_concat (cs.take n) with hNone | ⟨front, c, hTake⟩
  · rw [hNone]
    exact .inl spaced_nil
  · rw [List.concat_eq_append] at hTake
    have hParts : cs = front ++ c :: cs.drop n := by
      rw [← List.singleton_append, ← List.append_assoc, ← hTake, List.take_append_drop]
    cases hSpace : isSpace c with
    | false =>
        rw [← List.take_append_drop n cs] at h
        refine .inl (h.of_append_left fun rest d hLast => ?_)
        exact List.singleton_inj.mp (List.append_inj_right' (hTake.symm.trans hLast) rfl) ▸ hSpace
    | true =>
        rw [hParts] at h
        obtain ⟨rfl, -, -, hMore⟩ := h.parted hSpace
        refine .inr ⟨front, cs.drop n, hParts, ?_⟩
        -- something is left behind the cut, so that it kept as much as it may
        have hLess : n < cs.length := by simpa using hMore
        have hLength := congrArg List.length hTake
        rw [List.length_take, List.length_append, List.length_singleton] at hLength
        omega

end Spacing

section Compacting

variable {s : String}

theorem toList_compact (s : String) : (compact s).toList = (joined s.toList).take maxErrorChars := by
  simp [compact, truncate, joined]

/-- The cut falls behind a space exactly if the joined text has one in the last place that is kept. -/
theorem cutBehindSpace_iff : CutBehindSpace s ↔
    ∃ front back, joined s.toList = front ++ ' ' :: back ∧ front.length + 1 = maxErrorChars := by
  constructor
  · rintro ⟨front, back, hWords, hMore, hLength⟩
    have hSome : front ≠ [] := by
      rintro rfl
      cases hLength
    exact ⟨_, _, by rw [joined, hWords, intercalate_append hSome hMore], hLength⟩
  · rintro ⟨front, back, hJoined, hLength⟩
    obtain ⟨⟨hFront, -⟩, hBack, hMore⟩ := parted_joined hJoined
    refine ⟨words front, words back, ?_, words_ne_nil_of_joined hBack.joined_eq hMore, ?_⟩
    · rw [← words_joined s.toList, hJoined, words_append_cons rfl]
    · rw [← hLength]
      exact congrArg (List.length · + 1) hFront.joined_eq

theorem Readable.compact_eq (h : Readable s) : compact s = s := by
  rw [← String.toList_inj, toList_compact, h.spaced.joined_eq, List.take_of_length_le h.short]

/-- Compacting gives a readable line, unless the cut falls behind a space. -/
theorem readable_compact (h : ¬ CutBehindSpace s) : Readable (compact s) where
  short := length_toList_compact_le s
  spaced := by
    rw [toList_compact]
    exact ((spaced_joined s.toList).take maxErrorChars).resolve_right fun hCut => h (cutBehindSpace_iff.mpr hCut)

/-- The space at the end stays, and a second compacting takes it away. -/
theorem toList_compact_of_cut {front back : List Char} (hJoined : joined s.toList = front ++ ' ' :: back)
    (hLength : front.length + 1 = maxErrorChars) :
    (compact s).toList = front ++ [' '] ∧ (compact (compact s)).toList = front := by
  have hFront : Spaced front := (parted_joined hJoined).1.1
  have hOnce : (compact s).toList = front ++ [' '] := by
    rw [toList_compact, hJoined, ← hLength, List.take_length_add_append, List.take_succ_cons, List.take_zero]
  have hWords : words (front ++ [' ']) = words front := by
    rw [words_append_cons rfl]
    exact List.append_nil _
  have hShort : front.length ≤ maxErrorChars := by omega
  refine ⟨hOnce, ?_⟩
  rw [toList_compact, hOnce, joined, hWords, ← joined, hFront.joined_eq, List.take_of_length_le hShort]

/-- When the cut falls behind a space, the result is a readable line with a space at its end, and compacting takes it
off. -/
theorem CutBehindSpace.exists_readable (h : CutBehindSpace s) :
    ∃ line, Readable line ∧ line.toList.length + 1 = maxErrorChars ∧ compact s = line ++ " " ∧
      compact (compact s) = line := by
  obtain ⟨front, back, hJoined, hLength⟩ := cutBehindSpace_iff.mp h
  obtain ⟨hOnce, hTwice⟩ := toList_compact_of_cut hJoined hLength
  have hFront : Spaced front := (parted_joined hJoined).1.1
  refine ⟨compact (compact s), ⟨length_toList_compact_le _, hTwice ▸ hFront⟩, ?_, ?_, rfl⟩
  · rw [hTwice]
    exact hLength
  · rw [← String.toList_inj, String.toList_append, hTwice, hOnce]
    rfl

/-- A space at the end makes the difference between compacting once and twice. -/
theorem compact_compact_ne {line : String} (hOnce : compact s = line ++ " ") (hTwice : compact (compact s) = line) :
    compact (compact s) ≠ compact s := by
  rw [hTwice, hOnce]
  intro hSame
  simpa using congrArg String.length hSame

/-- Compacting twice is compacting once exactly if the cut does not fall behind a space. -/
theorem compact_compact_iff : compact (compact s) = compact s ↔ ¬ CutBehindSpace s := by
  constructor
  · intro hSame hCut
    obtain ⟨line, -, -, hOnce, hTwice⟩ := hCut.exists_readable
    exact compact_compact_ne hOnce hTwice hSame
  · exact fun hNot => (readable_compact hNot).compact_eq

/-- The result is readable under the same condition. -/
theorem readable_compact_iff : Readable (compact s) ↔ ¬ CutBehindSpace s :=
  ⟨fun h => compact_compact_iff.mp h.compact_eq, readable_compact⟩

/-- Exactly the readable texts stay as they are. -/
theorem compact_eq_self_iff : compact s = s ↔ Readable s := by
  constructor
  · intro hSame
    have hTwice : compact (compact s) = compact s := congrArg compact hSame
    rw [← hSame]
    exact readable_compact_iff.mpr (compact_compact_iff.mp hTwice)
  · exact Readable.compact_eq

/-- Compacting twice always gives a readable line. -/
theorem readable_compact_compact (s : String) : Readable (compact (compact s)) := by
  by_cases hCut : CutBehindSpace s
  · obtain ⟨line, hLine, -, -, hTwice⟩ := hCut.exists_readable
    exact hTwice ▸ hLine
  · have hLine := readable_compact hCut
    exact hLine.compact_eq.symm ▸ hLine

end Compacting

/-- **Readable errors.** A compacted text has at most as many characters as are kept, and exactly the readable texts
stay as they are. A compacted text is readable, and settled, unless the cut came right behind a space. Then it is a
readable text with one space more, which a second compacting takes away. This is also when the report of a cycle gives
another text for a failed look-up than the record of it. -/
theorem settled_unless_cut_behind_space (s : String) :
    (compact s).toList.length ≤ maxErrorChars ∧ (compact s = s ↔ Readable s) ∧
      (Readable (compact s) ↔ ¬ CutBehindSpace s) ∧ (compact (compact s) = compact s ↔ ¬ CutBehindSpace s) ∧
      (CutBehindSpace s ↔ ∃ line, Readable line ∧ line.toList.length + 1 = maxErrorChars ∧ compact s = line ++ " " ∧
        compact (compact s) = line) ∧
      Readable (compact (compact s)) ∧
      ∀ inbound e, (Echo.lookupNote inbound e).toError.message = (Echo.lookupNote inbound e).message ↔
        ¬ CutBehindSpace ("memory lookup failed: " ++ e.message) := by
  refine ⟨length_toList_compact_le s, compact_eq_self_iff, readable_compact_iff, compact_compact_iff,
    ⟨CutBehindSpace.exists_readable, ?_⟩, readable_compact_compact s, fun inbound e => compact_compact_iff⟩
  rintro ⟨line, -, -, hOnce, hTwice⟩
  exact Classical.not_not.mp fun hNot => compact_compact_ne hOnce hTwice (compact_compact_iff.mpr hNot)

/-- A word that repeats one letter. -/
def letters (n : Nat) : List Char := List.replicate n 'a'

theorem isWord_letters {n : Nat} (h : n ≠ 0) : IsWord (letters n) := by
  refine ⟨by simpa [letters] using h, fun c hc => ?_⟩
  rw [List.eq_of_mem_replicate hc]
  rfl

/-- The space behind a word that takes all but one of the characters is left at the end. -/
theorem space_left_behind_letters :
    compact (String.ofList (letters 499 ++ [' ', 'b'])) = String.ofList (letters 499 ++ [' ']) ∧
      ¬ Readable (compact (String.ofList (letters 499 ++ [' ', 'b']))) ∧
      compact (compact (String.ofList (letters 499 ++ [' ', 'b']))) ≠
        compact (String.ofList (letters 499 ++ [' ', 'b'])) := by
  have hLong : IsWord (letters 499) := isWord_letters (by omega)
  have hNext : IsWord ['b'] := ⟨List.cons_ne_nil _ _, List.forall_mem_singleton.mpr rfl⟩
  have hSpaced : Spaced (letters 499 ++ [' ', 'b']) :=
    hLong.spaced.append_space hLong.1 hNext.spaced hNext.1
  have hJoined : joined (String.ofList (letters 499 ++ [' ', 'b'])).toList = letters 499 ++ [' ', 'b'] := by
    rw [String.toList_ofList]
    exact hSpaced.joined_eq
  have hLength : (letters 499).length + 1 = maxErrorChars := by
    rw [letters, List.length_replicate]
    rfl
  have hCut : CutBehindSpace (String.ofList (letters 499 ++ [' ', 'b'])) :=
    cutBehindSpace_iff.mpr ⟨_, _, hJoined, hLength⟩
  refine ⟨?_, fun hLine => readable_compact_iff.mp hLine hCut, fun hSame => compact_compact_iff.mp hSame hCut⟩
  rw [← String.toList_inj, (toList_compact_of_cut hJoined hLength).1, String.toList_ofList]

end ChatRelay.Text
