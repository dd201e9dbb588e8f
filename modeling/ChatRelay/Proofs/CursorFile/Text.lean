import ChatRelay.Proofs.Json.Reader
import ChatRelay.Proofs.UpdateId

/-!
The text of a cursor file. It reads back to the floor that it was written for, and no text is read as a floor
out of range.
-/

namespace ChatRelay

namespace CursorFile

/-- The text of a floor, character by character. -/
theorem toList_encode (n : Nat) : (encode n).toList =
    '\x7b' :: '"' :: ("version".toList ++ '"' :: ':' :: (Nat.toDigits 10 1 ++ ',' ::
      '"' :: ("committed_floor".toList ++ '"' :: ':' :: (Nat.toDigits 10 n ++ ['\x7d'])))) := by
  have hText : encode n = "\x7b" ++ (Json.quote "version" ++ ":" ++ toString (1 : Int) ++ "," ++
      (Json.quote "committed_floor" ++ ":" ++ toString (n : Int))) ++ "\x7d" := rfl
  have hVersion : (Json.quote "version").toList = '"' :: ("version".toList ++ ['"']) := by decide
  have hFloor : (Json.quote "committed_floor").toList = '"' :: ("committed_floor".toList ++ ['"']) := by decide
  have hOne : (toString (1 : Int)).toList = Nat.toDigits 10 1 := Text.toList_toString_ofNat 1
  rw [hText]
  simp only [String.toList_append, hVersion, hFloor, hOne, Text.toList_toString_ofNat]
  simp

open Json.Reader in
/-- The value that the text of a cursor file writes. -/
theorem parse?_encode {n : Nat} (h : n ≤ Text.maxUnsigned) :
    Json.parse? (encode n) = some (.object [("committed_floor", .int n), ("version", .nat version)]) := by
  have hFloorKey : ∀ c ∈ "committed_floor".toList, IsPlain c := by simp [IsPlain]
  have hFloor := member_of_value hFloorKey (@value_toDigits 126 n h '\x7d' (by decide) [])
  have hVersionKey : ∀ c ∈ "version".toList, IsPlain c := by simp [IsPlain]
  have hVersion := fun rest => member_of_value hVersionKey (@value_toDigits 126 1 (by decide) ',' (by decide) rest)
  have hFields : ∀ v w : Json.Value, Json.Fields.ofList [("version", v), ("committed_floor", w)] =
      [("committed_floor", w), ("version", v)] := by
    intro v w
    simp [Json.Fields.ofList, Json.Fields.insert, (by decide : "committed_floor" < "version")]
  rw [String.ofList_toList] at hFloor
  have hRead := value_of_members (hVersion _) hFloor
  rw [String.ofList_toList, hFields] at hRead
  rw [Json.parse?, toList_encode, show Json.maxNesting = 126 + 1 from rfl, hRead]
  rfl

/-- A floor is read back from the text that is written for it. -/
theorem decode_encode {floor : Int} (h : Cursor.InRange floor) : decode (encode floor) = .ok (some floor) := by
  obtain ⟨n, rfl⟩ := Int.eq_ofNat_of_zero_le h.1
  have hHigh : (n : Int) ≤ Text.maxSigned := h.2
  have hMax : n ≤ Text.maxUnsigned := by
    simp only [Text.maxSigned] at hHigh
    simp only [Text.maxUnsigned]
    omega
  have hFits : Text.fitsSigned n = true :=
    Text.fitsSigned_of_bounds (by simp only [Text.minSigned]; omega) hHigh
  have hLow : ¬ (n : Int) < 0 := by omega
  simp [decode, parse?_encode hMax, Json.Value.object?, Json.Fields.get?, Json.Value.int,
    Json.Value.lenientSigned?, Json.Value.signed?, hFits, hLow]

/-- A floor that is decoded was written as a number, and is not negative. -/
theorem exists_number_of_decode {text : String} {floor : Int} (h : decode text = .ok (some floor)) :
    ∃ raw : Json.Value, raw.lenientSigned? = some floor ∧ 0 ≤ floor := by
  simp only [decode] at h
  split at h
  · cases h
  · split at h
    · cases h
    · split at h
      · cases h
      · cases h
      · rename_i raw _ _
        split at h
        · cases h
        · rename_i n hNumber
          split at h
          · cases h
          · obtain rfl : n = floor := by simpa using h
            exact ⟨raw, hNumber, by omega⟩

/-- Every floor that is read from a file is in range. -/
theorem inRange_of_decode {text : String} {floor : Int} (h : decode text = .ok (some floor)) :
    Cursor.InRange floor := by
  obtain ⟨raw, hNumber, hLow⟩ := exists_number_of_decode h
  exact ⟨hLow, (Json.Value.fitsSigned_of_lenientSigned? hNumber).2⟩

end CursorFile

end ChatRelay
