/-!
Finite sets of update ids, kept as strictly increasing lists. Two sets with the same members are equal,
so that what a run leaves behind can be compared by equality.
-/

namespace ChatRelay

structure IdSet where
  toList : List Int
  sorted : toList.Pairwise (· < ·)
deriving DecidableEq

namespace IdSet

instance : Membership Int IdSet := ⟨fun s id => id ∈ s.toList⟩

instance (id : Int) (s : IdSet) : Decidable (id ∈ s) := inferInstanceAs (Decidable (id ∈ s.toList))

theorem mem_def {id : Int} {s : IdSet} : id ∈ s ↔ id ∈ s.toList := Iff.rfl

def empty : IdSet := ⟨[], List.Pairwise.nil⟩

instance : EmptyCollection IdSet := ⟨empty⟩

@[simp] theorem not_mem_empty (id : Int) : ¬ id ∈ (∅ : IdSet) := List.not_mem_nil

/-- The ids of an increasing list and one more. -/
def insertList (id : Int) : List Int → List Int
  | [] => [id]
  | x :: xs => if id < x then id :: x :: xs else if id = x then x :: xs else x :: insertList id xs

theorem mem_insertList {a id : Int} {xs : List Int} : a ∈ insertList id xs ↔ a = id ∨ a ∈ xs := by
  induction xs with
  | nil => simp [insertList]
  | cons x xs ih =>
      rw [insertList]
      split
      · simp
      · split
        · rename_i hEq
          subst hEq
          simp
        · simp only [List.mem_cons, ih]
          constructor
          · rintro (h | h | h) <;> simp [h]
          · rintro (h | h | h) <;> simp [h]

theorem pairwise_insertList (id : Int) {xs : List Int} (h : xs.Pairwise (· < ·)) :
    (insertList id xs).Pairwise (· < ·) := by
  induction xs with
  | nil => simp [insertList]
  | cons x xs ih =>
      have hParts := List.pairwise_cons.mp h
      rw [insertList]
      split
      · rename_i hLt
        refine List.pairwise_cons.mpr ⟨?_, h⟩
        intro a ha
        rcases List.mem_cons.mp ha with rfl | ha
        · exact hLt
        · exact Int.lt_trans hLt (hParts.1 a ha)
      · split
        · exact h
        · rename_i hNotLt hNe
          refine List.pairwise_cons.mpr ⟨?_, ih hParts.2⟩
          intro a ha
          rcases mem_insertList.mp ha with rfl | ha
          · omega
          · exact hParts.1 a ha

def insert (id : Int) (s : IdSet) : IdSet := ⟨insertList id s.toList, pairwise_insertList id s.sorted⟩

def erase (id : Int) (s : IdSet) : IdSet :=
  ⟨s.toList.filter (· != id), s.sorted.filter _⟩

/-- The members from a floor on. -/
def dropBelow (floor : Int) (s : IdSet) : IdSet :=
  ⟨s.toList.filter (floor ≤ ·), s.sorted.filter _⟩

/-- The least member. -/
def min? (s : IdSet) : Option Int := s.toList.head?

/-- The greatest member. -/
def max? (s : IdSet) : Option Int := s.toList.getLast?

def size (s : IdSet) : Nat := s.toList.length

@[simp] theorem mem_insert {a id : Int} {s : IdSet} : a ∈ s.insert id ↔ a = id ∨ a ∈ s :=
  mem_insertList

@[simp] theorem mem_erase {a id : Int} {s : IdSet} : a ∈ s.erase id ↔ a ∈ s ∧ a ≠ id := by
  simp [mem_def, erase]

@[simp] theorem mem_dropBelow {a floor : Int} {s : IdSet} :
    a ∈ s.dropBelow floor ↔ a ∈ s ∧ floor ≤ a := by
  simp [mem_def, dropBelow]

theorem eq_of_pairwise {xs ys : List Int} (hx : xs.Pairwise (· < ·)) (hy : ys.Pairwise (· < ·))
    (h : ∀ a, a ∈ xs ↔ a ∈ ys) : xs = ys := by
  induction xs generalizing ys with
  | nil =>
      cases ys with
      | nil => rfl
      | cons y ys => exact absurd ((h y).mpr List.mem_cons_self) List.not_mem_nil
  | cons x xs ih =>
      cases ys with
      | nil => exact absurd ((h x).mp List.mem_cons_self) List.not_mem_nil
      | cons y ys =>
          have hx' := List.pairwise_cons.mp hx
          have hy' := List.pairwise_cons.mp hy
          have hEq : x = y := by
            rcases List.mem_cons.mp ((h x).mp List.mem_cons_self) with hxy | hxy
            · exact hxy
            · rcases List.mem_cons.mp ((h y).mpr List.mem_cons_self) with hyx | hyx
              · exact hyx.symm
              · have h1 := hy'.1 x hxy
                have h2 := hx'.1 y hyx
                omega
          subst hEq
          congr 1
          refine ih hx'.2 hy'.2 fun a => ?_
          constructor
          · intro ha
            rcases List.mem_cons.mp ((h a).mp (List.mem_cons_of_mem _ ha)) with rfl | ha'
            · exact absurd (hx'.1 _ ha) (Int.lt_irrefl _)
            · exact ha'
          · intro ha
            rcases List.mem_cons.mp ((h a).mpr (List.mem_cons_of_mem _ ha)) with rfl | ha'
            · exact absurd (hy'.1 _ ha) (Int.lt_irrefl _)
            · exact ha'

/-- A set is known by its members. -/
theorem ext {s t : IdSet} (h : ∀ a, a ∈ s ↔ a ∈ t) : s = t := by
  have hList := eq_of_pairwise s.sorted t.sorted h
  cases s
  cases t
  simp_all

theorem min?_eq_none_iff {s : IdSet} : s.min? = none ↔ s = ∅ := by
  constructor
  · intro h
    apply ext
    intro a
    have hNil : s.toList = [] := by simpa [min?] using h
    simp only [mem_def, hNil]
    exact Iff.rfl
  · rintro rfl
    rfl

theorem max?_eq_none_iff {s : IdSet} : s.max? = none ↔ s = ∅ := by
  constructor
  · intro h
    apply ext
    intro a
    have hNil : s.toList = [] := by simpa [max?] using h
    simp only [mem_def, hNil]
    exact Iff.rfl
  · rintro rfl
    rfl

theorem min?_eq_some_iff {s : IdSet} {id : Int} :
    s.min? = some id ↔ id ∈ s ∧ ∀ a ∈ s, id ≤ a := by
  constructor
  · intro h
    cases hList : s.toList with
    | nil => simp [min?, hList] at h
    | cons x xs =>
        have hx : x = id := by simpa [min?, hList] using h
        subst hx
        have hSorted := s.sorted
        rw [hList] at hSorted
        refine ⟨by simp [mem_def, hList], fun a ha => ?_⟩
        rw [mem_def, hList] at ha
        rcases List.mem_cons.mp ha with rfl | ha
        · exact Int.le_refl _
        · exact Int.le_of_lt ((List.pairwise_cons.mp hSorted).1 a ha)
  · rintro ⟨hMem, hLeast⟩
    cases hList : s.toList with
    | nil => simp [mem_def, hList] at hMem
    | cons x xs =>
        have hSorted := s.sorted
        rw [hList] at hSorted
        have hx : id ≤ x := hLeast x (by simp [mem_def, hList])
        rw [mem_def, hList] at hMem
        have hEq : x = id := by
          rcases List.mem_cons.mp hMem with rfl | hMem
          · rfl
          · have := (List.pairwise_cons.mp hSorted).1 id hMem
            omega
        simp [min?, hList, hEq]

theorem le_getLast_of_mem {xs : List Int} (h : xs.Pairwise (· < ·)) {a last : Int}
    (hLast : xs.getLast? = some last) (ha : a ∈ xs) : a ≤ last := by
  induction xs generalizing a with
  | nil => cases ha
  | cons x xs ih =>
      have hParts := List.pairwise_cons.mp h
      cases xs with
      | nil =>
          have hx : x = last := by simpa using hLast
          have hax : a = x := by simpa using ha
          omega
      | cons y ys =>
          have hTail : (y :: ys).getLast? = some last := by simpa using hLast
          rcases List.mem_cons.mp ha with rfl | ha
          · have hy := hParts.1 y List.mem_cons_self
            have hyl := ih hParts.2 hTail List.mem_cons_self
            omega
          · exact ih hParts.2 hTail ha

theorem max?_eq_some_iff {s : IdSet} {id : Int} :
    s.max? = some id ↔ id ∈ s ∧ ∀ a ∈ s, a ≤ id := by
  constructor
  · intro h
    exact ⟨List.mem_of_getLast? h, fun a ha => le_getLast_of_mem s.sorted h ha⟩
  · rintro ⟨hMem, hGreatest⟩
    cases hMax : s.max? with
    | none =>
        rw [max?_eq_none_iff] at hMax
        subst hMax
        exact absurd hMem (not_mem_empty id)
    | some last =>
        have h1 := hGreatest last (List.mem_of_getLast? hMax)
        have h2 := le_getLast_of_mem s.sorted hMax hMem
        congr 1
        omega

end IdSet

end ChatRelay
