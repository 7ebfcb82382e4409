import Mathlib

/-!
# Maps as lists of entries

A hash map is the list of its entries, no key twice and the newest entry first. Lookups by key are
`List.lookup`.
-/

namespace Entries

variable {κ α : Type} [DecidableEq κ]

/-- `HashMap::insert`. -/
def insertKey (map : List (κ × α)) (key : κ) (value : α) : List (κ × α) :=
  (key, value) :: map.filter fun entry => entry.1 ≠ key

/-- `HashMap::remove`. -/
def removeKey (map : List (κ × α)) (key : κ) : List (κ × α) :=
  map.filter fun entry => entry.1 ≠ key

/-! ## Other keys -/

/-- `HashMap::remove` leaves the other keys alone. -/
theorem filter_removeKey (map : List (κ × α)) {key other : κ} (h : other ≠ key) :
    (removeKey map key).filter (fun entry => entry.1 = other) =
      map.filter fun entry => entry.1 = other := by
  unfold removeKey
  rw [List.filter_filter]
  apply List.filter_congr
  intro entry _
  by_cases hentry : entry.1 = other
  · simp [hentry, h]
  · simp [hentry]

theorem filter_removeKey_self (map : List (κ × α)) (key : κ) :
    (removeKey map key).filter (fun entry => entry.1 = key) = [] := by
  unfold removeKey
  rw [List.filter_filter, List.filter_eq_nil_iff]
  intro entry _
  simp

/-- `HashMap::insert` does too. -/
theorem filter_insertKey (map : List (κ × α)) {key other : κ} (value : α) (h : other ≠ key) :
    (insertKey map key value).filter (fun entry => entry.1 = other) =
      map.filter fun entry => entry.1 = other := by
  unfold insertKey
  rw [List.filter_cons_of_neg (by simpa using h.symm)]
  exact filter_removeKey map h

theorem filter_insertKey_self (map : List (κ × α)) (key : κ) (value : α) :
    (insertKey map key value).filter (fun entry => entry.1 = key) = [(key, value)] := by
  unfold insertKey
  rw [List.filter_cons_of_pos (by simp)]
  exact congrArg _ (filter_removeKey_self map key)

theorem lookup_insertKey [BEq κ] [LawfulBEq κ] (map : List (κ × α)) (key other : κ) (value : α) :
    (insertKey map key value).lookup other =
      if other = key then some value else map.lookup other := by
  unfold insertKey
  by_cases h : other = key
  · rw [h, if_pos rfl, List.lookup_cons_self]
  · have hne : (other == key) = false := beq_eq_false_iff_ne.mpr h
    rw [if_neg h, List.lookup_cons, hne]
    change (map.filter _).lookup other = _
    induction map with
    | nil => rfl
    | cons entry rest ih =>
      by_cases hentry : entry.1 = key
      · have hother : (other == entry.1) = false := by
          rw [hentry]
          exact hne
        rw [List.filter_cons_of_neg (by simp [hentry]), ih, List.lookup_cons, hother]
      · rw [List.filter_cons_of_pos (by simp [hentry]), List.lookup_cons, List.lookup_cons, ih]

/-! ## Filling a map -/

/-- Insert entries one after the other. -/
def insertAll (map entries : List (κ × α)) : List (κ × α) :=
  entries.foldl (fun map entry => insertKey map entry.1 entry.2) map

/-- No key twice. -/
def IsMap (map : List (κ × α)) : Prop :=
  (map.map Prod.fst).Nodup

theorem isMap_insertKey {map : List (κ × α)} (h : IsMap map) (key : κ) (value : α) :
    IsMap (insertKey map key value) := by
  rw [IsMap, insertKey, List.map_cons, List.nodup_cons]
  constructor
  · intro hmem
    obtain ⟨entry, hentry, hkey⟩ := List.mem_map.mp hmem
    exact absurd hkey (of_decide_eq_true (List.mem_filter.mp hentry).2)
  · exact h.sublist (List.filter_sublist.map _)

/-- A map stays one, whatever is inserted. -/
theorem isMap_insertAll {map : List (κ × α)} (h : IsMap map) (entries : List (κ × α)) :
    IsMap (insertAll map entries) := by
  induction entries generalizing map with
  | nil => exact h
  | cons entry entries ih => exact ih (isMap_insertKey h _ _)

/-- Inserting the entries of a map one after the other gives the map, the last entry first. -/
theorem insertAll_eq_of_isMap {front entries : List (κ × α)}
    (h : IsMap (front.reverse ++ entries)) : insertAll front entries = entries.reverse ++ front := by
  induction entries generalizing front with
  | nil => rfl
  | cons entry entries ih =>
    have hfilter : front.filter (fun other => decide (other.1 ≠ entry.1)) = front := by
      rw [List.filter_eq_self]
      intro other hother
      rw [IsMap, List.map_append, List.map_reverse, List.map_cons] at h
      have hdisjoint := (List.nodup_append.mp h).2.2 other.1
        (List.mem_reverse.mpr (List.mem_map_of_mem hother)) entry.1 List.mem_cons_self
      exact decide_eq_true hdisjoint
    change insertAll (insertKey front entry.1 entry.2) entries = _
    rw [insertKey, hfilter, ih]
    · rw [List.reverse_cons, List.append_assoc, List.singleton_append]
    · rwa [List.reverse_cons, List.append_assoc, List.singleton_append]

/-- What has been inserted comes back exactly if no key was inserted twice. -/
theorem insertAll_eq_reverse_iff {entries : List (κ × α)} :
    insertAll [] entries = entries.reverse ↔ IsMap entries := by
  constructor
  · intro h
    have hempty : IsMap ([] : List (κ × α)) := List.nodup_nil
    have hmap := isMap_insertAll hempty entries
    rwa [h, IsMap, List.map_reverse, List.nodup_reverse] at hmap
  · intro h
    have hall : insertAll [] entries = entries.reverse ++ [] := insertAll_eq_of_isMap h
    rw [hall, List.append_nil]

end Entries
