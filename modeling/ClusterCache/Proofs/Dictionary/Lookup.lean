import ClusterCache.Dictionary

/-!
# Looking up entries of dictionaries

What is stored under a key is what was last inserted under it. A dictionary is built again from its
own entries.
-/

namespace ClusterCache

variable {α : Type}

theorem find?_insertAscending (key other : String) (value : α) (entries : List (String × α)) :
    (insertAscending key value entries).find? (fun entry => entry.1 = other) =
      if other = key then some (key, value) else entries.find? fun entry => entry.1 = other := by
  induction entries with
  | nil =>
      by_cases same : other = key
      · simp [insertAscending, same]
      · simp [insertAscending, same, Ne.symm same]
  | cons first rest inductionHypothesis =>
      simp only [insertAscending]
      split
      · by_cases same : other = key
        · simp [same]
        · simp [same, Ne.symm same]
      · rename_i notBelow
        split
        · rename_i below
          have different : first.1 ≠ key := String.ne_of_lt below
          rw [List.find?_cons, List.find?_cons, inductionHypothesis]
          by_cases same : other = key
          · simp [same, different]
          · simp [same]
        · rename_i notAbove
          have isKey : first.1 = key :=
            String.le_antisymm (String.not_lt.1 notBelow) (String.not_lt.1 notAbove)
          by_cases same : other = key
          · simp [same]
          · simp [same, isKey, Ne.symm same]

theorem insertAscending_of_forall_lt {key : String} {entries : List (String × α)}
    (below : ∀ entry ∈ entries, entry.1 < key) (value : α) :
    insertAscending key value entries = entries ++ [(key, value)] := by
  induction entries with
  | nil => rfl
  | cons first rest inductionHypothesis =>
      have firstBelow : first.1 < key := below first List.mem_cons_self
      have notAbove : ¬ key < first.1 := String.lt_asymm firstBelow
      have restBelow : ∀ entry ∈ rest, entry.1 < key := fun entry member =>
        below entry (List.mem_cons_of_mem _ member)
      rw [insertAscending, if_neg notAbove, if_pos firstBelow, inductionHypothesis restBelow,
        List.cons_append]

namespace Dictionary

theorem get?_insert (dictionary : Dictionary α) (key other : String) (value : α) :
    (dictionary.insert key value).get? other =
      if other = key then some value else dictionary.get? other := by
  rw [get?, insert, find?_insertAscending]
  split <;> rfl

theorem entries_insertAll {dictionary : Dictionary α} {entries : List (String × α)}
    (ascending : Ascending (dictionary.entries ++ entries)) :
    (dictionary.insertAll entries).entries = dictionary.entries ++ entries := by
  induction entries generalizing dictionary with
  | nil => simp [insertAll]
  | cons entry rest inductionHypothesis =>
      have below : ∀ earlier ∈ dictionary.entries, earlier.1 < entry.1 := fun earlier member =>
        (List.pairwise_append.1 ascending).2.2 earlier member entry List.mem_cons_self
      have inserted : (dictionary.insert entry.1 entry.2).entries =
          dictionary.entries ++ [entry] :=
        insertAscending_of_forall_lt below entry.2
      have stillAscending : Ascending ((dictionary.insert entry.1 entry.2).entries ++ rest) := by
        rw [inserted, List.append_assoc]
        exact ascending
      have step := inductionHypothesis stillAscending
      rw [inserted, List.append_assoc] at step
      exact step

/-- A dictionary is the one that its entries make. -/
@[simp] theorem ofList_entries (dictionary : Dictionary α) :
    ofList dictionary.entries = dictionary :=
  ext_entries (entries_insertAll dictionary.ascending)

end Dictionary

end ClusterCache
