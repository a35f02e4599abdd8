/-!
# Dictionaries

A dictionary maps texts to values and lists its entries by ascending key, so that two dictionaries
with the same lookups are the same dictionary. Keys are ordered by Unicode code points.
-/

namespace ClusterCache

/-- The keys of the entries ascend, so no key occurs twice. -/
def Ascending {α : Type} (entries : List (String × α)) : Prop :=
  entries.Pairwise fun left right => left.1 < right.1

/-- Puts an entry where its key belongs, in place of an entry with that key. -/
def insertAscending {α : Type} (key : String) (value : α) :
    List (String × α) → List (String × α)
  | [] => [(key, value)]
  | entry :: rest =>
      if key < entry.1 then (key, value) :: entry :: rest
      else if entry.1 < key then entry :: insertAscending key value rest
      else (key, value) :: rest

theorem mem_insertAscending {α : Type} {key : String} {value : α}
    {entries : List (String × α)} {entry : String × α}
    (member : entry ∈ insertAscending key value entries) :
    entry = (key, value) ∨ entry ∈ entries := by
  induction entries with
  | nil => simpa [insertAscending] using member
  | cons first rest inductionHypothesis =>
      simp only [insertAscending] at member
      split at member
      · simpa using member
      · split at member
        · rcases List.mem_cons.1 member with same | inRest
          · simp [same]
          · rcases inductionHypothesis inRest with same | inRest
            · exact Or.inl same
            · exact Or.inr (List.mem_cons_of_mem _ inRest)
        · rcases List.mem_cons.1 member with same | inRest
          · exact Or.inl same
          · exact Or.inr (List.mem_cons_of_mem _ inRest)

theorem Ascending.insertAscending {α : Type} {entries : List (String × α)}
    (ascending : Ascending entries) (key : String) (value : α) :
    Ascending (insertAscending key value entries) := by
  induction entries with
  | nil => simp [ClusterCache.insertAscending, Ascending]
  | cons first rest inductionHypothesis =>
      have headBelow := (List.pairwise_cons.1 ascending).1
      have restAscending : Ascending rest := (List.pairwise_cons.1 ascending).2
      simp only [ClusterCache.insertAscending]
      split
      · rename_i below
        refine List.pairwise_cons.2 ⟨?_, ascending⟩
        intro entry member
        rcases List.mem_cons.1 member with rfl | inRest
        · exact below
        · exact String.lt_trans below (headBelow entry inRest)
      · rename_i notBelow
        split
        · rename_i above
          refine List.pairwise_cons.2 ⟨?_, inductionHypothesis restAscending⟩
          intro entry member
          rcases mem_insertAscending member with rfl | inRest
          · exact above
          · exact headBelow entry inRest
        · rename_i notAbove
          have same : first.1 = key :=
            String.le_antisymm (String.not_lt.1 notBelow) (String.not_lt.1 notAbove)
          refine List.pairwise_cons.2 ⟨?_, restAscending⟩
          intro entry member
          simpa [same] using headBelow entry member

/-- A map from texts to values, its entries by ascending key. -/
structure Dictionary (α : Type) where
  entries : List (String × α)
  ascending : Ascending entries

namespace Dictionary

variable {α : Type}

instance [DecidableEq α] : DecidableEq (Dictionary α) := fun left right =>
  if equality : left.entries = right.entries then
    isTrue (by cases left; cases right; simp_all)
  else isFalse fun same => equality (congrArg entries same)

instance [Repr α] : Repr (Dictionary α) := ⟨fun dictionary => reprPrec dictionary.entries⟩

def empty : Dictionary α := ⟨[], List.Pairwise.nil⟩

instance : Inhabited (Dictionary α) := ⟨empty⟩

def isEmpty (dictionary : Dictionary α) : Bool := dictionary.entries.isEmpty

def get? (dictionary : Dictionary α) (key : String) : Option α :=
  (dictionary.entries.find? fun entry => entry.1 = key).map Prod.snd

def insert (dictionary : Dictionary α) (key : String) (value : α) : Dictionary α :=
  ⟨insertAscending key value dictionary.entries, dictionary.ascending.insertAscending key value⟩

def erase (dictionary : Dictionary α) (key : String) : Dictionary α :=
  ⟨dictionary.entries.filter fun entry => entry.1 ≠ key, dictionary.ascending.filter _⟩

/-- Adds the given entries; of two with one key the later stays. -/
def insertAll (dictionary : Dictionary α) (entries : List (String × α)) : Dictionary α :=
  entries.foldl (fun result entry => result.insert entry.1 entry.2) dictionary

def ofList (entries : List (String × α)) : Dictionary α := empty.insertAll entries

theorem ext_entries {left right : Dictionary α} (equality : left.entries = right.entries) :
    left = right := by
  cases left
  cases right
  simp_all

end Dictionary

end ClusterCache
