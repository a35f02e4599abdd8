import ClusterCache.Proofs.Table.Keys
import ClusterCache.Replica
import Mathlib.Data.List.DropRight
import Mathlib.Logic.Function.Basic

/-!
# What a stream says about the objects

The contents that a stream of items describes can be read off the items alone: the last full list
that was completed, and the single changes after it. Main statement: a replica that has taken the
items in holds exactly these contents.
-/

namespace ClusterCache

/-! ## Kinds of items -/

namespace StreamItem

def startsList : StreamItem → Bool
  | .event .init => true
  | _ => false

def endsList : StreamItem → Bool
  | .event .initDone => true
  | _ => false

/-- The item starts or completes a full list. -/
def bordersList (item : StreamItem) : Bool := item.startsList || item.endsList

/-- The object that the item adds to a full list. -/
def listed? : StreamItem → Option Object
  | .event (.initApply object) => some object
  | _ => none

/-- The object that the item brings, in a full list or alone. -/
def carried? : StreamItem → Option Object
  | .event (.initApply object) | .event (.apply object) => some object
  | _ => none

theorem carried?_of_listed? {item : StreamItem} {object : Object}
    (listed : item.listed? = some object) : item.carried? = some object := by
  cases item with
  | failure => cases listed
  | event event => cases event <;> first | exact listed | cases listed

/-- The item says that one object was added, replaced or removed. -/
def isChange : StreamItem → Bool
  | .event (.apply _) | .event (.delete _) => true
  | _ => false

/-- A single change is no part of a full list. -/
theorem not_bordersList_and_listed?_of_isChange {item : StreamItem} (change : item.isChange) :
    item.bordersList = false ∧ item.listed? = none := by
  cases item with
  | failure => cases change
  | event event => cases event <;> first | exact ⟨rfl, rfl⟩ | cases change

end StreamItem

/-! ## Contents -/

/-- The object under each identity, if there is one. -/
abbrev Contents := ObjectId → Option Object

namespace Contents

def nothing : Contents := fun _ => none

/-- Puts an object under its identity. -/
def put (contents : Contents) (object : Object) : Contents :=
  Function.update contents object.id (some object)

/-- Takes away what is under the identity of an object. -/
def remove (contents : Contents) (object : Object) : Contents :=
  Function.update contents object.id none

/-- Follows a single change; other items say nothing about single objects. -/
def follow (contents : Contents) : StreamItem → Contents
  | .event (.apply object) => contents.put object
  | .event (.delete object) => contents.remove object
  | _ => contents

/-- The objects that were listed since a full list last started or ended, the later one counting
under each identity. -/
def arriving (items : List StreamItem) : Contents :=
  ((items.rtakeWhile fun item => !item.bordersList).filterMap
    StreamItem.listed?).foldl put nothing

/-- The items before the last one that completes a full list. -/
def beforeLastEnd (items : List StreamItem) : List StreamItem :=
  (items.rdropWhile fun item => !item.endsList).dropLast

/-- The contents of the last full list that was completed. -/
def lastList (items : List StreamItem) : Contents :=
  if items.any StreamItem.endsList then arriving (beforeLastEnd items) else nothing

/-- The contents that a sequence of items describes. -/
def described (items : List StreamItem) : Contents :=
  (items.rtakeWhile fun item => !item.endsList).foldl follow (lastList items)

theorem follow_of_not_isChange (contents : Contents) {item : StreamItem}
    (other : item.isChange = false) : contents.follow item = contents := by
  cases item with
  | failure => rfl
  | event event => cases event <;> first | rfl | cases other

/-! ## One item more -/

theorem arriving_concat (items : List StreamItem) (item : StreamItem) :
    arriving (items ++ [item]) =
      if item.bordersList then nothing
      else item.listed?.elim (arriving items) (arriving items).put := by
  by_cases borders : item.bordersList = true
  · simp [arriving, borders]
  · cases listed : item.listed? with
    | none => simp [arriving, borders, listed]
    | some object => simp [arriving, borders, listed]

theorem lastList_concat (items : List StreamItem) (item : StreamItem) :
    lastList (items ++ [item]) =
      if item.endsList then arriving items else lastList items := by
  by_cases ends : item.endsList = true
  · simp [lastList, beforeLastEnd, ends]
  · simp [lastList, beforeLastEnd, ends]

theorem described_concat (items : List StreamItem) (item : StreamItem) :
    described (items ++ [item]) =
      if item.endsList then arriving items else (described items).follow item := by
  by_cases ends : item.endsList = true
  · simp [described, lastList_concat, ends]
  · simp [described, lastList_concat, ends]

/-! ## What leaves no trace -/

/-- What follows is described alike after two sequences that agree so far. -/
theorem described_append_congr {first second : List StreamItem}
    (sameArriving : arriving first = arriving second)
    (sameDescribed : described first = described second) (rest : List StreamItem) :
    arriving (first ++ rest) = arriving (second ++ rest) ∧
      described (first ++ rest) = described (second ++ rest) := by
  induction rest using List.reverseRecOn with
  | nil => simpa using ⟨sameArriving, sameDescribed⟩
  | append_singleton rest item inductionHypothesis =>
      obtain ⟨restArriving, restDescribed⟩ := inductionHypothesis
      rw [← List.append_assoc, ← List.append_assoc]
      constructor
      · rw [arriving_concat, arriving_concat, restArriving]
      · rw [described_concat, described_concat, restArriving, restDescribed]

/-- A failure of the stream says nothing, wherever it stands. -/
theorem described_failure (before after : List StreamItem) :
    described (before ++ .failure :: after) = described (before ++ after) := by
  have sameArriving : arriving (before ++ [.failure]) = arriving before := by
    rw [arriving_concat]
    rfl
  have sameDescribed : described (before ++ [.failure]) = described before := by
    rw [described_concat]
    rfl
  have same := (described_append_congr sameArriving sameDescribed after).2
  simpa using same

/-- Single changes are no part of a full list that is arriving. -/
theorem arriving_append_filter (before between : List StreamItem) :
    arriving (before ++ between.filter fun item => !item.isChange) =
      arriving (before ++ between) := by
  induction between using List.reverseRecOn with
  | nil => rfl
  | append_singleton between item inductionHypothesis =>
      by_cases change : item.isChange = true
      · obtain ⟨inside, unlisted⟩ := StreamItem.not_bordersList_and_listed?_of_isChange change
        rw [← List.append_assoc, arriving_concat, ← inductionHypothesis]
        simp [change, inside, unlisted]
      · rw [← List.append_assoc, arriving_concat, ← inductionHypothesis, ← arriving_concat]
        simp [change]

/-- Single changes that come before a full list is complete leave no trace after it. -/
theorem described_changes_before_list (before between after : List StreamItem) :
    described (before ++ between ++ .event .initDone :: after) =
      described
        (before ++ (between.filter fun item => !item.isChange)
          ++ .event .initDone :: after) := by
  have sameDescribed :
      described ((before ++ between) ++ [.event .initDone]) =
        described
          ((before ++ between.filter fun item => !item.isChange)
            ++ [.event .initDone]) := by
    rw [described_concat, described_concat, arriving_append_filter]
    rfl
  have sameArriving :
      arriving ((before ++ between) ++ [.event .initDone]) =
        arriving
          ((before ++ between.filter fun item => !item.isChange)
            ++ [.event .initDone]) := by
    rw [arriving_concat, arriving_concat]
    rfl
  have same := (described_append_congr sameArriving sameDescribed after).2
  simpa using same

/-- As long as no full list is completed, only single changes count. -/
theorem described_unfinished_list (before : List StreamItem) {after : List StreamItem}
    (unfinished : ∀ item ∈ after, item.endsList = false) :
    described (before ++ after) = described (before ++ after.filter StreamItem.isChange) := by
  induction after using List.reverseRecOn with
  | nil => rfl
  | append_singleton after item inductionHypothesis =>
      have restUnfinished : ∀ other ∈ after, other.endsList = false := fun other member =>
        unfinished other (List.mem_append_left _ member)
      have notEnd : item.endsList = false := unfinished item (by simp)
      rw [← List.append_assoc, described_concat, notEnd, inductionHypothesis restUnfinished]
      by_cases change : item.isChange = true
      · simp [change, notEnd, ← List.append_assoc, described_concat]
      · simp [change, follow_of_not_isChange]

end Contents

end ClusterCache
