import ClusterCache.Proofs.Replica.Mirror

/-!
# Changes are sound and complete

The changes that an item yields lead from what was stored to what is stored. Each concerns another
identity and names the stored object correctly, and an identity without a change has kept its
version. Main statement: replaying them on the versions stored before gives the versions stored
after.
-/

namespace ClusterCache

/-- The version stored under each identity, if an object is; the object may lack a version. -/
abbrev Versions := ObjectId → Option (Option String)

namespace Versions

/-- What a set of objects says about versions. -/
def stored (objects : Objects) : Versions := fun id =>
  (objects.get? id).map Object.resourceVersion

/-- Follows a change: a new object counts by its version, a removed one is forgotten. -/
def replay (versions : Versions) : Change → Versions
  | .added object => Function.update versions object.id (some object.resourceVersion)
  | .updated _ new => Function.update versions new.id (some new.resourceVersion)
  | .deleted object => Function.update versions object.id none

/-- What a change says about the version of its own identity. -/
def told : Change → Option (Option String)
  | .added object => some object.resourceVersion
  | .updated _ new => some new.resourceVersion
  | .deleted _ => none

theorem replay_eq_update (versions : Versions) (change : Change) :
    versions.replay change = Function.update versions change.id (told change) := by
  cases change <;> rfl

/-- An identity that no change concerns keeps its version. -/
theorem foldl_replay_of_ne {versions : Versions} {changes : List Change} {id : ObjectId}
    (others : ∀ change ∈ changes, change.id ≠ id) :
    changes.foldl replay versions id = versions id := by
  induction changes generalizing versions with
  | nil => rfl
  | cons change rest inductionHypothesis =>
      have restOthers : ∀ other ∈ rest, other.id ≠ id := fun other member =>
        others other (List.mem_cons_of_mem _ member)
      have different : id ≠ change.id := (others change List.mem_cons_self).symm
      rw [List.foldl_cons, inductionHypothesis restOthers, replay_eq_update,
        Function.update_of_ne different]

/-- Of changes that concern different identities, each decides the version of its own. -/
theorem foldl_replay_of_mem {versions : Versions} {changes : List Change}
    (distinct : (changes.map Change.id).Nodup) {change : Change} (member : change ∈ changes) :
    changes.foldl replay versions change.id = told change := by
  induction changes generalizing versions with
  | nil => exact absurd member List.not_mem_nil
  | cons first rest inductionHypothesis =>
      obtain ⟨firstNew, restDistinct⟩ := List.nodup_cons.1 distinct
      rw [List.foldl_cons]
      rcases List.mem_cons.1 member with isFirst | inRest
      · subst isFirst
        have others : ∀ other ∈ rest, other.id ≠ change.id := by
          intro other inRest same
          rw [← same] at firstNew
          exact firstNew (List.mem_map_of_mem inRest)
        rw [foldl_replay_of_ne others, replay_eq_update, Function.update_self]
      · exact inductionHypothesis restDistinct inRest

end Versions

/-! ## Announcements -/

namespace Change

def isRemoval : Change → Bool
  | .deleted _ => true
  | _ => false

/-- The changes say how an item leads from the objects before to those after. -/
structure Announce (before after : Objects) (item : StreamItem) (changes : List Change) :
    Prop where
  /-- What is added was not stored, and is. -/
  added : ∀ object, .added object ∈ changes →
    before.get? object.id = none ∧ after.get? object.id = some object
  /-- What is replaced is named as it was stored, and its successor is stored. -/
  updated : ∀ old new, .updated old new ∈ changes →
    before.get? new.id = some old ∧ after.get? new.id = some new
  /-- What is removed is named as it was stored, else as the item names it, and is gone. -/
  deleted : ∀ object, .deleted object ∈ changes →
    (before.get? object.id = some object ∨
      before.get? object.id = none ∧ item = .event (.delete object)) ∧
    after.get? object.id = none
  /-- An item that neither is a change nor ends a list is not told of. -/
  silent : item.isChange = false → item.endsList = false → changes = []
  /-- A single change is told of, once. -/
  single : item.isChange = true → changes.length = 1
  /-- No identity is told of twice. -/
  once : (changes.map Change.id).Nodup
  /-- An identity that is not told of has kept its version. -/
  complete : ∀ id, (∀ change ∈ changes, change.id ≠ id) →
    Versions.stored after id = Versions.stored before id
  /-- At the end of a list, an identity that keeps its version is not told of. -/
  quiet : item = .event .initDone → ∀ id old new, before.get? id = some old →
    after.get? id = some new → old.resourceVersion = new.resourceVersion →
    ∀ change ∈ changes, change.id ≠ id
  /-- At the end of a list, removals are told last. -/
  ordered : item = .event .initDone → ∃ written removed, changes = written ++ removed ∧
    (∀ change ∈ written, change.isRemoval = false) ∧
    ∀ change ∈ removed, change.isRemoval = true

/-- Announced changes lead from the versions before to the versions after. -/
theorem Announce.replay {before after : Objects} {item : StreamItem} {changes : List Change}
    (announce : Announce before after item changes) :
    changes.foldl Versions.replay (Versions.stored before) = Versions.stored after := by
  funext id
  by_cases concerned : ∃ change ∈ changes, change.id = id
  · obtain ⟨change, member, same⟩ := concerned
    subst same
    rw [Versions.foldl_replay_of_mem announce.once member]
    cases change with
    | added object =>
        have now := (announce.added object member).2
        simp [Versions.stored, Versions.told, Change.id, Change.object, now]
    | updated old new =>
        have now := (announce.updated old new member).2
        simp [Versions.stored, Versions.told, Change.id, Change.object, now]
    | deleted object =>
        have now := (announce.deleted object member).2
        simp [Versions.stored, Versions.told, Change.id, Change.object, now]
  · have others : ∀ change ∈ changes, change.id ≠ id := fun change member same =>
      concerned ⟨change, member, same⟩
    rw [Versions.foldl_replay_of_ne others, announce.complete id others]

end Change

/-! ## Filed objects -/

/-- Every object is filed under its own identity, once. -/
structure Filed (objects : Objects) : Prop where
  distinct : objects.Distinct
  own : ∀ {id object}, objects.get? id = some object → object.id = id

namespace Contents

/-- Whatever stands under an identity has the property. -/
def Holds (contents : Contents) (property : ObjectId → Object → Prop) : Prop :=
  ∀ id object, contents id = some object → property id object

theorem holds_nothing (property : ObjectId → Object → Prop) : nothing.Holds property := by
  intro id object found
  cases found

theorem Holds.put {contents : Contents} {property : ObjectId → Object → Prop}
    (holds : contents.Holds property) {object : Object} (own : property object.id object) :
    (contents.put object).Holds property := by
  intro id other found
  rw [Contents.put, Function.update_apply] at found
  split at found
  · rename_i same
    rw [same, ← Option.some.inj found]
    exact own
  · exact holds id other found

theorem Holds.remove {contents : Contents} {property : ObjectId → Object → Prop}
    (holds : contents.Holds property) (object : Object) :
    (contents.remove object).Holds property := by
  intro id other found
  rw [Contents.remove, Function.update_apply] at found
  split at found
  · cases found
  · exact holds id other found

section Carried

variable {property : ObjectId → Object → Prop} {items : List StreamItem}

theorem holds_arriving
    (carried : ∀ object ∈ items.filterMap StreamItem.carried?, property object.id object) :
    (arriving items).Holds property := by
  induction items using List.reverseRecOn with
  | nil => exact holds_nothing property
  | append_singleton items item inductionHypothesis =>
      simp only [List.filterMap_append, List.mem_append] at carried
      have holds := inductionHypothesis fun object member => carried object (Or.inl member)
      rw [arriving_concat]
      split
      · exact holds_nothing property
      · cases listed : item.listed? with
        | none => exact holds
        | some object =>
            refine holds.put (carried object (Or.inr ?_))
            simp [StreamItem.carried?_of_listed? listed]

theorem holds_described
    (carried : ∀ object ∈ items.filterMap StreamItem.carried?, property object.id object) :
    (described items).Holds property := by
  induction items using List.reverseRecOn with
  | nil => exact holds_nothing property
  | append_singleton items item inductionHypothesis =>
      have carriedBefore := carried
      simp only [List.filterMap_append, List.mem_append] at carriedBefore
      have holds := inductionHypothesis fun object member =>
        carriedBefore object (Or.inl member)
      have arrived := holds_arriving fun object member => carriedBefore object (Or.inl member)
      rw [described_concat]
      split
      · exact arrived
      · unfold follow
        split
        · exact holds.put (carried _ (by simp [StreamItem.carried?]))
        · exact holds.remove _
        · exact holds

end Carried

end Contents

namespace Replica

theorem Mirrors.filed {replica : Replica} {items : List StreamItem}
    (mirrors : replica.Mirrors items) : Filed replica.objects where
  distinct := mirrors.distinct
  own {id object} found := by
    have own : (Contents.described items).Holds fun id object => object.id = id :=
      Contents.holds_described fun _ _ => rfl
    exact own id object ((mirrors.contents id).symm.trans found)

theorem Mirrors.filed_incoming {replica : Replica} {items : List StreamItem}
    (mirrors : replica.Mirrors items) : Filed (replica.incoming.getD Table.empty) where
  distinct := mirrors.incoming_distinct
  own {id object} found := by
    have own : (Contents.arriving items).Holds fun id object => object.id = id :=
      Contents.holds_arriving fun _ _ => rfl
    exact own id object ((mirrors.incoming id).symm.trans found)

/-- Every stored object was brought by an item. -/
theorem Mirrors.carried {replica : Replica} {items : List StreamItem}
    (mirrors : replica.Mirrors items) {id : ObjectId} {object : Object}
    (stored : replica.objects.get? id = some object) :
    object ∈ items.filterMap StreamItem.carried? := by
  have brought : (Contents.described items).Holds fun _ object =>
      object ∈ items.filterMap StreamItem.carried? :=
    Contents.holds_described fun _ member => member
  exact brought id object ((mirrors.contents id).symm.trans stored)

end Replica

end ClusterCache
