import ClusterCache.Proofs.Replica.View

/-!
# Following a list

Who has a list of the objects that fit a key, and is told the changes that fit the key from then on,
can follow the listed versions. What is told decides the version of every identity that it names,
whatever was listed. Main statement: unless an update took an object out of the key, following
gives the versions of the stored objects that fit the key, if it gave them before an item.
-/

namespace ClusterCache

namespace Versions

/-- What a list of objects says about versions. -/
def listed (objects : List Object) : Versions := fun id =>
  (objects.find? fun object => object.id = id).map Object.resourceVersion

theorem foldl_replay_congr (versions others : Versions) {changes : List Change} {id : ObjectId}
    (told : ∃ change ∈ changes, change.id = id) :
    changes.foldl replay versions id = changes.foldl replay others id := by
  induction changes generalizing versions others with
  | nil =>
      obtain ⟨change, member, _⟩ := told
      exact absurd member List.not_mem_nil
  | cons first rest inductionHypothesis =>
      rw [List.foldl_cons, List.foldl_cons]
      by_cases toldLater : ∃ change ∈ rest, change.id = id
      · exact inductionHypothesis _ _ toldLater
      · have othersLater : ∀ change ∈ rest, change.id ≠ id := fun change member same =>
          toldLater ⟨change, member, same⟩
        obtain ⟨change, member, same⟩ := told
        have isFirst : change = first := by
          rcases List.mem_cons.1 member with isFirst | inRest
          · exact isFirst
          · exact absurd same (othersLater change inRest)
        subst isFirst
        subst same
        rw [foldl_replay_of_ne othersLater, foldl_replay_of_ne othersLater, replay_eq_update,
          replay_eq_update, Function.update_self, Function.update_self]

end Versions

namespace Key

/-- The versions of the stored objects that fit the key. -/
def versions (key : Key) (objects : Objects) : Versions := fun id =>
  ((objects.get? id).filter key.isMatch).map Object.resourceVersion

theorem versions_of_isMatch {key : Key} {objects : Objects} {id : ObjectId} {object : Object}
    (stored : objects.get? id = some object) (fits : key.isMatch object = true) :
    key.versions objects id = some object.resourceVersion := by
  simp [versions, stored, fits]

theorem versions_eq_none_iff {key : Key} {objects : Objects} {id : ObjectId} :
    key.versions objects id = none ↔ id ∉ key.fitting objects := by
  cases stored : objects.get? id with
  | none => simp [versions, fitting, stored]
  | some object => simp [versions, fitting, stored]

end Key

/-! ## One item -/

namespace Change.Announce

variable {before after : Objects} {item : StreamItem} {changes : List Change} {key : Key}

theorem versions_of_isMatch (announce : Announce before after item changes) {change : Change}
    (member : change ∈ changes) (fits : key.isMatch change.object = true) :
    key.versions after change.id = Versions.told change := by
  cases change with
  | added object => exact Key.versions_of_isMatch (announce.added object member).2 fits
  | updated old new => exact Key.versions_of_isMatch (announce.updated old new member).2 fits
  | deleted object =>
      have gone := (announce.deleted object member).2
      exact Key.versions_eq_none_iff.2 (Key.not_mem_fitting_of_none gone)

theorem versions_of_ne (announce : Announce before after item changes)
    (steady : ∀ {id old new}, before.get? id = some old → after.get? id = some new →
      old.resourceVersion = new.resourceVersion → old = new)
    {id : ObjectId} (others : ∀ change ∈ changes, change.id ≠ id) :
    key.versions after id = key.versions before id := by
  have sameVersion := announce.complete id others
  unfold Versions.stored at sameVersion
  cases storedBefore : before.get? id with
  | none =>
      have absent : after.get? id = none := by simpa [storedBefore] using sameVersion
      simp [Key.versions, storedBefore, absent]
  | some old =>
      obtain ⟨new, stored, version⟩ :
          ∃ new, after.get? id = some new ∧ new.resourceVersion = old.resourceVersion := by
        simpa [storedBefore] using sameVersion
      obtain rfl := steady storedBefore stored version.symm
      simp [Key.versions, storedBefore, stored]

/-- What follows the versions that fit follows them through an item, except where an object was
lost. -/
theorem follow (announce : Announce before after item changes)
    (steady : ∀ {id old new}, before.get? id = some old → after.get? id = some new →
      old.resourceVersion = new.resourceVersion → old = new)
    {view : Versions} {past : List Change}
    (agrees : ∀ id, ¬ key.Lost past id → view id = key.versions before id)
    {id : ObjectId} (kept : ¬ key.Lost (past ++ changes) id) :
    (changes.filter fun change => key.isMatch change.object).foldl Versions.replay view id =
      key.versions after id := by
  have filteredDistinct :
      ((changes.filter fun change => key.isMatch change.object).map Change.id).Nodup :=
    announce.once.sublist (List.filter_sublist.map Change.id)
  by_cases concerned : ∃ change ∈ changes, change.id = id
  · obtain ⟨change, member, rfl⟩ := concerned
    cases fits : key.isMatch change.object with
    | true =>
        have told : change ∈ changes.filter fun change => key.isMatch change.object :=
          List.mem_filter.2 ⟨member, fits⟩
        rw [Versions.foldl_replay_of_mem filteredDistinct told,
          announce.versions_of_isMatch member fits]
    | false =>
        -- Nothing is told of the identity, and before and after no object of it fits.
        have untold : ∀ other ∈ changes.filter fun change => key.isMatch change.object,
            other.id ≠ change.id := by
          intro other told same
          obtain ⟨inChanges, otherFits⟩ := List.mem_filter.1 told
          obtain rfl := List.inj_on_of_nodup_map announce.once inChanges member same
          simp [fits] at otherFits
        rw [Key.lost_append_of_mem past announce.once member, not_or] at kept
        obtain ⟨keeps, keptBefore⟩ := kept
        have notLost : ¬ key.Lost past change.id := fun lost => keptBefore ⟨lost, fits⟩
        obtain ⟨unfitAfter, fitsBefore⟩ := announce.mem_fitting_of_not_isMatch member fits
        have unfitBefore : change.id ∉ key.fitting before := fun fits => keeps (fitsBefore.1 fits)
        rw [Versions.foldl_replay_of_ne untold, agrees _ notLost,
          Key.versions_eq_none_iff.2 unfitBefore, Key.versions_eq_none_iff.2 unfitAfter]
  · have others : ∀ change ∈ changes, change.id ≠ id := fun change member same =>
      concerned ⟨change, member, same⟩
    have notLost : ¬ key.Lost past id := fun lost =>
      kept ((Key.lost_append_of_ne past others).2 lost)
    rw [Versions.foldl_replay_of_ne fun change told => others change (List.mem_filter.1 told).1,
      agrees id notLost, announce.versions_of_ne steady others]

end Change.Announce

/-! ## Listing -/

/-- A list says which versions of the stored objects fit the key. -/
theorem Replica.listed_list {replica : Replica} (filed : Filed replica.objects) (key : Key) :
    Versions.listed (replica.list key) = key.versions replica.objects := by
  funext id
  unfold Versions.listed
  cases found : (replica.list key).find? fun object => object.id = id with
  | none =>
      have unlisted : id ∉ key.fitting replica.objects := by
        rw [← Replica.listedIds_eq filed]
        rintro ⟨object, member, same⟩
        exact absurd same (by simpa using List.find?_eq_none.1 found object member)
      rw [Key.versions_eq_none_iff.2 unlisted]
      rfl
  | some object =>
      have same : object.id = id := by simpa using List.find?_some found
      obtain ⟨stored, inEntries, fits⟩ := Replica.mem_list.1 (List.mem_of_find?_eq_some found)
      have storedAs := filed.distinct.get?_eq_some_iff.2 inEntries
      rw [← filed.own storedAs, same] at storedAs
      rw [Key.versions_of_isMatch storedAs fits]
      rfl

end ClusterCache
