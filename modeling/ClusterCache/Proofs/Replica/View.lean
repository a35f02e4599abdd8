import ClusterCache.Proofs.Replica.Announcement
import Mathlib.Data.Set.Insert

/-!
# What a handler sees

A handler that is told the changes that fit its key can keep the set of identities that it has seen
added or replaced and not removed. An update that takes an object out of the key does not fit it, so
the handler keeps the identity. Main statement: otherwise this set and the identities of the stored
objects that fit the key stay the same with every item.
-/

namespace ClusterCache

namespace Change

/-- What is added or replaced comes into view, what is removed goes out of it. -/
def see (view : Set ObjectId) : Change → Set ObjectId
  | .added object => insert object.id view
  | .updated _ new => insert new.id view
  | .deleted object => view \ {object.id}

theorem mem_see_self (view : Set ObjectId) (change : Change) :
    change.id ∈ see view change ↔ change.isRemoval = false := by
  cases change <;> simp [see, isRemoval, Change.id, Change.object]

theorem mem_see_of_ne (view : Set ObjectId) {change : Change} {id : ObjectId}
    (different : change.id ≠ id) : id ∈ see view change ↔ id ∈ view := by
  have apart : id ≠ change.object.id := Ne.symm different
  cases change <;> simp_all [see, Change.object]

theorem mem_foldl_see_of_ne {view : Set ObjectId} {changes : List Change} {id : ObjectId}
    (others : ∀ change ∈ changes, change.id ≠ id) :
    id ∈ changes.foldl see view ↔ id ∈ view := by
  induction changes generalizing view with
  | nil => rfl
  | cons change rest inductionHypothesis =>
      have restOthers : ∀ other ∈ rest, other.id ≠ id := fun other member =>
        others other (List.mem_cons_of_mem _ member)
      rw [List.foldl_cons, inductionHypothesis restOthers,
        mem_see_of_ne view (others change List.mem_cons_self)]

theorem append_of_nodup {changes : List Change} (distinct : (changes.map Change.id).Nodup)
    {change : Change} (member : change ∈ changes) :
    ∃ before after, changes = before ++ change :: after ∧
      (∀ other ∈ before, other.id ≠ change.id) ∧ ∀ other ∈ after, other.id ≠ change.id := by
  obtain ⟨before, after, split⟩ := List.append_of_mem member
  subst split
  rw [List.map_append, List.map_cons, List.nodup_append, List.nodup_cons] at distinct
  obtain ⟨_, ⟨notAfter, _⟩, apart⟩ := distinct
  refine ⟨before, after, rfl, ?_, ?_⟩
  · intro other inBefore
    exact apart _ (List.mem_map_of_mem inBefore) _ List.mem_cons_self
  · intro other inAfter same
    exact notAfter (same ▸ List.mem_map_of_mem inAfter)

theorem mem_foldl_see_of_mem {view : Set ObjectId} {changes : List Change}
    (distinct : (changes.map Change.id).Nodup) {change : Change} (member : change ∈ changes) :
    change.id ∈ changes.foldl see view ↔ change.isRemoval = false := by
  obtain ⟨before, after, split, _, othersAfter⟩ := append_of_nodup distinct member
  rw [split, List.foldl_append, List.foldl_cons, mem_foldl_see_of_ne othersAfter, mem_see_self]

end Change

namespace Key

/-- The identities under which an object is stored that fits the key. -/
def fitting (key : Key) (objects : Objects) : Set ObjectId :=
  {id | ∃ object, objects.get? id = some object ∧ key.isMatch object = true}

theorem mem_fitting_of_some {key : Key} {objects : Objects} {id : ObjectId} {object : Object}
    (stored : objects.get? id = some object) :
    id ∈ key.fitting objects ↔ key.isMatch object = true := by
  simp [fitting, stored]

theorem not_mem_fitting_of_none {key : Key} {objects : Objects} {id : ObjectId}
    (absent : objects.get? id = none) : id ∉ key.fitting objects := by
  simp [fitting, absent]

/-! ## Objects that leave the key -/

/-- The change replaces an object that fits the key by one that does not. -/
def Loses (key : Key) : Change → Prop
  | .updated old new => key.isMatch old = true ∧ key.isMatch new = false
  | _ => False

/-- A change took the object of this identity out of the key, and no later change of it fits the
key. -/
def Lost (key : Key) (changes : List Change) (id : ObjectId) : Prop :=
  ∃ before change after, changes = before ++ change :: after ∧ change.id = id ∧
    key.Loses change ∧ ∀ later ∈ after, later.id = id → key.isMatch later.object = false

theorem Loses.isMatch {key : Key} {change : Change} (loses : key.Loses change) :
    key.isMatch change.object = false := by
  cases change with
  | updated old new => exact loses.2
  | added object => cases loses
  | deleted object => cases loses

theorem not_lost_of_not_loses {key : Key} {changes : List Change}
    (keeps : ∀ change ∈ changes, ¬ key.Loses change) (id : ObjectId) : ¬ key.Lost changes id := by
  rintro ⟨before, change, after, split, _, loses, _⟩
  have member : change ∈ changes := split ▸ List.mem_append_right _ List.mem_cons_self
  exact keeps change member loses

theorem lost_concat {key : Key} {changes : List Change} {change : Change} {id : ObjectId} :
    key.Lost (changes ++ [change]) id ↔
      (change.id = id ∧ key.Loses change) ∨
        (key.Lost changes id ∧ (change.id = id → key.isMatch change.object = false)) := by
  constructor
  · rintro ⟨before, taking, after, split, concerned, loses, unfit⟩
    rcases List.eq_nil_or_concat' after with isLast | ⟨between, last, isConcat⟩
    · subst isLast
      obtain ⟨_, same⟩ := List.append_inj' split rfl
      obtain rfl : change = taking := by simpa using same
      exact Or.inl ⟨concerned, loses⟩
    · rw [isConcat, ← List.cons_append, ← List.append_assoc] at split
      obtain ⟨earlier, same⟩ := List.append_inj' split rfl
      obtain rfl : change = last := by simpa using same
      subst isConcat
      refine Or.inr ⟨⟨before, taking, between, earlier, concerned, loses, ?_⟩, ?_⟩
      · exact fun later member => unfit later (List.mem_append_left _ member)
      · exact unfit change (List.mem_append_right _ List.mem_cons_self)
  · rintro (⟨concerned, loses⟩ | ⟨⟨before, taking, after, split, concerned, loses, unfit⟩, last⟩)
    · exact ⟨changes, change, [], rfl, concerned, loses, fun later member =>
        absurd member List.not_mem_nil⟩
    · refine ⟨before, taking, after ++ [change], by simp [split], concerned, loses, ?_⟩
      intro later member
      rcases List.mem_append.1 member with inAfter | isLast
      · exact unfit later inAfter
      · exact List.mem_singleton.1 isLast ▸ last

theorem lost_append_of_ne {key : Key} (changes : List Change) {more : List Change}
    {id : ObjectId} (others : ∀ change ∈ more, change.id ≠ id) :
    key.Lost (changes ++ more) id ↔ key.Lost changes id := by
  induction more using List.reverseRecOn with
  | nil => simp
  | append_singleton more last inductionHypothesis =>
      have different : last.id ≠ id := others last (by simp)
      have restOthers : ∀ change ∈ more, change.id ≠ id := fun change member =>
        others change (List.mem_append_left _ member)
      rw [← List.append_assoc, lost_concat, inductionHypothesis restOthers]
      simp [different]

theorem lost_append_of_mem {key : Key} (changes : List Change) {more : List Change}
    (distinct : (more.map Change.id).Nodup) {change : Change} (member : change ∈ more) :
    key.Lost (changes ++ more) change.id ↔
      key.Loses change ∨
        (key.Lost changes change.id ∧ key.isMatch change.object = false) := by
  obtain ⟨before, after, split, othersBefore, othersAfter⟩ :=
    Change.append_of_nodup distinct member
  have regrouped : changes ++ more = changes ++ before ++ [change] ++ after := by
    simp [split]
  rw [regrouped, lost_append_of_ne _ othersAfter, lost_concat,
    lost_append_of_ne changes othersBefore]
  simp

end Key

/-! ## One item -/

namespace Change.Announce

variable {before after : Objects} {item : StreamItem} {changes : List Change} {key : Key}

theorem mem_fitting_of_isMatch (announce : Announce before after item changes) {change : Change}
    (member : change ∈ changes) (fits : key.isMatch change.object = true) :
    change.id ∈ key.fitting after ↔ change.isRemoval = false := by
  cases change with
  | added object =>
      have stored := (announce.added object member).2
      exact (Key.mem_fitting_of_some stored).trans (iff_of_true fits rfl)
  | updated old new =>
      have stored := (announce.updated old new member).2
      exact (Key.mem_fitting_of_some stored).trans (iff_of_true fits rfl)
  | deleted object =>
      have gone := (announce.deleted object member).2
      exact iff_of_false (Key.not_mem_fitting_of_none gone) Bool.noConfusion

/-- After a change that does not fit the key its object does not fit either; if it fitted before,
the change took it out. -/
theorem mem_fitting_of_not_isMatch (announce : Announce before after item changes)
    {change : Change} (member : change ∈ changes) (unfit : key.isMatch change.object = false) :
    change.id ∉ key.fitting after ∧ (change.id ∈ key.fitting before ↔ key.Loses change) := by
  cases change with
  | added object =>
      obtain ⟨absent, stored⟩ := announce.added object member
      have unfitNow : ¬ key.isMatch object = true := Bool.eq_false_iff.1 unfit
      exact ⟨fun fits => unfitNow ((Key.mem_fitting_of_some stored).1 fits),
        iff_of_false (Key.not_mem_fitting_of_none absent) not_false⟩
  | updated old new =>
      obtain ⟨storedBefore, stored⟩ := announce.updated old new member
      have unfitNow : ¬ key.isMatch new = true := Bool.eq_false_iff.1 unfit
      refine ⟨fun fits => unfitNow ((Key.mem_fitting_of_some stored).1 fits), ?_⟩
      exact (Key.mem_fitting_of_some storedBefore).trans (and_iff_left unfit).symm
  | deleted object =>
      obtain ⟨asStored, gone⟩ := announce.deleted object member
      have unfitThen : ¬ key.isMatch object = true := Bool.eq_false_iff.1 unfit
      refine ⟨Key.not_mem_fitting_of_none gone, iff_of_false ?_ not_false⟩
      rcases asStored with stored | ⟨absent, _⟩
      · exact fun fits => unfitThen ((Key.mem_fitting_of_some stored).1 fits)
      · exact Key.not_mem_fitting_of_none absent

/-- An identity that is not told of fits the key as it did before, if a version stands for one
object. -/
theorem mem_fitting_of_ne (announce : Announce before after item changes)
    (steady : ∀ {id old new}, before.get? id = some old → after.get? id = some new →
      old.resourceVersion = new.resourceVersion → old = new)
    {id : ObjectId} (others : ∀ change ∈ changes, change.id ≠ id) :
    id ∈ key.fitting after ↔ id ∈ key.fitting before := by
  have sameVersion := announce.complete id others
  unfold Versions.stored at sameVersion
  cases storedBefore : before.get? id with
  | none =>
      have absent : after.get? id = none := by simpa [storedBefore] using sameVersion
      exact iff_of_false (Key.not_mem_fitting_of_none absent)
        (Key.not_mem_fitting_of_none storedBefore)
  | some old =>
      obtain ⟨new, stored, version⟩ :
          ∃ new, after.get? id = some new ∧ new.resourceVersion = old.resourceVersion := by
        simpa [storedBefore] using sameVersion
      obtain rfl := steady storedBefore stored version.symm
      rw [Key.mem_fitting_of_some stored, Key.mem_fitting_of_some storedBefore]

/-- What is in view is what fits and what was lost: this holds after an item if it held before. -/
theorem see (announce : Announce before after item changes)
    (steady : ∀ {id old new}, before.get? id = some old → after.get? id = some new →
      old.resourceVersion = new.resourceVersion → old = new)
    {view : Set ObjectId} {past : List Change}
    (agrees : view = key.fitting before ∪ {id | key.Lost past id}) :
    (changes.filter fun change => key.isMatch change.object).foldl Change.see view =
      key.fitting after ∪ {id | key.Lost (past ++ changes) id} := by
  have filteredDistinct :
      ((changes.filter fun change => key.isMatch change.object).map Change.id).Nodup :=
    announce.once.sublist (List.filter_sublist.map Change.id)
  ext id
  rw [Set.mem_union, Set.mem_ofPred_eq]
  -- At most one change concerns the identity; what it does depends on whether it fits the key.
  by_cases concerned : ∃ change ∈ changes, change.id = id
  · obtain ⟨change, member, rfl⟩ := concerned
    rw [Key.lost_append_of_mem past announce.once member]
    cases fits : key.isMatch change.object with
    | true =>
        have told : change ∈ changes.filter fun change => key.isMatch change.object :=
          List.mem_filter.2 ⟨member, fits⟩
        have keeps : ¬ key.Loses change := fun loses => by simp [loses.isMatch] at fits
        rw [Change.mem_foldl_see_of_mem filteredDistinct told,
          announce.mem_fitting_of_isMatch member fits]
        simp [keeps]
    | false =>
        obtain ⟨gone, fittedBefore⟩ := announce.mem_fitting_of_not_isMatch member fits
        have untold : ∀ other ∈ changes.filter fun change => key.isMatch change.object,
            other.id ≠ change.id := by
          intro other told same
          obtain ⟨inChanges, otherFits⟩ := List.mem_filter.1 told
          obtain rfl := List.inj_on_of_nodup_map announce.once inChanges member same
          simp [fits] at otherFits
        rw [Change.mem_foldl_see_of_ne untold, agrees, Set.mem_union, Set.mem_ofPred_eq,
          fittedBefore]
        simp [gone]
  · have others : ∀ change ∈ changes, change.id ≠ id := fun change member same =>
      concerned ⟨change, member, same⟩
    rw [Change.mem_foldl_see_of_ne fun change told => others change (List.mem_filter.1 told).1,
      Key.lost_append_of_ne past others, announce.mem_fitting_of_ne steady others, agrees]
    rfl

end Change.Announce

/-! ## Listing -/

namespace Replica

def listedIds (replica : Replica) (key : Key) : Set ObjectId :=
  {id | ∃ object ∈ replica.list key, object.id = id}

theorem mem_list {replica : Replica} {key : Key} {object : Object} :
    object ∈ replica.list key ↔
      ∃ id, (id, object) ∈ replica.objects.entries ∧ key.isMatch object = true := by
  simp [list]

theorem listedIds_eq {replica : Replica} (filed : Filed replica.objects) (key : Key) :
    replica.listedIds key = key.fitting replica.objects := by
  ext id
  constructor
  · rintro ⟨object, member, rfl⟩
    obtain ⟨stored, inEntries, fits⟩ := mem_list.1 member
    have found := filed.distinct.get?_eq_some_iff.2 inEntries
    obtain rfl := filed.own found
    exact ⟨object, found, fits⟩
  · rintro ⟨object, found, fits⟩
    exact ⟨object, mem_list.2 ⟨id, Table.mem_entries_of_get? found, fits⟩, filed.own found⟩

end Replica

end ClusterCache
