import ClusterCache.Proofs.Replica.View
import Mathlib.Data.List.Sort
import Mathlib.Data.String.Basic

/-!
# Listing and getting

A replica is read in two ways: a list goes through the stored objects and asks each whether it fits
the key, getting looks at no more than two identities. Main statement: both read the same objects.
A list shows every stored object that fits, once and in order, whatever the order in which the
objects came; and what is got is found in the list for that name, if objects are stored under names
of their own and no namespace is spelled empty.
-/

namespace ClusterCache

/-! ## The order of a list -/

namespace ObjectId

theorem le_iff {left right : ObjectId} :
    left.le right = true ↔
      left.ns < right.ns ∨ left.ns = right.ns ∧ left.name ≤ right.name := by
  unfold le
  by_cases same : left.ns = right.ns <;> simp [same]

theorem total_le (left right : ObjectId) : (left.le right || right.le left) = true := by
  rw [Bool.or_eq_true, le_iff, le_iff]
  rcases lt_trichotomy left.ns right.ns with below | same | above
  · exact Or.inl (Or.inl below)
  · rcases le_total left.name right.name with atMost | atLeast
    · exact Or.inl (Or.inr ⟨same, atMost⟩)
    · exact Or.inr (Or.inr ⟨same.symm, atLeast⟩)
  · exact Or.inr (Or.inl above)

theorem trans_le (first second third : ObjectId) (left : first.le second = true)
    (right : second.le third = true) : first.le third = true := by
  rw [le_iff] at left right ⊢
  grind

end ObjectId

namespace Object

/-- The object stands before the other one by namespace, then by name, both compared code point by
code point. -/
def Before (left right : Object) : Prop :=
  left.nsOrEmpty < right.nsOrEmpty ∨
    left.nsOrEmpty = right.nsOrEmpty ∧ left.name < right.name

instance : Std.Irrefl Before where
  irrefl object before := by simp [Before] at before

instance : Std.Antisymm Before where
  antisymm left right before after := by
    rcases before with below | ⟨_, below⟩
    · rcases after with above | ⟨same, _⟩
      · exact absurd above below.asymm
      · exact absurd same below.ne'
    · rcases after with above | ⟨_, above⟩
      · exact absurd ‹left.nsOrEmpty = right.nsOrEmpty› above.ne'
      · exact absurd above below.asymm

theorem before_of_le {left right : Object} (atMost : left.id.le right.id = true)
    (different : left.id ≠ right.id) : left.Before right := by
  rcases ObjectId.le_iff.1 atMost with below | ⟨same, nameAtMost⟩
  · exact Or.inl below
  · have otherName : left.name ≠ right.name := fun sameName =>
      different (ObjectId.mk.injEq .. ▸ ⟨same, sameName⟩)
    exact Or.inr ⟨same, lt_of_le_of_ne nameAtMost otherName⟩

end Object

namespace Replica

variable {replica : Replica} {key : Key}

/-! ## What is listed -/

theorem mem_list_iff (distinct : replica.objects.Distinct) {object : Object} :
    object ∈ replica.list key ↔
      (∃ id, replica.objects.get? id = some object) ∧ key.isMatch object = true := by
  rw [mem_list]
  constructor
  · rintro ⟨id, stored, fits⟩
    exact ⟨⟨id, distinct.get?_eq_some_iff.2 stored⟩, fits⟩
  · rintro ⟨⟨id, found⟩, fits⟩
    exact ⟨id, Table.mem_entries_of_get? found, fits⟩

theorem increasing_list (filed : Filed replica.objects) :
    (replica.list key).Pairwise Object.Before := by
  -- The entries are sorted by identity, none of which occurs twice, and each stores its own object.
  let fitting := replica.objects.entries.filter fun entry => key.isMatch entry.2
  have sorted : (fitting.mergeSort fun left right => left.1.le right.1).Pairwise
      fun left right => left.1.le right.1 = true :=
    List.pairwise_mergeSort (fun left middle right => ObjectId.trans_le left.1 middle.1 right.1)
      (fun left right => ObjectId.total_le left.1 right.1) fitting
  have shuffled := List.mergeSort_perm fitting fun left right => left.1.le right.1
  have distinct : (fitting.mergeSort fun left right => left.1.le right.1).Pairwise
      fun left right => left.1 ≠ right.1 := by
    have unsorted : (fitting.map Prod.fst).Nodup :=
      filed.distinct.sublist (List.filter_sublist.map Prod.fst)
    exact List.pairwise_map.1 ((shuffled.map Prod.fst).nodup_iff.2 unsorted)
  have own : ∀ entry ∈ fitting.mergeSort fun left right => left.1.le right.1,
      entry.2.id = entry.1 := by
    intro entry member
    have stored := (List.mem_filter.1 (shuffled.mem_iff.1 member)).1
    exact filed.own (filed.distinct.get?_eq_some_iff.2 stored)
  refine List.pairwise_map.2 ((sorted.and distinct).imp_of_mem ?_)
  intro left right inLeft inRight apart
  apply Object.before_of_le
  · rw [own left inLeft, own right inRight]
    exact apart.1
  · rw [own left inLeft, own right inRight]
    exact apart.2

/-- Under each identity a list holds what is stored there, if that fits. -/
theorem filter_id_list (filed : Filed replica.objects) (id : ObjectId) :
    ((replica.list key).filter fun object => object.id = id) =
      ((replica.objects.get? id).filter key.isMatch).toList := by
  have increasing : ((replica.list key).filter fun object => object.id = id).Pairwise
      Object.Before := (increasing_list filed).sublist List.filter_sublist
  have single : ((replica.objects.get? id).filter key.isMatch).toList.Pairwise
      Object.Before := by
    cases (replica.objects.get? id).filter key.isMatch <;> simp
  refine increasing.eq_of_mem_iff single fun object => ?_
  rw [List.mem_filter, mem_list_iff filed.distinct, Option.mem_toList,
    Option.filter_eq_some_iff, decide_eq_true_eq]
  constructor
  · rintro ⟨⟨⟨stored, found⟩, fits⟩, rfl⟩
    obtain rfl := filed.own found
    exact ⟨found, fits⟩
  · rintro ⟨found, fits⟩
    exact ⟨⟨⟨id, found⟩, fits⟩, filed.own found⟩

theorem list_congr {other : Replica} (filed : Filed replica.objects)
    (filedOther : Filed other.objects)
    (same : ∀ id, replica.objects.get? id = other.objects.get? id) :
    replica.list key = other.list key := by
  refine (increasing_list filed).eq_of_mem_iff (increasing_list filedOther) fun object => ?_
  simp only [mem_list_iff filed.distinct, mem_list_iff filedOther.distinct, same]

/-! ## What is got -/

/-- Every stored object has a name of its own, and none has an empty namespace. -/
structure IsExplicit (replica : Replica) : Prop where
  named : ∀ {id object}, replica.objects.get? id = some object → object.metadata.name ≠ none
  ns : ∀ {id object}, replica.objects.get? id = some object → object.metadata.ns ≠ some ""

/-- The objects that are listed for one name. -/
def listNamed (replica : Replica) (ns apiVersion kind name : String) : List Object :=
  replica.list ((Key.ofScope ns apiVersion kind).withName name)

variable {ns apiVersion kind name : String}

theorem isMatch_withName_iff {object : Object} :
    ((Key.ofScope ns apiVersion kind).withName name).isMatch object = true ↔
      (ns = "" ∨ object.metadata.ns = none ∨ object.metadata.ns = some ns) ∧
        object.metadata.name = some name := by
  unfold Key.isMatch Key.withName Key.ofScope
  cases object.metadata.ns <;> simp

theorem mem_listNamed_iff (distinct : replica.objects.Distinct) {object : Object} :
    object ∈ replica.listNamed ns apiVersion kind name ↔
      (∃ id, replica.objects.get? id = some object) ∧
        (ns = "" ∨ object.metadata.ns = none ∨ object.metadata.ns = some ns) ∧
          object.metadata.name = some name := by
  rw [listNamed, mem_list_iff distinct, isMatch_withName_iff]

/-- What is stored under the namespace and the name is what is listed with that namespace. -/
theorem stored_iff_listed (filed : Filed replica.objects) (explicit : replica.IsExplicit)
    (apiVersion kind : String) {object : Object} :
    replica.objects.get? ⟨ns, name⟩ = some object ↔
      object ∈ replica.listNamed ns apiVersion kind name ∧ object.nsOrEmpty = ns := by
  rw [mem_listNamed_iff filed.distinct]
  constructor
  · intro stored
    have own : object.id = ⟨ns, name⟩ := filed.own stored
    have inNs : object.nsOrEmpty = ns := congrArg ObjectId.ns own
    have called : object.name = name := congrArg ObjectId.name own
    have hasName : object.metadata.name = some name := by
      obtain ⟨given, isGiven⟩ := Option.ne_none_iff_exists'.1 (explicit.named stored)
      simpa [Object.name, isGiven] using called
    have fits : object.metadata.ns = none ∨ object.metadata.ns = some ns := by
      cases spelled : object.metadata.ns with
      | none => exact Or.inl rfl
      | some given => exact Or.inr (by simpa [Object.nsOrEmpty, spelled] using inNs)
    exact ⟨⟨⟨_, stored⟩, Or.inr fits, hasName⟩, inNs⟩
  · rintro ⟨⟨⟨id, stored⟩, _, hasName⟩, inNs⟩
    have called : object.name = name := by simp [Object.name, hasName]
    have filedUnder : id = ⟨ns, name⟩ := by
      rw [← filed.own stored, Object.id, inNs, called]
    exact filedUnder ▸ stored

theorem stored_nameless_iff_listed (filed : Filed replica.objects)
    (explicit : replica.IsExplicit) (apiVersion kind : String) {object : Object} :
    replica.objects.get? ⟨"", name⟩ = some object ↔
      object ∈ replica.listNamed ns apiVersion kind name ∧ object.metadata.ns = none := by
  rw [stored_iff_listed filed explicit apiVersion kind, mem_listNamed_iff filed.distinct,
    mem_listNamed_iff filed.distinct]
  constructor
  · rintro ⟨⟨⟨id, stored⟩, _, hasName⟩, inNs⟩
    have without : object.metadata.ns = none := by
      cases spelled : object.metadata.ns with
      | none => rfl
      | some given =>
          have isEmpty : given = "" := by simpa [Object.nsOrEmpty, spelled] using inNs
          exact absurd (spelled.trans (congrArg some isEmpty)) (explicit.ns stored)
    exact ⟨⟨⟨id, stored⟩, Or.inr (Or.inl without), hasName⟩, without⟩
  · rintro ⟨⟨stored, _, hasName⟩, without⟩
    exact ⟨⟨stored, Or.inl rfl, hasName⟩, by simp [Object.nsOrEmpty, without]⟩

/-- What is got for a namespace and a name is found in the list for them: the object of that
namespace, else the one without a namespace. -/
structure GetsListed (replica : Replica) (ns apiVersion kind name : String) : Prop where
  own : ∀ object ∈ replica.listNamed ns apiVersion kind name, object.nsOrEmpty = ns →
    replica.get? ns name = some object
  fallback : (∀ object ∈ replica.listNamed ns apiVersion kind name, object.nsOrEmpty ≠ ns) →
    ∀ object ∈ replica.listNamed ns apiVersion kind name, object.metadata.ns = none →
      replica.get? ns name = some object
  absent : (∀ object ∈ replica.listNamed ns apiVersion kind name,
      object.nsOrEmpty ≠ ns ∧ object.metadata.ns ≠ none) →
    replica.get? ns name = none
  empty : ns ≠ "" →
    (replica.get? ns name = none ↔ replica.listNamed ns apiVersion kind name = [])

theorem eq_none_iff_of_listed {found : Option Object} {listed : List Object}
    {fits : Object → Prop} (here : ∀ object, found = some object ↔ object ∈ listed ∧ fits object) :
    found = none ↔ ∀ object ∈ listed, ¬ fits object := by
  simp only [Option.eq_none_iff_forall_ne_some, ne_eq, here, not_and]

theorem get?_eq_none_iff (filed : Filed replica.objects) (explicit : replica.IsExplicit)
    (apiVersion kind : String) :
    replica.get? ns name = none ↔ ∀ object ∈ replica.listNamed ns apiVersion kind name,
      object.nsOrEmpty ≠ ns ∧ object.metadata.ns ≠ none := by
  have own : replica.objects.get? ⟨ns, name⟩ = none ↔
      ∀ object ∈ replica.listNamed ns apiVersion kind name, ¬ object.nsOrEmpty = ns :=
    eq_none_iff_of_listed fun _ => stored_iff_listed filed explicit apiVersion kind
  have without : replica.objects.get? ⟨"", name⟩ = none ↔
      ∀ object ∈ replica.listNamed ns apiVersion kind name, ¬ object.metadata.ns = none :=
    eq_none_iff_of_listed fun _ => stored_nameless_iff_listed filed explicit apiVersion kind
  rw [get?, Option.or_eq_none_iff, own, without]
  exact forall₂_and.symm

theorem getsListed_of_explicit (filed : Filed replica.objects) (explicit : replica.IsExplicit)
    (ns apiVersion kind name : String) : replica.GetsListed ns apiVersion kind name where
  own object member inNs := by
    rw [get?, (stored_iff_listed filed explicit apiVersion kind).2 ⟨member, inNs⟩, Option.some_or]
  fallback others object member without := by
    have unstored : replica.objects.get? ⟨ns, name⟩ = none :=
      (eq_none_iff_of_listed fun _ => stored_iff_listed filed explicit apiVersion kind).2 others
    rw [get?, unstored, Option.none_or]
    exact (stored_nameless_iff_listed filed explicit apiVersion kind).2 ⟨member, without⟩
  absent := (get?_eq_none_iff filed explicit apiVersion kind).2
  empty named := by
    rw [get?_eq_none_iff filed explicit apiVersion kind, List.eq_nil_iff_forall_not_mem]
    refine forall_congr' fun object => ⟨fun apart member => ?_, fun absent member =>
      absurd member absent⟩
    -- Within a namespace nothing is listed but what is in it and what is in none.
    rcases ((mem_listNamed_iff filed.distinct).1 member).2.1 with isEmpty | without | inNs
    · exact named isEmpty
    · exact (apart member).2 without
    · exact (apart member).1 (by simp [Object.nsOrEmpty, inNs])

/-! ## Replicas of a stream -/

/-- A list shows what is stored and fits. -/
structure Shows (replica : Replica) (key : Key) : Prop where
  members : ∀ object, object ∈ replica.list key ↔
    (∃ id, replica.objects.get? id = some object) ∧ key.isMatch object = true
  once : ∀ id, ((replica.list key).filter fun object => object.id = id) =
    ((replica.objects.get? id).filter key.isMatch).toList
  increasing : (replica.list key).Pairwise Object.Before

theorem shows_list (filed : Filed replica.objects) (key : Key) : replica.Shows key :=
  ⟨fun _ => mem_list_iff filed.distinct, filter_id_list filed, increasing_list filed⟩

theorem filed_takeAll (items : List StreamItem) : Filed (empty.takeAll items).objects :=
  (mirrors_empty.takeAll items).filed

/-- Whatever a replica has taken in, a list for a key shows the stored objects that fit, and shows
them as any replica would that stores the same. What is got agrees with the list for the name if
the stored objects are explicit. -/
theorem reads_agree (items : List StreamItem) (key : Key) :
    (empty.takeAll items).Shows key ∧
      (∀ others, (∀ id, (empty.takeAll others).objects.get? id =
          (empty.takeAll items).objects.get? id) →
        (empty.takeAll others).list key = (empty.takeAll items).list key) ∧
      ((empty.takeAll items).IsExplicit → ∀ ns apiVersion kind name,
        (empty.takeAll items).GetsListed ns apiVersion kind name) :=
  ⟨shows_list (filed_takeAll items) key,
    fun others same => list_congr (filed_takeAll others) (filed_takeAll items) same,
    fun explicit => getsListed_of_explicit (filed_takeAll items) explicit⟩

def placedPod (name : String) (ns : Option String) : Object where
  types := some ⟨"v1", "Pod"⟩
  metadata := { Metadata.empty with name := some name, ns, resourceVersion := some "1" }
  fields := Dictionary.empty

/-- Pods of one name in a namespace and in none, and a pod of another name. Asked for in a third
namespace, the pod in none is got. -/
def arrivals : List StreamItem :=
  [.event .init, .event (.initApply (placedPod "web" (some "green"))),
    .event (.initApply (placedPod "web" none)), .event .initDone,
    .event (.apply (placedPod "api" (some "blue")))]

theorem isExplicit_arrivals : (empty.takeAll arrivals).IsExplicit := by
  have entries : ∀ entry ∈ (empty.takeAll arrivals).objects.entries,
      entry.2.metadata.name ≠ none ∧ entry.2.metadata.ns ≠ some "" := by decide
  exact ⟨fun stored => (entries _ (Table.mem_entries_of_get? stored)).1,
    fun stored => (entries _ (Table.mem_entries_of_get? stored)).2⟩

theorem reads_agree_arrivals :
    (empty.takeAll arrivals).IsExplicit ∧
      (empty.takeAll arrivals).GetsListed "blue" "v1" "Pod" "web" ∧
      (empty.takeAll arrivals).get? "blue" "web" = some (placedPod "web" none) :=
  ⟨isExplicit_arrivals,
    (reads_agree arrivals ⟨"blue", "v1", "Pod", none, none⟩).2.2 isExplicit_arrivals _ _ _ _, rfl⟩

end Replica

end ClusterCache
