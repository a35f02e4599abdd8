import ClusterCache.Proofs.Key.Narrowing
import ClusterCache.Proofs.Scopes.Forgetting
import Mathlib.Data.Set.Finite.Basic

/-!
# The loading record by key

The record finds its entries by the text of a key, and an entry carries a copy of its API version
and its kind. As long as all keys are legible, that comes to the same as looking keys up themselves,
up to what does not narrow them: after any operations the record answers as a map from keys would.
-/

namespace ClusterCache.Loading

/-! ## Operations -/

/-- What is done to the record. -/
inductive Operation
  | record (key : Key) (loaded : Bool)
  | confirm (key : Key) (stale : Bool)
  | forgetKind (apiVersion kind : String)
  | reset

def obey (loading : Loading) : Operation → Loading
  | .record key loaded => loading.record key loaded
  | .confirm key stale => (loading.confirm key stale).1
  | .forgetKind apiVersion kind => loading.forgetKind apiVersion kind
  | .reset => empty

def after (operations : List Operation) : Loading := operations.foldl obey empty

/-- The operation is for a legible key, if it is for one. -/
def Operation.IsLegible : Operation → Prop
  | .record key _ | .confirm key _ => key.IsLegible
  | .forgetKind .. | .reset => True

/-! ## The map from keys -/

/-- Which keys were asked for, and whether they are loaded. -/
abbrev Known := Key → Option Bool

namespace Known

def nothing : Known := fun _ => none

/-- The map after an operation. A name or a selector that does not narrow a key is left out of it.
-/
def obey (known : Known) : Operation → Known
  | .record key loaded => Function.update known key.normal (some loaded)
  | .confirm key stale => if stale then known else Function.update known key.normal (some true)
  | .forgetKind apiVersion kind => fun key =>
      if key.apiVersion = apiVersion ∧ key.kind = kind then none else known key
  | .reset => nothing

def after (operations : List Operation) : Known := operations.foldl obey nothing

/-- The keys that were asked for. -/
def asked (known : Known) : Set Key := {key | known key ≠ none}

theorem finite_asked_update {known : Known} (finite : known.asked.Finite) (key : Key)
    (loaded : Bool) : (asked (Function.update known key (some loaded))).Finite := by
  refine (finite.insert key).subset fun other otherAsked => ?_
  by_cases same : other = key
  · exact Set.mem_insert_iff.2 (Or.inl same)
  · have unchanged : Function.update known key (some loaded) other = known other :=
      Function.update_of_ne same _ _
    have askedBefore : known other ≠ none := by
      rw [← unchanged]
      exact otherAsked
    exact Set.mem_insert_of_mem _ askedBefore

theorem finite_asked_obey {known : Known} (finite : known.asked.Finite) (operation : Operation) :
    (known.obey operation).asked.Finite := by
  cases operation with
  | record key loaded => exact finite_asked_update finite _ _
  | confirm key stale =>
      cases stale with
      | true => exact finite
      | false => exact finite_asked_update finite _ _
  | forgetKind apiVersion kind =>
      refine finite.subset fun key stillAsked missing => stillAsked ?_
      simp only [obey, missing, ite_self]
  | reset => simp [obey, nothing, asked]

theorem finite_asked_after (operations : List Operation) : (after operations).asked.Finite := by
  have extends' : ∀ known : Known, known.asked.Finite →
      (operations.foldl obey known).asked.Finite := by
    induction operations with
    | nil => exact fun known finite => finite
    | cons operation rest inductionHypothesis =>
        exact fun known finite => inductionHypothesis _ (finite_asked_obey finite operation)
  exact extends' nothing (by simp [nothing, asked])

end Known

/-! ## Agreement -/

/-- Under the text of a legible key the record has what the map knows about the key. -/
structure Agrees (loading : Loading) (known : Known) : Prop where
  distinct : loading.entries.Distinct
  lookup : ∀ key : Key, key.IsLegible →
    loading.entries.get? key.text =
      (known key.normal).map fun loaded => ⟨key.apiVersion, key.kind, loaded⟩

theorem agrees_empty : Agrees empty Known.nothing where
  distinct := Table.distinct_empty
  lookup _ _ := rfl

namespace Agrees

variable {loading : Loading} {known : Known}

theorem record (agrees : Agrees loading known) {key : Key} (legible : key.IsLegible)
    (loaded : Bool) :
    Agrees (loading.record key loaded) (Function.update known key.normal (some loaded)) where
  distinct := distinct_record agrees.distinct key loaded
  lookup other otherLegible := by
    rw [Loading.record, Table.get?_insert]
    by_cases same : other.text = key.text
    · have sameKey : other.normal = key.normal := (otherLegible.text_eq_iff legible).1 same
      have apiVersion : other.apiVersion = key.apiVersion := (congrArg Key.apiVersion sameKey :)
      have kind : other.kind = key.kind := (congrArg Key.kind sameKey :)
      rw [if_pos same, sameKey, Function.update_self, Option.map_some, apiVersion, kind]
    · have different : other.normal ≠ key.normal := fun sameKey =>
        same ((otherLegible.text_eq_iff legible).2 sameKey)
      rw [if_neg same, Function.update_of_ne different, agrees.lookup other otherLegible]

theorem forgetKind (agrees : Agrees loading known) (apiVersion kind : String) :
    Agrees (loading.forgetKind apiVersion kind) (known.obey (.forgetKind apiVersion kind)) where
  distinct := distinct_forgetKind agrees.distinct apiVersion kind
  lookup key legible := by
    have known_of_key : known.obey (.forgetKind apiVersion kind) key.normal =
        if key.apiVersion = apiVersion ∧ key.kind = kind then none else known key.normal := rfl
    rw [get?_forgetKind agrees.distinct, agrees.lookup key legible, known_of_key]
    cases known key.normal with
    | none => simp
    | some loaded =>
        by_cases forgotten : key.apiVersion = apiVersion ∧ key.kind = kind
        · simp [forgotten, isOf, Option.filter]
        · rw [if_neg forgotten]
          have kept : isOf apiVersion kind ⟨key.apiVersion, key.kind, loaded⟩ = false := by
            simpa [isOf] using forgotten
          simp [Option.filter, kept]

theorem obey (agrees : Agrees loading known) {operation : Operation}
    (legible : operation.IsLegible) : Agrees (loading.obey operation) (known.obey operation) := by
  cases operation with
  | record key loaded => exact agrees.record legible loaded
  | confirm key stale =>
      cases stale with
      | true => exact agrees
      | false => exact agrees.record legible true
  | forgetKind apiVersion kind => exact agrees.forgetKind apiVersion kind
  | reset => exact agrees_empty

theorem isLoaded_eq (agrees : Agrees loading known) {key : Key} (legible : key.IsLegible) :
    loading.isLoaded key = (known key.normal).getD true := by
  rw [isLoaded, agrees.lookup key legible]
  cases known key.normal <;> rfl

theorem isRecorded_eq (agrees : Agrees loading known) {key : Key} (legible : key.IsLegible) :
    loading.isRecorded key = (known key.normal).isSome := by
  rw [isRecorded, Table.contains, agrees.lookup key legible, Option.isSome_map]

end Agrees

theorem agrees_after {operations : List Operation}
    (legible : ∀ operation ∈ operations, operation.IsLegible) :
    Agrees (after operations) (Known.after operations) := by
  have continues : ∀ loading known, Agrees loading known →
      Agrees (operations.foldl obey loading) (operations.foldl Known.obey known) := by
    induction operations with
    | nil => exact fun _ _ agrees => agrees
    | cons operation rest inductionHypothesis =>
        intro loading known agrees
        have restLegible : ∀ other ∈ rest, other.IsLegible := fun other member =>
          legible other (List.mem_cons_of_mem _ member)
        have firstLegible : operation.IsLegible := legible operation List.mem_cons_self
        exact inductionHypothesis restLegible _ _ (agrees.obey firstLegible)
  exact continues empty Known.nothing agrees_empty

/-- The record answers as a map from keys would, after any operations for legible keys: what is
absent counts as loaded but not as recorded, whoever is out of date changes nothing and is told so,
and to forget a kind forgets its keys in every namespace and no others. The texts by which it finds
its entries tell legible keys apart, up to what does not narrow them. -/
theorem answers_as_map :
    (∀ left right : Key, left.IsLegible → right.IsLegible →
      (left.text = right.text ↔ left.normal = right.normal)) ∧
    ∀ operations : List Operation, (∀ operation ∈ operations, operation.IsLegible) →
      (Known.after operations).asked.Finite ∧
      ∀ key : Key, key.IsLegible →
        (after operations).isLoaded key = (Known.after operations key.normal).getD true ∧
          (after operations).isRecorded key = (Known.after operations key.normal).isSome ∧
          (after operations).confirm key true = (after operations, false) ∧
          ((after operations).confirm key false).2 = true := by
  constructor
  · intro left right leftLegible rightLegible
    exact leftLegible.text_eq_iff rightLegible
  · intro operations legible
    refine ⟨Known.finite_asked_after operations, fun key keyLegible => ?_⟩
    have agrees := agrees_after legible
    exact ⟨agrees.isLoaded_eq keyLegible, agrees.isRecorded_eq keyLegible, rfl, rfl⟩

/-- The services of a namespace, those with a label, and the same two once more, spelled with an
empty name and with an empty selector. -/
def services : Key := .ofScope "ci" "v1" "Service"

def webServices : Key := services.withSelector [("tier", "web")]

def servicesAgain : Key := (services.withName "").withSelector []

theorem isLegible_services : services.IsLegible where
  unquoted := ⟨by decide, by decide, by decide⟩
  name _ named := nomatch named
  labels _ selected := nomatch selected

theorem isLegible_webServices : webServices.IsLegible where
  unquoted := ⟨by decide, by decide, by decide⟩
  name _ named := nomatch named
  labels selector selected entry member := by
    obtain rfl := Option.some.inj selected
    obtain rfl := List.mem_singleton.1 member
    exact ⟨by decide, by decide, by decide, by decide, by decide⟩

theorem isLegible_servicesAgain : servicesAgain.IsLegible where
  unquoted := ⟨by decide, by decide, by decide⟩
  name _ named := by
    obtain rfl := Option.some.inj named
    decide
  labels selector selected entry member := by
    obtain rfl := Option.some.inj selected
    cases member

/-- A stale confirmation leaves the services loading, under either spelling; those with a label were
confirmed; and forgetting deployments forgets none of them. -/
theorem answers_as_map_services :
    let operations : List Operation :=
      [.record services false, .record webServices false, .confirm servicesAgain true,
        .confirm webServices false, .forgetKind "apps/v1" "Deployment"]
    (∀ operation ∈ operations, operation.IsLegible) ∧ services.text = servicesAgain.text ∧
      (after operations).isLoaded servicesAgain = false ∧
      (after operations).isLoaded webServices = true ∧
      (after operations).isRecorded webServices = true := by
  intro operations
  have legible : ∀ operation ∈ operations, operation.IsLegible := by
    simp [operations, Operation.IsLegible, isLegible_services, isLegible_webServices,
      isLegible_servicesAgain]
  have known := (answers_as_map.2 operations legible).2
  have again := known servicesAgain isLegible_servicesAgain
  have web := known webServices isLegible_webServices
  have sameText :=
    answers_as_map.1 services servicesAgain isLegible_services isLegible_servicesAgain
  refine ⟨legible, sameText.2 (by decide), again.1.trans ?_, web.1.trans ?_, web.2.1.trans ?_⟩
  · decide
  · decide
  · decide

end ClusterCache.Loading
