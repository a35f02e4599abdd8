import ClusterCache.Proofs.Dictionary.Lookup
import ClusterCache.Proofs.Key.Text

/-!
# Keys, payloads and kinds

A payload spells a key by its fields, and a key is read from a payload if and only if the payload
spells it. The payload of a key spells the key without its selector; of the two ways to have no name
only one is read back. Between kinds and API versions nothing is lost for a kind without slashes,
nor for an API version that does not begin with one.
-/

namespace ClusterCache

/-! ## Fields of payloads -/

namespace Payload

@[simp] theorem get?_insert (payload : Payload) (key other : String) (value : Json) :
    (payload.insert key value).get? other =
      if other = key then some value else payload.get? other :=
  Dictionary.get?_insert _ _ _ _

theorem string_eq_ok_iff {payload : Payload} {key value : String} :
    payload.string key = .ok value ↔ payload.get? key = some (.string value) := by
  unfold string
  cases payload.get? key with
  | none => simp
  | some field => cases field <;> simp [Json.string?]

theorem optionalString_eq_ok_iff {payload : Payload} {key value : String} :
    payload.optionalString key = .ok value ↔
      payload.get? key = some (.string value) ∨
        value = "" ∧ (payload.get? key = none ∨ payload.get? key = some .null) := by
  unfold optionalString
  cases payload.get? key with
  | none => simp [eq_comm]
  | some field => cases field <;> simp [eq_comm]

/-- The fields of the payload spell the key. -/
structure Spells (payload : Payload) (key : Key) : Prop where
  ns : payload.get? "namespace" = some (.string key.ns) ∨
    key.ns = "" ∧ (payload.get? "namespace" = none ∨ payload.get? "namespace" = some .null)
  apiVersion : payload.get? "apiVersion" = some (.string key.apiVersion)
  kind : payload.get? "kind" = some (.string key.kind)
  name : payload.get? "name" = some (.string (key.name.getD ""))
  named : key.name ≠ some ""
  selector : key.selector = none

/-- What a payload must hold to spell a key. -/
structure IsAddress (payload : Payload) : Prop where
  apiVersion : ∃ value, payload.get? "apiVersion" = some (.string value)
  kind : ∃ value, payload.get? "kind" = some (.string value)
  name : ∃ value, payload.get? "name" = some (.string value)
  ns : ∀ value, payload.get? "namespace" = some value → value = .null ∨ ∃ text, value = .string text

end Payload

namespace Key

theorem ofPayload_eq_ok_iff_reads {payload : Payload} {key : Key} :
    ofPayload payload = .ok key ↔
      ∃ ns apiVersion kind name, payload.optionalString "namespace" = .ok ns ∧
        payload.string "apiVersion" = .ok apiVersion ∧ payload.string "kind" = .ok kind ∧
        payload.string "name" = .ok name ∧
        key = ⟨ns, apiVersion, kind, if name.isEmpty then none else some name, none⟩ := by
  unfold ofPayload
  cases payload.optionalString "namespace" with
  | error problem => simp [bind, Except.bind]
  | ok ns =>
    cases payload.string "apiVersion" with
    | error problem => simp [bind, Except.bind]
    | ok apiVersion =>
      cases payload.string "kind" with
      | error problem => simp [bind, Except.bind]
      | ok kind =>
        cases payload.string "name" with
        | error problem => simp [bind, Except.bind]
        | ok name =>
            constructor
            · intro accepted
              exact ⟨ns, apiVersion, kind, name, rfl, rfl, rfl, rfl, (Except.ok.inj accepted).symm⟩
            · rintro ⟨_, _, _, _, ⟨⟩, ⟨⟩, ⟨⟩, ⟨⟩, rfl⟩
              rfl

/-- A key is read from a payload if and only if the payload spells it. -/
theorem ofPayload_eq_ok_iff {payload : Payload} {key : Key} :
    ofPayload payload = .ok key ↔ payload.Spells key := by
  rw [ofPayload_eq_ok_iff_reads]
  constructor
  · rintro ⟨ns, apiVersion, kind, name, readNs, readApiVersion, readKind, readName, rfl⟩
    have named := Payload.string_eq_ok_iff.1 readName
    refine ⟨Payload.optionalString_eq_ok_iff.1 readNs, Payload.string_eq_ok_iff.1 readApiVersion,
      Payload.string_eq_ok_iff.1 readKind, ?_, ?_, rfl⟩
    · by_cases empty : name = ""
      · simpa [empty] using named
      · simpa [empty] using named
    · by_cases empty : name = ""
      · simp [empty]
      · simp [empty]
  · intro spells
    have readNs := Payload.optionalString_eq_ok_iff.2 spells.ns
    have readApiVersion := Payload.string_eq_ok_iff.2 spells.apiVersion
    have readKind := Payload.string_eq_ok_iff.2 spells.kind
    have readName := Payload.string_eq_ok_iff.2 spells.name
    refine ⟨key.ns, key.apiVersion, key.kind, key.name.getD "", readNs, readApiVersion, readKind,
      readName, ?_⟩
    have sameName : key.name =
        if (key.name.getD "").isEmpty then none else some (key.name.getD "") := by
      cases named : key.name with
      | none => rfl
      | some name =>
          have nonempty : name ≠ "" := fun empty => spells.named (by rw [named, empty])
          simp [nonempty]
    rw [← sameName, ← spells.selector]

theorem spells_unique {payload : Payload} {key other : Key} (spells : payload.Spells key)
    (otherSpells : payload.Spells other) : key = other := by
  have accepted := ofPayload_eq_ok_iff.2 spells
  rw [ofPayload_eq_ok_iff.2 otherSpells] at accepted
  exact (Except.ok.inj accepted).symm

/-- A payload is refused unless it holds what a key is spelled with. -/
theorem exists_spells_iff {payload : Payload} :
    (∃ key, payload.Spells key) ↔ payload.IsAddress := by
  constructor
  · rintro ⟨key, spells⟩
    refine ⟨⟨_, spells.apiVersion⟩, ⟨_, spells.kind⟩, ⟨_, spells.name⟩, ?_⟩
    intro value present
    rcases spells.ns with text | ⟨_, absent | isNull⟩
    · exact Or.inr ⟨_, Option.some.inj (present.symm.trans text)⟩
    · rw [present] at absent
      cases absent
    · exact Or.inl (Option.some.inj (present.symm.trans isNull))
  · rintro ⟨⟨apiVersion, isApiVersion⟩, ⟨kind, isKind⟩, ⟨name, isName⟩, nsFits⟩
    have readNs : ∃ ns, payload.optionalString "namespace" = .ok ns := by
      cases present : payload.get? "namespace" with
      | none => exact ⟨"", Payload.optionalString_eq_ok_iff.2 (Or.inr ⟨rfl, Or.inl present⟩)⟩
      | some value =>
          rcases nsFits value present with rfl | ⟨ns, rfl⟩
          · exact ⟨"", Payload.optionalString_eq_ok_iff.2 (Or.inr ⟨rfl, Or.inr present⟩)⟩
          · exact ⟨ns, Payload.optionalString_eq_ok_iff.2 (Or.inl present)⟩
    obtain ⟨ns, isNs⟩ := readNs
    refine ⟨_, ofPayload_eq_ok_iff.1 (ofPayload_eq_ok_iff_reads.2 ⟨ns, apiVersion, kind, name, isNs,
      Payload.string_eq_ok_iff.2 isApiVersion, Payload.string_eq_ok_iff.2 isKind,
      Payload.string_eq_ok_iff.2 isName, rfl⟩)⟩

/-! ## There and back -/

theorem getD_name? (key : Key) : key.name?.getD "" = key.name.getD "" := by
  unfold name?
  cases key.name with
  | none => rfl
  | some name => by_cases empty : name = "" <;> simp [Option.filter, empty]

theorem name?_ne_some_empty (key : Key) : key.name? ≠ some "" := by
  intro named
  simpa using (Option.filter_eq_some_iff.1 named).2

/-- The payload of a key spells the key without its selector, an empty name as no name. -/
theorem spells_toPayload (key : Key) :
    key.toPayload.Spells { key with name := key.name?, selector := none } := by
  have named : key.toPayload.get? "name" = some (.string (key.name?.getD "")) := by
    rw [getD_name?]
    simp [toPayload]
  refine ⟨Or.inl ?_, ?_, ?_, named, key.name?_ne_some_empty, rfl⟩
  · simp [toPayload]
  · simp [toPayload]
  · simp [toPayload]

/-- The payload of a key that has no empty name and no selector spells just this key. -/
theorem spells_toPayload_self {key : Key} (named : key.name ≠ some "")
    (unselected : key.selector = none) :
    key.toPayload.Spells key := by
  have sameName : key.name? = key.name := by
    unfold name?
    cases isNamed : key.name with
    | none => rfl
    | some name =>
        have nonempty : name ≠ "" := fun empty => named (by rw [isNamed, empty])
        simp [Option.filter, nonempty]
  have spells := key.spells_toPayload
  rwa [sameName, ← unselected] at spells

end Key

/-! ## Kinds and API versions -/

namespace Key

theorem ofGroupVersionKind_groupVersionKind {key : Key}
    (grouped : key.apiVersion.toList.head? ≠ some '/') :
    ofGroupVersionKind key.groupVersionKind = { key.scope with ns := "" } := by
  have spelled : key.groupVersionKind.apiVersion = key.apiVersion :=
    joinApiVersion_splitApiVersion_iff.2 grouped
  rw [ofGroupVersionKind, spelled]
  rfl

/-- What the conversions of keys lose, and nothing else. The payload of a key leaves out its
selector and reads an empty name as none, and a key that was read from a payload is read again from
its own. A kind without slashes is asked for by its own key; it is found again in its API version
unless its group, or its version without a group, holds a slash. An API version is spelled again by
its group and version unless it begins with a slash. -/
theorem conversions_lose_only :
    (∀ key : Key, ofPayload key.toPayload = .ok { key with name := key.name?, selector := none }) ∧
    (∀ (payload : Payload) (key : Key), ofPayload payload = .ok key →
      ofPayload key.toPayload = .ok key) ∧
    (∀ kind : GroupVersionKind, kind.IsSlashless →
      .ofApiVersion kind.apiVersion kind.kind = kind ∧
        (ofGroupVersionKind kind).groupVersionKind = kind) ∧
    (∀ kind : GroupVersionKind, .ofApiVersion kind.apiVersion kind.kind = kind ↔
      '/' ∉ kind.group.toList ∧ (kind.group = "" → '/' ∉ kind.version.toList)) ∧
    (∀ apiVersion kind, (GroupVersionKind.ofApiVersion apiVersion kind).apiVersion = apiVersion ↔
      apiVersion.toList.head? ≠ some '/') ∧
    ∀ key : Key, key.apiVersion.toList.head? ≠ some '/' →
      ofGroupVersionKind key.groupVersionKind = { key.scope with ns := "" } := by
  have found : ∀ kind : GroupVersionKind,
      GroupVersionKind.ofApiVersion kind.apiVersion kind.kind = kind ↔
        '/' ∉ kind.group.toList ∧ (kind.group = "" → '/' ∉ kind.version.toList) := by
    intro kind
    rw [← splitApiVersion_joinApiVersion_iff, GroupVersionKind.ofApiVersion,
      GroupVersionKind.apiVersion]
    obtain ⟨group, version, name⟩ := kind
    simp [Prod.ext_iff]
  refine ⟨?_, ?_, ?_, found, fun _ _ => joinApiVersion_splitApiVersion_iff,
    fun _ => ofGroupVersionKind_groupVersionKind⟩
  · exact fun key => ofPayload_eq_ok_iff.2 key.spells_toPayload
  · intro payload key accepted
    have spells := ofPayload_eq_ok_iff.1 accepted
    exact ofPayload_eq_ok_iff.2 (spells_toPayload_self spells.named spells.selector)
  · intro kind slashless
    have same := (found kind).2 ⟨slashless.group, fun _ => slashless.version⟩
    exact ⟨same, groupVersionKind_of_apiVersion slashless rfl rfl⟩

/-- A payload without a namespace and a name, a kind in a group, and an API version with two
slashes. -/
theorem conversions_lose_only_jobs :
    let payload := ((Payload.empty.insert "apiVersion" (.string "batch/v1/beta")).insert "kind"
      (.string "Job")).insert "name" (.string "")
    let jobs := ofScope "" "batch/v1/beta" "Job"
    let kind : GroupVersionKind := ⟨"batch", "v1", "Job"⟩
    (ofPayload payload = .ok jobs ∧ ofPayload jobs.toPayload = .ok jobs) ∧
      (kind.IsSlashless ∧ (ofGroupVersionKind kind).groupVersionKind = kind) ∧
      jobs.apiVersion.toList.head? ≠ some '/' ∧
      ofGroupVersionKind jobs.groupVersionKind = { jobs.scope with ns := "" } := by
  intro payload jobs kind
  have accepted : ofPayload payload = .ok jobs := rfl
  have slashless : kind.IsSlashless := ⟨by decide, by decide⟩
  have grouped : jobs.apiVersion.toList.head? ≠ some '/' := by decide
  obtain ⟨_, again, found, _, _, joined⟩ := conversions_lose_only
  exact ⟨⟨accepted, again payload jobs accepted⟩, ⟨slashless, (found kind slashless).2⟩, grouped,
    joined jobs grouped⟩

end Key

end ClusterCache
