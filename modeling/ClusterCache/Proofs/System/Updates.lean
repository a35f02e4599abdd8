import ClusterCache.Connection.Basic
import ClusterCache.Proofs.System.Permission
import ClusterCache.Proofs.System.Requests

/-!
# What an update writes

An update reads the object that its key names and writes back what the change makes of it. Where it
writes is decided by the object that it writes, not by the key. Main statement: if the change keeps
the identity of objects, then whatever is written goes to where the object that was read says it
is, with permission for the namespace in which it was read.
-/

namespace ClusterCache

/-! ## Where a connection sends requests -/

namespace Connection

/-- On the connection the request goes to the path of the object. -/
def Addresses (connection : Connection) (request : Request) (resource : ApiResource)
    (id : ObjectId) : Prop :=
  ∃ method mark body, connection.httpRequest request =
    ((connection.collection resource id.ns).objectPath id.name).bind fun path =>
      HttpRequest.build method (path ++ mark) body

theorem addresses_get (connection : Connection) (resource : ApiResource) (ns name : String) :
    connection.Addresses (.get resource ns name) resource ⟨ns, name⟩ := by
  refine ⟨.get, "", none, ?_⟩
  simp only [String.append_empty]
  rfl

theorem addresses_replace (connection : Connection) (resource : ApiResource) (object : Object) :
    connection.Addresses (.replace resource object) resource object.id :=
  ⟨.put, "?", some object.toJson, rfl⟩

end Connection

/-! ## Where an update reads -/

/-- Whoever has to name an object does; and what is read to be changed is what the key names. -/
def Stage.IsAddressed (operation : Operation) : Stage → Prop
  | .asking _ _ .map => operation.IsNamed
  | .asking _ request (.read resource) =>
      ∃ key change name, operation = .update key change ∧ key.name? = some name ∧
        request = .get resource key.ns name
  | _ => True

theorem Store.Goes.isAddressed {store : Store} {call : CallId} {operation : Operation}
    {move : Move} {stage : Stage} {next : Store × Stage}
    (goes : store.Goes call operation move stage next) (addressed : stage.IsAddressed operation) :
    next.2.IsAddressed operation := by
  cases goes with
  | stays _ _ => exact addressed
  | asks _ asks _ =>
      cases asks with
      | maps stage key verb need named => exact named
      | reads client request resource key change updates =>
          have named : operation.IsNamed := addressed
          rw [updates] at named
          obtain ⟨name, named⟩ := named
          refine ⟨key, change, name, updates, named, ?_⟩
          rw [Key.getD_name named]
      | _ => trivial
  | _ => trivial

/-- Whoever works on a resource had permission. -/
theorem Course.permitted_of_work {key : Key} {verb : Verb} {findings : List Finding}
    {client : ClientId} {request : Request} {purpose : Purpose}
    (course : Course key verb findings (.asking client request purpose))
    (isWork : purpose.isWork = true) : Permitted key verb findings := by
  cases course with
  | working hasKind resource worked => exact permitted_permission key verb resource _
  | _ => cases isWork

namespace System

section Run

variable {config : StoreConfig} {first : ClientId} {moves : List Move} {move : Move}
  {call : CallId} {client : ClientId} {resource : ApiResource} {written : Object}

/-- Whoever replaces an object is an update with permission that has just read what its key names,
on the connection that it writes on. -/
theorem reading_of_replaces
    (sends : ((start config first).run moves).SendsOn move call client
      (.replace resource written)) :
    ∃ key change name object,
      ((start config first).run moves).calls[call]? =
          some ⟨.update key change, .asking client (.get resource key.ns name) (.read resource)⟩ ∧
        key.name? = some name ∧ move = .answer call (.object (.ok (some object))) ∧
        change object = .ok written ∧
        Permitted key .update ((start config first).findings call key .update moves) := by
  obtain ⟨after, calledAfter, ⟨purpose, _, asks⟩ | ⟨opened, _, watches, _⟩⟩ := sends.asks_or_watches
  · generalize stands : ((start config first).run moves).stood call = stage at asks
    cases asks with
    | replaces _ request _ key change updates object _ answered changed =>
        obtain ⟨operation, before⟩ := called_of_stood stands nofun
        obtain rfl : .update key change = operation :=
          updates.symm.trans (operation_eq before calledAfter)
        obtain ⟨_, _, name, isUpdate, named, request⟩ :=
          stages_run (fun _ => trivial) Store.Goes.isAddressed config first moves before
        cases isUpdate
        subst request
        exact ⟨key, change, name, object, before, named, answered, changed,
          (course_run before rfl).permitted_of_work rfl⟩
  · cases watches

end Run

/-- An update whose change keeps the identity of objects writes only to where the object that it
has read says that it is. It has read it under its key, on the same connection, and it is permitted
to update in the namespace of the key. -/
theorem update_writes_what_it_read (config : StoreConfig) (first : ClientId) (moves : List Move)
    (call : CallId) (key : Key) (change : Object → Except Error Object) (stage : Stage)
    (called : ((start config first).run moves).calls[call]? = some ⟨.update key change, stage⟩)
    (keeps : ∀ object written, change object = .ok written → written.id = object.id)
    (move : Move) (client : ClientId) (resource : ApiResource) (written : Object)
    (sends : ((start config first).run moves).SendsOn move call client
      (.replace resource written)) :
    Permitted key .update ((start config first).findings call key .update moves) ∧
      ∃ name object, key.name? = some name ∧
        stage = .asking client (.get resource key.ns name) (.read resource) ∧
        move = .answer call (.object (.ok (some object))) ∧ change object = .ok written ∧
        ∀ connection : Connection,
          connection.Addresses (.get resource key.ns name) resource ⟨key.ns, name⟩ ∧
            connection.Addresses (.replace resource written) resource object.id := by
  obtain ⟨_, _, name, object, calledReading, named, answered, changed, permitted⟩ :=
    reading_of_replaces sends
  rw [called] at calledReading
  cases calledReading
  refine ⟨permitted, name, object, named, rfl, answered, changed, ?_⟩
  intro connection
  refine ⟨connection.addresses_get resource key.ns name, ?_⟩
  rw [← keeps object written changed]
  exact connection.addresses_replace resource written

/-! Settings that are updated, once with a new version and once with a new namespace. -/

def settingsKey : Key := (Key.ofScope "team" "v1" "ConfigMap").withName "settings"

def settingsResource : ApiResource := .served "" "v1" "ConfigMap" "configmaps"

def settings : Object where
  types := some ⟨"v1", "ConfigMap"⟩
  metadata := { Metadata.empty with
    name := some "settings", ns := some "team", resourceVersion := some "1" }
  fields := Dictionary.empty

def renewed (version : String) (object : Object) : Except Error Object :=
  .ok { object with metadata.resourceVersion := some version }

def moved (ns : String) (object : Object) : Except Error Object :=
  .ok { object with metadata.ns := some ns }

/-- An update on the way to the answer with the object. -/
def updateRun (change : Object → Except Error Object) : List Move :=
  [.begin (.update settingsKey change), .answer 0 (.resource (.ok settingsResource)),
    .answer 0 (.review (.ok true)), .answer 0 (.resource (.ok settingsResource))]

theorem update_writes_what_it_read_settings :
    let written := { settings with metadata.resourceVersion := some "2" }
    let system := (start .standard 0).run (updateRun (renewed "2"))
    system.SendsOn (.answer 0 (.object (.ok (some settings)))) 0 0
        (.replace settingsResource written) ∧
      Permitted settingsKey .update
        ((start .standard 0).findings 0 settingsKey .update (updateRun (renewed "2"))) ∧
      ∃ name object, settingsKey.name? = some name ∧ renewed "2" object = .ok written ∧
        ∀ connection : Connection,
          connection.Addresses (.replace settingsResource written) settingsResource object.id := by
  intro written system
  have sends : system.SendsOn (.answer 0 (.object (.ok (some settings)))) 0 0
      (.replace settingsResource written) := ⟨rfl, [_], rfl, List.mem_singleton.2 rfl⟩
  have keeps : ∀ object written, renewed "2" object = .ok written → written.id = object.id := by
    intro object written changed
    rw [← Except.ok.inj changed]
    rfl
  obtain ⟨permitted, name, object, named, _, _, changed, addresses⟩ :=
    update_writes_what_it_read .standard 0 (updateRun (renewed "2")) 0 settingsKey (renewed "2") _
      rfl keeps _ 0 settingsResource written sends
  exact ⟨sends, permitted, name, object, named, changed, fun connection => (addresses connection).2⟩

/-- A change of the namespace is written to the other namespace, for which nothing was decided. -/
theorem update_writes_elsewhere :
    let written := { settings with metadata.ns := some "kube-system" }
    let read : Move := .answer 0 (.object (.ok (some settings)))
    let system := (start .standard 0).run (updateRun (moved "kube-system"))
    system.stage? 0 = some (.asking 0 (.get settingsResource "team" "settings")
        (.read settingsResource)) ∧
      system.SendsOn read 0 0 (.replace settingsResource written) ∧
      written.id = ⟨"kube-system", "settings"⟩ ∧ settings.id = ⟨"team", "settings"⟩ ∧
      (∀ connection : Connection, connection.Addresses (.replace settingsResource written)
        settingsResource ⟨"kube-system", "settings"⟩) ∧
      system.store.access.decisions.keys = [⟨"team", "", "configmaps", "update"⟩] ∧
      (system.run [read, .answer 0 (.written (.ok ()))]).stage? 0 = some (.finished (.ok .done)) :=
  ⟨rfl, ⟨rfl, [_], rfl, List.mem_singleton.2 rfl⟩, rfl, rfl,
    fun connection => connection.addresses_replace settingsResource _, rfl, rfl⟩

end System

end ClusterCache
