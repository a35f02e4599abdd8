import ClusterCache.Proofs.Informers.Roster
import Mathlib.Data.List.Induction

/-!
# What a wait can see

Whoever waits for the first list of an informer sees three signals: the token of the informer is
cancelled, the informer has its list, or the waiting is called off. Anything may happen in between,
and whoever holds a token may cancel it. An informer has its list exactly when its loop took in an
item that completes one; an informer that is current is of the type it is current for, and is of
that type for good.
-/

namespace ClusterCache

namespace Informers

variable {η : Type}

/-- Cancels the token of an informer. What is current stays current. -/
def cancel (informers : Informers η) (id : InformerId) : Informers η :=
  { informers with tokens := informers.tokens.cancel (informers.informer id).token }

/-! ## Types of informers -/

/-- No informer was forgotten, and none is of another type. -/
structure Retains (before after : Informers η) : Prop where
  started : before.started.length ≤ after.started.length
  type : ∀ {id}, id < before.started.length →
    (after.informer id).type = (before.informer id).type

theorem Retains.refl (informers : Informers η) : informers.Retains informers :=
  ⟨Nat.le_refl _, fun _ => rfl⟩

theorem Retains.trans {first second third : Informers η} (left : first.Retains second)
    (right : second.Retains third) : first.Retains third where
  started := Nat.le_trans left.started right.started
  type used :=
    (right.type (Nat.lt_of_lt_of_le used left.started)).trans (left.type used)

theorem Persists.retains {before after : Informers η} (persists : before.Persists after) :
    before.Retains after :=
  ⟨persists.started, persists.type _⟩

/-- Every type has at most one current informer, which is of that type. Unlike ownership, this
stands whoever cancels a token. -/
structure Catalogued (informers : Informers η) : Prop where
  distinct : informers.current.Distinct
  used : ∀ {type id}, informers.find? type = some id → id < informers.started.length
  type : ∀ {type id}, informers.find? type = some id → (informers.informer id).type = type

theorem catalogued_empty (client : ClientId) (ns : Option String) :
    (empty client ns : Informers η).Catalogued where
  distinct := Table.distinct_empty
  used found := by cases found
  type found := by cases found

/-- Nothing became current that was not before. -/
theorem Catalogued.of_retains {before after : Informers η} (catalogued : before.Catalogued)
    (retains : before.Retains after) (distinct : after.current.Distinct)
    (found : ∀ {type id}, after.find? type = some id → before.find? type = some id) :
    after.Catalogued where
  distinct := distinct
  used now := Nat.lt_of_lt_of_le (catalogued.used (found now)) retains.started
  type now := (retains.type (catalogued.used (found now))).trans (catalogued.type (found now))

theorem Catalogued.start {informers : Informers η} (catalogued : informers.Catalogued)
    (resource : ApiResource) : (informers.start resource).1.Catalogued where
  distinct := catalogued.distinct.insert _ _
  used {type id} found := by
    rw [length_started_start]
    rw [find?_start] at found
    split at found
    · cases found
      exact Nat.lt_succ_self _
    · exact Nat.lt_succ_of_lt (catalogued.used found)
  type {type id} found := by
    rw [find?_start] at found
    split at found
    · rename_i same
      cases found
      rw [informer_start_fresh, same]
      rfl
    · rw [informer_start_of_lt _ _ (catalogued.used found)]
      exact catalogued.type found

theorem Catalogued.obey {informers : Informers η} (catalogued : informers.Catalogued)
    (command : Command) : (informers.obey command).Catalogued := by
  have retains := (persists_obey informers command).retains
  cases command with
  | obtain resource =>
      simp only [Informers.obey, Informers.obtain]
      split
      · exact catalogued
      · exact catalogued.start resource
  | stop type =>
      refine catalogued.of_retains retains ?_ fun {other id} found => ?_
      · simp only [Informers.obey, Informers.stop]
        split
        · exact catalogued.distinct.insert _ _
        · exact catalogued.distinct
      · rw [Informers.obey, find?_stop] at found
        split at found
        · cases found
        · exact found
  | stopAll =>
      exact catalogued.of_retains retains Table.distinct_empty fun found => by cases found
  | changeClient client => exact catalogued.of_retains retains catalogued.distinct id
  | shutdown => exact catalogued.of_retains retains catalogued.distinct id

theorem retains_modify (informers : Informers η) (id : InformerId)
    (change : Informer η → Informer η)
    (type : (change (informers.informer id)).type = (informers.informer id).type) :
    informers.Retains (informers.modify id change) :=
  ⟨Nat.le_of_eq (length_started_modify informers id change).symm,
    fun _ => informer_modify_eq informers id Informer.type type _⟩

theorem retains_turn (informers : Informers η) (id : InformerId) :
    informers.Retains ((loop id).turn informers) := by
  cases next : (loop id).next? informers with
  | some item =>
      rw [turn_of_some next]
      exact retains_modify informers id _ rfl
  | none =>
      rcases (loop id).turn_of_next?_none next with same | left
      · rw [same]
        exact Retains.refl informers
      · rw [left]
        exact retains_modify informers id (fun _ => _) rfl

theorem current_turn (informers : Informers η) (id : InformerId) :
    ((loop id).turn informers).current = informers.current := by
  rcases turn_loop_eq_modify informers id with same | ⟨change, turned⟩
  · rw [same]
  · rw [turned]
    rfl

theorem retains_happen (informers : Informers η) (event : Event η) :
    informers.Retains (informers.happen event) := by
  cases event with
  | command command => exact (persists_obey informers command).retains
  | send id item =>
      exact retains_modify informers id (fun informer => informer.send item)
        (Informer.type_send _ item)
  | endStream id => exact retains_modify informers id Informer.endStream rfl
  | register id change =>
      exact retains_modify informers id
        (fun informer => { informer with handlers := change informer.handlers }) rfl
  | turn id => exact retains_turn informers id

theorem Catalogued.happen {informers : Informers η} (catalogued : informers.Catalogued)
    (event : Event η) : (informers.happen event).Catalogued := by
  have retains := retains_happen informers event
  have of_current : (informers.happen event).current = informers.current →
      (informers.happen event).Catalogued := by
    intro same
    refine catalogued.of_retains retains (same ▸ catalogued.distinct) fun found => ?_
    rwa [find?, same] at found
  cases event with
  | command command => exact catalogued.obey command
  | send id item => exact of_current rfl
  | endStream id => exact of_current rfl
  | register id change => exact of_current rfl
  | turn id => exact of_current (current_turn informers id)

end Informers

/-! ## Settings -/

/-- The informers, and whether the waiting for them was called off. -/
structure Setting (η : Type) where
  informers : Informers η
  calledOff : Bool

/-- What may happen while somebody waits. -/
inductive Occurrence (η : Type)
  | event (event : Informers.Event η)
  | cancel (id : InformerId)
  | callOff

namespace Setting

variable {η : Type}

def start (client : ClientId) (ns : Option String) : Setting η := ⟨.empty client ns, false⟩

def occur (setting : Setting η) : Occurrence η → Setting η
  | .event event => { setting with informers := setting.informers.happen event }
  | .cancel id => { setting with informers := setting.informers.cancel id }
  | .callOff => { setting with calledOff := true }

def afterAll (setting : Setting η) (occurrences : List (Occurrence η)) : Setting η :=
  occurrences.foldl occur setting

theorem afterAll_append (setting : Setting η) (occurrences more : List (Occurrence η)) :
    setting.afterAll (occurrences ++ more) = (setting.afterAll occurrences).afterAll more :=
  List.foldl_append

theorem afterAll_concat (setting : Setting η) (occurrences : List (Occurrence η))
    (last : Occurrence η) :
    setting.afterAll (occurrences ++ [last]) = (setting.afterAll occurrences).occur last :=
  afterAll_append setting occurrences [last]

/-- What a wait for the informer sees: its token is cancelled, it has its list, the waiting is
called off. -/
def signals (setting : Setting η) (id : InformerId) : Bool × Bool × Bool :=
  (setting.informers.isStopped id, (setting.informers.informer id).replica.synced,
    setting.calledOff)

/-! ## Types -/

theorem retains_afterAll (setting : Setting η) (occurrences : List (Occurrence η)) :
    setting.informers.Retains (setting.afterAll occurrences).informers := by
  induction occurrences generalizing setting with
  | nil => exact Informers.Retains.refl _
  | cons occurrence rest inductionHypothesis =>
      refine Informers.Retains.trans ?_ (inductionHypothesis (setting.occur occurrence))
      cases occurrence with
      | event event => exact Informers.retains_happen _ event
      | cancel id => exact ⟨Nat.le_refl _, fun _ => rfl⟩
      | callOff => exact Informers.Retains.refl _

theorem catalogued_afterAll {setting : Setting η} (catalogued : setting.informers.Catalogued)
    (occurrences : List (Occurrence η)) :
    (setting.afterAll occurrences).informers.Catalogued := by
  induction occurrences generalizing setting with
  | nil => exact catalogued
  | cons occurrence rest inductionHypothesis =>
      have occurred : (setting.occur occurrence).informers.Catalogued := by
        cases occurrence with
        | event event => exact catalogued.happen event
        | cancel id => exact ⟨catalogued.distinct, catalogued.used, catalogued.type⟩
        | callOff => exact catalogued
      exact inductionHypothesis occurred

/-! ## First lists -/

/-- With this the loop of the informer takes in an item that completes a list. -/
def completes (setting : Setting η) (id : InformerId) : Occurrence η → Bool
  | .event (.turn other) =>
      other = id && ((Informers.loop id).next? setting.informers).any StreamItem.completes
  | _ => false

/-- At one of the occurrences the informer completed a list. -/
def Listed (setting : Setting η) (occurrences : List (Occurrence η)) (id : InformerId) : Prop :=
  ∃ before occurrence, before ++ [occurrence] <+: occurrences ∧
    (setting.afterAll before).completes id occurrence = true

theorem listed_concat_iff {setting : Setting η} {occurrences : List (Occurrence η)}
    {last : Occurrence η} {id : InformerId} :
    setting.Listed (occurrences ++ [last]) id ↔
      setting.Listed occurrences id ∨
        (setting.afterAll occurrences).completes id last = true := by
  constructor
  · rintro ⟨before, occurrence, isPrefix, completed⟩
    -- The occurrence that completed the list is the last one or an earlier one.
    rcases List.prefix_concat_iff.1 isPrefix with whole | earlier
    · obtain ⟨rfl, same⟩ := List.append_inj' whole rfl
      obtain rfl := List.singleton_inj.1 same
      exact Or.inr completed
    · exact Or.inl ⟨before, occurrence, earlier, completed⟩
  · rintro (⟨before, occurrence, isPrefix, completed⟩ | completed)
    · exact ⟨before, occurrence, isPrefix.trans (List.prefix_append _ _), completed⟩
    · exact ⟨occurrences, last, List.prefix_rfl, completed⟩

theorem synced_modify (informers : Informers η) (id : InformerId)
    (change : Informer η → Informer η)
    (kept : (change (informers.informer id)).replica = (informers.informer id).replica)
    (other : InformerId) :
    ((informers.modify id change).informer other).replica.synced =
      (informers.informer other).replica.synced :=
  congrArg Replica.synced (Informers.informer_modify_eq informers id Informer.replica kept other)

theorem synced_turn (informers : Informers η) (id other : InformerId) :
    (((Informers.loop id).turn informers).informer other).replica.synced =
      ((informers.informer other).replica.synced ||
        (decide (id = other) &&
          ((Informers.loop other).next? informers).any StreamItem.completes)) := by
  by_cases same : id = other
  · subst same
    -- The informer's own loop turns: it syncs the informer if the item completes a list.
    cases next : (Informers.loop id).next? informers with
    | some item =>
        have used := Informers.lt_length_of_next? next
        rw [Informers.turn_of_some next, Informers.takenIn, Informers.informer_modify_self used,
          Replica.synced_takeItem]
        simp
    | none =>
        rcases (Informers.loop id).turn_of_next?_none next with unmoved | left
        · rw [unmoved]
          simp
        · rw [left]
          have kept := synced_modify informers id
            (fun _ => { informers.informer id with running := false }) rfl id
          exact kept.trans (by simp)
  · have kept : ((Informers.loop id).turn informers).informer other = informers.informer other := by
      rcases Informers.turn_loop_eq_modify informers id with unmoved | ⟨change, turned⟩
      · rw [unmoved]
      · rw [turned, Informers.informer_modify_of_ne informers (Ne.symm same)]
    rw [kept]
    simp [same]

theorem synced_occur (setting : Setting η) (occurrence : Occurrence η) (id : InformerId) :
    ((setting.occur occurrence).informers.informer id).replica.synced =
      ((setting.informers.informer id).replica.synced || setting.completes id occurrence) := by
  cases occurrence with
  | event event =>
      cases event with
      | command command =>
          have continued := Informers.continues_obey setting.informers command
          exact (congrArg Replica.synced (continued.replica id)).trans (Bool.or_false _).symm
      | send other item =>
          have kept := synced_modify setting.informers other (fun informer => informer.send item)
            (Informer.replica_send _ item) id
          exact kept.trans (Bool.or_false _).symm
      | endStream other =>
          have kept := synced_modify setting.informers other Informer.endStream rfl id
          exact kept.trans (Bool.or_false _).symm
      | register other change =>
          have kept := synced_modify setting.informers other
            (fun informer => { informer with handlers := change informer.handlers }) rfl id
          exact kept.trans (Bool.or_false _).symm
      | turn other => exact synced_turn setting.informers other id
  | cancel other => exact (Bool.or_false _).symm
  | callOff => exact (Bool.or_false _).symm

/-- An informer has its list once it completed one. -/
theorem synced_iff_listed (client : ClientId) (ns : Option String)
    (occurrences : List (Occurrence η)) (id : InformerId) :
    (((start client ns).afterAll occurrences).informers.informer id).replica.synced = true ↔
      (start client ns).Listed occurrences id := by
  induction occurrences using List.reverseRecOn with
  | nil =>
      refine iff_of_false Bool.false_ne_true ?_
      rintro ⟨before, occurrence, isPrefix, _⟩
      simp at isPrefix
  | append_singleton occurrences last inductionHypothesis =>
      rw [afterAll_concat, synced_occur, Bool.or_eq_true, inductionHypothesis, listed_concat_iff]

end Setting

end ClusterCache
