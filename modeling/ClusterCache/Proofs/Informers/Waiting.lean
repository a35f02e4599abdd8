import ClusterCache.Informers.Barrier
import ClusterCache.Proofs.Informers.Signals

/-!
# Waiting for first lists

Waits for the first lists of informers sleep until one of their signals changes, and look at their
informers when they are polled. Main statement: whatever happens before and during the wait and in
whatever order the waits are polled, a verdict tells what became of the informer that the wait is
for, it stays, and no wait that sleeps has missed a signal. A barrier has one verdict for each type
that had a current informer when it was raised, whatever is current later.
-/

namespace ClusterCache

variable {η : Type}

/-- Waits without verdicts, each for an informer and under a type. -/
def Barrier.ofWaits (waits : List (ResourceType × InformerId)) : Barrier :=
  ⟨waits.map fun (type, informer) => ⟨type, informer, none⟩⟩

/-- Waits before the informers that they are for. -/
structure Vigil (η : Type) where
  setting : Setting η
  barrier : Barrier
  /-- A signal woke the wait at the place, and it has not looked since. -/
  woken : Nat → Bool

namespace Vigil

/-- What may happen, or a wait is polled. -/
inductive Move (η : Type)
  | occur (occurrence : Occurrence η)
  | poll (place : Nat)

def Move.occurrence? : Move η → Option (Occurrence η)
  | occur occurrence => some occurrence
  | poll _ => none

def occurrences (moves : List (Move η)) : List (Occurrence η) := moves.filterMap Move.occurrence?

/-- Everybody looks at least once. -/
def start (setting : Setting η) (waits : List (ResourceType × InformerId)) : Vigil η :=
  ⟨setting, .ofWaits waits, fun _ => true⟩

/-- What happens wakes the waits that see another signal. -/
def step (vigil : Vigil η) : Move η → Vigil η
  | .occur occurrence =>
      let setting := vigil.setting.occur occurrence
      { vigil with
        setting
        woken := fun place => vigil.woken place ||
          vigil.barrier.entries[place]?.any fun entry =>
            setting.signals entry.informer ≠ vigil.setting.signals entry.informer }
  | .poll place =>
      { vigil with
        barrier := ⟨vigil.barrier.entries.modify place
          (Barrier.lookAt vigil.setting.informers vigil.setting.calledOff)⟩
        woken := Function.update vigil.woken place false }

def afterAll (vigil : Vigil η) (moves : List (Move η)) : Vigil η := moves.foldl step vigil

/-- No wait is about to look. -/
def Settled (vigil : Vigil η) : Prop :=
  ∀ place < vigil.barrier.entries.length, vigil.woken place = false

theorem afterAll_append (vigil : Vigil η) (moves more : List (Move η)) :
    vigil.afterAll (moves ++ more) = (vigil.afterAll moves).afterAll more :=
  List.foldl_append

theorem afterAll_concat (vigil : Vigil η) (moves : List (Move η)) (last : Move η) :
    vigil.afterAll (moves ++ [last]) = (vigil.afterAll moves).step last :=
  afterAll_append vigil moves [last]

theorem occurrences_concat (moves : List (Move η)) (last : Move η) :
    occurrences (moves ++ [last]) = occurrences moves ++ last.occurrence?.toList := by
  rw [occurrences, List.filterMap_append, occurrences]
  cases last <;> rfl

theorem setting_afterAll (vigil : Vigil η) (moves : List (Move η)) :
    (vigil.afterAll moves).setting = vigil.setting.afterAll (occurrences moves) := by
  induction moves using List.reverseRecOn with
  | nil => rfl
  | append_singleton moves last inductionHypothesis =>
      rw [afterAll_concat, occurrences_concat]
      cases last with
      | occur occurrence =>
          rw [Move.occurrence?, Option.toList_some, Setting.afterAll_concat, ← inductionHypothesis]
          rfl
      | poll place =>
          rw [Move.occurrence?, Option.toList_none, List.append_nil, ← inductionHypothesis]
          rfl

end Vigil

/-! ## Looking -/

namespace Setting

/-- The verdict of a wait for an informer, if it looks now. -/
def verdict? (setting : Setting η) (id : InformerId) : Option Bool :=
  (setting.informers.informer id).syncVerdict? (setting.informers.isStopped id) setting.calledOff

theorem verdict?_congr {setting other : Setting η} {id : InformerId}
    (same : setting.signals id = other.signals id) : setting.verdict? id = other.verdict? id := by
  simp only [signals, Prod.mk.injEq] at same
  simp only [verdict?, Informer.syncVerdict?, same]

theorem verdict?_eq_none_iff {setting : Setting η} {id : InformerId} :
    setting.verdict? id = none ↔ setting.informers.isStopped id = false ∧
      (setting.informers.informer id).replica.synced = false ∧ setting.calledOff = false := by
  unfold verdict? Informer.syncVerdict?
  cases setting.informers.isStopped id <;>
    cases (setting.informers.informer id).replica.synced <;> cases setting.calledOff <;> simp

theorem verdict?_eq_true_iff {setting : Setting η} {id : InformerId} :
    setting.verdict? id = some true ↔ setting.informers.isStopped id = false ∧
      (setting.informers.informer id).replica.synced = true := by
  unfold verdict? Informer.syncVerdict?
  cases setting.informers.isStopped id <;>
    cases (setting.informers.informer id).replica.synced <;> cases setting.calledOff <;> simp

theorem verdict?_eq_false_iff {setting : Setting η} {id : InformerId} :
    setting.verdict? id = some false ↔ setting.informers.isStopped id = true ∨
      (setting.calledOff = true ∧ (setting.informers.informer id).replica.synced = false) := by
  unfold verdict? Informer.syncVerdict?
  cases setting.informers.isStopped id <;>
    cases (setting.informers.informer id).replica.synced <;> cases setting.calledOff <;> simp

end Setting

namespace BarrierEntry

def wait (entry : BarrierEntry) : ResourceType × InformerId := (entry.type, entry.informer)

theorem wait_lookAt (informers : Informers η) (calledOff : Bool) (entry : BarrierEntry) :
    (Barrier.lookAt informers calledOff entry).wait = entry.wait := by
  unfold Barrier.lookAt
  split <;> rfl

theorem lookAt_of_some (informers : Informers η) (calledOff : Bool) {entry : BarrierEntry}
    {verdict : Bool} (given : entry.verdict = some verdict) :
    Barrier.lookAt informers calledOff entry = entry := by
  simp [Barrier.lookAt, given]

theorem lookAt_of_none (setting : Setting η) {entry : BarrierEntry}
    (pending : entry.verdict = none) :
    Barrier.lookAt setting.informers setting.calledOff entry =
      { entry with verdict := setting.verdict? entry.informer } := by
  simp [Barrier.lookAt, pending, Setting.verdict?]

end BarrierEntry

namespace Vigil

variable {vigil : Vigil η}

/-- An occurrence changes no wait; a poll changes its own. -/
theorem entries_step (vigil : Vigil η) (move : Move η) (place : Nat) :
    (vigil.step move).barrier.entries[place]? = vigil.barrier.entries[place]? ∨
      move = .poll place ∧ (vigil.step move).barrier.entries[place]? =
        vigil.barrier.entries[place]?.map
          (Barrier.lookAt vigil.setting.informers vigil.setting.calledOff) := by
  cases move with
  | occur occurrence => exact Or.inl rfl
  | poll other =>
      by_cases same : other = place
      · subst same
        exact Or.inr ⟨rfl, List.getElem?_modify_eq ..⟩
      · exact Or.inl (List.getElem?_modify_ne _ _ same)

theorem waits_step (vigil : Vigil η) (move : Move η) :
    (vigil.step move).barrier.entries.map BarrierEntry.wait =
      vigil.barrier.entries.map BarrierEntry.wait := by
  apply List.ext_getElem?
  intro place
  rw [List.getElem?_map, List.getElem?_map]
  rcases entries_step vigil move place with same | ⟨_, looked⟩
  · rw [same]
  · rw [looked, Option.map_map]
    exact congrArg (Option.map · _) (funext (BarrierEntry.wait_lookAt _ _))

theorem waits_afterAll (vigil : Vigil η) (moves : List (Move η)) :
    (vigil.afterAll moves).barrier.entries.map BarrierEntry.wait =
      vigil.barrier.entries.map BarrierEntry.wait := by
  induction moves using List.reverseRecOn with
  | nil => rfl
  | append_singleton moves last inductionHypothesis =>
      rw [afterAll_concat, waits_step, inductionHypothesis]

theorem waits_start (setting : Setting η) (waits : List (ResourceType × InformerId)) :
    (start setting waits).barrier.entries.map BarrierEntry.wait = waits := by
  simp [start, Barrier.ofWaits, Function.comp_def, BarrierEntry.wait]

/-! ## Verdicts -/

theorem verdict_stays {place : Nat} {entry : BarrierEntry} {verdict : Bool}
    (here : vigil.barrier.entries[place]? = some entry) (given : entry.verdict = some verdict)
    (moves : List (Move η)) : (vigil.afterAll moves).barrier.entries[place]? = some entry := by
  induction moves using List.reverseRecOn with
  | nil => exact here
  | append_singleton moves last inductionHypothesis =>
      rw [afterAll_concat]
      rcases entries_step (vigil.afterAll moves) last place with same | ⟨_, looked⟩
      · exact same.trans inductionHypothesis
      · rw [looked, inductionHypothesis, Option.map_some, BarrierEntry.lookAt_of_some _ _ given]

/-- A verdict was given when the wait was polled, from what it saw then. -/
theorem verdict_polled (pending : ∀ entry ∈ vigil.barrier.entries, entry.verdict = none)
    {moves : List (Move η)} {place : Nat} {entry : BarrierEntry} {verdict : Bool}
    (here : (vigil.afterAll moves).barrier.entries[place]? = some entry)
    (given : entry.verdict = some verdict) :
    ∃ before, before ++ [.poll place] <+: moves ∧
      (vigil.afterAll before).setting.verdict? entry.informer = some verdict := by
  -- By induction from the right: the verdict stood before the last move, or that was its poll.
  induction moves using List.reverseRecOn generalizing entry with
  | nil =>
      rw [pending entry (List.mem_of_getElem? here)] at given
      cases given
  | append_singleton moves last inductionHypothesis =>
      have earlier : (vigil.afterAll moves).barrier.entries[place]? = some entry →
          ∃ before, before ++ [.poll place] <+: moves ++ [last] ∧
            (vigil.afterAll before).setting.verdict? entry.informer = some verdict := by
        intro standing
        obtain ⟨before, isPrefix, saw⟩ := inductionHypothesis standing given
        exact ⟨before, isPrefix.trans (List.prefix_append _ _), saw⟩
      rw [afterAll_concat] at here
      rcases entries_step (vigil.afterAll moves) last place with same | ⟨polled, looked⟩
      · exact earlier (same.symm.trans here)
      · rw [looked] at here
        obtain ⟨previous, standing, rfl⟩ := Option.map_eq_some_iff.1 here
        cases decided : previous.verdict with
        | some old =>
            rw [BarrierEntry.lookAt_of_some _ _ decided] at earlier
            rw [BarrierEntry.lookAt_of_some _ _ decided]
            exact earlier standing
        | none =>
            rw [BarrierEntry.lookAt_of_none _ decided] at given ⊢
            exact ⟨moves, polled ▸ List.prefix_rfl, given⟩

/-! ## Waits that sleep -/

/-- A wait that sleeps would get no verdict if it looked. -/
def Attentive (vigil : Vigil η) : Prop :=
  ∀ place entry, vigil.barrier.entries[place]? = some entry → entry.verdict = none →
    vigil.woken place = false → vigil.setting.verdict? entry.informer = none

theorem attentive_start (setting : Setting η) (waits : List (ResourceType × InformerId)) :
    (start setting waits).Attentive := fun _ _ _ _ asleep => by cases asleep

theorem Attentive.step (attentive : vigil.Attentive) (move : Move η) :
    (vigil.step move).Attentive := by
  intro place entry here pending asleep
  cases move with
  | occur occurrence =>
      -- No signal of a wait that sleeps on has changed, so it would still get no verdict.
      obtain ⟨asleepBefore, sameSignals⟩ := Bool.or_eq_false_iff.1 asleep
      have same : (vigil.setting.occur occurrence).signals entry.informer =
          vigil.setting.signals entry.informer := by
        have entryHere : vigil.barrier.entries[place]? = some entry := here
        simpa [entryHere] using sameSignals
      exact (Setting.verdict?_congr same).trans (attentive place entry here pending asleepBefore)
  | poll other =>
      by_cases same : other = place
      · subst same
        have looked : vigil.barrier.entries[other]?.map
            (Barrier.lookAt vigil.setting.informers vigil.setting.calledOff) = some entry :=
          (List.getElem?_modify_eq ..).symm.trans here
        obtain ⟨previous, standing, rfl⟩ := Option.map_eq_some_iff.1 looked
        cases decided : previous.verdict with
        | some old =>
            rw [BarrierEntry.lookAt_of_some _ _ decided, decided] at pending
            cases pending
        | none =>
            rw [BarrierEntry.lookAt_of_none _ decided] at pending ⊢
            exact pending
      · have standing : vigil.barrier.entries[place]? = some entry :=
          (List.getElem?_modify_ne _ _ same).symm.trans here
        have asleepBefore : vigil.woken place = false :=
          (Function.update_of_ne (Ne.symm same) ..).symm.trans asleep
        exact attentive place entry standing pending asleepBefore

theorem Attentive.afterAll (attentive : vigil.Attentive) (moves : List (Move η)) :
    (vigil.afterAll moves).Attentive := by
  induction moves using List.reverseRecOn with
  | nil => exact attentive
  | append_singleton moves last inductionHypothesis =>
      rw [afterAll_concat]
      exact inductionHypothesis.step last

/-! ## Polling everybody -/

def polls (count : Nat) : List (Move η) := (List.range count).map .poll

theorem polls_succ (count : Nat) : (polls (count + 1) : List (Move η)) =
    polls count ++ [.poll count] := by
  simp [polls, List.range_succ]

theorem setting_polls (vigil : Vigil η) (count : Nat) :
    (vigil.afterAll (polls count)).setting = vigil.setting := by
  have nothing : occurrences (polls count : List (Move η)) = [] := by
    simp [occurrences, polls, Move.occurrence?]
  rw [setting_afterAll, nothing]
  rfl

theorem entries_polls (vigil : Vigil η) (count place : Nat) :
    (vigil.afterAll (polls count)).barrier.entries[place]? =
      if place < count then vigil.barrier.entries[place]?.map
        (Barrier.lookAt vigil.setting.informers vigil.setting.calledOff)
      else vigil.barrier.entries[place]? := by
  induction count with
  | zero => rfl
  | succ count inductionHypothesis =>
      rw [polls_succ, afterAll_concat, step, setting_polls, List.getElem?_modify,
        inductionHypothesis]
      rcases Nat.lt_trichotomy place count with below | same | above
      · simp [below, Nat.lt_succ_of_lt below, Nat.ne_of_gt below]
      · simp [same]
      · have beyond : ¬ place < count + 1 := Nat.not_lt_of_ge above
        simp [beyond, Nat.not_lt_of_gt above, Nat.ne_of_lt above]

theorem woken_polls (vigil : Vigil η) {count place : Nat} (polled : place < count) :
    (vigil.afterAll (polls count)).woken place = false := by
  induction count with
  | zero => exact absurd polled (Nat.not_lt_zero _)
  | succ count inductionHypothesis =>
      rw [polls_succ, afterAll_concat]
      rcases Nat.lt_succ_iff_lt_or_eq.1 polled with below | same
      · exact (Function.update_of_ne (Nat.ne_of_lt below) ..).trans (inductionHypothesis below)
      · rw [same]
        exact Function.update_self ..

/-- To poll everybody once is to look at all informers without a verdict. -/
theorem barrier_polls (vigil : Vigil η) :
    (vigil.afterAll (polls vigil.barrier.entries.length)).barrier =
      vigil.barrier.look vigil.setting.informers vigil.setting.calledOff := by
  refine congrArg Barrier.mk (List.ext_getElem? fun place => ?_)
  rw [entries_polls, List.getElem?_map]
  split
  · rfl
  · rename_i beyond
    rw [List.getElem?_eq_none (Nat.le_of_not_lt beyond), Option.map_none]

theorem length_afterAll (vigil : Vigil η) (moves : List (Move η)) :
    (vigil.afterAll moves).barrier.entries.length = vigil.barrier.entries.length := by
  have lengths := congrArg List.length (waits_afterAll vigil moves)
  simpa only [List.length_map] using lengths

theorem settled_polls (vigil : Vigil η) :
    (vigil.afterAll (polls vigil.barrier.entries.length)).Settled := by
  intro place used
  rw [length_afterAll] at used
  exact woken_polls vigil used

end Vigil

/-! ## Barriers -/

/-- If everything has a value, the keys of the values are all keys. -/
theorem map_fst_filterMap {α β κ : Type} (key : α → κ) {value? : α → Option β} {list : List α}
    (valued : ∀ item ∈ list, (value? item).isSome = true) :
    (list.filterMap fun item => (value? item).map fun value => (key item, value)).map Prod.fst =
      list.map key := by
  induction list with
  | nil => rfl
  | cons item rest inductionHypothesis =>
      obtain ⟨value, here⟩ := Option.isSome_iff_exists.1 (valued item List.mem_cons_self)
      have restValued : ∀ other ∈ rest, (value? other).isSome = true := fun other member =>
        valued other (List.mem_cons_of_mem _ member)
      simp [here, inductionHypothesis restValued]

theorem Barrier.types_verdicts {barrier : Barrier} (down : barrier.isDown = true) :
    barrier.verdicts.map Prod.fst = barrier.entries.map BarrierEntry.type :=
  map_fst_filterMap BarrierEntry.type (List.all_eq_true.1 down)

theorem Informers.types_live {informers : Informers η} (catalogued : informers.Catalogued) :
    informers.live.map Prod.fst = informers.types := by
  have current : ∀ type ∈ informers.types, (informers.find? type).isSome = true := by
    intro type member
    obtain ⟨id, found⟩ := (mem_types_iff catalogued.distinct).1 member
    simp [found]
  exact (map_fst_filterMap id current).trans (List.map_id _)

theorem Informers.find?_of_mem_live {informers : Informers η} {wait : ResourceType × InformerId}
    (member : wait ∈ informers.live) : informers.find? wait.1 = some wait.2 := by
  obtain ⟨type, _, found⟩ := List.mem_filterMap.1 member
  obtain ⟨id, isCurrent, rfl⟩ := Option.map_eq_some_iff.1 found
  exact isCurrent

/-! ## Every wait -/

namespace Vigil

/-- What is waited for after something has happened, after the moves. -/
def after (client : ClientId) (ns : Option String) (earlier : List (Occurrence η))
    (waits : List (ResourceType × InformerId)) (moves : List (Move η)) : Vigil η :=
  (start ((Setting.start client ns).afterAll earlier) waits).afterAll moves

/-- The verdict tells what had become of the informer after the occurrences. -/
structure Justifies (setting : Setting η) (occurrences : List (Occurrence η)) (id : InformerId)
    (verdict : Bool) : Prop where
  synced : verdict = true → setting.Listed occurrences id ∧
    (setting.afterAll occurrences).informers.isStopped id = false
  unsynced : verdict = false → (setting.afterAll occurrences).informers.isStopped id = true ∨
    (setting.afterAll occurrences).calledOff = true ∧ ¬ setting.Listed occurrences id

/-- Waits for informers, whoever they are, tell the truth. -/
structure Truthful (client : ClientId) (ns : Option String) (earlier : List (Occurrence η))
    (waits : List (ResourceType × InformerId)) (moves : List (Move η)) : Prop where
  same : (after client ns earlier waits moves).barrier.entries.map BarrierEntry.wait = waits
  /-- A verdict was given at a poll and is right about that moment. -/
  verdict : ∀ {place : Nat} {entry : BarrierEntry} {verdict : Bool},
    (after client ns earlier waits moves).barrier.entries[place]? = some entry →
    entry.verdict = some verdict →
    ∃ before, before ++ [.poll place] <+: moves ∧
      Justifies (Setting.start client ns) (earlier ++ occurrences before) entry.informer verdict
  stays : ∀ {place : Nat} {entry : BarrierEntry} {verdict : Bool},
    (after client ns earlier waits moves).barrier.entries[place]? = some entry →
    entry.verdict = some verdict →
    ∀ more, (after client ns earlier waits (moves ++ more)).barrier.entries[place]? = some entry
  pending : (after client ns earlier waits moves).Settled →
    ∀ entry ∈ (after client ns earlier waits moves).barrier.entries, entry.verdict = none →
      ¬ (Setting.start client ns).Listed (earlier ++ occurrences moves) entry.informer ∧
      (after client ns earlier waits moves).setting.informers.isStopped entry.informer = false ∧
      (after client ns earlier waits moves).setting.calledOff = false
  /-- Once everybody looks, nobody is about to look any more. -/
  settles : (after client ns earlier waits (moves ++ polls waits.length)).Settled ∧
    (after client ns earlier waits (moves ++ polls waits.length)).barrier =
      (after client ns earlier waits moves).barrier.look
        (after client ns earlier waits moves).setting.informers
        (after client ns earlier waits moves).setting.calledOff

/-- A barrier reports on the informers that were current when it was raised. -/
structure Reports (client : ClientId) (ns : Option String) (earlier : List (Occurrence η))
    (raised : Informers η) (moves : List (Move η)) : Prop where
  begins : (after client ns earlier raised.live []).barrier = .raise raised
  types : raised.types.Nodup ∧ ∀ type, type ∈ raised.types ↔ ∃ id, raised.find? type = some id
  /-- Each wait is for the informer that was current, whatever is current now. -/
  own : ∀ entry ∈ (after client ns earlier raised.live moves).barrier.entries,
    raised.find? entry.type = some entry.informer ∧
    ((after client ns earlier raised.live moves).setting.informers.informer entry.informer).type =
      entry.type
  /-- Once every wait has its verdict, there is one for each type. -/
  verdicts : (after client ns earlier raised.live moves).barrier.isDown = true →
    (after client ns earlier raised.live moves).barrier.verdicts.map Prod.fst = raised.types
  calledOff : (after client ns earlier raised.live moves).Settled →
    (after client ns earlier raised.live moves).setting.calledOff = true →
    (after client ns earlier raised.live moves).barrier.isDown = true

section Parameters

variable (client : ClientId) (ns : Option String) (earlier : List (Occurrence η))
  (waits : List (ResourceType × InformerId)) (moves : List (Move η))

theorem setting_after : (after client ns earlier waits moves).setting =
    (Setting.start client ns).afterAll (earlier ++ occurrences moves) := by
  rw [after, setting_afterAll, Setting.afterAll_append]
  rfl

theorem waits_after :
    (after client ns earlier waits moves).barrier.entries.map BarrierEntry.wait = waits := by
  rw [after, waits_afterAll, waits_start]

end Parameters

variable {client : ClientId} {ns : Option String} {earlier : List (Occurrence η)}
  {waits : List (ResourceType × InformerId)} {moves : List (Move η)}

theorem justifies_of_verdict? {occurrences : List (Occurrence η)} {id : InformerId}
    {verdict : Bool}
    (saw : ((Setting.start client ns).afterAll occurrences).verdict? id = some verdict) :
    Justifies (Setting.start client ns) occurrences id verdict where
  synced isTrue := by
    obtain ⟨going, synced⟩ := Setting.verdict?_eq_true_iff.1 (isTrue ▸ saw)
    exact ⟨(Setting.synced_iff_listed client ns occurrences id).1 synced, going⟩
  unsynced isFalse := by
    refine (Setting.verdict?_eq_false_iff.1 (isFalse ▸ saw)).imp_right fun ⟨calledOff, unsynced⟩ =>
      ⟨calledOff, fun listed => ?_⟩
    have synced := (Setting.synced_iff_listed client ns occurrences id).2 listed
    rw [unsynced] at synced
    cases synced

theorem pending_start (setting : Setting η) :
    ∀ entry ∈ (start setting waits).barrier.entries, entry.verdict = none := by
  intro entry member
  obtain ⟨wait, _, rfl⟩ := List.mem_map.1 member
  rfl

theorem verdict?_of_settled (settled : (after client ns earlier waits moves).Settled)
    {entry : BarrierEntry}
    (member : entry ∈ (after client ns earlier waits moves).barrier.entries)
    (pending : entry.verdict = none) :
    (after client ns earlier waits moves).setting.verdict? entry.informer = none := by
  obtain ⟨place, used, rfl⟩ := List.mem_iff_getElem.1 member
  have attentive := (attentive_start ((Setting.start client ns).afterAll earlier) waits).afterAll
    moves
  exact attentive place _ (List.getElem?_eq_getElem used) pending (settled place used)

theorem truthful_after (client : ClientId) (ns : Option String) (earlier : List (Occurrence η))
    (waits : List (ResourceType × InformerId)) (moves : List (Move η)) :
    Truthful client ns earlier waits moves where
  same := waits_after client ns earlier waits moves
  verdict here given := by
    obtain ⟨before, isPrefix, saw⟩ := verdict_polled (pending_start _) here given
    refine ⟨before, isPrefix, justifies_of_verdict? ?_⟩
    rw [← setting_after client ns earlier waits]
    exact saw
  stays here given more := by
    rw [after, afterAll_append]
    exact verdict_stays here given more
  pending settled entry member pending := by
    obtain ⟨going, unsynced, waiting⟩ :=
      Setting.verdict?_eq_none_iff.1 (verdict?_of_settled settled member pending)
    refine ⟨fun listed => ?_, going, waiting⟩
    have synced := (Setting.synced_iff_listed client ns _ entry.informer).2 listed
    rw [← setting_after client ns earlier waits, unsynced] at synced
    cases synced
  settles := by
    have length : (after client ns earlier waits moves).barrier.entries.length = waits.length := by
      have lengths := congrArg List.length (waits_after client ns earlier waits moves)
      simpa only [List.length_map] using lengths
    rw [after, afterAll_append, ← after, ← length]
    exact ⟨settled_polls _, barrier_polls _⟩

theorem reports_after (client : ClientId) (ns : Option String) (earlier : List (Occurrence η))
    (moves : List (Move η)) :
    Reports client ns earlier ((Setting.start client ns).afterAll earlier).informers moves := by
  have catalogued : ((Setting.start client ns).afterAll earlier).informers.Catalogued :=
    Setting.catalogued_afterAll (Informers.catalogued_empty client ns) earlier
  have waits := waits_after client ns earlier
    ((Setting.start client ns).afterAll earlier).informers.live moves
  constructor
  case begins => rfl
  case types =>
    exact ⟨Informers.nodup_types catalogued.distinct, fun _ =>
      Informers.mem_types_iff catalogued.distinct⟩
  case own =>
    intro entry member
    have waiting : entry.wait ∈
        ((Setting.start client ns).afterAll earlier).informers.live :=
      waits ▸ List.mem_map_of_mem member
    have found : ((Setting.start client ns).afterAll earlier).informers.find? entry.type =
        some entry.informer := Informers.find?_of_mem_live waiting
    refine ⟨found, ?_⟩
    have retains := Setting.retains_afterAll ((Setting.start client ns).afterAll earlier)
      (occurrences moves)
    rw [setting_after, Setting.afterAll_append, retains.type (catalogued.used found)]
    exact catalogued.type found
  case verdicts =>
    intro down
    have types := congrArg (List.map Prod.fst) waits
    rw [List.map_map, Informers.types_live catalogued] at types
    exact (Barrier.types_verdicts down).trans types
  case calledOff =>
    intro settled calledOff
    refine List.all_eq_true.2 fun entry member => ?_
    cases decided : entry.verdict with
    | some verdict => rfl
    | none =>
        have undecided :=
          Setting.verdict?_eq_none_iff.1 (verdict?_of_settled settled member decided)
        rw [undecided.2.2] at calledOff
        cases calledOff

/-- Whatever happened before and happens during the wait, and whenever the waits are polled, all
waits tell the truth about their informers, and a barrier reports on those that were current when it
was raised. -/
theorem waits_truthful (client : ClientId) (ns : Option String) (earlier : List (Occurrence η))
    (moves : List (Move η)) :
    (∀ waits, Truthful client ns earlier waits moves) ∧
      Reports client ns earlier ((Setting.start client ns).afterAll earlier).informers moves :=
  ⟨fun waits => truthful_after client ns earlier waits moves,
    reports_after client ns earlier moves⟩

end Vigil

end ClusterCache
