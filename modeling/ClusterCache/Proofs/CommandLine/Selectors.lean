import ClusterCache.CommandLine.Selector
import ClusterCache.Proofs.Dictionary.Lookup
import ClusterCache.Proofs.Key.Narrowing
import Mathlib.Data.List.Forall2

/-!
# The grammar of selectors

A selector is a list of segments between commas. Reading looks at each segment by itself: white
space spells nothing, a segment with an equals sign spells a pair, and the first segment that is
neither is what the reader complains about. A list of pairs can be spelled in many ways, with blank
segments and with white space around keys and values, and each of them is read as that list; the
text of a key's selector is one of them.
-/

namespace ClusterCache.CommandLine

open Text

/-! ## All results or the first problem -/

section Collecting

variable {α β ε : Type} {f : α → Except ε β}

theorem mapM_eq_ok_iff {items : List α} {results : List β} :
    items.mapM f = .ok results ↔
      List.Forall₂ (fun item result => f item = .ok result) items results := by
  induction items generalizing results with
  | nil =>
      rw [List.mapM_nil, List.forall₂_nil_left_iff]
      exact ⟨fun same => (Except.ok.inj same).symm, fun same => congrArg Except.ok same.symm⟩
  | cons item rest inductionHypothesis =>
      rw [List.mapM_cons, List.forall₂_cons_left_iff]
      simp only [← inductionHypothesis]
      cases f item with
      | error problem => simp [bind, Except.bind]
      | ok result =>
          cases rest.mapM f with
          | error problem => simp [bind, Except.bind]
          | ok others => simp [bind, Except.bind, pure, Except.pure, eq_comm]

theorem mapM_eq_error_iff {items : List α} {problem : ε} :
    items.mapM f = .error problem ↔
      ∃ earlier item later, items = earlier ++ item :: later ∧ f item = .error problem ∧
        ∀ other ∈ earlier, ∃ result, f other = .ok result := by
  induction items with
  | nil => simp [pure, Except.pure]
  | cons item rest inductionHypothesis =>
      rw [List.mapM_cons]
      cases first : f item with
      | error other =>
          constructor
          · intro failed
            have same : other = problem := Except.error.inj failed
            exact ⟨[], item, rest, rfl, by rw [first, same], by simp⟩
          · rintro ⟨earlier, found, later, split, fails, fine⟩
            cases earlier with
            | nil =>
                rw [← (List.cons.inj split).1, first] at fails
                have same : other = problem := Except.error.inj fails
                rw [same]
                rfl
            | cons head others =>
                obtain ⟨result, succeeds⟩ := fine head List.mem_cons_self
                rw [← (List.cons.inj split).1, first] at succeeds
                cases succeeds
      | ok result =>
          have passedOn : (do
              let value ← f item
              let others ← rest.mapM f
              pure (value :: others)) = .error problem ↔ rest.mapM f = .error problem := by
            rw [first]
            cases rest.mapM f <;> simp [bind, Except.bind, pure, Except.pure]
          rw [← first, passedOn, inductionHypothesis]
          constructor
          · rintro ⟨earlier, found, later, split, fails, fine⟩
            refine ⟨item :: earlier, found, later, by rw [split, List.cons_append], fails, ?_⟩
            intro other member
            rcases List.mem_cons.1 member with rfl | inEarlier
            · exact ⟨result, first⟩
            · exact fine other inEarlier
          · rintro ⟨earlier, found, later, split, fails, fine⟩
            cases earlier with
            | nil =>
                rw [← (List.cons.inj split).1, first] at fails
                cases fails
            | cons head others =>
                exact ⟨others, found, later, (List.cons.inj split).2, fails,
                  fun other member => fine other (List.mem_cons_of_mem _ member)⟩

end Collecting

/-! ## Segments -/

/-- The segment is cut at its first equals sign; white space around the two parts does not count. -/
def CutsTo (segment : String) (pair : String × String) : Prop :=
  ∃ key value, segment = key ++ "=" ++ value ∧ '=' ∉ key.toList ∧ pair = (trim key, trim value)

/-- The segment is neither white space nor a pair. -/
def Offends (segment : String) : Prop := allBlank segment = false ∧ '=' ∉ segment.toList

theorem CutsTo.mem_equals {segment : String} {pair : String × String}
    (cuts : CutsTo segment pair) : '=' ∈ segment.toList := by
  obtain ⟨key, value, rfl, _⟩ := cuts
  simp

theorem CutsTo.not_allBlank {segment : String} {pair : String × String}
    (cuts : CutsTo segment pair) : allBlank segment = false := by
  have notBlank : isBlank '=' = false := by decide
  cases blank : allBlank segment with
  | false => rfl
  | true => simp [allBlank_iff.1 blank '=' cuts.mem_equals] at notBlank

theorem selectorPair?_eq_some_iff {segment : String} {pair : String × String} :
    selectorPair? segment = some pair ↔ CutsTo segment pair := by
  constructor
  · intro found
    obtain ⟨⟨key, value⟩, cutHere, same⟩ := Option.map_eq_some_iff.1 found
    obtain ⟨whole, absent⟩ := cut_eq_some_iff.1 cutHere
    exact ⟨key, value, whole, absent, same.symm⟩
  · rintro ⟨key, value, whole, absent, rfl⟩
    have cutHere : cut '=' segment = some (key, value) := cut_eq_some_iff.2 ⟨whole, absent⟩
    rw [selectorPair?, cutHere, Option.map_some]

theorem selectorPair?_eq_none_iff {segment : String} :
    selectorPair? segment = none ↔ '=' ∉ segment.toList := by
  rw [selectorPair?, Option.map_eq_none_iff, cut_eq_none_iff]

def readSegment (segment : String) : Except String (String × String) :=
  match selectorPair? segment with
  | some pair => .ok pair
  | none => .error segment

theorem readSegment_eq_ok_iff {segment : String} {pair : String × String} :
    readSegment segment = .ok pair ↔ CutsTo segment pair := by
  rw [← selectorPair?_eq_some_iff, readSegment]
  cases selectorPair? segment <;> simp

theorem readSegment_eq_error_iff {segment problem : String} :
    readSegment segment = .error problem ↔ '=' ∉ segment.toList ∧ problem = segment := by
  rw [← selectorPair?_eq_none_iff, readSegment]
  cases selectorPair? segment <;> simp [eq_comm]

/-- The segments that are not white space. -/
def worded (segments : List String) : List String :=
  segments.filter fun segment => !allBlank segment

/-- The segments are what stands between the commas of the text. -/
structure SegmentsOf (text : String) (segments : List String) : Prop where
  nonempty : segments ≠ []
  whole : ∀ segment ∈ segments, ',' ∉ segment.toList
  joined : ",".intercalate segments = text

theorem segmentsOf_pieces (text : String) : SegmentsOf text (pieces ',' text) where
  nonempty := pieces_ne_nil ',' text
  whole _ := not_mem_of_mem_pieces
  joined := intercalate_pieces ',' text

theorem SegmentsOf.eq_pieces {text : String} {segments : List String}
    (segmentsOf : SegmentsOf text segments) : segments = pieces ',' text := by
  rw [← segmentsOf.joined]
  exact (pieces_intercalate segmentsOf.nonempty segmentsOf.whole).symm

theorem SegmentsOf.readSelector_eq {text : String} {segments : List String}
    (segmentsOf : SegmentsOf text segments) :
    readSelector text = (worded segments).mapM readSegment := by
  rw [segmentsOf.eq_pieces]
  rfl

/-- What is read from a text of the given segments. -/
structure ReadsSegments (segments : List String)
    (result : Except String (List (String × String))) : Prop where
  succeeds : (∃ pairs, result = .ok pairs) ↔
    ∀ segment ∈ segments, allBlank segment = true ∨ '=' ∈ segment.toList
  lists : ∀ pairs, result = .ok pairs → List.Forall₂ CutsTo (worded segments) pairs
  /-- The problem is the first segment that offends, as it is written. -/
  complains : ∀ problem, result = .error problem ↔
    ∃ earlier later, segments = earlier ++ problem :: later ∧ Offends problem ∧
      ∀ other ∈ earlier, ¬ Offends other
  /-- The message quotes the problem. -/
  told : ∀ problem, result = .error problem →
    ∃ opening ending, selectorProblem problem = opening ++ Text.quoted problem ++ ending

theorem mem_worded {segments : List String} {segment : String} :
    segment ∈ worded segments ↔ segment ∈ segments ∧ allBlank segment = false := by
  simp [worded]

theorem not_offends_iff {segment : String} :
    ¬ Offends segment ↔ allBlank segment = true ∨ '=' ∈ segment.toList := by
  unfold Offends
  cases allBlank segment <;> simp

/-- A segment is read if and only if it holds an equals sign. -/
theorem exists_readSegment_iff {segment : String} :
    (∃ pair, readSegment segment = .ok pair) ↔ '=' ∈ segment.toList := by
  constructor
  · rintro ⟨pair, found⟩
    exact (readSegment_eq_ok_iff.1 found).mem_equals
  · intro member
    cases found : readSegment segment with
    | ok pair => exact ⟨pair, rfl⟩
    | error problem => exact absurd member (readSegment_eq_error_iff.1 found).1

theorem mapM_worded_eq_error_iff {segments : List String} {problem : String} :
    (worded segments).mapM readSegment = .error problem ↔
      ∃ earlier later, segments = earlier ++ problem :: later ∧ Offends problem ∧
        ∀ other ∈ earlier, ¬ Offends other := by
  rw [mapM_eq_error_iff]
  constructor
  · rintro ⟨wordedEarlier, segment, wordedLater, split, fails, fine⟩
    obtain ⟨noEquals, rfl⟩ := readSegment_eq_error_iff.1 fails
    obtain ⟨before, after, rfl, isEarlier, isRest⟩ := List.filter_eq_append_iff.1 split
    obtain ⟨between, later, rfl, skipped, isWorded, _⟩ := List.filter_eq_cons_iff.1 isRest
    refine ⟨before ++ between, later, by simp, ⟨by simpa using isWorded, noEquals⟩, ?_⟩
    intro other member
    rw [not_offends_iff]
    rcases List.mem_append.1 member with inBefore | inBetween
    · cases blank : allBlank other with
      | true => exact Or.inl rfl
      | false =>
          have inWorded : other ∈ wordedEarlier := by
            rw [← isEarlier]
            exact mem_worded.2 ⟨inBefore, blank⟩
          exact Or.inr (exists_readSegment_iff.1 (fine other inWorded))
    · exact Or.inl (by simpa using skipped other inBetween)
  · rintro ⟨earlier, later, rfl, ⟨isWorded, noEquals⟩, fine⟩
    refine ⟨worded earlier, problem, worded later, ?_,
      readSegment_eq_error_iff.2 ⟨noEquals, rfl⟩, ?_⟩
    · simp [worded, isWorded]
    · intro other member
      obtain ⟨inEarlier, otherWorded⟩ := mem_worded.1 member
      rcases not_offends_iff.1 (fine other inEarlier) with blank | equals
      · rw [otherWorded] at blank
        cases blank
      · exact exists_readSegment_iff.2 equals

theorem SegmentsOf.readsSegments {text : String} {segments : List String}
    (segmentsOf : SegmentsOf text segments) : ReadsSegments segments (readSelector text) := by
  rw [segmentsOf.readSelector_eq]
  have lists : ∀ pairs, (worded segments).mapM readSegment = .ok pairs →
      List.Forall₂ CutsTo (worded segments) pairs := by
    intro pairs succeeds
    simpa only [mapM_eq_ok_iff, readSegment_eq_ok_iff] using succeeds
  refine ⟨?_, lists, fun problem => mapM_worded_eq_error_iff, fun _ _ => ⟨_, _, rfl⟩⟩
  constructor
  · rintro ⟨pairs, succeeds⟩ segment member
    have marked : List.Forall₂ (fun segment pair => '=' ∈ segment.toList ∧ CutsTo segment pair)
        (worded segments) pairs :=
      (lists pairs succeeds).imp fun _ _ cuts => ⟨cuts.mem_equals, cuts⟩
    cases blank : allBlank segment with
    | true => exact Or.inl rfl
    | false =>
        have inWorded : segment ∈ worded segments := mem_worded.2 ⟨member, blank⟩
        exact Or.inr (((List.forall₂_and_left _ _).1 marked).1 segment inWorded)
  · intro fine
    cases outcome : (worded segments).mapM readSegment with
    | ok pairs => exact ⟨pairs, rfl⟩
    | error problem =>
        obtain ⟨earlier, later, rfl, offends, _⟩ := mapM_worded_eq_error_iff.1 outcome
        have member : problem ∈ earlier ++ problem :: later := by simp
        exact absurd offends (not_offends_iff.2 (fine problem member))

/-! ## Spelling pairs -/

/-- A pair that can be spelled: a comma would end the segment, an equals sign would end the key, and
white space at the ends would be lost. -/
structure IsPlain (pair : String × String) : Prop where
  keyComma : ',' ∉ pair.1.toList
  keyEquals : '=' ∉ pair.1.toList
  valueComma : ',' ∉ pair.2.toList
  keyTrimmed : IsTrimmed pair.1
  valueTrimmed : IsTrimmed pair.2

/-- The segment is the pair around an equals sign, with white space around key and value. -/
structure SpellsPair (segment : String) (pair : String × String) : Prop where
  plain : IsPlain pair
  padded : ∃ key value, Pads key pair.1 ∧ Pads value pair.2 ∧ segment = key ++ "=" ++ value

/-- The segments spell the pairs, in order, with blank segments in between. -/
inductive Spells : List String → List (String × String) → Prop
  | nothing : Spells [] []
  | blank {segment : String} {segments : List String} {pairs : List (String × String)} :
      allBlank segment = true → Spells segments pairs → Spells (segment :: segments) pairs
  | pair {segment : String} {pair : String × String} {segments : List String}
      {pairs : List (String × String)} :
      SpellsPair segment pair → Spells segments pairs → Spells (segment :: segments) (pair :: pairs)

theorem spellsPair_iff {segment : String} {pair : String × String} :
    SpellsPair segment pair ↔ ',' ∉ segment.toList ∧ CutsTo segment pair := by
  have comma : isBlank ',' = false := by decide
  have equals : isBlank '=' = false := by decide
  constructor
  · rintro ⟨plain, key, value, keyPads, valuePads, rfl⟩
    have noComma : ',' ∉ key.toList := keyPads.not_mem comma plain.keyComma
    have noCommaAfter : ',' ∉ value.toList := valuePads.not_mem comma plain.valueComma
    have noEquals : '=' ∉ key.toList := keyPads.not_mem equals plain.keyEquals
    refine ⟨by simp [noComma, noCommaAfter], key, value, rfl, noEquals, ?_⟩
    rw [keyPads.trim_eq plain.keyTrimmed, valuePads.trim_eq plain.valueTrimmed]
  · rintro ⟨noComma, key, value, rfl, noEquals, rfl⟩
    have keyPads : Pads key (trim key) := pads_trim key
    have valuePads : Pads value (trim value) := pads_trim value
    have noCommas : ',' ∉ key.toList ∧ ',' ∉ value.toList := by simpa using noComma
    refine ⟨⟨?_, ?_, ?_, isTrimmed_trim key, isTrimmed_trim value⟩, key, value, keyPads, valuePads,
      rfl⟩
    · exact fun member => noCommas.1 (keyPads.mem_of_mem member)
    · exact fun member => noEquals (keyPads.mem_of_mem member)
    · exact fun member => noCommas.2 (valuePads.mem_of_mem member)

theorem spells_iff {segments : List String} {pairs : List (String × String)} :
    Spells segments pairs ↔
      (∀ segment ∈ segments, ',' ∉ segment.toList) ∧
        List.Forall₂ CutsTo (worded segments) pairs := by
  constructor
  · intro spells
    induction spells with
    | nothing => exact ⟨by simp, List.Forall₂.nil⟩
    | @blank segment segments pairs isBlank _ inductionHypothesis =>
        obtain ⟨whole, cuts⟩ := inductionHypothesis
        have comma : Text.isBlank ',' = false := by decide
        have noComma : ',' ∉ segment.toList := fun member => by
          simp [allBlank_iff.1 isBlank ',' member] at comma
        refine ⟨by simpa [noComma] using whole, ?_⟩
        simpa [worded, isBlank] using cuts
    | @pair segment pair segments pairs spellsPair _ inductionHypothesis =>
        obtain ⟨whole, cuts⟩ := inductionHypothesis
        obtain ⟨noComma, cutsHere⟩ := spellsPair_iff.1 spellsPair
        refine ⟨by simpa [noComma] using whole, ?_⟩
        have kept : worded (segment :: segments) = segment :: worded segments := by
          simp [worded, cutsHere.not_allBlank]
        rw [kept]
        exact List.Forall₂.cons cutsHere cuts
  · rintro ⟨whole, cuts⟩
    induction segments generalizing pairs with
    | nil =>
        have nothing : pairs = [] := List.forall₂_nil_left_iff.1 cuts
        rw [nothing]
        exact Spells.nothing
    | cons segment segments inductionHypothesis =>
        have wholeRest : ∀ other ∈ segments, ',' ∉ other.toList := fun other member =>
          whole other (List.mem_cons_of_mem _ member)
        cases isBlank : allBlank segment with
        | true =>
            have cutsRest : List.Forall₂ CutsTo (worded segments) pairs := by
              simpa [worded, isBlank] using cuts
            exact Spells.blank isBlank (inductionHypothesis wholeRest cutsRest)
        | false =>
            have kept : worded (segment :: segments) = segment :: worded segments := by
              simp [worded, isBlank]
            rw [kept] at cuts
            obtain ⟨pair, others, cutsHere, cutsRest, rfl⟩ := List.forall₂_cons_left_iff.1 cuts
            have noComma : ',' ∉ segment.toList := whole segment List.mem_cons_self
            exact Spells.pair (spellsPair_iff.2 ⟨noComma, cutsHere⟩)
              (inductionHypothesis wholeRest cutsRest)

/-- A text is read as the pairs that its segments spell. -/
theorem readSelector_eq_ok_iff {text : String} {pairs : List (String × String)} :
    readSelector text = .ok pairs ↔
      ∃ segments, Spells segments pairs ∧ text = ",".intercalate segments := by
  constructor
  · intro succeeds
    have segmentsOf := segmentsOf_pieces text
    have cuts := segmentsOf.readsSegments.lists pairs succeeds
    exact ⟨pieces ',' text, spells_iff.2 ⟨segmentsOf.whole, cuts⟩, segmentsOf.joined.symm⟩
  · rintro ⟨segments, spells, rfl⟩
    obtain ⟨whole, cuts⟩ := spells_iff.1 spells
    cases segments with
    | nil =>
        have nothing : pairs = [] := List.forall₂_nil_left_iff.1 cuts
        rw [nothing]
        decide
    | cons segment rest =>
        have segmentsOf : SegmentsOf (",".intercalate (segment :: rest)) (segment :: rest) :=
          ⟨List.cons_ne_nil _ _, whole, rfl⟩
        rw [segmentsOf.readSelector_eq]
        simpa only [mapM_eq_ok_iff, readSegment_eq_ok_iff] using cuts

def segmentOf (pair : String × String) : String := pair.1 ++ "=" ++ pair.2

theorem spells_segmentOf {pairs : List (String × String)} (plain : ∀ pair ∈ pairs, IsPlain pair) :
    Spells (pairs.map segmentOf) pairs := by
  induction pairs with
  | nil => exact Spells.nothing
  | cons pair rest inductionHypothesis =>
      have spellsPair : SpellsPair (segmentOf pair) pair :=
        ⟨plain pair List.mem_cons_self, pair.1, pair.2, Pads.refl _, Pads.refl _, rfl⟩
      exact Spells.pair spellsPair
        (inductionHypothesis fun other member => plain other (List.mem_cons_of_mem _ member))

/-- The reader accepts the texts all of whose segments are blank or hold an equals sign, lists what
they spell, and complains about the first segment that is neither. Pairs are read back from every
text that spells them, and the labels of a selector from what the text of its key prints. -/
theorem readSelector_grammar :
    (∀ text, ∃! segments, SegmentsOf text segments) ∧
    (∀ text segments, SegmentsOf text segments → ReadsSegments segments (readSelector text)) ∧
    (∀ text pairs, readSelector text = .ok pairs ↔
      ∃ segments, Spells segments pairs ∧ text = ",".intercalate segments) ∧
    (∀ pairs, (∀ pair ∈ pairs, IsPlain pair) →
      readSelector (",".intercalate (pairs.map segmentOf)) = .ok pairs) ∧
    ∀ (key : Key) (selector : Labels), key.selector = some selector → selector.isEmpty = false →
      (∀ entry ∈ selector.entries, IsPlain entry) →
        (∃ opening, key.text = opening ++ ", Selector='" ++ Key.selectorText selector ++ "']") ∧
          readSelector (Key.selectorText selector) = .ok selector.entries ∧
          key.withSelector selector.entries = key := by
  have rendered : ∀ pairs, (∀ pair ∈ pairs, IsPlain pair) →
      readSelector (",".intercalate (pairs.map segmentOf)) = .ok pairs := fun pairs plain =>
    readSelector_eq_ok_iff.2 ⟨pairs.map segmentOf, spells_segmentOf plain, rfl⟩
  refine ⟨?_, fun _ _ segmentsOf => segmentsOf.readsSegments, fun _ _ => readSelector_eq_ok_iff,
    rendered, ?_⟩
  · intro text
    exact ⟨pieces ',' text, segmentsOf_pieces text, fun _ segmentsOf => segmentsOf.eq_pieces⟩
  · intro key selector selected narrows plain
    refine ⟨Key.exists_text_eq_append_selectorText selected narrows,
      rendered selector.entries plain, ?_⟩
    rw [Key.withSelector, Dictionary.ofList_entries, ← selected]

theorem readSelector_grammar_spaced :
    Spells [" app =\tweb", "  ", "tier=a=b"] [("app", "web"), ("tier", "a=b")] ∧
      readSelector " app =\tweb,  ,tier=a=b" = .ok [("app", "web"), ("tier", "a=b")] := by
  have app : IsPlain ("app", "web") :=
    ⟨by decide, by decide, by decide, by decide, by decide⟩
  have tier : IsPlain ("tier", "a=b") :=
    ⟨by decide, by decide, by decide, by decide, by decide⟩
  have appSpelled : SpellsPair " app =\tweb" ("app", "web") :=
    ⟨app, " app ", "\tweb", ⟨" ", " ", by decide, by decide, by decide⟩,
      ⟨"\t", "", by decide, by decide, by decide⟩, by decide⟩
  have tierSpelled : SpellsPair "tier=a=b" ("tier", "a=b") :=
    ⟨tier, "tier", "a=b", Pads.refl _, Pads.refl _, by decide⟩
  have spells : Spells [" app =\tweb", "  ", "tier=a=b"] [("app", "web"), ("tier", "a=b")] :=
    .pair appSpelled (.blank (by decide) (.pair tierSpelled .nothing))
  exact ⟨spells, (readSelector_grammar.2.2.1 _ _).2 ⟨_, spells, by decide⟩⟩

end ClusterCache.CommandLine
