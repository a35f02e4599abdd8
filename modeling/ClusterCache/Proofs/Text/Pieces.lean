import ClusterCache.Text.Blank
import Mathlib.Data.List.TakeWhile

/-!
# Joining and trimming texts

Joining pieces with a separator that occurs in none of them loses nothing: cutting the joined text
gives the pieces back. The other way round, every text is its pieces joined. Trimming takes away
white space at both ends, and nothing else.
-/

namespace ClusterCache.Text

/-! ## The first separator -/

theorem cut_eq_none_iff {separator : Char} {text : String} :
    cut separator text = none ↔ separator ∉ text.toList := by
  rw [cut, Option.map_eq_none_iff, cutList_eq_none_iff]

theorem cut_eq_some_iff {separator : Char} {text before after : String} :
    cut separator text = some (before, after) ↔
      text = before ++ String.singleton separator ++ after ∧ separator ∉ before.toList := by
  constructor
  · intro found
    obtain ⟨parts, foundList, same⟩ := Option.map_eq_some_iff.1 found
    obtain ⟨rfl, rfl⟩ := Prod.mk.inj same
    obtain ⟨whole, absent⟩ := eq_append_of_cutList foundList
    refine ⟨String.toList_inj.1 ?_, by simpa using absent⟩
    simpa using whole
  · rintro ⟨rfl, absent⟩
    have characters : (before ++ String.singleton separator ++ after).toList =
        before.toList ++ separator :: after.toList := by simp
    rw [cut, characters, cutList_append absent]
    simp

/-! ## Pieces -/

theorem piecesList_eq_splitOn (separator : Char) (characters : List Char) :
    piecesList separator characters = characters.splitOn separator := by
  induction characters with
  | nil => rfl
  | cons c rest inductionHypothesis =>
      rw [piecesList, List.splitOn_cons_eq_if_modifyHead, inductionHypothesis]
      by_cases same : c = separator
      · simp [same]
      · cases pieces : rest.splitOn separator with
        | nil => exact absurd pieces (List.splitOn_ne_nil _ _)
        | cons piece others => simp [same]

theorem not_mem_of_mem_piecesList {separator : Char} {characters piece : List Char}
    (member : piece ∈ piecesList separator characters) : separator ∉ piece := by
  induction characters generalizing piece with
  | nil =>
      have isEmpty : piece = [] := by simpa [piecesList] using member
      simp [isEmpty]
  | cons c rest inductionHypothesis =>
      by_cases same : c = separator
      · rw [piecesList, if_pos same] at member
        rcases List.mem_cons.1 member with rfl | later
        · simp
        · exact inductionHypothesis later
      · cases found : piecesList separator rest with
        | nil => exact absurd found (piecesList_ne_nil _ _)
        | cons first others =>
            rw [piecesList, if_neg same, found] at member
            rw [found] at inductionHypothesis
            rcases List.mem_cons.1 member with rfl | later
            · simpa [Ne.symm same] using inductionHypothesis List.mem_cons_self
            · exact inductionHypothesis (List.mem_cons_of_mem _ later)

theorem pieces_ne_nil (separator : Char) (text : String) : pieces separator text ≠ [] := by
  simpa [pieces] using piecesList_ne_nil separator text.toList

theorem not_mem_of_mem_pieces {separator : Char} {text piece : String}
    (member : piece ∈ pieces separator text) : separator ∉ piece.toList := by
  obtain ⟨characters, inPieces, rfl⟩ := List.mem_map.1 member
  simpa using not_mem_of_mem_piecesList inPieces

/-- A text is its pieces, joined. -/
theorem intercalate_pieces (separator : Char) (text : String) :
    (String.singleton separator).intercalate (pieces separator text) = text := by
  apply String.toList_inj.1
  rw [String.toList_intercalate, pieces, List.map_map]
  have same : String.toList ∘ String.ofList = id := by
    funext characters
    simp
  rw [same, List.map_id, piecesList_eq_splitOn, String.toList_singleton]
  exact List.intercalate_splitOn separator

/-- The pieces of a joined text are what was joined. -/
theorem pieces_intercalate {separator : Char} {segments : List String} (nonempty : segments ≠ [])
    (absent : ∀ segment ∈ segments, separator ∉ segment.toList) :
    pieces separator ((String.singleton separator).intercalate segments) = segments := by
  have absentList : ∀ characters ∈ segments.map String.toList, separator ∉ characters := by
    intro characters member
    obtain ⟨segment, inSegments, rfl⟩ := List.mem_map.1 member
    exact absent segment inSegments
  have nonemptyList : segments.map String.toList ≠ [] := by simpa using nonempty
  rw [pieces, String.toList_intercalate, String.toList_singleton, piecesList_eq_splitOn,
    List.splitOn_intercalate separator absentList nonemptyList, List.map_map]
  have same : String.ofList ∘ String.toList = id := by
    funext text
    simp
  rw [same, List.map_id]

/-- Nothing but the separator and what is joined occurs in a joined text. -/
theorem not_mem_intercalate {separator c : Char} {segments : List String}
    (different : c ≠ separator) (absent : ∀ segment ∈ segments, c ∉ segment.toList) :
    c ∉ ((String.singleton separator).intercalate segments).toList := by
  induction segments with
  | nil => simp
  | cons segment rest inductionHypothesis =>
      have notHere : c ∉ segment.toList := absent segment List.mem_cons_self
      have notLater := inductionHypothesis fun other member =>
        absent other (List.mem_cons_of_mem _ member)
      cases rest with
      | nil => simpa using notHere
      | cons next others =>
          rw [String.intercalate_cons_of_ne_nil (List.cons_ne_nil _ _), String.toList_append,
            String.toList_append, String.toList_singleton]
          simp only [List.mem_append, List.mem_singleton, not_or]
          exact ⟨⟨notHere, different⟩, notLater⟩

/-! ## White space at the ends -/

/-- The text neither begins nor ends with white space. -/
structure IsTrimmed (text : String) : Prop where
  first : ∀ c ∈ text.toList.head?, isBlank c = false
  last : ∀ c ∈ text.toList.getLast?, isBlank c = false

theorem isTrimmed_iff {text : String} :
    IsTrimmed text ↔ text.toList.head?.all (fun c => !isBlank c) = true ∧
      text.toList.getLast?.all (fun c => !isBlank c) = true := by
  simp only [Option.all_eq_true, Bool.not_eq_true']
  exact ⟨fun trimmed => ⟨trimmed.first, trimmed.last⟩, fun ⟨first, last⟩ => ⟨first, last⟩⟩

instance (text : String) : Decidable (IsTrimmed text) := decidable_of_iff' _ isTrimmed_iff

theorem allBlank_iff {text : String} :
    allBlank text = true ↔ ∀ c ∈ text.toList, isBlank c = true := by
  simp [allBlank]

/-- The padded text is the text with nothing but white space around it. -/
def Pads (padded text : String) : Prop :=
  ∃ left right, allBlank left = true ∧ allBlank right = true ∧ padded = left ++ text ++ right

/-- A text pads itself. -/
theorem Pads.refl (text : String) : Pads text text :=
  ⟨"", "", rfl, rfl, by simp⟩

theorem Pads.mem_of_mem {padded text : String} (pads : Pads padded text) {c : Char}
    (member : c ∈ text.toList) : c ∈ padded.toList := by
  obtain ⟨left, right, _, _, whole⟩ := pads
  rw [whole, String.toList_append, String.toList_append]
  exact List.mem_append_left _ (List.mem_append_right _ member)

theorem Pads.not_mem {padded text : String} (pads : Pads padded text) {c : Char}
    (notBlank : isBlank c = false) (absent : c ∉ text.toList) : c ∉ padded.toList := by
  obtain ⟨left, right, leftBlank, rightBlank, whole⟩ := pads
  have notLeft : c ∉ left.toList := fun member => by
    simp [allBlank_iff.1 leftBlank c member] at notBlank
  have notRight : c ∉ right.toList := fun member => by
    simp [allBlank_iff.1 rightBlank c member] at notBlank
  simp [whole, notLeft, absent, notRight]

/-- Nothing is dropped from a list that does not begin with white space. -/
theorem dropWhile_isBlank_eq_self {characters : List Char}
    (first : ∀ c ∈ characters.head?, isBlank c = false) :
    characters.dropWhile isBlank = characters := by
  cases characters with
  | nil => rfl
  | cons c rest =>
      have notBlank : isBlank c = false := first c rfl
      simp [notBlank]

theorem head?_dropWhile_isBlank (characters : List Char) :
    ∀ c ∈ (characters.dropWhile isBlank).head?, isBlank c = false := by
  intro c member
  have stopped := List.head?_dropWhile_not isBlank characters
  rw [Option.mem_def.1 member] at stopped
  exact stopped

/-- White space that is put around a trimmed text is taken away. -/
theorem Pads.trim_eq {padded text : String} (pads : Pads padded text) (trimmed : IsTrimmed text) :
    trim padded = text := by
  obtain ⟨left, right, leftBlank, rightBlank, rfl⟩ := pads
  have reversed : ∀ c ∈ text.toList.reverse.head?, isBlank c = false := by
    simpa using trimmed.last
  have reversedBlank : ∀ c ∈ right.toList.reverse, isBlank c = true := by
    simpa using allBlank_iff.1 rightBlank
  have fromLeft : (left.toList ++ (text.toList ++ right.toList)).dropWhile isBlank =
      (text.toList ++ right.toList).dropWhile isBlank :=
    List.dropWhile_append_of_pos (allBlank_iff.1 leftBlank)
  have fromRight : (right.toList.reverse ++ text.toList.reverse).dropWhile isBlank =
      text.toList.reverse := by
    rw [List.dropWhile_append_of_pos reversedBlank, dropWhile_isBlank_eq_self reversed]
  cases characters : text.toList with
  | nil =>
      have isEmpty : text = "" := String.toList_inj.1 characters
      have nothing : right.toList.dropWhile isBlank = [] :=
        List.dropWhile_eq_nil_iff.2 (allBlank_iff.1 rightBlank)
      rw [trim, trimList, String.toList_append, String.toList_append, List.append_assoc, fromLeft,
        characters, List.nil_append, nothing, isEmpty]
      rfl
  | cons c rest =>
      have kept : (text.toList ++ right.toList).dropWhile isBlank =
          text.toList ++ right.toList := by
        apply dropWhile_isBlank_eq_self
        simpa [characters] using trimmed.first
      rw [trim, trimList, String.toList_append, String.toList_append, List.append_assoc, fromLeft,
        kept, List.reverse_append, fromRight, List.reverse_reverse, String.ofList_toList]

/-- What is trimmed away is white space. -/
theorem eq_append_trimList (characters : List Char) :
    ∃ left right, (∀ c ∈ left, isBlank c = true) ∧ (∀ c ∈ right, isBlank c = true) ∧
      characters.dropWhile isBlank = trimList characters ++ right ∧
      characters = left ++ (trimList characters ++ right) := by
  have started : characters.takeWhile isBlank ++ characters.dropWhile isBlank = characters :=
    List.takeWhile_append_dropWhile
  have ended := congrArg List.reverse
    (List.takeWhile_append_dropWhile (p := isBlank) (l := (characters.dropWhile isBlank).reverse))
  rw [List.reverse_append, List.reverse_reverse] at ended
  refine ⟨characters.takeWhile isBlank,
    ((characters.dropWhile isBlank).reverse.takeWhile isBlank).reverse, ?_, ?_, ended.symm, ?_⟩
  · intro c member
    exact List.mem_takeWhile_imp member
  · intro c member
    exact List.mem_takeWhile_imp (List.mem_reverse.1 member)
  · rw [trimList, ended, started]

theorem pads_trim (text : String) : Pads text (trim text) := by
  obtain ⟨left, right, leftBlank, rightBlank, _, whole⟩ := eq_append_trimList text.toList
  refine ⟨String.ofList left, String.ofList right, ?_, ?_, ?_⟩
  · simpa [allBlank] using leftBlank
  · simpa [allBlank] using rightBlank
  · apply String.toList_inj.1
    simpa [trim] using whole

theorem isTrimmed_trim (text : String) : IsTrimmed (trim text) where
  first := by
    -- The first character that is left is the first one after the white space at the beginning.
    obtain ⟨_, right, _, _, rest, _⟩ := eq_append_trimList text.toList
    have stopped := head?_dropWhile_isBlank text.toList
    rw [rest] at stopped
    intro c member
    apply stopped c
    have isFirst : (trimList text.toList).head? = some c := by simpa [trim] using member
    rw [List.head?_append, isFirst]
    rfl
  last := by
    have stopped := head?_dropWhile_isBlank (text.toList.dropWhile isBlank).reverse
    simpa [trim, trimList] using stopped

end ClusterCache.Text
