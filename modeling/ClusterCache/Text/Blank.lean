/-!
# White space and splitting

White space is the Unicode property `White_Space`. Texts are cut on single characters; the lemmas
say that cutting loses nothing but the separators.
-/

namespace ClusterCache.Text

/-! ## White space -/

/-- The characters with the Unicode property `White_Space`. -/
def isBlank (c : Char) : Bool :=
  (9 ≤ c.toNat && c.toNat ≤ 13) || c.toNat = 0x20 || c.toNat = 0x85 || c.toNat = 0xA0
    || c.toNat = 0x1680 || (0x2000 ≤ c.toNat && c.toNat ≤ 0x200A) || c.toNat = 0x2028
    || c.toNat = 0x2029 || c.toNat = 0x202F || c.toNat = 0x205F || c.toNat = 0x3000

def trimList (characters : List Char) : List Char :=
  ((characters.dropWhile isBlank).reverse.dropWhile isBlank).reverse

def trim (text : String) : String := String.ofList (trimList text.toList)

def allBlank (text : String) : Bool := text.toList.all isBlank

/-! ## Cutting texts -/

/-- The characters before and after the first `separator`. -/
def cutList (separator : Char) : List Char → Option (List Char × List Char)
  | [] => none
  | c :: rest =>
      if c = separator then some ([], rest)
      else (cutList separator rest).map fun (before, after) => (c :: before, after)

def cut (separator : Char) (text : String) : Option (String × String) :=
  (cutList separator text.toList).map fun (before, after) =>
    (String.ofList before, String.ofList after)

/-- The pieces between separators, one more than there are separators. -/
def piecesList (separator : Char) : List Char → List (List Char)
  | [] => [[]]
  | c :: rest =>
      if c = separator then [] :: piecesList separator rest
      else
        match piecesList separator rest with
        | [] => [[c]]
        | piece :: pieces => (c :: piece) :: pieces

def pieces (separator : Char) (text : String) : List String :=
  (piecesList separator text.toList).map String.ofList

theorem cutList_eq_none_iff {separator : Char} {characters : List Char} :
    cutList separator characters = none ↔ separator ∉ characters := by
  induction characters with
  | nil => simp [cutList]
  | cons c rest inductionHypothesis =>
      by_cases same : c = separator
      · simp [cutList, same]
      · simp [cutList, same, inductionHypothesis, Ne.symm same]

theorem cutList_append {separator : Char} {before : List Char} (absent : separator ∉ before)
    (after : List Char) :
    cutList separator (before ++ separator :: after) = some (before, after) := by
  induction before with
  | nil => simp [cutList]
  | cons c rest inductionHypothesis =>
      simp only [List.mem_cons, not_or] at absent
      simp [cutList, Ne.symm absent.1, inductionHypothesis absent.2]

theorem eq_append_of_cutList {separator : Char} {characters before after : List Char}
    (equality : cutList separator characters = some (before, after)) :
    characters = before ++ separator :: after ∧ separator ∉ before := by
  induction characters generalizing before with
  | nil => simp [cutList] at equality
  | cons c rest inductionHypothesis =>
      by_cases same : c = separator
      · simp only [cutList, same, if_true, Option.some.injEq, Prod.mk.injEq] at equality
        simp [← equality.1, ← equality.2, same]
      · simp only [cutList, same, if_false, Option.map_eq_some_iff, Prod.exists,
          Prod.mk.injEq] at equality
        obtain ⟨shorter, remaining, found, rfl, rfl⟩ := equality
        obtain ⟨equality, absent⟩ := inductionHypothesis found
        exact ⟨by simp [equality], by simp [Ne.symm same, absent]⟩

theorem piecesList_ne_nil (separator : Char) (characters : List Char) :
    piecesList separator characters ≠ [] := by
  cases characters with
  | nil => simp [piecesList]
  | cons c rest =>
      by_cases same : c = separator
      · simp [piecesList, same]
      · simp only [piecesList, same, if_false]
        split <;> simp

end ClusterCache.Text
