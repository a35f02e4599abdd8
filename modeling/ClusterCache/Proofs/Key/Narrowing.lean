import ClusterCache.Proofs.Key.Text

/-!
# What the text of a key tells

An empty name and a selector without labels do not narrow a key and are not printed. Apart from
that, the text tells keys apart as long as their parts hold no quote and the labels of their
selectors none of the marks between labels: two keys have one text if and only if they are the same
but for what does not narrow them.
-/

namespace ClusterCache.Key

/-- The labels of the selector, if there are any. -/
def choice? (key : Key) : Option Labels := key.selector.filter fun selector => !selector.isEmpty

/-- The key without a name or a selector that does not narrow it. -/
def normal (key : Key) : Key := { key with name := key.name?, selector := key.choice? }

/-- No mark that separates labels or ends them occurs where it would be taken for one. -/
structure IsLegibleLabel (entry : String × String) : Prop where
  keyQuote : '\'' ∉ entry.1.toList
  keyComma : ',' ∉ entry.1.toList
  keyEquals : '=' ∉ entry.1.toList
  valueQuote : '\'' ∉ entry.2.toList
  valueComma : ',' ∉ entry.2.toList

/-- No part of the key holds a quote, and the labels are legible. -/
structure IsLegible (key : Key) : Prop where
  unquoted : key.IsUnquoted
  name : ∀ name, key.name = some name → '\'' ∉ name.toList
  labels : ∀ selector, key.selector = some selector →
    ∀ entry ∈ selector.entries, IsLegibleLabel entry

theorem choiceText_eq (key : Key) :
    key.choiceText =
      match key.choice? with
      | some selector => ", Selector='" ++ selectorText selector ++ "'"
      | none => "" := by
  unfold choiceText choice?
  cases key.selector with
  | none => rfl
  | some selector =>
      cases narrows : selector.isEmpty with
      | true => simp [Option.filter, narrows]
      | false => simp [Option.filter, narrows]

theorem name?_normal (key : Key) : key.normal.name? = key.name? := by
  simp [normal, name?, Option.filter_filter]

theorem choice?_normal (key : Key) : key.normal.choice? = key.choice? := by
  simp [normal, choice?, Option.filter_filter]

/-- What does not narrow a key is not printed. -/
theorem text_normal (key : Key) : key.normal.text = key.text := by
  have nameText : key.normal.nameText = key.nameText := by
    rw [Key.nameText, Key.nameText, name?_normal]
  have choiceText : key.normal.choiceText = key.choiceText := by
    rw [choiceText_eq, choiceText_eq, choice?_normal]
  apply String.toList_inj.1
  rw [toList_text, toList_text, nameText, choiceText]
  rfl

/-! ## Labels -/

theorem cut_label {entry : String × String} (legible : IsLegibleLabel entry) :
    Text.cut '=' (entry.1 ++ "=" ++ entry.2) = some entry :=
  Text.cut_eq_some_iff.2 ⟨rfl, legible.keyEquals⟩

theorem pieces_selectorText {selector : Labels} (narrows : selector.isEmpty = false)
    (legible : ∀ entry ∈ selector.entries, IsLegibleLabel entry) :
    Text.pieces ',' (selectorText selector) =
      selector.entries.map fun entry => entry.1 ++ "=" ++ entry.2 := by
  have nonempty : (selector.entries.map fun entry => entry.1 ++ "=" ++ entry.2) ≠ [] := by
    simpa [Dictionary.isEmpty] using narrows
  refine Text.pieces_intercalate nonempty ?_
  intro segment member
  obtain ⟨entry, inSelector, rfl⟩ := List.mem_map.1 member
  have entryLegible := legible entry inSelector
  simp [entryLegible.keyComma, entryLegible.valueComma]

/-- The labels of a selector are found again in its text. -/
theorem selectorText_inj {left right : Labels} (leftNarrows : left.isEmpty = false)
    (rightNarrows : right.isEmpty = false)
    (leftLegible : ∀ entry ∈ left.entries, IsLegibleLabel entry)
    (rightLegible : ∀ entry ∈ right.entries, IsLegibleLabel entry)
    (same : selectorText left = selectorText right) : left = right := by
  have labels : ∀ selector : Labels, selector.isEmpty = false →
      (∀ entry ∈ selector.entries, IsLegibleLabel entry) →
      (Text.pieces ',' (selectorText selector)).map (Text.cut '=') = selector.entries.map some := by
    intro selector narrows legible
    rw [pieces_selectorText narrows legible, List.map_map]
    exact List.map_congr_left fun entry member => cut_label (legible entry member)
  have entries : left.entries.map some = right.entries.map some := by
    rw [← labels left leftNarrows leftLegible, same, labels right rightNarrows rightLegible]
  exact Dictionary.ext_entries ((List.map_inj_right fun _ _ => Option.some.inj).1 entries)

theorem quote_not_mem_selectorText {selector : Labels}
    (legible : ∀ entry ∈ selector.entries, IsLegibleLabel entry) :
    '\'' ∉ (selectorText selector).toList := by
  have comma : "," = String.singleton ',' := rfl
  have different : '\'' ≠ ',' := by decide
  rw [selectorText, comma]
  refine Text.not_mem_intercalate different ?_
  intro segment member
  obtain ⟨entry, inSelector, rfl⟩ := List.mem_map.1 member
  have entryLegible := legible entry inSelector
  simp [entryLegible.keyQuote, entryLegible.valueQuote]

/-! ## Names and labels -/

/-- A text between a label and a quote is found again, with what follows it. -/
theorem quoted_inj {label left right leftRest rightRest : String}
    (leftUnquoted : '\'' ∉ left.toList) (rightUnquoted : '\'' ∉ right.toList)
    (same : label ++ left ++ "'" ++ leftRest = label ++ right ++ "'" ++ rightRest) :
    left = right ∧ leftRest = rightRest := by
  have quote : "'".toList = ['\''] := rfl
  have characters := congrArg String.toList same
  simp only [String.toList_append, quote, List.append_assoc, List.singleton_append] at characters
  obtain ⟨texts, rests⟩ :=
    Text.append_cons_inj leftUnquoted rightUnquoted (List.append_cancel_left characters)
  exact ⟨String.toList_inj.1 texts, String.toList_inj.1 rests⟩

theorem IsLegible.not_mem_name? {key : Key} (legible : key.IsLegible) {name : String}
    (named : key.name? = some name) : '\'' ∉ name.toList :=
  legible.name name (Option.filter_eq_some_iff.1 named).1

theorem IsLegible.labels_choice? {key : Key} (legible : key.IsLegible) {selector : Labels}
    (chosen : key.choice? = some selector) :
    selector.isEmpty = false ∧ ∀ entry ∈ selector.entries, IsLegibleLabel entry := by
  obtain ⟨selected, narrows⟩ := Option.filter_eq_some_iff.1 chosen
  exact ⟨by simpa using narrows, legible.labels selector selected⟩

theorem IsLegible.choice?_eq {left right : Key} (leftLegible : left.IsLegible)
    (rightLegible : right.IsLegible)
    (same : left.choiceText ++ "]" = right.choiceText ++ "]") : left.choice? = right.choice? := by
  rw [choiceText_eq, choiceText_eq] at same
  cases leftChosen : left.choice? with
  | none =>
      cases rightChosen : right.choice? with
      | none => rfl
      | some other =>
          have characters := congrArg String.toList same
          simp [leftChosen, rightChosen] at characters
  | some selector =>
      obtain ⟨leftNarrows, leftLabels⟩ := leftLegible.labels_choice? leftChosen
      cases rightChosen : right.choice? with
      | none =>
          have characters := congrArg String.toList same
          simp [leftChosen, rightChosen] at characters
      | some other =>
          obtain ⟨rightNarrows, rightLabels⟩ := rightLegible.labels_choice? rightChosen
          simp only [leftChosen, rightChosen] at same
          obtain ⟨texts, _⟩ := quoted_inj (quote_not_mem_selectorText leftLabels)
            (quote_not_mem_selectorText rightLabels) same
          rw [selectorText_inj leftNarrows rightNarrows leftLabels rightLabels texts]

/-- A selector does not begin the way a name does, and neither does the end of the text. -/
theorem choiceText_ne_append_name (key : Key) (rest : String) :
    key.choiceText ++ "]" ≠ ", Name='" ++ rest := by
  intro same
  rw [choiceText_eq] at same
  have characters := congrArg String.toList same
  cases chosen : key.choice? with
  | none => simp [chosen] at characters
  | some selector => simp [chosen] at characters

theorem IsLegible.name?_eq_and_choice?_eq {left right : Key} (leftLegible : left.IsLegible)
    (rightLegible : right.IsLegible)
    (same : left.nameText ++ (left.choiceText ++ "]") =
      right.nameText ++ (right.choiceText ++ "]")) :
    left.name? = right.name? ∧ left.choice? = right.choice? := by
  unfold nameText at same
  cases leftNamed : left.name? with
  | none =>
      cases rightNamed : right.name? with
      | none =>
          simp only [leftNamed, rightNamed, String.empty_append] at same
          exact ⟨rfl, leftLegible.choice?_eq rightLegible same⟩
      | some other =>
          simp only [leftNamed, rightNamed, String.empty_append, String.append_assoc] at same
          exact absurd same (left.choiceText_ne_append_name _)
  | some name =>
      cases rightNamed : right.name? with
      | none =>
          simp only [leftNamed, rightNamed, String.empty_append, String.append_assoc] at same
          exact absurd same.symm (right.choiceText_ne_append_name _)
      | some other =>
          simp only [leftNamed, rightNamed] at same
          obtain ⟨sameName, rests⟩ := quoted_inj (leftLegible.not_mem_name? leftNamed)
            (rightLegible.not_mem_name? rightNamed) same
          exact ⟨congrArg some sameName, leftLegible.choice?_eq rightLegible rests⟩

/-- Legible keys have one text if and only if they are narrowed alike in one scope. -/
theorem IsLegible.text_eq_iff {left right : Key} (leftLegible : left.IsLegible)
    (rightLegible : right.IsLegible) : left.text = right.text ↔ left.normal = right.normal := by
  constructor
  · intro same
    obtain ⟨sameScope, sameNarrowing⟩ :=
      leftLegible.unquoted.scope_eq_and_narrowing_eq rightLegible.unquoted same
    obtain ⟨sameName, sameChoice⟩ := leftLegible.name?_eq_and_choice?_eq rightLegible sameNarrowing
    simp only [scope, ofScope, mk.injEq] at sameScope
    simp [normal, sameScope, sameName, sameChoice]
  · intro same
    rw [← text_normal left, same, text_normal]

/-- A selector that narrows a key is printed last, between quotes. -/
theorem exists_text_eq_append_selectorText {key : Key} {selector : Labels}
    (selected : key.selector = some selector) (narrows : selector.isEmpty = false) :
    ∃ opening, key.text = opening ++ ", Selector='" ++ selectorText selector ++ "']" := by
  have whole : ∃ opening, key.text = opening ++ key.choiceText ++ "]" := ⟨_, rfl⟩
  have chosen : key.choice? = some selector :=
    Option.filter_eq_some_iff.2 ⟨selected, by simp [narrows]⟩
  have ending : "']" = "'" ++ "]" := rfl
  obtain ⟨opening, printed⟩ := whole
  refine ⟨opening, ?_⟩
  rw [printed, choiceText_eq, chosen, ending]
  simp only [String.append_assoc]

end ClusterCache.Key
