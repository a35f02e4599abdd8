import ClusterCache.Key
import ClusterCache.Proofs.Text.Pieces

/-!
# Scopes and their texts

The texts of scopes tell the scopes apart as long as no part of a key holds a quote. An API version
that does not start with a slash names its group and version in a way from which it can be joined
again, so that a kind and the scopes recorded for it spell the same API version. The other way
round, a group and a version without a slash are found again in the text that they are joined to.
-/

namespace ClusterCache

namespace Text

/-- A text is determined by what stands before and after its first separator. -/
theorem append_cons_inj {separator : Char} {left right leftRest rightRest : List Char}
    (leftAbsent : separator ∉ left) (rightAbsent : separator ∉ right)
    (same : left ++ separator :: leftRest = right ++ separator :: rightRest) :
    left = right ∧ leftRest = rightRest := by
  have cutLeft := cutList_append leftAbsent leftRest
  rw [same, cutList_append rightAbsent] at cutLeft
  obtain ⟨sameBefore, sameAfter⟩ := Prod.mk.inj (Option.some.inj cutLeft)
  exact ⟨sameBefore.symm, sameAfter.symm⟩

end Text

/-- A text is not what follows a slash in it. -/
theorem ne_slash_append (text before : String) : text ≠ before ++ "/" ++ text := by
  intro same
  have lengths := congrArg String.length same
  simp at lengths

/-- Only an API version that begins with a slash is not what its group and version are joined to. -/
theorem joinApiVersion_splitApiVersion_iff {apiVersion : String} :
    joinApiVersion (splitApiVersion apiVersion).1 (splitApiVersion apiVersion).2 = apiVersion ↔
      apiVersion.toList.head? ≠ some '/' := by
  rw [splitApiVersion]
  cases found : Text.cut '/' apiVersion with
  | none =>
      have noSlash : '/' ∉ apiVersion.toList := Text.cut_eq_none_iff.1 found
      have notFirst : apiVersion.toList.head? ≠ some '/' := fun first =>
        noSlash (List.mem_of_head? first)
      simp [joinApiVersion, notFirst]
  | some parts =>
      obtain ⟨group, version⟩ := parts
      obtain ⟨rfl, inGroup⟩ := Text.cut_eq_some_iff.1 found
      have slash : String.singleton '/' = "/" := rfl
      by_cases nameless : group = ""
      · have shorter : version ≠ "/" ++ version := by simpa using ne_slash_append version ""
        simpa [joinApiVersion, nameless, slash] using shorter
      · have nonempty : group.toList ≠ [] := by simpa using nameless
        obtain ⟨first, rest, characters⟩ := List.exists_cons_of_ne_nil nonempty
        have notSlash : first ≠ '/' := fun same => inGroup (by simp [characters, same])
        simp [joinApiVersion, nameless, slash, characters, notSlash]

theorem splitApiVersion_eq_nameless_iff {apiVersion : String} :
    splitApiVersion apiVersion = ("", apiVersion) ↔ '/' ∉ apiVersion.toList := by
  rw [← Text.cut_eq_none_iff, splitApiVersion]
  cases found : Text.cut '/' apiVersion with
  | none => simp
  | some parts =>
      obtain ⟨group, version⟩ := parts
      obtain ⟨whole, _⟩ := Text.cut_eq_some_iff.1 found
      refine ⟨fun same => ?_, fun nothing => by cases nothing⟩
      obtain ⟨_, isVersion⟩ := Prod.mk.inj same
      rw [isVersion] at whole
      exact absurd whole (ne_slash_append apiVersion group)

/-- Which groups and versions are found again in the text that they are joined to. -/
theorem splitApiVersion_joinApiVersion_iff {group version : String} :
    splitApiVersion (joinApiVersion group version) = (group, version) ↔
      '/' ∉ group.toList ∧ (group = "" → '/' ∉ version.toList) := by
  by_cases nameless : group = ""
  · have isVersion : joinApiVersion group version = version := by simp [joinApiVersion, nameless]
    rw [isVersion, nameless, splitApiVersion_eq_nameless_iff]
    simp
  · have joined : joinApiVersion group version = group ++ "/" ++ version := by
      simp [joinApiVersion, nameless]
    have slash : "/" = String.singleton '/' := rfl
    rw [joined, splitApiVersion]
    constructor
    · intro same
      cases found : Text.cut '/' (group ++ "/" ++ version) with
      | none =>
          rw [found] at same
          exact absurd (Prod.mk.inj same).1.symm nameless
      | some parts =>
          rw [found] at same
          have isParts : parts = (group, version) := same
          rw [isParts] at found
          exact ⟨(Text.cut_eq_some_iff.1 found).2, fun isNameless => absurd isNameless nameless⟩
    · rintro ⟨inGroup, _⟩
      have found : Text.cut '/' (group ++ "/" ++ version) = some (group, version) :=
        Text.cut_eq_some_iff.2 ⟨by rw [slash], inGroup⟩
      rw [found, Option.getD_some]

/-- Neither the group nor the version holds a slash. -/
structure GroupVersionKind.IsSlashless (kind : GroupVersionKind) : Prop where
  group : '/' ∉ kind.group.toList
  version : '/' ∉ kind.version.toList

namespace Key

/-- A key that spells the API version of a kind without slashes asks for that kind. -/
theorem groupVersionKind_of_apiVersion {key : Key} {kind : GroupVersionKind}
    (slashless : kind.IsSlashless) (apiVersion : key.apiVersion = kind.apiVersion)
    (sameKind : key.kind = kind.kind) : key.groupVersionKind = kind := by
  have split : splitApiVersion (joinApiVersion kind.group kind.version) =
      (kind.group, kind.version) :=
    splitApiVersion_joinApiVersion_iff.2 ⟨slashless.group, fun _ => slashless.version⟩
  rw [groupVersionKind, GroupVersionKind.ofApiVersion, apiVersion, sameKind,
    GroupVersionKind.apiVersion, split]

/-- No part of the scope of the key holds a quote. -/
structure IsUnquoted (key : Key) : Prop where
  ns : '\'' ∉ key.ns.toList
  apiVersion : '\'' ∉ key.apiVersion.toList
  kind : '\'' ∉ key.kind.toList

theorem IsUnquoted.scope {key : Key} (unquoted : key.IsUnquoted) : key.scope.IsUnquoted :=
  ⟨unquoted.ns, unquoted.apiVersion, unquoted.kind⟩

/-- No part of the scope of the key holds a quote, and its API version names a group or none. -/
structure IsPlain (key : Key) : Prop where
  ns : '\'' ∉ key.ns.toList
  apiVersion : '\'' ∉ key.apiVersion.toList
  kind : '\'' ∉ key.kind.toList
  group : key.apiVersion.toList.head? ≠ some '/'

theorem IsPlain.isUnquoted {key : Key} (plain : key.IsPlain) : key.IsUnquoted :=
  ⟨plain.ns, plain.apiVersion, plain.kind⟩

theorem IsPlain.scope {key : Key} (plain : key.IsPlain) : key.scope.IsPlain :=
  ⟨plain.ns, plain.apiVersion, plain.kind, plain.group⟩

/-- The kind of a plain key spells the API version of the key. -/
theorem IsPlain.apiVersion_groupVersionKind {key : Key} (plain : key.IsPlain) :
    key.groupVersionKind.apiVersion = key.apiVersion :=
  joinApiVersion_splitApiVersion_iff.2 plain.group

/-- The parts of a scope between given labels, the namespace only if there is one. -/
def labelled (nsLabel nsEnd apiLabel kindLabel ending : List Char) (key : Key) : List Char :=
  (if key.ns.isEmpty then [] else nsLabel ++ (key.ns.toList ++ '\'' :: nsEnd)) ++
    (apiLabel ++ (key.apiVersion.toList ++ '\'' ::
      (kindLabel ++ (key.kind.toList ++ '\'' :: ending))))

/-- The parts tell the scope, and where they end. -/
theorem labelled_inj {nsLabel nsEnd apiLabel kindLabel leftEnding rightEnding : List Char}
    {left right : Key}
    (different : ∀ leftRest rightRest, nsLabel ++ leftRest ≠ apiLabel ++ rightRest)
    (leftUnquoted : left.IsUnquoted) (rightUnquoted : right.IsUnquoted)
    (same : left.labelled nsLabel nsEnd apiLabel kindLabel leftEnding =
      right.labelled nsLabel nsEnd apiLabel kindLabel rightEnding) :
    left.scope = right.scope ∧ leftEnding = rightEnding := by
  have afterNs : apiLabel ++ (left.apiVersion.toList ++ '\'' ::
          (kindLabel ++ (left.kind.toList ++ '\'' :: leftEnding))) =
        apiLabel ++ (right.apiVersion.toList ++ '\'' ::
          (kindLabel ++ (right.kind.toList ++ '\'' :: rightEnding))) →
      left.apiVersion = right.apiVersion ∧ left.kind = right.kind ∧ leftEnding = rightEnding := by
    intro equality
    obtain ⟨apiVersion, rest⟩ := Text.append_cons_inj leftUnquoted.apiVersion
      rightUnquoted.apiVersion (List.append_cancel_left equality)
    obtain ⟨kind, ending⟩ := Text.append_cons_inj leftUnquoted.kind rightUnquoted.kind
      (List.append_cancel_left rest)
    exact ⟨String.toList_inj.1 apiVersion, String.toList_inj.1 kind, ending⟩
  unfold labelled at same
  by_cases leftAnywhere : left.ns.isEmpty = true
  · by_cases rightAnywhere : right.ns.isEmpty = true
    · simp only [leftAnywhere, rightAnywhere, if_true, List.nil_append] at same
      obtain ⟨apiVersion, kind, ending⟩ := afterNs same
      have ns : left.ns = right.ns := by simp_all
      exact ⟨by simp [scope, ofScope, ns, apiVersion, kind], ending⟩
    · simp only [leftAnywhere, rightAnywhere, if_true, Bool.false_eq_true, if_false,
        List.nil_append, List.append_assoc] at same
      exact absurd same.symm (different _ _)
  · by_cases rightAnywhere : right.ns.isEmpty = true
    · simp only [leftAnywhere, rightAnywhere, if_true, Bool.false_eq_true, if_false,
        List.nil_append, List.append_assoc] at same
      exact absurd same (different _ _)
    · simp only [leftAnywhere, rightAnywhere, Bool.false_eq_true, if_false, List.append_assoc,
        List.cons_append] at same
      obtain ⟨ns, rest⟩ := Text.append_cons_inj leftUnquoted.ns rightUnquoted.ns
        (List.append_cancel_left same)
      obtain ⟨apiVersion, kind, ending⟩ := afterNs (List.append_cancel_left rest)
      exact ⟨by simp [scope, ofScope, String.toList_inj.1 ns, apiVersion, kind], ending⟩

/-- The part of the text that names one object. -/
def nameText (key : Key) : String :=
  match key.name? with
  | some name => ", Name='" ++ name ++ "'"
  | none => ""

/-- The part of the text that narrows the key to labels. -/
def choiceText (key : Key) : String :=
  match key.selector with
  | some selector =>
      if selector.isEmpty then "" else ", Selector='" ++ selectorText selector ++ "'"
  | none => ""

theorem toList_text (key : Key) :
    key.text.toList =
      "CacheKey[".toList ++ key.labelled "Namespace='".toList ", ".toList "ApiVersion='".toList
        ", Kind='".toList (key.nameText ++ (key.choiceText ++ "]")).toList := by
  have nsEnd : "', ".toList = '\'' :: ", ".toList := rfl
  have kindLabel : "', Kind='".toList = '\'' :: ", Kind='".toList := rfl
  have kindEnd : "'".toList = ['\''] := rfl
  have nothing : "".toList = [] := rfl
  have parts : key.text =
      "CacheKey[" ++ (if key.ns.isEmpty then "" else "Namespace='" ++ key.ns ++ "', ") ++
        "ApiVersion='" ++ key.apiVersion ++ "', Kind='" ++ key.kind ++ "'" ++ key.nameText ++
        key.choiceText ++ "]" := rfl
  rw [parts]
  unfold labelled
  by_cases anywhere : key.ns.isEmpty = true
  · simp only [anywhere, if_true, String.toList_append, kindLabel, kindEnd, nothing,
      List.append_assoc, List.nil_append, List.cons_append, List.append_nil]
  · simp only [anywhere, Bool.false_eq_true, if_false, String.toList_append, nsEnd, kindLabel,
      kindEnd, List.append_assoc, List.nil_append, List.cons_append]

/-- The text of a key without quotes tells its scope, and how it is narrowed. -/
theorem IsUnquoted.scope_eq_and_narrowing_eq {left right : Key} (leftUnquoted : left.IsUnquoted)
    (rightUnquoted : right.IsUnquoted) (same : left.text = right.text) :
    left.scope = right.scope ∧
      left.nameText ++ (left.choiceText ++ "]") = right.nameText ++ (right.choiceText ++ "]") := by
  have characters := congrArg String.toList same
  rw [toList_text, toList_text] at characters
  have different : ∀ leftRest rightRest,
      "Namespace='".toList ++ leftRest ≠ "ApiVersion='".toList ++ rightRest := by
    intro leftRest rightRest
    simp
  obtain ⟨scope, narrowing⟩ := labelled_inj different leftUnquoted rightUnquoted
    (List.append_cancel_left characters)
  exact ⟨scope, String.toList_inj.1 narrowing⟩

/-- Unquoted scopes with one text are the same. -/
theorem IsUnquoted.scope_eq {left right : Key} (leftUnquoted : left.IsUnquoted)
    (rightUnquoted : right.IsUnquoted) (same : left.scope.text = right.scope.text) :
    left.scope = right.scope :=
  (leftUnquoted.scope.scope_eq_and_narrowing_eq rightUnquoted.scope same).1

/-- Plain scopes with one text are the same. -/
theorem scope_eq_of_text_eq {left right : Key} (leftPlain : left.IsPlain)
    (rightPlain : right.IsPlain) (same : left.scope.text = right.scope.text) :
    left.scope = right.scope :=
  leftPlain.isUnquoted.scope_eq rightPlain.isUnquoted same

end Key

end ClusterCache
