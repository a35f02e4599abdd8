import ClusterCache.Proofs.Scopes.Records

/-!
# Looking up what was not forgotten

To forget a kind takes its entries out of both records, in every namespace, and leaves all others
where they are found. This rests on the records listing no scope and no namespace twice, which they
never do.
-/

namespace ClusterCache

namespace Loading

/-- The entry was made for the API version and the kind. -/
def isOf (apiVersion kind : String) (entry : ScopeEntry) : Bool :=
  entry.apiVersion = apiVersion && entry.kind = kind

theorem distinct_record {loading : Loading} (distinct : loading.entries.Distinct) (scope : Key)
    (loaded : Bool) : (loading.record scope loaded).entries.Distinct :=
  distinct.insert _ _

theorem distinct_forgetKind {loading : Loading} (distinct : loading.entries.Distinct)
    (apiVersion kind : String) : (loading.forgetKind apiVersion kind).entries.Distinct :=
  distinct.filter _

theorem get?_forgetKind {loading : Loading} (distinct : loading.entries.Distinct)
    (apiVersion kind text : String) :
    (loading.forgetKind apiVersion kind).entries.get? text =
      (loading.entries.get? text).filter fun entry => !isOf apiVersion kind entry := by
  have keeps : (fun entry : ScopeEntry =>
      decide (entry.apiVersion ≠ apiVersion) || decide (entry.kind ≠ kind)) =
      fun entry => !isOf apiVersion kind entry := by
    funext entry
    simp [isOf, Bool.not_and]
  rw [forgetKind, distinct.get?_filter, keeps]

end Loading

namespace Usage

/-- What is recorded about the kind in the namespace. -/
def noted? (usage : Usage) (ns : String) (kind : GroupVersionKind) : Option Bool :=
  (usage.scopes.get? ns).bind fun kinds => kinds.get? kind

theorem distinct_record {usage : Usage} (distinct : usage.scopes.Distinct) (ns : String)
    (kind : GroupVersionKind) (used : Bool) : (usage.record ns kind used).scopes.Distinct :=
  distinct.insert _ _

theorem distinct_forgetKind {usage : Usage} (distinct : usage.scopes.Distinct)
    (kind : GroupVersionKind) : (usage.forgetKind kind).scopes.Distinct :=
  (distinct.mapValues _).filter _

theorem noted?_forgetKind {usage : Usage} (distinct : usage.scopes.Distinct)
    (forgotten : GroupVersionKind) (ns : String) (kind : GroupVersionKind) :
    (usage.forgetKind forgotten).noted? ns kind =
      if kind = forgotten then none else usage.noted? ns kind := by
  have lookup : (usage.forgetKind forgotten).scopes.get? ns =
      ((usage.scopes.get? ns).map fun kinds => kinds.erase forgotten).filter
        fun kinds => !kinds.isEmpty := by
    rw [forgetKind, (distinct.mapValues _).get?_filter, Table.get?_mapValues]
  rw [noted?, lookup, noted?]
  cases usage.scopes.get? ns with
  | none => simp
  | some kinds =>
      -- A namespace that is dropped had no other kind.
      have dropped : (kinds.erase forgotten).isEmpty = true →
          (kinds.erase forgotten).get? kind = none := by
        intro nothing
        have noEntries : (kinds.erase forgotten).entries = [] := by
          simpa [Table.isEmpty] using nothing
        simp [Table.get?, noEntries]
      rw [Option.map_some, Option.bind_some, ← Table.get?_erase]
      cases left : (kinds.erase forgotten).isEmpty with
      | true => simp [Option.filter, left, dropped left]
      | false => simp [Option.filter, left]

end Usage

end ClusterCache
