import XpBuilder.Report.Pdf
import XpBuilder.Report.RowSecurity

/-! The roles that the renderer of a PDF gives to the columns of a result, beside those
that `build_select` gave them. A column is a metric for the one when an entry prints its
name, for the other when it comes from the list of metrics. -/

namespace XpBuilder

/-! ## The columns with their names -/

namespace Definition

/-- What each column of the result is made from. -/
def outputs (d : Definition) : List (ColumnEntry ⊕ MetricEntry) :=
  d.columns.map Sum.inl ++ d.metrics.map Sum.inr

/-- The columns of the result with the names that they have there. -/
def namedOutputs (d : Definition) : List ((ColumnEntry ⊕ MetricEntry) × String) :=
  d.outputs.zip (SqlBuilder.dedupNames [] d.outputLabels)

/-- The field is one of those to group by. -/
def Grouped (d : Definition) (c : ColumnEntry) : Prop :=
  ∃ g ∈ d.groupBy, g.dataset = c.dataset ∧ g.column = c.column

instance (d : Definition) (c : ColumnEntry) : Decidable (d.Grouped c) :=
  inferInstanceAs (Decidable (∃ g ∈ d.groupBy, _))

/-- The names in the result tell the roles of its columns. -/
structure RolesTold (d : Definition) : Prop where
  metricNamed : ∀ m name, (Sum.inr m, name) ∈ d.namedOutputs → ∃ k ∈ d.metrics, k.prints name
  fieldUnlikeMetric : ∀ c name, (Sum.inl c, name) ∈ d.namedOutputs → ∀ k ∈ d.metrics, ¬k.prints name
  groupNamed : ∀ c name, (Sum.inl c, name) ∈ d.namedOutputs → d.Grouped c →
    ∃ g ∈ d.groupBy, g.prints name
  fieldUnlikeGroup : ∀ c name, (Sum.inl c, name) ∈ d.namedOutputs → ¬d.Grouped c →
    ∀ g ∈ d.groupBy, ¬g.prints name
  metricUnlikeGroup : ∀ m name, (Sum.inr m, name) ∈ d.namedOutputs → ∀ g ∈ d.groupBy, ¬g.prints name

theorem length_outputs (d : Definition) : d.outputs.length = d.outputLabels.length := by
  simp [outputs, outputLabels]

end Definition

namespace SqlBuilder

theorem length_dedupNames (seen names : List String) : (dedupNames seen names).length = names.length := by
  induction names generalizing seen with
  | nil => rfl
  | cons name rest ih => rw [dedupNames, List.length_cons, List.length_cons, ih]

theorem executeReport_ok {env : BuildEnv} {Q : QueryEnv} {state : DatabaseState} {raw : RawDefinition}
    {s : Sql.Select} {p : SqlaTable} {result : ReportResult} (accepted : buildSelect env raw = .ok (s, p)) :
    executeReport env Q state raw = .ok result ↔ ∃ rows,
      s.run (Q.engine p.databaseId) (fun t => state (Q.databases.resolve p.databaseId t)) = some rows ∧
      result = ⟨Q.literal p.databaseId s, dedupNames [] (normalizeDefinition raw).outputLabels,
        rows.map (recordOf (dedupNames [] (normalizeDefinition raw).outputLabels)), rows.length,
        decide ((normalizeDefinition raw).limit ≤ rows.length)⟩ := by
  obtain ⟨tables, first, a⟩ := buildSelect_ok.mp accepted
  simp only [executeReport, buildSelect_normalized, accepted, getDf]
  cases ran : s.run (Q.engine p.databaseId) (fun t => state (Q.databases.resolve p.databaseId t)) with
  | none => simp [bind, Except.bind, ran]
  | some rows => simp [bind, Except.bind, ran, a.labels]

theorem executeReport_runs {env : BuildEnv} {raw : RawDefinition} {s : Sql.Select} {p : SqlaTable}
    (accepted : buildSelect env raw = .ok (s, p)) (accepts : s.fromAccepted = true) (limit : 0 ≤ s.limit)
    (Q : QueryEnv) (state : DatabaseState) : ∃ result, executeReport env Q state raw = .ok result ∧
      result.columns = dedupNames [] (normalizeDefinition raw).outputLabels := by
  have runs : ∃ rows, s.run (Q.engine p.databaseId) (fun t => state (Q.databases.resolve p.databaseId t)) =
      some rows := by
    unfold Sql.Select.run
    rw [if_pos (by simp [accepts, limit])]
    exact ⟨_, rfl⟩
  obtain ⟨rows, run⟩ := runs
  exact ⟨_, (executeReport_ok accepted).mpr ⟨rows, run, rfl⟩, rfl⟩

/-- The column of a statement is an aggregate. -/
def Aggregated (c : Sql.SelectColumn) : Prop := ∃ agg e, c.body = .aggregate agg e

/-- Each column of the statement with what it is made from. -/
theorem Accepted.made {env : BuildEnv} {d : Definition} {tables : Tables} {first : Nat} {s : Sql.Select}
    {p : SqlaTable} (a : Accepted env d tables first s p) :
    List.Forall₂ (fun output c => Aggregated c ↔ ∃ m, output = Sum.inr m)
      d.outputs s.columns := by
  obtain ⟨dimensions, metrics, columns, left, right⟩ := a.columns
  rw [columns]
  apply List.rel_append
  · rw [List.forall₂_map_left_iff]
    refine (Fallible.mapM_eq_ok.mp left).imp (fun entry c made => ?_)
    obtain ⟨e, -, rfl⟩ := dimension_ok.mp made
    simp [Aggregated]
  · rw [List.forall₂_map_left_iff]
    refine (Fallible.mapM_eq_ok.mp right).imp (fun entry c made => ?_)
    obtain ⟨agg, e, -, -, rfl⟩ := metric_ok.mp made
    simp [Aggregated]

end SqlBuilder

namespace Pdf

/-- The positions that the renderer takes for metrics are those of aggregates, and those
that it takes for groups are those of fields to group by. -/
structure Recognised (raw : RawDefinition) (s : Sql.Select) (columns : List String) : Prop where
  metrics : ∀ i, i ∈ metricIdx raw columns ↔ ∃ c, s.columns[i]? = some c ∧ SqlBuilder.Aggregated c
  groups : ∀ i, i ∈ groupIdx raw columns ↔
    ∃ c, (normalizeDefinition raw).columns[i]? = some c ∧ (normalizeDefinition raw).Grouped c

/-- A role is told by names when it goes with them at every position. -/
theorem positions_iff {α : Type} (prints : String → Bool) (role : α → Prop) {outputs : List α}
    {names : List String} (length : outputs.length = names.length) :
    (∀ i, i ∈ positions prints names ↔ ∃ o, outputs[i]? = some o ∧ role o) ↔
      ∀ o name, (o, name) ∈ outputs.zip names → (prints name ↔ role o) := by
  constructor
  · intro told o name mem
    obtain ⟨i, there⟩ := List.mem_iff_getElem?.mp mem
    have both := List.getElem?_zip_eq_some.mp there
    have here := told i
    rw [mem_positions] at here
    simpa [both.1, both.2] using here
  · intro told i
    rw [mem_positions]
    by_cases inside : i < names.length
    · have output : outputs[i]? = some (outputs.get ⟨i, length ▸ inside⟩) := List.getElem?_eq_getElem _
      have name : names[i]? = some names[i] := List.getElem?_eq_getElem _
      have pair : (outputs.get ⟨i, length ▸ inside⟩, names[i]) ∈ outputs.zip names :=
        List.mem_of_getElem? (List.getElem?_zip_eq_some.mpr ⟨output, name⟩)
      rw [output, name]
      simpa using told _ _ pair
    · have past : names[i]? = none := List.getElem?_eq_none (by omega)
      have past' : outputs[i]? = none := List.getElem?_eq_none (by omega)
      simp [past, past']

/-- The renderer finds the roles again exactly where the names tell them. -/
theorem recognised_iff_rolesTold {env : BuildEnv} {Q : QueryEnv} {state : DatabaseState}
    {raw : RawDefinition} {s : Sql.Select} {p : SqlaTable} {result : ReportResult}
    (accepted : SqlBuilder.buildSelect env raw = .ok (s, p))
    (ran : SqlBuilder.executeReport env Q state raw = .ok result) :
    Recognised raw s result.columns ↔ (normalizeDefinition raw).RolesTold := by
  obtain ⟨tables, first, a⟩ := SqlBuilder.buildSelect_ok.mp accepted
  obtain ⟨rows, -, rfl⟩ := (SqlBuilder.executeReport_ok accepted).mp ran
  have length : (normalizeDefinition raw).outputs.length =
      (SqlBuilder.dedupNames [] (normalizeDefinition raw).outputLabels).length := by
    rw [SqlBuilder.length_dedupNames, Definition.length_outputs]
  have aggregates : ∀ i : Nat, (∃ c, s.columns[i]? = some c ∧ SqlBuilder.Aggregated c) ↔
      ∃ o, (normalizeDefinition raw).outputs[i]? = some o ∧ ∃ m, o = Sum.inr m :=
    Lists.exists_getElem?_iff a.made
  have fields : ∀ i : Nat, (∃ c, (normalizeDefinition raw).columns[i]? = some c ∧
        (normalizeDefinition raw).Grouped c) ↔
      ∃ o, (normalizeDefinition raw).outputs[i]? = some o ∧
        ∃ c, o = Sum.inl c ∧ (normalizeDefinition raw).Grouped c := by
    intro i
    rw [Definition.outputs, List.getElem?_append]
    split
    · simp
    · rename_i past
      rw [List.length_map] at past
      have none_there : (normalizeDefinition raw).columns[i]? = none := List.getElem?_eq_none (by omega)
      simp [none_there]
  have metric := positions_iff (fun col => (normalizeDefinition raw).metrics.any (fun m => m.prints col))
    (fun o => ∃ m, o = Sum.inr m) length
  have group := positions_iff (fun col => (normalizeDefinition raw).groupBy.any (fun g => g.prints col))
    (fun o => ∃ c, o = Sum.inl c ∧ (normalizeDefinition raw).Grouped c) length
  constructor
  · intro recognised
    have told := metric.mp (fun i => (recognised.metrics i).trans (aggregates i))
    have told' := group.mp (fun i => (recognised.groups i).trans (fields i))
    refine ⟨fun m name mem => ?_, fun c name mem k there printed => ?_, fun c name mem grouped => ?_,
      fun c name mem other g there printed => ?_, fun m name mem g there printed => ?_⟩
    · simpa using (told _ _ mem).mpr ⟨m, rfl⟩
    · simpa using (told _ _ mem).mp (List.any_eq_true.mpr ⟨k, there, printed⟩)
    · simpa using (told' _ _ mem).mpr ⟨c, rfl, grouped⟩
    · have found := (told' _ _ mem).mp (List.any_eq_true.mpr ⟨g, there, printed⟩)
      simp [other] at found
    · simpa using (told' _ _ mem).mp (List.any_eq_true.mpr ⟨g, there, printed⟩)
  · intro roles
    constructor
    · intro i
      refine (metric.mpr ?_ i).trans (aggregates i).symm
      intro o name mem
      cases o with
      | inl c => simpa using roles.fieldUnlikeMetric c name mem
      | inr m => simpa using roles.metricNamed m name mem
    · intro i
      refine (group.mpr ?_ i).trans (fields i).symm
      intro o name mem
      cases o with
      | inl c =>
        by_cases grouped : (normalizeDefinition raw).Grouped c
        · simpa [grouped] using roles.groupNamed c name mem grouped
        · simpa [grouped] using roles.fieldUnlikeGroup c name mem grouped
      | inr m => simpa using roles.metricUnlikeGroup m name mem

/-! ## One field and one metric -/

/-- The field `k` of dataset 1, also grouped by, and a metric of its column `v`. -/
def summed (label : String) (aggregate : Option String) : RawDefinition :=
  ⟨none, some [⟨1, none⟩], none, some [⟨1, "k", some label⟩], some [⟨1, "v", aggregate, none⟩],
    some [⟨1, "k", some "k"⟩], none, none, none⟩

theorem summed_recognised : ∃ s p result,
    SqlBuilder.buildSelect SqlBuilder.twoDatabases (summed "k" (some "SUM")) = .ok (s, p) ∧
    SqlBuilder.executeReport SqlBuilder.twoDatabases SqlBuilder.plainQuery (fun _ => []) (summed "k" (some "SUM")) =
      .ok result ∧ Recognised (summed "k" (some "SUM")) s result.columns := by
  obtain ⟨s, p, accepted, accepts, limit⟩ : ∃ s p,
      SqlBuilder.buildSelect SqlBuilder.twoDatabases (summed "k" (some "SUM")) = .ok (s, p) ∧
      s.fromAccepted = true ∧ s.limit = 1000 := by
    refine ⟨_, _, rfl, ?_, rfl⟩
    decide
  obtain ⟨result, ran, -⟩ := SqlBuilder.executeReport_runs accepted accepts (by omega)
    SqlBuilder.plainQuery (fun _ => [])
  have names : (normalizeDefinition (summed "k" (some "SUM"))).namedOutputs =
      [(.inl ⟨1, "k", some "k"⟩, "k"), (.inr ⟨1, "v", some "SUM", none⟩, "SUM(v)")] := by decide
  have told : (normalizeDefinition (summed "k" (some "SUM"))).RolesTold := by
    constructor <;> rw [names] <;> simp [summed, normalizeDefinition, Definition.Grouped,
      MetricEntry.prints, GroupEntry.prints]
  exact ⟨s, p, result, accepted, ran, (recognised_iff_rolesTold accepted ran).mpr told⟩

/-- A grouped field with a label of its own is not found, nor is a metric that leaves its
aggregate to the default. -/
theorem summed_not_recognised : ∃ s p result,
    SqlBuilder.buildSelect SqlBuilder.twoDatabases (summed "Course" none) = .ok (s, p) ∧
    SqlBuilder.executeReport SqlBuilder.twoDatabases SqlBuilder.plainQuery (fun _ => []) (summed "Course" none) =
      .ok result ∧ result.columns = ["Course", "SUM(v)"] ∧
    metricIdx (summed "Course" none) result.columns = [] ∧
    groupIdx (summed "Course" none) result.columns = [] ∧
    ¬Recognised (summed "Course" none) s result.columns := by
  obtain ⟨s, p, accepted, accepts, limit, last⟩ : ∃ s p,
      SqlBuilder.buildSelect SqlBuilder.twoDatabases (summed "Course" none) = .ok (s, p) ∧
      s.fromAccepted = true ∧ s.limit = 1000 ∧ ∃ c, s.columns[1]? = some c ∧ SqlBuilder.Aggregated c := by
    refine ⟨_, _, rfl, ?_, rfl, _, rfl, _, _, rfl⟩
    decide
  obtain ⟨result, ran, named⟩ := SqlBuilder.executeReport_runs accepted accepts (by omega)
    SqlBuilder.plainQuery (fun _ => [])
  have columns : result.columns = ["Course", "SUM(v)"] := named.trans (by decide)
  refine ⟨s, p, result, accepted, ran, columns, ?_, ?_, fun recognised => ?_⟩
  · rw [columns]
    decide
  · rw [columns]
    decide
  · have found := (recognised.metrics 1).mpr last
    rw [columns] at found
    exact absurd found (by decide)

end Pdf
end XpBuilder
