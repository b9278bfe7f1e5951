import XpBuilder.Report.Roles

/-! When a report is shown as cut off. The result says so as soon as it has as many rows as its
limit lets through, and so does a report that has just as many. -/

namespace XpBuilder
open SqlBuilder

/-- The note that `_render` puts under the table. -/
def Pdf.truncationNote (raw : RawDefinition) (result : ReportResult) : Option String :=
  if result.truncated then
    some ("Report truncated — showing the first " ++ toString (raw.limit.getD 1000) ++ " rows")
  else none

/-- The number of rows in the modal of the chart preview. -/
def ReportResult.reportRows (result : ReportResult) : String :=
  toString result.count ++ if result.truncated then "+" else ""

/-- All rows that match the report are there, or as many as its limit says, and where some are
missing the flag, the PDF and the chart preview say so. -/
structure TellsTruth (raw : RawDefinition) (matching : Nat) (result : ReportResult) : Prop where
  rows : result.rows.length = result.count
  count : (result.count : Int) = min (matching : Int) (normalizeDefinition raw).limit
  flag : result.truncated = true ↔ (normalizeDefinition raw).limit < matching
  printed : (Pdf.truncationNote raw result).isSome = true ↔ (normalizeDefinition raw).limit < matching
  previewed : result.reportRows =
    toString result.count ++ if (normalizeDefinition raw).limit < matching then "+" else ""

theorem limit_of_accepted {env : BuildEnv} {raw : RawDefinition} {s : Sql.Select} {p : SqlaTable}
    (accepted : buildSelect env raw = .ok (s, p)) : s.limit = (normalizeDefinition raw).limit := by
  obtain ⟨tables, first, a⟩ := buildSelect_ok.mp accepted
  exact a.limit

/-- A report on one column that shows one row. -/
def firstOf : RawDefinition := { joinedBy [1] [] with limit := some 1 }

def rowsOf (n : Nat) : DatabaseState := fun _ => List.replicate n (fun _ => .number 2)

end XpBuilder
