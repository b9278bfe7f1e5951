import XpBuilder.Publish.Ownership

/-! No dataset or chart that a publish made is left behind. A report remembers one
dataset and one chart, and only what it remembers is ever deleted; so nothing is
left behind as long as no publish replaces a dataset or fails after it made
something, and no report is deleted before it is unpublished. -/

namespace XpBuilder.Publish
open PythonText (truthyId)

/-- Whatever a publish of a report made and still exists that report records. -/
structure NoOrphans (s : Tracked) : Prop where
  datasets : ∀ k t r, s.data.datasets.get k = some t → s.owner.dataset k = some r →
    ∃ report, s.data.reports.get r = some report ∧ report.datasetId = some k
  charts : ∀ k row r, s.data.charts.get k = some row → s.owner.chart k = some r →
    ∃ report, s.data.reports.get r = some report ∧ report.chartId = some k

/-- Nothing that publishing the report made still exists. -/
structure NothingLeft (reportId : Nat) (s : Tracked) : Prop where
  datasets : ∀ k t, s.data.datasets.get k = some t → s.owner.dataset k ≠ some reportId
  charts : ∀ k row, s.data.charts.get k = some row → s.owner.chart k ≠ some reportId

/-- With a blank ledger nothing was made. -/
theorem noOrphans_blank (m : Metadata) : NoOrphans ⟨m, Ledger.blank⟩ :=
  ⟨fun _ _ _ _ h => absurd h (by simp [Ledger.blank]),
    fun _ _ _ _ h => absurd h (by simp [Ledger.blank])⟩

theorem Ledger.enter_dataset {o : Ledger} {author : Option Nat} {m m' : Metadata} {k : Nat}
    {t : SqlaTable} (h : m'.datasets.get k = some t) :
    (o.enter author m m').dataset k =
      if m.datasets.get k = none then author else o.dataset k := by
  simp [enter, h]

theorem Ledger.enter_chart {o : Ledger} {author : Option Nat} {m m' : Metadata} {k : Nat}
    {row : Slice} (h : m'.charts.get k = some row) :
    (o.enter author m m').chart k = if m.charts.get k = none then author else o.chart k := by
  simp [enter, h]

namespace Course
variable (c : Course)

/-- The publish forgets nothing: it neither replaces a dataset of its report nor
fails after it made a dataset or a chart. -/
structure Forgetless (o : Ledger) : Prop where
  dataset : c.point = .done → ∀ k t, c.before.datasets.get k = some t →
    o.dataset k = some c.reportId → k = c.datasetId
  madeDataset : c.point ≠ .done → c.point ≠ .dataset →
    (c.before.datasets.get c.datasetId).isSome
  madeChart : c.point ≠ .done → c.point.charted → c.point ≠ .discarded → c.recorded.isSome

theorem stored_charts_of_not_charted {p : Point} (h : p.charted = false) :
    (c.stored p).charts = c.before.charts := by
  cases p <;> simp [Point.charted, stored] at h ⊢

theorem stored_reports_get_of_ne (p : Point) {r : Nat} (h : r ≠ c.reportId) :
    (c.stored p).reports.get r = c.before.reports.get r := by
  by_cases done : p = .done
  · subst done
    have row := c.published_reports_get r
    rw [if_neg h] at row
    exact row
  · rw [c.stored_reports done]

/-- What the report records in the end. -/
theorem stored_report (found : c.before.reports.get c.reportId = some c.report) :
    ∃ report, (c.stored c.point).reports.get c.reportId = some report ∧
      (c.point = .done → report.datasetId = some c.datasetId ∧ report.chartId = some c.chartId) ∧
      (c.point ≠ .done → report = c.report) := by
  by_cases done : c.point = .done
  · have row := c.published_reports_get c.reportId
    rw [if_pos rfl, found, Option.map_some] at row
    rw [done]
    exact ⟨_, row, fun _ => ⟨rfl, rfl⟩, fun h => absurd rfl h⟩
  · exact ⟨c.report, by rw [c.stored_reports done, found], fun h => absurd h done, fun _ => rfl⟩

/-- A dataset that is new after the publish is the one the report then records. -/
theorem done_of_new_dataset {o : Ledger} (h : c.Forgetless o) {k : Nat} {t : SqlaTable}
    (new : c.before.datasets.get k = none)
    (there : (c.stored c.point).datasets.get k = some t) : c.point = .done ∧ k = c.datasetId := by
  have own : k = c.datasetId := by
    by_contra other
    rw [c.stored_datasets_get _ other, new] at there
    exact absurd there (by simp)
  refine ⟨?_, own⟩
  by_contra failed
  by_cases early : c.point = .dataset
  · rw [early] at there
    have same : c.before.datasets.get k = some t := there
    rw [new] at same
    exact absurd same (by simp)
  · have old := h.madeDataset failed early
    rw [← own, new] at old
    exact absurd old (by simp)

theorem done_of_new_chart {o : Ledger} (h : c.Forgetless o) {k : Nat} {row : Slice}
    (new : c.before.charts.get k = none)
    (there : (c.stored c.point).charts.get k = some row) : c.point = .done ∧ k = c.chartId := by
  have own : k = c.chartId := by
    by_contra other
    rw [c.stored_charts_get _ other, new] at there
    exact absurd there (by simp)
  refine ⟨?_, own⟩
  by_contra failed
  by_cases charted : c.point.charted = true
  · by_cases discarded : c.point = .discarded
    · rw [discarded, own] at there
      simp [stored, deleteChart] at there
    · obtain ⟨id, recorded⟩ := Option.isSome_iff_exists.mp (h.madeChart failed charted discarded)
      obtain ⟨old, found⟩ := c.recorded_row recorded
      rw [own, c.chartId_of_recorded recorded, found] at new
      exact absurd new (by simp)
  · rw [c.stored_charts_of_not_charted (by simpa using charted), new] at there
    exact absurd there (by simp)

theorem noOrphans_of_forgetless {o : Ledger} (found : c.before.reports.get c.reportId = some c.report)
    (inv : NoOrphans ⟨c.before, o⟩) (h : c.Forgetless o) :
    NoOrphans ⟨c.stored c.point, o.enter (some c.reportId) c.before (c.stored c.point)⟩ := by
  obtain ⟨report, now, recorded, kept⟩ := c.stored_report found
  constructor
  · intro k t r there owner
    simp only at there owner ⊢
    rw [Ledger.enter_dataset there] at owner
    by_cases new : c.before.datasets.get k = none
    · rw [if_pos new] at owner
      obtain rfl : c.reportId = r := Option.some.inj owner
      obtain ⟨done, rfl⟩ := c.done_of_new_dataset h new there
      exact ⟨report, now, (recorded done).1⟩
    · rw [if_neg new] at owner
      obtain ⟨t', old⟩ := Option.ne_none_iff_exists'.mp new
      obtain ⟨before, row, id⟩ := inv.datasets k t' r old owner
      by_cases own : r = c.reportId
      · subst own
        obtain rfl : c.report = before := Option.some.inj (found.symm.trans row)
        by_cases done : c.point = .done
        · rw [h.dataset done k t' old owner]
          exact ⟨report, now, (recorded done).1⟩
        · rw [kept done] at now
          exact ⟨_, now, id⟩
      · exact ⟨before, by rw [c.stored_reports_get_of_ne _ own]; exact row, id⟩
  · intro k row r there owner
    simp only at there owner ⊢
    rw [Ledger.enter_chart there] at owner
    by_cases new : c.before.charts.get k = none
    · rw [if_pos new] at owner
      obtain rfl : c.reportId = r := Option.some.inj owner
      obtain ⟨done, rfl⟩ := c.done_of_new_chart h new there
      exact ⟨report, now, (recorded done).2⟩
    · rw [if_neg new] at owner
      obtain ⟨row', old⟩ := Option.ne_none_iff_exists'.mp new
      obtain ⟨before, found', id⟩ := inv.charts k row' r old owner
      by_cases own : r = c.reportId
      · subst own
        obtain rfl : c.report = before := Option.some.inj (found.symm.trans found')
        by_cases done : c.point = .done
        · have reused : c.recorded = some k := by
            unfold Course.recorded recordedChart
            rw [id, PythonText.truthyId_some (Table.ne_zero old)]
            simp [Option.filter, old]
          rw [← c.chartId_of_recorded reused]
          exact ⟨report, now, (recorded done).2⟩
        · rw [kept done] at now
          exact ⟨_, now, id⟩
      · exact ⟨before, by rw [c.stored_reports_get_of_ne _ own]; exact found', id⟩

end Course
namespace Withdrawal
variable (w : Withdrawal)

theorem stored_reports_get_of_ne (p : Point) {r : Nat} (h : r ≠ w.reportId) :
    (w.stored p).reports.get r = w.before.reports.get r := by
  by_cases done : p = .done
  · rw [done, w.cleared_reports_get, if_neg h]
  · rw [w.stored_reports done]

theorem dataset_of_recorded {k : Nat} {t : SqlaTable} (id : w.report.datasetId = some k)
    (found : w.before.datasets.get k = some t) : w.dataset = some k := by
  unfold dataset recordedDataset
  rw [id, PythonText.truthyId_some (Table.ne_zero found)]
  simp [Option.filter, found]

theorem chart_of_recorded {k : Nat} {row : Slice} (id : w.report.chartId = some k)
    (found : w.before.charts.get k = some row) : w.chart = some k := by
  unfold chart recordedChart
  rw [id, PythonText.truthyId_some (Table.ne_zero found)]
  simp [Option.filter, found]

theorem stored_datasets_of_some {p : Point} {k : Nat} {t : SqlaTable}
    (h : (w.stored p).datasets.get k = some t) :
    w.before.datasets.get k = some t ∧ ¬(p.emptied ∧ w.dataset = some k) := by
  rw [w.stored_datasets] at h
  split_ifs at h with gone
  exact ⟨h, gone⟩

theorem stored_charts_of_some {p : Point} {k : Nat} {row : Slice}
    (h : (w.stored p).charts.get k = some row) :
    w.before.charts.get k = some row ∧ ¬(p.uncharted ∧ w.chart = some k) := by
  rw [w.stored_charts] at h
  split_ifs at h with gone
  exact ⟨h, gone⟩

/-- An unpublish that gets to its end deletes all that publishing the report made. -/
theorem nothingLeft_of_done {o : Ledger} (author : Option Nat)
    (found : w.before.reports.get w.reportId = some w.report) (inv : NoOrphans ⟨w.before, o⟩) :
    NothingLeft w.reportId ⟨w.stored .done, o.enter author w.before (w.stored .done)⟩ := by
  constructor
  · intro k t there owner
    obtain ⟨old, gone⟩ := w.stored_datasets_of_some there
    rw [Ledger.enter_dataset there, if_neg (by simp [old])] at owner
    obtain ⟨report, row, id⟩ := inv.datasets k t _ old owner
    obtain rfl : w.report = report := Option.some.inj (found.symm.trans row)
    exact gone ⟨rfl, w.dataset_of_recorded id old⟩
  · intro k row there owner
    obtain ⟨old, gone⟩ := w.stored_charts_of_some there
    rw [Ledger.enter_chart there, if_neg (by simp [old])] at owner
    obtain ⟨report, found', id⟩ := inv.charts k row _ old owner
    obtain rfl : w.report = report := Option.some.inj (found.symm.trans found')
    exact gone ⟨rfl, w.chart_of_recorded id old⟩

theorem noOrphans_stored {o : Ledger} (author : Option Nat)
    (found : w.before.reports.get w.reportId = some w.report) (inv : NoOrphans ⟨w.before, o⟩)
    (p : Point) :
    NoOrphans ⟨w.stored p, o.enter author w.before (w.stored p)⟩ := by
  have kept (r : Nat) (report : ReportDesigner) (row : w.before.reports.get r = some report)
      (quiet : p = .done → r ≠ w.reportId) : (w.stored p).reports.get r = some report := by
    by_cases done : p = .done
    · rw [w.stored_reports_get_of_ne p (quiet done), row]
    · rw [w.stored_reports done, row]
  constructor
  · intro k t r there owner
    obtain ⟨old, -⟩ := w.stored_datasets_of_some there
    have before := owner
    rw [Ledger.enter_dataset there, if_neg (by simp [old])] at before
    obtain ⟨report, row, id⟩ := inv.datasets k t r old before
    refine ⟨report, kept r report row (fun done own => ?_), id⟩
    subst done own
    exact (w.nothingLeft_of_done author found inv).datasets k t there owner
  · intro k row r there owner
    obtain ⟨old, -⟩ := w.stored_charts_of_some there
    have before := owner
    rw [Ledger.enter_chart there, if_neg (by simp [old])] at before
    obtain ⟨report, found', id⟩ := inv.charts k row r old before
    refine ⟨report, kept r report found' (fun done own => ?_), id⟩
    subst done own
    exact (w.nothingLeft_of_done author found inv).charts k row there owner

end Withdrawal

/-! ## The other actions -/

/-- An action that makes nothing in the name of a report and keeps the rows of the
reports that own something. -/
theorem noOrphans_of_reports {m m' : Metadata} {o : Ledger} (inv : NoOrphans ⟨m, o⟩)
    (reports : ∀ r report, m.reports.get r = some report →
      (∃ k t, m.datasets.get k = some t ∧ m'.datasets.get k ≠ none ∧ o.dataset k = some r) ∨
        (∃ k row, m.charts.get k = some row ∧ m'.charts.get k ≠ none ∧ o.chart k = some r) →
      ∃ report', m'.reports.get r = some report' ∧ report'.datasetId = report.datasetId ∧
        report'.chartId = report.chartId) :
    NoOrphans ⟨m', o.enter none m m'⟩ := by
  constructor
  · intro k t r there owner
    simp only at there owner ⊢
    rw [Ledger.enter_dataset there] at owner
    split_ifs at owner with new
    obtain ⟨t', old⟩ := Option.ne_none_iff_exists'.mp new
    obtain ⟨report, row, id⟩ := inv.datasets k t' r old owner
    obtain ⟨report', row', dataset, -⟩ :=
      reports r report row (.inl ⟨k, t', old, by simp [there], owner⟩)
    exact ⟨report', row', by rw [dataset, id]⟩
  · intro k row r there owner
    simp only at there owner ⊢
    rw [Ledger.enter_chart there] at owner
    split_ifs at owner with new
    obtain ⟨row', old⟩ := Option.ne_none_iff_exists'.mp new
    obtain ⟨report, found, id⟩ := inv.charts k row' r old owner
    obtain ⟨report', found', -, chart⟩ :=
      reports r report found (.inr ⟨k, row', old, by simp [there], owner⟩)
    exact ⟨report', found', by rw [chart, id]⟩

theorem apiPost_tables (refused : Option String) (payload : SavePayload) (m : Metadata) :
    ∀ r report, m.reports.get r = some report →
      (apiPost refused payload m).2.reports.get r = some report := by
  intro r report found
  unfold apiPost
  cases refused with
  | some e => exact found
  | none => exact Table.get_insert_of_some _ found

/-- Saving keeps what the report records. -/
theorem apiPut_reports (refused : Option String) (reportId : Nat) (payload : SavePayload)
    (m : Metadata) : ∀ r report, m.reports.get r = some report →
      ∃ report', (apiPut refused reportId payload m).2.reports.get r = some report' ∧
        report'.datasetId = report.datasetId ∧ report'.chartId = report.chartId := by
  intro r report found
  unfold apiPut
  cases target : m.reports.get reportId with
  | none => exact ⟨report, found, rfl, rfl⟩
  | some old =>
    cases refused with
    | some e => exact ⟨report, found, rfl, rfl⟩
    | none =>
      simp only [Table.get_update, found, Option.map_some]
      split
      · refine ⟨_, rfl, ?_, ?_⟩
        · rw [saveReport]
        · rw [saveReport]
      · exact ⟨report, rfl, rfl, rfl⟩

theorem apiDelete_reports (refused : Option String) {reportId r : Nat} (m : Metadata)
    (h : r ≠ reportId) : (apiDelete refused reportId m).2.reports.get r = m.reports.get r := by
  unfold apiDelete
  cases m.reports.get reportId with
  | none => rfl
  | some old =>
    cases refused with
    | some e => rfl
    | none => simp [h]

/-! ## Runs -/

namespace Action

/-- No publish forgets what it made, no report is deleted while something that
publishing it made exists, and others leave the report rows alone. -/
def Forgetless (s : Tracked) : Action → Prop
  | .publish env reportId req =>
    ∀ c, requestCourse env reportId req s.data = some c → c.Forgetless s.owner
  | .delete refused reportId => refused = none → NothingLeft reportId s
  | .outside change => ∀ r, (change s.data).reports.get r = s.data.reports.get r
  | _ => True

/-- Nothing is left behind, and nothing at all of a report just unpublished or deleted. -/
def Tidy (s : Tracked) (a : Action) : Prop :=
  NoOrphans (s.act a) ∧
    match a with
    | .unpublish env reportId =>
      ∀ text, (apiUnpublish env reportId s.data).1 = .done text → NothingLeft reportId (s.act a)
    | .delete refused reportId =>
      ∀ text, (apiDelete refused reportId s.data).1 = .done text → NothingLeft reportId (s.act a)
    | _ => True

end Action

/-- The other tables are the same after a deletion of a report. -/
theorem apiDelete_tables (refused : Option String) (reportId : Nat) (m : Metadata) :
    (apiDelete refused reportId m).2.datasets = m.datasets ∧
      (apiDelete refused reportId m).2.charts = m.charts := by
  unfold apiDelete
  cases m.reports.get reportId with
  | none => exact ⟨rfl, rfl⟩
  | some old => cases refused <;> exact ⟨rfl, rfl⟩

theorem NothingLeft.not_owned {s : Tracked} {m' : Metadata} {reportId : Nat} (left : NothingLeft reportId s) :
    ¬((∃ k t, s.data.datasets.get k = some t ∧ m'.datasets.get k ≠ none ∧ s.owner.dataset k = some reportId) ∨
      ∃ k row, s.data.charts.get k = some row ∧ m'.charts.get k ≠ none ∧ s.owner.chart k = some reportId) := by
  rintro (⟨k, t, there, -, owner⟩ | ⟨k, row, there, -, owner⟩)
  · exact left.datasets k t there owner
  · exact left.charts k row there owner

theorem nothingLeft_enter {s : Tracked} {m' : Metadata} {reportId : Nat}
    (h : NothingLeft reportId s) (datasets : m'.datasets = s.data.datasets)
    (charts : m'.charts = s.data.charts) :
    NothingLeft reportId ⟨m', s.owner.enter none s.data m'⟩ := by
  constructor
  · intro k t there owner
    simp only [datasets] at there
    have old : m'.datasets.get k = some t := by rw [datasets, there]
    rw [Ledger.enter_dataset old, there] at owner
    exact h.datasets k t there (by simpa using owner)
  · intro k row there owner
    simp only [charts] at there
    have old : m'.charts.get k = some row := by rw [charts, there]
    rw [Ledger.enter_chart old, there] at owner
    exact h.charts k row there (by simpa using owner)

/-- What stays as it is keeps its makers. -/
theorem noOrphans_enter_self {m : Metadata} {o : Ledger} (inv : NoOrphans ⟨m, o⟩) (author : Option Nat) :
    NoOrphans ⟨m, o.enter author m m⟩ := by
  constructor
  · intro k t r there owner
    rw [Ledger.enter_dataset there, if_neg (by simp [there])] at owner
    exact inv.datasets k t r there owner
  · intro k row r there owner
    rw [Ledger.enter_chart there, if_neg (by simp [there])] at owner
    exact inv.charts k row r there owner

theorem tidy_of_forgetless (s : Tracked) (a : Action) (inv : NoOrphans s)
    (h : a.Forgetless s) : a.Tidy s := by
  obtain ⟨m, o⟩ := s
  cases a with
  | publish env reportId req =>
    refine ⟨?_, trivial⟩
    simp only [Tracked.act, act, Action.author]
    cases course : requestCourse env reportId req m with
    | none =>
      rw [(apiPublish_of_none course).1]
      exact noOrphans_enter_self inv (some reportId)
    | some c =>
      obtain ⟨found, -, rfl, -, rfl⟩ := requestCourse_eq_some course
      rw [(apiPublish_of_course course).1]
      exact c.noOrphans_of_forgetless found inv (h c course)
  | unpublish env reportId =>
    simp only [Action.Tidy, Tracked.act, act, Action.author]
    cases withdrawal : requestWithdrawal env reportId m with
    | none =>
      obtain ⟨kept, failed⟩ := apiUnpublish_of_none withdrawal
      rw [kept]
      refine ⟨noOrphans_of_reports inv (fun r report found _ => ⟨report, found, rfl, rfl⟩),
        fun text done => absurd done (failed text)⟩
    | some w =>
      obtain ⟨report, found, rfl⟩ := Option.map_eq_some_iff.mp withdrawal
      obtain ⟨stored, ends⟩ := apiUnpublish_of_withdrawal withdrawal
      rw [stored]
      refine ⟨Withdrawal.noOrphans_stored _ none found inv _, fun text done => ?_⟩
      rw [ends.mp ⟨text, done⟩]
      exact Withdrawal.nothingLeft_of_done ⟨env, m, reportId, report⟩ none found inv
  | create refused payload =>
    refine ⟨noOrphans_of_reports inv (fun r report found _ => ?_), trivial⟩
    exact ⟨report, apiPost_tables refused payload m r report found, rfl, rfl⟩
  | save refused reportId payload =>
    refine ⟨noOrphans_of_reports inv (fun r report found _ => ?_), trivial⟩
    exact apiPut_reports refused reportId payload m r report found
  | delete refused reportId =>
    have tables := apiDelete_tables refused reportId m
    refine ⟨noOrphans_of_reports inv (fun r report found owns => ?_), fun text done => ?_⟩
    · by_cases own : r = reportId
      · subst own
        cases refused with
        | some e =>
          refine ⟨report, ?_, rfl, rfl⟩
          simp [act, apiDelete, found]
        | none => exact absurd owns (NothingLeft.not_owned (h rfl))
      · exact ⟨report, by rw [act, apiDelete_reports refused m own, found], rfl, rfl⟩
    · cases refused with
      | none => exact nothingLeft_enter (h rfl) tables.1 tables.2
      | some e =>
        unfold apiDelete at done
        cases found : m.reports.get reportId <;> simp [found] at done
  | outside change =>
    refine ⟨noOrphans_of_reports inv (fun r report found _ => ?_), trivial⟩
    exact ⟨report, (h r).trans found, rfl, rfl⟩

/-- In every run that starts before anything was published and in which no action
forgets anything, nothing that a publish made is left behind, and nothing remains
of a report once it is unpublished or deleted. -/
theorem run_tidy (m : Metadata) (run : List Action)
    (forgetless : Runs.Each Tracked.act (fun s a => a.Forgetless s) ⟨m, Ledger.blank⟩ run) :
    Runs.Each Tracked.act (fun s a => a.Tidy s) ⟨m, Ledger.blank⟩ run :=
  (Runs.Each.of_invariant (I := NoOrphans) (fun s a inv h => by
    have tidy := tidy_of_forgetless s a inv h
    exact ⟨tidy, tidy.1⟩) (noOrphans_blank m) forgetless).1

/-- A report is published and unpublished. -/
theorem unpublishedReport_tidy : Runs.Each Tracked.act (fun s a => a.Tidy s)
    ⟨oneReport, Ledger.blank⟩ [.publish plainEnv 1 (asChart "table"), .unpublish plainEnv 1] := by
  refine run_tidy oneReport _ ⟨fun c course => ?_, trivial, trivial⟩
  obtain ⟨c', course', done⟩ : ∃ c',
      requestCourse plainEnv 1 (asChart "table") oneReport = some c' ∧ c'.point = .done :=
    ⟨_, rfl, rfl⟩
  obtain rfl : c = c' := Option.some.inj (course.symm.trans course')
  exact ⟨fun _ k t _ owner => absurd owner (by simp [Ledger.blank]),
    fun failed => absurd done failed, fun failed => absurd done failed⟩

def renamed (name : String) : SavePayload := ⟨some (some name), none, none⟩

/-- Published again under another name, the report forgets its first dataset. -/
theorem renamedReport_not_tidy : ¬Runs.Each Tracked.act (fun s a => a.Tidy s)
    ⟨oneReport, Ledger.blank⟩ [.publish plainEnv 1 (asChart "table"), .save none 1 (renamed "Costs"),
      .publish plainEnv 1 (asChart "table")] := by
  rintro ⟨-, -, ⟨tidy, -⟩, -⟩
  obtain ⟨t, report, there, owner, found, other⟩ : ∃ t report,
      ((((⟨oneReport, Ledger.blank⟩ : Tracked).act (.publish plainEnv 1 (asChart "table"))).act
        (.save none 1 (renamed "Costs"))).act
          (.publish plainEnv 1 (asChart "table"))).data.datasets.get 2 = some t ∧
      ((((⟨oneReport, Ledger.blank⟩ : Tracked).act (.publish plainEnv 1 (asChart "table"))).act
        (.save none 1 (renamed "Costs"))).act
          (.publish plainEnv 1 (asChart "table"))).owner.dataset 2 = some 1 ∧
      ((((⟨oneReport, Ledger.blank⟩ : Tracked).act (.publish plainEnv 1 (asChart "table"))).act
        (.save none 1 (renamed "Costs"))).act
          (.publish plainEnv 1 (asChart "table"))).data.reports.get 1 = some report ∧
      report.datasetId = some 3 := ⟨_, _, rfl, rfl, rfl, rfl⟩
  obtain ⟨report', recorded, id⟩ := tidy.datasets 2 t 1 there owner
  obtain rfl : report = report' := Option.some.inj (found.symm.trans recorded)
  rw [id] at other
  exact absurd other (by simp)

end XpBuilder.Publish
