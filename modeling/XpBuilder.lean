import XpBuilder.Metadata
import XpBuilder.Library.Sql
import XpBuilder.Library.Fallible
import XpBuilder.Report.RowSecurity
import XpBuilder.Publish.Withdrawal
import XpBuilder.Library.SqlJoin
import XpBuilder.Library.JoinOrder
import XpBuilder.Publish.Atomicity
import XpBuilder.Library.Runs
import XpBuilder.Publish.Requests
import XpBuilder.Publish.Authorisation
import XpBuilder.Publish.Places
import XpBuilder.Publish.Placement
import XpBuilder.Publish.Ownership
import XpBuilder.Publish.Orphans
import XpBuilder.Staging.Endpoints
import XpBuilder.Staging.Authorisation
import XpBuilder.Library.Lists
import XpBuilder.Staging.Rebuild
import XpBuilder.Library.Keys
import XpBuilder.Staging.Constraints
import XpBuilder.Staging.Names
import XpBuilder.Staging.Storage
import XpBuilder.Staging.Chunks
import XpBuilder.Staging.Fidelity
import XpBuilder.Sync.TableSync
import XpBuilder.Sync.Convergence
import XpBuilder.Sync.Interleaving
import XpBuilder.Ops.Backup
import XpBuilder.Ops.Restore
import XpBuilder.Designer.Page
import XpBuilder.Designer.References
import XpBuilder.Library.SqlRegroup
import XpBuilder.Publish.Charts
import XpBuilder.Publish.MetricMeaning
import XpBuilder.Designer.Aliases
import XpBuilder.Report.Labels
import XpBuilder.Designer.Labels
import XpBuilder.Designer.Loading
import XpBuilder.Report.Pdf
import XpBuilder.Report.Roles
import XpBuilder.Library.Stretches
import XpBuilder.Report.Bands
import XpBuilder.Report.GrandTotal
import XpBuilder.Publish.Parameters
import XpBuilder.Report.Grouping
import XpBuilder.Customizations.ClearAll
import XpBuilder.Customizations.BrandLink
import XpBuilder.Library.Relational
import XpBuilder.Moodle.Tables
import XpBuilder.Moodle.Programme
import XpBuilder.Moodle.ProgrammeGrain
import XpBuilder.Moodle.CourseLearners
import XpBuilder.Moodle.TeacherGrain
import XpBuilder.Moodle.CourseProgress
import XpBuilder.Moodle.UserReport
import XpBuilder.Moodle.CompletionFlags
import XpBuilder.Library.Regexp
import XpBuilder.Moodle.BaselineEndline
import XpBuilder.Moodle.TeacherStudents
import XpBuilder.Library.EnvFile
import XpBuilder.Ops.EffectiveEnv
import XpBuilder.Provisioning.Cleanup
import XpBuilder.Library.Accounts
import XpBuilder.Ops.ValidateEnv
import XpBuilder.Ops.ControlAccount
import XpBuilder.Staging.Headers
import XpBuilder.Staging.KeyBudget
import XpBuilder.Library.SqlLike
import XpBuilder.Report.Filters
import XpBuilder.Library.ChildTree
import XpBuilder.Publish.Tree
import XpBuilder.Publish.Detach
import XpBuilder.Library.RegexpWords
import XpBuilder.Moodle.CoursePairs
import XpBuilder.Staging.Reindex
import XpBuilder.Library.SqlLists
import XpBuilder.Staging.DdlText
import XpBuilder.Staging.Ddl
import XpBuilder.Report.Truncation
import XpBuilder.Designer.Orders
import XpBuilder.Publish.NewDashboard
import XpBuilder.Library.SqlIdentifiers
import XpBuilder.Publish.MetricExpression
import XpBuilder.Library.Replacement
import XpBuilder.Moodle.Feedback
import XpBuilder.Provisioning.ProgramData
import XpBuilder.Report.JsonSafe
import XpBuilder.Library.Csv
import XpBuilder.Report.Exports
import XpBuilder.Library.Markup
import XpBuilder.Report.PdfTexts
import XpBuilder.Library.Packing
import XpBuilder.Provisioning.GridLayout
import XpBuilder.Provisioning.ReportLayouts
import XpBuilder.Provisioning.DemoLayout
import XpBuilder.Ops.EnvKeys
import XpBuilder.Ops.EnvReaders
import XpBuilder.Ops.Bootstrap
import XpBuilder.Report.BandRows
import XpBuilder.Library.Edits
import XpBuilder.Ops.Patches
import XpBuilder.Designer.PreviewRequests
import XpBuilder.Library.Percent
import XpBuilder.Moodle.SyncLinks
import XpBuilder.Library.Utf8
import XpBuilder.Library.Lossy
import XpBuilder.Customizations.LegacyPrefix
import XpBuilder.Library.Bins
import XpBuilder.Library.Numerals
import XpBuilder.Designer.HistogramPreview
import XpBuilder.Publish.Attachments
import XpBuilder.Library.Scripts
import XpBuilder.Library.TableParts
import XpBuilder.Provisioning.SupersetApi
import XpBuilder.Provisioning.ReportScripts
import XpBuilder.Provisioning.Reruns
import XpBuilder.Provisioning.SideBySide
import XpBuilder.Library.LostUpdates
import XpBuilder.Publish.Overlaps
import XpBuilder.Report.Buildable
import XpBuilder.Designer.Drafts
import XpBuilder.Moodle.ConceptScores
import XpBuilder.Moodle.ConceptGrain
import XpBuilder.Ops.Stack
import XpBuilder.Ops.StackRuns
import XpBuilder.Ops.SideJobs
import XpBuilder.Ops.Snapshots
import XpBuilder.Library.Brackets
import XpBuilder.Library.Squeeze
import XpBuilder.Moodle.ArtefactGrades
import XpBuilder.Moodle.ObservationScores
