import HistoryAudit.Main
import HistoryAudit.Proofs.Audit.Verdicts
import HistoryAudit.Proofs.Dialogue.LiteralWaits
import HistoryAudit.Proofs.Dialogue.PromptWaits
import HistoryAudit.Proofs.Log.Coalescing
import HistoryAudit.StandIn.Shell
import HistoryAudit.Proofs.Dialogue.Repaints
import HistoryAudit.Proofs.Scenario.Course
import HistoryAudit.Proofs.Scenario.InFlight
import HistoryAudit.Proofs.Files.Removal
import HistoryAudit.Proofs.Session.Termination
import HistoryAudit.Proofs.Session.Others
import HistoryAudit.Proofs.Harness.Cleanup
import HistoryAudit.Proofs.Dialogue.Deadline
import HistoryAudit.Proofs.Harness.Refusal
import HistoryAudit.Proofs.Config.Resolution
import HistoryAudit.Proofs.Session.Attendance
import HistoryAudit.Proofs.Audit.ReportLines
import HistoryAudit.Proofs.StandIn.Recall
import HistoryAudit.Proofs.Config.ChildVariables
import HistoryAudit.Proofs.Files.Joining
import HistoryAudit.Proofs.CommandLine.LogPlace
import HistoryAudit.Proofs.Audit.Rearrangement
import HistoryAudit.Proofs.Scenario.Duration
import HistoryAudit.Proofs.Harness.Duration
import HistoryAudit.Proofs.Pattern.Swallowed
import HistoryAudit.Proofs.Dialogue.LostOutput
import HistoryAudit.Proofs.CommandLine.Verdict
import HistoryAudit.Proofs.Harness.Reread
import HistoryAudit.Proofs.Log.Accounting
import HistoryAudit.Proofs.Log.Described
import HistoryAudit.Proofs.Log.ReasonLength
import HistoryAudit.Proofs.Pattern.Filled
import HistoryAudit.Proofs.Pattern.Source
import HistoryAudit.Proofs.Dialogue.Cuts
import HistoryAudit.Proofs.Dialogue.ShellGone
import HistoryAudit.Proofs.Harness.FlushWait
import HistoryAudit.Proofs.Session.Escalation
import HistoryAudit.Proofs.Config.QuotedPrompt
import HistoryAudit.Proofs.Dialogue.RecordedNumber
import HistoryAudit.Proofs.Session.Moves
