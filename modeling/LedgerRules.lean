import LedgerRules.Conditions.Report
import LedgerRules.Main
import LedgerRules.Proofs.Conditions.CaseBlind
import LedgerRules.Proofs.Conditions.Faults
import LedgerRules.Proofs.Conditions.Meaning
import LedgerRules.Proofs.Conditions.Typed
import LedgerRules.Proofs.Program.Bulk
import LedgerRules.Proofs.Program.Direction
import LedgerRules.Proofs.Program.Interchange
import LedgerRules.Proofs.Program.Isolation
import LedgerRules.Proofs.Program.OneByOne
import LedgerRules.Proofs.Program.Overtaking
import LedgerRules.Store.Database.Edit
import LedgerRules.Store.Memory
import LedgerRules.Proofs.Program.RuleForm
import LedgerRules.Proofs.Program.LedgerForm
import LedgerRules.Proofs.Store.Counters
import LedgerRules.Proofs.Store.RoundTrip
import LedgerRules.Proofs.Outcome.Accounts
import LedgerRules.Proofs.Outcome.FirstMatch
import LedgerRules.Proofs.Program.SideBySide
import LedgerRules.Proofs.Store.Recovery
import LedgerRules.Proofs.Conditions.Nulls
import LedgerRules.Proofs.Program.Placement
import LedgerRules.Proofs.Program.Accounting
import LedgerRules.Proofs.Program.Editing
import LedgerRules.Proofs.Program.Idempotence
import LedgerRules.Proofs.Program.Entering
import LedgerRules.Proofs.Program.RuleChanges
import LedgerRules.Proofs.Program.RuleOrder
import LedgerRules.Proofs.Program.Narrowing
import LedgerRules.Proofs.Console.CommandLine
import LedgerRules.Proofs.Console.Narrowing
import LedgerRules.Proofs.Outcome.Visibility
import LedgerRules.Proofs.Conditions.Coherence
import LedgerRules.Proofs.Console.Backfill
import LedgerRules.Proofs.Console.Mending
import LedgerRules.Proofs.Json.Layout
import LedgerRules.Proofs.Json.Steady
import LedgerRules.Proofs.Settings.Saving
import LedgerRules.Proofs.Settings.Reloading
import LedgerRules.Proofs.Journal.Newest
import LedgerRules.Proofs.Console.Clearing
