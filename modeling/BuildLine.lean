import BuildLine.Job.Manifest
import BuildLine.Run.Status
import BuildLine.Version.Declared
import BuildLine.CommandLine.Help
import BuildLine.CommandLine.Plan
import BuildLine.CommandLine.Program
import BuildLine.Proofs.Log.Journal
import BuildLine.Proofs.Run.Visit
import BuildLine.Proofs.Run.History
import BuildLine.Proofs.Job.Accepted
import BuildLine.Proofs.Log.Redaction
import BuildLine.Proofs.Run.Credential
import BuildLine.Proofs.Run.Noninterference
import BuildLine.Proofs.Run.Secrecy
import BuildLine.Proofs.Run.Trace
import BuildLine.Proofs.Run.Account
import BuildLine.Proofs.Job.Ordering
import BuildLine.Proofs.Run.Trail
import BuildLine.Proofs.Run.Report
import BuildLine.Proofs.Files.Pattern
import BuildLine.Proofs.Run.Readiness
import BuildLine.Proofs.Run.Verdict
import BuildLine.Proofs.Run.Series
import BuildLine.Proofs.CommandLine.Context
import BuildLine.Proofs.CommandLine.Complaint
import BuildLine.Proofs.Run.Texts
import BuildLine.Proofs.Log.Nesting
import BuildLine.Proofs.Run.Transcript
import BuildLine.Proofs.Command.Template
import BuildLine.Proofs.Command.Quoting
import BuildLine.Proofs.Run.Environment
import BuildLine.Proofs.Job.Arrangement
import BuildLine.Proofs.Job.Admission
import BuildLine.Proofs.Job.Refusal
import BuildLine.Proofs.Job.Entries
import BuildLine.Proofs.Job.Keys
import BuildLine.Proofs.Job.Limits
import BuildLine.Proofs.Source.Naming
import BuildLine.Proofs.Source.Documented
import BuildLine.Proofs.Source.Dropped
import BuildLine.Proofs.Source.Form
import BuildLine.Proofs.CommandLine.Precedence
import BuildLine.Proofs.Job.Discovery
import BuildLine.Proofs.Run.Tail
import BuildLine.Proofs.Run.Executed
import BuildLine.Proofs.Version.Form
