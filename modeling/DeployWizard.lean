import DeployWizard.Address
import DeployWizard.Command.Deploy
import DeployWizard.Command.Prepare
import DeployWizard.Command.Report
import DeployWizard.Command.Submit
import DeployWizard.Command.Watch
import DeployWizard.CommandLine.Arguments
import DeployWizard.CommandLine.Help
import DeployWizard.CommandLine.Run
import DeployWizard.Deployment
import DeployWizard.Diagnostic
import DeployWizard.Domain.Label
import DeployWizard.Domain.Mapping
import DeployWizard.Domain.Name
import DeployWizard.Domain.Punycode
import DeployWizard.Install
import DeployWizard.Json.Lexer
import DeployWizard.Json.Reader
import DeployWizard.Json.Record
import DeployWizard.Json.Value
import DeployWizard.Json.Writer
import DeployWizard.Main
import DeployWizard.Monitor.Basic
import DeployWizard.Monitor.Log
import DeployWizard.Monitor.Run
import DeployWizard.Monitor.Status
import DeployWizard.Names
import DeployWizard.NodeForm
import DeployWizard.NodeList
import DeployWizard.Payload.Deployment
import DeployWizard.Payload.Diagnostic
import DeployWizard.Payload.Install
import DeployWizard.Payload.Wizard
import DeployWizard.Progress.Animator
import DeployWizard.Progress.Line
import DeployWizard.Progress.Ratio
import DeployWizard.Redaction
import DeployWizard.Review
import DeployWizard.Script
import DeployWizard.Service.Client
import DeployWizard.Service.Error
import DeployWizard.Service.Reply
import DeployWizard.Text.Blank
import DeployWizard.Text.CombiningClass
import DeployWizard.Text.Composition
import DeployWizard.Text.Controls
import DeployWizard.Text.Digit
import DeployWizard.Text.Direction
import DeployWizard.Text.Joining
import DeployWizard.Text.Mark
import DeployWizard.Text.Percent
import DeployWizard.Text.Quoted
import DeployWizard.Text.Ranges
import DeployWizard.Text.Shown
import DeployWizard.Toml.Date
import DeployWizard.Toml.Reader
import DeployWizard.Toml.Scalar
import DeployWizard.Toml.Table
import DeployWizard.Toml.Text
import DeployWizard.Topology.Basic
import DeployWizard.Topology.Edit
import DeployWizard.Topology.Validation
import DeployWizard.Url.Basic
import DeployWizard.Url.Host
import DeployWizard.Wizard
import DeployWizard.WizardFile
import DeployWizard.Zone
import DeployWizard.Proofs.Trimming
import DeployWizard.Proofs.ZoneEdits
import DeployWizard.Proofs.AddressOwnership
import DeployWizard.Proofs.FormEdits
import DeployWizard.Proofs.PoolFollowing
import DeployWizard.Proofs.Consistency
import DeployWizard.Proofs.WizardRuns
import DeployWizard.Proofs.Gate
import DeployWizard.Proofs.Weaving
import DeployWizard.Proofs.Polling
import DeployWizard.Proofs.StreamEnd
import DeployWizard.Proofs.Reloading
import DeployWizard.Proofs.StepReturns
import DeployWizard.Proofs.Refusals
import DeployWizard.Proofs.FileReplay
import DeployWizard.Proofs.NodeAddresses
import DeployWizard.Proofs.ReviewListing
import DeployWizard.Proofs.Interleaving
import DeployWizard.Proofs.Timetable
import DeployWizard.Proofs.Causality
import DeployWizard.Proofs.StatusTimes
import DeployWizard.Proofs.Cancellation
import DeployWizard.Proofs.Pairing
import DeployWizard.Proofs.StreamAgreement
import DeployWizard.Proofs.Calls
import DeployWizard.Proofs.Retries
import DeployWizard.Proofs.RefusedAnswers
import DeployWizard.Proofs.PercentDecoding
import DeployWizard.Proofs.UrlTargets
import DeployWizard.Proofs.RequestTargets
import DeployWizard.Proofs.JsonText
import DeployWizard.Proofs.PayloadCodecs
import DeployWizard.Proofs.Submission
import DeployWizard.Proofs.PlacedZones
import DeployWizard.Proofs.ReplayedZones
import DeployWizard.Proofs.NamedCoordinators
import DeployWizard.Proofs.Prediction
import DeployWizard.Proofs.Conclusion
import DeployWizard.Proofs.DiagnosticCounts
import DeployWizard.Proofs.Relabelling
import DeployWizard.Proofs.RoundTrips
import DeployWizard.Proofs.Masking
import DeployWizard.Proofs.LoggedPayload
import DeployWizard.Proofs.DefaultNames
import DeployWizard.Proofs.ServerEntries
import DeployWizard.Proofs.DottedQuads
import DeployWizard.Proofs.ConsoleEntry
import DeployWizard.Proofs.ProgressCourse
import DeployWizard.Proofs.SettledLine
import DeployWizard.Proofs.DraftWriting
import DeployWizard.Proofs.HomePaths
import DeployWizard.Proofs.PoolDefaults
import DeployWizard.Proofs.IndependentEdits
import DeployWizard.Proofs.Remasking
import DeployWizard.Proofs.LogFollowing
import DeployWizard.Proofs.JsonLexemes
import DeployWizard.Proofs.JsonTrees
import DeployWizard.Proofs.MaskedText
import DeployWizard.Proofs.PrintedChanges
import DeployWizard.Proofs.Truncation
