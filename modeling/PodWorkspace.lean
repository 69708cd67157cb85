import PodWorkspace.Cluster.Access
import PodWorkspace.Cluster.Container
import PodWorkspace.Cluster.Deletion
import PodWorkspace.Cluster.Meta
import PodWorkspace.Cluster.Pod
import PodWorkspace.Cluster.Request
import PodWorkspace.Cluster.Shapes.Basic
import PodWorkspace.Cluster.Shapes.Container
import PodWorkspace.Cluster.Shapes.Pod
import PodWorkspace.Cluster.Shapes.Volume
import PodWorkspace.Cluster.Storage
import PodWorkspace.CommandLine.Flag
import PodWorkspace.CommandLine.Invocation
import PodWorkspace.CommandLine.Job
import PodWorkspace.CommandLine.Output
import PodWorkspace.Details
import PodWorkspace.Dict
import PodWorkspace.Document.Basic
import PodWorkspace.Document.Shape
import PodWorkspace.Failure
import PodWorkspace.Files
import PodWorkspace.Json.Basic
import PodWorkspace.Json.Reader
import PodWorkspace.Json.Record
import PodWorkspace.Json.Writer
import PodWorkspace.Log.Basic
import PodWorkspace.Log.Filter
import PodWorkspace.Log.Logged
import PodWorkspace.Main
import PodWorkspace.Manifest.Access
import PodWorkspace.Manifest.DetectionPod
import PodWorkspace.Manifest.KeyValues
import PodWorkspace.Manifest.Mounts
import PodWorkspace.Manifest.Quantity
import PodWorkspace.Manifest.Resources
import PodWorkspace.Manifest.SeedContainer
import PodWorkspace.Manifest.Setting
import PodWorkspace.Manifest.Template
import PodWorkspace.Manifest.WorkspaceClaim
import PodWorkspace.Manifest.WorkspacePod
import PodWorkspace.Options.Basic
import PodWorkspace.Options.Report
import PodWorkspace.Options.Snapshot
import PodWorkspace.Preview.Recorder
import PodWorkspace.Preview.Render
import PodWorkspace.Program.Basic
import PodWorkspace.PullSecret.Payload
import PodWorkspace.PullSecret.Sync
import PodWorkspace.Readiness.Outcome
import PodWorkspace.Readiness.Tick
import PodWorkspace.Readiness.Wait
import PodWorkspace.Registry.Credentials
import PodWorkspace.Registry.Host
import PodWorkspace.Registry.Image
import PodWorkspace.Registry.LocalConfig
import PodWorkspace.Server.Address
import PodWorkspace.Server.Client
import PodWorkspace.Server.Kubeconfig
import PodWorkspace.Server.Message
import PodWorkspace.Server.Reply
import PodWorkspace.Server.Session
import PodWorkspace.Simulation.Call
import PodWorkspace.Simulation.Ending
import PodWorkspace.Simulation.Phase
import PodWorkspace.Simulation.Run
import PodWorkspace.Simulation.Script
import PodWorkspace.Simulation.Store
import PodWorkspace.Spec.Basic
import PodWorkspace.Spec.Mount
import PodWorkspace.Text.Base64
import PodWorkspace.Text.Blank
import PodWorkspace.Text.Bytes
import PodWorkspace.Text.Digits
import PodWorkspace.Text.Form
import PodWorkspace.Text.Path
import PodWorkspace.Text.Quoted
import PodWorkspace.Text.Split
import PodWorkspace.Text.Unprintable
import PodWorkspace.Time.Duration
import PodWorkspace.Time.DurationText
import PodWorkspace.Time.Throttle
import PodWorkspace.Time.Timestamp
import PodWorkspace.Workspace.Basic
import PodWorkspace.Workspace.Manage
import PodWorkspace.Workspace.Run
import PodWorkspace.WorkspaceName
import PodWorkspace.Yaml.Line
import PodWorkspace.Yaml.Printer
import PodWorkspace.Yaml.Reader
import PodWorkspace.Yaml.Scalar
import PodWorkspace.Proofs.Cluster.Request
import PodWorkspace.Proofs.CommandLine.Cancellation
import PodWorkspace.Proofs.CommandLine.Command
import PodWorkspace.Proofs.CommandLine.Marker
import PodWorkspace.Proofs.Details
import PodWorkspace.Proofs.Dict
import PodWorkspace.Proofs.Json.Record
import PodWorkspace.Proofs.Json.RoundTrip
import PodWorkspace.Proofs.Manifest.KeyValues
import PodWorkspace.Proofs.Manifest.Labels
import PodWorkspace.Proofs.Manifest.Merge
import PodWorkspace.Proofs.Manifest.Mounts
import PodWorkspace.Proofs.Manifest.Names
import PodWorkspace.Proofs.Manifest.Placement
import PodWorkspace.Proofs.Manifest.Quantity
import PodWorkspace.Proofs.Manifest.Refusal
import PodWorkspace.Proofs.Manifest.Resources
import PodWorkspace.Proofs.Manifest.SeedContainer
import PodWorkspace.Proofs.Manifest.SeedScript
import PodWorkspace.Proofs.Manifest.Staging
import PodWorkspace.Proofs.Manifest.WorkspaceMount
import PodWorkspace.Proofs.Manifest.WorkspacePod
import PodWorkspace.Proofs.Options.Snapshot
import PodWorkspace.Proofs.Preview.Credentials
import PodWorkspace.Proofs.Preview.Fidelity
import PodWorkspace.Proofs.Preview.Rehearsal
import PodWorkspace.Proofs.Program.Answering
import PodWorkspace.Proofs.Program.Cancellation
import PodWorkspace.Proofs.Program.Failures
import PodWorkspace.Proofs.Program.Inquiry
import PodWorkspace.Proofs.Program.Runs
import PodWorkspace.Proofs.Program.Timing
import PodWorkspace.Proofs.PullSecret.Payload
import PodWorkspace.Proofs.PullSecret.Sync
import PodWorkspace.Proofs.PullSecret.Transit
import PodWorkspace.Proofs.Readiness.Deadline
import PodWorkspace.Proofs.Readiness.Looks
import PodWorkspace.Proofs.Readiness.Recycling
import PodWorkspace.Proofs.Readiness.Statuses
import PodWorkspace.Proofs.Readiness.Tick
import PodWorkspace.Proofs.Readiness.Wait
import PodWorkspace.Proofs.Registry.Host
import PodWorkspace.Proofs.Registry.Lookup
import PodWorkspace.Proofs.Registry.NormalForm
import PodWorkspace.Proofs.Server.Deletion
import PodWorkspace.Proofs.Server.Exchange
import PodWorkspace.Proofs.Simulation.Cancellation
import PodWorkspace.Proofs.Simulation.Cleanup
import PodWorkspace.Proofs.Simulation.Completion
import PodWorkspace.Proofs.Simulation.Concurrency
import PodWorkspace.Proofs.Simulation.Deletion
import PodWorkspace.Proofs.Simulation.Detection
import PodWorkspace.Proofs.Simulation.Follow
import PodWorkspace.Proofs.Simulation.Frame
import PodWorkspace.Proofs.Simulation.Grant
import PodWorkspace.Proofs.Simulation.Lasting
import PodWorkspace.Proofs.Simulation.Placement
import PodWorkspace.Proofs.Simulation.PullSecret
import PodWorkspace.Proofs.Simulation.Rebuild
import PodWorkspace.Proofs.Simulation.Record
import PodWorkspace.Proofs.Simulation.Repetition
import PodWorkspace.Proofs.Simulation.Serves
import PodWorkspace.Proofs.Simulation.Yields
import PodWorkspace.Proofs.Spec.Record
import PodWorkspace.Proofs.Split
import PodWorkspace.Proofs.Text.Base64
import PodWorkspace.Proofs.Text.Blank
import PodWorkspace.Proofs.Text.Case
import PodWorkspace.Proofs.Text.Decimal
import PodWorkspace.Proofs.Text.Digits
import PodWorkspace.Proofs.Text.Path
import PodWorkspace.Proofs.Text.Shell
import PodWorkspace.Proofs.Text.Split
import PodWorkspace.Proofs.Time.Duration
import PodWorkspace.Proofs.Time.DurationText
import PodWorkspace.Proofs.Time.Throttle
import PodWorkspace.Proofs.Workspace.Account
import PodWorkspace.Proofs.Workspace.Cancellation
import PodWorkspace.Proofs.Workspace.Finding
import PodWorkspace.Proofs.Workspace.Gate
import PodWorkspace.Proofs.Workspace.Handling
import PodWorkspace.Proofs.Workspace.Launch
import PodWorkspace.Proofs.Workspace.Operation
import PodWorkspace.Proofs.Workspace.Order
import PodWorkspace.Proofs.Workspace.Persistence
import PodWorkspace.Proofs.Workspace.Plan
import PodWorkspace.Proofs.Workspace.Recycling
import PodWorkspace.Proofs.Workspace.Refusal
import PodWorkspace.Proofs.Workspace.Seeding
import PodWorkspace.Proofs.Workspace.SingleCalls
import PodWorkspace.Proofs.Workspace.Stage
import PodWorkspace.Proofs.Workspace.Success
import PodWorkspace.Proofs.Workspace.Validation
import PodWorkspace.Proofs.WorkspaceName
