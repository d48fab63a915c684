import ElCapitan.AgentRuns.Budget
import ElCapitan.AgentRuns.Guards
import ElCapitan.AgentRuns.Override
import ElCapitan.AgentRuns.Run
import ElCapitan.Agents.Adapters
import ElCapitan.Agents.Contracts
import ElCapitan.Agents.EgressLeaks
import ElCapitan.Agents.EgressMarks
import ElCapitan.Agents.EgressPatterns
import ElCapitan.Agents.EgressSecrets
import ElCapitan.Agents.EgressShapes
import ElCapitan.Agents.ModelEgress
import ElCapitan.Agents.Providers
import ElCapitan.Agents.Schemas
import ElCapitan.Agents.Task
import ElCapitan.Artifacts.Containment
import ElCapitan.Artifacts.Files
import ElCapitan.Artifacts.Hydrate
import ElCapitan.Artifacts.Resolution
import ElCapitan.Artifacts.RoundTrip
import ElCapitan.Artifacts.Store
import ElCapitan.Artifacts.Sync
import ElCapitan.Artifacts.TreeStore
import ElCapitan.Base.Canonical
import ElCapitan.Base.CanonicalValues
import ElCapitan.Base.Characters
import ElCapitan.Base.Errors
import ElCapitan.Base.GapPatterns
import ElCapitan.Base.Json
import ElCapitan.Base.JsonText
import ElCapitan.Base.Matches
import ElCapitan.Base.Paths
import ElCapitan.Base.Patterns
import ElCapitan.Base.Platform
import ElCapitan.Base.Rounding
import ElCapitan.Base.Schema
import ElCapitan.Base.Urls
import ElCapitan.Bindings.Approved
import ElCapitan.Bindings.Certified
import ElCapitan.Bindings.Checked
import ElCapitan.Bindings.Closed
import ElCapitan.Bindings.Listed
import ElCapitan.Bindings.Supplied
import ElCapitan.Bindings.Token
import ElCapitan.Cases.Documents
import ElCapitan.Cases.Effective
import ElCapitan.Cases.Gates
import ElCapitan.Cases.Records
import ElCapitan.Cases.Serialization
import ElCapitan.Cases.StaleGates
import ElCapitan.Cases.Step
import ElCapitan.Cases.Transition
import ElCapitan.Cloud.ArmAgreement
import ElCapitan.Cloud.ArmCollection
import ElCapitan.Cloud.ArmPages
import ElCapitan.Cloud.ArmScope
import ElCapitan.Cloud.Ec2Permissions
import ElCapitan.Cloud.Exposure
import ElCapitan.ControlPacks.AppService
import ElCapitan.ControlPacks.AzureData
import ElCapitan.ControlPacks.Confined
import ElCapitan.ControlPacks.Declared
import ElCapitan.ControlPacks.Ec2
import ElCapitan.ControlPacks.Models
import ElCapitan.ControlPacks.Rds
import ElCapitan.ControlPacks.Registry
import ElCapitan.ControlPacks.S3
import ElCapitan.ControlPacks.Storage
import ElCapitan.Decisions.AllOrNothing
import ElCapitan.Decisions.Alone
import ElCapitan.Decisions.PackageHash
import ElCapitan.Decisions.Schedulable
import ElCapitan.Decisions.Setting
import ElCapitan.Dispatch.Agreement
import ElCapitan.Dispatch.Completion
import ElCapitan.Dispatch.Footprint
import ElCapitan.Effects.Ladder
import ElCapitan.Effects.Logic
import ElCapitan.Effects.Pool
import ElCapitan.Effects.Program
import ElCapitan.Effects.Restarts
import ElCapitan.Effects.Rows
import ElCapitan.Effects.Steps
import ElCapitan.Effects.Versions
import ElCapitan.Findings.Asff
import ElCapitan.Findings.AssetContext
import ElCapitan.Findings.Duplicates
import ElCapitan.Findings.Failures
import ElCapitan.Findings.HubFindings
import ElCapitan.Findings.Ocsf
import ElCapitan.Findings.Priority
import ElCapitan.Findings.PriorityOrder
import ElCapitan.Infrastructure.AwsClient
import ElCapitan.Infrastructure.AwsDriver
import ElCapitan.Infrastructure.AzureDriver
import ElCapitan.Infrastructure.CdkConstruct
import ElCapitan.Infrastructure.CdkFinder
import ElCapitan.Infrastructure.CdkLink
import ElCapitan.Infrastructure.CdkPatch
import ElCapitan.Infrastructure.CdkRescan
import ElCapitan.Infrastructure.Commands
import ElCapitan.Infrastructure.ControlPatch
import ElCapitan.Infrastructure.ExactRollback
import ElCapitan.Infrastructure.FilesystemDriver
import ElCapitan.Infrastructure.HclBlocks
import ElCapitan.Infrastructure.HclGrammar
import ElCapitan.Infrastructure.HclPlain
import ElCapitan.Infrastructure.HclReading
import ElCapitan.Infrastructure.HclScanner
import ElCapitan.Infrastructure.OwnerCoherence
import ElCapitan.Infrastructure.PatchConfined
import ElCapitan.Infrastructure.PlanGate
import ElCapitan.Infrastructure.PlanScope
import ElCapitan.Infrastructure.Restored
import ElCapitan.Infrastructure.StackDrift
import ElCapitan.Infrastructure.StateFormats
import ElCapitan.Infrastructure.Templates
import ElCapitan.Infrastructure.TerraformLinker
import ElCapitan.Infrastructure.TerraformState
import ElCapitan.Infrastructure.TypeScript
import ElCapitan.Portfolio.Capacity
import ElCapitan.Portfolio.Occupancy
import ElCapitan.Portfolio.Queue
import ElCapitan.Releases.Deployments
import ElCapitan.Releases.Outcome
import ElCapitan.Releases.Recovery
import ElCapitan.Reports.Accounting
import ElCapitan.Reports.Coverage
import ElCapitan.Reports.Offline
import ElCapitan.Services.Approval
import ElCapitan.Services.CleanStages
import ElCapitan.Services.Dispatch
import ElCapitan.Services.Execution
import ElCapitan.Services.Frames
import ElCapitan.Services.HumanReview
import ElCapitan.Services.Intake
import ElCapitan.Services.IntakeRuns
import ElCapitan.Services.Operations
import ElCapitan.Services.Planning
import ElCapitan.Services.Promotion
import ElCapitan.Services.ReviewControl
import ElCapitan.Services.Reviews
import ElCapitan.Services.Scheduling
import ElCapitan.Services.ShadowIntake
import ElCapitan.Services.Validation
import ElCapitan.Services.Workflow
import ElCapitan.Stores.CaseStore
import ElCapitan.Stores.CaseStoreContract
import ElCapitan.Stores.CaseTransactions
import ElCapitan.Stores.FindingStore
import ElCapitan.Stores.InMemoryCaseStore
import ElCapitan.Stores.JobRows
import ElCapitan.Stores.JobStore
import ElCapitan.Stores.JobWindows
import ElCapitan.Stores.PostgresJobStore
import ElCapitan.Stores.Projection
import ElCapitan.Stores.RecordRows
import ElCapitan.Stores.RecordStore
import ElCapitan.Validation.FailClosed
import ElCapitan.Validation.Readings
import ElCapitan.Web.Access
import ElCapitan.Web.Login
import ElCapitan.Web.Requests
import ElCapitan.Windows.Candidates
import ElCapitan.Windows.Elapsed
import ElCapitan.Windows.WallClock
import ElCapitan.Workers.Conformance
import ElCapitan.Workers.Grounds
import ElCapitan.Workers.History
import ElCapitan.Workers.Permissions
