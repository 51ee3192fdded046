import UpgradeGate.Chain.Address
import UpgradeGate.Chain.Creation
import UpgradeGate.Chain.Node
import UpgradeGate.Chain.Rlp
import UpgradeGate.Command.Argument
import UpgradeGate.Command.Calldata
import UpgradeGate.Command.Invocation
import UpgradeGate.Command.Offline
import UpgradeGate.Command.Run
import UpgradeGate.Command.Words
import UpgradeGate.Deployment.Ledger
import UpgradeGate.Deployment.Log
import UpgradeGate.Deployment.Network
import UpgradeGate.Deployment.ProxyKind
import UpgradeGate.Deployment.Record
import UpgradeGate.Deployment.Timestamp
import UpgradeGate.Disk.Basic
import UpgradeGate.Disk.Bundle
import UpgradeGate.Disk.Glob
import UpgradeGate.Disk.Path
import UpgradeGate.Event.Bus
import UpgradeGate.Event.Emission
import UpgradeGate.Event.Event
import UpgradeGate.Failure
import UpgradeGate.Fields
import UpgradeGate.Hash.Bytes
import UpgradeGate.Hash.Keccak
import UpgradeGate.Hash.Sha256
import UpgradeGate.Json.Basic
import UpgradeGate.Json.Reader
import UpgradeGate.Json.Writer
import UpgradeGate.Layout.Basic
import UpgradeGate.Layout.Comparison
import UpgradeGate.Layout.CompilerOutput
import UpgradeGate.Layout.Fields
import UpgradeGate.Layout.Ordering
import UpgradeGate.Layout.Record
import UpgradeGate.Layout.Store
import UpgradeGate.Layout.TypeName
import UpgradeGate.Main
import UpgradeGate.Number.Binary64
import UpgradeGate.Number.Literal
import UpgradeGate.Proofs.Chain.AddressText
import UpgradeGate.Proofs.Deployment.RecordText
import UpgradeGate.Proofs.Disk.Frame
import UpgradeGate.Proofs.Disk.Tasks
import UpgradeGate.Proofs.Fields
import UpgradeGate.Proofs.Gate.Bookkeeping
import UpgradeGate.Proofs.Gate.Installation
import UpgradeGate.Proofs.Gate.Lineage
import UpgradeGate.Proofs.Gate.SharedBaselines
import UpgradeGate.Proofs.Json.RoundTrip
import UpgradeGate.Proofs.Json.Tokens
import UpgradeGate.Proofs.Layout.Compatibility
import UpgradeGate.Proofs.Layout.Positions
import UpgradeGate.Proofs.Layout.RecordText
import UpgradeGate.Proofs.Layout.StoreEffects
import UpgradeGate.Proofs.Layout.StorePlaces
import UpgradeGate.Proofs.Layout.TypeName
import UpgradeGate.Proofs.Workflow.Backing
import UpgradeGate.Proofs.Workflow.Completion
import UpgradeGate.Proofs.Workflow.Deploy
import UpgradeGate.Proofs.Workflow.Effects
import UpgradeGate.Proofs.Workflow.FastPath
import UpgradeGate.Proofs.Workflow.Ledger
import UpgradeGate.Proofs.Workflow.Trace
import UpgradeGate.Proofs.Workflow.Upgrade
import UpgradeGate.Rehearsal.Chain
import UpgradeGate.Rehearsal.Session
import UpgradeGate.Rehearsal.Step
import UpgradeGate.Table
import UpgradeGate.Text.Blank
import UpgradeGate.Text.Decimal
import UpgradeGate.Text.Digit
import UpgradeGate.Text.Printable
import UpgradeGate.Text.Quoted
import UpgradeGate.Text.Scan
import UpgradeGate.Text.Utf8
import UpgradeGate.Toolchain.Project
import UpgradeGate.Workflow.Attempt
import UpgradeGate.Workflow.Deploy
import UpgradeGate.Workflow.Flow
import UpgradeGate.Workflow.Program
import UpgradeGate.Workflow.Question
import UpgradeGate.Workflow.Tally
import UpgradeGate.Workflow.Upgrade
import UpgradeGate.Proofs.Deployment.Rows
import UpgradeGate.Proofs.Workflow.Alone
import UpgradeGate.Proofs.Workflow.Journal
import UpgradeGate.Proofs.Disk.Names
import UpgradeGate.Proofs.Layout.Shelf
import UpgradeGate.Proofs.Layout.NetworkFolder
import UpgradeGate.Proofs.Layout.ShelfListing
import UpgradeGate.Proofs.Workflow.StoreCalls
import UpgradeGate.Proofs.Layout.Tampering
import UpgradeGate.Proofs.Gate.Advisory
import UpgradeGate.Proofs.Gate.RecordedProxies
import UpgradeGate.Proofs.Layout.TypeTree
import UpgradeGate.Proofs.Layout.Recompilation
import UpgradeGate.Proofs.Workflow.ByParts
import UpgradeGate.Proofs.Workflow.Along
import UpgradeGate.Proofs.Workflow.Calls
import UpgradeGate.Proofs.Workflow.Lockstep
import UpgradeGate.Proofs.Workflow.Comparisons
import UpgradeGate.Proofs.Gate.ScratchCopies
import UpgradeGate.Proofs.Gate.Verdicts
import UpgradeGate.Proofs.Workflow.Appending
import UpgradeGate.Proofs.Gate.Succession
import UpgradeGate.Proofs.Gate.TransparentProxies
import UpgradeGate.Proofs.Gate.NetworkIsolation
import UpgradeGate.Proofs.Workflow.Announcements
import UpgradeGate.Proofs.Workflow.Counting
import UpgradeGate.Proofs.Gate.Stages
import UpgradeGate.Proofs.Gate.Accounts
import UpgradeGate.Chain.Connection
import UpgradeGate.Proofs.Workflow.Questions
import UpgradeGate.Proofs.Chain.NodeTasks
import UpgradeGate.Proofs.Workflow.Connected
import UpgradeGate.Proofs.Gate.Transactions
import UpgradeGate.Proofs.Command.Conclusion
import UpgradeGate.Proofs.Command.ExitStatus
import UpgradeGate.Proofs.Layout.Arrangement
import UpgradeGate.Proofs.Layout.Construction
import UpgradeGate.Proofs.Layout.ReportLines
import UpgradeGate.Proofs.Layout.CompatibilityOrder
import UpgradeGate.Proofs.Number.Numerals
import UpgradeGate.Proofs.Layout.Numbering
import UpgradeGate.Proofs.Layout.Description
import UpgradeGate.Proofs.Layout.Refusals
import UpgradeGate.Proofs.Layout.Revalidation
import UpgradeGate.Proofs.Layout.DamagedFiles
import UpgradeGate.Proofs.Gate.LiveLayouts
import UpgradeGate.Proofs.Gate.ProxyDeployments
import UpgradeGate.Proofs.Layout.Interruptions
import UpgradeGate.Proofs.Toolchain.Artifacts
import UpgradeGate.Proofs.Chain.Spellings
import UpgradeGate.Proofs.Chain.Rlp
import UpgradeGate.Proofs.Chain.Creation
import UpgradeGate.Proofs.Gate.Spellings
import UpgradeGate.Proofs.Disk.Locality
import UpgradeGate.Proofs.Layout.SafeNames
import UpgradeGate.Proofs.Event.Delivery
import UpgradeGate.Proofs.Workflow.Audience
import UpgradeGate.Proofs.Gate.Listeners
import UpgradeGate.Proofs.Chain.CanonicalForm
import UpgradeGate.Proofs.Command.Opening
import UpgradeGate.Proofs.Layout.NormalName
import UpgradeGate.Proofs.Number.Digits
import UpgradeGate.Proofs.Command.Arguments
import UpgradeGate.Proofs.Command.Calldata
import UpgradeGate.Proofs.Command.InitData
