import RanSlicing.Allocation
import RanSlicing.App.Arguments
import RanSlicing.App.Config
import RanSlicing.App.LogFilter
import RanSlicing.App.Operator
import RanSlicing.App.Program
import RanSlicing.Control.Cycle
import RanSlicing.Control.Enforcement
import RanSlicing.Control.Error
import RanSlicing.Control.Exchange
import RanSlicing.Control.Run
import RanSlicing.Controller.Client
import RanSlicing.Controller.Command
import RanSlicing.Controller.Connection
import RanSlicing.Controller.Decode
import RanSlicing.Controller.Endpoint
import RanSlicing.Controller.Error
import RanSlicing.Controller.Mode
import RanSlicing.Decimal.Numeral
import RanSlicing.Decimal.Shortest
import RanSlicing.Decimal.Text
import RanSlicing.Document.Json.Reader
import RanSlicing.Document.Json.Token
import RanSlicing.Document.Json.Writer
import RanSlicing.Document.Source
import RanSlicing.Document.Toml.Reader
import RanSlicing.Document.Toml.Scalar
import RanSlicing.Document.Toml.Table
import RanSlicing.Document.Toml.Text
import RanSlicing.Document.Tree
import RanSlicing.Document.TreeSource
import RanSlicing.Document.Yaml.Event
import RanSlicing.Document.Yaml.Input
import RanSlicing.Document.Yaml.Node
import RanSlicing.Document.Yaml.Scalar
import RanSlicing.Document.Yaml.Source
import RanSlicing.Document.Yaml.Token
import RanSlicing.Document.Yaml.Writer
import RanSlicing.Duration
import RanSlicing.Estimate
import RanSlicing.Files.Basic
import RanSlicing.Files.Path
import RanSlicing.Main
import RanSlicing.Policy.Document
import RanSlicing.Policy.Format
import RanSlicing.Policy.Preset
import RanSlicing.Policy.Text
import RanSlicing.Proofs.CellStep
import RanSlicing.Proofs.Cycle
import RanSlicing.Proofs.History
import RanSlicing.Proofs.Snapshot
import RanSlicing.Radio.BufferStatus
import RanSlicing.Radio.Cell
import RanSlicing.Radio.CellDocument
import RanSlicing.Radio.Direction
import RanSlicing.Radio.Modulation
import RanSlicing.Radio.Quantity
import RanSlicing.Radio.TransportBlock
import RanSlicing.Settings.Basic
import RanSlicing.Settings.Case
import RanSlicing.Settings.Environment
import RanSlicing.Settings.Source
import RanSlicing.Share
import RanSlicing.Stats.Document
import RanSlicing.Stats.Parse
import RanSlicing.Stats.Report
import RanSlicing.Stats.Snapshot
import RanSlicing.Proofs.EffectivePolicy
import RanSlicing.Proofs.Budget
import RanSlicing.Proofs.PolicyWrites
import RanSlicing.Proofs.SliceDemand
import RanSlicing.Proofs.SliceShares
import RanSlicing.Proofs.CycleReport
import RanSlicing.Proofs.ModulationCaps
import RanSlicing.Proofs.Directory
import RanSlicing.Proofs.KeptPolicies
import RanSlicing.Proofs.BoundedRun
import RanSlicing.Proofs.Accounting
import RanSlicing.Proofs.Isolation
import RanSlicing.Proofs.Restart
import RanSlicing.Proofs.Shutdown
import RanSlicing.Proofs.PolicyFrame
import RanSlicing.Proofs.AuditTrail
import RanSlicing.Proofs.PolicyRoundTrip
import RanSlicing.Proofs.Directions
import RanSlicing.Proofs.OperatorRequests
import RanSlicing.Proofs.AbortedCycles
import RanSlicing.Proofs.LooseRecords
import RanSlicing.Proofs.TolerantReports
import RanSlicing.Proofs.Totals
import RanSlicing.Proofs.HandOut
import RanSlicing.Proofs.BlockSizes
import RanSlicing.Proofs.CheckedArithmetic
import RanSlicing.Proofs.Displacement
import RanSlicing.Proofs.DrainedBuffers
import RanSlicing.Proofs.AppliedAllocation
import RanSlicing.Proofs.AllOrNothing
import RanSlicing.Proofs.PolicyCalls
import RanSlicing.Proofs.AcceptedCells
import RanSlicing.Proofs.ConservedDemand
import RanSlicing.Proofs.Fairness
import RanSlicing.Proofs.UplinkBuffers
import RanSlicing.Proofs.Presets
import RanSlicing.Proofs.OperatorPrompt
import RanSlicing.Proofs.EndpointPort
