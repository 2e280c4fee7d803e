import LedgerNet.Client
import LedgerNet.ClientError
import LedgerNet.CommandLine.Options
import LedgerNet.CommandLine.Simulator
import LedgerNet.Config
import LedgerNet.Decimal.Reading
import LedgerNet.Decimal.Shortest
import LedgerNet.Digest.Sha2
import LedgerNet.Endpoint
import LedgerNet.EntityId
import LedgerNet.Event
import LedgerNet.Inspection
import LedgerNet.Json.Amount
import LedgerNet.Json.Tree
import LedgerNet.Json.Typed
import LedgerNet.Json.Value
import LedgerNet.Main
import LedgerNet.Network.AddressBook
import LedgerNet.Network.EndpointMap
import LedgerNet.Network.LedgerId
import LedgerNet.Network.Refresh
import LedgerNet.Node.Basic
import LedgerNet.Node.Health
import LedgerNet.Operation
import LedgerNet.Outcome
import LedgerNet.Proofs.Client.Closing
import LedgerNet.Proofs.Client.Mirrors
import LedgerNet.Proofs.Client.Refreshing
import LedgerNet.Proofs.Client.Repeating
import LedgerNet.Proofs.Client.Scene
import LedgerNet.Proofs.Client.Tame
import LedgerNet.Proofs.Endpoint.Grammar
import LedgerNet.Proofs.Endpoint.Order
import LedgerNet.Proofs.Endpoint.Security
import LedgerNet.Proofs.Endpoint.Stored
import LedgerNet.Proofs.Json.Record
import LedgerNet.Proofs.Json.Written
import LedgerNet.Proofs.Network.Refresh
import LedgerNet.Proofs.Network.Stored
import LedgerNet.Proofs.Node.Health
import LedgerNet.Proofs.Request.Benching
import LedgerNet.Proofs.Request.Candidates
import LedgerNet.Proofs.Request.Choosing
import LedgerNet.Proofs.Request.Course
import LedgerNet.Proofs.Request.Deadline
import LedgerNet.Proofs.Request.Ending
import LedgerNet.Proofs.Request.Framing
import LedgerNet.Proofs.Request.Offered
import LedgerNet.Proofs.Request.Patience
import LedgerNet.Proofs.Request.Pending
import LedgerNet.Proofs.Request.Reporting
import LedgerNet.Proofs.Request.Resolves
import LedgerNet.Proofs.Request.Rotation
import LedgerNet.Proofs.Request.Sending
import LedgerNet.Proofs.Request.Turn
import LedgerNet.Proofs.Simulation.Delivery
import LedgerNet.Proofs.Simulation.Generated
import LedgerNet.Proofs.Simulation.Judging
import LedgerNet.Proofs.Simulation.Serving
import LedgerNet.Proofs.Simulation.TopicLog
import LedgerNet.Proofs.Subscription.Budget
import LedgerNet.Proofs.Subscription.Conserved
import LedgerNet.Proofs.Subscription.Effects
import LedgerNet.Proofs.Subscription.Following
import LedgerNet.Proofs.Subscription.Gate
import LedgerNet.Proofs.Subscription.Listening
import LedgerNet.Proofs.Subscription.Lossless
import LedgerNet.Proofs.Subscription.Progress
import LedgerNet.Proofs.Subscription.Reassembly
import LedgerNet.Proofs.Subscription.Resume
import LedgerNet.Proofs.Subscription.Rounds
import LedgerNet.Proofs.Subscription.Streams
import LedgerNet.Proofs.Subscription.Submission
import LedgerNet.Proofs.Subscription.Whole
import LedgerNet.Proofs.Text.Decimal
import LedgerNet.Proofs.Text.Hex
import LedgerNet.Proofs.Text.Split
import LedgerNet.Proofs.Text.Utf8
import LedgerNet.Proofs.Time.Backoff
import LedgerNet.Proofs.Time.Instants
import LedgerNet.Proofs.Time.Timestamp
import LedgerNet.Proofs.Time.Wake
import LedgerNet.Proofs.Topology.Accounted
import LedgerNet.Proofs.Topology.Certificates
import LedgerNet.Proofs.Topology.Difference
import LedgerNet.Proofs.Topology.Distinct
import LedgerNet.Proofs.Topology.Emptied
import LedgerNet.Proofs.Topology.Listed
import LedgerNet.Proofs.Topology.Marks
import LedgerNet.Proofs.Topology.Operations
import LedgerNet.Proofs.Topology.Ranked
import LedgerNet.Proofs.Topology.Recorded
import LedgerNet.Proofs.Topology.Replace
import LedgerNet.Proofs.Topology.Rotating
import LedgerNet.Proofs.Topology.Running
import LedgerNet.Proofs.Topology.Selecting
import LedgerNet.Proofs.Topology.Suited
import LedgerNet.Proofs.Topology.Switching
import LedgerNet.Proofs.Topology.Turns
import LedgerNet.Proofs.Transport.Channels
import LedgerNet.Proofs.Transport.Silence
import LedgerNet.Proofs.Transport.StreamReset
import LedgerNet.Proofs.Wire.Consensus
import LedgerNet.Proofs.Wire.Fields
import LedgerNet.Proofs.Wire.Mirror
import LedgerNet.Rehearsal.NodeSteps
import LedgerNet.Rehearsal.Script
import LedgerNet.Rehearsal.Steps
import LedgerNet.Report.Network
import LedgerNet.Report.Traffic
import LedgerNet.Report.Value
import LedgerNet.Request.Basic
import LedgerNet.Request.Pending
import LedgerNet.Request.Run
import LedgerNet.Scheduler
import LedgerNet.Signature.Ed25519
import LedgerNet.Simulation.Chance
import LedgerNet.Simulation.Metrics
import LedgerNet.Simulation.Network
import LedgerNet.Simulation.Runs
import LedgerNet.Simulation.Services
import LedgerNet.Simulation.TopicLog
import LedgerNet.Status
import LedgerNet.StreamReset
import LedgerNet.Subscription.ChunkBuffer
import LedgerNet.Subscription.Drive
import LedgerNet.Subscription.Message
import LedgerNet.Subscription.Query
import LedgerNet.Text.CharClass
import LedgerNet.Text.Hex
import LedgerNet.Text.Natural
import LedgerNet.Text.Outline
import LedgerNet.Text.Quoted
import LedgerNet.Text.Split
import LedgerNet.Text.Utf8
import LedgerNet.Time.Calendar
import LedgerNet.Time.Span
import LedgerNet.Time.Timestamp
import LedgerNet.Topology.Basic
import LedgerNet.Transport.Call
import LedgerNet.Transport.Channel
import LedgerNet.Transport.LocalNet
import LedgerNet.Wire.Consensus
import LedgerNet.Wire.Mirror
import LedgerNet.World
