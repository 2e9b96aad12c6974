import PolicyReplica.Api.ConfigMap
import PolicyReplica.Main
import PolicyReplica.Replica.Definition
import PolicyReplica.Service.Client
import PolicyReplica.Simulation.ControllerRun
import PolicyReplica.Simulation.QueueRun
import PolicyReplica.Proofs.Queue.Placement
import PolicyReplica.Proofs.Queue.Session
import PolicyReplica.Proofs.Queue.Delivery
import PolicyReplica.Proofs.Index.Consistency
import PolicyReplica.Proofs.Index.Replay
import PolicyReplica.Proofs.Names.RoundTrip
import PolicyReplica.Proofs.Queue.Pending
import PolicyReplica.Proofs.Store.InStep
import PolicyReplica.Proofs.Api.Answers
import PolicyReplica.Proofs.Api.Remote
import PolicyReplica.Proofs.Store.Writing
import PolicyReplica.Proofs.Store.WriteThrough
import PolicyReplica.Proofs.Resync.Processing
import PolicyReplica.Proofs.Watch.OwnChanges
import PolicyReplica.Proofs.Resync.Convergence
import PolicyReplica.Proofs.Sync.InLine
import PolicyReplica.Proofs.Store.Relaying
import PolicyReplica.Proofs.Watch.LateAnswers
import PolicyReplica.Proofs.Names.Admission
import PolicyReplica.Proofs.Resync.Coverage
import PolicyReplica.Proofs.Sync.Support
import PolicyReplica.Proofs.Queue.Draining
import PolicyReplica.Proofs.Retry.Crew
import PolicyReplica.Proofs.Retry.Standing
import PolicyReplica.Proofs.Retry.Following
import PolicyReplica.Proofs.Retry.Attempts
import PolicyReplica.Proofs.Retry.Requeues
import PolicyReplica.Proofs.Retry.Targets
import PolicyReplica.Proofs.Watch.Reports
import PolicyReplica.Proofs.Watch.Relisting
import PolicyReplica.Proofs.Queue.Shaping
import PolicyReplica.Proofs.Queue.Interleaving
import PolicyReplica.Proofs.Queue.Waking
import PolicyReplica.Proofs.Names.Correspondence
import PolicyReplica.Proofs.Watch.Startup
import PolicyReplica.Proofs.Replica.Rereading
import PolicyReplica.Proofs.Queue.Spacing
import PolicyReplica.Proofs.Queue.Deadlines
import PolicyReplica.Proofs.Store.Adopting
import PolicyReplica.Proofs.Store.Repeating
import PolicyReplica.Proofs.Store.Contest
import PolicyReplica.Proofs.Domain.Patterns
import PolicyReplica.Proofs.Domain.Delegation
import PolicyReplica.Proofs.Sync.OverNetwork
import PolicyReplica.Proofs.Domain.Pruning
import PolicyReplica.Proofs.Time.Sums
import PolicyReplica.Proofs.Polling.Calls
import PolicyReplica.Proofs.Polling.Backoff
