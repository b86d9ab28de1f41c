import NexusAgent.Runctl.AtMostOnce
import NexusAgent.Cost.SessionCeiling
import NexusAgent.Plan.Fanout
import NexusAgent.Plan.Gates
import NexusAgent.Runctl.TerminalAbsorbing
import NexusAgent.Taint.Cumulative
import NexusAgent.Promptctx.Pruning
import NexusAgent.Kernel.Condensing
import NexusAgent.Audit.TamperEvidence
import NexusAgent.Audit.ReceiptChain
import NexusAgent.Audit.Anchoring
import NexusAgent.Queue.NoLoss
import NexusAgent.Envelope.AllWork
import NexusAgent.Autonomy.Spawning
import NexusAgent.Delegate.Delivery
import NexusAgent.Envelope.Members
import NexusAgent.Lifecycle.Resumable
import NexusAgent.Permissions.FailClosed
import NexusAgent.Skills.Signature
import NexusAgent.Plan.Lifecycle
import NexusAgent.Rest.LiveStream
import NexusAgent.Delegate.Scope
import NexusAgent.Plan.Termination
import NexusAgent.Plan.Stranded
import NexusAgent.Plan.AgentSteps
import NexusAgent.Web.PendingApproval
import NexusAgent.Cost.CounterLoss
import NexusAgent.Cost.Currency
import NexusAgent.Cost.Unreported
import NexusAgent.Cron.Scheduler
import NexusAgent.Teams.Completion
import NexusAgent.Kernel.LiveReplay
import NexusAgent.Oversight.ModifiedGrants
import NexusAgent.Runctl.Fork
import NexusAgent.Tools.WebFetch
import NexusAgent.Tools.Workspace
import NexusAgent.Runctl.Conversation
import NexusAgent.Hooks.Chains
import NexusAgent.Plan.Predicates
import NexusAgent.Provider.Failover
import NexusAgent.Surfaces.RateLimit
