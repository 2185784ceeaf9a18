import AgentMesh.Runs.EventLog
import AgentMesh.Runs.Cancel
import AgentMesh.Runs.Approval
import AgentMesh.Runs.Leases
import AgentMesh.Runs.Collection
import AgentMesh.Runs.Retention
import AgentMesh.Runs.Publication
import AgentMesh.Runs.Backup
import AgentMesh.Runs.Labels
import AgentMesh.Runs.Failures
import AgentMesh.Improvement.Persistence
import AgentMesh.Protocol.Bridge
import AgentMesh.Runs.Claims
import AgentMesh.Improvement.Gate
import AgentMesh.Install.Purge
import AgentMesh.Install.Activation
import AgentMesh.Providers.Spool
import AgentMesh.Providers.Redaction
import AgentMesh.Providers.Quota
import AgentMesh.Daemon.AdminLocks
import AgentMesh.Protocol.Framing
import AgentMesh.Runs.Follow
import AgentMesh.Daemon.LongPoll
import AgentMesh.Daemon.OperationDigests
import AgentMesh.Runs.Mailbox
import AgentMesh.Runs.History
import AgentMesh.Runs.Interactions
