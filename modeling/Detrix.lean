import Detrix.Agent.Isolation
import Detrix.Agent.Reregistration
import Detrix.AgentProcess.EventForwarding
import Detrix.AgentProcess.EventWire
import Detrix.AgentProcess.NoLeak
import Detrix.AgentProcess.ReadLoop
import Detrix.AgentProcess.Scanner
import Detrix.Auth.Tokens
import Detrix.Bridge.References
import Detrix.Connections.ReferenceCounting
import Detrix.Connections.Restore
import Detrix.Connections.StaleCleanup
import Detrix.Core.GoCalls
import Detrix.Dap.Correlation
import Detrix.Dap.Locations
import Detrix.Ebpf.Fingerprint
import Detrix.Ebpf.HeaderWords
import Detrix.Ebpf.MapSlots
import Detrix.Ebpf.RingBuffer
import Detrix.Ebpf.Runtime
import Detrix.Ebpf.Stores
import Detrix.Ebpf.TypeNames
import Detrix.Files.Isolation
import Detrix.Lifecycle.CaptureModes
import Detrix.Lifecycle.CrashCleanup
import Detrix.Lifecycle.IdleShutdown
import Detrix.Lifecycle.OneAdapter
import Detrix.Lldb.Protocol
import Detrix.Lsp.Cache
import Detrix.Lsp.Detection
import Detrix.Lsp.MutationTarget
import Detrix.Middleware.Waiters
import Detrix.Output.Batching
import Detrix.Safety.AstCache
import Detrix.Safety.Blacklist
import Detrix.Safety.StrictCalls
import Detrix.Safety.Visibility
import Detrix.Service.AgreementRuns
import Detrix.Service.ConfigService
import Detrix.Service.NameLookup
import Detrix.Service.Rollback
import Detrix.Service.SafeMode
import Detrix.Service.Tenancy
import Detrix.Service.Validated
import Detrix.Storage.EventQueries
import Detrix.Storage.Refinement
