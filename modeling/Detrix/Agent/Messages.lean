/-
**What an agent and the server say to each other.**

An agent reports the binaries it has found, the state of its connections and their events, and answers
the server's requests. The id of a request names the connection it was made for, so that it is a pair
here. An answer also says which of the messages sent to the connection it was produced for, which the
server does not see.
-/

import Detrix.Connections.Record

namespace Detrix.Agent

open Detrix.Core Library Connections Service Text

abbrev AgentId : Type := String

/-- The outgoing channel of a stream, which is the identity of a session. -/
abbrev Session : Type := Nat

abbrev MetricEvent : Type := Nat

/-! ### Capabilities -/

structure AgentCapabilities where
  ebpf : Bool
  supportedEnvelopeSchemas : List Nat
  supportedCaptureProfiles : List String
  maxCapturePayloadBytes : Nat
  deriving DecidableEq

def eqIgnoreAsciiCase (one other : String) : Bool :=
  asciiLowercase one = asciiLowercase other

def drx1Schema : Nat := 1

def drx1MinPayloadBytes : Nat := 4096

/-- What a connection update reports; its other fields are only logged. -/
structure ConnectionUpdate where
  status : ConnectionStatus
  selectedBackend : String
  captureProfile : String
  supportedEnvelopeSchemas : List Nat
  supportedCaptureProfiles : List String
  maxCapturePayloadBytes : Nat

namespace AgentCapabilities

variable (capabilities : AgentCapabilities)

def supportsProfileDrx1 (profile : String) (schema minPayloadBytes : Nat) : Bool :=
  capabilities.ebpf && capabilities.supportedEnvelopeSchemas.contains schema &&
    capabilities.supportedCaptureProfiles.any (eqIgnoreAsciiCase · profile) &&
    minPayloadBytes ≤ capabilities.maxCapturePayloadBytes

/-- `validate_capture_admission`: the reason of a refusal. -/
def validateCaptureAdmission (update : ConnectionUpdate) : Option String :=
  let profile := update.captureProfile
  let registeredOk := capabilities.supportsProfileDrx1 profile drx1Schema drx1MinPayloadBytes
  let reportedOk := update.supportedEnvelopeSchemas.contains drx1Schema &&
    update.supportedCaptureProfiles.any (eqIgnoreAsciiCase · profile) &&
    drx1MinPayloadBytes ≤ update.maxCapturePayloadBytes
  if !eqIgnoreAsciiCase update.selectedBackend "ebpf" then none
  else if asciiLowercase profile ≠ "go" ∧ asciiLowercase profile ≠ "rust" then none
  else if eqIgnoreAsciiCase profile "go" && !registeredOk then none
  else if registeredOk && reportedOk then none
  else if !registeredOk then
    some ("agent registration does not advertise " ++ profile ++
      " DRX1/schema 1 with a 4096-byte payload")
  else
    some ("connection update does not confirm " ++ profile ++
      " DRX1/schema 1 with a 4096-byte payload")

end AgentCapabilities

/-! ### Versions -/

/-- The three numbers of a version; a third part that is no number counts as zero. -/
def parseVersion (version : String) : Option (Nat × Nat × Nat) :=
  match split '.' version with
  | major :: minor :: rest => do
    let major ← parseU64 major.toList
    let minor ← parseU64 minor.toList
    some (major, minor, (rest.head?.bind fun patch => parseU64 patch.toList).getD 0)
  | _ => none

/-- `semver_compare`: the reason why an agent's version is incompatible. -/
def semverCompare (agentVersion minVersion : String) : Option String :=
  let versions := "agent=" ++ agentVersion ++ ", min=" ++ minVersion
  match parseVersion agentVersion, parseVersion minVersion with
  | some (major, minor, patch), some (minMajor, minMinor, minPatch) =>
    if major ≠ minMajor then some ("Major version mismatch: " ++ versions)
    else if minor < minMinor then some ("Minor version too low: " ++ versions)
    else if minor = minMinor ∧ patch < minPatch then some ("Patch version too low: " ++ versions)
    else none
  | _, _ => some ("Invalid version format: " ++ versions)

/-! ### Binaries and their connections -/

/-- `AgentBinaryInfo`; its build information is not read. -/
structure AgentBinaryInfo where
  binaryPath : String
  pid : Nat
  inode : Nat
  language : SourceLanguage
  deriving DecidableEq

/-- A process: the key of a binary in the scanner's snapshots. -/
def AgentBinaryInfo.process (binary : AgentBinaryInfo) : String × Nat × Nat :=
  (binary.binaryPath, binary.pid, binary.inode)

structure AgentInfo where
  hostname : String
  capabilities : AgentCapabilities
  binaries : List AgentBinaryInfo
  session : Session
  deriving DecidableEq

structure Registration where
  agent : AgentId
  hostname : String
  version : String
  capabilities : AgentCapabilities
  binaries : List AgentBinaryInfo
  session : Session

def Registration.info (registration : Registration) : AgentInfo :=
  ⟨registration.hostname, registration.capabilities, registration.binaries, registration.session⟩

def connectionIdOf (digest : String → String) (hostname : String) (binary : AgentBinaryInfo) :
    ConnectionId :=
  (agentConnectionIdentity binary.binaryPath binary.language hostname).toUuid digest

def connectionOf (digest : String → String) (hostname : String) (binary : AgentBinaryInfo) :
    Except ServiceError Connection :=
  (newWithIdentity digest (agentConnectionIdentity binary.binaryPath binary.language hostname)
    binary.binaryPath 0).map fun connection => { connection with safeMode := true, hostname }

section
variable {digest : String → String} {hostname : String} {binary : AgentBinaryInfo}
  {connection : Connection} (made : connectionOf digest hostname binary = .ok connection)
include made

theorem connectionOf_eq_ok :
    connection.id = connectionIdOf digest hostname binary ∧
      connection.name = some (agentNamePrefix ++ stableBinaryPath binary.binaryPath) ∧
      connection.language = binary.language ∧ connection.workspaceRoot = "/" := by
  unfold connectionOf at made
  cases first : newWithIdentity digest
      (agentConnectionIdentity binary.binaryPath binary.language hostname) binary.binaryPath 0 with
  | error failure =>
    rw [first] at made
    exact nomatch made
  | ok connection =>
    rw [first] at made
    rw [← Except.ok.inj (made : Except.ok _ = _)]
    obtain ⟨isId, name, lang, root⟩ := newWithIdentity_eq_ok first
    exact ⟨isId, name, lang, root⟩

theorem connectionOf_id : connection.id = connectionIdOf digest hostname binary :=
  (connectionOf_eq_ok made).1

end

/-! ### Messages -/

/-- What tells the requests of a connection apart: the number that a remote adapter has drawn
(`req-` and the connection id before it), or a random id (`readfile-` and the connection id). -/
inductive RequestKey where
  | sequence (n : Nat)
  | file (uuid : String)
  deriving DecidableEq

structure RequestId where
  connection : ConnectionId
  key : RequestKey
  deriving DecidableEq

inductive Command where
  | setMetric (metricName file : String) (line : Nat) (expressions : List String) (enabled : Bool)
      (metricId : Nat)
  | removeMetric (metricName : String)
  | readFile (path : String)
  | inspectFile (file : String) (line : Nat) (findVariable : String)
  deriving DecidableEq

inductive Response where
  | setMetricAck (verified : Bool) (actualLine : Option Nat) (error : Option String)
  | removeMetricAck (confirmed : Bool) (error : Option String)
  | fileResponse (content : List UInt8) (error : Option String)
  | inspectResponse (found : List (String × String × Nat)) (error : Option String)
  deriving DecidableEq

/-- `IncomingAgentMessage`; `sentAs` is the position of the message that is answered among those sent
to the connection. -/
inductive IncomingAgentMessage where
  | connectionUpdate (connection : ConnectionId) (update : ConnectionUpdate)
  | eventBatch (connection : ConnectionId) (events : List MetricEvent)
  | answer (request : RequestId) (response : Response) (sentAs : Nat)
  | dropCount (connection : ConnectionId)
  | heartbeat
  | registerUpdate (binaries : List AgentBinaryInfo)
  | pong
  | error (code message : String)

inductive OutgoingAgentMessage where
  | registerAck (accepted : Bool) (rejectionReason minCompatibleVersion : String)
  | createConnection (connection : ConnectionId) (language binaryPath host : String) (port : Nat)
      (safeMode : Bool) (captureBackend captureProfile debugInfoPath : String)
  | closeConnection (connection : ConnectionId)
  | request (id : RequestId) (command : Command)
  | ping
  deriving DecidableEq

end Detrix.Agent
