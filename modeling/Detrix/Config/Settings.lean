/-
**The settings that the configuration is checked for.**

Each one has a place in the document, a kind of value and a default. `readWith` reads a document, with
the values for what is not in it; `write` is the document of some settings; `validateConfig` is the list
of errors.

`read_merge`: reading the document of the current settings with a partial document merged into it is
reading the partial document with the current settings for what is not in it.
-/

import Detrix.Config.Auth
import Detrix.Library.Toml

namespace Detrix.Config

open Library List Option

/-! ### Fields -/

inductive Kind where
  | number (low high : Int)
  | flag
  | text
  | mode
  | users
  /-- A text that is read and never written. -/
  | legacy

/-- `u64` and `usize`; a document has integers of 64 bits with a sign. -/
def Kind.u64 : Kind := .number 0 9223372036854775807

def Kind.u32 : Kind := .number 0 4294967295

def Kind.i32 : Kind := .number (-2147483648) 2147483647

def Kind.Value : Kind → Type
  | .number low high => { n : Int // low ≤ n ∧ n ≤ high }
  | .flag => Bool
  | .text | .legacy => Option String
  | .mode => Option AuthMode
  | .users => List StaticUser

inductive Field where
  | storagePoolSize
  | limitsMaxExpressionLength | limitsMaxExpressionsPerMetric
  | apiEventBufferCapacity
  | mcpToolTimeoutMs | mcpBridgeTimeoutMs
  | mcpHeartbeatIntervalSecs | mcpHeartbeatTimeoutSecs | mcpCleanupIntervalSecs
  | adapterConnectionTimeoutMs
  | rateLimitEnabled | rateLimitPerSecond | rateLimitBurstSize
  | wsPingIntervalMs | wsPongTimeoutMs | wsIdleTimeoutMs | maxWsConnectionsPerIp
  | corsAllowAll | corsAllowCredentials
  | ebpfMaxCaptureVars | ebpfStringCaptureBytes | ebpfBlobCaptureBytes | ebpfMaxCaptureDepth
  | ebpfMaxStructFields | ebpfMaxArrayValues
  | agentReconnectIntervalSecs | agentReconnectMaxIntervalSecs
  | authMode | authUsers | jwksUrl | adminRoleClaim | adminRoleValue
  | bearerToken | bearerTokenDeprecated
  deriving DecidableEq

namespace Field

def all : List Field :=
  [storagePoolSize, limitsMaxExpressionLength, limitsMaxExpressionsPerMetric, apiEventBufferCapacity,
    mcpToolTimeoutMs, mcpBridgeTimeoutMs, mcpHeartbeatIntervalSecs, mcpHeartbeatTimeoutSecs,
    mcpCleanupIntervalSecs, adapterConnectionTimeoutMs, rateLimitEnabled, rateLimitPerSecond,
    rateLimitBurstSize, wsPingIntervalMs, wsPongTimeoutMs, wsIdleTimeoutMs, maxWsConnectionsPerIp,
    corsAllowAll, corsAllowCredentials, ebpfMaxCaptureVars, ebpfStringCaptureBytes,
    ebpfBlobCaptureBytes, ebpfMaxCaptureDepth, ebpfMaxStructFields, ebpfMaxArrayValues,
    agentReconnectIntervalSecs, agentReconnectMaxIntervalSecs, authMode, authUsers, jwksUrl,
    adminRoleClaim, adminRoleValue, bearerToken, bearerTokenDeprecated]

theorem mem_all (f : Field) : f ∈ all := by
  cases f <;> decide

def path : Field → List String
  | storagePoolSize => ["storage", "pool_size"]
  | limitsMaxExpressionLength => ["limits", "max_expression_length"]
  | limitsMaxExpressionsPerMetric => ["limits", "max_expressions_per_metric"]
  | apiEventBufferCapacity => ["api", "event_buffer_capacity"]
  | mcpToolTimeoutMs => ["mcp", "tool_timeout_ms"]
  | mcpBridgeTimeoutMs => ["mcp", "bridge_timeout_ms"]
  | mcpHeartbeatIntervalSecs => ["mcp", "heartbeat_interval_secs"]
  | mcpHeartbeatTimeoutSecs => ["mcp", "heartbeat_timeout_secs"]
  | mcpCleanupIntervalSecs => ["mcp", "cleanup_interval_secs"]
  | adapterConnectionTimeoutMs => ["adapter", "connection_timeout_ms"]
  | rateLimitEnabled => ["api", "rest", "rate_limit", "enabled"]
  | rateLimitPerSecond => ["api", "rest", "rate_limit", "per_second"]
  | rateLimitBurstSize => ["api", "rest", "rate_limit", "burst_size"]
  | wsPingIntervalMs => ["api", "streaming", "ws_ping_interval_ms"]
  | wsPongTimeoutMs => ["api", "streaming", "ws_pong_timeout_ms"]
  | wsIdleTimeoutMs => ["api", "streaming", "ws_idle_timeout_ms"]
  | maxWsConnectionsPerIp => ["api", "streaming", "max_ws_connections_per_ip"]
  | corsAllowAll => ["api", "rest", "cors", "allow_all"]
  | corsAllowCredentials => ["api", "rest", "cors", "allow_credentials"]
  | ebpfMaxCaptureVars => ["ebpf", "max_capture_vars"]
  | ebpfStringCaptureBytes => ["ebpf", "string_capture_bytes"]
  | ebpfBlobCaptureBytes => ["ebpf", "blob_capture_bytes"]
  | ebpfMaxCaptureDepth => ["ebpf", "max_capture_depth"]
  | ebpfMaxStructFields => ["ebpf", "max_struct_fields"]
  | ebpfMaxArrayValues => ["ebpf", "max_array_values"]
  | agentReconnectIntervalSecs => ["agent", "reconnect_interval_secs"]
  | agentReconnectMaxIntervalSecs => ["agent", "reconnect_max_interval_secs"]
  | authMode => ["api", "auth", "mode"]
  | authUsers => ["api", "auth", "users"]
  | jwksUrl => ["api", "auth", "jwt", "jwks_url"]
  | adminRoleClaim => ["api", "auth", "jwt", "admin_role_claim"]
  | adminRoleValue => ["api", "auth", "jwt", "admin_role_value"]
  | bearerToken => ["api", "auth", "bearer_token"]
  | bearerTokenDeprecated => ["api", "auth", "_bearer_token_deprecated"]

def kind : Field → Kind
  | storagePoolSize | rateLimitBurstSize => .u32
  | ebpfMaxStructFields => .i32
  | rateLimitEnabled | corsAllowAll | corsAllowCredentials => .flag
  | authMode => .mode
  | authUsers => .users
  | jwksUrl | adminRoleClaim | adminRoleValue => .text
  | bearerToken | bearerTokenDeprecated => .legacy
  | _ => .u64

end Field

/-- The settings: a value for each field. -/
def Settings : Type := (f : Field) → f.kind.Value

def Settings.default : Settings
  | .storagePoolSize => ⟨5, by decide⟩
  | .limitsMaxExpressionLength => ⟨10000, by decide⟩
  | .limitsMaxExpressionsPerMetric => ⟨20, by decide⟩
  | .apiEventBufferCapacity => ⟨1000, by decide⟩
  | .mcpToolTimeoutMs => ⟨5000, by decide⟩
  | .mcpBridgeTimeoutMs => ⟨60000, by decide⟩
  | .mcpHeartbeatIntervalSecs => ⟨10, by decide⟩
  | .mcpHeartbeatTimeoutSecs => ⟨30, by decide⟩
  | .mcpCleanupIntervalSecs => ⟨5, by decide⟩
  | .adapterConnectionTimeoutMs => ⟨30000, by decide⟩
  | .rateLimitEnabled => true
  | .rateLimitPerSecond => ⟨100, by decide⟩
  | .rateLimitBurstSize => ⟨50, by decide⟩
  | .wsPingIntervalMs => ⟨30000, by decide⟩
  | .wsPongTimeoutMs => ⟨10000, by decide⟩
  | .wsIdleTimeoutMs => ⟨300000, by decide⟩
  | .maxWsConnectionsPerIp => ⟨10, by decide⟩
  | .corsAllowAll => false
  | .corsAllowCredentials => true
  | .ebpfMaxCaptureVars => ⟨8, by decide⟩
  | .ebpfStringCaptureBytes => ⟨64, by decide⟩
  | .ebpfBlobCaptureBytes => ⟨256, by decide⟩
  | .ebpfMaxCaptureDepth => ⟨2, by decide⟩
  | .ebpfMaxStructFields => ⟨-1, by decide⟩
  | .ebpfMaxArrayValues => ⟨64, by decide⟩
  | .agentReconnectIntervalSecs => ⟨5, by decide⟩
  | .agentReconnectMaxIntervalSecs => ⟨60, by decide⟩
  | .authMode => none
  | .authUsers => ([] : List StaticUser)
  | .jwksUrl | .adminRoleClaim | .adminRoleValue => (none : Option String)
  | .bearerToken | .bearerTokenDeprecated => (none : Option String)

/-! ### Reading and writing -/

def AuthMode.name : AuthMode → String
  | .disabled => "disabled"
  | .simple => "simple"
  | .external => "external"

def UserRole.name : UserRole → String
  | .admin => "admin"
  | .user => "user"

def StaticUser.write (user : StaticUser) : Toml :=
  .table [("token", .string user.token), ("user_id", .string user.userId),
    ("role", .string user.role.name)]

/-- **The library that reads values**, as far as it is not determined by the kind: what stands for a
struct that is given as an array, and what is read as a mode or as users. It reads what it has
written. -/
structure Serde where
  positional : List String → List Toml → Option (List (String × Toml))
  readMode : Toml → Option AuthMode
  readUsers : Toml → Option (List StaticUser)
  readMode_name : ∀ mode : AuthMode, readMode (.string mode.name) = some mode
  readUsers_write : ∀ users : List StaticUser,
    readUsers (.array (users.map StaticUser.write)) = some users

def readNumber (low high : Int) : Toml → Option { n : Int // low ≤ n ∧ n ≤ high }
  | .integer n => if inRange : low ≤ n ∧ n ≤ high then some ⟨n, inRange⟩ else none
  | _ => none

def readFlag : Toml → Option Bool
  | .boolean value => some value
  | _ => none

def readText : Toml → Option (Option String)
  | .string value => some (some value)
  | _ => none

variable (serde : Serde)

def decode : (k : Kind) → Toml → Option k.Value
  | .number low high => readNumber low high
  | .flag => readFlag
  | .text => readText
  | .legacy => readText
  | .mode => fun value => (serde.readMode value).map some
  | .users => serde.readUsers

/-- What is written for a value, if anything is. -/
def encode : (k : Kind) → k.Value → Option Toml
  | .number _ _, n => some (.integer n.1)
  | .flag, value => some (.boolean value)
  | .text, value => value.map .string
  | .mode, value => value.map fun mode => .string mode.name
  | .users, value => some (.array (value.map StaticUser.write))
  | .legacy, _ => none

theorem decode_encode {k : Kind} {value : k.Value} {put : Toml}
    (isWritten : encode k value = some put) : decode serde k put = some value := by
  cases k with
  | number low high =>
    cases isWritten
    exact dif_pos value.2
  | flag =>
    cases isWritten
    rfl
  | text =>
    obtain ⟨text, rfl, rfl⟩ := map_eq_some_iff.mp isWritten
    rfl
  | mode =>
    obtain ⟨mode, rfl, rfl⟩ := map_eq_some_iff.mp isWritten
    exact congrArg (Option.map some) (serde.readMode_name mode)
  | users =>
    cases isWritten
    exact serde.readUsers_write value
  | legacy => cases isWritten

theorem encode_scalar {k : Kind} {value : k.Value} {put : Toml}
    (isWritten : encode k value = some put) : put.isTable = false := by
  cases k with
  | number low high | flag | users => exact some.inj isWritten ▸ rfl
  | text | mode =>
    obtain ⟨value, -, rfl⟩ := map_eq_some_iff.mp isWritten
    rfl
  | legacy => cases isWritten

/-- The value of a field in a document; `base` is for what is not in it. -/
def readField (base : Settings) (document : Toml) (f : Field) : Option f.kind.Value :=
  match document.walk serde.positional [] f.path with
  | .found value => decode serde f.kind value
  | .absent => some (base f)
  | .replaced => some (Settings.default f)
  | .unreadable => none

def has (document : Toml) (f : Field) : Bool :=
  match document.walk serde.positional [] f.path with
  | .found _ => true
  | _ => false

def noDuplicate (document : Toml) : Bool :=
  !(has serde document .bearerToken && has serde document .bearerTokenDeprecated)

def readable (base : Settings) (document : Toml) : Bool :=
  Field.all.all (fun f => (readField serde base document f).isSome) && noDuplicate serde document

/-- **The settings of a document**, with values for what is not in it. -/
def readWith (base : Settings) (document : Toml) : Option Settings :=
  if readable serde base document then
    some fun f => (readField serde base document f).getD (base f)
  else none

def read (document : Toml) : Option Settings := readWith serde .default document

/-- The leaves of the document of some settings. -/
def leaves (c : Settings) (fields : List Field) : List (List String × Toml) :=
  fields.filterMap fun f => (encode f.kind (c f)).map (f.path, ·)

def write (c : Settings) : Toml := Toml.build (leaves c Field.all)

/-- What is left of the settings when they are written and read. -/
def kept (c : Settings) : Settings := fun f =>
  if (encode f.kind (c f)).isSome then c f else Settings.default f

/-! ### A partial document over the current settings -/

theorem paths_apart : ∀ f ∈ Field.all, ∀ g ∈ Field.all, f = g ∨ Toml.Apart f.path g.path := by
  decide

theorem eq_or_apart (f g : Field) : f = g ∨ Toml.Apart f.path g.path :=
  paths_apart f f.mem_all g g.mem_all

theorem eq_of_path {f g : Field} (same : f.path = g.path) : f = g :=
  (eq_or_apart f g).resolve_right fun apart => apart.1 (same ▸ prefix_rfl)

theorem path_ne_nil (f : Field) : f.path ≠ [] := by
  cases f <;> exact cons_ne_nil _ _

theorem mem_leaves {c : Settings} {fields : List Field} {leaf : List String × Toml}
    (mem : leaf ∈ leaves c fields) :
    ∃ f, leaf.1 = f.path ∧ encode f.kind (c f) = some leaf.2 := by
  obtain ⟨f, -, isLeaf⟩ := mem_filterMap.mp mem
  obtain ⟨put, isWritten, rfl⟩ := map_eq_some_iff.mp isLeaf
  exact ⟨f, rfl, isWritten⟩

theorem leaf_ne_nil {c : Settings} {fields : List Field} : ∀ leaf ∈ leaves c fields, leaf.1 ≠ [] := by
  intro leaf mem
  obtain ⟨g, isPath, -⟩ := mem_leaves mem
  rw [isPath]
  exact path_ne_nil g

theorem lookup_leaves (c : Settings) (f : Field) (fields : List Field) :
    (leaves c fields).lookup f.path = if f ∈ fields then encode f.kind (c f) else none := by
  induction fields with
  | nil => rfl
  | cons g rest before =>
    unfold leaves at before ⊢
    rw [filterMap_cons]
    by_cases same : f = g
    · subst same
      cases put : encode f.kind (c f) <;> simp [before, put, Toml.lookup_cons_eq]
    · have apart : f.path ≠ g.path := fun equal => same (eq_of_path equal)
      cases encode g.kind (c g) <;> simp [before, same, apart, Toml.lookup_cons_eq]

theorem walk_write (c : Settings) (f : Field) :
    ((write c).walk serde.positional [] f.path =
      match encode f.kind (c f) with
      | some value => .found value
      | none => .absent) ∧ (write c).Plain f.path := by
  have fits : ∀ leaf ∈ leaves c Field.all, f.path = leaf.1 ∨ Toml.Apart f.path leaf.1 := by
    intro leaf mem
    obtain ⟨g, isPath, -⟩ := mem_leaves mem
    rw [isPath]
    exact (eq_or_apart f g).imp_left (congrArg Field.path)
  have scalar : ∀ leaf ∈ leaves c Field.all, leaf.2.isTable = false := by
    intro leaf mem
    obtain ⟨g, -, isWritten⟩ := mem_leaves mem
    exact encode_scalar isWritten
  have put := @Toml.walk_build _ serde.positional _ leaf_ne_nil scalar [] (path_ne_nil f) fits
  rwa [lookup_leaves, if_pos f.mem_all] at put

theorem write_table (c : Settings) : ∃ entries, write c = .table entries :=
  Toml.build_table leaf_ne_nil

variable {partialEntries : List (String × Toml)}

theorem walk_merged (c : Settings) (wf : (Toml.table partialEntries).WellFormed) (f : Field) :
    ((write c).merge (.table partialEntries)).walk serde.positional [] f.path =
      match (Toml.table partialEntries).walk serde.positional [] f.path with
      | .absent => (write c).walk serde.positional [] f.path
      | other => other := by
  obtain ⟨found, plain⟩ := walk_write serde c f
  obtain ⟨entries, isTable⟩ := write_table c
  rw [isTable] at found plain ⊢
  refine Toml.walk_merge wf [] (path_ne_nil f) plain fun value isFound => ?_
  rw [found] at isFound
  cases put : encode f.kind (c f) with
  | none => simp [put] at isFound
  | some other =>
    simp only [put, Toml.Walk.found.injEq] at isFound
    exact isFound ▸ encode_scalar put

theorem readField_merged (c : Settings) (wf : (Toml.table partialEntries).WellFormed)
    (f : Field) :
    readField serde .default ((write c).merge (.table partialEntries)) f =
      readField serde (kept c) (.table partialEntries) f := by
  unfold readField
  rw [walk_merged serde c wf f]
  cases (Toml.table partialEntries).walk serde.positional [] f.path with
  | found value | replaced | unreadable => rfl
  | absent =>
    rw [(walk_write serde c f).1]
    unfold kept
    cases put : encode f.kind (c f) with
    | none => rfl
    | some value => exact decode_encode serde put

theorem noDuplicate_merged (c : Settings) (wf : (Toml.table partialEntries).WellFormed) :
    noDuplicate serde ((write c).merge (.table partialEntries)) =
      noDuplicate serde (.table partialEntries) := by
  -- the old token is never written, so only the partial document can have it
  have same : ∀ f : Field, f.kind = .legacy →
      has serde ((write c).merge (.table partialEntries)) f = has serde (.table partialEntries) f := by
    intro f legacy
    have unwritten : encode f.kind (c f) = none := by
      generalize c f = value
      revert value
      rw [legacy]
      exact fun _ => rfl
    unfold has
    rw [walk_merged serde c wf f, (walk_write serde c f).1, unwritten]
    cases (Toml.table partialEntries).walk serde.positional [] f.path <;> rfl
  unfold noDuplicate
  rw [same .bearerToken rfl, same .bearerTokenDeprecated rfl]

theorem readWith_congr {base other : Settings} {doc changed : Toml}
    (fields : ∀ f, readField serde base doc f = readField serde other changed f)
    (names : noDuplicate serde doc = noDuplicate serde changed) :
    readWith serde base doc = readWith serde other changed := by
  have same : readable serde base doc = readable serde other changed := by
    unfold readable
    rw [names, funext fields]
  unfold readWith
  rw [same]
  split
  next canRead =>
    congr 1
    funext f
    rw [fields f]
    have read : (readField serde other changed f).isSome = true :=
      all_eq_true.mp (Bool.and_eq_true_iff.mp canRead).1 f f.mem_all
    obtain ⟨value, isValue⟩ := isSome_iff_exists.mp read
    rw [isValue]
    rfl
  next => rfl

/-- **A partial document laid over the current settings** is the partial document, read with the current
settings for what is not in it. -/
theorem read_merge (c : Settings) (wf : (Toml.table partialEntries).WellFormed) :
    read serde ((write c).merge (.table partialEntries)) =
      readWith serde (kept c) (.table partialEntries) :=
  readWith_congr serde (readField_merged serde c wf) (noDuplicate_merged serde c wf)

theorem read_write (c : Settings) : read serde (write c) = some (kept c) := by
  have fields : ∀ f, readField serde .default (write c) f = some (kept c f) := by
    intro f
    unfold readField kept
    rw [(walk_write serde c f).1]
    cases put : encode f.kind (c f) with
    | none => rfl
    | some value => exact decode_encode serde put
  have names : noDuplicate serde (write c) = true := by
    unfold noDuplicate has
    rw [(walk_write serde c .bearerToken).1]
    rfl
  have canRead : readable serde .default (write c) = true :=
    Bool.and_eq_true_iff.mpr ⟨all_eq_true.mpr fun f _ => by rw [fields f]; rfl, names⟩
  unfold read readWith
  rw [if_pos canRead]
  congr 1
  funext f
  rw [fields f]
  rfl

/-! ### The checks -/

def failing (failed : Prop) [Decidable failed] (message : String) : List String :=
  if failed then [message] else []

def errorOf : Except String Unit → List String
  | .ok _ => []
  | .error message => [message]

namespace Settings

variable (c : Settings)

def validateMcp : List String :=
  let tool := (c .mcpToolTimeoutMs).1
  let bridge := (c .mcpBridgeTimeoutMs).1
  let interval := (c .mcpHeartbeatIntervalSecs).1
  let timeout := (c .mcpHeartbeatTimeoutSecs).1
  let cleanup := (c .mcpCleanupIntervalSecs).1
  failing (bridge ≤ tool) ("mcp.tool_timeout_ms (" ++ toString tool ++
      ") must be less than mcp.bridge_timeout_ms (" ++ toString bridge ++ ")") ++
    failing (timeout ≤ interval) ("mcp.heartbeat_interval_secs (" ++ toString interval ++
      ") must be less than mcp.heartbeat_timeout_secs (" ++ toString timeout ++ ")") ++
    failing (timeout < cleanup) ("mcp.cleanup_interval_secs (" ++ toString cleanup ++
      ") should not exceed mcp.heartbeat_timeout_secs (" ++ toString timeout ++ ")")

def validateAgainstConnectionTimeout : List String :=
  let bridge := (c .mcpBridgeTimeoutMs).1
  let connection := (c .adapterConnectionTimeoutMs).1
  failing (bridge ≤ connection) ("mcp.bridge_timeout_ms (" ++ toString bridge ++
    ") must be greater than adapter.connection_timeout_ms (" ++ toString connection ++
    ") to allow proper error propagation from adapter connections")

def maxRateLimitBurst : Int := 10000

def validateRateLimit : Except String Unit :=
  let enabled : Bool := c .rateLimitEnabled
  let burst := (c .rateLimitBurstSize).1
  if !enabled then .ok ()
  else if (c .rateLimitPerSecond).1 = 0 then .error "rate_limit.per_second must be greater than 0"
  else if burst = 0 then .error "rate_limit.burst_size must be greater than 0"
  else if maxRateLimitBurst < burst then
    .error ("rate_limit.burst_size (" ++ toString burst ++ ") exceeds maximum reasonable value (" ++
      toString maxRateLimitBurst ++ ")")
  else .ok ()

def validateStreaming : Except String Unit :=
  let ping := (c .wsPingIntervalMs).1
  let pong := (c .wsPongTimeoutMs).1
  let idle := (c .wsIdleTimeoutMs).1
  if 0 < ping ∧ 0 < pong ∧ ping ≤ pong then
    .error ("ws_pong_timeout_ms (" ++ toString pong ++ ") must be less than ws_ping_interval_ms (" ++
      toString ping ++ ")")
  else if 0 < idle ∧ 0 < ping ∧ idle ≤ ping then
    .error ("ws_idle_timeout_ms (" ++ toString idle ++
      ") should be greater than ws_ping_interval_ms (" ++ toString ping ++ ")")
  else if (c .maxWsConnectionsPerIp).1 = 0 then
    .error "max_ws_connections_per_ip must be greater than 0"
  else .ok ()

/-- The authentication section, as far as it is checked. -/
def auth : AuthConfig where
  mode := c .authMode
  users := c .authUsers
  jwt :=
    { JwtConfig.default with
      jwksUrl := c .jwksUrl
      adminRoleClaim := c .adminRoleClaim
      adminRoleValue := c .adminRoleValue }
  bearerTokenDeprecated := or (c .bearerTokenDeprecated) (c .bearerToken)

def validateCors : Except String Unit :=
  let all : Bool := c .corsAllowAll
  let credentials : Bool := c .corsAllowCredentials
  if all && credentials then
    .error ("api.rest.cors: Cannot use allow_all=true with allow_credentials=true. " ++
      "This is a CORS security restriction.")
  else .ok ()

/-- A number of bytes that must be a multiple of eight. -/
def validateAligned (name : String) (bytes : Int) : List String :=
  if bytes = 0 then ["ebpf." ++ name ++ " must be > 0"]
  else failing (¬ 8 ∣ bytes) ("ebpf." ++ name ++
    " must be a multiple of 8 for struct alignment, got " ++ toString bytes)

def validateEbpf : List String :=
  let vars := (c .ebpfMaxCaptureVars).1
  let strings := (c .ebpfStringCaptureBytes).1
  let blob := (c .ebpfBlobCaptureBytes).1
  let depth := (c .ebpfMaxCaptureDepth).1
  failing (vars = 0) "ebpf.max_capture_vars must be >= 1 (at least one variable required)" ++
    failing (16 < vars)
      "ebpf.max_capture_vars must be <= 16 (higher values may exceed BPF stack limits)" ++
    validateAligned "string_capture_bytes" strings ++
    failing (255 < strings) "ebpf.string_capture_bytes must be <= 255 (BPF verifier bound)" ++
    validateAligned "blob_capture_bytes" blob ++
    failing (32 < depth) ("ebpf.max_capture_depth must be <= 32 (hard safety cap), got " ++
      toString depth) ++
    failing ((c .ebpfMaxArrayValues).1 = 0)
      "ebpf.max_array_values must be >= 1 (at least one element required)" ++
    failing ((c .ebpfMaxStructFields).1 < -1)
      "ebpf.max_struct_fields must be -1 (all fields) or >= 0"

def validateAgent : List String :=
  let interval := (c .agentReconnectIntervalSecs).1
  let longest := (c .agentReconnectMaxIntervalSecs).1
  failing (longest < interval) ("agent.reconnect_interval_secs (" ++ toString interval ++
    ") must be ≤ reconnect_max_interval_secs (" ++ toString longest ++ ")")

/-- `validate_config`: all errors, in their order. -/
def validateConfig : List String :=
  failing ((c .storagePoolSize).1 = 0) "storage.pool_size must be greater than 0" ++
    failing ((c .limitsMaxExpressionLength).1 = 0)
      "limits.max_expression_length must be greater than 0" ++
    failing ((c .limitsMaxExpressionsPerMetric).1 = 0)
      "limits.max_expressions_per_metric must be greater than 0" ++
    failing ((c .apiEventBufferCapacity).1 = 0) "api.event_buffer_capacity must be greater than 0" ++
    c.validateMcp ++ c.validateAgainstConnectionTimeout ++ errorOf c.validateRateLimit ++
    errorOf c.validateStreaming ++ errorOf c.auth.validate ++ errorOf c.validateCors ++
    c.validateEbpf ++ c.validateAgent

def Valid : Prop := c.validateConfig = []

instance : Decidable c.Valid := inferInstanceAs (Decidable (c.validateConfig = []))

end Settings

theorem default_valid : Settings.default.Valid := by
  decide

end Detrix.Config
