/-
**The check of bearer tokens, with and without network.**

`authenticate_token` may fetch the key set of the identity provider; `authenticate_token_sync` reads
the cached keys only. Both share the cache: it holds the keys of the set that the provider had when
they were fetched, and only the first one looks at its age.

- `JwksValidator.validateToken_of_sync`: where the second one accepts, the first one reads the same
  claims exactly if the cache is fresh, or the present set has a key of that id under which the token
  verifies.
- `cached_keys_published`: in every history, the cached keys are those of a set that was published
  when they were fetched.
- `sync_accepts_iff`: the two together.
-/

import Detrix.Config.Auth
import Detrix.Library.Run

namespace Detrix.Auth

open Library Config Option

/-! ### Claims and roles -/

inductive ClaimValue where
  | string (text : String)
  | array (items : List ClaimValue)
  | object (fields : List (String × ClaimValue))
  /-- A null, a number or a boolean. -/
  | other

namespace ClaimValue

/-- `Value::get` with a key. -/
def get (key : String) : ClaimValue → Option ClaimValue
  | object fields => fields.lookup key
  | _ => none

def asStr : ClaimValue → Option String
  | string text => some text
  | _ => none

end ClaimValue

/-- `JwtClaims`; the claims that only the library reads are left out. -/
structure JwtClaims where
  sub : Option String
  roles : List String
  extra : List (String × ClaimValue)

def getClaimValue (root : ClaimValue) (path : String) : Option ClaimValue :=
  (Text.split '.' path).foldlM (fun node key => node.get key) root

def resolveJwtRole (claims : JwtClaims) (config : JwtConfig) : UserRole :=
  match config.adminRoleClaim, config.adminRoleValue with
  | some claimName, some claimValue =>
    if claimName = "roles" then if claimValue ∈ claims.roles then .admin else .user
    else match getClaimValue (.object claims.extra) claimName with
      | some (.string text) => if text = claimValue then .admin else .user
      | some (.array items) =>
        if items.any fun item => item.asStr = some claimValue then .admin else .user
      | _ => .user
  | _, _ => .user

/-! ### The validator -/

inductive Algorithm where
  | rs256
  | other (name : String)
  deriving DecidableEq

structure Header where
  kid : Option String
  alg : Algorithm

inductive JwtError where
  | fetchError (detail : String)
  | parseError (detail : String)
  | keyNotFound (kid : String)
  | invalidHeader (detail : String)
  | validationFailed (detail : String)
  | unsupportedAlgorithm (alg : Algorithm)

/-- The issuer and the audience that are asked for. -/
structure Validation where
  issuer : Option String
  audience : Option String

/-- **The library that reads tokens**, and the hash of static tokens. A token verifies under a key or
not; its claims are read and checked without the key, by the wall clock. -/
structure Env (Key : Type) where
  decodeHeader : String → Except String Header
  verifies : Key → String → Bool
  readClaims : Validation → Int → String → Except String JwtClaims
  digest : String → String

/-- A key of the provider's set: its id, and the key unless it cannot be used. -/
structure Jwk (Key : Type) where
  kid : Option String
  key : Option Key

def usable {Key : Type} (set : List (Jwk Key)) : List (String × Key) :=
  set.filterMap fun jwk =>
    match jwk.kid, jwk.key with
    | some kid, some key => some (kid, key)
    | _, _ => none

/-- The key of an id; one that comes later in the set replaces an earlier one. -/
def lookupKey {Key : Type} (keys : List (String × Key)) (kid : String) : Option Key :=
  keys.reverse.lookup kid

structure JwksCache (Key : Type) where
  keys : List (String × Key)
  fetchedAt : Int

def seconds (n : Nat) : Int := n * 1000000000

namespace JwksCache

/-- A new cache is empty and expired. -/
def new (Key : Type) (now : Int) : JwksCache Key := ⟨[], now - seconds 3600⟩

def isExpired {Key : Type} (cache : JwksCache Key) (now ttl : Int) : Bool :=
  ttl < now - cache.fetchedAt

end JwksCache

structure JwksValidator (Key : Type) where
  issuer : Option String
  audience : Option String
  cacheTtl : Int
  cache : JwksCache Key

namespace JwksValidator

variable {Key : Type}

def new (config : JwtConfig) (now : Int) : Option (JwksValidator Key) :=
  config.jwksUrl.map fun _ =>
    ⟨config.issuer, config.audience, seconds config.cacheTtlSeconds, .new Key now⟩

variable (v : JwksValidator Key)

/-- `refresh_keys`, with what the provider has answered. -/
def refreshKeys (now : Int) :
    Except JwtError (List (Jwk Key)) → Except JwtError Unit × JwksValidator Key
  | .error e => (.error e, v)
  | .ok set =>
    if (usable set).isEmpty then (.error (.parseError "No valid keys found in JWKS"), v)
    else (.ok (), { v with cache := ⟨usable set, now⟩ })

def cachedKey (kid : String) : Except JwtError Key :=
  match lookupKey v.cache.keys kid with
  | some key => .ok key
  | none => .error (.keyNotFound kid)

def getDecodingKey (now : Int) (answer : Except JwtError (List (Jwk Key)))
    (kid : String) : Except JwtError Key × JwksValidator Key :=
  match v.cache.isExpired now v.cacheTtl, lookupKey v.cache.keys kid with
  | false, some key => (.ok key, v)
  | _, _ =>
    match v.refreshKeys now answer with
    | (.error e, after) => (.error e, after)
    | (.ok _, after) => (after.cachedKey kid, after)

/-- The checks of the header; the id of the key. -/
def checkHeader (env : Env Key) (token : String) : Except JwtError String :=
  match env.decodeHeader token with
  | .error e => .error (.invalidHeader e)
  | .ok header =>
    match header.kid with
    | none => .error (.invalidHeader "Missing kid in token header")
    | some kid => if header.alg = .rs256 then .ok kid else .error (.unsupportedAlgorithm header.alg)

/-- `decode`: the signature, then the claims. -/
def decode (env : Env Key) (wall : Int) (token : String) (key : Key) :
    Except JwtError JwtClaims :=
  if env.verifies key token then
    match env.readClaims ⟨v.issuer, v.audience⟩ wall token with
    | .ok claims => .ok claims
    | .error e => .error (.validationFailed e)
  else .error (.validationFailed "InvalidSignature")

def validateToken (env : Env Key) (now wall : Int)
    (answer : Except JwtError (List (Jwk Key))) (token : String) :
    Except JwtError JwtClaims × JwksValidator Key :=
  match checkHeader env token with
  | .error e => (.error e, v)
  | .ok kid =>
    match v.getDecodingKey now answer kid with
    | (.error e, after) => (.error e, after)
    | (.ok key, after) => (after.decode env wall token key, after)

def validateTokenSync (env : Env Key) (wall : Int) (token : String) :
    Except JwtError JwtClaims :=
  match checkHeader env token with
  | .error e => .error e
  | .ok kid =>
    match v.cachedKey kid with
    | .error e => .error e
    | .ok key => v.decode env wall token key

end JwksValidator

/-! ### The two checks -/

structure AuthState (Key : Type) where
  config : AuthConfig
  jwtValidator : Option (JwksValidator Key)

inductive AuthError where
  | unauthenticated (detail : String)
  | internal (detail : String)

structure AuthenticatedUser where
  userId : String
  role : UserRole

def AuthenticatedUser.defaultAdmin : AuthenticatedUser := ⟨"default", .admin⟩

variable {Key : Type}

def staticUser (env : Env Key) (config : AuthConfig) (token : String) :
    Except AuthError AuthenticatedUser :=
  match config.findUserByToken env.digest token with
  | some user => .ok ⟨user.userId, user.role⟩
  | none => .error (.unauthenticated "Invalid token")

def claimedUser (config : AuthConfig) :
    Except JwtError JwtClaims → Except AuthError AuthenticatedUser
  | .error _ => .error (.unauthenticated "JWT validation failed")
  | .ok claims =>
    match claims.sub with
    | none => .error (.unauthenticated "JWT missing 'sub' claim")
    | some userId => .ok ⟨userId, resolveJwtRole claims config.jwt⟩

def notConfigured : AuthError := .internal "Authentication not configured"

/-- `authenticate_token`, with the answer of the provider in case it is asked. -/
def authenticateToken (env : Env Key) (now wall : Int)
    (answer : Except JwtError (List (Jwk Key))) (state : AuthState Key) (token : String) :
    Except AuthError AuthenticatedUser × AuthState Key :=
  match state.config.effectiveMode with
  | .simple => (staticUser env state.config token, state)
  | .external =>
    match state.jwtValidator with
    | none => (.error notConfigured, state)
    | some v =>
      let validated := v.validateToken env now wall answer token
      (claimedUser state.config validated.1, { state with jwtValidator := some validated.2 })
  | .disabled => (.ok .defaultAdmin, state)

def authenticateTokenSync (env : Env Key) (wall : Int) (state : AuthState Key) (token : String) :
    Except AuthError AuthenticatedUser :=
  match state.config.effectiveMode with
  | .simple => staticUser env state.config token
  | .external =>
    match state.jwtValidator with
    | none => .error notConfigured
    | some v => claimedUser state.config (v.validateTokenSync env wall token)
  | .disabled => .ok .defaultAdmin

/-! ### What each check accepts -/

/-- The keys have one under the id that the token names, and the token verifies under it. -/
def vouches (env : Env Key) (keys : List (String × Key)) (token : String) : Bool :=
  match JwksValidator.checkHeader env token with
  | .error _ => false
  | .ok kid =>
    match lookupKey keys kid with
    | some key => env.verifies key token
    | none => false

variable {v : JwksValidator Key} {env : Env Key} {token : String} {wall now : Int} {set : List (Jwk Key)}
  {claims : JwtClaims}

theorem vouches_iff {keys : List (String × Key)} : vouches env keys token = true ↔
    ∃ kid key, JwksValidator.checkHeader env token = .ok kid ∧ lookupKey keys kid = some key ∧
      env.verifies key token := by
  unfold vouches
  cases JwksValidator.checkHeader env token with
  | error e => simp
  | ok kid => cases found : lookupKey keys kid <;> simp [found]

namespace JwksValidator

theorem decode_eq_ok_iff {key : Key} :
    v.decode env wall token key = .ok claims ↔
      env.verifies key token ∧ env.readClaims ⟨v.issuer, v.audience⟩ wall token = .ok claims := by
  unfold decode
  by_cases signed : env.verifies key token = true
  · rw [if_pos signed]
    cases env.readClaims ⟨v.issuer, v.audience⟩ wall token <;> simp [signed]
  · simp [signed]

theorem validateTokenSync_eq_ok_iff :
    v.validateTokenSync env wall token = .ok claims ↔
      vouches env v.cache.keys token ∧
        env.readClaims ⟨v.issuer, v.audience⟩ wall token = .ok claims := by
  unfold validateTokenSync
  cases header : checkHeader env token with
  | error e => simp [vouches_iff, header]
  | ok kid =>
    simp only [vouches_iff, header, cachedKey]
    cases found : lookupKey v.cache.keys kid <;> simp [decode_eq_ok_iff, found]

/-- The key that is used for an id when the provider answers with the set. -/
def keyFor (v : JwksValidator Key) (now : Int) (set : List (Jwk Key)) (kid : String) : Option Key :=
  if v.cache.isExpired now v.cacheTtl = false ∧ (lookupKey v.cache.keys kid).isSome then
    lookupKey v.cache.keys kid
  else lookupKey (usable set) kid

theorem refreshKeys_settings (v : JwksValidator Key) (now : Int)
    (answer : Except JwtError (List (Jwk Key))) :
    (v.refreshKeys now answer).2.issuer = v.issuer ∧
      (v.refreshKeys now answer).2.audience = v.audience := by
  unfold refreshKeys
  cases answer with
  | error e => exact ⟨rfl, rfl⟩
  | ok set =>
    by_cases empty : (usable set).isEmpty = true
    · simp [empty]
    · simp [empty]

theorem getDecodingKey_after (v : JwksValidator Key) (now : Int)
    (answer : Except JwtError (List (Jwk Key))) (kid : String) :
    (v.getDecodingKey now answer kid).2 = v ∨
      (v.getDecodingKey now answer kid).2 = (v.refreshKeys now answer).2 := by
  unfold getDecodingKey
  split
  · exact .inl rfl
  · rcases v.refreshKeys now answer with ⟨_ | _, after⟩
    · exact .inr rfl
    · exact .inr rfl

theorem refreshed_key (v : JwksValidator Key) (now : Int) (set : List (Jwk Key)) (kid : String)
    (key : Key) :
    (match v.refreshKeys now (.ok set) with
      | (.error e, after) => ((.error e : Except JwtError Key), after)
      | (.ok _, after) => (after.cachedKey kid, after)).1 = .ok key ↔
        lookupKey (usable set) kid = some key := by
  unfold refreshKeys
  by_cases empty : (usable set).isEmpty = true
  · have none : usable set = [] := List.isEmpty_iff.mp empty
    simp [none, lookupKey]
  · simp only [empty, Bool.false_eq_true, if_false, cachedKey]
    cases lookupKey (usable set) kid <;> simp

theorem getDecodingKey_eq_ok_iff (v : JwksValidator Key) (now : Int) (set : List (Jwk Key))
    (kid : String) (key : Key) :
    (v.getDecodingKey now (.ok set) kid).1 = .ok key ↔ v.keyFor now set kid = some key := by
  unfold getDecodingKey keyFor
  cases age : v.cache.isExpired now v.cacheTtl <;> cases lookupKey v.cache.keys kid
  · simpa using v.refreshed_key now set kid key
  · simp
  · simpa using v.refreshed_key now set kid key
  · simpa using v.refreshed_key now set kid key

theorem validateToken_eq_ok_iff :
    (v.validateToken env now wall (.ok set) token).1 = .ok claims ↔
      (∃ kid key, checkHeader env token = .ok kid ∧ v.keyFor now set kid = some key ∧
        env.verifies key token) ∧
        env.readClaims ⟨v.issuer, v.audience⟩ wall token = .ok claims := by
  unfold validateToken
  cases header : checkHeader env token with
  | error e => simp
  | ok kid =>
    have used := fun key => v.getDecodingKey_eq_ok_iff now set kid key
    have settings : (v.getDecodingKey now (.ok set) kid).2.issuer = v.issuer ∧
        (v.getDecodingKey now (.ok set) kid).2.audience = v.audience := by
      rcases v.getDecodingKey_after now (.ok set) kid with same | refreshed
      · rw [same]
        exact ⟨rfl, rfl⟩
      · rw [refreshed]
        exact v.refreshKeys_settings now (.ok set)
    simp only
    revert used settings
    rcases v.getDecodingKey now (.ok set) kid with ⟨e | key, after⟩
    · intro used _
      have unknown : v.keyFor now set kid = none :=
        eq_none_iff_forall_ne_some.mpr fun key found => by simpa using (used key).mpr found
      simp [unknown]
    · intro used settings
      have found : v.keyFor now set kid = some key := (used key).mp rfl
      obtain ⟨issuer, audience⟩ : after.issuer = v.issuer ∧ after.audience = v.audience := settings
      simp [decode_eq_ok_iff, issuer, audience, found]

/-- **What vouches for a token that the check with network accepts**: the cached keys while they are
fresh, or the set of the provider. -/
theorem vouched_of_validateToken
    (ok : (v.validateToken env now wall (.ok set) token).1 = .ok claims) :
    (v.cache.isExpired now v.cacheTtl = false ∧ vouches env v.cache.keys token) ∨
      vouches env (usable set) token := by
  obtain ⟨⟨kid, key, header, found, signed⟩, -⟩ := validateToken_eq_ok_iff.mp ok
  unfold keyFor at found
  split at found
  next fresh => exact .inl ⟨fresh.1, vouches_iff.mpr ⟨kid, key, header, found, signed⟩⟩
  next => exact .inr (vouches_iff.mpr ⟨kid, key, header, found, signed⟩)

/-- **A token that the check without network accepts**, at the other one. -/
theorem validateToken_of_sync (ok : v.validateTokenSync env wall token = .ok claims) :
    (v.validateToken env now wall (.ok set) token).1 = .ok claims ↔
      v.cache.isExpired now v.cacheTtl = false ∨ vouches env (usable set) token := by
  constructor
  · intro also
    exact (vouched_of_validateToken also).imp_left And.left
  · intro vouched
    obtain ⟨cached, read⟩ := validateTokenSync_eq_ok_iff.mp ok
    refine validateToken_eq_ok_iff.mpr ⟨?_, read⟩
    cases age : v.cache.isExpired now v.cacheTtl with
    | false =>
      obtain ⟨kid, key, header, found, signed⟩ := vouches_iff.mp cached
      exact ⟨kid, key, header, by simp [keyFor, age, found], signed⟩
    | true =>
      obtain ⟨kid, key, header, found, signed⟩ := vouches_iff.mp (vouched.resolve_left (by simp [age]))
      exact ⟨kid, key, header, by simp [keyFor, age, found], signed⟩

end JwksValidator

open JwksValidator

/-! ### Histories -/

/-- The clock, the sets that the provider has published with the times (the newest first), and the
state of the server. -/
structure World (Key : Type) where
  now : Int
  published : List (Int × List (Jwk Key))
  auth : AuthState Key

inductive Event (Key : Type) where
  | elapse (duration : Nat)
  | publish (set : List (Jwk Key))
  /-- `force_refresh`; the provider answers with its set, or there is a failure. -/
  | forceRefresh (failure : Option JwtError)
  | authenticate (token : String) (wall : Int) (failure : Option JwtError)

def AuthState.forceRefresh (state : AuthState Key) (now : Int)
    (answer : Except JwtError (List (Jwk Key))) : AuthState Key :=
  { state with jwtValidator := state.jwtValidator.map fun v => (v.refreshKeys now answer).2 }

namespace World

def new (config : AuthConfig) (now : Int) (set : List (Jwk Key)) : World Key :=
  ⟨now, [(now, set)], config,
    if config.mode = some .external then JwksValidator.new config.jwt now else none⟩

def present (w : World Key) : List (Jwk Key) :=
  match w.published with
  | [] => []
  | (_, set) :: _ => set

def answer (w : World Key) : Option JwtError → Except JwtError (List (Jwk Key))
  | some failure => .error failure
  | none => .ok w.present

def step (env : Env Key) (w : World Key) : Event Key → World Key
  | .elapse duration => { w with now := w.now + duration }
  | .publish set => { w with published := (w.now, set) :: w.published }
  | .forceRefresh failure => { w with auth := w.auth.forceRefresh w.now (w.answer failure) }
  | .authenticate token wall failure =>
    { w with auth := (authenticateToken env w.now wall (w.answer failure) w.auth token).2 }

end World

/-- The sets that were in force at the time or later. -/
def inForceSince (since : Int) : List (Int × List (Jwk Key)) → List (List (Jwk Key))
  | [] => []
  | (time, set) :: older => set :: if since ≤ time then inForceSince since older else []

/-- The cached keys are those of a set that was in force when they were fetched. -/
def Fetched (w : World Key) (v : JwksValidator Key) : Prop :=
  v.cache.keys = [] ∨ (v.cache.fetchedAt ≤ w.now ∧
    ∀ since ≤ v.cache.fetchedAt, ∃ set ∈ inForceSince since w.published, v.cache.keys = usable set)

variable {w : World Key}

theorem present_mem_inForceSince (some : usable w.present ≠ []) (since : Int) :
    w.present ∈ inForceSince since w.published := by
  unfold World.present at *
  cases published : w.published with
  | nil => simp [published, usable] at some
  | cons newest older => simp [inForceSince]

section
variable (fetched : Fetched w v)
include fetched

theorem fetched_elapse (duration : Nat) : Fetched { w with now := w.now + duration } v := by
  refine fetched.imp_right ?_
  rintro ⟨past, inForce⟩
  refine ⟨?_, inForce⟩
  show v.cache.fetchedAt ≤ w.now + duration
  omega

theorem fetched_publish (set : List (Jwk Key)) :
    Fetched { w with published := (w.now, set) :: w.published } v := by
  refine fetched.imp_right ?_
  rintro ⟨past, inForce⟩
  refine ⟨past, fun since early => ?_⟩
  obtain ⟨source, among, same⟩ := inForce since early
  refine ⟨source, ?_, same⟩
  have long : since ≤ w.now := Int.le_trans early past
  simp only [inForceSince, if_pos long]
  exact List.mem_cons_of_mem _ among

theorem fetched_refreshKeys (failure : Option JwtError) :
    Fetched w (v.refreshKeys w.now (w.answer failure)).2 := by
  cases failure with
  | some e => exact fetched
  | none =>
    show Fetched w (v.refreshKeys w.now (.ok w.present)).2
    unfold refreshKeys
    by_cases empty : (usable w.present).isEmpty = true
    · simpa [empty] using fetched
    · have some : usable w.present ≠ [] := fun none => empty (List.isEmpty_iff.mpr none)
      simp only [empty, reduceIte]
      exact .inr ⟨Int.le_refl _, fun since _ => ⟨w.present, present_mem_inForceSince some since, rfl⟩⟩

theorem fetched_validateToken (env : Env Key) (wall : Int) (failure : Option JwtError)
    (token : String) :
    Fetched w (v.validateToken env w.now wall (w.answer failure) token).2 := by
  unfold validateToken
  cases checkHeader env token with
  | error e => exact fetched
  | ok kid =>
    have after : Fetched w (v.getDecodingKey w.now (w.answer failure) kid).2 := by
      rcases v.getDecodingKey_after w.now (w.answer failure) kid with same | refreshed
      · rw [same]
        exact fetched
      · rw [refreshed]
        exact fetched_refreshKeys fetched failure
    simp only
    revert after
    rcases v.getDecodingKey w.now (w.answer failure) kid with ⟨_ | _, validator⟩
    · exact id
    · exact id

end

def Consistent (w : World Key) : Prop := ∀ v ∈ w.auth.jwtValidator, Fetched w v

theorem consistent_step (env : Env Key) (w : World Key) (event : Event Key)
    (con : Consistent w) : Consistent (w.step env event) := by
  cases event with
  | elapse duration => exact fun v has => fetched_elapse (con v has) duration
  | publish set => exact fun v has => fetched_publish (con v has) set
  | forceRefresh failure =>
    intro v has
    obtain ⟨before, had, rfl⟩ := map_eq_some_iff.mp has
    exact fetched_refreshKeys (w := w) (con before had) failure
  | authenticate token wall failure =>
    intro v has
    have had : (authenticateToken env w.now wall (w.answer failure) w.auth token).2.jwtValidator =
        some v := has
    unfold authenticateToken at had
    split at had
    · exact con v had
    · split at had
      · exact con v had
      next before own =>
        cases had
        exact fetched_validateToken (w := w) (con before own) env wall failure token
    · exact con v had

/-- **Where cached keys come from**, in every history. -/
theorem cached_keys_published (env : Env Key) (config : AuthConfig) (now : Int)
    (set : List (Jwk Key)) (events : List (Event Key)) :
    Consistent (Run.after (World.step env) (.new config now set) events) := by
  refine Run.invariant_always _ (consistent_step env) events _ ?_
  intro v has
  unfold World.new at has
  by_cases external : config.mode = some .external
  · simp only [external, if_true] at has
    obtain ⟨url, -, rfl⟩ := map_eq_some_iff.mp has
    exact .inl rfl
  · simp [external] at has

/-! ### The two checks compared -/

variable {user : AuthenticatedUser}

theorem claimedUser_eq_ok {config : AuthConfig} {read : Except JwtError JwtClaims}
    (accepted : claimedUser config read = .ok user) :
    ∃ claims, read = .ok claims := by
  cases read with
  | error e => simp [claimedUser] at accepted
  | ok claims => exact ⟨claims, rfl⟩

theorem authenticate_external {state : AuthState Key} (env : Env Key) (now wall : Int)
    (answer : Except JwtError (List (Jwk Key))) (token : String)
    (external : state.config.effectiveMode = .external) (has : state.jwtValidator = some v) :
    (authenticateToken env now wall answer state token).1 =
        claimedUser state.config (v.validateToken env now wall answer token).1 ∧
      authenticateTokenSync env wall state token =
        claimedUser state.config (v.validateTokenSync env wall token) := by
  constructor
  · simp [authenticateToken, external, has]
  · simp [authenticateTokenSync, external, has]

theorem authenticate_not_external {state : AuthState Key} (env : Env Key) (now wall : Int)
    (answer : Except JwtError (List (Jwk Key))) (token : String)
    (internal : state.config.effectiveMode ≠ .external) :
    (authenticateToken env now wall answer state token).1 =
      authenticateTokenSync env wall state token := by
  unfold authenticateToken authenticateTokenSync
  cases mode : state.config.effectiveMode with
  | disabled | simple => rfl
  | external => exact absurd mode internal

/-- The check does not use the keys of the provider, or its cache is fresh, or the present set of the
provider vouches for the token. -/
def Confirmed (env : Env Key) (w : World Key) (token : String) : Prop :=
  w.auth.config.effectiveMode ≠ .external ∨
    ∃ v ∈ w.auth.jwtValidator, v.cache.isExpired w.now v.cacheTtl = false ∨
      vouches env (usable w.present) token

/-- **A token accepted without network**, at the check with network. -/
theorem authenticateToken_of_sync
    (ok : authenticateTokenSync env wall w.auth token = .ok user) :
    (authenticateToken env w.now wall (.ok w.present) w.auth token).1 = .ok user ↔
      Confirmed env w token := by
  by_cases external : w.auth.config.effectiveMode = .external
  · cases has : w.auth.jwtValidator with
    | none => simp [authenticateTokenSync, external, has] at ok
    | some v =>
      obtain ⟨online, offline⟩ :=
        authenticate_external env w.now wall (.ok w.present) token external has
      rw [offline] at ok
      rw [online]
      obtain ⟨claims, read⟩ := claimedUser_eq_ok ok
      constructor
      · intro also
        obtain ⟨others, validated⟩ := claimedUser_eq_ok also
        exact .inr ⟨v, has, (vouched_of_validateToken validated).imp_left And.left⟩
      · intro confirmed
        obtain ⟨own, same, vouched⟩ := confirmed.resolve_left (not_not_intro external)
        cases has.symm.trans same
        rw [(validateToken_of_sync read).mpr vouched, ← read]
        exact ok
  · rw [authenticate_not_external env w.now wall _ token external]
    exact ⟨fun _ => .inl external, fun _ => ok⟩

/-- What every set of the last `cache_ttl` refuses, the check with network refuses. -/
theorem authenticateToken_rotated (con : Consistent w) (has : v ∈ w.auth.jwtValidator)
    (external : w.auth.config.effectiveMode = .external) (wall : Int)
    (rotated : ∀ set ∈ inForceSince (w.now - v.cacheTtl) w.published,
      vouches env (usable set) token = false) (user : AuthenticatedUser) :
    (authenticateToken env w.now wall (.ok w.present) w.auth token).1 ≠ .ok user := by
  intro ok
  rw [(authenticate_external env w.now wall (.ok w.present) token external has).1] at ok
  obtain ⟨claims, validated⟩ := claimedUser_eq_ok ok
  have some {keys : List (String × Key)} (vouched : vouches env keys token = true) : keys ≠ [] := by
    rintro rfl
    obtain ⟨_, _, -, found, -⟩ := vouches_iff.mp vouched
    cases found
  rcases vouched_of_validateToken validated with ⟨fresh, vouched⟩ | vouched
  · obtain ⟨-, inForce⟩ := (con v has).resolve_left (some vouched)
    have since : w.now - v.cacheTtl ≤ v.cache.fetchedAt := by
      have age := of_decide_eq_false fresh
      omega
    obtain ⟨set, among, same⟩ := inForce _ since
    rw [same, rotated set among] at vouched
    cases vouched
  · rw [rotated _ (present_mem_inForceSince (some vouched) _)] at vouched
    cases vouched

/-- **The check without network, in every history.** A token that it accepts is accepted by the check
with network, as the same user, exactly if it is confirmed; and the check with network accepts no token
that no set of the last `cache_ttl` vouches for. -/
theorem sync_accepts_iff {Key : Type} (env : Env Key) (config : AuthConfig) (start : Int)
    (first : List (Jwk Key)) (events : List (Event Key)) (wall : Int) (token : String)
    (w : World Key) (reached : w = Run.after (World.step env) (.new config start first) events) :
    (∀ user, authenticateTokenSync env wall w.auth token = .ok user →
      ((authenticateToken env w.now wall (.ok w.present) w.auth token).1 = .ok user ↔
        Confirmed env w token)) ∧
    ∀ v ∈ w.auth.jwtValidator, w.auth.config.effectiveMode = .external →
      (∀ set ∈ inForceSince (w.now - v.cacheTtl) w.published,
        vouches env (usable set) token = false) →
      ∀ user, (authenticateToken env w.now wall (.ok w.present) w.auth token).1 ≠ .ok user := by
  constructor
  · intro user ok
    exact authenticateToken_of_sync ok
  · intro v has external rotated
    have con : Consistent w := reached ▸ cached_keys_published env config start first events
    exact authenticateToken_rotated con has external wall rotated

/-! ### A key that was rotated out -/

/-- Keys are numbers, and every token is signed with the first key, by one user. -/
def sampleEnv : Env Nat where
  decodeHeader _ := .ok ⟨some "first", .rs256⟩
  verifies key _ := key == 1
  readClaims _ _ _ := .ok ⟨some "alice", [], []⟩
  digest := id

def sampleConfig : AuthConfig :=
  ⟨some .external, [], { JwtConfig.default with jwksUrl := some "https://idp/jwks" }, none⟩

/-- The keys are fetched, the first one is replaced, and more than the lifetime of the cache passes. -/
def rotation : List (Event Nat) :=
  [.forceRefresh none, .publish [⟨some "second", some 2⟩], .elapse 301000000000]

def rotatedOut : World Nat :=
  Run.after (World.step sampleEnv) (.new sampleConfig 0 [⟨some "first", some 1⟩]) rotation

theorem sync_accepts_rotated_key :
    rotatedOut.present = [⟨some "second", some 2⟩] ∧
    authenticateTokenSync sampleEnv 0 rotatedOut.auth "token" = .ok ⟨"alice", .user⟩ ∧
    (authenticateToken sampleEnv rotatedOut.now 0 (.ok rotatedOut.present) rotatedOut.auth
      "token").1 = .error (.unauthenticated "JWT validation failed") :=
  ⟨rfl, rfl, rfl⟩

theorem sync_accepts_published_key :
    authenticateTokenSync sampleEnv 0 (Run.after (World.step sampleEnv)
      (.new sampleConfig 0 [⟨some "first", some 1⟩]) [.forceRefresh none]).auth "token" =
        .ok ⟨"alice", .user⟩ ∧
    (authenticateToken sampleEnv 0 0 (.ok [⟨some "first", some 1⟩]) (Run.after (World.step sampleEnv)
      (.new sampleConfig 0 [⟨some "first", some 1⟩]) [.forceRefresh none]).auth "token").1 =
        .ok ⟨"alice", .user⟩ :=
  ⟨rfl, ((sync_accepts_iff sampleEnv sampleConfig 0 [⟨some "first", some 1⟩] [.forceRefresh none] 0
    "token" _ rfl).1 ⟨"alice", .user⟩ rfl).mpr (.inr ⟨_, rfl, .inl rfl⟩)⟩

end Detrix.Auth
