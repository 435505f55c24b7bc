/-
**Which tokens the MCP bridge shows to a daemon.**

The URL of the daemon, its token and the token of the file server are locked fields of their own. A
request reads them one after the other; `switch_daemon` and `try_restart_daemon` write the URL first
and the token later, and the token of the file server is the token of the first daemon for ever. The
operations take turns at every access to a lock.

- `McpBridge.perform`: one access, and what the operation does next.
- `Careful`: a request reads the URL only while no operation has a token still to write; the URL is
  written only while no request has a token still to read, it names its port, and the token of the file
  server was resolved for its host.
- `tokens_shown_to_own_daemon`: in the runs of such steps every token is shown only to a host for which
  it was resolved.
-/

import Detrix.Library.Interleaving
import Detrix.Library.Run

namespace Detrix.Bridge

open Library List Option
open Library.Calls (Pairs)

abbrev Url : Type := String

abbrev Token : Type := String

/-! ### The bridge -/

/-- What the library reads from a URL: the host and port it leads to, and whether it names the port. -/
structure Env where
  hostOf : Url → String
  namesPort : Url → Bool

/-- `extract_host_port`: there is none if the port is left to the scheme. -/
def Env.extractHostPort (env : Env) (url : Url) : Option String :=
  if env.namesPort url then some (env.hostOf url) else none

/-- The headers of an HTTP request that carry tokens. -/
structure Request where
  daemon : Url
  authorization : Option Token
  fileServerToken : Option Token

/-- `McpBridge`, as far as the headers are made of it. The last two fields record for which host each
token was resolved, and what was sent; no operation looks at them. -/
structure McpBridge where
  daemonUrl : Url
  authToken : Option Token
  fileServerUrl : Option Url
  fileServerPort : Nat
  fileServerHost : String
  fileServerToken : Option Token
  resolved : List (String × Token)
  sent : List Request

def httpUrl (host : String) (port : Nat) : Url := "http://" ++ host ++ ":" ++ toString port

def dockerInternalHost : String := "host.docker.internal"

namespace McpBridge

/-- `run` before its loops, with the port of the file server if that could be started. -/
def run (env : Env) (daemonUrl : Url) (authToken : Option Token) (fileServerHost : String)
    (port : Option Nat) : McpBridge where
  daemonUrl
  authToken
  fileServerUrl := port.map (httpUrl fileServerHost)
  fileServerPort := port.getD 0
  fileServerHost
  fileServerToken := port.bind fun _ => authToken
  resolved := authToken.toList.map fun token => (env.hostOf daemonUrl, token)
  sent := []

def send (b : McpBridge) (request : Request) : McpBridge := { b with sent := b.sent ++ [request] }

end McpBridge

/-- The requests with a token. -/
inductive RequestKind where
  /-- `try_forward_request`, which keeps the read locks until it has read everything. -/
  | forward
  /-- `send_heartbeat` and `send_disconnect`, which do so too. -/
  | notice
  /-- A request to a URL that was read before. -/
  | later
  /-- `detect_prefix_from_active_connections`, which is followed by a request about a connection. -/
  | detection

/-- The accesses to the locks, with what the operation has read so far. The two fields of the file server
are read in one: whether there is a URL, and the token, do not change any more. -/
inductive Action where
  | readUrl (kind : RequestKind) (requests : Nat)
  | readToken (kind : RequestKind) (url : Url)
  | readFileServer (url : Url) (token : Option Token)
  | probe
  | checkHealth (url : Url) (fileServerHost : Option String) (token : Option Token)
  | spawnDaemon (url : Url) (token : Option Token)
  | writeUrl (url : Url) (token : Option (Option Token)) (fileServerHost : Option String)
  | writeToken (host : String) (token : Option Token)
  | advertise (host : String)

/-- What follows the new URL: its token, the path mapping of a container, the file server. Without a port
no token is looked for, and that of the previous daemon stays. -/
def afterUrl (env : Env) (url : Url) (token : Option (Option Token)) (host : Option String) : List Action :=
  (token.map (.writeToken (env.hostOf url))).toList ++
    ((if host = some dockerInternalHost then [.readToken .detection url] else []) ++
      (host.map .advertise).toList)

def McpBridge.perform (env : Env) (fails : Bool) (b : McpBridge) : Action → McpBridge × List Action
  | .readUrl kind requests => (b, replicate requests (.readToken kind b.daemonUrl))
  | .readToken .forward url => (b, [.readFileServer url b.authToken])
  | .readToken .detection url =>
    (b.send ⟨url, b.authToken, none⟩, if fails then [] else [.readUrl .later 1])
  | .readToken _ url => (b.send ⟨url, b.authToken, none⟩, [])
  | .readFileServer url token =>
    (b.send ⟨url, token, b.fileServerUrl.bind fun _ => b.fileServerToken⟩, [])
  | .probe => (b.send ⟨b.daemonUrl, none, none⟩, [])
  | .checkHealth url host token =>
    (b.send ⟨url, none, none⟩, if fails then [] else
      [.writeUrl url ((env.extractHostPort url).map fun _ => token) host])
  | .spawnDaemon url token => (b, if fails then [] else [.writeUrl url (some token) none])
  | .writeUrl url token host => ({ b with daemonUrl := url }, afterUrl env url token host)
  | .writeToken host token =>
    ({ b with authToken := token, resolved := token.toList.map (host, ·) ++ b.resolved }, [])
  | .advertise host =>
    ({ b with
      fileServerHost := host
      fileServerUrl := if b.fileServerPort > 0 then some (httpUrl host b.fileServerPort)
        else b.fileServerUrl }, [])

/-- The operations of the two tasks. The tokens are what the credentials say, for the host of the new
URL, when they are asked. -/
inductive Operation where
  | tryForwardRequest
  | sendHeartbeat
  | sendDisconnect
  | isDaemonHealthy
  | autoAttach
  | detectAndStorePrefixMapping
  | tryRestartDaemon (host : String) (port : Nat) (token : Option Token)
  | switchDaemon (url : Url) (fileServerHost : Option String) (token : Option Token)
  | handleSwitchDaemonTool (disableMetrics closeConnections : Bool) (url : Url)
    (fileServerHost : Option String) (token : Option Token)

/-- `trim_end_matches('/')`. -/
def trimSlashes (url : Url) : Url := String.ofList (url.toList.reverse.dropWhile (· = '/')).reverse

def Operation.actions : Operation → List Action
  | tryForwardRequest => [.readUrl .forward 1]
  | sendHeartbeat | sendDisconnect => [.readUrl .notice 1]
  | isDaemonHealthy | autoAttach => [.probe]
  | detectAndStorePrefixMapping => [.readUrl .later 1]
  | tryRestartDaemon host port token => [.spawnDaemon (httpUrl host port) token]
  | switchDaemon url host token => [.checkHealth (trimSlashes url) host token]
  | handleSwitchDaemonTool disableMetrics closeConnections url host token =>
    [.readUrl .later (disableMetrics.toNat + closeConnections.toNat),
      .checkHealth (trimSlashes url) host token]

/-- The bridge and what the operations in progress have still to do. -/
structure System where
  bridge : McpBridge
  calls : List (List Action)

inductive Event where
  | begin (operation : Operation)
  | advance (i : Nat) (fails : Bool)

def holdsUrl : List Action → Bool
  | .readToken .forward _ :: _ | .readToken .notice _ :: _ | .readFileServer _ _ :: _ => true
  | _ => false

def holdsToken : List Action → Bool
  | .readFileServer _ _ :: _ => true
  | _ => false

/-- A writer waits for the readers. -/
def Action.waits (calls : List (List Action)) : Action → Bool
  | .writeUrl _ _ _ => calls.any holdsUrl
  | .writeToken _ _ => calls.any holdsToken
  | _ => false

def System.step (env : Env) (s : System) : Event → System
  | .begin operation => { s with calls := s.calls ++ [operation.actions] }
  | .advance i fails =>
    match s.calls[i]? with
    | some (action :: rest) =>
      if action.waits s.calls then s
      else ⟨(s.bridge.perform env fails action).1,
        s.calls.set i ((s.bridge.perform env fails action).2 ++ rest)⟩
    | _ => s

/-! ### The condition -/

/-- The token, if there is one, was resolved for the host of the URL. -/
def Resolved (env : Env) (b : McpBridge) (url : Url) (token : Option Token) : Prop :=
  ∀ t ∈ token, (env.hostOf url, t) ∈ b.resolved

/-- **The request shows the daemon its own tokens only.** -/
def Request.Own (env : Env) (b : McpBridge) (request : Request) : Prop :=
  Resolved env b request.daemon request.authorization ∧
    Resolved env b request.daemon request.fileServerToken

/-- A token is to be written next: the URL of its daemon is there already. -/
def switches : List Action → Bool
  | .writeToken _ _ :: _ => true
  | _ => false

/-- A request has read the URL, and is to read the token. -/
def Action.reads : Action → Bool
  | .readToken _ _ => true
  | _ => false

/-- **The condition on a step.** That no request which keeps its lock is to read a token while the URL is
written, is what the lock is for. -/
def Careful (env : Env) (s : System) : Event → Prop
  | .begin _ => True
  | .advance i _ =>
    match s.calls[i]? with
    | some (.readUrl _ _ :: _) => ∀ todo ∈ s.calls, switches todo = false
    | some (.writeUrl url token _ :: _) =>
      token.isSome = true ∧ Resolved env s.bridge url s.bridge.fileServerToken ∧
        ∀ todo ∈ s.calls, switches todo = false ∧ ∀ action ∈ todo, action.reads = false
    | _ => True

/-! ### The invariant -/

section Invariant

variable {env : Env} {s : System} {b c : McpBridge} {url other : Url} {token : Option Token} {i : Nat}
  {action : Action} {rest more todo : List Action}

theorem Resolved.mono (grows : b.resolved ⊆ c.resolved) (known : Resolved env b url token) :
    Resolved env c url token :=
  fun t isToken => grows (known t isToken)

theorem resolved_none : Resolved env b url none := nofun

theorem resolved_congr (same : env.hostOf url = env.hostOf other) :
    Resolved env b url token ↔ Resolved env b other token := by
  rw [Resolved, Resolved, same]

/-- What an action has read, or is going to write, fits the bridge. -/
def Action.Fits (env : Env) (b : McpBridge) : Action → Prop
  | .readToken _ url => env.hostOf url = env.hostOf b.daemonUrl
  | .readFileServer url token => Resolved env b url token ∧ Resolved env b url b.fileServerToken
  | .writeToken host _ => host = env.hostOf b.daemonUrl
  | _ => True

/-- The actions of an operation fit, and a token is written right after its URL. -/
structure Sound (env : Env) (b : McpBridge) (todo : List Action) : Prop where
  fits : ∀ action ∈ todo, action.Fits env b
  later : ∀ action ∈ todo.tail, switches [action] = false

/-- Neither a token is to be written nor one to be read. -/
def Quiet (todo : List Action) : Prop := switches todo = false ∧ ∀ action ∈ todo, action.reads = false

def Apart (one other : List Action) : Prop :=
  (switches one = true → Quiet other) ∧ (switches other = true → Quiet one)

/-- **What was sent is own, and so is what will be sent** once no token is still to be written; while one
is, nobody else has a token to read or to write. -/
structure Kept (env : Env) (s : System) : Prop where
  sent : ∀ request ∈ s.bridge.sent, request.Own env s.bridge
  files : Resolved env s.bridge s.bridge.daemonUrl s.bridge.fileServerToken
  token : (∀ todo ∈ s.calls, switches todo = false) →
    Resolved env s.bridge s.bridge.daemonUrl s.bridge.authToken
  sound : ∀ todo ∈ s.calls, Sound env s.bridge todo
  apart : Pairs Apart s.calls

theorem Action.Fits.mono (sameUrl : action.reads = true ∨ switches [action] = true →
    c.daemonUrl = b.daemonUrl) (sameFiles : c.fileServerToken = b.fileServerToken)
    (grows : b.resolved ⊆ c.resolved) (fits : action.Fits env b) : action.Fits env c := by
  cases action with
  | readFileServer url token =>
    refine ⟨fits.1.mono grows, ?_⟩
    rw [sameFiles]
    exact fits.2.mono grows
  | readToken _ url =>
    unfold Action.Fits at fits ⊢
    rw [sameUrl (.inl rfl)]
    exact fits
  | writeToken _ _ =>
    unfold Action.Fits at fits ⊢
    rw [sameUrl (.inr rfl)]
    exact fits
  | _ => trivial

/-- What is to be done after an action begins with a token to be written only if that follows now. -/
theorem Sound.append (sound : Sound env b (action :: rest)) (fits : ∀ next ∈ rest, next.Fits env c)
    (new : Sound env c more) : Sound env c (more ++ rest) ∧ switches (more ++ rest) = switches more := by
  refine ⟨⟨fun next isNext => ?_, fun next isNext => ?_⟩, ?_⟩
  · exact (mem_append.mp isNext).elim (new.fits next) (fits next)
  · cases more with
    | nil => exact sound.later _ (mem_of_mem_tail isNext)
    | cons first more => exact (mem_append.mp isNext).elim (new.later next) (sound.later next)
  · cases more with
    | cons first more => cases first <;> rfl
    | nil =>
      cases rest with
      | nil => rfl
      | cons next rest =>
        have none := sound.later next (.head _)
        cases next <;> first | rfl | cases none

/-- While no other operation moves, it is as it was. -/
theorem others_of_set (none : ∀ todo ∈ s.calls.set i more, switches todo = false)
    (known : s.calls[i]? = some (action :: rest)) (own : switches (action :: rest) = false) :
    ∀ todo ∈ s.calls, switches todo = false := by
  intro todo isIn
  obtain ⟨j, isJ⟩ := mem_iff_getElem?.mp isIn
  by_cases same : j = i
  · subst same
    rw [some.inj (isJ.symm.trans known)]
    exact own
  · exact none _ (mem_of_getElem? ((getElem?_set_ne (Ne.symm same)).trans isJ))

theorem Kept.moved (kept : Kept env s) (known : s.calls[i]? = some (action :: rest))
    (sameUrl : b.daemonUrl = s.bridge.daemonUrl)
    (sameFiles : b.fileServerToken = s.bridge.fileServerToken)
    (grows : s.bridge.resolved ⊆ b.resolved) (sent : ∀ req ∈ b.sent, req.Own env b)
    (token : Resolved env b b.daemonUrl b.authToken ∨
      (b.authToken = s.bridge.authToken ∧ switches (action :: rest) = false))
    (new : Sound env b more) (still : switches more = false)
    (reads : (∀ next ∈ more, next.reads = false) ∨ ∀ todo ∈ s.calls, switches todo = false) :
    Kept env ⟨b, s.calls.set i (more ++ rest)⟩ := by
  have own := kept.sound _ (mem_of_getElem? known)
  obtain ⟨whole, follows⟩ := own.append (fun next isNext => (own.fits next
    (.tail _ isNext)).mono (fun _ => sameUrl) sameFiles grows) new
  refine ⟨sent, ?_, fun none => ?_, fun todo isIn => ?_, ?_⟩
  · rw [sameUrl, sameFiles]
    exact kept.files.mono grows
  · rcases token with fresh | ⟨sameToken, notOwn⟩
    · exact fresh
    · rw [sameUrl, sameToken]
      exact (kept.token (others_of_set none known notOwn)).mono grows
  · rcases mem_or_eq_of_mem_set isIn with old | rfl
    · have sound := kept.sound _ old
      exact ⟨fun next isNext => (sound.fits next isNext).mono (fun _ => sameUrl) sameFiles grows,
        sound.later⟩
    · exact whole
  · refine kept.apart.set (fun _ _ apart => apart.symm) fun j other notI ne => ?_
    rw [Apart, Quiet, Quiet, follows, still]
    refine ⟨nofun, fun isSwitching => ⟨rfl, fun next isNext => ?_⟩⟩
    rcases mem_append.mp isNext with isNew | isOld
    · rcases reads with free | none
      · exact free next isNew
      · exact absurd (none _ (mem_of_getElem? ne)) (by simp [isSwitching])
    · exact ((kept.apart j i _ _ ne known notI).1 isSwitching).2 _ (.tail _ isOld)

theorem Kept.asked (kept : Kept env s) (known : s.calls[i]? = some (action :: rest))
    (same : (b.daemonUrl, b.authToken, b.fileServerToken, b.resolved) =
      (s.bridge.daemonUrl, s.bridge.authToken, s.bridge.fileServerToken, s.bridge.resolved))
    (notOwn : switches (action :: rest) = false)
    (sent : b.sent = s.bridge.sent ∨
      ∃ req, b.sent = s.bridge.sent ++ [req] ∧ req.Own env s.bridge)
    (new : Sound env b more) (still : switches more = false)
    (reads : (∀ next ∈ more, next.reads = false) ∨ ∀ todo ∈ s.calls, switches todo = false) :
    Kept env ⟨b, s.calls.set i (more ++ rest)⟩ := by
  obtain ⟨sameUrl, sameToken, sameFiles, sameResolved⟩ : _ ∧ _ ∧ _ ∧ _ := by simpa using same
  have grows : s.bridge.resolved ⊆ b.resolved := sameResolved ▸ List.Subset.refl _
  refine kept.moved known sameUrl sameFiles grows (fun req isSent => ?_) (.inr ⟨sameToken, notOwn⟩)
    new still reads
  have own : req.Own env s.bridge := by
    rcases sent with old | ⟨last, isNew, own⟩
    · exact kept.sent req (old ▸ isSent)
    · rw [isNew] at isSent
      rcases mem_append.mp isSent with old | isLast
      · exact kept.sent req old
      · rw [mem_singleton.mp isLast]
        exact own
  exact ⟨own.1.mono grows, own.2.mono grows⟩

/-- While a request has a token to read, nobody has one to write. -/
theorem Kept.reads {kind : RequestKind} (kept : Kept env s)
    (known : s.calls[i]? = some (.readToken kind url :: rest)) :
    (∀ todo ∈ s.calls, switches todo = false) ∧ Resolved env s.bridge url s.bridge.authToken := by
  have none : ∀ todo ∈ s.calls, switches todo = false := by
    intro todo isIn
    obtain ⟨j, isJ⟩ := mem_iff_getElem?.mp isIn
    by_cases same : j = i
    · subst same
      rw [some.inj (isJ.symm.trans known)]
      rfl
    · by_contra switching
      have quiet := (kept.apart j i _ _ isJ known same).1 (by simpa using switching)
      exact absurd (quiet.2 _ (.head _)) (by simp [Action.reads])
  have fits := (kept.sound _ (mem_of_getElem? known)).fits _ (.head _)
  exact ⟨none, (resolved_congr fits).mpr (kept.token none)⟩

theorem sound_nil : Sound env b [] := ⟨nofun, nofun⟩

theorem sound_one (fits : action.Fits env b) : Sound env b [action] :=
  ⟨fun _ isAction => mem_singleton.mp isAction ▸ fits, nofun⟩

/-- Nobody has read the old URL and not the token, so that what was read still fits. -/
theorem Sound.newUrl (sound : Sound env b todo) (quiet : Quiet todo) :
    Sound env { b with daemonUrl := url } todo := by
  refine ⟨fun action isAction => Action.Fits.mono (b := b) (fun changes => ?_) rfl (List.Subset.refl _)
    (sound.fits action isAction), sound.later⟩
  rcases changes with reads | writes
  · exact absurd reads (by simp [quiet.2 action isAction])
  · cases todo with
    | nil => cases isAction
    | cons first rest =>
      rcases mem_cons.mp isAction with rfl | later
      · have none := quiet.1
        cases action with
        | writeToken host token => cases none
        | _ => cases writes
      · exact absurd writes (by simp [sound.later action later])

theorem sound_afterUrl {host : Option String} {daemonUrl : Url} (here : b.daemonUrl = daemonUrl) :
    Sound env b (afterUrl env daemonUrl (some token) host) := by
  have others : ∀ action ∈ (afterUrl env daemonUrl (some token) host).tail,
      action = .readToken .detection daemonUrl ∨ ∃ name, action = .advertise name := by
    intro action isAction
    rcases (by simpa [afterUrl] using isAction : (_ ∧ _) ∨ ∃ name, host = some name ∧ _) with
      ⟨-, isDetection⟩ | ⟨name, -, isAdvertise⟩
    · exact .inl isDetection
    · exact .inr ⟨name, isAdvertise.symm⟩
  refine ⟨fun action isAction => ?_, fun action isAction => ?_⟩
  · rcases mem_cons.mp isAction with rfl | later
    · exact congrArg env.hostOf here.symm
    · rcases others action later with rfl | ⟨name, rfl⟩
      · exact congrArg env.hostOf here.symm
      · trivial
  · rcases others action isAction with rfl | ⟨name, rfl⟩ <;> rfl

theorem Kept.writeUrl {host : Option String} (kept : Kept env s)
    (known : s.calls[i]? = some (.writeUrl url (some token) host :: rest))
    (files : Resolved env s.bridge url s.bridge.fileServerToken) (free : ∀ todo ∈ s.calls, Quiet todo) :
    Kept env ⟨{ s.bridge with daemonUrl := url },
      s.calls.set i (afterUrl env url (some token) host ++ rest)⟩ := by
  have old : ∀ todo ∈ s.calls, Sound env { s.bridge with daemonUrl := url } todo :=
    fun todo isIn => (kept.sound todo isIn).newUrl (free todo isIn)
  have own := old _ (mem_of_getElem? known)
  obtain ⟨whole, -⟩ := own.append (fun next isNext => own.fits next (.tail _ isNext))
    (sound_afterUrl rfl)
  refine ⟨kept.sent, files, fun none => ?_, fun todo isIn => ?_, ?_⟩
  · exact absurd (none _ (mem_of_getElem? (Calls.set_self known))) (by simp [afterUrl, switches])
  · rcases mem_or_eq_of_mem_set isIn with isOld | rfl
    · exact old todo isOld
    · exact whole
  · refine kept.apart.set (fun _ _ apart => apart.symm) fun j other notI ne => ?_
    have quiet := free other (mem_of_getElem? ne)
    exact ⟨fun _ => quiet, fun isSwitching => absurd quiet.1 (by simp [isSwitching])⟩

theorem Kept.advance {fails : Bool} (kept : Kept env s) (known : s.calls[i]? = some (action :: rest))
    (careful : Careful env s (.advance i fails)) :
    Kept env ⟨(s.bridge.perform env fails action).1,
      s.calls.set i ((s.bridge.perform env fails action).2 ++ rest)⟩ := by
  simp only [Careful, known] at careful
  have fits := (kept.sound _ (mem_of_getElem? known)).fits _ (.head _)
  have none : ∀ url, Request.Own env s.bridge ⟨url, none, none⟩ :=
    fun _ => ⟨resolved_none, resolved_none⟩
  cases action with
  | readUrl kind requests =>
    refine kept.asked known rfl rfl (.inl rfl) ⟨fun next isNext => ?_, fun next isNext => ?_⟩ ?_
      (.inr careful)
    · rw [eq_of_mem_replicate isNext]
      rfl
    · rw [eq_of_mem_replicate (mem_of_mem_tail isNext)]
      rfl
    · cases requests <;> rfl
  | readToken kind url =>
    obtain ⟨still, var⟩ := kept.reads known
    have own : Request.Own env s.bridge ⟨url, s.bridge.authToken, .none⟩ := ⟨var, resolved_none⟩
    cases kind with
    | forward =>
      exact kept.asked known rfl rfl (.inl rfl)
        (sound_one ⟨var, (resolved_congr fits).mpr kept.files⟩) rfl (.inr still)
    | detection =>
      cases fails with
      | false => exact kept.asked known rfl rfl (.inr ⟨_, rfl, own⟩) (sound_one trivial) rfl (.inr still)
      | true => exact kept.asked known rfl rfl (.inr ⟨_, rfl, own⟩) sound_nil rfl (.inr still)
    | notice | later =>
      exact kept.asked known rfl rfl (.inr ⟨_, rfl, own⟩) sound_nil rfl (.inr still)
  | readFileServer url token =>
    refine kept.asked known rfl rfl (.inr ⟨_, rfl, fits.1, fun t isToken => ?_⟩) sound_nil rfl
      (.inl nofun)
    obtain ⟨-, -, isToken⟩ := bind_eq_some_iff.mp isToken
    exact fits.2 t isToken
  | probe =>
    exact kept.asked known rfl rfl (.inr ⟨_, rfl, none _⟩) sound_nil rfl (.inl nofun)
  | checkHealth url host token =>
    cases fails with
    | false =>
      exact kept.asked known rfl rfl (.inr ⟨_, rfl, none _⟩) (sound_one trivial) rfl
        (.inl (forall_mem_singleton.mpr rfl))
    | true => exact kept.asked known rfl rfl (.inr ⟨_, rfl, none _⟩) sound_nil rfl (.inl nofun)
  | spawnDaemon url token =>
    cases fails with
    | false =>
      exact kept.asked known rfl rfl (.inl rfl) (sound_one trivial) rfl
        (.inl (forall_mem_singleton.mpr rfl))
    | true => exact kept.asked known rfl rfl (.inl rfl) sound_nil rfl (.inl nofun)
  | writeUrl url token host =>
    obtain ⟨hasPort, files, free⟩ := careful
    obtain ⟨token, rfl⟩ := isSome_iff_exists.mp hasPort
    exact kept.writeUrl known files free
  | writeToken host token =>
    have grows : s.bridge.resolved ⊆ token.toList.map (host, ·) ++ s.bridge.resolved :=
      subset_append_right _ _
    refine kept.moved known rfl rfl grows
      (fun req isSent => ⟨(kept.sent req isSent).1.mono grows, (kept.sent req isSent).2.mono grows⟩)
      (.inl fun t isToken => ?_) sound_nil rfl (.inl nofun)
    cases isToken
    show (env.hostOf s.bridge.daemonUrl, t) ∈ _
    rw [← fits]
    exact mem_append_left _ (mem_singleton.mpr rfl)
  | advertise host => exact kept.asked known rfl rfl (.inl rfl) sound_nil rfl (.inl nofun)

theorem Kept.step (event : Event) (careful : Careful env s event) (kept : Kept env s) :
    Kept env (System.step env s event) := by
  cases event with
  | begin operation =>
    have none : ∀ action ∈ operation.actions, action.reads = false ∧ switches [action] = false ∧
        action.Fits env s.bridge := by
      cases operation <;> simp [Operation.actions, Action.reads, Action.Fits, switches]
    have still : switches operation.actions = false := by
      cases operation <;> rfl
    refine ⟨kept.sent, kept.files, fun all => kept.token fun todo isIn =>
      all todo (mem_append_left _ isIn), fun todo isIn => ?_, ?_⟩
    · rcases mem_append.mp isIn with old | new
      · exact kept.sound todo old
      · rw [mem_singleton.mp new]
        exact ⟨fun action isAction => (none action isAction).2.2,
          fun action isAction => (none action (mem_of_mem_tail isAction)).2.1⟩
    · refine kept.apart.append (fun _ _ apart => apart.symm) fun j other _ => ?_
      exact ⟨fun switching => absurd still (by simp [switching]),
        fun _ => ⟨still, fun action isAction => (none action isAction).1⟩⟩
  | advance i fails =>
    simp only [System.step]
    split
    · split
      · exact kept
      · exact kept.advance ‹_› careful
    · exact kept

end Invariant

/-! ### Runs -/

def start (env : Env) (url : Url) (token : Option Token) (host : String) (port : Option Nat) : System :=
  ⟨McpBridge.run env url token host port, []⟩

theorem kept_start (env : Env) (url : Url) (token : Option Token) (host : String) (port : Option Nat) :
    Kept env (start env url token host port) := by
  have known : Resolved env (McpBridge.run env url token host port) url token := by
    intro t isToken
    cases isToken
    exact mem_singleton.mpr rfl
  refine ⟨nofun, ?_, fun _ => known, nofun, nofun⟩
  cases port with
  | none => exact resolved_none
  | some port => exact known

theorem tokens_shown_to_own_daemon (env : Env) (url : Url) (token : Option Token) (host : String)
    (port : Option Nat) (events : List Event)
    (careful : Run.Allowed (System.step env) (Careful env) (start env url token host port) events) :
    ∀ request ∈ (Run.after (System.step env) (start env url token host port) events).bridge.sent,
      request.Own env (Run.after (System.step env) (start env url token host port) events).bridge := by
  exact (Run.invariant_after _ (fun _ event kept careful => .step event careful kept) events _
    (kept_start env url token host port) careful).sent

/-- Hosts that are their URLs; one of them leaves the port to the scheme. -/
def hosts : Env := ⟨id, (· != "portless")⟩

/-- The bridge of a first daemon is switched to another, so far that the URL is written. -/
def switched (url : Url) : List Event :=
  [.begin (.switchDaemon url none (some "second")), .advance 0 false, .advance 0 false]

def heartbeat : List Event := [.begin .sendHeartbeat, .advance 1 false, .advance 1 false]

def shownBy (port : Option Nat) (events : List Event) : McpBridge :=
  (Run.after (System.step hosts) (start hosts "d0" (some "first") "local" port) events).bridge

/-- The token of the first daemon is shown to the next: between the two writes, for ever if the URL of the
next does not name its port, and as the token of the file server for ever in any case. -/
theorem token_shown_to_next_daemon :
    (∃ request ∈ (shownBy none (switched "d1" ++ heartbeat)).sent,
      request.daemon = "d1" ∧ request.authorization = some "first") ∧
    (∃ request ∈ (shownBy none (switched "portless" ++ heartbeat)).sent,
      request.daemon = "portless" ∧ request.authorization = some "first") ∧
    (∃ request ∈ (shownBy (some 1) (switched "d1" ++ [.advance 0 false, .begin .tryForwardRequest,
        .advance 1 false, .advance 1 false, .advance 1 false])).sent,
      request.daemon = "d1" ∧ request.fileServerToken = some "first") ∧
    ("d1", "first") ∉ (shownBy (some 1) (switched "d1" ++ [.advance 0 false])).resolved := by
  decide

theorem token_shown_after_switch :
    (∃ request ∈ (shownBy none (switched "d1" ++ .advance 0 false :: heartbeat)).sent,
      request.daemon = "d1" ∧ request.authorization = some "second") ∧
    ∀ request ∈ (shownBy none (switched "d1" ++ .advance 0 false :: heartbeat)).sent,
      request.Own hosts (shownBy none (switched "d1" ++ .advance 0 false :: heartbeat)) := by
  refine ⟨by decide,
    tokens_shown_to_own_daemon hosts "d0" (some "first") "local" none _ ?_⟩
  have still : ∀ todo ∈ [[], [Action.readUrl .notice 1]], switches todo = false := by decide
  refine ⟨trivial, trivial, ⟨rfl, resolved_none, ?_⟩, trivial, trivial, ?_, trivial, trivial⟩
  · decide
  · exact still

end Detrix.Bridge
