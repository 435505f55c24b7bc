/-
**Where the bridge holds references.**

The set of attached connections knows their ids, not their daemons, and outlives a switch that does not
close the connections; the request that attaches carries the id of the client and no credentials.

- `held_response_iff`: what a response leaves of the reference it calls for.
- `references_held`: in the runs of `Careful` events the bridge holds a reference to each connection that
  a response names, on the daemon it works with.
-/

import Detrix.Bridge.Tokens

namespace Detrix.Bridge

open Library List

/-- The daemon of the bridge, its `attached_connections`, and the references it holds on the daemons. -/
structure Attachments where
  daemonUrl : Url
  attachedConnections : List String
  references : List (Url × String)

namespace Attachments

/-- A response of the daemon that names a connection, or a switch of daemons. What the switch meets is
whether the references could be released, and whether the new daemon is healthy. -/
inductive Event where
  | response (connection : String)
  | switchDaemon (target : Url) (closeConnections released healthy : Bool)

variable (requiresAuth : Url → Bool)

/-- `auto_attach_from_response`: without credentials the request fails where they are required. -/
def autoAttach (s : Attachments) (connection : String) : Attachments :=
  if connection ∈ s.attachedConnections then s
  else if requiresAuth s.daemonUrl then s
  else { s with
    attachedConnections := connection :: s.attachedConnections
    references := (s.daemonUrl, connection) :: s.references }

/-- `close_connections`: the set is cleared even if the references could not be released. -/
def close (s : Attachments) (released : Bool) : Attachments where
  daemonUrl := s.daemonUrl
  attachedConnections := []
  references := if released then s.references.filter (·.1 ≠ s.daemonUrl) else s.references

def switch (s : Attachments) (target : Url) (healthy : Bool) : Attachments :=
  if healthy then { s with daemonUrl := trimSlashes target } else s

def step (s : Attachments) : Event → Attachments
  | .response connection => s.autoAttach requiresAuth connection
  | .switchDaemon target closeConnections released healthy =>
    (if closeConnections then s.close released else s).switch target healthy

def start (daemonUrl : Url) : Attachments := ⟨daemonUrl, [], []⟩

def Held (s : Attachments) (connection : String) : Prop := (s.daemonUrl, connection) ∈ s.references

/-- **The reference that the event calls for is held after it.** -/
def Kept (s : Attachments) : Event → Prop
  | .response connection => (s.autoAttach requiresAuth connection).Held connection
  | .switchDaemon _ _ _ _ => True

/-- The daemon that answers requires no credentials, and a switch to another daemon closes the
connections, if there are any. -/
def Careful (s : Attachments) : Event → Prop
  | .response _ => requiresAuth s.daemonUrl = false
  | .switchDaemon target closeConnections _ healthy =>
    closeConnections = true ∨ healthy = false ∨ trimSlashes target = s.daemonUrl ∨
      s.attachedConnections = []

/-- What is attached is held on the daemon of the bridge. -/
def Grounded (s : Attachments) : Prop := ∀ connection ∈ s.attachedConnections, s.Held connection

variable {requiresAuth} {s : Attachments}

theorem held_response_iff {connection : String} :
    (s.autoAttach requiresAuth connection).Held connection ↔
      s.Held connection ∨
        connection ∉ s.attachedConnections ∧ requiresAuth s.daemonUrl = false := by
  unfold autoAttach
  split
  next known => exact ⟨.inl, fun held => held.resolve_right fun new => new.1 known⟩
  next new =>
    split
    next refused =>
      exact ⟨.inl, fun held => held.resolve_right fun free => nomatch free.2.symm.trans refused⟩
    next free => exact iff_of_true (.head _) (.inr ⟨new, Bool.eq_false_of_not_eq_true free⟩)

theorem Grounded.switch {target : Url} {healthy : Bool} (grounded : s.Grounded)
    (careful : healthy = false ∨ trimSlashes target = s.daemonUrl ∨ s.attachedConnections = []) :
    (s.switch target healthy).Grounded := by
  unfold Attachments.switch
  split
  next reached =>
    intro connection mem
    rcases careful with failed | same | none
    · nomatch failed.symm.trans reached
    · show (trimSlashes target, connection) ∈ s.references
      exact same ▸ grounded connection mem
    · exact absurd mem (none ▸ not_mem_nil)
  next => exact grounded

theorem Grounded.step {event : Event} (grounded : s.Grounded) (careful : s.Careful requiresAuth event) :
    (s.step requiresAuth event).Grounded := by
  cases event with
  | response connection =>
    show (s.autoAttach requiresAuth connection).Grounded
    unfold autoAttach
    split
    · exact grounded
    rw [if_neg (by rw [careful]; nofun)]
    intro other mem
    rcases mem_cons.mp mem with rfl | mem
    · exact .head _
    · exact .tail _ (grounded other mem)
  | switchDaemon target closeConnections released healthy =>
    cases closeConnections with
    | true => exact .switch nofun (.inr (.inr rfl))
    | false => exact grounded.switch (careful.resolve_left nofun)

theorem Grounded.kept {event : Event} (grounded : s.Grounded) (careful : s.Careful requiresAuth event) :
    s.Kept requiresAuth event := by
  cases event with
  | response connection =>
    refine held_response_iff.mpr ?_
    by_cases known : connection ∈ s.attachedConnections
    · exact .inl (grounded connection known)
    · exact .inr ⟨known, careful⟩
  | switchDaemon => trivial

theorem kept_of_careful : ∀ (events : List Event) {s : Attachments}, s.Grounded →
    Run.Allowed (step requiresAuth) (Careful requiresAuth) s events →
      Run.Allowed (step requiresAuth) (Kept requiresAuth) s events
  | [], _, _, _ => trivial
  | _ :: events, _, grounded, ⟨now, later⟩ =>
    ⟨grounded.kept now, kept_of_careful events (grounded.step now) later⟩

/-- **The bridge holds its references** in the runs of careful events. A response that names a connection
leaves a reference to it exactly if there is one, or the connection is not attached and the daemon
requires no credentials. -/
theorem references_held (requiresAuth : Url → Bool) :
    (∀ s connection, Kept requiresAuth s (.response connection) ↔
      s.Held connection ∨
        connection ∉ s.attachedConnections ∧ requiresAuth s.daemonUrl = false) ∧
    ∀ daemonUrl events,
      Run.Allowed (step requiresAuth) (Careful requiresAuth) (start daemonUrl) events →
        Run.Allowed (step requiresAuth) (Kept requiresAuth) (start daemonUrl) events :=
  ⟨fun _ _ => held_response_iff, fun _ events careful => kept_of_careful events nofun careful⟩

/-- A connection of two daemons, of which the second has no reference after the switch; and a daemon that
requires credentials. -/
theorem reference_missing :
    Run.after (step fun _ => false) (start "http://a")
        [.response "c", .switchDaemon "http://b/" false true true, .response "c"] =
      ⟨"http://b", ["c"], [("http://a", "c")]⟩ ∧
    Run.after (step fun _ => true) (start "http://a") [.response "c"] = start "http://a" :=
  ⟨rfl, rfl⟩

end Attachments

end Detrix.Bridge
