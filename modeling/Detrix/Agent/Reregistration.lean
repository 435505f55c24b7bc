/-
**The same frame again.**

The binaries of an agent's first frame and those of a later one are read by two functions, which do not
read every language alike. An update compares processes only, so that a frame that comes again makes the
manager add and remove nothing.

- `same_frame_changes_nothing`: only the record of the agent's binaries is written again.
-/

import Detrix.Agent.Reported

namespace Detrix.Agent

open Detrix.Core Library Library.Task Connections Service List

/-- A binary of a frame, as far as it is read. -/
structure FrameBinary where
  binaryPath : String
  pid : Nat
  inode : Nat
  language : String

/-- How `connect_agent` reads a binary of the first frame. -/
def FrameBinary.registered (b : FrameBinary) : AgentBinaryInfo where
  binaryPath := b.binaryPath
  pid := b.pid
  inode := b.inode
  language := match b.language with
    | "rust" => .rust
    | _ => .go

/-- How `proto_to_domain` reads a binary of a later frame. -/
def FrameBinary.updated (b : FrameBinary) : AgentBinaryInfo where
  binaryPath := b.binaryPath
  pid := b.pid
  inode := b.inode
  language := match b.language with
    | "rust" => .rust
    | "python" => .python
    | _ => .go

structure RegisterAgent where
  agentId : AgentId
  hostname : String
  version : String
  capabilities : AgentCapabilities
  binaries : List FrameBinary

namespace RegisterAgent

variable (frame : RegisterAgent) (session : Session)

def registration : Registration where
  agent := frame.agentId
  hostname := frame.hostname
  version := frame.version
  capabilities := frame.capabilities
  binaries := frame.binaries.map (·.registered)
  session := session

def update : IncomingAgentMessage := .registerUpdate (frame.binaries.map (·.updated))

end RegisterAgent

variable {env : Env} {s t : Manager} {registration : Registration} {answers : List Bool}

/-- An update that reports the processes that the agent has. -/
theorem reconcile_same {agent : AgentId} {info : AgentInfo} {binaries : List AgentBinaryInfo}
    (same : binaries.map (·.process) = info.binaries.map (·.process)) :
    reconcile env agent info binaries = [.setBinaries agent binaries, .unlockUpdate] := by
  have reported {one other : List AgentBinaryInfo} (same : one.map (·.process) = other.map (·.process))
      {binary : AgentBinaryInfo} (mem : binary ∈ one) : ¬ (!reports other binary) = true := by
    have mem : binary.process ∈ one.map (·.process) := mem_map_of_mem mem
    rw [same] at mem
    rw [reports_iff.mpr (mem_map.mp mem)]
    exact Bool.false_ne_true
  have removed : removedBinaries info.binaries binaries = [] :=
    filter_eq_nil_iff.mpr fun _ mem => reported same.symm (mem_of_mem_byProcess mem)
  have added : addedBinaries info.binaries binaries = [] :=
    filter_eq_nil_iff.mpr fun _ mem => reported same mem
  rw [reconcile, removed, added]
  rfl

/-- A registration that is acknowledged has put down its agent. -/
theorem agents_of_acknowledged {minVersion : String}
    (run : Completes (perform env) s ⟨registerAtomic registration, answers⟩ t)
    (ok : t.acknowledgements =
      s.acknowledgements ++ [(registration.session, .registerAck true "" minVersion)]) :
    t.agents registration.agent = some registration.info := by
  obtain ⟨v, rfl, body⟩ := register_run run
  have ok : v.acknowledgements = _ := ok
  unfold registrationBody at body
  split at body
  next reason minVersion rejected =>
    rw [(completes_last rfl).mp body] at ok
    simp at ok
  next compatible =>
    split at body
    next failure made =>
      rw [completes_nil.mp body] at ok
      simp at ok
    next conns made =>
      obtain ⟨w, more, saved, later⟩ := completes_single.mp body
      simp only [perform] at saved
      split at saved
      · cases saved
        rw [completes_nil.mp later] at ok
        simp at ok
      · cases saved
        have routing := congrArg Routing.agents (install_routing made later)
        exact (congrFun routing registration.agent).trans (Function.update_self ..)

/-- **A frame that was accepted and comes again changes nothing** but the record of the binaries:
whatever has happened in between, as long as the agent is registered as it was. -/
theorem same_frame_changes_nothing (env : Env) (frame : RegisterAgent) (session : Session)
    (s t now : Manager) (answers later : List Bool) (minVersion : String)
    (registered : Completes (perform env) s ⟨registerAtomic (frame.registration session), answers⟩ t)
    (accepted : t.acknowledgements =
      s.acknowledgements ++ [(session, .registerAck true "" minVersion)])
    (same : now.agents frame.agentId = t.agents frame.agentId) (free : now.updateLocked = false) :
    Completes (perform env) now ⟨dispatch frame.agentId session frame.update, later⟩
      { now with agents := Function.update now.agents frame.agentId (some
        { (frame.registration session).info with binaries := frame.binaries.map (·.updated) }) } := by
  have known : now.agents frame.agentId = some (frame.registration session).info :=
    same.trans (agents_of_acknowledged registered accepted)
  have processes : (frame.binaries.map (·.updated)).map (·.process) =
      (frame.binaries.map (·.registered)).map (·.process) := by
    rw [map_map, map_map]
    rfl
  refine completes_single.mpr ⟨now, [.lockUpdate frame.agentId (frame.binaries.map (·.updated))], ?_,
    completes_single.mpr ⟨_, _, if_neg (by simp [free]),
      completes_single.mpr ⟨_, _, by simp only [perform, known]; rfl, ?_⟩⟩⟩
  · simp only [perform, known, handleUnscoped, Option.any_some]
    exact congrArg (fun more => some (now, more)) (if_pos (decide_eq_true (Eq.refl session)))
  · rw [reconcile_same processes]
    refine (completes_step rfl).mpr ((completes_last rfl).mpr ?_)
    exact Manager.ext (congrArg (Function.update now.agents _) (by rw [known]; rfl)) rfl rfl rfl rfl rfl
      rfl rfl free rfl

/-- The two functions do not read its language alike. -/
def Sample.pythonFrame : RegisterAgent :=
  ⟨"a", "host", "1.0.0", Sample.capabilities, [⟨"/bin/app", 1, 7, "python"⟩]⟩

open Sample

theorem python_frame_again :
    ∃ t, Completes (perform plainEnv) t ⟨dispatch "a" 0 pythonFrame.update, []⟩
      { t with agents := Function.update t.agents "a" (some
        { (pythonFrame.registration 0).info with binaries := [⟨"/bin/app", 1, 7, .python⟩] }) } := by
  have run : Completes (perform plainEnv) unused
      ⟨registerAtomic (pythonFrame.registration 0), []⟩ _ := completes_after (by decide)
  exact ⟨_, same_frame_changes_nothing _ _ _ _ _ _ _ _ "" run (by decide +kernel) rfl (by decide +kernel)⟩

end Detrix.Agent
