/-
**The agreement of storage and adapter, write by write.**

The adapter is in agreement with the storage if every tracked metric has the name and location of an
enabled stored one, and every expression of an enabled stored metric is tracked at its location. An
operation breaks the agreement on its way: metrics become stale, and locations pending until their
logpoint is set again. `Agreement enabled stale pending` is the agreement up to these, and its rules
are the writes of the adapter:

- `Agreement.erase`: a name is taken out;
- `Agreement.sync`: the logpoint of a location is set;
- `Agreement.arm`: a new metric is set;
- `synced_agree`, `syncedAll_agree`: `sync_logpoint` at a location and at those of a group.
-/

import Detrix.Service.Quiet

namespace Detrix.Service

open Detrix.Core Dap Library ActiveMetrics List

/-! ### Agreement up to stale metrics and pending locations -/

/-- What is tracked is enabled or stale, and what is enabled is tracked, where it is not pending. -/
structure Agreement (enabled stale : Metric → Prop) (pending : Location → Prop)
    (active : ActiveMetrics) : Prop where
  named : ∀ a b, enabled a ∨ stale a → enabled b ∨ stale b → a.name = b.name → a = b
  armed : ∀ name t, active.get name = some t →
    ∃ m, (enabled m ∨ stale m) ∧ m.name = name ∧ m.location = t.location
  covered : ∀ m, enabled m → ¬ pending m.location → ∀ e ∈ m.expressions,
    ∃ name t, active.get name = some t ∧ t.location = m.location ∧ e ∈ t.expressions

namespace Agreement

variable {enabled stale : Metric → Prop} {pending : Location → Prop} {active : ActiveMetrics}

section
variable (agree : Agreement enabled stale pending active)
include agree

/-- What is tracked under a name is tracked at the location of the metrics of that name. -/
theorem location_eq {name : String} {t : Metric} {loc : Location}
    (unique : ∀ a, enabled a ∨ stale a → a.name = name → a.location = loc)
    (found : active.get name = some t) : t.location = loc := by
  obtain ⟨m, known, isName, isLoc⟩ := agree.armed name t found
  rw [← isLoc, unique m known isName]

/-- Metrics are enabled or become stale; what is enabled afterwards was covered, or is pending. -/
theorem change {enabled' stale' : Metric → Prop} {pending' : Location → Prop}
    (named : ∀ a b, enabled' a ∨ stale' a → enabled' b ∨ stale' b → a.name = b.name → a = b)
    (known : ∀ m, enabled m ∨ stale m →
      ∃ m', (enabled' m' ∨ stale' m') ∧ m'.name = m.name ∧ m'.location = m.location)
    (covered : ∀ m, enabled' m → ¬ pending' m.location → enabled m ∧ ¬ pending m.location) :
    Agreement enabled' stale' pending' active where
  named := named
  armed := by
    intro name t found
    obtain ⟨m, isKnown, isName, isLoc⟩ := agree.armed name t found
    obtain ⟨m', isKnown', sameName, sameLocation⟩ := known m isKnown
    exact ⟨m', isKnown', sameName.trans isName, sameLocation.trans isLoc⟩
  covered := by
    intro m isOn settled
    exact agree.covered m (covered m isOn settled).1 (covered m isOn settled).2

/-- **A name is taken out**: it is not stale any more, and its location is pending. -/
theorem erase (name : String) (loc : Location)
    (unique : ∀ a, enabled a ∨ stale a → a.name = name → a.location = loc) :
    Agreement enabled (fun m => stale m ∧ m.name ≠ name)
      (fun other => pending other ∨ other = loc) (active.erase name) where
  named := by
    intro a b isA isB
    exact agree.named a b (isA.imp_right (·.1)) (isB.imp_right (·.1))
  armed := by
    intro other t found
    rw [get_erase] at found
    split at found
    · cases found
    next ne =>
      obtain ⟨m, known, isName, isLoc⟩ := agree.armed other t found
      refine ⟨m, known.imp_right fun isStale => ⟨isStale, ?_⟩, isName, isLoc⟩
      rw [isName]
      exact ne
  covered := by
    intro m isOn settled e mem
    rw [not_or] at settled
    obtain ⟨other, t, found, isLoc, tracked⟩ := agree.covered m isOn settled.1 e mem
    refine ⟨other, t, ?_, isLoc, tracked⟩
    rw [get_erase, if_neg]
    · exact found
    · rintro rfl
      exact settled.2 (isLoc.symm.trans (agree.location_eq unique found))

theorem close (loc : Location)
    (none : ∀ m, enabled m → m.location = loc → m.expressions = []) :
    Agreement enabled stale (fun other => pending other ∧ other ≠ loc) active where
  named := agree.named
  armed := agree.armed
  covered := by
    intro m isOn settled e mem
    by_cases here : m.location = loc
    · rw [none m isOn here] at mem
      cases mem
    · exact agree.covered m isOn (fun waits => settled ⟨waits, here⟩) e mem

/-- **The logpoint of a location is set** under the name of an enabled metric there. -/
theorem sync {first merged : Metric} (isOn : enabled first)
    (isName : merged.name = first.name) (isLoc : merged.location = first.location)
    (all : ∀ m, enabled m → m.location = first.location → m.expressions ⊆ merged.expressions) :
    Agreement enabled stale (fun loc => pending loc ∧ loc ≠ first.location)
      (active.insert merged) where
  named := agree.named
  armed := by
    intro name t found
    rw [get_insert] at found
    split at found
    next sameName =>
      rw [Option.some.injEq] at found
      rw [← found, isLoc, sameName, isName]
      exact ⟨first, .inl isOn, rfl, rfl⟩
    next => exact agree.armed name t found
  covered := by
    intro m hasRow settled e mem
    by_cases here : m.location = first.location
    · refine ⟨merged.name, merged, ?_, isLoc.trans here.symm, all m hasRow here mem⟩
      rw [get_insert, if_pos rfl]
    · obtain ⟨name, t, found, atLocation, tracked⟩ :=
        agree.covered m hasRow (fun waits => settled ⟨waits, here⟩) e mem
      refine ⟨name, t, ?_, atLocation, tracked⟩
      rw [get_insert, if_neg]
      · exact found
      · rw [isName]
        rintro rfl
        refine here (atLocation.symm.trans (agree.location_eq (fun a known sameName => ?_) found))
        rw [agree.named a first known (.inl isOn) sameName]

/-- **A new metric is set** under a name of its own. -/
theorem arm {m t : Metric} (fresh : ∀ a, enabled a ∨ stale a → a.name ≠ m.name)
    (isName : t.name = m.name) (isLoc : t.location = m.location)
    (all : m.expressions ⊆ t.expressions) :
    Agreement (fun a => enabled a ∨ a = m) stale pending (active.insert t) where
  named := by
    rintro a b ((isA | rfl) | isA) ((isB | rfl) | isB) same
    · exact agree.named a b (.inl isA) (.inl isB) same
    · exact absurd same (fresh a (.inl isA))
    · exact agree.named a b (.inl isA) (.inr isB) same
    · exact absurd same.symm (fresh b (.inl isB))
    · rfl
    · exact absurd same.symm (fresh b (.inr isB))
    · exact agree.named a b (.inr isA) (.inl isB) same
    · exact absurd same (fresh a (.inr isA))
    · exact agree.named a b (.inr isA) (.inr isB) same
  armed := by
    intro name found isFound
    rw [get_insert] at isFound
    split at isFound
    next sameName =>
      rw [Option.some.injEq] at isFound
      rw [← isFound, isLoc, sameName, isName]
      exact ⟨m, .inl (.inr rfl), rfl, rfl⟩
    next =>
      obtain ⟨a, known, rest⟩ := agree.armed name found isFound
      exact ⟨a, known.imp_left .inl, rest⟩
  covered := by
    rintro a (old | rfl) settled e mem
    · obtain ⟨name, found, isFound, atLocation, tracked⟩ := agree.covered a old settled e mem
      refine ⟨name, found, ?_, atLocation, tracked⟩
      rw [get_insert, if_neg]
      · exact isFound
      · rw [isName]
        rintro rfl
        obtain ⟨b, known, sameName, -⟩ := agree.armed _ found isFound
        exact fresh b known sameName
    · refine ⟨t.name, t, ?_, isLoc, all mem⟩
      rw [get_insert, if_pos rfl]

theorem settled (noStale : ∀ m, ¬ stale m) (noPending : ∀ m, enabled m → ¬ pending m.location) :
    Agreement enabled (fun _ => False) (fun _ => False) active := by
  refine agree.change ?_ ?_ ?_
  · exact fun a b isA isB => agree.named a b (isA.imp_right False.elim) (isB.imp_right False.elim)
  · rintro m (isOn | isStale)
    · exact ⟨m, .inl isOn, rfl, rfl⟩
    · exact absurd isStale (noStale m)
  · exact fun m isOn _ => ⟨isOn, noPending m isOn⟩

/-- The same stale metrics and pending locations. -/
theorem resettle {stale' : Metric → Prop} {pending' : Location → Prop}
    (isStale : ∀ m, stale' m ↔ stale m) (waits : ∀ loc, pending' loc ↔ pending loc) :
    Agreement enabled stale' pending' active := by
  obtain rfl : stale' = stale := funext fun m => propext (isStale m)
  obtain rfl : pending' = pending := funext fun loc => propext (waits loc)
  exact agree

theorem congr {enabled' : Metric → Prop} (same : ∀ m, enabled' m ↔ enabled m) :
    Agreement enabled' stale pending active := by
  have isSame : enabled' = enabled := funext fun m => propext (same m)
  rw [isSame]
  exact agree

end

end Agreement

/-! ### The logpoint of a location -/

def EnabledRow (rows : List Metric) (m : Metric) : Prop := m ∈ rows ∧ m.enabled = true

section Logpoints

variable {stale : Metric → Prop} {pending : Location → Prop} {c : ConnectionId}
  {w : World}

theorem mem_enabledAt (conn : ∀ row ∈ w.repo.rows, row.connectionId = c)
    (loc : Location) (m : Metric) :
    m ∈ w.enabledAt c loc ↔ EnabledRow w.repo.rows m ∧ m.location = loc := by
  unfold World.enabledAt EnabledRow
  rw [mem_filter, Repository.mem_findAllAtLocation]
  constructor
  · rintro ⟨⟨mem, -, isLoc⟩, isOn⟩
    exact ⟨⟨mem, isOn⟩, isLoc⟩
  · rintro ⟨⟨mem, isOn⟩, isLoc⟩
    exact ⟨⟨mem, conn m mem, isLoc⟩, isOn⟩

theorem sets_tracked (w : World) (c : ConnectionId) (m : Metric) :
    (w.sets c m).tracked c = (w.tracked c).insert m :=
  Function.update_self ..

theorem removes_tracked (w : World) (c : ConnectionId) (m : Metric) :
    (w.removes c m).tracked c = (w.tracked c).erase m.name :=
  Function.update_self ..

/-- The logpoint of all enabled metrics at a location settles it. -/
theorem setsLogpoint_agree {enabled : Metric → Prop} {loc : Location} {metrics : List Metric}
    (isAll : ∀ m, m ∈ metrics ↔ enabled m ∧ m.location = loc)
    (agree : Agreement enabled stale pending (w.tracked c)) :
    Agreement enabled stale (fun other => pending other ∧ other ≠ loc)
      ((w.setsLogpoint c metrics).tracked c) := by
  cases metrics with
  | nil =>
    refine agree.close loc fun m isOn here => ?_
    exact absurd ((isAll m).mpr ⟨isOn, here⟩) not_mem_nil
  | cons first rest =>
    obtain ⟨isOn, here⟩ := (isAll first).mp (.head _)
    rw [← here]
    show Agreement enabled stale _ ((w.sets c
      { first with expressions := mergedExpressions (first :: rest) }).tracked c)
    rw [sets_tracked]
    refine agree.sync isOn rfl rfl fun m hasRow there e mem => ?_
    exact mem_mergedExpressions.mpr ⟨m, (isAll m).mpr ⟨hasRow, there.trans here⟩, mem⟩

/-- **Synchronising a location** settles it, if what is stale there has the name of the reference
and no expression is left to be tracked. -/
theorem synced_agree (conn : ∀ row ∈ w.repo.rows, row.connectionId = c)
    (loc : Location) (ref : Metric)
    (agree : Agreement (EnabledRow w.repo.rows) stale pending (w.tracked c))
    (unique : ∀ a, EnabledRow w.repo.rows a ∨ stale a → a.name = ref.name →
      a.location = loc)
    (settles : ∀ s, stale s → s.location = loc → s.name = ref.name ∧
      ∀ m, EnabledRow w.repo.rows m → m.location ≠ loc) :
    Agreement (EnabledRow w.repo.rows) (fun s => stale s ∧ s.location ≠ loc)
      (fun other => pending other ∧ other ≠ loc)
      ((w.synced c loc ref).tracked c) := by
  unfold World.synced
  split
  next none =>
    have closed : ∀ m, EnabledRow w.repo.rows m → m.location = loc → m.expressions = [] := by
      intro m hasRow here
      rw [eq_nil_iff_forall_not_mem]
      intro e mem
      have merged := mem_mergedExpressions.mpr
        ⟨m, (mem_enabledAt conn loc m).mpr ⟨hasRow, here⟩, mem⟩
      rw [none] at merged
      cases merged
    rw [removes_tracked]
    refine ((agree.erase _ loc unique).close loc closed).resettle (fun s => ?_) fun _ => by tauto
    refine and_congr_right fun isStale => ⟨fun other isName => ?_, fun otherName here => ?_⟩
    · exact other (unique s (.inr isStale) isName)
    · exact otherName (settles s isStale here).1
  next something =>
    have isAll := mem_enabledAt conn loc
    refine (setsLogpoint_agree isAll agree).resettle (fun s => and_iff_left_of_imp ?_) fun _ => Iff.rfl
    -- nothing is enabled where something is stale
    refine fun isStale here => something (eq_nil_iff_forall_not_mem.mpr fun e mem => ?_)
    obtain ⟨other, isIn, -⟩ := mem_mergedExpressions.mp mem
    obtain ⟨hasRow, there⟩ := (isAll other).mp isIn
    exact (settles s isStale here).2 other hasRow there

/-- **The locations of a group**, by induction on the map. -/
theorem syncedAll_agree {c : ConnectionId} :
    ∀ (entries : List ((ConnectionId × Location) × Metric)) (w : World) (stale : Metric → Prop)
      (pending : Location → Prop),
      (∀ row ∈ w.repo.rows, row.connectionId = c) →
      Agreement (EnabledRow w.repo.rows) stale pending (w.tracked c) →
      (∀ entry ∈ entries, entry.1.1 = c) →
      (∀ entry ∈ entries, ∀ a, EnabledRow w.repo.rows a ∨ stale a → a.name = entry.2.name →
        a.location = entry.1.2) →
      (∀ entry ∈ entries, ∀ s, stale s → s.location = entry.1.2 → s.name = entry.2.name ∧
        ∀ m, EnabledRow w.repo.rows m → m.location ≠ entry.1.2) →
      Agreement (EnabledRow w.repo.rows) (fun s => stale s ∧ ∀ entry ∈ entries, s.location ≠ entry.1.2)
        (fun other => pending other ∧ ∀ entry ∈ entries, other ≠ entry.1.2)
        ((w.syncedAll entries).tracked c)
  | [], w, stale, pending, _, agree, _, _, _ => agree.resettle (by simp) (by simp)
  | entry :: rest, w, stale, pending, conn, agree, isConn, unique, settles => by
    have isFirst : entry ∈ entry :: rest := (.head _)
    have first := synced_agree conn _ _ agree (unique entry isFirst) (settles entry isFirst)
    obtain ⟨tracked, handed, isSynced⟩ := synced_same w c entry.1.2 entry.2
    have same : (w.synced c entry.1.2 entry.2).repo = w.repo := by rw [isSynced]
    rw [← same] at first conn
    have others := syncedAll_agree rest (w.synced c entry.1.2 entry.2) _ _ conn first
      (fun other isIn => isConn other (.tail _ isIn))
      (fun other isIn a known => unique other (.tail _ isIn) a
        (same ▸ known.imp_right (·.1)))
      (fun other isIn s isStale there => by
        rw [same]
        exact settles other (.tail _ isIn) s isStale.1 there)
    rw [same] at others
    have unfolded : w.syncedAll (entry :: rest) =
        (w.synced c entry.1.2 entry.2).syncedAll rest := by
      rw [← isConn entry isFirst]
      rfl
    rw [unfolded]
    exact others.resettle (by simp [and_assoc]) (by simp [and_assoc])

end Logpoints

end Detrix.Service
