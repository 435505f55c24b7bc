/-
**Storage and adapter agree.**

`storage_and_adapter_agree`: after every run of the metric operations on one connection in which
enabled metrics are replaced, merged into, updated, removed and disabled with their group only where
they are alone, the adapter tracks what is enabled in the storage.

A metric that shares its line is not taken out of the adapter when it is removed, as the logpoint of
the others is set under another name: `removed_metric_stays_tracked`.
-/

import Detrix.Service.Agreement
import Detrix.Service.Runs

namespace Detrix.Service

open Detrix.Core Dap Library Repository Request List Run World

/-! ### The agreement of a connection -/

/-- All metrics are of the connection, which has an adapter; their names are different, and the
adapter agrees with the storage. -/
structure InAgreement (connectionId : ConnectionId) (w : World) : Prop where
  running : w.hasAdapter connectionId = true
  connection : ∀ row ∈ w.repo.rows, row.connectionId = connectionId
  named : ∀ a ∈ w.repo.rows, ∀ b ∈ w.repo.rows, a.name = b.name → a = b
  agree : Agreement (EnabledRow w.repo.rows) (fun _ => False) (fun _ => False)
    (w.tracked connectionId)

def Alone (rows : List Metric) (m : Metric) : Prop :=
  ∀ other ∈ rows, other.connectionId = m.connectionId → other.location = m.location →
    other.enabled = true → other = m

/-- The rows are of the connection, under different names. -/
structure RowsOf (c : ConnectionId) (rows : List Metric) : Prop where
  connection : ∀ row ∈ rows, row.connectionId = c
  named : ∀ a ∈ rows, ∀ b ∈ rows, a.name = b.name → a = b

theorem RowsOf.subset {c : ConnectionId} {rows fewer : List Metric} (before : RowsOf c rows)
    (kept : ∀ row ∈ fewer, row ∈ rows) : RowsOf c fewer :=
  ⟨fun row isIn => before.connection row (kept row isIn),
    fun a isA b isB => before.named a (kept a isA) b (kept b isB)⟩

variable {m : Metric}

namespace InAgreement

variable {c : ConnectionId} {w : World}

theorem rowsOf (before : InAgreement c w) : RowsOf c w.repo.rows := ⟨before.connection, before.named⟩

theorem eq_of_name (before : InAgreement c w) {a b : Metric} (left : a ∈ w.repo.rows)
    (right : b ∈ w.repo.rows) (same : a.name = b.name) : a = b :=
  before.named a left b right same

/-- The metrics become stale that are not enabled any more, and the locations pending where others
are enabled. -/
theorem change (before : InAgreement c w) {rows : List Metric}
    {stale : Metric → Prop} {pending : Location → Prop}
    (after : RowsOf c rows) (isStale : ∀ s, stale s → s ∈ w.repo.rows)
    (fresh : ∀ s, stale s → ∀ a, EnabledRow rows a → a.name = s.name → a = s)
    (known : ∀ m, EnabledRow w.repo.rows m → EnabledRow rows m ∨ stale m)
    (covered : ∀ m, EnabledRow rows m → EnabledRow w.repo.rows m ∨ pending m.location) :
    Agreement (EnabledRow rows) stale pending (w.tracked c) := by
  refine before.agree.change ?_ ?_ ?_
  · rintro a b (isA | isA) (isB | isB) same
    · exact after.named a isA.1 b isB.1 same
    · exact fresh b isB a isA same
    · exact (fresh a isA b isB same.symm).symm
    · exact before.eq_of_name (isStale a isA) (isStale b isB) same
  · rintro m (hasRow | none)
    · exact ⟨m, known m hasRow, rfl, rfl⟩
    · exact none.elim
  · intro m hasRow settled
    exact ⟨(covered m hasRow).resolve_right settled, fun none => none⟩

/-! ### Removing -/

variable {repo : Repository} {id : MetricId}

section
variable (before : InAgreement c w)
include before

theorem remove (mem : m ∈ w.repo.rows) (isId : m.id = some id)
    (done : w.repo.delete id = .ok repo) (alone : m.enabled = true → Alone w.repo.rows m) :
    InAgreement c (({ w with repo } : World).synced c m.location m) := by
  obtain ⟨tracked, handed, isSynced⟩ := synced_same { w with repo } c m.location m
  have rows : ∀ other, other ∈ repo.rows ↔ other ∈ w.repo.rows ∧ other ≠ m :=
    fun other => mem_delete done mem isId
  have kept : ∀ other ∈ repo.rows, other ∈ w.repo.rows := fun other isIn => ((rows other).mp isIn).1
  have after := before.rowsOf.subset kept
  -- the deleted metric is stale if it was enabled
  have changed : Agreement (EnabledRow repo.rows) (fun s => s = m ∧ m.enabled = true)
      (fun _ => False) (w.tracked c) := by
    refine before.change after (fun s isStale => isStale.1 ▸ mem) ?_ ?_ ?_
    · rintro s ⟨rfl, -⟩ a hasRow same
      exact before.eq_of_name (kept a hasRow.1) mem same
    · intro other hasRow
      by_cases isM : other = m
      · exact .inr ⟨isM, isM ▸ hasRow.2⟩
      · exact .inl ⟨(rows other).mpr ⟨hasRow.1, isM⟩, hasRow.2⟩
    · exact fun other hasRow => .inl ⟨kept other hasRow.1, hasRow.2⟩
  have synced := synced_agree (w := { w with repo }) after.connection m.location m changed ?_ ?_
  · rw [isSynced] at synced ⊢
    refine ⟨before.running, after.1, after.2, synced.settled ?_ ?_⟩
    · rintro s ⟨⟨rfl, -⟩, apart⟩
      exact apart rfl
    · exact fun _ _ waits => waits.1
  · rintro a (hasRow | isStale) same
    · rw [before.eq_of_name (kept a hasRow.1) mem same]
    · rw [isStale.1]
  · rintro s ⟨rfl, isOn⟩ -
    refine ⟨rfl, fun other hasRow there => ?_⟩
    obtain ⟨has, ne⟩ := (rows other).mp hasRow.1
    refine ne (alone isOn other has ?_ there hasRow.2)
    rw [before.connection other has, before.connection s mem]

/-! ### Toggling -/

variable {old : Metric}

theorem leaving (mem : old ∈ w.repo.rows) :
    Agreement (fun a => EnabledRow w.repo.rows a ∧ a ≠ old) (fun m => m = old ∧ m.name ≠ old.name)
      (fun other => False ∨ other = old.location) ((w.tracked c).erase old.name) := by
  have known {a : Metric} (isKnown : (EnabledRow w.repo.rows a ∧ a ≠ old) ∨ a = old) : a ∈ w.repo.rows := by
    rcases isKnown with hasRow | rfl
    · exact hasRow.1.1
    · exact mem
  refine .erase ?_ _ _ fun a isKnown same => ?_
  · refine before.agree.change ?_ ?_ fun m hasRow _ => ⟨hasRow.1, fun none => none⟩
    · exact fun a b isA isB => before.eq_of_name (known isA) (known isB)
    · rintro m (hasRow | none)
      · by_cases isOld : m = old
        · exact ⟨m, .inr isOld, rfl, rfl⟩
        · exact ⟨m, .inl ⟨hasRow, isOld⟩, rfl, rfl⟩
      · exact none.elim
  · rw [before.eq_of_name (known isKnown) mem same]

/-- The rows after an update of a metric, with a name that no other row has. -/
theorem rowsOf_update {row : Metric} (done : w.repo.update m = .ok repo)
    (mem : row ∈ w.repo.rows) (isRow : row.id = m.id)
    (fresh : ∀ other ∈ w.repo.rows, other ≠ row → other.name ≠ m.name) : RowsOf c repo.rows := by
  constructor
  · intro other isIn
    rcases (mem_update done mem isRow).mp isIn with rfl | ⟨has, -⟩
    · exact before.connection row mem
    · exact before.connection other has
  · intro a isA b isB same
    rcases (mem_update done mem isRow).mp isA with rfl | ⟨left, notA⟩ <;>
      rcases (mem_update done mem isRow).mp isB with rfl | ⟨right, notB⟩
    · rfl
    · exact absurd same.symm (fresh b right notB)
    · exact absurd same (fresh a left notA)
    · exact before.eq_of_name left right same

theorem toggle {enabled : Bool} (mem : m ∈ w.repo.rows) (ne : m.enabled ≠ enabled)
    (done : w.repo.update { m with enabled } = .ok repo) :
    InAgreement c (({ w with repo } : World).toggled { m with enabled }) := by
  have fresh : ∀ other ∈ w.repo.rows, other ≠ m → other.name ≠ m.name :=
    fun other has notM same => notM (before.eq_of_name has mem same)
  have after := before.rowsOf_update done mem rfl fresh
  have isConn : m.connectionId = c := before.connection m mem
  have rows : ∀ other, other ∈ repo.rows ↔
      other = { m with enabled } ∨ (other ∈ w.repo.rows ∧ other ≠ m) := by
    intro other
    rw [mem_update done mem rfl, writeColumns_flag mem enabled]
  have isAll := mem_enabledAt (w := { w with repo }) after.connection m.location
  have state : ∃ tracked handed,
      ({ w with repo } : World).toggled { m with enabled } = { w with repo, tracked, handed } := by
    unfold toggled setsLogpoint
    split <;> split <;> exact ⟨_, _, rfl⟩
  have agree : Agreement (EnabledRow repo.rows) (fun _ => False) (fun _ => False)
      ((({ w with repo } : World).toggled { m with enabled }).tracked c) := by
    subst isConn
    cases enabled with
    | true =>
      -- the location is pending until the logpoint is set
      have changed : Agreement (EnabledRow repo.rows) (fun _ => False) (· = m.location)
          (w.tracked m.connectionId) := by
        refine before.change after (fun _ none => none.elim) (fun _ none => none.elim) ?_ ?_
        · rintro other ⟨has, isEnabled⟩
          refine .inl ⟨(rows other).mpr (.inr ⟨has, ?_⟩), isEnabled⟩
          rintro rfl
          exact ne isEnabled
        · rintro other ⟨isIn, isEnabled⟩
          rcases (rows other).mp isIn with rfl | ⟨has, -⟩
          · exact .inr rfl
          · exact .inl ⟨has, isEnabled⟩
      have logpoint := setsLogpoint_agree (w := { w with repo }) isAll changed
      exact logpoint.settled (fun _ none => none) fun _ _ waits => waits.2 waits.1
    | false =>
      have off : ∀ a, EnabledRow repo.rows a ↔ EnabledRow w.repo.rows a ∧ a ≠ m := by
        intro a
        rw [EnabledRow, EnabledRow, rows, or_and_right, and_right_comm]
        refine or_iff_right ?_
        rintro ⟨rfl, isOn⟩
        cases isOn
      have erased := (before.leaving mem).congr off
      rw [← removes_tracked { w with repo } m.connectionId] at erased
      have logpoint := setsLogpoint_agree isAll erased
      refine logpoint.settled (fun s isStale => isStale.2 (by rw [isStale.1])) ?_
      rintro other - ⟨waits, apart⟩
      exact waits.elim id apart
  obtain ⟨tracked, handed, isState⟩ := state
  rw [isState] at agree ⊢
  exact ⟨before.running, after.1, after.2, agree⟩

/-! ### Updating -/

/-- **An enabled metric that is alone is retired**: nothing is tracked at its location any more. -/
theorem retire (mem : old ∈ w.repo.rows) (alone : Alone w.repo.rows old) :
    Agreement (fun a => EnabledRow w.repo.rows a ∧ a ≠ old) (fun _ => False) (fun _ => False)
      ((w.tracked c).erase old.name) := by
  have closed := (before.leaving mem).close old.location ?_
  · refine closed.settled (fun m isStale => isStale.2 (by rw [isStale.1])) ?_
    rintro m - ⟨waits, apart⟩
    exact waits.elim id apart
  · rintro m ⟨⟨has, isOn⟩, ne⟩ here
    refine absurd (alone m has ?_ here isOn) ne
    rw [before.connection m has, before.connection old mem]

theorem without_disabled (isDisabled : old.enabled = false) :
    Agreement (fun a => EnabledRow w.repo.rows a ∧ a ≠ old) (fun _ => False) (fun _ => False)
      (w.tracked c) := by
  refine before.agree.congr fun a => ⟨And.left, fun hasRow => ⟨hasRow, ?_⟩⟩
  rintro rfl
  nomatch hasRow.2.symm.trans isDisabled

theorem update (old m : Metric) (isConn : m.connectionId = c)
    (mem : old ∈ w.repo.rows) (isOld : old.id = m.id) (done : w.repo.update m = .ok repo)
    (fresh : ∀ other ∈ w.repo.rows, other ≠ old → other.name ≠ m.name)
    (careful : old.enabled = true →
      Alone w.repo.rows old ∧ (m.enabled = false → m.name = old.name)) :
    InAgreement c (({ w with repo } : World).followed old m) := by
  obtain ⟨conn, named⟩ := before.rowsOf_update done mem isOld fresh
  have rows : ∀ other, EnabledRow repo.rows other ↔
      (EnabledRow w.repo.rows other ∧ other ≠ old) ∨
        (other = writeColumns old m ∧ m.enabled = true) := by
    intro other
    rw [EnabledRow, EnabledRow, mem_update done mem isOld, or_and_right, and_right_comm, or_comm]
    exact or_congr_right (and_congr_right fun put => by rw [put]; rfl)
  have isFresh : ∀ a, (EnabledRow w.repo.rows a ∧ a ≠ old) ∨ False →
      a.name ≠ (writeColumns old m).name := by
    rintro a (⟨hasRow, ne⟩ | none)
    · exact fresh a hasRow.1 ne
    · exact none.elim
  subst isConn
  unfold followed
  cases was : old.enabled <;> cases is : m.enabled <;>
    refine ⟨before.running, conn, named, ?_⟩ <;> simp only [is, and_true] at rows
  · exact (before.without_disabled was).congr fun a => (rows a).trans (by simp)
  · rw [sets_tracked]
    have armed := (before.without_disabled was).arm (t := m) isFresh rfl rfl fun e isIn => isIn
    exact armed.congr rows
  · obtain ⟨alone, sameName⟩ := careful was
    rw [removes_tracked, sameName is]
    exact (before.retire mem alone).congr fun a => (rows a).trans (by simp)
  · rw [sets_tracked, removes_tracked]
    have armed := (before.retire mem (careful was).1).arm (t := m) isFresh rfl rfl fun e isIn => isIn
    exact armed.congr rows

end

/-! ### Adding -/

/-- A metric is inserted where there is agreement without the one it replaces. -/
theorem insert {v : World} {others : Metric → Prop} (isConn : m.connectionId = c)
    (runs : v.hasAdapter c = true)
    (agree : Agreement others (fun _ => False) (fun _ => False) (v.tracked c))
    (isOthers : ∀ a, others a ↔ EnabledRow v.repo.rows a)
    (rowsOf : RowsOf c v.repo.rows) (fresh : ∀ row ∈ v.repo.rows, row.name ≠ m.name)
    (done : v.repo.save m = .ok (id, repo)) :
    InAgreement c (({ v with repo } : World).installed m id) := by
  obtain ⟨isId, isRows, -⟩ := save_eq_ok done
  have rows : ∀ other, other ∈ repo.rows ↔ other ∈ v.repo.rows ∨ other = storedAs id m := by
    intro other
    rw [isRows, mem_append, mem_singleton, isId]
  have named : ∀ a ∈ repo.rows, ∀ b ∈ repo.rows, a.name = b.name → a = b := by
    intro a isA b isB same
    rcases (rows a).mp isA with left | rfl <;> rcases (rows b).mp isB with right | rfl
    · exact rowsOf.named a left b right same
    · exact absurd same (fresh a left)
    · exact absurd same.symm (fresh b right)
    · rfl
  have conn : ∀ row ∈ repo.rows, row.connectionId = c := by
    intro row isIn
    rcases (rows row).mp isIn with old | rfl
    · exact rowsOf.connection row old
    · exact isConn
  have isFresh : ∀ a, others a ∨ False → a.name ≠ (storedAs id m).name := by
    rintro a (ne | none)
    · exact fresh a ((isOthers a).mp ne).1
    · exact none.elim
  have enabledRows : ∀ a, EnabledRow repo.rows a ↔
      others a ∨ (a = storedAs id m ∧ m.enabled = true) := by
    intro a
    rw [isOthers, EnabledRow, EnabledRow, rows, or_and_right]
    exact or_congr_right (and_congr_right fun stored => by rw [stored]; rfl)
  have armed := agree.arm (m := storedAs id m) (t := { m with id := some id }) isFresh rfl rfl
    (fun e isIn => isIn)
  subst isConn
  unfold installed
  by_cases isOn : m.enabled = true
  · rw [if_pos isOn]
    refine ⟨runs, conn, named, ?_⟩
    rw [sets_tracked]
    refine armed.congr fun a => (enabledRows a).trans ?_
    simp [isOn]
  · rw [if_neg isOn]
    refine ⟨runs, conn, named, agree.congr fun a => (enabledRows a).trans ?_⟩
    simp [isOn]

theorem replace (before : InAgreement c w) {existing : Metric} {old : MetricId}
    {gone : Repository} (isConn : m.connectionId = c)
    (mem : existing ∈ w.repo.rows) (isOld : existing.id = some old)
    (done : w.repo.delete old = .ok gone) (saved : gone.save m = .ok (id, repo))
    (fresh : ∀ row ∈ w.repo.rows, row ≠ existing → row.name ≠ m.name)
    (alone : existing.enabled = true → Alone w.repo.rows existing) :
    InAgreement c
      (({ w.cleared c existing with repo } : World).installed m id) := by
  have rows : ∀ other, other ∈ gone.rows ↔ other ∈ w.repo.rows ∧ other ≠ existing :=
    fun other => mem_delete done mem isOld
  have kept : ∀ other ∈ gone.rows, other ∈ w.repo.rows :=
    fun other isIn => ((rows other).mp isIn).1
  have agree : Agreement (fun a => EnabledRow w.repo.rows a ∧ a ≠ existing) (fun _ => False)
      (fun _ => False) ((w.cleared c existing).tracked c) := by
    unfold cleared
    rw [before.running, Bool.and_true]
    cases isOn : existing.enabled with
    | false => exact before.without_disabled isOn
    | true =>
      show Agreement _ _ _ ((w.removes c existing).tracked c)
      rw [removes_tracked]
      exact before.retire mem (alone isOn)
  obtain ⟨tracked, isCleared⟩ := cleared_same w c existing
  have runs : ({ w.cleared c existing with repo := gone } : World).hasAdapter
      c = true := by
    rw [isCleared]
    exact before.running
  refine insert (v := { w.cleared c existing with repo := gone }) isConn runs
    agree (fun a => ?_) (before.rowsOf.subset kept) ?_ saved
  · unfold EnabledRow
    rw [rows, and_right_comm]
  · intro row isIn
    exact fresh row (kept row isIn) ((rows row).mp isIn).2

theorem merge (before : InAgreement c w) {old : Metric}
    (isConn : m.connectionId = c) (mem : old ∈ w.repo.rows)
    (done : w.repo.update (mergeExpressions old m) = .ok repo)
    (alone : old.enabled = true → Alone w.repo.rows old) :
    InAgreement c (if old.enabled then
      (({ w with repo } : World).removes m.connectionId old).sets m.connectionId
        (mergeExpressions old m)
      else { w with repo }) := by
  have followed := before.update old (mergeExpressions old m)
    (before.connection old mem) mem rfl done
    (fun other has ne same => ne (before.eq_of_name has mem same))
    (fun isOn => ⟨alone isOn, fun _ => rfl⟩)
  have atConnection : (mergeExpressions old m).connectionId = m.connectionId :=
    (before.connection old mem).trans isConn.symm
  have sameFlag : (mergeExpressions old m).enabled = old.enabled := rfl
  rw [World.followed, atConnection, sameFlag] at followed
  cases isOn : old.enabled <;> rwa [isOn] at followed

/-! ### Groups -/

theorem syncedAll_same (w : World) (entries : List ((ConnectionId × Location) × Metric)) :
    ∃ tracked handed, w.syncedAll entries = { w with tracked, handed } := by
  induction entries generalizing w with
  | nil => exact ⟨w.tracked, w.handed, rfl⟩
  | cons entry rest ih =>
    obtain ⟨_, _, isSynced⟩ := synced_same w entry.1.1 entry.1.2 entry.2
    obtain ⟨tracked, handed, isLast⟩ := ih (w.synced entry.1.1 entry.1.2 entry.2)
    exact ⟨tracked, handed, isLast.trans (by rw [isSynced])⟩

theorem flagged_name (target : Bool) (scope : MetricScope) (metrics : List Metric) (row : Metric) :
    (flagged target scope metrics row).name = row.name ∧
      (flagged target scope metrics row).location = row.location ∧
      (flagged target scope metrics row).connectionId = row.connectionId := by
  unfold flagged
  split <;> exact ⟨rfl, rfl, rfl⟩

theorem group (before : InAgreement c w) {target : Bool} {scope : MetricScope}
    {metrics : List Metric} {entries order : List ((ConnectionId × Location) × Metric)}
    (stored : ∀ m ∈ metrics, m ∈ w.repo.rows)
    (isRows : repo.rows = w.repo.rows.map (flagged target scope metrics))
    (locations : GroupLocations target scope metrics [] entries) (isOrder : order.Perm entries)
    (alone : target = false → ∀ m ∈ metrics, Flips target scope m → Alone w.repo.rows m) :
    InAgreement c (({ w with repo } : World).syncedAll order) := by
  have flag := flagged_name target scope metrics
  have rows : ∀ other, other ∈ repo.rows ↔
      ∃ row ∈ w.repo.rows, flagged target scope metrics row = other := by
    intro other
    rw [isRows, mem_map]
  have after : RowsOf c repo.rows := by
    constructor
    · intro row isIn
      obtain ⟨x, isX, rfl⟩ := (rows row).mp isIn
      rw [(flag x).2.2]
      exact before.connection x isX
    · intro a isA b isB same
      obtain ⟨x, isX, rfl⟩ := (rows a).mp isA
      obtain ⟨y, isY, rfl⟩ := (rows b).mp isB
      rw [(flag x).1, (flag y).1] at same
      rw [before.eq_of_name isX isY same]
  have known : ∀ entry ∈ order, ∃ m ∈ metrics, Flips target scope m ∧
      entry = locationEntry target m := by
    intro entry isIn
    rcases locations.known entry (isOrder.subset isIn) with none | found
    · cases none
    · exact found
  have found : ∀ m ∈ metrics, Flips target scope m → ∃ entry ∈ order, m.location = entry.1.2 := by
    intro m isIn flips
    obtain ⟨entry, isEntry, isKey⟩ := locations.found m isIn flips
    exact ⟨entry, isOrder.symm.subset isEntry, by rw [isKey]⟩
  -- stale are the metrics that were disabled, and pending the locations of those that were enabled
  let stale : Metric → Prop := fun s => target = false ∧ s ∈ metrics ∧ Flips target scope s
  let pending : Location → Prop := fun loc =>
    target = true ∧ ∃ m ∈ metrics, Flips target scope m ∧ m.location = loc
  have off : ∀ s, stale s → ∀ a, EnabledRow repo.rows a → a.name ≠ s.name := by
    rintro s ⟨isOff, isIn, flips⟩ a ⟨isA, isOn⟩ same
    obtain ⟨x, isX, rfl⟩ := (rows a).mp isA
    rw [(flag x).1] at same
    obtain rfl := before.eq_of_name isX (stored s isIn) same
    rw [flagged, if_pos ⟨isIn, flips⟩, isOff] at isOn
    cases isOn
  have changed : Agreement (EnabledRow repo.rows) stale pending (w.tracked c) := by
    refine before.change after (fun s isStale => stored s isStale.2.1) ?_ ?_ ?_
    · exact fun s isStale a hasRow same => absurd same (off s isStale a hasRow)
    · rintro m ⟨isIn, isOn⟩
      by_cases flips : m ∈ metrics ∧ Flips target scope m
      · have isOff : target = false := by
          cases target with
          | false => rfl
          | true => exact absurd isOn flips.2.2
        exact .inr ⟨isOff, flips⟩
      · exact .inl ⟨(rows m).mpr ⟨m, isIn, if_neg flips⟩, isOn⟩
    · rintro m ⟨isIn, isOn⟩
      obtain ⟨x, isX, rfl⟩ := (rows m).mp isIn
      by_cases flips : x ∈ metrics ∧ Flips target scope x
      · refine .inr ⟨?_, x, flips.1, flips.2, (flag x).2.1.symm⟩
        rw [flagged, if_pos flips] at isOn
        exact isOn
      · rw [flagged, if_neg flips] at isOn ⊢
        exact .inl ⟨isX, isOn⟩
  have synced := syncedAll_agree order { w with repo } stale pending after.connection changed ?_ ?_ ?_
  · obtain ⟨tracked, handed, isState⟩ := syncedAll_same { w with repo } order
    rw [isState] at synced ⊢
    refine ⟨before.running, after.1, after.2, synced.settled ?_ ?_⟩
    · rintro s ⟨⟨-, isIn, flips⟩, apart⟩
      obtain ⟨entry, isEntry, here⟩ := found s isIn flips
      exact apart entry isEntry here
    · rintro m - ⟨⟨-, x, isIn, flips, isLoc⟩, apart⟩
      obtain ⟨entry, isEntry, here⟩ := found x isIn flips
      exact apart entry isEntry (isLoc.symm.trans here)
  · intro entry isEntry
    obtain ⟨m, isIn, -, rfl⟩ := known entry isEntry
    exact before.connection m (stored m isIn)
  · intro entry isEntry a isKnown same
    obtain ⟨m, isIn, flips, rfl⟩ := known entry isEntry
    rcases isKnown with hasRow | isStale
    · obtain ⟨x, isX, rfl⟩ := (rows a).mp hasRow.1
      rw [(flag x).1] at same
      rw [(flag x).2.1, before.eq_of_name isX (stored m isIn) same]
      rfl
    · rw [before.eq_of_name (stored a isStale.2.1) (stored m isIn) same]
      rfl
  · intro entry isEntry s isStale here
    obtain ⟨m, isIn, flips, rfl⟩ := known entry isEntry
    have isOff : target = false := isStale.1
    have isAlone := alone isOff m isIn flips
    have wasOn : ∀ x, Flips target scope x → x.enabled = true := by
      intro x isFlip
      rw [isOff] at isFlip
      simpa using isFlip.2
    have sameConnection : ∀ x ∈ w.repo.rows, x.connectionId = m.connectionId := by
      intro x isX
      rw [before.connection x isX, before.connection m (stored m isIn)]
    constructor
    · have isM : s = m := isAlone s (stored s isStale.2.1) (sameConnection s (stored s isStale.2.1))
        here (wasOn s isStale.2.2)
      rw [isM]
      rfl
    · rintro a ⟨isA, isOn⟩ there
      obtain ⟨x, isX, rfl⟩ := (rows a).mp isA
      rw [(flag x).2.1] at there
      by_cases flipsX : x ∈ metrics ∧ Flips target scope x
      · rw [flagged, if_pos flipsX, isOff] at isOn
        cases isOn
      · rw [flagged, if_neg flipsX] at isOn
        have isM := isAlone x isX (sameConnection x isX) there isOn
        exact flipsX (isM ▸ ⟨isIn, flips⟩)

end InAgreement

/-! ### Runs -/

/-- A request on the metrics of the connection; a name that is submitted is no other metric's. -/
def OnConnection (connectionId : ConnectionId) (w : World) : Request → Prop
  | .addMetric m _ _ => m.connectionId = connectionId ∧
    ∀ row ∈ w.repo.rows, slot row ≠ slot m → row.name ≠ m.name
  | .updateMetric m _ => m.connectionId = connectionId ∧
    ∀ row ∈ w.repo.rows, row.id ≠ m.id → row.name ≠ m.name
  | .removeMetric _ _ | .toggleMetric _ _ _ | .enableGroup _ _ | .disableGroup _ _ => True
  | .importMetric _ | .syncMetrics _ | .startAdapter _ _ _ _ | .stopAdapter _ => False

/-- **An enabled metric is replaced, merged into, updated, removed or disabled with its group only
where it is alone**, and not renamed by the update that disables it. -/
def WhereAlone (w : World) : Request → Prop
  | .addMetric m replace _ => ∀ existing,
    w.repo.findByLocation m.connectionId m.location m.userId = some existing →
      existing.enabled = true → (replace = true ∨ newExpressions existing m ≠ []) →
        Alone w.repo.rows existing
  | .updateMetric m _ => ∀ row ∈ w.repo.rows, row.id = m.id → row.enabled = true →
    Alone w.repo.rows row ∧ (m.enabled = false → m.name = row.name)
  | .removeMetric id _ => ∀ row ∈ w.repo.rows, row.id = some id → row.enabled = true →
    Alone w.repo.rows row
  | .disableGroup group scope => ∀ row ∈ w.repo.findByGroup group, scope.canMutate row = true →
    row.enabled = true → Alone w.repo.rows row
  | _ => True

/-- A step of the runs: no call fails, and the request is within the conditions. -/
def AgreeStep (connectionId : ConnectionId) (w : World) (event : Request × List Answer) : Prop :=
  event.2 = [] ∧ OnConnection connectionId w event.1 ∧ WhereAlone w event.1

section Steps

variable {env : Env} {c : ConnectionId} {w : World}

theorem inAgreement_add (before : InAgreement c w) (quiet : w.answers = [])
    {replace : Bool} {text : Option String}
    (onConnection : OnConnection c w (.addMetric m replace text))
    (alone : WhereAlone w (.addMetric m replace text)) :
    InAgreement c (addMetric env m replace text w).2 := by
  obtain ⟨isConn, fresh⟩ := onConnection
  have runs : w.hasAdapter m.connectionId = true := isConn ▸ before.running
  have kept : InAgreement c (w.keeps m text) := { before with }
  have anchor : (anchored env m).1.name = m.name ∧ (anchored env m).1.connectionId = c := by
    obtain ⟨_, _, isAnchored⟩ := anchored_eq env m
    rw [isAnchored]
    exact ⟨rfl, isConn⟩
  rcases addMetric_accepted env quiet m replace text with no | ⟨warns, isRun⟩
  · rw [no]
    exact kept
  rw [isRun]
  cases found : w.repo.findByLocation m.connectionId m.location m.userId with
  | none =>
    have free := findByLocation_eq_none found
    obtain ⟨repo, saved⟩ := save_succeeds (m := (anchored env m).1)
      (fun row isIn => (anchored_slot env m).symm ▸ free row isIn)
    rw [addFound, insertMetric_quiet (w := w.keeps m text) env quiet warns runs saved]
    refine .insert (v := w.keeps m text) anchor.2
      before.running before.agree (fun _ => Iff.rfl) before.rowsOf ?_ saved
    intro row isIn
    rw [anchor.1]
    exact fresh row isIn (free row isIn)
  | some old =>
    obtain ⟨mem, sameConnection, sameLocation, sameOwner⟩ :=
      findByLocation_eq_some found
    have sameSlot : slot old = slot m := by
      rw [slot, slot, sameConnection, sameLocation, sameOwner]
    obtain ⟨id, isId, -⟩ := w.repo.numbered old mem
    rw [addFound]
    cases replace with
    | true =>
      rw [if_pos rfl]
      obtain ⟨gone, done⟩ := delete_succeeds mem isId
      have free : ∀ row ∈ gone.rows, slot row ≠ slot (anchored env m).1 := by
        intro row isIn same
        obtain ⟨has, ne⟩ := (mem_delete done mem isId).mp isIn
        rw [anchored_slot, ← sameSlot] at same
        exact ne (w.repo.slot_eq_of_slot has mem same)
      obtain ⟨repo, saved⟩ := save_succeeds free
      obtain ⟨warning, replaced⟩ := replaceExisting_quiet (m := m)
        (w := w.keeps m text) quiet isId done
      obtain ⟨tracked, isCleared⟩ := cleared_same (w.keeps m text)
        m.connectionId old
      rw [Program.bind_of_ok replaced, insertMetric_quiet env (by rw [isCleared]; exact quiet) _
        (by rw [isCleared]; exact runs) saved, isConn]
      refine kept.replace anchor.2 mem isId done saved ?_ ?_
      · intro row isIn ne
        rw [anchor.1]
        refine fresh row isIn fun same => ne ?_
        exact w.repo.slot_eq_of_slot isIn mem (same.trans sameSlot.symm)
      · exact fun isOn => alone old found isOn (.inl rfl)
    | false =>
      rw [if_neg (by simp)]
      by_cases nothingNew : newExpressions old m = []
      · rw [mergeInto, isId]
        dsimp only
        rw [if_pos nothingNew]
        exact kept
      · have isMerged : old.id = (mergeExpressions old m).id := rfl
        obtain ⟨repo, done⟩ := (update_succeeds_iff mem isMerged).mpr
          fun other has ne taken =>
            ne (w.repo.slot_eq_of_slot has mem taken)
        rw [mergeInto_quiet (w := w.keeps m text) quiet warns isId
          runs nothingNew done]
        exact kept.merge isConn mem done
          fun isOn => alone old found isOn (.inr nothingNew)

theorem inAgreement_serve (before : InAgreement c w) (quiet : w.answers = []) {req : Request}
    (onConnection : OnConnection c w req) (alone : WhereAlone w req) :
    InAgreement c (req.serve env w).2 := by
  have runs : ∀ row ∈ w.repo.rows, w.hasAdapter row.connectionId = true :=
    fun row isIn => before.connection row isIn ▸ before.running
  cases req with
  | addMetric m replace text =>
    rw [serve, Program.discard_state]
    exact inAgreement_add before quiet onConnection alone
  | updateMetric m scope =>
    obtain ⟨isConn, fresh⟩ := onConnection
    rw [serve, Program.discard_state]
    rcases updateMetric_quiet env quiet m scope (isConn ▸ before.running) with
      unchanged | ⟨old, repo, mem, isOld, done, isRun⟩
    · rwa [unchanged]
    · rw [isRun]
      refine before.update old m isConn mem isOld done ?_ (alone old mem isOld)
      intro other has ne
      exact fresh other has fun same =>
        ne (w.repo.eq_of_id has mem (same.trans isOld.symm))
  | removeMetric id scope =>
    rw [serve]
    rcases removeMetric_quiet quiet id scope runs with
      unchanged | ⟨m, repo, mem, isId, done, isRun⟩
    · rwa [unchanged]
    · rw [isRun, before.connection m mem]
      exact before.remove mem isId done (alone m mem isId)
  | toggleMetric id isOn scope =>
    rw [serve, Program.discard_state]
    rcases toggleMetric_quiet quiet id isOn scope runs with
      unchanged | ⟨m, repo, mem, ne, done, isRun⟩
    · rwa [unchanged]
    · rw [isRun]
      exact before.toggle mem ne done
  | enableGroup group scope =>
    rw [serve, Program.discard_state]
    obtain ⟨repo, entries, isRun, rows, locations⟩ := setGroup_quiet env quiet true group scope runs
    rw [enableGroup, isRun]
    exact before.group (fun m isIn => (mem_findByGroup.mp isIn).1) rows locations
      (env.order_perm entries) fun off => by cases off
  | disableGroup group scope =>
    rw [serve, Program.discard_state]
    obtain ⟨repo, entries, isRun, rows, locations⟩ := setGroup_quiet env quiet false group scope runs
    rw [disableGroup, isRun]
    refine before.group (fun m isIn => (mem_findByGroup.mp isIn).1) rows locations
      (env.order_perm entries) fun _ m isIn flips => ?_
    exact alone m isIn flips.1 (by simpa using flips.2)
  | importMetric | syncMetrics | startAdapter | stopAdapter => exact onConnection.elim

/-- **A step within the conditions keeps the agreement.** -/
theorem inAgreement_step (w : World) (event : Request × List Answer)
    (before : InAgreement c w) (allowed : AgreeStep c w event) : InAgreement c (step env w event) := by
  obtain ⟨req, answers⟩ := event
  obtain ⟨rfl, onConnection, alone⟩ := allowed
  exact inAgreement_serve (w := { w with answers := [] }) { before with } rfl onConnection alone

end Steps

/-- **Storage and adapter agree.** A connection with an adapter starts with nothing stored and
nothing tracked; after every run whose steps are within the conditions, each tracked metric has the
name and location of an enabled stored one, and each expression of an enabled stored metric is
tracked at its location. -/
theorem storage_and_adapter_agree (env : Env) (connectionId : ConnectionId) (w : World)
    (noRows : w.repo.rows = []) (nothingTracked : (w.tracked connectionId).metrics = [])
    (running : w.hasAdapter connectionId = true) (events : List (Request × List Answer))
    (allowed : Run.Allowed (step env) (AgreeStep connectionId) w events) :
    (∀ t ∈ ((after (step env) w events).tracked connectionId).metrics,
      ∃ m ∈ (after (step env) w events).repo.rows,
        m.enabled = true ∧ m.name = t.name ∧ m.location = t.location) ∧
      ∀ m ∈ (after (step env) w events).repo.rows, m.enabled = true → ∀ e ∈ m.expressions,
        ∃ t ∈ ((after (step env) w events).tracked connectionId).metrics,
          t.location = m.location ∧ e ∈ t.expressions := by
  have noRow : ∀ row, row ∉ w.repo.rows := fun row isIn => absurd (noRows ▸ isIn) not_mem_nil
  have start : InAgreement connectionId w := by
    refine ⟨running, fun row isIn => absurd isIn (noRow row), fun a isA => absurd isA (noRow a), ?_⟩
    refine ⟨?_, ?_, fun m hasRow => absurd hasRow.1 (noRow m)⟩
    · rintro a b (hasRow | none)
      · exact absurd hasRow.1 (noRow a)
      · exact none.elim
    · intro name t found
      have tracked := ActiveMetrics.mem_metrics.mpr ((ActiveMetrics.get_name found).symm ▸ found)
      rw [nothingTracked] at tracked
      cases tracked
  obtain ⟨-, -, -, agree⟩ := invariant_after (step env) inAgreement_step events w start allowed
  constructor
  · intro t isTracked
    obtain ⟨m, hasRow | none, isName, isLoc⟩ :=
      agree.armed t.name t (ActiveMetrics.mem_metrics.mp isTracked)
    · exact ⟨m, hasRow.1, hasRow.2, isName, isLoc⟩
    · exact none.elim
  · intro m isIn isOn e mem
    obtain ⟨name, t, found, isLoc, tracked⟩ :=
      agree.covered m ⟨isIn, isOn⟩ (fun none => none) e mem
    refine ⟨t, ActiveMetrics.mem_metrics.mpr ?_, isLoc, tracked⟩
    rw [ActiveMetrics.get_name found]
    exact found

/-! ### Two metrics on one line -/

section Sample

def runningWorld : World := { emptyWorld with adapters := [("c", false)] }

def lineMetric (user name : String) : Metric := { smallMetric with userId := some user, name := name }

/-- Two users add a metric on the same line. -/
def addTwo : List (Request × List Answer) :=
  [(.addMetric (lineMetric "u" "m") false none, []),
    (.addMetric (lineMetric "v" "n") false none, [])]

theorem addTwo_allowed : Run.Allowed (step smallService) (AgreeStep "c") runningWorld
    (addTwo ++ [(Request.toggleMetric 1 false .admin, [])]) := by
  have first : runningWorld.repo.findByLocation "c" ⟨"app.py", 1⟩ (some "u") = none := rfl
  have second : (step smallService runningWorld (.addMetric (lineMetric "u" "m") false none, [])
      ).repo.findByLocation "c" ⟨"app.py", 1⟩ (some "v") = none := by decide
  refine ⟨⟨rfl, ⟨rfl, by decide⟩, ?_⟩, ⟨rfl, ⟨rfl, by decide⟩, ?_⟩,
    ⟨rfl, trivial, trivial⟩, trivial⟩
  · intro old found
    nomatch first.symm.trans found
  · intro old found
    nomatch second.symm.trans found

/-- After the first of two metrics was toggled, the second one is tracked with its expression. -/
theorem addTwoToggleOne_agree :
    ((after (step smallService) runningWorld
        (addTwo ++ [(Request.toggleMetric 1 false .admin, [])])).tracked "c").metrics.map (·.name) = ["n"] ∧
      ∀ t ∈ ((after (step smallService) runningWorld
          (addTwo ++ [(Request.toggleMetric 1 false .admin, [])])).tracked "c").metrics,
        ∃ m ∈ (after (step smallService) runningWorld
            (addTwo ++ [(Request.toggleMetric 1 false .admin, [])])).repo.rows,
          m.enabled = true ∧ m.name = t.name ∧ m.location = t.location := by
  refine ⟨by decide, ?_⟩
  exact (storage_and_adapter_agree smallService "c" runningWorld rfl rfl rfl _ addTwo_allowed).1

/-- Two users add a metric on the same line, and the first metric is removed. It is not stored any
more and is still tracked. -/
theorem removed_metric_stays_tracked :
    (after (step smallService) runningWorld
        (addTwo ++ [(Request.removeMetric 1 .admin, [])])).repo.rows.map (·.name) = ["n"] ∧
      ((after (step smallService) runningWorld
        (addTwo ++ [(Request.removeMetric 1 .admin, [])])).tracked "c").metrics.map (·.name) =
        ["n", "m"] := by
  decide

end Sample

end Detrix.Service
