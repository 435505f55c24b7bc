/-
**Looking a metric up by its name.**

Names are not unique. `get_metric_by_name_scoped` takes the first row of the name among the rows of
all users and only then asks whether the caller may read it, so that a row of someone else can hide
the caller's own.

- `findByName_least`: the row that is taken is the oldest one of the name.
- `name_lookup_independent_iff`: over two repositories with the same readable metrics the answers
  agree, and readable metrics are found, exactly if no older foreign row of the name hides them.
- `own_metric_hidden`: a foreign metric of the same name hides the caller's own.
-/

import Detrix.Service.Runs

namespace Detrix.Service

open Detrix.Core Library List Option

/-- What `get_metric_by_name_scoped` returns over a repository whose queries do not fail. -/
def nameAnswer (w : World) (repo : Repository) (name : String) (scope : MetricScope) :
    Except ServiceError (Option Metric) :=
  (getMetricByNameScoped name scope { w with repo, answers := [] }).1

theorem nameAnswer_eq (w : World) (repo : Repository) (name : String) (scope : MetricScope) :
    nameAnswer w repo name scope = .ok ((repo.findByName name).filter scope.canRead) :=
  rfl

/-! ### The oldest row of a name -/

variable {repo : Repository} {name : String} {scope : MetricScope}

theorem findByName_eq_some {row : Metric} (found : repo.findByName name = some row) :
    row ∈ repo.rows ∧ row.name = name :=
  ⟨mem_of_find?_eq_some found, by simpa using find?_some found⟩

theorem findByName_least {row other : Metric} (found : repo.findByName name = some row)
    (mem : other ∈ repo.rows) (named : other.name = name) : rowId row ≤ rowId other := by
  obtain ⟨-, before, after, isRows, others⟩ := find?_eq_some_iff_append.mp found
  have order := repo.ordered
  rw [isRows, pairwise_append] at order
  rw [isRows] at mem
  rcases mem_append.mp mem with earlier | here
  · exact absurd (decide_eq_true named) (by simpa using others other earlier)
  · rcases mem_cons.mp here with rfl | later
    · rfl
    · exact Nat.le_of_lt (rel_of_pairwise_cons order.2.1 later)

def HasReadable (repo : Repository) (name : String) (scope : MetricScope) : Prop :=
  ∃ m ∈ repo.rows, m.name = name ∧ scope.canRead m = true

/-- **No older foreign row hides the readable ones**: if a metric of the name is readable, the
oldest row of the name is. -/
def NotHidden (repo : Repository) (name : String) (scope : MetricScope) : Prop :=
  HasReadable repo name scope →
    ∃ m ∈ repo.rows, m.name = name ∧ scope.canRead m = true ∧
      ∀ other ∈ repo.rows, other.name = name → rowId m ≤ rowId other

theorem found_iff_notHidden :
    (HasReadable repo name scope → ((repo.findByName name).filter scope.canRead).isSome = true) ↔
      NotHidden repo name scope := by
  refine forall_congr' fun ⟨m, mem, named, readable⟩ => ?_
  obtain ⟨row, found⟩ : ∃ row, repo.findByName name = some row := by
    rw [← isSome_iff_exists, Repository.findByName, find?_isSome]
    exact ⟨m, mem, decide_eq_true named⟩
  obtain ⟨isIn, isNamed⟩ := findByName_eq_some found
  rw [found]
  constructor
  · intro isSome
    have mayRead : scope.canRead row = true := by
      by_contra mayNot
      simp [filter, mayNot] at isSome
    exact ⟨row, isIn, isNamed, mayRead, fun other has => findByName_least found has⟩
  · rintro ⟨oldest, has, isName, mayRead, least⟩
    have same : oldest = row := by
      refine repo.eq_of_rowId has isIn (Nat.le_antisymm (least row isIn isNamed) ?_)
      exact findByName_least found has isName
    rw [← same]
    simp [filter, mayRead]

/-! ### Two repositories -/

/-- The repositories agree on what the caller may read. -/
def SameReadable (scope : MetricScope) (one two : Repository) : Prop :=
  ∀ m, scope.canRead m = true → (m ∈ one.rows ↔ m ∈ two.rows)

variable {one two : Repository}

theorem SameReadable.symm (same : SameReadable scope one two) : SameReadable scope two one :=
  fun m readable => (same m readable).symm

/-- What the one answers is answered by the other too, if nothing is hidden. -/
theorem answer_of_same {m : Metric} (same : SameReadable scope one two)
    (visible : NotHidden two name scope)
    (found : (one.findByName name).filter scope.canRead = some m) :
    (two.findByName name).filter scope.canRead = some m := by
  obtain ⟨isFound, readable⟩ := filter_eq_some_iff.mp found
  obtain ⟨mem, named⟩ := findByName_eq_some isFound
  have has := (same m readable).mp mem
  have isSome := found_iff_notHidden.mpr visible ⟨m, has, named, readable⟩
  obtain ⟨other, ne⟩ := isSome_iff_exists.mp isSome
  obtain ⟨otherFound, mayRead⟩ := filter_eq_some_iff.mp ne
  obtain ⟨otherIn, isNamed⟩ := findByName_eq_some otherFound
  -- each is the oldest of its repository, and both are in both
  have ids : rowId other = rowId m := by
    refine Nat.le_antisymm (findByName_least otherFound has named) ?_
    exact findByName_least isFound ((same other mayRead).mpr otherIn) isNamed
  rw [ne, two.eq_of_rowId otherIn has ids]

/-- **The lookup does not depend on the metrics of others exactly if it is not hidden by them.** -/
theorem name_lookup_independent_iff (w : World) (name : String) (scope : MetricScope)
    (one two : Repository) (same : SameReadable scope one two) :
    (nameAnswer w one name scope = nameAnswer w two name scope ∧
        (HasReadable one name scope → ∃ m, nameAnswer w one name scope = .ok (some m)) ∧
        (HasReadable two name scope → ∃ m, nameAnswer w two name scope = .ok (some m))) ↔
      NotHidden one name scope ∧ NotHidden two name scope := by
  have found : ∀ repo, (HasReadable repo name scope →
      ∃ m, nameAnswer w repo name scope = .ok (some m)) ↔ NotHidden repo name scope := by
    intro repo
    rw [← found_iff_notHidden]
    simp only [nameAnswer_eq, Except.ok.injEq, isSome_iff_exists]
  rw [found one, found two]
  refine ⟨And.right, fun visible => ⟨?_, visible⟩⟩
  rw [nameAnswer_eq, nameAnswer_eq, Except.ok.injEq]
  refine ext fun m => ⟨?_, ?_⟩
  · exact answer_of_same same visible.2
  · exact answer_of_same same.symm visible.1

/-! ### Two users with metrics of one name -/

def metricOf (userId : String) : Metric := { smallMetric with userId := some userId }

def ownFirst : Repository := saveAll [metricOf "u", metricOf "v"]

def foreignFirst : Repository := saveAll [metricOf "v", metricOf "u"]

def withoutId (id : MetricId) (repo : Repository) : Repository :=
  match repo.delete id with
  | .ok after => after
  | .error _ => repo

/-- Deleting a row that the caller may not read changes nothing for the caller. -/
theorem sameReadable_of_rows (foreign : Metric) (foreignRow : scope.canRead foreign = false)
    (rows : ∀ m, m ∈ one.rows ↔ m = foreign ∨ m ∈ two.rows) : SameReadable scope one two := by
  intro m readable
  rw [rows]
  refine or_iff_right fun isForeign => ?_
  rw [isForeign, foreignRow] at readable
  exact Bool.noConfusion readable

/-- The older metric of the user `v` hides the metric of the user `u`, who finds it only after the
other one is deleted. -/
theorem own_metric_hidden :
    SameReadable (.user "u") foreignFirst (withoutId 1 foreignFirst) ∧
      HasReadable foreignFirst "m" (.user "u") ∧
      nameAnswer emptyWorld foreignFirst "m" (.user "u") = .ok none ∧
      nameAnswer emptyWorld (withoutId 1 foreignFirst) "m" (.user "u") =
        .ok (some (storedAs 2 (metricOf "u"))) := by
  have both : foreignFirst.rows = [storedAs 1 (metricOf "v"), storedAs 2 (metricOf "u")] := by decide
  have one : (withoutId 1 foreignFirst).rows = [storedAs 2 (metricOf "u")] := by decide
  refine ⟨sameReadable_of_rows (storedAs 1 (metricOf "v")) (by decide) fun m => ?_, ?_, ?_, ?_⟩
  · rw [both, one]
    exact mem_cons
  · rw [HasReadable, both]
    exact ⟨storedAs 2 (metricOf "u"), by simp, by decide, by decide⟩
  · decide
  · decide

/-- If the own metric is the older one, it is found whether the other one is there or not. -/
theorem own_metric_found :
    nameAnswer emptyWorld ownFirst "m" (.user "u") =
        nameAnswer emptyWorld (withoutId 2 ownFirst) "m" (.user "u") ∧
      ∃ m, nameAnswer emptyWorld ownFirst "m" (.user "u") = .ok (some m) := by
  have both : ownFirst.rows = [storedAs 1 (metricOf "u"), storedAs 2 (metricOf "v")] := by decide
  have one : (withoutId 2 ownFirst).rows = [storedAs 1 (metricOf "u")] := by decide
  have same : SameReadable (.user "u") ownFirst (withoutId 2 ownFirst) := by
    refine sameReadable_of_rows (storedAs 2 (metricOf "v")) (by decide) fun m => ?_
    rw [both, one]
    simp [or_comm]
  have oldest : ∀ repo : Repository,
      (∀ row ∈ repo.rows, row = storedAs 1 (metricOf "u") ∨ row = storedAs 2 (metricOf "v")) →
      storedAs 1 (metricOf "u") ∈ repo.rows → NotHidden repo "m" (.user "u") := by
    intro repo rows mem _
    refine ⟨storedAs 1 (metricOf "u"), mem, by decide, by decide, fun other has _ => ?_⟩
    rcases rows other has with rfl | rfl <;> decide
  have lookup := (name_lookup_independent_iff emptyWorld "m" (.user "u") _ _ same).mpr
    ⟨oldest _ (by simp [both]) (by simp [both]), oldest _ (by simp [one]) (by simp [one])⟩
  exact ⟨lookup.1, lookup.2.1 ⟨storedAs 1 (metricOf "u"), by simp [both], by decide, by decide⟩⟩

end Detrix.Service
