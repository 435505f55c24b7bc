/-
**Runtime changes of the configuration.**

`update_config` merges a partial document into the document of the current configuration and reads the
result; `reload_from_file` reads a file. Neither calls `validate_config`, which the loader calls at the
start.

`active_config_valid`: the configuration in memory, and the file that was written, stay valid in every
run in which each partial document passes the checks together with the current settings, and each
reloaded file passes them by itself; and only then.
-/

import Detrix.Config.Settings
import Detrix.Library.Run

namespace Detrix.Service.Configuration

open Config Library List

/-- A document that was parsed: the keys of its tables are distinct. -/
structure Document where
  entries : List (String × Toml)
  wellFormed : (Toml.table entries).WellFormed

def Document.toml (document : Document) : Toml := .table document.entries

def restartRequiredFields : List String :=
  ["api.rest.host", "api.rest.port", "api.grpc.host", "api.grpc.port", "storage.storage_type",
    "storage.path", "storage.pool_size", "daemon.pid_file", "daemon.log_file", "daemon.working_dir"]

mutual

/-- `check_restart_required_fields`: the field that it complains about. -/
def checkRestartRequiredFields (before : String) : Toml → Option String
  | .table entries => checkEntries before entries
  | _ => none

def checkEntries (before : String) : List (String × Toml) → Option String
  | [] => none
  | (key, value) :: rest =>
    let path := if before = "" then key else before ++ "." ++ key
    if path ∈ restartRequiredFields then some path
    else
      match checkRestartRequiredFields path value with
      | some field => some field
      | none => checkEntries before rest

end

inductive ConfigError where
  | parse
  | restartRequired (field : String)
  | deserialize
  | write
  | read
  deriving DecidableEq

/-- The library that reads values, and what it makes of the other fields. -/
structure Env (Others : Type) where
  serde : Serde
  mergeOthers : Others → Document → Option Others
  readOthers : Document → Option Others

structure ConfigService (Others : Type) where
  config : Settings
  others : Others
  hasPath : Bool
  /-- The document in that file, as long as it is the one that was written last. -/
  persisted : Option Toml

variable {Others : Type} (env : Env Others) (s : ConfigService Others)

namespace ConfigService

/-- `update_config`; `writes` is whether the file can be written. -/
def updateConfig (partialToml : Option Document)
    (persist writes : Bool) : Except ConfigError Unit × ConfigService Others :=
  match partialToml with
  | none => (.error .parse, s)
  | some document =>
    match checkRestartRequiredFields "" document.toml with
    | some field => (.error (.restartRequired field), s)
    | none =>
      match read env.serde ((write s.config).merge document.toml), env.mergeOthers s.others document with
      | some merged, some others =>
        if persist && s.hasPath then
          if writes then
            (.ok (), { s with config := merged, others, persisted := some (write merged) })
          else (.error .write, { s with persisted := none })
        else (.ok (), { s with config := merged, others })
      | _, _ => (.error .deserialize, s)

/-- `reload_from_file`, with the document in the file. -/
def reloadFromFile (content : Option Document) :
    Except ConfigError Unit × ConfigService Others :=
  match content with
  | none => (.error .read, s)
  | some document =>
    match read env.serde document.toml, env.readOthers document with
    | some config, some others => (.ok (), { s with config, others })
    | _, _ => (.error .deserialize, s)

end ConfigService

inductive Event where
  | update (partialToml : Option Document) (persist writes : Bool)
  | reload (content : Option Document)
  /-- Somebody changes the file. -/
  | edit

namespace ConfigService

def step : Event → ConfigService Others
  | .update partialToml persist writes => (s.updateConfig env partialToml persist writes).2
  | .reload content => (s.reloadFromFile env content).2
  | .edit => { s with persisted := none }

/-- The configuration in memory is accepted, and so is the file that was written. -/
def Sound : Prop :=
  s.config.Valid ∧ ∀ document ∈ s.persisted, ∃ c, read env.serde document = some c ∧ c.Valid

end ConfigService

open ConfigService

/-- **The settings that an update or a reload brings are accepted**: those of the partial document, with
the current settings for what is not in it, or those of the file. -/
def Accepted : Event → Prop
  | .update (some document) _ _ =>
    checkRestartRequiredFields "" document.toml = none →
      ∀ c, readWith env.serde (kept s.config) document.toml = some c → c.Valid
  | .reload (some document) => ∀ c, read env.serde document.toml = some c → c.Valid
  | _ => True

/-! ### What is written and read again -/

theorem kept_text (c : Settings) {f : Field} (isText : f.kind = .text)
    (nothing : HEq (Settings.default f) (none : Option String)) : kept c f = c f := by
  unfold kept
  generalize c f = value at *
  generalize Settings.default f = base at *
  revert value base
  rw [isText]
  intro value base nothing
  obtain rfl : base = (none : Option String) := eq_of_heq nothing
  cases value with
  | none | some text => rfl

/-- Only the old token is not written. -/
theorem auth_kept (c : Settings) : (kept c).auth = { c.auth with bearerTokenDeprecated := none } := by
  have url : kept c .jwksUrl = c .jwksUrl := kept_text c rfl HEq.rfl
  have claim : kept c .adminRoleClaim = c .adminRoleClaim := kept_text c rfl HEq.rfl
  have value : kept c .adminRoleValue = c .adminRoleValue := kept_text c rfl HEq.rfl
  have mode : kept c .authMode = c .authMode := by
    unfold kept
    cases c .authMode <;> rfl
  unfold Settings.auth
  rw [url, claim, value, mode]
  rfl

theorem validate_without_bearer {config : AuthConfig} (ok : config.validate = .ok ()) :
    { config with bearerTokenDeprecated := none }.validate = .ok () := by
  unfold AuthConfig.validate at ok ⊢
  by_cases old : (config.bearerTokenDeprecated.isSome && config.users.isEmpty) = true
  · rw [if_pos old] at ok
    cases ok
  · rw [if_neg old] at ok
    exact ok

theorem errorOf_eq_nil {result : Except String Unit} : errorOf result = [] ↔ result = .ok () := by
  cases result with
  | error msg | ok value => simp [errorOf]

theorem valid_kept {c : Settings} (valid : c.Valid) : (kept c).Valid := by
  have ok : c.auth.validate = .ok () := by
    unfold Settings.Valid Settings.validateConfig at valid
    simp only [append_eq_nil_iff] at valid
    exact errorOf_eq_nil.mp (by tauto)
  have auth : errorOf (kept c).auth.validate = errorOf c.auth.validate := by
    rw [auth_kept, validate_without_bearer ok, ok]
  have same : (kept c).validateConfig = c.validateConfig := by
    unfold Settings.validateConfig
    rw [auth]
    rfl
  exact same.trans valid

/-! ### One call, and a run -/

variable {env s}

/-- An update that goes through takes over the partial document, laid over the settings. -/
theorem updateConfig_ok {doc : Document} {persist writes : Bool}
    (ok : (s.updateConfig env (some doc) persist writes).1 = .ok ()) :
    checkRestartRequiredFields "" doc.toml = none ∧
      readWith env.serde (kept s.config) doc.toml =
        some (s.updateConfig env (some doc) persist writes).2.config := by
  unfold updateConfig at ok ⊢
  cases restart : checkRestartRequiredFields "" doc.toml with
  | some field => simp [restart] at ok
  | none =>
    refine ⟨rfl, ?_⟩
    simp only [restart] at ok ⊢
    have merged := read_merge env.serde s.config doc.wellFormed
    unfold Document.toml at *
    rw [merged] at ok ⊢
    cases laid : readWith env.serde (kept s.config) (.table doc.entries) with
    | none => simp [laid] at ok
    | some c =>
      cases others : env.mergeOthers s.others doc with
      | none => simp [laid, others] at ok
      | some rest =>
        simp only [laid, others] at ok ⊢
        split
        · split
          · rfl
          · simp_all
        · rfl

theorem updateConfig_persisted (env : Env Others) (s : ConfigService Others)
    (partialToml : Option Document) (persist writes : Bool) :
    (s.updateConfig env partialToml persist writes).2.persisted = s.persisted ∨
      (s.updateConfig env partialToml persist writes).2.persisted = none ∨
      ((s.updateConfig env partialToml persist writes).1 = .ok () ∧
        (s.updateConfig env partialToml persist writes).2.persisted =
          some (write (s.updateConfig env partialToml persist writes).2.config)) := by
  unfold updateConfig
  split
  · exact .inl rfl
  · split
    · exact .inl rfl
    · split
      · split
        · split
          · exact .inr (.inr ⟨rfl, rfl⟩)
          · exact .inr (.inl rfl)
        · exact .inl rfl
      · exact .inl rfl

theorem updateConfig_error {partialToml : Option Document} {persist writes : Bool}
    (failed : (s.updateConfig env partialToml persist writes).1 ≠ .ok ()) :
    (s.updateConfig env partialToml persist writes).2.config = s.config := by
  unfold updateConfig at failed ⊢
  split
  · rfl
  · split
    · rfl
    · split
      · split
        · split
          · simp_all
          · rfl
        · simp_all
      · rfl

theorem reloadFromFile_ok {doc : Document}
    (ok : (s.reloadFromFile env (some doc)).1 = .ok ()) :
    read env.serde doc.toml = some (s.reloadFromFile env (some doc)).2.config := by
  unfold reloadFromFile at ok ⊢
  cases config : read env.serde doc.toml with
  | none => simp [config] at ok
  | some c =>
    cases others : env.readOthers doc with
    | none => simp [others] at ok
    | some rest => simp [config, others]

theorem reloadFromFile_error {text : Option Document}
    (failed : (s.reloadFromFile env text).1 ≠ .ok ()) :
    (s.reloadFromFile env text).2.config = s.config := by
  unfold reloadFromFile at failed ⊢
  split
  · rfl
  · split
    · simp_all
    · rfl

/-- **An accepted call keeps the configuration accepted.** -/
theorem sound_step (env : Env Others) (s : ConfigService Others) (event : Event)
    (sound : s.Sound env) (accepted : Accepted env s event) : (s.step env event).Sound env := by
  obtain ⟨valid, file⟩ := sound
  cases event with
  | edit => exact ⟨valid, nofun⟩
  | reload text =>
    refine ⟨?_, ?_⟩
    · show (s.reloadFromFile env text).2.config.Valid
      by_cases ok : (s.reloadFromFile env text).1 = .ok ()
      · cases text with
        | none => cases ok
        | some doc => exact accepted _ (reloadFromFile_ok ok)
      · rw [reloadFromFile_error ok]
        exact valid
    · show ∀ doc ∈ (s.reloadFromFile env text).2.persisted, _
      unfold reloadFromFile
      repeat' split
      all_goals exact file
  | update partialToml persist writes =>
    have after : (s.updateConfig env partialToml persist writes).2.config.Valid := by
      by_cases ok : (s.updateConfig env partialToml persist writes).1 = .ok ()
      · cases partialToml with
        | none => cases ok
        | some doc =>
          obtain ⟨free, laid⟩ := updateConfig_ok ok
          exact accepted free _ laid
      · rw [updateConfig_error ok]
        exact valid
    refine ⟨after, ?_⟩
    show ∀ doc ∈ (s.updateConfig env partialToml persist writes).2.persisted, _
    rcases updateConfig_persisted env s partialToml persist writes with same | gone | ⟨-, put⟩
    · rw [same]
      exact file
    · rw [gone]
      nofun
    · rw [put]
      rintro doc ⟨⟩
      exact ⟨_, read_write env.serde _, valid_kept after⟩

/-- **The active configuration is valid** in every run of accepted calls; and a call that goes through
leaves a valid configuration only if it is accepted. -/
theorem active_config_valid {Others : Type} (env : Env Others) (start : Settings) (valid : start.Valid)
    (others : Others) (hasPath : Bool) (events : List Event) :
    (Run.Allowed (step env) (Accepted env) ⟨start, others, hasPath, none⟩ events →
      (Run.after (step env) ⟨start, others, hasPath, none⟩ events).Sound env) ∧
    (∀ (s : ConfigService Others) (document : Document) (persist writes : Bool),
      (s.updateConfig env (some document) persist writes).1 = .ok () →
      ((s.updateConfig env (some document) persist writes).2.config.Valid ↔
        Accepted env s (.update (some document) persist writes))) ∧
    ∀ (s : ConfigService Others) (document : Document),
      (s.reloadFromFile env (some document)).1 = .ok () →
      ((s.reloadFromFile env (some document)).2.config.Valid ↔
        Accepted env s (.reload (some document))) := by
  refine ⟨?_, ?_, ?_⟩
  · exact Run.invariant_after _ (sound_step env) events _ ⟨valid, nofun⟩
  · intro s document persist writes ok
    obtain ⟨free, laid⟩ := updateConfig_ok ok
    constructor
    · intro isValid _ c isLaid
      cases laid.symm.trans isLaid
      exact isValid
    · intro accepted
      exact accepted free _ laid
  · intro s document ok
    have config := reloadFromFile_ok ok
    constructor
    · intro isValid c isRead
      cases config.symm.trans isRead
      exact isValid
    · intro accepted
      exact accepted _ config

/-! ### An update that is not valid -/

def sampleReadUser : Toml → Option StaticUser
  | .table [("token", .string token), ("user_id", .string userId), ("role", .string role)] =>
    if role = "admin" then some ⟨token, userId, .admin⟩
    else if role = "user" then some ⟨token, userId, .user⟩
    else none
  | _ => none

def sampleReadMode : Toml → Option AuthMode
  | .string "disabled" => some .disabled
  | .string "simple" => some .simple
  | .string "external" => some .external
  | _ => none

def sampleReadUsers : Toml → Option (List StaticUser)
  | .array items => items.mapM sampleReadUser
  | _ => none

theorem sampleReadUsers_write (users : List StaticUser) :
    sampleReadUsers (.array (users.map StaticUser.write)) = some users := by
  show (users.map StaticUser.write).mapM sampleReadUser = some users
  induction users with
  | nil => rfl
  | cons user rest before =>
    rw [map_cons, mapM_cons, before]
    obtain ⟨token, userId, role⟩ := user
    cases role <;> rfl

/-- A library that reads exactly what is written, and no other fields. -/
def sampleEnv : Env Unit where
  serde :=
    { positional := fun _ _ => none
      readMode := sampleReadMode
      readUsers := sampleReadUsers
      readMode_name := by intro mode; cases mode <;> rfl
      readUsers_write := sampleReadUsers_write }
  mergeOthers := fun _ _ => some ()
  readOthers := fun _ => some ()

/-- `[limits] max_expression_length = n`. -/
def limitsDocument (n : Int) : Document where
  entries := [("limits", .table [("max_expression_length", .integer n)])]
  wellFormed := by
    refine .ofTable (pairwise_singleton _ _) fun entry inside => ?_
    rw [mem_singleton.mp inside]
    refine .ofTable (pairwise_singleton _ _) fun entry inside => ?_
    rw [mem_singleton.mp inside]
    exact .ofLeaf rfl

def sampleService : ConfigService Unit := ⟨.default, (), true, none⟩

theorem update_not_validated :
    Settings.default.Valid ∧
    (sampleService.updateConfig sampleEnv (some (limitsDocument 0)) true true).1 = .ok () ∧
    (sampleService.updateConfig sampleEnv (some (limitsDocument 0)) true true).2.config.validateConfig =
      ["limits.max_expression_length must be greater than 0"] ∧
    ((sampleService.updateConfig sampleEnv (some (limitsDocument 0)) true true).2.persisted.bind
      (read sampleEnv.serde)).map Settings.validateConfig =
        some ["limits.max_expression_length must be greater than 0"] := by
  refine ⟨default_valid, ?_, ?_, ?_⟩
  · decide
  · decide
  · decide

theorem update_stays_valid :
    (sampleService.updateConfig sampleEnv (some (limitsDocument 500)) true true).1 = .ok () ∧
    (sampleService.updateConfig sampleEnv (some (limitsDocument 500)) true true).2.Sound sampleEnv := by
  have ok : (sampleService.updateConfig sampleEnv (some (limitsDocument 500)) true true).1 = .ok () := by
    decide
  have valid : (sampleService.updateConfig sampleEnv (some (limitsDocument 500)) true
      true).2.config.Valid := by
    decide
  have theorems := active_config_valid sampleEnv .default default_valid () true
    [.update (some (limitsDocument 500)) true true]
  exact ⟨ok, theorems.1 ⟨(theorems.2.1 sampleService _ true true ok).mp valid, trivial⟩⟩

/-! ### What an update changes -/

variable {before key : String} {entries : List (String × Toml)} {value : Toml} {path : List String}

end Detrix.Service.Configuration
