/-
**The identity of a connection and its id.**

The id of a connection is a digest of its name, language, workspace root and host, joined with `|`.
The joined text can be read in one way only (`not_shared_iff`) exactly for the identities whose workspace
root and host have no `|` but at their outer ends and whose name has no language between two
separators (`Unambiguous`). An agent's connections are named after the binary without its leading
slashes, so that the id forgets them (`agent_text_eq_iff`).
-/

import Detrix.Library.Delimited
import Detrix.Service.Checks

namespace Detrix.Connections

open Detrix.Core Library Service List Text

/-! ### Identities -/

structure ConnectionIdentity where
  name : String
  language : SourceLanguage
  workspaceRoot : String
  hostname : String
  deriving DecidableEq

variable {identity : ConnectionIdentity} {front back : List Char}

namespace ConnectionIdentity

def text (identity : ConnectionIdentity) : String :=
  identity.name ++ "|" ++ languageName identity.language ++ "|" ++ identity.workspaceRoot ++ "|" ++
    identity.hostname

/-- `ConnectionIdentity::to_uuid`; `digest` is the hexadecimal text of the first 16 bytes of the
SHA-256 hash. -/
def toUuid (digest : String → String) (identity : ConnectionIdentity) : ConnectionId :=
  digest identity.text

def validate (identity : ConnectionIdentity) : Except ServiceError Unit :=
  if identity.name = "" then .error (.invalidConfig "Connection name cannot be empty")
  else if identity.language = .unknown then
    .error (.invalidConfig ("Unknown language is not allowed for connections. " ++
      "Specify a valid language: python, go, rust, javascript, typescript, java, cpp, c, ruby, php"))
  else if identity.workspaceRoot = "" then
    .error (.invalidConfig "Workspace root cannot be empty")
  else if identity.hostname = "" then .error (.invalidConfig "Hostname cannot be empty")
  else .ok ()

theorem validate_eq_ok : identity.validate = .ok () ↔
    identity.name ≠ "" ∧ identity.language ≠ .unknown ∧ identity.workspaceRoot ≠ "" ∧
      identity.hostname ≠ "" := by
  unfold validate
  repeat' split
  all_goals simp_all

end ConnectionIdentity

open ConnectionIdentity

/-! ### Reading the joined text -/

theorem bar_not_mem_languageName (lang : SourceLanguage) : '|' ∉ (languageName lang).toList := by
  cases lang <;> decide

theorem languageName_ne_nil (lang : SourceLanguage) : (languageName lang).toList ≠ [] := by
  cases lang <;> decide

theorem languageName_inj {one other : SourceLanguage}
    (same : (languageName one).toList = (languageName other).toList) : one = other := by
  cases one <;> cases other <;> first | rfl | exact absurd same (by decide)

theorem toList_ne_nil {s : String} : s.toList ≠ [] ↔ s ≠ "" := by
  rw [ne_eq, ne_eq, String.toList_eq_nil_iff]

theorem text_toList (identity : ConnectionIdentity) : identity.text.toList =
    identity.name.toList ++ '|' :: ((languageName identity.language).toList ++
      '|' :: (identity.workspaceRoot.toList ++ '|' :: identity.hostname.toList)) := by
  simp [text]

/-- **A joined text that can be read in one way only.** The workspace root has no separator after its
first character and the host none before its last, and the name has no language that stands between
separators after a beginning. -/
structure Unambiguous (identity : ConnectionIdentity) : Prop where
  workspace : '|' ∉ identity.workspaceRoot.toList.tail
  host : '|' ∉ identity.hostname.toList.dropLast
  name : ∀ (front back : List Char) (language : SourceLanguage), front ≠ [] → language ≠ .unknown →
    identity.name.toList = front ++ '|' :: ((languageName language).toList ++ back) →
    back ≠ [] ∧ back.head? ≠ some '|'

theorem bar_mem_tail (some : front ≠ []) : '|' ∈ (front ++ '|' :: back).tail := by
  obtain ⟨c, cs, rfl⟩ := exists_cons_of_ne_nil some
  exact mem_append_right cs (.head _)

theorem bar_mem_dropLast (some : back ≠ []) : '|' ∈ (front ++ '|' :: back).dropLast := by
  rw [dropLast_append_of_ne_nil (cons_ne_nil _ _), dropLast_cons_of_ne_nil some]
  exact mem_append_right _ (.head _)

theorem last_parts_inj {root host root' host' : List Char} (inner : '|' ∉ root.tail)
    (inner' : '|' ∉ host.dropLast) (some : root' ≠ []) (some' : host' ≠ [])
    (same : root ++ '|' :: host = root' ++ '|' :: host') : root = root' ∧ host = host' := by
  rcases cuts_compare same with equal | ⟨between, -, rfl⟩ | ⟨between, rfl, -⟩
  · exact equal
  · exact absurd (bar_mem_dropLast some') inner'
  · exact absurd (bar_mem_tail some) inner

theorem last_parts_two {root host first root' host' : List Char} (inner : '|' ∉ root.tail)
    (inner' : '|' ∉ host.dropLast) (some : first ≠ []) (some' : host' ≠ [])
    (same : root ++ '|' :: host = first ++ '|' :: (root' ++ '|' :: host')) : False := by
  rcases cuts_compare same with ⟨-, rfl⟩ | ⟨between, -, rfl⟩ | ⟨between, rfl, -⟩
  · exact inner' (bar_mem_dropLast some')
  · refine inner' ?_
    rw [← cons_append, ← append_assoc]
    exact bar_mem_dropLast some'
  · exact inner (bar_mem_tail some)

theorem Unambiguous.read_back {one other : ConnectionIdentity} (clear : Unambiguous one)
    (valid : other.validate = .ok ()) (same : other.text = one.text) : other = one := by
  obtain ⟨named, known, rooted, hosted⟩ := validate_eq_ok.mp valid
  rw [← toList_ne_nil] at named rooted hosted
  have texts := congrArg String.toList same.symm
  rw [text_toList, text_toList] at texts
  rcases cuts_compare texts with ⟨names, rest⟩ | ⟨between, -, rest⟩ | ⟨between, names, rest⟩
  · obtain ⟨languages, rest⟩ := cut_inj (bar_not_mem_languageName _)
      (bar_not_mem_languageName _) rest
    obtain ⟨roots, hosts⟩ := last_parts_inj clear.workspace clear.host rooted hosted rest
    cases one
    cases other
    simp only [ConnectionIdentity.mk.injEq]
    exact ⟨(String.toList_inj.mp names).symm, (languageName_inj languages).symm,
      (String.toList_inj.mp roots).symm, (String.toList_inj.mp hosts).symm⟩
  · -- the name of `other` reaches beyond that of `one`: its last parts are in those of `one`
    rcases cut_first (bar_not_mem_languageName _) rest with ⟨-, rest⟩ | ⟨more, -, rest⟩
    · exact (last_parts_two clear.workspace clear.host (languageName_ne_nil _) hosted rest).elim
    · rw [← cons_append, ← append_assoc] at rest
      exact (last_parts_two clear.workspace clear.host (by simp) hosted rest).elim
  · -- the language of `other` is in the name of `one`
    rcases cut_first (bar_not_mem_languageName _) rest with ⟨isLanguage, -⟩ | ⟨more, isLanguage, -⟩
    · rw [← isLanguage, ← append_nil (languageName _).toList] at names
      exact absurd rfl (clear.name _ _ _ named known names).1
    · rw [isLanguage] at names
      exact absurd rfl (clear.name _ _ _ named known names).2

/-! ### Identities that share a text -/

/-- Another accepted identity with the same text. -/
def Shared (identity : ConnectionIdentity) : Prop :=
  ∃ other : ConnectionIdentity, other.validate = .ok () ∧ other.text = identity.text ∧ other ≠ identity

theorem ofList_ne_empty {text : List Char} (some : text ≠ []) : String.ofList text ≠ "" := by
  rw [← toList_ne_nil, String.toList_ofList]
  exact some

/-- The text of an identity is cut at other places. -/
theorem shared_of_cut {name : List Char} {lang : SourceLanguage} (root host : List Char)
    (named : name ≠ []) (known : lang ≠ .unknown) (rooted : root ≠ []) (hosted : host ≠ [])
    (same : name ++ '|' :: ((languageName lang).toList ++ '|' :: (root ++ '|' :: host)) =
      identity.text.toList)
    (apart : name.length ≠ identity.name.toList.length ∨
      root.length ≠ identity.workspaceRoot.toList.length) : Shared identity := by
  refine ⟨⟨String.ofList name, lang, String.ofList root, String.ofList host⟩, ?_, ?_, ?_⟩
  · exact validate_eq_ok.mpr ⟨ofList_ne_empty named, known, ofList_ne_empty rooted,
      ofList_ne_empty hosted⟩
  · refine String.toList_inj.mp (Eq.trans ?_ same)
    simp [text_toList]
  · rintro rfl
    simp at apart

theorem shared_of_workspace (valid : identity.validate = .ok ())
    (mem : '|' ∈ identity.workspaceRoot.toList.tail) : Shared identity := by
  obtain ⟨named, known, rooted, hosted⟩ := validate_eq_ok.mp valid
  obtain ⟨c, tail, isRoot⟩ := exists_cons_of_ne_nil (toList_ne_nil.mpr rooted)
  rw [isRoot, tail_cons] at mem
  obtain ⟨front, back, rfl⟩ := append_of_mem mem
  refine shared_of_cut (c :: front) (back ++ '|' :: identity.hostname.toList)
    (toList_ne_nil.mpr named) known (cons_ne_nil _ _) (by simp) ?_ (.inr ?_)
  · simp [text_toList, isRoot]
  · simp [isRoot]

theorem shared_of_host (valid : identity.validate = .ok ())
    (mem : '|' ∈ identity.hostname.toList.dropLast) : Shared identity := by
  obtain ⟨named, known, -, hosted⟩ := validate_eq_ok.mp valid
  obtain ⟨front, back, isInit⟩ := append_of_mem mem
  have isHost := dropLast_append_getLast (toList_ne_nil.mpr hosted)
  rw [isInit] at isHost
  generalize identity.hostname.toList.getLast _ = last at isHost
  refine shared_of_cut (identity.workspaceRoot.toList ++ '|' :: front) (back ++ [last])
    (toList_ne_nil.mpr named) known (by simp) (by simp) ?_ (.inr (by simp))
  simp [text_toList, ← isHost]

theorem shared_of_name {lang : SourceLanguage}
    (some : front ≠ []) (known : lang ≠ .unknown)
    (isName : identity.name.toList = front ++ '|' :: ((languageName lang).toList ++ back))
    (ends : back = [] ∨ back.head? = .some '|') : Shared identity := by
  have shorter : front.length ≠ identity.name.toList.length := by simp [isName]
  rcases ends with rfl | starts
  · refine shared_of_cut (languageName identity.language).toList
      (identity.workspaceRoot.toList ++ '|' :: identity.hostname.toList) some known
      (languageName_ne_nil _) (by simp) ?_ (.inl shorter)
    simp [text_toList, isName]
  · obtain ⟨rest, rfl⟩ := head?_eq_some_iff.mp starts
    refine shared_of_cut (rest ++ '|' :: (languageName identity.language).toList)
      (identity.workspaceRoot.toList ++ '|' :: identity.hostname.toList) some known
      (by simp) (by simp) ?_ (.inl shorter)
    simp [text_toList, isName]

/-- **The identities that share their text with no other are the unambiguous ones.** -/
theorem not_shared_iff (valid : identity.validate = .ok ()) :
    ¬ Shared identity ↔ Unambiguous identity := by
  constructor
  · intro alone
    refine ⟨fun mem => alone (shared_of_workspace valid mem),
      fun mem => alone (shared_of_host valid mem), ?_⟩
    intro front back lang some known isName
    constructor
    · exact fun empty => alone (shared_of_name some known isName (.inl empty))
    · exact fun starts => alone (shared_of_name some known isName (.inr starts))
  · rintro clear ⟨other, ok, same, differ⟩
    exact differ (clear.read_back ok same)

/-! ### Agents -/

/-- A binary path without the slashes it starts with (`trim_start_matches('/')`). -/
def stableBinaryPath (path : String) : String :=
  String.ofList (path.toList.dropWhile (· = '/'))

def agentNamePrefix : String := "agent/"

def agentConnectionIdentity (binaryPath : String) (language : SourceLanguage) (hostname : String) :
    ConnectionIdentity where
  name := agentNamePrefix ++ stableBinaryPath binaryPath
  language := language
  workspaceRoot := "/"
  hostname := hostname

theorem agent_text_toList (path : String) (lang : SourceLanguage) (host : String) :
    (agentConnectionIdentity path lang host).text.toList =
      ((((agentNamePrefix ++ stableBinaryPath path).toList ++
        '|' :: (languageName lang).toList) ++ '|' :: ['/']) ++ '|' :: host.toList) := by
  simp [text_toList, agentConnectionIdentity]

/-- Hosts without a separator: the parts are found again from the end, and only the leading slashes
of the path are lost. -/
theorem agent_text_eq_iff {path path' host host' : String} {lang language' : SourceLanguage}
    (plain : '|' ∉ host.toList) (plain' : '|' ∉ host'.toList) :
    (agentConnectionIdentity path lang host).text =
        (agentConnectionIdentity path' language' host').text ↔
      stableBinaryPath path = stableBinaryPath path' ∧ lang = language' ∧ host = host' := by
  constructor
  · intro same
    have texts := congrArg String.toList same
    rw [agent_text_toList, agent_text_toList] at texts
    obtain ⟨texts, hosts⟩ := rcut_inj plain plain' texts
    obtain ⟨texts, -⟩ := rcut_inj (by decide) (by decide) texts
    obtain ⟨names, languages⟩ := rcut_inj (bar_not_mem_languageName _)
      (bar_not_mem_languageName _) texts
    rw [String.toList_append, String.toList_append, append_cancel_left_eq] at names
    exact ⟨String.toList_inj.mp names, languageName_inj languages, String.toList_inj.mp hosts⟩
  · rintro ⟨paths, rfl, rfl⟩
    simp [agentConnectionIdentity, paths]

def OneSlash (path : String) : Prop :=
  ∃ rest : List Char, path.toList = '/' :: rest ∧ rest.head? ≠ some '/'

theorem stableBinaryPath_of_oneSlash {path : String} (one : OneSlash path) :
    path.toList = '/' :: (stableBinaryPath path).toList := by
  obtain ⟨rest, isPath, noMore⟩ := one
  rw [stableBinaryPath, String.toList_ofList, isPath, dropWhile_cons_of_pos (by simp)]
  cases rest with
  | nil => rfl
  | cons c cs =>
    rw [dropWhile_cons_of_neg]
    simpa using noMore

/-! ### Ids -/

/-- **When distinct identities have distinct ids.** If the digest is injective, an accepted identity
shares its id with no other exactly if it is unambiguous; and the ids of an agent's binaries, on hosts
without a separator, tell apart the paths without their leading slashes, the languages and the hosts,
so that they tell apart the paths that start with one slash. -/
theorem distinct_ids_iff (digest : String → String) (injective : Function.Injective digest) :
    (∀ identity : ConnectionIdentity, identity.validate = .ok () →
      ((∀ other : ConnectionIdentity, other.validate = .ok () →
        other.toUuid digest = identity.toUuid digest → other = identity) ↔ Unambiguous identity)) ∧
    ∀ (path path' : String) (language language' : SourceLanguage) (host host' : String),
      '|' ∉ host.toList → '|' ∉ host'.toList →
      ((agentConnectionIdentity path language host).toUuid digest =
          (agentConnectionIdentity path' language' host').toUuid digest ↔
        stableBinaryPath path = stableBinaryPath path' ∧ language = language' ∧ host = host') ∧
      (OneSlash path → OneSlash path' →
        (agentConnectionIdentity path language host).toUuid digest =
          (agentConnectionIdentity path' language' host').toUuid digest →
        path = path' ∧ language = language' ∧ host = host') := by
  constructor
  · intro identity valid
    rw [← not_shared_iff valid]
    constructor
    · rintro unique ⟨other, ok, same, differ⟩
      exact differ (unique other ok (congrArg digest same))
    · intro alone other ok same
      by_contra differ
      exact alone ⟨other, ok, injective same, differ⟩
  · intro path path' language language' host host' plain plain'
    have ids : (agentConnectionIdentity path language host).toUuid digest =
          (agentConnectionIdentity path' language' host').toUuid digest ↔
        stableBinaryPath path = stableBinaryPath path' ∧ language = language' ∧ host = host' :=
      injective.eq_iff.trans (agent_text_eq_iff plain plain')
    refine ⟨ids, fun one one' same => ?_⟩
    obtain ⟨paths, others⟩ := ids.mp same
    refine ⟨String.toList_inj.mp ?_, others⟩
    rw [stableBinaryPath_of_oneSlash one, stableBinaryPath_of_oneSlash one', paths]

/-- Two directories of two hosts, and a binary under two absolute paths. -/
theorem separators_collide :
    let left : ConnectionIdentity := ⟨"app", .python, "/work|h", "x"⟩
    let right : ConnectionIdentity := ⟨"app", .python, "/work", "h|x"⟩
    left.validate = .ok () ∧ right.validate = .ok () ∧ left ≠ right ∧
      (∀ digest, left.toUuid digest = right.toUuid digest) ∧
      ∀ digest, (agentConnectionIdentity "/bin/app" .go "h").toUuid digest =
        (agentConnectionIdentity "//bin/app" .go "h").toUuid digest := by
  refine ⟨by decide, by decide, by decide, fun digest => ?_, fun digest => ?_⟩
  · exact congrArg digest (by decide)
  · exact congrArg digest (by decide)

theorem distinct_ids_plain : Function.Injective (id : String → String) ∧
    ∀ other : ConnectionIdentity, other.validate = .ok () →
      other.toUuid id = (ConnectionIdentity.mk "app" .python "/work" "h").toUuid id →
      other = ⟨"app", .python, "/work", "h"⟩ := by
  refine ⟨Function.injective_id, ((distinct_ids_iff id Function.injective_id).1 _ (by decide)).mpr ?_⟩
  refine ⟨by decide, by decide, ?_⟩
  intro front back lang _ _ isName
  have mem : '|' ∈ "app".toList := by
    rw [show "app".toList = _ from isName]
    exact mem_append_right _ (.head _)
  nomatch mem

end Detrix.Connections
