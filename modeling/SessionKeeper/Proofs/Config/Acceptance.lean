import Mathlib.Data.List.Forall2
import SessionKeeper.Config
import SessionKeeper.Proofs.Http.BearerToken
import SessionKeeper.Proofs.Session.TokenSoundness

/-!
Which settings make a configuration, which one, and what is said of the others. This is about
`Config.ofSettings`, the `from_lookup` of the configuration, for every lookup.

Each setting has a grammar of its own (`Setting.Denotes`), told without its reader, and what is
written under its name counts up to the blanks around it (`Settings.Shows`). A reader accepts
exactly its grammar (`Setting.read?_eq_ok_iff`), so a configuration is what the settings denote
(`Config.DenotedBy`), and settings that differ in nothing but blanks make the same one.

The checks form a list in the order in which they are made (`Config.checks`), and what is reported
is the fault of the first that does not pass (`FirstFault`). Settings are accepted just when every
check passes. `Config.ofSettings_exact` assumes nothing.
-/

namespace SessionKeeper

variable {α β : Type}

/-! ## Letters in either case -/

namespace Text

/-- `c` is the character `d`, or its upper case if `d` is a lower-case ASCII letter. -/
def Cased (d c : Char) : Prop := c = d ∨ c = d.toUpper

/-- As `Cased`, with `_` and `-` for a space. -/
def Parted (d c : Char) : Prop := Cased d c ∨ d = ' ' ∧ (c = '_' ∨ c = '-')

theorem toLower_eq_iff {c d : Char} (plain : d.isUpper = false) :
    c.toLower = d ↔ Cased d c := by
  delta Cased Char.isUpper Char.toLower Char.toUpper at plain ⊢
  simp only [Char.ext_iff] at plain ⊢
  split <;> split <;> grind

/-- A text that comes out of a change of characters is known character by character. -/
theorem map_eq_iff_forall₂ {f : Char → Char} {R : Char → Char → Prop} {ds cs : List Char}
    (known : ∀ d ∈ ds, ∀ c, f c = d ↔ R d c) : cs.map f = ds ↔ List.Forall₂ R ds cs := by
  induction ds generalizing cs with
  | nil => simp
  | cons d ds ih =>
    obtain ⟨first, rest⟩ := List.forall_mem_cons.mp known
    cases cs with
    | nil => simp
    | cons c cs => rw [List.map_cons, List.cons.injEq, first, ih rest, List.forall₂_cons]

theorem lower_eq_iff {name : String} {cs : List Char}
    (plain : ∀ d ∈ name.toList, d.isUpper = false) :
    lower (String.ofList cs) = name ↔ List.Forall₂ Cased name.toList cs := by
  rw [lower, String.toList_ofList, ← String.toList_inj, String.toList_ofList,
    map_eq_iff_forall₂ fun d mem c => toLower_eq_iff (plain d mem)]

theorem Trims.again {cs inner : List Char} (trims : Trims cs inner) : Trims inner inner :=
  ⟨⟨[], [], by simp, by simp, by simp⟩, trims.first, trims.last⟩

theorem Trims.trim_ofList {cs : List Char} (trims : Trims cs cs) :
    trim (String.ofList cs) = String.ofList cs := by
  rw [trim, String.toList_ofList, trims.unique]

end Text

/-! ## Names and numerals -/

open Text (Trims Cased Parted)

theorem BackendKind.names_apart (one other : BackendKind) :
    ∀ name ∈ one.names, other.names.contains name = true → one = other := by
  cases one <;> cases other <;> decide

theorem BackendKind.ofText_eq_ok_iff {cs : List Char} {kind : BackendKind} (trims : Trims cs cs) :
    ofText (String.ofList cs) = .ok kind ↔
      ∃ name ∈ kind.names, List.Forall₂ Cased name.toList cs := by
  have plain : ∀ name ∈ kind.names, ∀ d ∈ name.toList, d.isUpper = false := by
    have plain : (kind.names.all fun name => name.toList.all (!·.isUpper)) = true := by
      cases kind <;> decide
    simpa using plain
  have known : (∃ name ∈ kind.names, List.Forall₂ Cased name.toList cs) ↔
      Text.lower (String.ofList cs) ∈ kind.names := by
    constructor
    · rintro ⟨name, mem, cased⟩
      exact (Text.lower_eq_iff (plain name mem)).mpr cased ▸ mem
    · intro mem
      exact ⟨_, mem, (Text.lower_eq_iff (plain _ mem)).mp rfl⟩
  rw [known, ofText, trims.trim_ofList]
  generalize Text.lower (String.ofList cs) = name
  constructor
  · intro h
    split at h
    · cases h
      exact List.contains_iff_mem.mp ‹_›
    split at h
    · cases h
      exact List.contains_iff_mem.mp ‹_›
    split at h
    · cases h
      exact List.contains_iff_mem.mp ‹_›
    · cases h
  · intro mem
    have others : ∀ other, other ≠ kind → ¬ other.names.contains name = true :=
      fun other apart found => apart (names_apart kind other name mem found).symm
    have own := List.contains_iff_mem.mpr mem
    cases kind with
    | postgres => rw [if_pos own]
    | cockroach => rw [if_neg (others .postgres (by decide)), if_pos own]
    | mysql =>
      rw [if_neg (others .postgres (by decide)), if_neg (others .cockroach (by decide)), if_pos own]

theorem Text.parted_iff {c d : Char} (plain : d.isUpper = false) (letter : d ≠ '_' ∧ d ≠ '-') :
    (if c.toLower = '_' ∨ c.toLower = '-' then ' ' else c.toLower) = d ↔ Parted d c := by
  have parting : (c.toLower = '_' ∨ c.toLower = '-') ↔ (c = '_' ∨ c = '-') :=
    or_congr ((toLower_eq_iff (by decide)).trans (or_self_iff ..))
      ((toLower_eq_iff (by decide)).trans (or_self_iff ..))
  rw [Parted, ← toLower_eq_iff plain]
  by_cases parts : c.toLower = '_' ∨ c.toLower = '-'
  · have other : c.toLower ≠ d := by
      rintro rfl
      exact parts.elim letter.1 letter.2
    rw [if_pos parts]
    simp [other, parting.mp parts, eq_comm]
  · rw [if_neg parts]
    simp [mt parting.mpr parts]

theorem IsolationLevel.ofText_eq_ok_iff {cs : List Char} {level : IsolationLevel}
    (trims : Trims cs cs) :
    ofText (String.ofList cs) = .ok level ↔ List.Forall₂ Parted level.text.toList cs := by
  have plain : ∀ d ∈ level.text.toList, d.isUpper = false ∧ d ≠ '_' ∧ d ≠ '-' := by
    have plain : level.text.toList.all (fun d => !d.isUpper && d != '_' && d != '-') = true := by
      cases level <;> decide
    simpa [and_assoc] using plain
  have known : normalized (String.ofList cs) = level.text ↔
      List.Forall₂ Parted level.text.toList cs := by
    rw [normalized, trims.trim_ofList, ← String.toList_inj, String.toList_ofList, Text.lower,
      String.toList_ofList, String.toList_ofList, List.map_map]
    refine Text.map_eq_iff_forall₂ fun d mem c => ?_
    obtain ⟨lower, letter⟩ := plain d mem
    exact Text.parted_iff lower letter
  rw [← known, ofText]
  generalize normalized (String.ofList cs) = name
  constructor
  · intro h
    split at h
    · cases h
      assumption
    split at h
    · cases h
      assumption
    split at h
    · cases h
      assumption
    · cases h
  · rintro rfl
    cases level <;> rfl

/-- A numeral: one or more digits, and perhaps a plus sign in front. -/
inductive Text.Integer.Numeral : List Char → Nat → Prop
  | plain {cs : List Char} {n : Nat} : cs ≠ [] → Digits cs n → Numeral cs n
  | signed {cs : List Char} {n : Nat} : cs ≠ [] → Digits cs n → Numeral ('+' :: cs) n

theorem Text.Integer.natural_eq_ok_iff {limit n : Nat} {cs : List Char} :
    natural limit cs = .ok n ↔ Numeral cs n ∧ n ≤ limit := by
  constructor
  · intro h
    unfold natural at h
    split at h
    · cases h
    · obtain ⟨some, digits, within⟩ := magnitude_eq_ok_iff.mp h
      exact ⟨.signed some digits, within⟩
    · obtain ⟨some, digits, within⟩ := magnitude_eq_ok_iff.mp h
      exact ⟨.plain some digits, within⟩
  · rintro ⟨⟨some, digits⟩ | ⟨some, digits⟩, within⟩
    · unfold natural
      split
      · exact absurd rfl some
      · exact absurd (digits.digits '+' List.mem_cons_self) (by decide)
      · exact magnitude_eq_ok_iff.mpr ⟨some, digits, within⟩
    · exact magnitude_eq_ok_iff.mpr ⟨some, digits, within⟩

theorem Reader.flag_eq_ok_iff {s : String} {flag : Bool} :
    Reader.flag s = .ok flag ↔ s = if flag then "true" else "false" := by
  unfold Reader.flag
  split
  · cases flag <;> simp
  · cases flag <;> simp
  · cases flag <;> simp_all

theorem Reader.mapError_eq_ok_iff {ε ε' : Type} {x : Except ε α} {f : ε → ε'} {a : α} :
    x.mapError f = .ok a ↔ x = .ok a := by
  cases x <;> simp [Except.mapError]

/-! ## Settings -/

/-- What is written under a name: the text without the blanks around it, or nothing if the name is
not set. -/
inductive Settings.Shows (settings : Settings) (name : String) : List Char → Prop
  | unset : settings name = none → Shows settings name []
  | set {raw : String} {cs : List Char} : settings name = some raw → Trims raw.toList cs →
      Shows settings name cs

theorem Settings.Shows.unique {settings : Settings} {name : String} {cs cs' : List Char}
    (shows : settings.Shows name cs) (shows' : settings.Shows name cs') : cs = cs' := by
  cases shows with
  | unset none =>
    cases shows' with
    | unset _ => rfl
    | set some _ => simp [none] at some
  | set some trims =>
    cases shows' with
    | unset none => simp [none] at some
    | set some' trims' =>
      cases some.symm.trans some'
      exact trims.unique.symm.trans trims'.unique

theorem Settings.Shows.trims {settings : Settings} {name : String} {cs : List Char}
    (shows : settings.Shows name cs) : Trims cs cs := by
  cases shows with
  | unset _ => exact ⟨⟨[], [], by simp, by simp, by simp⟩, by simp, by simp⟩
  | set _ trims => exact trims.again

/-- A setting: its name, its reader, and the grammar of the texts that the reader accepts. -/
structure Setting (α : Type) where
  name : String
  read : Reader α
  Denotes : α → List Char → Prop
  reads : ∀ {cs : List Char} {value : α}, Trims cs cs →
    (read (String.ofList cs) = .ok value ↔ Denotes value cs)

namespace Setting

/-- A number from 0 to a limit. -/
def number (name : String) (limit : Nat) : Setting Nat where
  name
  read := .natural limit
  Denotes n cs := Text.Integer.Numeral cs n ∧ n ≤ limit
  reads _ := by
    rw [Reader.natural, Reader.mapError_eq_ok_iff, String.toList_ofList,
      Text.Integer.natural_eq_ok_iff]

def maxAttempts : Setting Nat := number "TX_MAX_ATTEMPTS" Config.limit32
def backoffUnit : Setting Nat := number "TX_BACKOFF_UNIT_MS" Config.limit64
def restartPause : Setting Nat := number "CRDB_RESTART_BACKOFF_MS" Config.limit64
def maxConnections : Setting Nat := number "DB_MAX_CONNECTIONS" Config.limit32
def maxRestarts : Setting Nat := number "CRDB_MAX_RESTARTS" Config.limit32
def port : Setting Nat := number "PORT" Config.limit16

def followerReads : Setting Bool where
  name := "CRDB_FOLLOWER_READS"
  read := .flag
  Denotes flag cs := cs = (if flag then "true" else "false").toList
  reads _ := by
    rw [Reader.flag_eq_ok_iff, ← String.toList_inj, String.toList_ofList]

def backend : Setting BackendKind where
  name := "DB_BACKEND"
  read := .backend
  Denotes kind cs := ∃ name ∈ kind.names, List.Forall₂ Cased name.toList cs
  reads trims := by
    rw [Reader.backend, Reader.mapError_eq_ok_iff, BackendKind.ofText_eq_ok_iff trims]

def isolation : Setting IsolationLevel where
  name := "PG_ISOLATION"
  read := .isolation
  Denotes level cs := List.Forall₂ Parted level.text.toList cs
  reads trims := by
    rw [Reader.isolation, Reader.mapError_eq_ok_iff, IsolationLevel.ofText_eq_ok_iff trims]

-- The readers of names are opened nowhere else: what they accept is known.
@[simp] theorem backend_read : backend.read = Reader.backend := by rw [backend]
@[simp] theorem isolation_read : isolation.read = Reader.isolation := by rw [isolation]

variable {settings : Settings} {setting : Setting α} {found : Option α} {failure : Failure}

/-- What the settings hold: nothing if there are only blanks, else the value that is denoted. -/
inductive Holds (setting : Setting α) (settings : Settings) : Option α → Prop
  | default : settings.Shows setting.name [] → Holds setting settings none
  | value {cs : List Char} {value : α} : settings.Shows setting.name cs → cs ≠ [] →
      setting.Denotes value cs → Holds setting settings (some value)

/-- The text of the setting denotes nothing, and this is what is said of it. -/
inductive Offends (setting : Setting α) (settings : Settings) : Failure → Prop
  | intro {raw : String} {cs : List Char} {why : String} : settings setting.name = some raw →
      Trims raw.toList cs → cs ≠ [] → (∀ value, ¬ setting.Denotes value cs) →
      setting.read (String.ofList cs) = .error why →
      Offends setting settings (.misconfigured
        ("invalid " ++ setting.name ++ "=" ++ Text.Quoted.encode raw ++ ": " ++ why))

theorem account (setting : Setting α) (settings : Settings) :
    (∃ found, settings.read? setting.name setting.read = .ok found ∧ setting.Holds settings found) ∨
      ∃ failure, settings.read? setting.name setting.read = .error failure ∧
        setting.Offends settings failure := by
  cases hraw : settings setting.name with
  | none => exact .inl ⟨none, by simp only [Settings.read?, hraw], .default (.unset hraw)⟩
  | some raw =>
    have trims := Text.trimList_trims raw.toList
    have text : Text.trim raw = String.ofList (Text.trimList raw.toList) := rfl
    generalize Text.trimList raw.toList = cs at trims text
    cases cs with
    | nil =>
      refine .inl ⟨none, ?_, .default (.set hraw trims)⟩
      simp only [Settings.read?, hraw, text]
      rfl
    | cons c cs =>
      have blank : (String.ofList (c :: cs)).isEmpty = false := by simp
      cases hread : setting.read (String.ofList (c :: cs)) with
      | ok value =>
        refine .inl ⟨some value, ?_, .value (.set hraw trims) (by simp)
          ((setting.reads trims.again).mp hread)⟩
        simp only [Settings.read?, hraw, text, blank, hread]
        rfl
      | error why =>
        refine .inr ⟨_, ?_, .intro hraw trims (by simp) (fun value denotes => ?_) hread⟩
        · simp only [Settings.read?, hraw, text, blank, hread]
          rfl
        · rw [(setting.reads trims.again).mpr denotes] at hread
          cases hread

theorem Holds.unique {found' : Option α} (holds : setting.Holds settings found)
    (holds' : setting.Holds settings found') : found = found' := by
  cases holds with
  | default blank =>
    cases holds' with
    | default _ => rfl
    | value shows some _ => exact absurd (shows.unique blank) some
  | value shows some denotes =>
    cases holds' with
    | default blank => exact absurd (shows.unique blank) some
    | value shows' _ denotes' =>
      cases shows.unique shows'
      have read := (setting.reads shows.trims).mpr denotes
      rw [(setting.reads shows.trims).mpr denotes'] at read
      cases read
      rfl

theorem Offends.not_holds (offends : setting.Offends settings failure) :
    ¬ setting.Holds settings found := by
  obtain ⟨raw, trims, some, nothing, -⟩ := offends
  intro holds
  cases holds with
  | default blank => exact some ((Settings.Shows.set raw trims).unique blank)
  | value shows _ denotes =>
    cases shows.unique (.set raw trims)
    exact nothing _ denotes

theorem Offends.unique {failure' : Failure} (offends : setting.Offends settings failure)
    (offends' : setting.Offends settings failure') : failure = failure' := by
  obtain ⟨raw, trims, -, -, read⟩ := offends
  obtain ⟨raw', trims', -, -, read'⟩ := offends'
  cases raw.symm.trans raw'
  cases trims.unique.symm.trans trims'.unique
  cases read.symm.trans read'
  rfl

theorem read?_eq_ok_iff (setting : Setting α) :
    settings.read? setting.name setting.read = .ok found ↔ setting.Holds settings found := by
  rcases setting.account settings with ⟨held, read, holds⟩ | ⟨failure, read, offends⟩
  · rw [read, Except.ok.injEq]
    exact ⟨fun same => same ▸ holds, holds.unique⟩
  · rw [read]
    exact ⟨(by cases ·), fun holds => absurd holds offends.not_holds⟩

theorem read?_eq_error_iff :
    settings.read? setting.name setting.read = .error failure ↔
      setting.Offends settings failure := by
  rcases setting.account settings with ⟨held, read, holds⟩ | ⟨fault, read, offends⟩
  · rw [read]
    exact ⟨(by cases ·), fun offends => absurd holds offends.not_holds⟩
  · rw [read, Except.error.injEq]
    exact ⟨fun same => same ▸ offends, offends.unique⟩

theorem read_eq_ok_iff (setting : Setting α) {default value : α} :
    settings.read setting.name setting.read default = .ok value ↔
      ∃ found, setting.Holds settings found ∧ value = found.getD default := by
  simp only [← read?_eq_ok_iff, Settings.read]
  cases settings.read? setting.name setting.read with
  | error failure => simp [Except.map]
  | ok found => simp [Except.map, eq_comm]

theorem read_eq_error_iff {default : α} :
    settings.read setting.name setting.read default = .error failure ↔
      setting.Offends settings failure := by
  rw [← read?_eq_error_iff, Settings.read]
  cases settings.read? setting.name setting.read <;> simp [Except.map]

end Setting

/-! ## Checks -/

/-- Something that is looked at: when it passes, and what is reported when it does not, which is a
misconfiguration. -/
structure Check where
  Passes : Prop
  Fails : Failure → Prop
  passes_iff : Passes ↔ ∀ failure, ¬ Fails failure
  misconfigured : ∀ {failure}, Fails failure → failure.kind = .misconfigured ∧ failure.causes = []

/-- The failure is that of the first check that does not pass. -/
inductive FirstFault : List Check → Failure → Prop
  | here {check : Check} {checks : List Check} {failure : Failure} : check.Fails failure →
      FirstFault (check :: checks) failure
  | later {check : Check} {checks : List Check} {failure : Failure} : check.Passes →
      FirstFault checks failure → FirstFault (check :: checks) failure

theorem FirstFault.misconfigured {checks : List Check} {failure : Failure}
    (fault : FirstFault checks failure) : failure.kind = .misconfigured ∧ failure.causes = [] := by
  induction fault with
  | @here check _ _ fails => exact check.misconfigured fails
  | later _ _ ih => exact ih

/-- Either all checks pass, or one of them is the first that does not. -/
theorem passes_iff_not_firstFault (checks : List Check) :
    (∀ check ∈ checks, check.Passes) ↔ ∀ failure, ¬ FirstFault checks failure := by
  induction checks with
  | nil => simp [show ∀ failure, ¬ FirstFault [] failure by rintro _ ⟨⟩]
  | cons check checks ih =>
    rw [List.forall_mem_cons, ih, check.passes_iff]
    constructor
    · rintro ⟨first, rest⟩ failure fault
      cases fault with
      | here fails => exact first failure fails
      | later _ fault => exact rest failure fault
    · intro none
      have first : ∀ failure, ¬ check.Fails failure :=
        fun failure fails => none failure (.here fails)
      exact ⟨first, fun failure fault => none failure (.later (check.passes_iff.mpr first) fault)⟩

/-- The computation fails just as the check does. -/
def Check.Decides (check : Check) (x : Except Failure α) : Prop :=
  ∀ failure, x = .error failure ↔ check.Fails failure

theorem Check.Decides.bind {check : Check} {checks : List Check} {x : Except Failure α}
    {next : α → Except Failure β} (decides : check.Decides x)
    (rest : ∀ a, x = .ok a → ∀ failure, next a = .error failure ↔ FirstFault checks failure)
    (failure : Failure) : (x >>= next) = .error failure ↔ FirstFault (check :: checks) failure := by
  cases x with
  | error fault =>
    have fails : check.Fails fault := (decides fault).mp rfl
    constructor
    · rintro ⟨⟩
      exact .here fails
    · intro first
      cases first with
      | here fails =>
        cases (decides failure).mpr fails
        rfl
      | later passes _ => exact absurd fails (check.passes_iff.mp passes fault)
  | ok a =>
    have none : ∀ fault, ¬ check.Fails fault := fun fault fails => by
      cases (decides fault).mpr fails
    rw [show (Except.ok a >>= next) = next a from rfl, rest a rfl]
    constructor
    · exact .later (check.passes_iff.mpr none)
    · intro first
      cases first with
      | here fails => exact absurd fails (none failure)
      | later _ fault => exact fault

namespace Setting

/-- The setting is unset, blank, or in its grammar. -/
def check (setting : Setting α) (settings : Settings) : Check where
  Passes := ∃ found, setting.Holds settings found
  Fails := setting.Offends settings
  passes_iff := by
    constructor
    · rintro ⟨found, holds⟩ failure offends
      exact offends.not_holds holds
    · intro none
      rcases setting.account settings with ⟨found, -, holds⟩ | ⟨failure, -, offends⟩
      · exact ⟨found, holds⟩
      · exact absurd offends (none failure)
  misconfigured := by
    rintro _ ⟨⟩
    exact ⟨rfl, rfl⟩

theorem check_decides (setting : Setting α) (settings : Settings) (default : α) :
    (setting.check settings).Decides (settings.read setting.name setting.read default) :=
  fun _ => read_eq_error_iff

theorem check_decides? (setting : Setting α) (settings : Settings) :
    (setting.check settings).Decides (settings.read? setting.name setting.read) :=
  fun _ => read?_eq_error_iff

end Setting

/-- The condition holds, or the message is reported. -/
def Check.ensure (P : Prop) (message : String) : Check where
  Passes := P
  Fails failure := ¬ P ∧ failure = .misconfigured message
  passes_iff := by
    constructor
    · rintro holds failure ⟨fails, -⟩
      exact fails holds
    · intro none
      by_contra fails
      exact none _ ⟨fails, rfl⟩
  misconfigured := by
    rintro _ ⟨-, rfl⟩
    exact ⟨rfl, rfl⟩

namespace Config

/-- What is looked at, in this order. -/
def checks (settings : Settings) : List Check :=
  [Setting.maxAttempts.check settings,
    Setting.backoffUnit.check settings,
    .ensure (¬ Setting.maxAttempts.Holds settings (some 0))
      "retry policy needs at least one attempt",
    Setting.restartPause.check settings,
    Setting.maxConnections.check settings,
    .ensure (¬ Setting.maxConnections.Holds settings (some 0))
      "DB_MAX_CONNECTIONS must be at least 1",
    .ensure (∃ secret, settings "JWT_SECRET" = some secret ∧ secret ≠ "")
      "JWT_SECRET must be set",
    Setting.backend.check settings,
    Setting.isolation.check settings,
    Setting.maxRestarts.check settings,
    Setting.followerReads.check settings,
    Setting.port.check settings]

variable {settings : Settings} {config : Config} {failure : Failure}

/-- The configuration is what the settings denote, with a default for each that holds nothing. -/
structure DenotedBy (config : Config) (settings : Settings) : Prop where
  databaseUrl : config.databaseUrl = (settings "DATABASE_URL").getD defaultUrl
  maxAttempts : ∃ n, Setting.maxAttempts.Holds settings n ∧ config.policy.maxAttempts = n.getD 4
  unit : ∃ n, Setting.backoffUnit.Holds settings n ∧ config.policy.unit = .ofMillis (n.getD 100)
  pauseUnit : ∃ n, Setting.restartPause.Holds settings n ∧
    config.cockroach.pauseUnit = .ofMillis (n.getD 10)
  maxConnections : ∃ n, Setting.maxConnections.Holds settings n ∧ config.maxConnections = n.getD 5
  maxConnections_pos : 0 < config.maxConnections
  secret : settings "JWT_SECRET" = some config.secret
  secret_ne : config.secret ≠ ""
  backend : ∃ kind, Setting.backend.Holds settings kind ∧ config.backend = kind.getD .postgres
  isolation : Setting.isolation.Holds settings config.isolation
  maxRestarts : ∃ n, Setting.maxRestarts.Holds settings n ∧
    config.cockroach.maxRestarts = n.getD 10
  followerReads : ∃ flag, Setting.followerReads.Holds settings flag ∧
    config.cockroach.followerReads = flag.getD false
  port : ∃ n, Setting.port.Holds settings n ∧ config.port = n.getD 3000

/-- A number that the settings make zero is written there, for no default is zero. -/
theorem holds_zero_iff {setting : Setting Nat} {default n : Nat} (positive : 0 < default)
    (read : settings.read setting.name setting.read default = .ok n) :
    setting.Holds settings (some 0) ↔ n = 0 := by
  obtain ⟨found, holds, rfl⟩ := setting.read_eq_ok_iff.mp read
  constructor
  · intro zero
    cases holds.unique zero
    rfl
  · intro zero
    cases found with
    | none => exact absurd zero (Nat.ne_of_gt positive)
    | some n =>
      cases zero
      exact holds

theorem ensure_decides {P Q : Prop} {message : String} {x : Except Failure α} (same : P ↔ Q)
    (refuses : ¬ Q → x = .error (.misconfigured message)) (accepts : Q → ∃ a, x = .ok a) :
    (Check.ensure P message).Decides x := by
  intro failure
  by_cases holds : Q
  · obtain ⟨a, rfl⟩ := accepts holds
    exact ⟨(by cases ·), fun fails => absurd (same.mpr holds) fails.1⟩
  · rw [refuses holds, Except.error.injEq]
    exact ⟨fun h => ⟨mt same.mp holds, h.symm⟩, fun fails => fails.2.symm⟩

theorem make?_decides {n : Nat} (unit : Duration)
    (read : settings.read Setting.maxAttempts.name Setting.maxAttempts.read 4 = .ok n) :
    (Check.ensure (¬ Setting.maxAttempts.Holds settings (some 0))
      "retry policy needs at least one attempt").Decides (RetryPolicy.make? n unit) := by
  refine ensure_decides (not_congr (holds_zero_iff (by decide) read)) (fun zero => ?_)
    fun some => ?_
  · rw [RetryPolicy.make?, dif_neg (by omega)]
  · exact ⟨_, by rw [RetryPolicy.make?, dif_pos (by omega)]⟩

theorem maxConnections_decides {n : Nat}
    (read : settings.read Setting.maxConnections.name Setting.maxConnections.read 5 = .ok n) :
    (Check.ensure (¬ Setting.maxConnections.Holds settings (some 0))
      "DB_MAX_CONNECTIONS must be at least 1").Decides
        (if n = 0 then .error (.misconfigured "DB_MAX_CONNECTIONS must be at least 1")
          else .ok n : Except Failure Nat) :=
  ensure_decides (not_congr (holds_zero_iff (by decide) read))
    (fun zero => if_pos (not_not.mp zero)) fun some => ⟨n, if_neg some⟩

theorem readSecret_eq_ok_iff {secret : String} :
    readSecret settings = .ok secret ↔ settings "JWT_SECRET" = some secret ∧ secret ≠ "" := by
  unfold readSecret
  cases settings "JWT_SECRET" with
  | none => simp [readSecret.missing]
  | some text =>
    by_cases blank : text = ""
    · simp [blank, readSecret.missing]
    · simp [blank]
      rintro rfl
      exact blank

theorem readSecret_decides :
    (Check.ensure (∃ secret, settings "JWT_SECRET" = some secret ∧ secret ≠ "")
      "JWT_SECRET must be set").Decides (readSecret settings) := by
  refine ensure_decides Iff.rfl (fun none => ?_) fun ⟨secret, set⟩ =>
    ⟨secret, readSecret_eq_ok_iff.mpr set⟩
  cases read : readSecret settings with
  | ok secret => exact absurd ⟨secret, readSecret_eq_ok_iff.mp read⟩ none
  | error failure =>
    unfold readSecret readSecret.missing at read
    split at read
    · split at read
      · exact read.symm
      · cases read
    · exact read.symm

/-- What is reported is the fault of the first check that does not pass. -/
theorem ofSettings_eq_error_iff :
    ofSettings settings = .error failure ↔ FirstFault (checks settings) failure := by
  unfold ofSettings checks
  refine (Setting.maxAttempts.check_decides settings 4).bind (fun n attempts => ?_) failure
  refine (Setting.backoffUnit.check_decides settings 100).bind fun unit _ => ?_
  refine (make?_decides _ attempts).bind fun policy _ => ?_
  refine (Setting.restartPause.check_decides settings 10).bind fun pause _ => ?_
  rw [readMaxConnections, bind_assoc]
  refine (Setting.maxConnections.check_decides settings 5).bind fun connections read => ?_
  refine (maxConnections_decides read).bind fun connections _ => ?_
  refine readSecret_decides.bind fun secret _ => ?_
  rw [← Setting.backend_read, ← Setting.isolation_read]
  refine (Setting.backend.check_decides settings .postgres).bind fun backend _ => ?_
  refine (Setting.isolation.check_decides? settings).bind fun isolation _ => ?_
  refine (Setting.maxRestarts.check_decides settings 10).bind fun restarts _ => ?_
  refine (Setting.followerReads.check_decides settings false).bind fun reads _ => ?_
  refine (Setting.port.check_decides settings 3000).bind fun port _ failure => ?_
  constructor
  · rintro ⟨⟩
  · rintro ⟨⟩

theorem bind_eq_ok_iff {x : Except Failure α} {next : α → Except Failure β} {b : β} :
    (x >>= next) = .ok b ↔ ∃ a, x = .ok a ∧ next a = .ok b := by
  cases x with
  | error failure => exact ⟨(by rintro ⟨⟩), (by rintro ⟨_, ⟨⟩, _⟩)⟩
  | ok a => exact ⟨fun h => ⟨a, rfl, h⟩, (by rintro ⟨_, ⟨⟩, h⟩; exact h)⟩

theorem make?_eq_ok_iff {n : Nat} {unit : Duration} {policy : RetryPolicy} :
    RetryPolicy.make? n unit = .ok policy ↔ policy.maxAttempts = n ∧ policy.unit = unit := by
  unfold RetryPolicy.make?
  constructor
  · intro h
    split at h
    · cases h
      exact ⟨rfl, rfl⟩
    · cases h
  · rintro ⟨rfl, rfl⟩
    rw [dif_pos policy.maxAttempts_pos]

theorem readMaxConnections_eq_ok_iff {n : Nat} :
    readMaxConnections settings = .ok n ↔
      (∃ found, Setting.maxConnections.Holds settings found ∧ n = found.getD 5) ∧ 0 < n := by
  rw [← Setting.read_eq_ok_iff, readMaxConnections, bind_eq_ok_iff]
  constructor
  · rintro ⟨m, read, h⟩
    split at h
    · cases h
    · cases h
      exact ⟨read, by omega⟩
  · rintro ⟨read, positive⟩
    exact ⟨n, read, if_neg (by omega)⟩

/-- The configuration that is made is what the settings denote. -/
theorem ofSettings_eq_ok_iff : ofSettings settings = .ok config ↔ config.DenotedBy settings := by
  unfold ofSettings
  rw [← Setting.backend_read, ← Setting.isolation_read]
  simp only [bind_eq_ok_iff]
  constructor
  · rintro ⟨attempts, hattempts, unit, hunit, policy, hpolicy, pause, hpause, connections,
      hconnections, secret, hsecret, backend, hbackend, isolation, hisolation, restarts, hrestarts,
      reads, hreads, port, hport, ⟨⟩⟩
    obtain ⟨n, holds, rfl⟩ := Setting.maxAttempts.read_eq_ok_iff.mp hattempts
    obtain ⟨m, holds', rfl⟩ := Setting.backoffUnit.read_eq_ok_iff.mp hunit
    obtain ⟨same, same'⟩ := make?_eq_ok_iff.mp hpolicy
    obtain ⟨k, holds'', rfl⟩ := Setting.restartPause.read_eq_ok_iff.mp hpause
    obtain ⟨number, some⟩ := readMaxConnections_eq_ok_iff.mp hconnections
    obtain ⟨set, nonempty⟩ := readSecret_eq_ok_iff.mp hsecret
    exact {
      databaseUrl := rfl
      maxAttempts := ⟨n, holds, same⟩
      unit := ⟨m, holds', same'⟩
      pauseUnit := ⟨k, holds'', rfl⟩
      maxConnections := number
      maxConnections_pos := some
      secret := set
      secret_ne := nonempty
      backend := Setting.backend.read_eq_ok_iff.mp hbackend
      isolation := Setting.isolation.read?_eq_ok_iff.mp hisolation
      maxRestarts := Setting.maxRestarts.read_eq_ok_iff.mp hrestarts
      followerReads := Setting.followerReads.read_eq_ok_iff.mp hreads
      port := Setting.port.read_eq_ok_iff.mp hport }
  · intro denoted
    obtain ⟨n, holds, same⟩ := denoted.maxAttempts
    obtain ⟨m, holds', same'⟩ := denoted.unit
    obtain ⟨k, holds'', same''⟩ := denoted.pauseUnit
    refine ⟨_, Setting.maxAttempts.read_eq_ok_iff.mpr ⟨n, holds, rfl⟩, _,
      Setting.backoffUnit.read_eq_ok_iff.mpr ⟨m, holds', rfl⟩, _,
      make?_eq_ok_iff.mpr ⟨same, same'⟩, _,
      Setting.restartPause.read_eq_ok_iff.mpr ⟨k, holds'', rfl⟩, _,
      readMaxConnections_eq_ok_iff.mpr ⟨denoted.maxConnections, denoted.maxConnections_pos⟩, _,
      readSecret_eq_ok_iff.mpr ⟨denoted.secret, denoted.secret_ne⟩, _,
      Setting.backend.read_eq_ok_iff.mpr denoted.backend, _,
      Setting.isolation.read?_eq_ok_iff.mpr denoted.isolation, _,
      Setting.maxRestarts.read_eq_ok_iff.mpr denoted.maxRestarts, _,
      Setting.followerReads.read_eq_ok_iff.mpr denoted.followerReads, _,
      Setting.port.read_eq_ok_iff.mpr denoted.port, ?_⟩
    rw [← same'', ← denoted.databaseUrl]
    rfl

/-- The names whose texts count up to the blanks around them. -/
def names : List String :=
  ["TX_MAX_ATTEMPTS", "TX_BACKOFF_UNIT_MS", "CRDB_RESTART_BACKOFF_MS", "DB_MAX_CONNECTIONS",
    "DB_BACKEND", "PG_ISOLATION", "CRDB_MAX_RESTARTS", "CRDB_FOLLOWER_READS", "PORT"]

end Config

/-- Settings that differ in nothing but blanks around texts, and in names that are blank instead of
unset. The secret and the address of the database are taken as they are. -/
structure Settings.Alike (settings other : Settings) : Prop where
  secret : settings "JWT_SECRET" = other "JWT_SECRET"
  databaseUrl : settings "DATABASE_URL" = other "DATABASE_URL"
  shows : ∀ name ∈ Config.names, ∀ cs, settings.Shows name cs ↔ other.Shows name cs

theorem Settings.Alike.symm {settings other : Settings} (alike : settings.Alike other) :
    other.Alike settings :=
  ⟨alike.secret.symm, alike.databaseUrl.symm, fun name mem cs => (alike.shows name mem cs).symm⟩

theorem Setting.Holds.alike {settings other : Settings} {setting : Setting α} {found : Option α}
    (holds : setting.Holds settings found) (alike : settings.Alike other)
    (mem : setting.name ∈ Config.names) : setting.Holds other found := by
  cases holds with
  | default blank => exact .default ((alike.shows _ mem _).mp blank)
  | value shows some denotes => exact .value ((alike.shows _ mem _).mp shows) some denotes

namespace Config

theorem DenotedBy.alike {settings other : Settings} {config : Config}
    (denoted : config.DenotedBy settings) (alike : settings.Alike other) :
    config.DenotedBy other where
  databaseUrl := alike.databaseUrl ▸ denoted.databaseUrl
  maxAttempts := denoted.maxAttempts.imp fun _ h => ⟨h.1.alike alike (by decide), h.2⟩
  unit := denoted.unit.imp fun _ h => ⟨h.1.alike alike (by decide), h.2⟩
  pauseUnit := denoted.pauseUnit.imp fun _ h => ⟨h.1.alike alike (by decide), h.2⟩
  maxConnections := denoted.maxConnections.imp fun _ h => ⟨h.1.alike alike (by decide), h.2⟩
  maxConnections_pos := denoted.maxConnections_pos
  secret := alike.secret ▸ denoted.secret
  secret_ne := denoted.secret_ne
  backend := denoted.backend.imp fun _ h => ⟨h.1.alike alike (by decide), h.2⟩
  isolation := denoted.isolation.alike alike (by decide)
  maxRestarts := denoted.maxRestarts.imp fun _ h => ⟨h.1.alike alike (by decide), h.2⟩
  followerReads := denoted.followerReads.imp fun _ h => ⟨h.1.alike alike (by decide), h.2⟩
  port := denoted.port.imp fun _ h => ⟨h.1.alike alike (by decide), h.2⟩

/-- Where nothing but a secret is written, every default passes its own check. -/
theorem ofSettings_default {settings : Settings} {secret : String}
    (blank : ∀ name ∈ names, settings.Shows name []) (set : settings "JWT_SECRET" = some secret)
    (nonempty : secret ≠ "") :
    ofSettings settings = .ok {
      databaseUrl := (settings "DATABASE_URL").getD defaultUrl
      backend := .postgres
      maxConnections := 5
      policy := .default
      isolation := none
      cockroach := ⟨10, .ofMillis 10, false⟩
      secret
      port := 3000 } :=
  ofSettings_eq_ok_iff.mpr {
    databaseUrl := rfl
    maxAttempts := ⟨none, .default (blank _ (by decide)), rfl⟩
    unit := ⟨none, .default (blank _ (by decide)), rfl⟩
    pauseUnit := ⟨none, .default (blank _ (by decide)), rfl⟩
    maxConnections := ⟨none, .default (blank _ (by decide)), rfl⟩
    maxConnections_pos := Nat.zero_lt_succ 4
    secret := set
    secret_ne := nonempty
    backend := ⟨none, .default (blank _ (by decide)), rfl⟩
    isolation := .default (blank _ (by decide))
    maxRestarts := ⟨none, .default (blank _ (by decide)), rfl⟩
    followerReads := ⟨none, .default (blank _ (by decide)), rfl⟩
    port := ⟨none, .default (blank _ (by decide)), rfl⟩ }

/-- For all settings: a configuration is made just if every check passes, and then it is the one
that the settings denote; otherwise a misconfiguration is reported, the fault of the first check
that does not pass. Blanks around a text, and a blank text for an unset name, change nothing about
the configuration. -/
theorem ofSettings_exact (settings : Settings) :
    ((∃ config, ofSettings settings = .ok config) ↔ ∀ check ∈ checks settings, check.Passes) ∧
    (∀ config, ofSettings settings = .ok config ↔ config.DenotedBy settings) ∧
    (∀ failure, ofSettings settings = .error failure ↔ FirstFault (checks settings) failure) ∧
    (∀ failure, ofSettings settings = .error failure →
      failure.kind = .misconfigured ∧ failure.causes = []) ∧
    (∀ other, settings.Alike other → ∀ config,
      ofSettings settings = .ok config ↔ ofSettings other = .ok config) := by
  refine ⟨?_, fun _ => ofSettings_eq_ok_iff, fun _ => ofSettings_eq_error_iff,
    fun _ refused => (ofSettings_eq_error_iff.mp refused).misconfigured,
    fun other alike config => ?_⟩
  · simp only [passes_iff_not_firstFault, ← ofSettings_eq_error_iff]
    cases ofSettings settings with
    | ok config => exact ⟨fun _ _ => (by rintro ⟨⟩), fun _ => ⟨config, rfl⟩⟩
    | error failure => exact ⟨(by rintro ⟨_, ⟨⟩⟩), fun none => absurd rfl (none failure)⟩
  · rw [ofSettings_eq_ok_iff, ofSettings_eq_ok_iff]
    exact ⟨fun denoted => denoted.alike alike, fun denoted => denoted.alike alike.symm⟩

end Config

end SessionKeeper
