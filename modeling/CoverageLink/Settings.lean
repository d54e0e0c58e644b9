import CoverageLink.Artifact.Filter
import CoverageLink.Link.Backoff
import CoverageLink.Log
import CoverageLink.ProjectInfo
import CoverageLink.Text.Numeral
import CoverageLink.Text.Quoted

/-!
# The settings of an agent

An agent runs inside another program and is configured by variables of its environment.
Reading them (`Settings.ofVariables`) starts from the defaults and fails only where a
number is no number; a variable that is empty counts as absent.

Whether the settings make sense is a second question (`Settings.validate`), asked before
anything is started: everything that would otherwise fail later for a reason that was
known at the start is refused here, and the first objection wins.
-/

namespace CoverageLink

/-- An objection to the settings of an agent. -/
inductive SettingsFault
  | missing (name : String)
  | invalidNumber (name value : String)
  | invalidPattern (fault : Artifact.PatternFault)
  | invalidAddress (address : String)
  | invalidProjectField (name value : String)
  | startup (reason : String)
  deriving DecidableEq, Repr, Inhabited

/-- The wording of an objection. -/
def SettingsFault.message : SettingsFault → String
  | missing name => "the '" ++ name ++ "' setting is required"
  | invalidNumber name value => "'" ++ value ++ "' is not a valid number for '" ++ name ++ "'"
  | invalidPattern fault => "invalid pattern '" ++ fault.pattern ++ "': " ++ fault.fault.message
  | invalidAddress address => "invalid collector address '" ++ address ++ "'"
  | invalidProjectField name value =>
    "'" ++ name ++ "' must not contain '|' (got '" ++ value ++ "')"
  | startup reason => "failed to start the agent: " ++ reason

/-- The settings of an agent. -/
structure Settings where
  address : String
  port : UInt16
  project : ProjectInfo
  /-- Where the running program dumps its classes. -/
  dumpDirectory : String
  /-- The application's own archive, if there is one. -/
  archive : Option String
  includes : String
  excludes : String
  /-- Beginnings of names in archives that are never sent. -/
  denied : List String
  /-- Where nested archives are unpacked; the system's own place if unset. -/
  scratchDirectory : Option String
  heartbeatInterval : Interval
  connectTimeout : Interval
  backoff : Link.Backoff
  deriving Inhabited

namespace Settings

/-- The name spaces of platforms and well-known frameworks. -/
def standardDenied : List String :=
  ["java/", "javax/", "jdk/", "sun/", "com/sun/", "org/springframework/", "kotlin/", "scala/"]

/-- The settings of an environment without variables. -/
def standard : Settings where
  address := "127.0.0.1"
  port := 6300
  project := ⟨"", "", "", "", "", ""⟩
  dumpDirectory := ""
  archive := none
  includes := "*"
  excludes := ""
  denied := standardDenied
  scratchDirectory := none
  heartbeatInterval := .ofSeconds 60
  connectTimeout := .ofSeconds 10
  backoff := .standard

/-! ## Reading the environment -/

/-- The number below a bound that a variable holds; the given one if it is absent. -/
def numberBelow (bound : Nat) (lookup : String → Option String) (name : String) :
    Except SettingsFault (Option Nat) :=
  match lookup name with
  | none => .ok none
  | some value =>
    match Text.parseTrimmedBelow bound value with
    | some number => .ok (some number)
    | none => .error (.invalidNumber name value)

/-- The number of milliseconds that a variable holds; the given interval if absent. -/
def millisOr (standard : Interval) (lookup : String → Option String) (name : String) :
    Except SettingsFault Interval := do
  return ((← numberBelow UInt64.size lookup name).map
    fun millis => Interval.ofMillis (UInt64.ofNat millis)).getD standard

/-- The non-empty texts between colons. -/
def denylist (value : String) : List String :=
  (Text.pieces ':' value).filter fun start => !start.isEmpty

/-- The settings that the variables of an environment ask for. -/
def ofVariables (environment : String → Option String) : Except SettingsFault Settings := do
  let lookup (name : String) : Option String :=
    (environment name).filter fun value => !value.isEmpty
  let textOr (standard name : String) : String := (lookup name).getD standard
  let port ← numberBelow UInt16.size lookup "COVSTREAM_PORT"
  let heartbeatInterval ←
    millisOr standard.heartbeatInterval lookup "COVSTREAM_HEARTBEAT_INTERVAL_MS"
  let connectTimeout ← millisOr standard.connectTimeout lookup "COVSTREAM_CONNECT_TIMEOUT_MS"
  let base ← millisOr standard.backoff.base lookup "COVSTREAM_RETRY_DELAY_MS"
  let cap ← millisOr standard.backoff.cap lookup "COVSTREAM_MAX_RETRY_DELAY_MS"
  return {
    address := textOr standard.address "COVSTREAM_ADDRESS"
    port := (port.map UInt16.ofNat).getD standard.port
    project :=
      { product := textOr "" "COVSTREAM_PRODUCT"
        project := textOr "" "COVSTREAM_PROJECT"
        service := textOr "" "COVSTREAM_SERVICE"
        branch := textOr "" "COVSTREAM_BRANCH"
        commit := textOr "" "COVSTREAM_COMMIT"
        gitUrl := textOr "" "COVSTREAM_GIT_URL" }
    dumpDirectory := textOr "" "COVSTREAM_CLASS_DUMP_DIR"
    archive := lookup "COVSTREAM_ARCHIVE"
    includes := textOr standard.includes "COVSTREAM_INCLUDES"
    excludes := textOr standard.excludes "COVSTREAM_EXCLUDES"
    denied := ((lookup "COVSTREAM_DENYLIST").map denylist).getD standardDenied
    scratchDirectory := lookup "COVSTREAM_SCRATCH_DIR"
    heartbeatInterval
    connectTimeout
    backoff := ⟨base, cap⟩ }

/-! ## Objections -/

/-- The filter that the settings ask for. -/
def filter (settings : Settings) (glob : Artifact.Glob := Wildcard.compile) :
    Except SettingsFault Artifact.Filter :=
  match Artifact.Filter.parse settings.includes settings.excludes glob with
  | .ok filter => .ok filter
  | .error fault => .error (.invalidPattern fault)

/-- The names of the project's texts in the settings. -/
def projectFieldNames : List String :=
  ["product", "project", "service", "branch", "commit", "git_url"]

/-- The address and port of the collector in one text. -/
def endpoint (settings : Settings) : String := settings.address ++ s!":{settings.port.toNat}"

/-- The first objection to the settings, if there is one. -/
def validate (settings : Settings) (glob : Artifact.Glob := Wildcard.compile) :
    Except SettingsFault Unit := do
  if settings.project.product.isEmpty then throw (.missing "product")
  if settings.dumpDirectory.isEmpty then throw (.missing "class_dump_dir")
  if settings.address.isEmpty || settings.port = 0 then throw (.invalidAddress settings.endpoint)
  let named := projectFieldNames.zip settings.project.fields
  match named.find? fun entry => entry.2.toList.contains '|' with
  | some (name, value) => throw (.invalidProjectField name value)
  | none => pure ()
  let _ ← settings.filter glob
  if settings.heartbeatInterval = .zero then throw (.invalidNumber "heartbeat_interval" "0")
  if settings.connectTimeout = .zero then throw (.invalidNumber "connect_timeout" "0")

/-! ## What an agent says about its settings -/

/-- The lines an agent logs when it starts. -/
def lines (settings : Settings) : List Log.Line :=
  let project := settings.project
  [ some ("Collector: " ++ settings.endpoint),
    some ("Project: " ++ project.product ++ "/" ++ project.project ++
      " (service: '" ++ project.service ++ "', branch: '" ++ project.branch ++
      "', commit: '" ++ project.commit ++ "')"),
    some ("Class dump directory: " ++ Text.quoted settings.dumpDirectory),
    settings.archive.map fun archive => "Application archive: " ++ Text.quoted archive,
    some ("Includes: '" ++ settings.includes ++ "', excludes: '" ++ settings.excludes ++ "'"),
    some ("Denied archive namespaces: '" ++ Text.join ':' settings.denied ++ "'"),
    settings.scratchDirectory.map fun scratch => "Scratch directory: " ++ Text.quoted scratch,
    some s!"Heartbeat interval: {settings.heartbeatInterval.millis}ms",
    some (s!"Retry delay: {settings.backoff.base.millis}ms, " ++
      s!"capped at {settings.backoff.cap.millis}ms") ].filterMap fun text => text.map Log.info

end Settings
end CoverageLink
