import ShortlinkCatalog.Settings.Basic
import ShortlinkCatalog.Settings.EnvFile
import ShortlinkCatalog.Text.Case

/-!
# Loading settings

A setting comes from the environment, else from an environment file, else it has its
default.  Names are compared in lower case, and of names that agree so the last one
counts.  Every setting that cannot be read is reported.
-/

namespace ShortlinkCatalog.Settings

abbrev Environment := List (Text × Text)

/-- The value that the last of the names equal in lower case has. -/
def valueOf? {α : Type} (name : Text) (values : List (Text × α)) : Option α :=
  (values.reverse.find? fun value => Text.toLower value.1 == Text.toLower name).map (·.2)

/-- Where settings are looked up. -/
structure Sources where
  environment : Environment
  file : EnvFile.Bindings

def Sources.get? (sources : Sources) (name : Text) : Option Text :=
  (valueOf? name sources.environment).or ((valueOf? name sources.file).join)

/-- Why the text of a setting cannot be read. -/
inductive Fault
  | unknownDeployment
  | notAnInteger
  | integerTooLong
  | notANumber
deriving DecidableEq, Repr

/-- The name of the kind of fault. -/
def Fault.kind : Fault → Text
  | .unknownDeployment => "enum"
  | .notAnInteger => "int_parsing"
  | .integerTooLong => "int_parsing_size"
  | .notANumber => "float_parsing"

def Fault.message : Fault → Text
  | .unknownDeployment => "Input should be 'production', 'staging' or 'dev'"
  | .notAnInteger => "Input should be a valid integer, unable to parse string as an integer"
  | .integerTooLong => "Unable to parse input string as an integer, exceeded maximum size"
  | .notANumber => "Input should be a valid number, unable to parse string as a number"

structure FieldError where
  field : Text
  fault : Fault
deriving DecidableEq, Repr

/-- The name of a deployment in the program and the text that selects it. -/
def deployments : List (Deployment × Text × Text) :=
  [(.production, "production", "production"), (.staging, "staging", "staging"),
    (.development, "development", "dev")]

def deploymentOf (text : Text) : Except Fault Deployment :=
  match deployments.find? fun deployment => deployment.2.2 == text with
  | some deployment => .ok deployment.1
  | none => .error .unknownDeployment

def integerOf (text : Text) : Except Fault Int :=
  match Decimal.parseInteger text with
  | .ok value => .ok value
  | .error .malformed => .error .notAnInteger
  | .error .tooManyDigits => .error .integerTooLong

def timeoutOf (text : Text) : Except Fault Timeout :=
  match Binary64.parse? text with
  | some value => .ok (.real value)
  | none => .error .notANumber

/-- The value of a setting or its default, with the fault of a value that cannot be
read. -/
def field {α : Type} (sources : Sources) (name : Text) (default : α)
    (read : Text → Except Fault α) : α × List FieldError :=
  match sources.get? name with
  | none => (default, [])
  | some text =>
      match read text with
      | .ok value => (value, [])
      | .error fault => (default, [⟨name, fault⟩])

/-- Reads the settings from an environment and the text of an environment file. -/
def load (environment : Environment) (file : Option Text) : Except (List FieldError) Settings :=
  let bindings := EnvFile.resolve environment (EnvFile.bindings (file.getD []))
  let sources : Sources := ⟨environment, bindings⟩
  let text (name : Text) (default : Text) : Text := (sources.get? name).getD default
  let (deployment, deploymentFault) :=
    field sources "ENV_SETTING" default.deployment deploymentOf
  let (timemapLimit, limitFault) :=
    field sources "TIMEMAP_LIMIT" default.timemapLimit integerOf
  let (httpTimeout, timeoutFault) :=
    field sources "HTTP_TIMEOUT" default.httpTimeout timeoutOf
  let settings : Settings :=
    { deployment, timemapLimit, httpTimeout
      logLevel := text "LOG_LEVEL" default.logLevel
      databaseUrl := text "DATABASE_URL" default.databaseUrl
      timemapUrl := text "CDX_API_URL" default.timemapUrl
      scrapeUrl := text "SCRAPE_API_URL" default.scrapeUrl
      downloadUrl := text "DOWNLOAD_BASE_URL" default.downloadUrl
      userAgent := text "USER_AGENT" default.userAgent }
  match deploymentFault ++ limitFault ++ timeoutFault with
  | [] => .ok settings
  | faults => .error faults

end ShortlinkCatalog.Settings
