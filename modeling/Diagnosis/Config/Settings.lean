import Diagnosis.Analysis.Cpp
import Diagnosis.Json.Value
import Diagnosis.Logging.Settings

/-!
# Settings

The configuration of the service, section by section, with its defaults, and its form as JSON. Which
explanation service it asks for is `selected?`: one without a key is not used.
-/

namespace Diagnosis

open Diagnosis.Analysis

namespace Config

/-- The HTTP server. -/
structure Server where
  /-- The address to listen on. -/
  host : String := "127.0.0.1"
  /-- The port to listen on. -/
  port : Int := 5000
  /-- Who may call from a browser. -/
  corsOrigins : List String := ["*"]
  /-- The most bytes that an uploaded file may have. -/
  maxUploadBytes : Int := 2097152
  deriving Repr

/-- Claude as the explanation service. -/
structure Anthropic where
  /-- The key. -/
  apiKey : Option String := none
  /-- The model. -/
  model : String := "claude-3-5-sonnet-20241022"
  /-- The most tokens of an answer. -/
  maxTokens : Int := 4096
  /-- How freely the model answers. -/
  temperature : Float := 0.3
  deriving Repr

/-- Gemini as the explanation service. -/
structure Gemini where
  /-- The key. -/
  apiKey : Option String := none
  /-- The model. -/
  model : String := "gemini-2.5-flash"
  /-- The address of the service. -/
  baseUrl : String := "https://generativelanguage.googleapis.com/v1beta"
  /-- The most tokens of an answer. -/
  maxOutputTokens : Int := 4096
  /-- How freely the model answers. -/
  temperature : Float := 0.3
  deriving Repr

/-- Which explanation service is asked. -/
inductive Provider where
  /-- Claude. -/
  | anthropic
  /-- Gemini. -/
  | gemini
  /-- None. -/
  | none
  deriving Repr, DecidableEq, Inhabited

/-- The name of a provider. -/
def Provider.name : Provider → String
  | anthropic => "anthropic"
  | gemini => "gemini"
  | none => "none"

/-- The explanation service. -/
structure Explanations where
  /-- Which one is asked. -/
  provider : Provider := .anthropic
  /-- The settings for Claude. -/
  anthropic : Option Anthropic := none
  /-- The settings for Gemini. -/
  gemini : Option Gemini := none
  /-- How many seconds an answer may take. -/
  timeout : Option Float := some 60.0
  /-- Whether secrets are taken out of what is asked. -/
  redactSecrets : Bool := true
  deriving Repr

/-- The rules for JavaScript, if none are given. -/
def defaultRules : List (String × Json) :=
  [("no-unused-vars", .string "warn"), ("no-undef", .string "error"),
    ("no-console", .string "warn"), ("semi", .strings ["error", "always"]),
    ("indent", .array [.string "error", .int 4, .object [("SwitchCase", .int 1)]]),
    ("quotes", .strings ["error", "single"])]

/-- Pylint. -/
structure Python where
  /-- The path of pylint. -/
  pylintPath : String := "pylint"
  /-- The configuration file of pylint. -/
  rcfile : String
  deriving Repr

/-- Text recognition. -/
structure TextRecognition where
  /-- The language of the texts. -/
  language : String := "eng"
  /-- The command that recognises texts. -/
  command : Option String := none
  deriving Repr

/-- The log file. -/
structure LogFile where
  /-- Whether there is one. -/
  enabled : Bool := false
  /-- Its path. -/
  path : String := "/var/log/code-debugger/service.log"
  deriving Repr

/-- The log. -/
structure Log where
  /-- The level from which on events are logged. -/
  level : Logging.Level := .info
  /-- The form of log lines. -/
  format : Logging.Format := .json
  /-- The log file. -/
  file : LogFile := {}
  deriving Repr

end Config

/-- The configuration of the service. -/
structure Config where
  /-- The HTTP server. -/
  server : Config.Server := {}
  /-- The explanation service. -/
  explanations : Config.Explanations := {}
  /-- The rules for JavaScript. -/
  rules : List (String × Json) := Config.defaultRules
  /-- Pylint. -/
  python : Config.Python
  /-- The compiler. -/
  compiler : CompilerSettings := {}
  /-- How many seconds a tool may take. -/
  toolTimeout : Option Float := some 60.0
  /-- Text recognition. -/
  textRecognition : Config.TextRecognition := {}
  /-- The log. -/
  log : Config.Log := {}
  deriving Repr

namespace Config

/-! ## The selected explanation service -/

/-- An explanation service that can be used. -/
inductive Selection where
  /-- Claude. -/
  | anthropic (settings : Anthropic)
  /-- Gemini. -/
  | gemini (settings : Gemini)
  deriving Repr

/-- Whether there is a key. -/
def hasKey (key : Option String) : Bool := key.any (!·.isEmpty)

/-- The explanation service that settings select, if it can be used. -/
def Explanations.selected? (e : Explanations) : Option Selection :=
  match e.provider with
  | .anthropic => (e.anthropic.filter fun a => hasKey a.apiKey).map .anthropic
  | .gemini => (e.gemini.filter fun g => hasKey g.apiKey).map .gemini
  | .none => none

/-- The model of a service. -/
def Selection.model : Selection → String
  | anthropic a => a.model
  | gemini g => g.model

/-! ## Settings as JSON -/

/-- A number that may be missing. -/
def optionalNumber (x : Option Float) : Json := (x.map Json.float).getD .null

/-- The settings of the server. -/
def Server.toJson (s : Server) : Json :=
  .object
    [("host", .string s.host), ("port", .int s.port), ("cors_origins", .strings s.corsOrigins),
      ("max_upload_bytes", .int s.maxUploadBytes)]

/-- The settings for Claude. -/
def Anthropic.toJson (a : Anthropic) : Json :=
  .object
    [("api_key", .ofString? a.apiKey), ("model", .string a.model), ("max_tokens", .int a.maxTokens),
      ("temperature", .float a.temperature)]

/-- The settings for Gemini. -/
def Gemini.toJson (g : Gemini) : Json :=
  .object
    [("api_key", .ofString? g.apiKey), ("model", .string g.model), ("base_url", .string g.baseUrl),
      ("max_output_tokens", .int g.maxOutputTokens), ("temperature", .float g.temperature)]

/-- The settings of the explanation service. -/
def Explanations.toJson (e : Explanations) : Json :=
  .object
    [("provider", .string e.provider.name),
      ("anthropic", (e.anthropic.map (·.toJson)).getD .null),
      ("gemini", (e.gemini.map (·.toJson)).getD .null), ("timeout", optionalNumber e.timeout),
      ("redact_secrets", .bool e.redactSecrets)]

/-- The settings of pylint. -/
def Python.toJson (p : Python) : Json :=
  .object [("pylint_path", .string p.pylintPath), ("rcfile", .string p.rcfile)]

/-- The settings of the compiler. -/
def compilerJson (c : CompilerSettings) : Json :=
  .object
    [("compiler_path", .string c.compiler), ("standard", .string c.standard),
      ("extra_flags", .strings c.extraFlags)]

/-- The settings of text recognition. -/
def TextRecognition.toJson (t : TextRecognition) : Json :=
  .object [("language", .string t.language), ("tesseract_cmd", .ofString? t.command)]

/-- The settings of the log. -/
def Log.toJson (l : Log) : Json :=
  .object
    [("level", .string l.level.name), ("format", .string l.format.name),
      ("file", .object [("enabled", .bool l.file.enabled), ("path", .string l.file.path)])]

/-- The sections of a configuration and their names. -/
def sections (c : Config) : List (String × Json) :=
  [("server", c.server.toJson), ("llm", c.explanations.toJson),
    ("javascript", .object [("rules", .object c.rules)]), ("python", c.python.toJson),
    ("cfamily", compilerJson c.compiler),
    ("tools", .object [("timeout", optionalNumber c.toolTimeout)]),
    ("ocr", c.textRecognition.toJson), ("logging", c.log.toJson)]

/-- A configuration as JSON. -/
def toJson (c : Config) : Json := .object c.sections

end Config

end Diagnosis
