import Diagnosis.Config.Check
import Diagnosis.Config.Environment
import Diagnosis.Config.Settings

/-!
# Reading settings

How each section of a configuration is read, which settings it has and which values they may have.
Settings that are not known are left alone.
-/

namespace Diagnosis.Config

open Diagnosis.Analysis Checked

/-- The server section. -/
def readServer (e : Entries) : Checked Server :=
  let d : Server := {}
  Server.mk <$> setting e "host" d.host asText
    <*> setting e "port" d.port (asIntWithin 1 (some 65535))
    <*> setting e "cors_origins" d.corsOrigins (asList asText)
    <*> setting e "max_upload_bytes" d.maxUploadBytes (asIntWithin 1024 none)

/-- The section for Claude. -/
def readAnthropic (e : Entries) : Checked Anthropic :=
  let d : Anthropic := {}
  Anthropic.mk <$> setting e "api_key" d.apiKey (asOptional asText)
    <*> setting e "model" d.model asText
    <*> setting e "max_tokens" d.maxTokens asInt
    <*> setting e "temperature" d.temperature asNumber

/-- The section for Gemini. -/
def readGemini (e : Entries) : Checked Gemini :=
  let d : Gemini := {}
  Gemini.mk <$> setting e "api_key" d.apiKey (asOptional asText)
    <*> setting e "model" d.model asText
    <*> setting e "base_url" d.baseUrl asText
    <*> setting e "max_output_tokens" d.maxOutputTokens asInt
    <*> setting e "temperature" d.temperature asNumber

/-- The names of providers. -/
def providers : List (String × Provider) :=
  [Provider.anthropic, .gemini, .none].map fun p => (p.name, p)

/-- A variable of the environment, unless it is empty. -/
def nonEmpty? (env : Environment) (name : String) : Option String :=
  (env.lookup name).filter (!·.isEmpty)

/-- The key, or else what the environment says. -/
def keyOr (env : Environment) (variableName : String) (key : Option String) : Option String :=
  if key.any (!·.isEmpty) then key else nonEmpty? env variableName

/-- The settings of the explanation service with the section of its provider, whose key may come
from the environment. -/
def Explanations.withKeys (env : Environment) (s : Explanations) : Explanations :=
  match s.provider with
  | .anthropic =>
    let a := s.anthropic.getD {}
    { s with anthropic := some { a with apiKey := keyOr env "ANTHROPIC_API_KEY" a.apiKey } }
  | .gemini =>
    let g := s.gemini.getD {}
    { s with gemini := some { g with apiKey := keyOr env "GOOGLE_API_KEY" g.apiKey } }
  | .none => s

/-- The section of the explanation service. -/
def readExplanations (env : Environment) (e : Entries) : Checked Explanations :=
  let d : Explanations := {}
  (Explanations.mk <$> setting e "provider" d.provider (asChoice providers)
      <*> setting e "anthropic" d.anthropic
        (asOptional (asSection "AnthropicConfig" readAnthropic))
      <*> setting e "gemini" d.gemini (asOptional (asSection "GeminiConfig" readGemini))
      <*> setting e "timeout" d.timeout (asOptional asPositive)
      <*> setting e "redact_secrets" d.redactSecrets asBool).map (·.withKeys env)

/-- The section for JavaScript. -/
def readRules (e : Entries) : Checked (List (String × Json)) := setting e "rules" defaultRules asMap

/-- The path of a configuration file of pylint, which must be there. -/
def asRcfile (isFile : String → Bool) (v : Yaml) : Checked String :=
  (asPath v).andThen fun path =>
    if isFile path then ok path else fault (.refused ("Pylint rcfile not found: " ++ path))

/-- The section of pylint. -/
def readPython (rcfile : String) (isFile : String → Bool) (e : Entries) : Checked Python :=
  Python.mk <$> setting e "pylint_path" "pylint" asText
    <*> setting e "rcfile" rcfile (asRcfile isFile)

/-- A language standard. -/
def asStandard (v : Yaml) : Checked String :=
  (asText v).andThen fun s =>
    if s.startsWith "c++" || s.startsWith "gnu++" then ok s
    else fault (.refused ("Unsupported C++ standard: " ++ s))

/-- The section of the compiler. -/
def readCompiler (e : Entries) : Checked CompilerSettings :=
  let d : CompilerSettings := {}
  CompilerSettings.mk <$> setting e "compiler_path" d.compiler asText
    <*> setting e "standard" d.standard asStandard
    <*> setting e "extra_flags" d.extraFlags (asList asText)

/-- The section of tools. -/
def readTools (e : Entries) : Checked (Option Float) :=
  setting e "timeout" (some 60.0) (asOptional asPositive)

/-- The section of text recognition. -/
def readTextRecognition (e : Entries) : Checked TextRecognition :=
  let d : TextRecognition := {}
  TextRecognition.mk <$> setting e "language" d.language asText
    <*> setting e "tesseract_cmd" d.command (asOptional asText)

/-- The section of the log file. -/
def readLogFile (e : Entries) : Checked LogFile :=
  let d : LogFile := {}
  LogFile.mk <$> setting e "enabled" d.enabled asBool <*> setting e "path" d.path asPath

/-- The names of log levels. -/
def levels : List (String × Logging.Level) := Logging.Level.all.map fun l => (l.name, l)

/-- The names of forms of log lines. -/
def formats : List (String × Logging.Format) :=
  [Logging.Format.json, .console].map fun f => (f.name, f)

/-- The section of the log. -/
def readLog (e : Entries) : Checked Log :=
  let d : Log := {}
  Log.mk <$> setting e "level" d.level (asChoice levels)
    <*> setting e "format" d.format (asChoice formats)
    <*> setting e "file" d.file (asSection "FileLoggingConfig" readLogFile)

/-- What the surroundings of the service say. -/
structure Surroundings where
  /-- The environment variables. -/
  env : Environment := []
  /-- The configuration file of pylint that comes with the service. -/
  rcfile : String
  /-- Whether there is a file of a path. -/
  isFile : String → Bool := fun _ => false

/-- A configuration. -/
def readConfig (s : Surroundings) (e : Entries) : Checked Config :=
  let sectionOf {α : Type} (key name : String) (default : α) (read : Entries → Checked α) :
      Checked α :=
    setting e key default (asSection name read)
  let explanations : Explanations := {}
  Config.mk <$> sectionOf "server" "ServerConfig" {} readServer
    <*> sectionOf "llm" "LLMConfig" (explanations.withKeys s.env) (readExplanations s.env)
    <*> sectionOf "javascript" "JavaScriptConfig" defaultRules readRules
    <*> sectionOf "python" "PythonLintConfig" { rcfile := s.rcfile } (readPython s.rcfile s.isFile)
    <*> sectionOf "cfamily" "CFamilyConfig" {} readCompiler
    <*> sectionOf "tools" "ToolsConfig" (some 60.0) readTools
    <*> sectionOf "ocr" "OCRConfig" {} readTextRecognition
    <*> sectionOf "logging" "LoggingConfig" {} readLog

end Diagnosis.Config
