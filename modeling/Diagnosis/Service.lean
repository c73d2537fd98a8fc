import Diagnosis.Analysis.Cpp
import Diagnosis.Analysis.JavaScript
import Diagnosis.Analysis.Python
import Diagnosis.Analysis.Router
import Diagnosis.Config.Settings

/-!
# The service

The analyzers that a configuration asks for, one for each language, and the router that hands texts
to them. There is no service if the rules for JavaScript cannot be read and cannot be quoted either.
-/

namespace Diagnosis

open Diagnosis.Analysis Diagnosis.Explain Diagnosis.Tool

/-- What analyses need from outside. -/
structure Workplace where
  /-- The JavaScript parser. -/
  parse : Text.Bytes → Syntax.Tree
  /-- Where scratch files are made. -/
  scratch : Scratch
  /-- Runs pylint. -/
  pylint : Runner
  /-- Runs the compiler. -/
  compiler : Runner
  /-- Who asks the explanation service. -/
  consultant : Consultant

/-- Why there is no service. -/
inductive ServiceFault where
  /-- Two analyzers have the same tag. -/
  | duplicateTag (error : DuplicateTag)
  /-- A setting of a rule cannot be quoted. -/
  | rules (fault : Json.QuoteFault)
  deriving Repr, DecidableEq

/-- The wording of a fault. -/
def ServiceFault.message : ServiceFault → String
  | duplicateTag error => error.message
  | rules fault => fault.message

namespace Workplace

/-- The analyzer for JavaScript. -/
def javaScript (w : Workplace) (c : Config) : Except Json.QuoteFault JavaScriptAnalyzer :=
  JavaScriptAnalyzer.ofSettings c.rules w.parse w.consultant

/-- The analyzer for Python. -/
def python (w : Workplace) (c : Config) : PythonAnalyzer :=
  ⟨c.python.rcfile, w.scratch, w.pylint, w.consultant⟩

/-- The analyzer for C++. -/
def cpp (w : Workplace) (c : Config) : CppAnalyzer :=
  ⟨c.compiler, w.scratch, w.compiler, w.consultant⟩

/-- The analyzers, with the tags of their languages. -/
def analyzers (w : Workplace) (c : Config) (javaScript : JavaScriptAnalyzer) : List (Analyzer Id) :=
  [⟨"javascript", ["js"], javaScript.analyze⟩, ⟨"python", ["py"], (w.python c).analyze⟩,
    ⟨"c++", ["cpp"], (w.cpp c).analyze⟩]

/-- The router for all languages. -/
def router (w : Workplace) (c : Config) : Except ServiceFault (Router Id) := do
  let javaScript ← (w.javaScript c).mapError .rules
  (Router.ofAnalyzers (w.analyzers c javaScript)).mapError .duplicateTag

end Workplace

end Diagnosis
