import Diagnosis.Analysis.Outcome
import Diagnosis.Text.Case

/-!
# Routing

A `Router` hands a text to the one analyzer that is registered for its language. Languages are told
by tags; case and blanks around a tag do not matter, and no tag may be registered twice.

Analyzers may have effects of any kind `m`.
-/

namespace Diagnosis.Analysis

open Diagnosis.Text Diagnosis.Report

/-- What analyses texts of a language. -/
structure Analyzer (m : Type → Type) where
  /-- The language. -/
  name : String
  /-- Other tags for it. -/
  aliases : List String
  /-- Analyses a text. -/
  analyze : LooseText → m Outcome

/-- A tag without blanks around it, in small letters. -/
def normalizedTag (tag : String) : String := lower (stripString tag)

/-- The tags of an analyzer. -/
def Analyzer.tags {m : Type → Type} (a : Analyzer m) : List String :=
  (a.name :: a.aliases).map normalizedTag

/-- A tag has been registered twice. -/
structure DuplicateTag where
  /-- The tag. -/
  tag : String
  deriving Repr, DecidableEq

/-- The wording of the error. -/
def DuplicateTag.message (e : DuplicateTag) : String := "Language tag registered twice: " ++ e.tag

/-- Hands texts to analyzers. -/
structure Router (m : Type → Type) where
  /-- The tags and their analyzers, in the order of registration. -/
  table : List (String × Analyzer m)

namespace Router

variable {m : Type → Type}

/-- Registers an analyzer for a tag. -/
def register (r : Router m) (a : Analyzer m) (tag : String) : Except DuplicateTag (Router m) :=
  if (r.table.lookup tag).isSome then .error ⟨tag⟩ else .ok ⟨r.table ++ [(tag, a)]⟩

/-- The router for analyzers. -/
def ofAnalyzers (analyzers : List (Analyzer m)) : Except DuplicateTag (Router m) :=
  analyzers.foldlM (fun r a => a.tags.foldlM (fun r tag => r.register a tag) r) ⟨[]⟩

/-- The registered tags, sorted. -/
def languages (r : Router m) : List String :=
  (r.table.map (·.1)).mergeSort fun a b => !decide (b < a)

/-- The analyzer for a language. -/
def analyzerFor? (r : Router m) (language : String) : Option (Analyzer m) :=
  r.table.lookup (normalizedTag language)

/-- What is said before a language that has no analyzer. -/
def beforeLanguage : String := "Unsupported language for debugging: "

/-- What is said after it. -/
def afterLanguage : String := "."

/-- What is said of a language without an analyzer. -/
def unsupported (language : String) : Outcome :=
  .failed (beforeLanguage ++ language ++ afterLanguage) none

/-- Analyses a text of a language. -/
def analyze [Pure m] (r : Router m) (code : LooseText) (language : String) : m Outcome :=
  match r.analyzerFor? language with
  | some a => a.analyze code
  | none => pure (unsupported language)

end Router

end Diagnosis.Analysis
