import Diagnosis.Analysis.Cpp
import Diagnosis.Analysis.JavaScript
import Diagnosis.Analysis.Outcome
import Diagnosis.Analysis.Python
import Diagnosis.Analysis.Router
import Diagnosis.Automaton.Alphabet
import Diagnosis.Automaton.BitSet
import Diagnosis.Automaton.Contest
import Diagnosis.Automaton.Dfa
import Diagnosis.Automaton.Item
import Diagnosis.Automaton.Keyword
import Diagnosis.Automaton.LexGroup
import Diagnosis.Automaton.Lookahead
import Diagnosis.Automaton.Merge
import Diagnosis.Automaton.Nfa
import Diagnosis.Automaton.State
import Diagnosis.CommandLine.Arguments
import Diagnosis.CommandLine.Run
import Diagnosis.CommandLine.Switch
import Diagnosis.Compiler.Line
import Diagnosis.Compiler.Problem
import Diagnosis.Config.Check
import Diagnosis.Config.Describe
import Diagnosis.Config.Environment
import Diagnosis.Config.Load
import Diagnosis.Config.Overrides
import Diagnosis.Config.Schema
import Diagnosis.Config.Settings
import Diagnosis.Decimal.Layout
import Diagnosis.Decimal.Shortest
import Diagnosis.Explain.Consult
import Diagnosis.Explain.Prompt
import Diagnosis.Explain.Reply
import Diagnosis.Explain.Table
import Diagnosis.Grammar.CharClass
import Diagnosis.Grammar.Language
import Diagnosis.Grammar.Lexicon
import Diagnosis.Grammar.Production
import Diagnosis.Grammar.Rule
import Diagnosis.Grammar.Symbol
import Diagnosis.Health.Checks
import Diagnosis.Health.Report
import Diagnosis.Http.App
import Diagnosis.Http.Form
import Diagnosis.Http.Form.Parts
import Diagnosis.Http.Form.Read
import Diagnosis.Http.Header
import Diagnosis.Http.Percent
import Diagnosis.Http.Request
import Diagnosis.Http.Response
import Diagnosis.JavaScript.Grammar
import Diagnosis.JavaScript.Parse
import Diagnosis.JavaScript.Scan
import Diagnosis.JavaScript.Token
import Diagnosis.Json.Display
import Diagnosis.Json.Read
import Diagnosis.Json.Value
import Diagnosis.Json.Write
import Diagnosis.Lint.Analysis
import Diagnosis.Lint.Binding
import Diagnosis.Lint.Config
import Diagnosis.Lint.Globals
import Diagnosis.Lint.Linter
import Diagnosis.Lint.Message
import Diagnosis.Lint.Rule.Indent
import Diagnosis.Lint.Rule.Names
import Diagnosis.Lint.Rule.Quotes
import Diagnosis.Lint.Rule.Semi
import Diagnosis.Lint.Rule.Whitespace
import Diagnosis.Lint.Scope
import Diagnosis.Lint.Subject
import Diagnosis.Lint.SyntaxError
import Diagnosis.Lint.Table
import Diagnosis.Logging.Context
import Diagnosis.Logging.Settings
import Diagnosis.Main
import Diagnosis.Parsing.Input
import Diagnosis.Parsing.Machine
import Diagnosis.Parsing.Output
import Diagnosis.Parsing.Parser
import Diagnosis.Parsing.Recover
import Diagnosis.Parsing.Reduce
import Diagnosis.Parsing.Stack
import Diagnosis.Parsing.Subtree
import Diagnosis.Parsing.Table
import Diagnosis.Parsing.Token
import Diagnosis.Pattern.Read
import Diagnosis.Pattern.Regex
import Diagnosis.Pattern.Template
import Diagnosis.Provider.Anthropic
import Diagnosis.Provider.Failure
import Diagnosis.Provider.Gemini
import Diagnosis.Pylint.Record
import Diagnosis.Report.Diagnostic
import Diagnosis.Report.Result
import Diagnosis.Secret.Hygiene
import Diagnosis.Secret.Pattern
import Diagnosis.Secret.Redactor
import Diagnosis.Service
import Diagnosis.Severity
import Diagnosis.Submission
import Diagnosis.Syntax.Site
import Diagnosis.Syntax.Source
import Diagnosis.Syntax.Tree
import Diagnosis.Text.Blank
import Diagnosis.Text.Case
import Diagnosis.Text.CharSet
import Diagnosis.Text.Encoding
import Diagnosis.Text.Lines
import Diagnosis.Text.Loose
import Diagnosis.Text.Numeral
import Diagnosis.Text.Path
import Diagnosis.Text.Printable
import Diagnosis.Text.Quoted
import Diagnosis.Text.Search
import Diagnosis.Text.Slice
import Diagnosis.Text.Utf8
import Diagnosis.Text.Word
import Diagnosis.Tool.Run
import Diagnosis.Tool.Scratch
import Diagnosis.Version
import Diagnosis.Yaml.Convert
import Diagnosis.Yaml.Flow
import Diagnosis.Yaml.Read
import Diagnosis.Yaml.Scalar
import Diagnosis.Yaml.Value
import Diagnosis.Proofs.Lint.Edit
import Diagnosis.Proofs.Text.Lines
import Diagnosis.Proofs.Lint.RuleFix
import Diagnosis.Proofs.Lint.Mending
import Diagnosis.Proofs.Lint.Layout
import Diagnosis.Proofs.Lint.Pattern
import Diagnosis.Proofs.Lint.Scope
import Diagnosis.Proofs.Lint.Lexical
import Diagnosis.Proofs.Pattern.Regex
import Diagnosis.Proofs.Pattern.Start
import Diagnosis.Proofs.Pattern.Replace
import Diagnosis.Proofs.Secret.Redaction
import Diagnosis.Proofs.Explain.Consult
import Diagnosis.Proofs.Explain.Reply
import Diagnosis.Proofs.Explain.Table
import Diagnosis.Proofs.Analysis.Tool
import Diagnosis.Proofs.Lint.Renaming
import Diagnosis.Proofs.Syntax.Overwrite
import Diagnosis.Proofs.Lint.NameReport
import Diagnosis.Proofs.Lint.RenamedReport
import Diagnosis.Proofs.Text.Cut
import Diagnosis.Proofs.Syntax.Place
import Diagnosis.Proofs.Lint.Location
import Diagnosis.Proofs.Lint.Lookup
import Diagnosis.Proofs.Lint.RealEdit
import Diagnosis.Proofs.Text.Search
import Diagnosis.Proofs.Lists
import Diagnosis.Proofs.Compiler.Line
import Diagnosis.Proofs.Secret.Hygiene
import Diagnosis.Proofs.Compiler.Output
import Diagnosis.Proofs.Secret.Detection
import Diagnosis.Proofs.Secret.Twice
import Diagnosis.Proofs.Analysis.Explanation
import Diagnosis.Proofs.Analysis.Routing
import Diagnosis.Proofs.Analysis.Linting
import Diagnosis.Proofs.Health.Provider
import Diagnosis.Proofs.Provider.Gemini
import Diagnosis.Proofs.Json.Bytes
import Diagnosis.Proofs.Http.Paste
import Diagnosis.Proofs.Lint.Splice
import Diagnosis.Proofs.Syntax.Move
import Diagnosis.Proofs.Syntax.Row
import Diagnosis.Proofs.Lint.Realign
import Diagnosis.Proofs.Lint.Reindent
import Diagnosis.Proofs.JavaScript.Literal
import Diagnosis.Proofs.Lint.Requote
import Diagnosis.Proofs.Lint.Dynamic
import Diagnosis.Proofs.Lint.Setting
import Diagnosis.Proofs.Analysis.RuleSet
import Diagnosis.Proofs.Lint.Backquote
import Diagnosis.Proofs.Lint.Reexport
import Diagnosis.Proofs.Lint.Unused
import Diagnosis.Proofs.Lint.TemplateText
import Diagnosis.Proofs.Lint.Destructuring
import Diagnosis.Proofs.Lint.FunctionScope
import Diagnosis.Proofs.Text.Blank
import Diagnosis.Proofs.Lint.Insertion
import Diagnosis.Proofs.Lint.Fault
import Diagnosis.Proofs.Lint.Trailing
import Diagnosis.Proofs.Compiler.Written
import Diagnosis.Proofs.Tool.Missing
import Diagnosis.Proofs.Config.Expansion
import Diagnosis.Proofs.Secret.Placeholder
import Diagnosis.Proofs.Lint.DocumentOrder
import Diagnosis.Proofs.Lint.BindingPattern
