import Diagnosis.Text.Search
import Diagnosis.Text.Word

/-!
# Switches

What may stand on the command line. A long name may be shortened as long as it is clear which switch
is meant. Short names may stand in one word behind one hyphen; the last of them may have its value
right behind it.

`Word.read` tells what a word of the command line is, on its own.
-/

namespace Diagnosis.CommandLine

open Diagnosis.Text

/-- What the command line can ask for. -/
inductive Switch where
  /-- To show how the program is used. -/
  | help
  /-- To show its version. -/
  | version
  /-- To read a configuration file. -/
  | config
  /-- To log what helps to find faults. -/
  | debug
  /-- To log in a form until the configuration says which. -/
  | format
  /-- To listen on an address. -/
  | host
  /-- To listen on a port. -/
  | port
  /-- To check the configuration only. -/
  | dryRun
  /-- To check what analyses rely on only. -/
  | healthCheck
  /-- To analyse a file only. -/
  | analyze
  /-- To take that file for one in a language. -/
  | language
  deriving Repr, DecidableEq, Inhabited

namespace Switch

/-- The names of switches. -/
def names : List (String × Switch) :=
  [("-h", help), ("--help", help), ("--version", version), ("-c", config), ("--config", config),
    ("-d", debug), ("--debug", debug), ("--format", format), ("--host", host), ("--port", port),
    ("--dry-run", dryRun), ("--health-check", healthCheck), ("--analyze", analyze),
    ("--language", language)]

/-- Whether a switch has a value. -/
def takesValue : Switch → Bool
  | help | version | debug | dryRun | healthCheck => false
  | config | format | host | port | analyze | language => true

/-- The switch of a name. -/
def ofName? (name : List Char) : Option Switch := names.lookup (String.ofList name)

/-- The switches whose names begin like this. -/
def beginning (start : List Char) : List Switch :=
  (names.filter fun n => start.isPrefixOf n.1.toList).map (·.2)

end Switch

/-- Why a command line cannot be understood. -/
inductive Fault where
  /-- A shortened name may mean several switches. -/
  | ambiguous (word : List Char)
  /-- The value of a switch is missing. -/
  | missingValue (s : Switch)
  /-- A switch that has no value is given one. -/
  | unexpectedValue (s : Switch)
  /-- A value is no whole number. -/
  | badNumber (text : List Char)
  /-- A value is none of those that the switch may have. -/
  | badChoice (text : List Char)
  /-- Switches do not go together. -/
  | conflict (s : Switch)
  /-- There is something of which no use can be made. -/
  | leftover
  deriving Repr, DecidableEq

/-- The wording of a fault. -/
def Fault.message : Fault → String
  | ambiguous word => "ambiguous option: " ++ String.ofList word
  | missingValue _ => "an option lacks its value"
  | unexpectedValue _ => "an option without a value has one"
  | badNumber text => "not a whole number: " ++ String.ofList text
  | badChoice text => "not one of the choices: " ++ String.ofList text
  | conflict _ => "options that do not go together"
  | leftover => "unrecognized arguments"

/-- The switches in one word. -/
structure Cluster where
  /-- Those that need nothing more, with their values. -/
  settled : List (Switch × List Char) := []
  /-- The last one, if its value is the next word. -/
  awaiting : Option Switch := none
  /-- Whether there is something behind them that is no switch. -/
  leftover : Bool := false
  deriving Repr, DecidableEq

namespace Cluster

/-- A switch with nothing behind it. -/
def single (s : Switch) : Cluster :=
  if s.takesValue then { awaiting := some s } else { settled := [(s, [])] }

/-- A switch in front of others. -/
def cons (s : Switch) (c : Cluster) : Cluster := { c with settled := (s, []) :: c.settled }

/-- A switch with a value behind an equals sign. -/
def withValue (s : Switch) (value : List Char) : Except Fault Cluster :=
  if s.takesValue then .ok { settled := [(s, value)] } else .error (.unexpectedValue s)

/-- A switch of one letter and what stands right behind it: its value, or the letters of more
switches. -/
def ofLetters (s : Switch) : List Char → Except Fault Cluster
  | [] => .ok (single s)
  | '=' :: value => withValue s value
  | c :: more =>
    if s.takesValue then .ok { settled := [(s, c :: more)] }
    else if c = '-' then .error (.unexpectedValue s)
    else
      match Switch.ofName? ['-', c] with
      | none => .ok { settled := [(s, [])], leftover := true }
      | some next => cons s <$> ofLetters next more

end Cluster

/-- A word of the command line. -/
inductive Word where
  /-- A text that may be a value. -/
  | plain (text : List Char)
  /-- Switches, unless they are used in a wrong way. -/
  | switches (found : Except Fault Cluster)
  /-- What looks like a switch but is none. -/
  | unknown

namespace Word

/-- Whether a word is a negative number. -/
def isNegativeNumber : List Char → Bool
  | '-' :: rest =>
    match rest.dropWhile isDigit with
    | [] => !rest.isEmpty
    | '.' :: places => !places.isEmpty && places.all isDigit
    | _ => false
  | _ => false

/-- The word of a text that begins with a hyphen but is no name of a switch. -/
def ofUnnamed (text : List Char) : Word :=
  if isNegativeNumber text || text.contains ' ' then plain text else unknown

/-- The word of a text with a shortened long name. -/
def ofShortened (text : List Char) : Except Fault Word :=
  let name := text.takeWhile (· ≠ '=')
  match Switch.beginning name, text.dropWhile (· ≠ '=') with
  | [], _ => .ok (ofUnnamed text)
  | [s], [] => .ok (switches (.ok (.single s)))
  | [s], _ :: value => .ok (switches (Cluster.withValue s value))
  | _, _ => .error (.ambiguous text)

/-- The word of a text. -/
def read (text : List Char) : Except Fault Word :=
  let name := text.takeWhile (· ≠ '=')
  match text with
  | '-' :: c :: rest =>
    match Switch.ofName? text, Switch.ofName? name with
    | some s, _ => .ok (switches (.ok (.single s)))
    | none, some s => .ok (switches (Cluster.withValue s ((text.dropWhile (· ≠ '=')).drop 1)))
    | none, none =>
      if c = '-' then ofShortened text
      else
        match Switch.ofName? ['-', c] with
        | some s => .ok (switches (Cluster.ofLetters s rest))
        | none => .ok (ofUnnamed text)
  | _ => .ok (plain text)

end Word

end Diagnosis.CommandLine
