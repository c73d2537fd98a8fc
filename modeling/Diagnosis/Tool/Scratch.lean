import Diagnosis.Text.Loose
import Diagnosis.Text.Path

/-!
# Scratch files

Tools get texts in scratch files: files of a scratch directory whose names no other file has, since
they carry a time stamp.
-/

namespace Diagnosis.Tool

open Diagnosis.Text

/-- The path of a scratch file: the name and the stamp, then the ending, seen from the directory. -/
def scratchPath (directory : String) (stamp : Nat) (name ending : String) : String :=
  let file := FilePath.read (name ++ "_" ++ toString stamp ++ ending).toList
  ((FilePath.read directory.toList).below file).write

/-- Where scratch files are made. -/
structure Scratch where
  /-- The directory. -/
  directory : String
  /-- The time stamp. -/
  stamp : Nat
  /-- Whether the directory is there. -/
  present : Bool := true
  deriving Repr

namespace Scratch

/-- The path of a scratch file. -/
def path (s : Scratch) (name ending : String) : String :=
  scratchPath s.directory s.stamp name ending

/-- Why a scratch file cannot be written. -/
inductive Fault where
  /-- There is no such directory. -/
  | noDirectory (path : String)
  /-- The text has no bytes. -/
  | surrogates (fault : SurrogateFault)
  deriving Repr, DecidableEq

/-- The wording of a fault. -/
def Fault.message : Fault → String
  | noDirectory path => "[Errno 2] No such file or directory: " ++ quoted path
  | surrogates fault => fault.message

/-- The text that is written to a scratch file. -/
def write (s : Scratch) (path : String) (text : LooseText) : Except Fault String :=
  if !s.present then .error (.noDirectory path) else text.strict.mapError .surrogates

end Scratch

end Diagnosis.Tool
