import Diagnosis.Secret.Redactor
import Diagnosis.Version

/-!
# Log events

An event carries its own fields, the fields of the context in which it happens, and the name and the
version of the service. The fields of the event come before those of the context, the service before
both. No secret is logged.

The context of a request starts empty and is empty again afterwards, whatever was bound before.
-/

namespace Diagnosis.Logging

open Diagnosis.Secret

/-- Fields that belong to everything that happens. -/
abbrev Context := List (String × Json)

namespace Context

/-- Adds fields; a field that is already there gets the new value. -/
def bind (c : Context) (fields : List (String × Json)) : Context :=
  fields.foldl (fun acc (k, v) => Json.put k v acc) c

/-- Takes fields away. -/
def unbind (c : Context) (keys : List String) : Context := c.filter fun (k, _) => !keys.contains k

/-- No fields. -/
def empty : Context := []

/-- The context at the start of a request. -/
def enter (fields : List (String × Json)) : Context := empty.bind fields

/-- The context after a request. -/
def leave : Context := empty

end Context

/-- The name of the service. -/
def serviceName : String := "code-debugger"

/-- The fields with which an event is logged. -/
def eventFields (r : Redactor) (c : Context) (fields : List (String × Json)) :
    Except RedactionError (List (String × Json)) :=
  let stamped := (c.bind fields).bind
    [("service", .string serviceName), ("version", .string version)]
  r.redactFields stamped

end Diagnosis.Logging
