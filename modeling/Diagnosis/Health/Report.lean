import Diagnosis.Json.Value
import Diagnosis.Text.Quoted

/-!
# Health reports

A health report has one `Check` for each thing that analyses rely on. The service counts as healthy
as long as no check is unhealthy; a degraded check shows in the status, but does not take that away.
-/

namespace Diagnosis.Health

/-- How something fares. -/
inductive Status where
  /-- All is well. -/
  | healthy
  /-- Something is missing that the service can do without. -/
  | degraded
  /-- Something is broken. -/
  | unhealthy
  deriving Repr, DecidableEq, Inhabited

namespace Status

/-- The statuses, from best to worst. -/
def all : List Status := [healthy, degraded, unhealthy]

/-- The word for a status. -/
def word : Status → String
  | healthy => "healthy"
  | degraded => "degraded"
  | unhealthy => "unhealthy"

/-- The status that a word names. -/
def ofWord? (w : String) : Option Status := all.find? (·.word == w)

end Status

/-- A word names no status. -/
structure BadStatus where
  /-- The word. -/
  word : String
  deriving Repr, DecidableEq

/-- The wording of the error. -/
def BadStatus.message (b : BadStatus) : String :=
  Text.quoted b.word ++ " is not a valid HealthStatus"

/-- What has been found about one thing. -/
structure Check where
  /-- The thing. -/
  name : String
  /-- How it fares. -/
  status : Status
  /-- What there is to say. -/
  message : String
  /-- How many milliseconds it took to find out. -/
  latency : Json := .null
  /-- What else has been found. -/
  details : List (String × Json) := []
  deriving Repr

/-- A check on the wire. -/
def Check.toJson (c : Check) : Json :=
  .object
    [("name", .string c.name), ("status", .string c.status.word), ("message", .string c.message),
      ("latency_ms", c.latency), ("details", .object c.details)]

/-- What has been found about everything. -/
structure Report where
  /-- The checks. -/
  checks : List Check
  deriving Repr

namespace Report

/-- How many checks have a status. -/
def count (r : Report) (s : Status) : Nat := (r.checks.filter (·.status == s)).length

/-- How the service fares: as the worst of its checks. -/
def status (r : Report) : Status :=
  if 0 < r.count .unhealthy then .unhealthy
  else if 0 < r.count .degraded then .degraded
  else .healthy

/-- Whether the service counts as healthy. -/
def isHealthy (r : Report) : Bool := r.status != .unhealthy

/-- How many checks there are, and how many of each status. -/
def details (r : Report) : List (String × Json) :=
  ("total_checks", Json.int r.checks.length)
    :: Status.all.map fun s => (s.word ++ "_checks", Json.int (r.count s))

/-- A report on the wire, with the time at which it was made. -/
def toJson (r : Report) (timestamp : String) : Json :=
  .object
    [("healthy", .bool r.isHealthy), ("status", .string r.status.word),
      ("timestamp", .string timestamp), ("checks", .array (r.checks.map (·.toJson))),
      ("details", .object r.details)]

end Report

end Diagnosis.Health
