import Diagnosis.Explain.Prompt
import Diagnosis.Explain.Reply

/-!
# Consulting the explanation service

A `Consultant` asks the explanation service about the diagnostics of a text. Where there is no
service, or it does not answer, there is no reply; an analysis goes on without one.
-/

namespace Diagnosis.Explain

open Diagnosis.Report Diagnosis.Secret

/-- The explanation service: its answer to a prompt, unless it fails or takes too long. -/
abbrev Service := String → Option String

/-- Who asks the explanation service. -/
structure Consultant where
  /-- The service, if there is one. -/
  service : Option Service := none
  /-- What takes secrets out of prompts. -/
  redactor : Option Redactor := none

/-- What has come of asking. -/
structure Consultation where
  /-- What the service has been asked. -/
  prompts : List String := []
  /-- The reply, unless it is faulty. -/
  outcome : Except Json.Fault Reply := .ok Reply.none

namespace Consultant

/-- Whether there is a service. -/
def isEnabled (c : Consultant) : Bool := c.service.isSome

/-- The reply of the service to a prompt. -/
def replyTo (service : Service) (prompt : String) : Except Json.Fault Reply :=
  match service prompt with
  | some answer => readReply answer
  | none => .ok Reply.none

/-- Asks about the diagnostics of a text. A prompt that cannot be made is not sent. -/
def consult (c : Consultant) (code language : String) (ds : List Diagnostic) : Consultation :=
  match c.service with
  | none => {}
  | some service =>
    match prompt c.redactor code language ds with
    | .ok p => { prompts := [p], outcome := replyTo service p }
    | .error _ => {}

end Consultant

end Diagnosis.Explain
