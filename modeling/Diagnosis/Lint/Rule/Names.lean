import Diagnosis.Lint.Subject

/-!
# Names

Three rules on names: `no-unused-vars` reports bindings that nobody reads, `no-undef` uses of names
that nobody declares, and `no-console` uses of the global console.

A parameter that nobody reads is let pass when a later parameter of its function is read, since the
later one could not have its place otherwise.
-/

namespace Diagnosis.Lint

open Diagnosis.Syntax

namespace Names

/-- The finding for a binding that is not read. It points to the last place that gave it a value,
else to its declaration. -/
def unused (subject : Subject) (e : Entry) : Option Finding :=
  let said := if e.assigned then "is assigned a value" else "is defined"
  (e.lastWrite? <|> e.idents.head?).map fun target =>
    subject.findingAt s!"'{e.binding.name}' {said} but never used." target.node

/-- The parameters after the last one that is read. -/
def trailingUnread (names : Analysis) (parameters : List Binding) : List Binding :=
  (parameters.reverse.takeWhile (!names.isRead ·)).reverse

/-- The unread parameters to report, function by function, each once. -/
def unusedParameters (names : Analysis) : List Entry :=
  ((names.parameters.flatMap (trailingUnread names)).eraseDups).filterMap names.table.find?

/-- The other bindings to report. -/
def unusedVariables (names : Analysis) : List Entry :=
  let parameters := names.parameters.flatten
  names.entries.filter fun e =>
    !e.read && !e.exported && !e.isSelf && !parameters.contains e.binding

/-- The findings of `no-unused-vars`. -/
def checkUnused (subject : Subject) : List Finding :=
  (unusedParameters subject.names ++ unusedVariables subject.names).filterMap (unused subject)

/-- The findings of `no-undef`. -/
def checkUndefined (subject : Subject) : List Finding :=
  subject.names.undefined.map fun s =>
    let name := subject.source.text s.node
    subject.findingAt s!"'{name}' is not defined." s.node

/-- Whether a site takes a member of the global console. -/
def usesConsole (subject : Subject) (s : Site) : Bool :=
  s.kind == "member_expression" &&
    match s.childAt? "object" with
    | none => false
    | some object =>
      object.kind == "identifier" && subject.source.text object.node == "console"
        && !subject.names.isDeclaredAt object "console"

/-- The findings of `no-console`. -/
def checkConsole (subject : Subject) : List Finding :=
  (subject.sites.filter (usesConsole subject)).map fun s =>
    subject.findingAt "Unexpected console statement." s.node

end Names

end Diagnosis.Lint
