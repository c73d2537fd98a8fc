import Diagnosis.Lint.Linter
import Diagnosis.Proofs.Lint.Lexical
import Diagnosis.Proofs.Lists

/-!
# What is said of names

`no-unused-vars` and `no-undef` report faults of names: a binding that nobody uses, or a name that
nobody declares. A `NameReport` is such a fault and where it is, which a message no longer tells apart;
`nameReports` lists those of a text.

The messages of the two rules are those of the reports, in the same order (`aboutNames_verifyTree`),
whatever the other rules say: sorting is stable, so it commutes with selecting. Reports point to
identifiers: to uses that refer to nothing (`mem_undefined_iff`), and to what declares or uses the binding of
an entry (`declares_or_isUse_of_target`).
-/

namespace Diagnosis.Lint

open Diagnosis.Text Diagnosis.Syntax

/-! ## Reports -/

/-- What can be wrong with a name. -/
inductive NameFault where
  /-- Nobody uses a binding, which may have a value. -/
  | unused (b : Binding) (assigned : Bool)
  /-- Nobody declares a name that is used. -/
  | undefined (name : String)
  deriving DecidableEq

/-- The rule that finds a fault. -/
def NameFault.check : NameFault → Check
  | undefined _ => .noUndef
  | unused _ _ => .noUnusedVars

/-- What the rule says. -/
def NameFault.said : NameFault → String
  | unused b assigned =>
    let said := if assigned then "is assigned a value" else "is defined"
    s!"'{b.name}' {said} but never used."
  | undefined name => s!"'{name}' is not defined."

/-- A fault of a name, and where it is. -/
structure NameReport where
  /-- The fault. -/
  fault : NameFault
  /-- How grave it is. -/
  severity : Severity
  /-- Where the name begins. -/
  start : Place
  /-- Where it ends. -/
  stop : Place
  deriving DecidableEq

namespace NameReport

/-- The report on a node. -/
def of (src : Source) (severity : Severity) (fault : NameFault) (t : Tree) : NameReport :=
  { fault, severity, start := src.place (src.startPoint t), stop := src.place (src.stopPoint t) }

/-- The report that the binding of an entry is unused. -/
def unused? (src : Source) (severity : Severity) (e : Entry) : Option NameReport :=
  (e.lastWrite? <|> e.idents.head?).map fun target =>
    NameReport.of src severity (.unused e.binding e.assigned) target.node

/-- The report that the name of an identifier is undefined. -/
def undefined (src : Source) (severity : Severity) (s : Site) : NameReport :=
  NameReport.of src severity (.undefined (src.text s.node)) s.node

/-- The message of a report. -/
def message (report : NameReport) : Message :=
  { rule := some report.fault.check.name, severity := report.severity,
    message := report.fault.said, start := report.start, stop := some report.stop }

/-- Whether a report comes before another or at the same place. -/
def le (a b : NameReport) : Bool := a.message.le b.message

end NameReport

/-- The reports of a rule. -/
def Rule.nameReports (rule : Rule) (src : Source) (names : Analysis) : List NameReport :=
  match rule.check with
  | .noUnusedVars => (Names.unusedParameters names ++ Names.unusedVariables names).filterMap
      (NameReport.unused? src rule.severity)
  | .noUndef => names.undefined.map (NameReport.undefined src rule.severity)
  | _ => []

/-- The reports on the names of a text, in the order of the text. -/
def nameReports (rules : List Rule) (src : Source) (tree : Tree) : List NameReport :=
  if tree.hasError then []
  else (rules.flatMap (·.nameReports src (analysisOf src tree))).mergeSort NameReport.le

/-! ## Messages on names -/

/-- Whether a message is about a name. -/
def Message.isAboutName (m : Message) : Bool :=
  m.rule == some (Check.name .noUnusedVars) || m.rule == some (Check.name .noUndef)

/-- What is said of names. -/
def Verdict.aboutNames (v : Verdict) : List Message := v.messages.filter (·.isAboutName)

/-- Messages are ordered by their lines, and on a line by their columns. -/
lemma Message.le_iff {a b : Message} :
    a.le b = true ↔ a.start.line < b.start.line ∨
      a.start.line = b.start.line ∧ a.start.column ≤ b.start.column := by
  unfold le
  simp

/-- The order of messages is transitive. -/
lemma Message.le_trans (a b c : Message) (hab : a.le b) (hbc : b.le c) : a.le c := by
  rw [le_iff] at *
  omega

/-- The order of messages is total. -/
lemma Message.le_total (a b : Message) : a.le b || b.le a := by
  rw [Bool.or_eq_true, le_iff, le_iff]
  omega

section messages

variable {src : Source} {tree : Tree}

/-- A message on a syntax error is about no name. -/
lemma isAboutName_syntaxError (sites : List Site) :
    (SyntaxError.message src sites tree).isAboutName = false := by
  unfold SyntaxError.message
  dsimp only
  split <;> rfl

/-- The messages of a rule that are about names. -/
lemma filter_messages (rule : Rule) (src : Source) (tree : Tree) :
    (rule.messages (.of src tree)).filter (·.isAboutName) =
      (rule.nameReports src (analysisOf src tree)).map NameReport.message := by
  obtain ⟨severity, check⟩ := rule
  have hname : ∀ findings : List Finding, ∀ m ∈ findings.map (Finding.toMessage check.name severity),
      (m.isAboutName = true ↔ check = .noUnusedVars ∨ check = .noUndef) := by
    intro findings m hm
    obtain ⟨finding, -, rfl⟩ := List.mem_map.mp hm
    cases check <;> simp [Finding.toMessage, Message.isAboutName, Check.name]
  unfold Rule.messages
  by_cases hcheck : check = .noUnusedVars ∨ check = .noUndef
  · rw [List.filter_eq_self.mpr fun m hm => (hname _ m hm).mpr hcheck]
    obtain rfl | rfl := hcheck
    · unfold Rule.nameReports Check.findings Names.checkUnused
      dsimp only
      rw [List.map_filterMap, List.map_filterMap]
      congr 1
      funext e
      unfold Names.unused NameReport.unused?
      dsimp only
      rw [Option.map_map, Option.map_map]
      rfl
    · unfold Rule.nameReports Check.findings Names.checkUndefined
      dsimp only
      rw [List.map_map, List.map_map]
      rfl
  · rw [List.filter_eq_nil_iff.mpr fun m hm => (hname _ m hm).not.mpr hcheck]
    cases check <;> first | rfl | exact absurd (by simp) hcheck

/-- **The messages on names are those of the reports.** -/
theorem aboutNames_verifyTree (rules : List Rule) (data : Bytes) (tree : Tree) :
    (verifyTree rules data tree).aboutNames =
      (nameReports rules (.ofBytes data) tree).map NameReport.message := by
  unfold verifyTree nameReports Verdict.aboutNames
  dsimp only
  split
  case isTrue =>
    exact List.filter_cons_of_neg (by rw [isAboutName_syntaxError]; exact Bool.false_ne_true)
  case isFalse =>
    dsimp only
    rw [filter_mergeSort Message.le_trans Message.le_total, List.filter_flatMap,
      List.map_mergeSort (r := NameReport.le) (s := Message.le) fun _ _ _ _ => rfl, List.map_flatMap]
    simp only [filter_messages]

end messages

/-! ## What reports are about -/

namespace Analysis

variable {src : Source} {a : Analysis} {s s' : Site} {refs : List Site}

/-- References change no parameters. -/
lemma parameters_foldl_refer :
    (refs.foldl (refer src) a).parameters = a.parameters := by
  induction refs generalizing a with
  | nil => rfl
  | cons s refs ih =>
    rw [List.foldl_cons, ih, refer]
    split
    · rfl
    · split <;> rfl

/-- **What is undefined**: the references that refer to nothing, in their order, but not those whose names
need no declaration. -/
lemma undefined_foldl_refer :
    (refs.foldl (refer src) a).undefined = a.undefined ++ refs.filter fun s =>
      (a.table.target? s (src.text s.node)).isNone && !mayBeUndeclared src s := by
  have hrefer : ∀ (a : Analysis) (s : Site), (a.refer src s).undefined = a.undefined ++
      if (a.table.target? s (src.text s.node)).isNone && !mayBeUndeclared src s then [s] else [] := by
    intro a s
    rw [refer, Table.target?]
    cases a.table.resolve s (src.text s.node) with
    | some e => exact (List.append_nil _).symm
    | none =>
      dsimp only [Option.map_none, Option.isNone_none]
      by_cases hmay : mayBeUndeclared src s = true
      · rw [if_pos hmay, hmay]
        exact (List.append_nil _).symm
      · rw [if_neg hmay, Bool.eq_false_iff.mpr hmay]
        rfl
  induction refs generalizing a with
  | nil => exact (List.append_nil _).symm
  | cons s refs ih =>
    rw [List.foldl_cons, ih, hrefer, List.append_assoc, List.filter_cons]
    simp only [target?_refer]
    congr 1
    split <;> rfl

/-- An entry that is listed is in the table. -/
lemma mem_of_mem_entries {e : Entry} (he : e ∈ a.entries) : e ∈ a.table := by
  obtain ⟨scope, -, he⟩ := List.mem_flatMap.mp he
  exact List.mem_of_mem_filter he

end Analysis

section analysis

variable {src : Source} {tree : Tree}

/-- A use is undefined if it refers to nothing and its name needs a declaration. -/
lemma mem_undefined_iff {s : Site} :
    s ∈ (analysisOf src tree).undefined ↔ IsUse tree s ∧
      (analysisOf src tree).table.target? s (src.text s.node) = none ∧
        Analysis.mayBeUndeclared src s = false := by
  rw [analysisOf, Analysis.of, Analysis.undefined_foldl_refer, Analysis.target?_foldl_refer,
    Analysis.declared, List.nil_append, List.mem_filter, mem_references_iff, Bool.and_eq_true,
    Option.isNone_iff_eq_none, Bool.not_eq_true']

/-- In terms of the tree: a use is undefined if no enclosing scope declares its name, and it needs one. -/
lemma mem_undefined_iff_undeclared {s : Site} :
    s ∈ (analysisOf src tree).undefined ↔ IsUse tree s ∧
      (∀ scope ∈ s.ancestors, ¬ DeclaresName src tree (src.text s.node) scope) ∧
        Analysis.mayBeUndeclared src s = false := by
  rw [mem_undefined_iff]
  refine and_congr_right fun huse => ?_
  rw [← lookup?_eq_none_iff huse.isSite, Table.target?, Option.map_eq_none_iff]
  rfl

/-- What is undefined is a use that refers to nothing. -/
lemma mem_undefined {s : Site} (hs : s ∈ (analysisOf src tree).undefined) :
    IsUse tree s ∧ (analysisOf src tree).table.target? s (src.text s.node) = none :=
  (mem_undefined_iff.mp hs).imp_right And.left

/-- The parameters that nobody reads, at the end of a list, are some of the list. -/
lemma Names.mem_of_mem_trailingUnread {a : Analysis} {bs : List Binding} {c : Binding}
    (hc : c ∈ Names.trailingUnread a bs) : c ∈ bs :=
  List.mem_reverse.mp ((List.takeWhile_sublist _).subset (List.mem_reverse.mp hc))

/-- What is unused has an entry. -/
lemma Names.mem_table_of_mem_unused {a : Analysis} {e : Entry}
    (he : e ∈ Names.unusedParameters a ++ Names.unusedVariables a) : e ∈ a.table := by
  obtain he | he := List.mem_append.mp he
  · obtain ⟨c, -, hfind⟩ := List.mem_filterMap.mp he
    exact (Table.of_find? hfind).1
  · exact Analysis.mem_of_mem_entries (List.mem_of_mem_filter he)

/-- The report on an unused binding points to an identifier that declares it or to one that uses it. -/
lemma declares_or_isUse_of_target {e : Entry} {target : Site}
    (he : e ∈ (analysisOf src tree).table)
    (htarget : (e.lastWrite? <|> e.idents.head?) = some target) :
    (∃ scope valued, Declares tree scope target valued) ∨ IsUse tree target := by
  have hsums := sumsUp_of_mem he
  rw [hsums.lastWrite, hsums.idents, Option.orElse_eq_orElse, Option.orElse_eq_or,
    Option.or_eq_some_iff] at htarget
  obtain htarget | ⟨-, htarget⟩ := htarget
  · have hmem := List.mem_of_mem_filter (List.mem_of_getLast? htarget)
    exact .inr (mem_references_iff.mp (List.mem_of_mem_filter hmem))
  · obtain ⟨d, hd, rfl⟩ := List.mem_map.mp (List.mem_of_head? htarget)
    exact .inl ⟨d.scope, d.hasValue, (declares_of_mem (List.mem_of_mem_filter hd)).1⟩

end analysis

end Diagnosis.Lint
