import Diagnosis.Proofs.Lint.RuleFix
import Diagnosis.Proofs.Steps

/-!
# Lookups that can fail

The rules read a row of a text, the offset at which a row begins, and the first character of a literal.
In `Diagnosis.Lint` such a lookup has a default where there is nothing to read. Here it fails instead, and
with it the whole run: `Strict.verifyTree` gives a result only if every lookup on its way does.

`Strict.verifyTree_eq`: it always gives one, which is that of `verifyTree`. No tree leads a rule to a row
that is not there, since the rows of nodes are rows of the text (`Source.point_row_lt`); the other rows
are counted off, guarded, or the last one.
-/

namespace Diagnosis.Lint.Strict

open Diagnosis.Text Diagnosis.Syntax

/-! ## Rows -/

/-- The line of a row; fails when there is no such row. -/
def line (src : Source) (row : Nat) : Option Bytes := src.lines[row]?

/-- The offsets at which lines begin, the first of them at the given offset. -/
def rowStarts (offset : Nat) : List Bytes → List Nat
  | [] => []
  | line :: lines => offset :: rowStarts (offset + (line.length + 1)) lines

/-- The offset at which a row begins; fails when there is no such row. -/
def rowStart (src : Source) (row : Nat) : Option Nat := (rowStarts 0 src.lines)[row]?

/-- The spaces and tabs at the start of a row. -/
def indentation (src : Source) (row : Nat) : Option Bytes := do
  let line ← line src row
  return line.takeWhile Source.isIndentByte

/-- Whether only blanks stand before a point on its line. -/
def startsLine (src : Source) (p : Point) : Option Bool := do
  let line ← line src p.row
  return (line.take p.column).all isBlankByte

section rows

variable {src : Source} {row : Nat}

/-- A row of the text is found. -/
lemma line_eq (h : row < src.lines.length) : line src row = some (src.line row) := by
  unfold line Source.line
  rw [List.getD_eq_getElem?_getD, List.getElem?_eq_getElem h]
  rfl

/-- The offset of a row is what the lines before it take. -/
lemma getElem?_rowStarts {lines : List Bytes} (h : row < lines.length) (offset : Nat) :
    (rowStarts offset lines)[row]? =
      some (offset + ((lines.take row).map (·.length + 1)).foldr (· + ·) 0) := by
  induction lines generalizing row offset with
  | nil => exact absurd h (Nat.not_lt_zero row)
  | cons line lines ih =>
    cases row with
    | zero => simp [rowStarts]
    | succ row =>
      rw [rowStarts, List.getElem?_cons_succ, ih (Nat.lt_of_succ_lt_succ h)]
      simp only [List.take_succ_cons, List.map_cons, List.foldr_cons, Nat.add_assoc]

/-- The start of a row of the text is found. -/
lemma rowStart_eq (h : row < src.lines.length) : rowStart src row = some (src.rowStart row) := by
  unfold rowStart Source.rowStart
  rw [getElem?_rowStarts h, Nat.zero_add]

/-- The indentation of a row of the text is found. -/
lemma indentation_eq (h : row < src.lines.length) :
    indentation src row = some (src.indentation row) := by
  unfold indentation
  rw [line_eq h]
  rfl

/-- Whether something is the first on a row of the text is found. -/
lemma startsLine_eq {p : Point} (h : p.row < src.lines.length) :
    startsLine src p = some (src.startsLine p) := by
  unfold startsLine
  rw [line_eq h]
  rfl

end rows

/-! ## Indentation -/

/-- The indentation to count from at a row. -/
def level (src : Source) (expected : Indent.Expected) (row : Nat) : Option Nat :=
  match expected.lookup row with
  | some n => some n
  | none => do
    let indentation ← indentation src row
    return indentation.length

/-- The expected indentation of a site, counted from the row of its parent only where it is needed. -/
def expectedAt (src : Source) (o : IndentOptions) (expected : Indent.Expected) (s : Site) :
    Option (Option Nat) :=
  match s.parent? with
  | none => some none
  | some parent =>
    let outer := level src expected (src.startPoint parent.node).row
    if parent.kind == "program" then some (some 0)
    else if Indent.clauseKinds.contains s.kind then outer.map some
    else if Indent.blockKinds.contains parent.kind then
      if s.kind == "\x7d" then outer.map some
      else outer.map fun n =>
        some (n + (if parent.kind == "switch_body" then o.switchCase else 1) * o.width)
    else if parent.kind == "switch_case" || parent.kind == "switch_default" then
      outer.map fun n => some (n + o.width)
    else if Indent.isBracelessBody s parent then outer.map fun n => some (n + o.width)
    else some none

/-- The finding for a row whose indentation is not the expected one. -/
def indentFinding (src : Source) (o : IndentOptions) (row expected : Nat) :
    Option (Option Finding) := do
  let actual ← indentation src row
  let wanted : Bytes := List.replicate expected o.unit.byte
  if actual = wanted then return none
  let start ← rowStart src row
  some (some
    { message := Indent.describe expected o.unit actual
      start := src.place ⟨row, 0⟩
      stop := some (src.place ⟨row, actual.length⟩)
      fix := some ⟨start, (start + actual.length : Nat), wanted⟩ })

/-- The findings at the given sites, after what the sites before them settled. -/
def indentFrom (src : Source) (o : IndentOptions) (expected : Indent.Expected) :
    List Site → Option (List Finding)
  | [] => some []
  | s :: ss =>
    let start := src.startPoint s.node
    if !Indent.concerns s || (expected.lookup start.row).isSome then indentFrom src o expected ss
    else do
      if !(← startsLine src start) then indentFrom src o expected ss
      else match ← expectedAt src o expected s with
        | none => indentFrom src o expected ss
        | some n => do
          let found ← indentFinding src o start.row n
          let later ← indentFrom src o ((start.row, n) :: expected) ss
          return found.toList ++ later

section indent

variable {data : Bytes} {o : IndentOptions} {expected : Indent.Expected}

/-- The indentation to count from is found. -/
lemma level_eq {src : Source} {row : Nat} (h : row < src.lines.length) :
    level src expected row = some (Indent.level src expected row) := by
  unfold level Indent.level
  cases expected.lookup row with
  | some n => rfl
  | none =>
    rw [indentation_eq h]
    rfl

/-- The expected indentation of a node is found. -/
lemma expectedAt_eq (data : Bytes) (o : IndentOptions) (expected : Indent.Expected) (s : Site) :
    expectedAt (.ofBytes data) o expected s =
      some (Indent.expectedAt (.ofBytes data) o expected s) := by
  unfold expectedAt Indent.expectedAt
  cases s.parent? with
  | none => rfl
  | some parent =>
    have hrow : ((Source.ofBytes data).startPoint parent.node).row < (Source.ofBytes data).lines.length :=
      Source.point_row_lt data parent.node.start
    dsimp only
    rw [level_eq hrow]
    simp only [Option.map_some, ← apply_ite some]

/-- What is said of the indentation of a row is found. -/
lemma indentFinding_eq {src : Source} {row : Nat} (h : row < src.lines.length) (n : Nat) :
    indentFinding src o row n = some (Indent.finding? src o row n) := by
  unfold indentFinding Indent.finding?
  rw [indentation_eq h, rowStart_eq h]
  dsimp only [Option.bind_eq_bind, Option.bind_some]
  split <;> rfl

/-- The check of indentation never looks for a row that is not there. -/
lemma indentFrom_eq (data : Bytes) (o : IndentOptions) (expected : Indent.Expected) (sites : List Site) :
    indentFrom (.ofBytes data) o expected sites =
      some (Indent.checkFrom (.ofBytes data) o expected sites) := by
  induction sites generalizing expected with
  | nil => rfl
  | cons s sites ih =>
    have hrow : ((Source.ofBytes data).startPoint s.node).row < (Source.ofBytes data).lines.length :=
      Source.point_row_lt data s.node.start
    rw [indentFrom, Indent.checkFrom, startsLine_eq hrow, expectedAt_eq]
    dsimp only [Option.bind_eq_bind, Option.bind_some]
    by_cases hskip : (!Indent.concerns s ||
        (expected.lookup ((Source.ofBytes data).startPoint s.node).row).isSome) = true
    · rw [if_pos hskip, if_pos (by rw [hskip, Bool.true_or]), ih]
    · rw [if_neg hskip]
      rw [Bool.not_eq_true] at hskip
      rw [hskip, Bool.false_or]
      split
      · exact ih expected
      · cases Indent.expectedAt (.ofBytes data) o expected s with
        | none => exact ih expected
        | some n =>
          dsimp only
          rw [indentFinding_eq hrow, ih]
          rfl

end indent

/-! ## White space at the ends -/

/-- The finding for a row that ends in spaces or tabs. -/
def trailing (src : Source) (row : Nat) : Option (Option Finding) := do
  let line := Whitespace.lineBody (← line src row)
  let kept := (dropEndWhile Source.isIndentByte line).length
  if kept = line.length then return none
  let start ← rowStart src row
  some (some
    { message := "Trailing spaces not allowed."
      start := src.place ⟨row, kept⟩
      stop := some (src.place ⟨row, line.length⟩)
      fix := some ⟨(start + kept : Nat), (start + line.length : Nat), []⟩ })

/-- Of optional findings, those that are there are kept. -/
lemma reduceOption_eq (found : List (Option Finding)) : found.reduceOption = found.filterMap id := rfl

/-- The findings of `no-trailing-spaces`. -/
def checkTrailing (subject : Subject) : Option (List Finding) := do
  let rows := (List.range subject.source.lines.length).filter (!Whitespace.isProtected subject ·)
  let found ← rows.mapM (trailing subject.source)
  return found.reduceOption

/-- The finding for a text that does not end with a line feed. -/
def missingLast (src : Source) : Option Finding := do
  let row := src.lines.length - 1
  let line ← line src row
  some
    { message := "Newline required at end of file but not found."
      start := src.place ⟨row, line.length⟩
      fix := some ⟨src.data.length, src.data.length, [lineFeed]⟩ }

/-- The finding for a text that ends with a line feed where none is wanted. -/
def extraLast (src : Source) : Option Finding := do
  let kept := dropEndWhile Whitespace.isLineEnd src.data
  let row := kept.count lineFeed
  let line ← line src row
  some
    { message := "Newline not allowed at end of file."
      start := src.place ⟨row, line.length⟩
      fix := some ⟨kept.length, src.data.length, []⟩ }

/-- The findings of `eol-last`. -/
def checkLast (style : Presence) (subject : Subject) : Option (List Finding) :=
  let src := subject.source
  let ends := src.data.getLast? = some lineFeed
  match src.data, style with
  | [], _ => some []
  | _, .always => if ends then some [] else (missingLast src).map ([·])
  | _, .never => if ends then (extraLast src).map ([·]) else some []

section whitespace

/-- What is said of the end of a row is found. -/
lemma trailing_eq {src : Source} {row : Nat} (h : row < src.lines.length) :
    trailing src row = some (Whitespace.trailing? src row) := by
  unfold trailing Whitespace.trailing?
  rw [line_eq h, rowStart_eq h]
  dsimp only [Option.bind_eq_bind, Option.bind_some]
  split <;> rfl

/-- The check of the ends of rows never looks for a row that is not there. -/
lemma checkTrailing_eq (subject : Subject) :
    checkTrailing subject = some (Whitespace.checkTrailing subject) := by
  have hrows : ∀ row ∈ (List.range subject.source.lines.length).filter
      (!Whitespace.isProtected subject ·),
      trailing subject.source row = some (Whitespace.trailing? subject.source row) := by
    intro row hrow
    exact trailing_eq (List.mem_range.mp (List.mem_of_mem_filter hrow))
  unfold checkTrailing Whitespace.checkTrailing
  dsimp only [Option.bind_eq_bind]
  rw [mapM_eq_some hrows, Option.bind_some, reduceOption_eq, List.filterMap_map]
  rfl

/-- The place of a missing last line end is found. -/
lemma missingLast_eq (data : Bytes) :
    missingLast (.ofBytes data) = some (Whitespace.missingLast (.ofBytes data)) := by
  unfold missingLast Whitespace.missingLast
  dsimp only
  rw [line_eq (Source.lastRow_lt data)]
  rfl

/-- The place of a last line end that is too much is found. -/
lemma extraLast_eq (data : Bytes) :
    extraLast (.ofBytes data) = some (Whitespace.extraLast (.ofBytes data)) := by
  have hrow : (dropEndWhile Whitespace.isLineEnd (Source.ofBytes data).data).count lineFeed <
      (Source.ofBytes data).lines.length :=
    Source.count_lt_of_prefix (dropEndWhile_isPrefix Whitespace.isLineEnd data)
  unfold extraLast Whitespace.extraLast
  dsimp only
  rw [line_eq hrow]
  rfl

/-- The check of the end of the text never looks for a row that is not there. -/
lemma checkLast_eq (data : Bytes) (tree : Tree) (style : Presence) :
    checkLast style (.of (.ofBytes data) tree) =
      some (Whitespace.checkLast style (.of (.ofBytes data) tree)) := by
  have hmissing := missingLast_eq data
  have hextra := extraLast_eq data
  unfold checkLast Whitespace.checkLast Subject.of
  dsimp only
  rw [hmissing, hextra]
  cases data with
  | nil => rfl
  | cons b data =>
    cases style with
    | always => exact (apply_ite some _ _ _).symm
    | never => exact (apply_ite some _ _ _).symm

end whitespace

/-! ## Quotes -/

/-- The literal between other quotes; fails when it has no first character. -/
def requote (quote : Char) (literal : List Char) : Option (List Char) := do
  let old ← literal[0]?
  return [quote] ++ Quotes.requoteBody old quote literal.tail.dropLast ++ [quote]

/-- Whether a literal may keep the quotes it has. The first character is looked at only if there are at
least two. -/
def isFine (o : QuoteOptions) (literal : List Char) : Option Bool :=
  if literal.length < 2 then some true
  else do
    let first ← literal[0]?
    return first == o.style.char || (o.avoidEscape && literal.tail.dropLast.contains o.style.char)

/-- What is found at a literal. -/
def quotesAt (o : QuoteOptions) (subject : Subject) (s : Site) : Option (Option Finding) := do
  let literal := subject.source.chars s.node
  if ← isFine o literal then return none
  let requoted ← requote o.style.char literal
  return some { subject.findingAt s!"Strings must use {o.style.name}." s.node with
    fix := some ⟨s.node.start, s.node.stop, encode requoted⟩ }

/-- The findings of `quotes`. -/
def checkQuotes (o : QuoteOptions) (subject : Subject) : Option (List Finding) := do
  let found ← (subject.sites.filter (Quotes.concerns subject.source o)).mapM (quotesAt o subject)
  return found.reduceOption

section quotes

variable {o : QuoteOptions}

/-- A literal that is not empty has a first and a last character. -/
lemma requote_eq (quote : Char) {literal : List Char} (h : literal ≠ []) :
    requote quote literal = some (Quotes.requote quote literal) := by
  obtain ⟨old, rest, rfl⟩ := List.exists_cons_of_ne_nil h
  rfl

/-- So a literal is judged without a fault. -/
lemma isFine_eq (o : QuoteOptions) (literal : List Char) :
    isFine o literal = some (Quotes.isFine o literal) := by
  unfold isFine Quotes.isFine
  by_cases hshort : literal.length < 2
  · simp [hshort]
  · rw [if_neg hshort]
    cases literal with
    | nil => exact absurd (by decide) hshort
    | cons first rest =>
      rw [decide_eq_false hshort, Bool.false_or]
      rfl

/-- What is said of the quotes of a literal is found. -/
lemma quotesAt_eq (o : QuoteOptions) (subject : Subject) (s : Site) :
    quotesAt o subject s =
      some (if Quotes.isFine o (subject.source.chars s.node) then none
        else some { subject.findingAt s!"Strings must use {o.style.name}." s.node with
          fix := some ⟨s.node.start, s.node.stop,
            encode (Quotes.requote o.style.char (subject.source.chars s.node))⟩ }) := by
  unfold quotesAt
  dsimp only [Option.bind_eq_bind]
  rw [isFine_eq, Option.bind_some]
  by_cases hfine : Quotes.isFine o (subject.source.chars s.node) = true
  · rw [if_pos hfine, if_pos hfine]
    rfl
  · have hne : subject.source.chars s.node ≠ [] := by
      intro hnil
      rw [hnil] at hfine
      exact hfine rfl
    rw [if_neg hfine, if_neg hfine, requote_eq _ hne]
    rfl

/-- The check of quotes comes to its findings. -/
lemma checkQuotes_eq (o : QuoteOptions) (subject : Subject) :
    checkQuotes o subject = some (Quotes.check o subject) := by
  unfold checkQuotes Quotes.check
  dsimp only [Option.bind_eq_bind]
  rw [mapM_eq_some fun s _ => quotesAt_eq o subject s, Option.bind_some, reduceOption_eq,
    List.filterMap_map]
  rfl

end quotes

/-! ## The message for a text that does not parse -/

/-- The first quote that is left open on one of several rows. The search ends behind the last row of the
text. -/
def openStringOn (src : Source) : List Nat → Option (Option Place)
  | [] => some none
  | row :: rows =>
    if src.lines.length ≤ row then some none
    else do
      let line ← line src row
      match SyntaxError.openQuote? (decode line) with
      | some i => return some ⟨row + 1, i + 1⟩
      | none => openStringOn src rows

/-- The message for a tree with an error. -/
def syntaxMessage (src : Source) (sites : List Site) (root : Tree) : Option Message := do
  let t := SyntaxError.culprit sites root
  let first := (src.startPoint t).row
  let last := max first (src.stopPoint t).row
  match ← openStringOn src (List.range' first (last + 1 - first)) with
  | some start => return SyntaxError.fatal "Unterminated string constant" start
  | none => return SyntaxError.fatal (SyntaxError.describe src t) (src.place (src.startPoint t))

section syntaxError

variable {src : Source}

/-- The search for an open literal stays on the rows of the text. -/
lemma openStringOn_eq (src : Source) (rows : List Nat) :
    openStringOn src rows =
      some ((rows.takeWhile (· < src.lines.length)).findSome? fun row =>
        (SyntaxError.openQuote? (decode (src.line row))).map fun i => ⟨row + 1, i + 1⟩) := by
  induction rows with
  | nil => rfl
  | cons row rows ih =>
    rw [openStringOn]
    by_cases hrow : src.lines.length ≤ row
    · rw [if_pos hrow, List.takeWhile_cons_of_neg (by simpa using hrow)]
      rfl
    · rw [if_neg hrow, line_eq (Nat.lt_of_not_le hrow), List.takeWhile_cons_of_pos (by simpa using hrow),
        List.findSome?_cons, ih]
      dsimp only [Option.bind_eq_bind, Option.bind_some]
      cases SyntaxError.openQuote? (decode (src.line row)) <;> rfl

/-- The message on a syntax error is found. -/
lemma syntaxMessage_eq (src : Source) (sites : List Site) (root : Tree) :
    syntaxMessage src sites root = some (SyntaxError.message src sites root) := by
  have hopen : ∀ first last, openStringOn src (List.range' first (last + 1 - first)) =
      some (SyntaxError.openString? src first last) := fun _ _ => openStringOn_eq src _
  unfold syntaxMessage SyntaxError.message
  dsimp only [Option.bind_eq_bind]
  rw [hopen, Option.bind_some]
  cases SyntaxError.openString? src _ _ <;> rfl

end syntaxError

/-! ## A run of the rules -/

/-- The findings of a rule. The rules on semicolons and names look nothing up. -/
def findings : Check → Subject → Option (List Finding)
  | .quotes o, subject => checkQuotes o subject
  | .indent o, subject => indentFrom subject.source o [] subject.sites
  | .noTrailingSpaces, subject => checkTrailing subject
  | .eolLast style, subject => checkLast style subject
  | check, subject => some (check.findings subject)

/-- The messages of a rule. -/
def messages (subject : Subject) (rule : Rule) : Option (List Message) := do
  let found ← findings rule.check subject
  return found.map (Finding.toMessage rule.check.name rule.severity)

/-- Runs the rules over a text with the given tree. -/
def verifyTree (rules : List Rule) (data : Bytes) (tree : Tree) : Option Verdict :=
  let src := Source.ofBytes data
  if tree.hasError then do
    let message ← syntaxMessage src (Site.walk tree) tree
    return ⟨[message], false⟩
  else do
    let found ← rules.mapM (messages (.of src tree))
    return ⟨found.flatten.mergeSort Message.le, true⟩

/-- Every check comes to its findings. -/
lemma findings_eq (data : Bytes) (tree : Tree) (check : Check) :
    findings check (.of (.ofBytes data) tree) = some (check.findings (.of (.ofBytes data) tree)) := by
  cases check with
  | quotes o => exact checkQuotes_eq o _
  | indent o => exact indentFrom_eq data o [] _
  | noTrailingSpaces => exact checkTrailing_eq _
  | eolLast style => exact checkLast_eq data tree style
  | semi | noUnusedVars | noUndef | noConsole => rfl

/-- Every rule comes to its messages. -/
lemma messages_eq (data : Bytes) (tree : Tree) (rule : Rule) :
    messages (.of (.ofBytes data) tree) rule = some (rule.messages (.of (.ofBytes data) tree)) := by
  unfold messages
  rw [findings_eq]
  rfl

/-- **No lookup fails.** A run whose lookups can fail gives the verdict of the run whose lookups have
defaults, whatever the text and its tree. -/
theorem verifyTree_eq (rules : List Rule) (data : Bytes) (tree : Tree) :
    verifyTree rules data tree = some (Lint.verifyTree rules data tree) := by
  unfold verifyTree Lint.verifyTree
  dsimp only [Option.bind_eq_bind]
  rw [syntaxMessage_eq, mapM_eq_some fun rule _ => messages_eq data tree rule]
  dsimp only [Option.bind_some]
  rw [← List.flatMap_def]
  exact (apply_ite some _ _ _).symm

end Diagnosis.Lint.Strict
