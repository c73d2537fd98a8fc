import Diagnosis.Proofs.Lint.Fault
import Diagnosis.Proofs.Lint.NameReport
import Diagnosis.Proofs.Lint.RuleFix
import Diagnosis.Proofs.Syntax.Place

/-!
# Where messages point to

Every message of a run points into the text (`places_verifyTree`). The rules name places in two ways,
and each kind is followed once:

* `Finding.AtNode`: the finding covers a node, or is about what is missing behind one. The rules on
  semicolons, quotes and names make such findings.
* `Finding.OnRow`: the finding is about a stretch of a row. The rules on white space make those; their
  rows are rows of the text whatever the tree.

The message for a text that does not parse points to the fault, or to an open quote on one of its rows.

Where a place is taken from a node, it is that of the node's offset, provided that the node cuts no
character. An end is given by an offset or a column that does not come before that of the start, unless
a node ends before it begins (`CoversBackward`, `verifyTree_stop_before_start`).
-/

namespace Diagnosis.Lint

open Diagnosis.Text Diagnosis.Syntax

/-! ## Findings at nodes and on rows -/

/-- Whether a finding covers a node, or is about what is missing behind one. -/
inductive Finding.AtNode (src : Source) (tree : Tree) (f : Finding) : Prop where
  /-- It begins and ends where a node does. -/
  | covers (u : Tree) (node : tree.IsNode u) (start : f.start = src.place (src.startPoint u))
      (stop : f.stop = some (src.place (src.stopPoint u)))
  /-- It begins where a node ends, and covers the next byte unless the text ends there. -/
  | behind (u : Tree) (node : tree.IsNode u) (start : f.start = src.place (src.stopPoint u))
      (stop : f.stop = none ∨
        f.stop = some (src.place ⟨(src.stopPoint u).row, (src.stopPoint u).column + 1⟩))
      (fix : f.fix = some ⟨u.stop, u.stop, encodeString ";"⟩)

/-- Whether a finding is about a stretch of a row. -/
structure Finding.OnRow (src : Source) (f : Finding) (row first : Nat) : Prop where
  row_lt : row < src.lines.length
  start : f.start = src.place ⟨row, first⟩
  stop : f.stop = none ∨ ∃ last, first ≤ last ∧ f.stop = some (src.place ⟨row, last⟩)

section rules

variable {data : Bytes} {tree : Tree} {finding : Finding}

/-- Findings on semicolons are at nodes. -/
lemma Semi.atNode_of_mem {style : Presence}
    (h : finding ∈ Semi.check style (.of (.ofBytes data) tree)) :
    finding.AtNode (.ofBytes data) tree := by
  obtain ⟨last, hnode, hfinding⟩ := Semi.exists_of_mem (fun s => Site.mem_walk_iff.mp) h
  rcases hfinding with rfl | ⟨rfl, -⟩
  · refine .behind last hnode rfl ?_ rfl
    unfold Semi.missing
    dsimp only
    split
    · exact .inl rfl
    · exact .inr rfl
  · exact .covers last hnode rfl rfl

/-- Findings on quotes are at nodes. -/
lemma Quotes.atNode_of_mem {o : QuoteOptions}
    (h : finding ∈ Quotes.check o (.of (.ofBytes data) tree)) :
    finding.AtNode (.ofBytes data) tree := by
  obtain ⟨u, hnode, -, rfl⟩ := Quotes.exists_of_mem (fun s => Site.mem_walk_iff.mp) h
  exact .covers u hnode rfl rfl

/-- What is unused points to an identifier of the tree. -/
lemma Names.atNode_of_mem_unused (h : finding ∈ Names.checkUnused (.of (.ofBytes data) tree)) :
    finding.AtNode (.ofBytes data) tree := by
  obtain ⟨e, he, hfound⟩ := List.mem_filterMap.mp h
  obtain ⟨target, htarget, rfl⟩ := Option.map_eq_some_iff.mp hfound
  have hsite : IsSite tree target := by
    have hcases := declares_or_isUse_of_target (Names.mem_table_of_mem_unused he) htarget
    rcases hcases with ⟨scope, valued, hdeclares⟩ | huse
    · exact hdeclares.isSite.2
    · exact huse.isSite
  exact .covers target.node hsite.isNode rfl rfl

/-- Findings on undeclared names are at nodes. -/
lemma Names.atNode_of_mem_undefined
    (h : finding ∈ Names.checkUndefined (.of (.ofBytes data) tree)) :
    finding.AtNode (.ofBytes data) tree := by
  obtain ⟨s, hs, rfl⟩ := List.mem_map.mp h
  have huse := (mem_undefined hs).1
  exact .covers s.node huse.isSite.isNode rfl rfl

/-- Findings on the console are at nodes. -/
lemma Names.atNode_of_mem_console (h : finding ∈ Names.checkConsole (.of (.ofBytes data) tree)) :
    finding.AtNode (.ofBytes data) tree := by
  obtain ⟨s, hs, rfl⟩ := List.mem_map.mp h
  have hsite : IsSite tree s := Site.mem_walk_iff.mp (List.mem_of_mem_filter hs)
  exact .covers s.node hsite.isNode rfl rfl

/-- Findings on indentation are about rows. -/
lemma Indent.onRow_of_mem {o : IndentOptions}
    (h : finding ∈ Indent.check o (.of (.ofBytes data) tree)) :
    ∃ row first, finding.OnRow (.ofBytes data) row first := by
  obtain ⟨s, -, n, hfound⟩ := Indent.exists_of_mem_checkFrom h
  simp only [Indent.finding?, Option.ite_none_left_eq_some, Option.some.injEq] at hfound
  obtain ⟨-, rfl⟩ := hfound
  exact ⟨_, 0, Source.point_row_lt data _, rfl, .inr ⟨_, Nat.zero_le _, rfl⟩⟩

/-- Findings on blanks at the end of a row are about rows. -/
lemma Whitespace.onRow_of_mem_trailing
    (h : finding ∈ Whitespace.checkTrailing (.of (.ofBytes data) tree)) :
    ∃ row first, finding.OnRow (.ofBytes data) row first := by
  obtain ⟨row, hrow, hfound⟩ := List.mem_filterMap.mp h
  have hlt := List.mem_range.mp (List.mem_of_mem_filter hrow)
  simp only [Whitespace.trailing?, Option.ite_none_left_eq_some, Option.some.injEq] at hfound
  obtain ⟨-, rfl⟩ := hfound
  exact ⟨row, _, hlt, rfl, .inr ⟨_, (dropEndWhile_isPrefix _ _).length_le, rfl⟩⟩

/-- The last row is a row of the text, and so is the one on which the text ends without its last line
ends. -/
lemma Whitespace.onRow_of_mem_last {style : Presence}
    (h : finding ∈ Whitespace.checkLast style (.of (.ofBytes data) tree)) :
    ∃ row first, finding.OnRow (.ofBytes data) row first := by
  rcases Whitespace.eq_of_mem_checkLast h with rfl | ⟨rfl, -⟩
  · exact ⟨_, _, Source.lastRow_lt data, rfl, .inl rfl⟩
  · have hrow := Source.count_lt_of_prefix (dropEndWhile_isPrefix Whitespace.isLineEnd data)
    exact ⟨_, _, hrow, rfl, .inl rfl⟩

/-- Whether a rule looks at rows rather than at nodes. -/
def Check.looksAtRows : Check → Bool
  | .indent _ | .noTrailingSpaces | .eolLast _ => true
  | _ => false

/-- **All rules.** A rule that looks at rows finds something on a row of the text, any other finds
something at a node. -/
theorem Check.pointsTo_of_mem {check : Check}
    (h : finding ∈ check.findings (.of (.ofBytes data) tree)) :
    (check.looksAtRows = true ∧ ∃ row first, finding.OnRow (.ofBytes data) row first) ∨
      (check.looksAtRows = false ∧ finding.AtNode (.ofBytes data) tree) := by
  cases check with
  | semi style => exact .inr ⟨rfl, Semi.atNode_of_mem h⟩
  | quotes o => exact .inr ⟨rfl, Quotes.atNode_of_mem h⟩
  | indent o => exact .inl ⟨rfl, Indent.onRow_of_mem h⟩
  | noUnusedVars => exact .inr ⟨rfl, Names.atNode_of_mem_unused h⟩
  | noUndef => exact .inr ⟨rfl, Names.atNode_of_mem_undefined h⟩
  | noConsole => exact .inr ⟨rfl, Names.atNode_of_mem_console h⟩
  | noTrailingSpaces => exact .inl ⟨rfl, Whitespace.onRow_of_mem_trailing h⟩
  | eolLast style => exact .inl ⟨rfl, Whitespace.onRow_of_mem_last h⟩

end rules

/-! ## Stretches of the text -/

/-- Whether a stretch covers a node that ends before it begins. -/
def CoversBackward (s : List Char) (tree : Tree) (start stop : Place) : Prop :=
  ∃ u, tree.IsNode u ∧ u.stop < u.start ∧
    start = (Source.ofBytes (encode s)).place ((Source.ofBytes (encode s)).startPoint u) ∧
    stop = (Source.ofBytes (encode s)).place ((Source.ofBytes (encode s)).stopPoint u)

/-- Whether a stretch lies in a text, and ends no earlier than it begins unless a node of a tree does. -/
structure LiesIn (s : List Char) (tree : Tree) (start : Place) (stop : Option Place) : Prop where
  start_isIn : start.IsIn s
  stop_isIn : ∀ p, stop = some p → p.IsIn s
  start_le : ∀ p, stop = some p → start ≤ p ∨ CoversBackward s tree start p

section stretch

variable {s : List Char} {tree : Tree} {finding : Finding}

/-- A place alone is a stretch. -/
lemma liesIn_of_isIn {start : Place} (h : start.IsIn s) : LiesIn s tree start none :=
  ⟨h, nofun, nofun⟩

/-- A finding at a node lies in the text. -/
lemma Finding.AtNode.liesIn (h : finding.AtNode (.ofBytes (encode s)) tree) :
    LiesIn s tree finding.start finding.stop := by
  have hplace : ∀ i, ((Source.ofBytes (encode s)).place ((Source.ofBytes (encode s)).point i)).IsIn s :=
    isIn_place_point s
  cases h with
  | covers u node start stop =>
    rw [start, stop]
    refine ⟨hplace u.start, fun p hp => ?_, fun p hp => ?_⟩
    · obtain rfl := Option.some.inj hp
      exact hplace u.stop
    · obtain rfl := Option.some.inj hp
      by_cases hle : u.start ≤ u.stop
      · exact .inl (place_point_le s hle)
      · exact .inr ⟨u, node, Nat.lt_of_not_le hle, rfl, rfl⟩
  | behind u node start stop _ =>
    rw [start]
    rcases stop with hstop | hstop
    · rw [hstop]
      exact liesIn_of_isIn (hplace u.stop)
    · rw [hstop]
      refine ⟨hplace u.stop, fun p hp => ?_, fun p hp => .inl ?_⟩
      · obtain rfl := Option.some.inj hp
        exact isIn_place (Source.point_row_lt _ u.stop)
      · obtain rfl := Option.some.inj hp
        exact place_le_place s _ (Nat.le_add_right _ 1)

/-- A finding about a row lies in the text. -/
lemma Finding.OnRow.liesIn {row first : Nat} (h : finding.OnRow (.ofBytes (encode s)) row first) :
    LiesIn s tree finding.start finding.stop := by
  have hstart : finding.start.IsIn s := by
    rw [h.start]
    exact isIn_place h.row_lt
  rcases h.stop with hstop | ⟨last, hle, hstop⟩
  · rw [hstop]
    exact liesIn_of_isIn hstart
  · rw [hstop]
    refine ⟨hstart, fun p hp => ?_, fun p hp => .inl ?_⟩
    · obtain rfl := Option.some.inj hp
      exact isIn_place h.row_lt
    · obtain rfl := Option.some.inj hp
      rw [h.start]
      exact place_le_place s row hle

/-- A character of a row has a place in the text. -/
lemma isIn_of_lt {row i : Nat} (hrow : row < (Source.ofBytes (encode s)).lines.length)
    (hi : i < (decode ((Source.ofBytes (encode s)).line row)).length) :
    (⟨row + 1, i + 1⟩ : Place).IsIn s := by
  rw [length_lines] at hrow
  rw [line_encode, decode_encode] at hi
  refine ⟨Nat.le_add_left _ _, hrow, Nat.le_add_left _ _, ?_⟩
  exact Nat.succ_le_succ (Nat.le_of_lt hi)

end stretch

/-! ## All messages -/

/-- Whether a message is about a row: its rule looks at rows, or it is about an open quote. -/
def Message.isAboutRow (m : Message) : Bool :=
  match m.rule with
  | some name => ["indent", "no-trailing-spaces", "eol-last"].contains name
  | none => m.message == "Parsing error: Unterminated string constant"

/-- Whether a message takes its place from a node of a tree. -/
inductive Message.AtNode (s : List Char) (tree : Tree) (m : Message) : Prop where
  /-- It begins and ends where a node does. -/
  | covers (u : Tree) (p : Place) (node : tree.IsNode u) (start : m.start.IsAt s u.start)
      (stop : m.stop = some p) (stop_isAt : p.IsAt s u.stop)
  /-- It begins where a node ends, and puts a semicolon there. -/
  | behind (u : Tree) (node : tree.IsNode u) (start : m.start.IsAt s u.stop)
      (fix : m.fix = some ⟨u.stop, u.stop, encodeString ";"⟩)
  /-- It is about the syntax, and begins where the fault does. -/
  | fault (fatal : m.fatal = true) (stop : m.stop = none)
      (start : m.start.IsAt s (SyntaxError.culprit (Site.walk tree) tree).start)

section messages

variable {s : List Char} {tree : Tree} {m : Message}

/-- The messages for a text that parses are those of the rules. -/
lemma mem_messages_of_parsed {rules : List Rule} {data : Bytes} (htree : tree.hasError = false) :
    m ∈ (verifyTree rules data tree).messages ↔
      ∃ rule ∈ rules, m ∈ rule.messages (.of (.ofBytes data) tree) := by
  unfold verifyTree
  dsimp only
  rw [if_neg (by rw [htree]; decide), List.mem_mergeSort, List.mem_flatMap]

/-- The message of a finding at a node is at that node. -/
lemma Finding.AtNode.toMessage (htree : tree.Fits (encode s)) {finding : Finding}
    (h : finding.AtNode (.ofBytes (encode s)) tree) (rule : String) (severity : Severity) :
    (finding.toMessage rule severity).AtNode s tree := by
  cases h with
  | covers u node start stop =>
    obtain ⟨hstart, hstop⟩ := htree u node
    refine .covers u _ node ?_ stop (isAt_place_point hstop)
    rw [Finding.toMessage, start]
    exact isAt_place_point hstart
  | behind u node start _ fix =>
    obtain ⟨-, hstop⟩ := htree u node
    refine .behind u node ?_ fix
    rw [Finding.toMessage, start]
    exact isAt_place_point hstop

/-- The rules that look at rows are known by name. -/
lemma Check.isAboutRow_toMessage (check : Check) (finding : Finding) (severity : Severity) :
    (finding.toMessage check.name severity).isAboutRow = check.looksAtRows := by
  cases check <;> rfl

/-- Messages of a rule lie in the text, and those not about rows are at nodes. -/
lemma Rule.places_of_mem (htree : tree.Fits (encode s)) {rule : Rule}
    (hm : m ∈ rule.messages (.of (.ofBytes (encode s)) tree)) :
    LiesIn s tree m.start m.stop ∧ (m.isAboutRow = false → m.AtNode s tree) := by
  obtain ⟨finding, hfinding, rfl⟩ := List.mem_map.mp hm
  rw [Check.isAboutRow_toMessage]
  rcases Check.pointsTo_of_mem hfinding with ⟨hrows, row, first, hrow⟩ | ⟨hrows, hnode⟩
  · rw [hrows]
    exact ⟨hrow.liesIn, fun h => Bool.noConfusion h⟩
  · exact ⟨hnode.liesIn, fun _ => hnode.toMessage htree _ _⟩

/-- The same is true of the message on a syntax error. -/
lemma SyntaxError.places_message (htree : tree.Fits (encode s))
    (hm : m = SyntaxError.message (.ofBytes (encode s)) (Site.walk tree) tree) :
    LiesIn s tree m.start m.stop ∧ (m.isAboutRow = false → m.AtNode s tree) := by
  obtain ⟨c, hc, hculprit⟩ := exists_isFirstFault tree
  obtain ⟨hstart, -⟩ := htree c.node hc.isNode
  rw [message_eq, hculprit] at hm
  obtain ⟨k, p, hexplains, rfl⟩ :
      ∃ k p, Explains (.ofBytes (encode s)) c.node k p ∧ m = fatal k p :=
    ⟨_, _, explains_iff.mpr ⟨rfl, rfl⟩, hm⟩
  cases hexplains with
  | openString first =>
    obtain ⟨row, i, hopen, rfl, -⟩ := first
    have habout : (fatal "Unterminated string constant" ⟨row + 1, i + 1⟩).isAboutRow = true := rfl
    refine ⟨liesIn_of_isIn (isIn_of_lt hopen.lt hopen.2.lt), fun h => ?_⟩
    exact Bool.noConfusion (habout.symm.trans h)
  | atStart =>
    refine ⟨liesIn_of_isIn (isIn_place_point s _), fun _ => .fault rfl rfl ?_⟩
    rw [hculprit]
    exact isAt_place_point hstart

/-- **Messages point into the text.** If no node of a tree begins or ends inside a character, then every
message of a run lies in the text, with its end if it gives one; it ends no earlier than it begins, unless
it covers a node that does; and unless it is about a row, its place is exactly that of a node. -/
theorem places_verifyTree (rules : List Rule) (s : List Char) {tree : Tree}
    (htree : tree.Fits (encode s)) {m : Message}
    (hm : m ∈ (verifyTree rules (encode s) tree).messages) :
    m.start.IsIn s ∧ (m.isAboutRow = false → m.AtNode s tree) ∧
      ∀ p, m.stop = some p → p.IsIn s ∧ (m.start ≤ p ∨
        ∃ u, tree.IsNode u ∧ u.stop < u.start ∧ m.start.IsAt s u.start ∧ p.IsAt s u.stop) := by
  have hplaces : LiesIn s tree m.start m.stop ∧ (m.isAboutRow = false → m.AtNode s tree) := by
    cases herror : tree.hasError with
    | true =>
      rw [verifyTree, if_pos herror] at hm
      exact SyntaxError.places_message htree (List.mem_singleton.mp hm)
    | false =>
      obtain ⟨rule, -, hm⟩ := (mem_messages_of_parsed herror).mp hm
      exact Rule.places_of_mem htree hm
  obtain ⟨hlies, hnode⟩ := hplaces
  refine ⟨hlies.start_isIn, hnode, fun p hp => ⟨hlies.stop_isIn p hp, ?_⟩⟩
  rcases hlies.start_le p hp with hle | ⟨u, hu, hlt, hstart, hstop⟩
  · exact .inl hle
  · obtain ⟨hstartBoundary, hstopBoundary⟩ := htree u hu
    refine .inr ⟨u, hu, hlt, ?_, ?_⟩
    · rw [hstart]
      exact isAt_place_point hstartBoundary
    · rw [hstop]
      exact isAt_place_point hstopBoundary

end messages

/-- A string on the second line, with a character of two bytes. -/
def quotedTree : Tree where
  kind := "program"
  start := 0
  stop := 5
  children := [{ kind := "string", start := 1, stop := 5 }]

/-- The message for a string between apostrophes, as the text counts it. -/
theorem places_verifyTree_quoted :
    quotedTree.Fits (encode "\n'é'".toList) ∧
      (⟨some "quotes", .error, "Strings must use doublequote.", ⟨2, 1⟩, some ⟨2, 4⟩, false,
          some ⟨1, 5, encodeString "\"é\""⟩⟩ : Message) ∈
        (verifyTree [⟨.error, .quotes ⟨.double, false, false⟩⟩] (encode "\n'é'".toList)
          quotedTree).messages ∧
      (⟨2, 1⟩ : Place).IsIn "\n'é'".toList ∧ (⟨2, 4⟩ : Place).IsIn "\n'é'".toList := by
  have htree : quotedTree.Fits (encode "\n'é'".toList) := by
    refine Tree.fits_of_children (by decide +kernel) (by decide +kernel) fun c hc => ?_
    obtain rfl := List.mem_singleton.mp hc
    exact Tree.fits_of_children (by decide +kernel) (by decide +kernel) (by simp)
  have hmem : (⟨some "quotes", .error, "Strings must use doublequote.", ⟨2, 1⟩, some ⟨2, 4⟩, false,
      some ⟨1, 5, encodeString "\"é\""⟩⟩ : Message) ∈
        (verifyTree [⟨.error, .quotes ⟨.double, false, false⟩⟩] (encode "\n'é'".toList)
          quotedTree).messages := by
    rw [mem_messages_of_parsed (by decide +kernel)]
    exact ⟨_, List.mem_singleton_self _, by decide +kernel⟩
  obtain ⟨hstart, -, hstop⟩ := places_verifyTree _ _ htree hmem
  exact ⟨htree, hmem, hstart, (hstop _ rfl).1⟩

/-- A use of the console whose node begins after it ends. -/
def backwardTree : Tree where
  kind := "program"
  start := 0
  stop := 11
  children := [
    { kind := "member_expression", start := 11, stop := 0
      children := [{ kind := "identifier", start := 0, stop := 7, field := some "object" }] }]

/-- A message ends before it begins if its node does. -/
theorem verifyTree_stop_before_start :
    backwardTree.Fits (encode "console.log".toList) ∧
      ∃ m ∈ (verifyTree [⟨.error, .noConsole⟩] (encode "console.log".toList) backwardTree).messages,
        ∃ p, m.stop = some p ∧ ¬ m.start ≤ p := by
  constructor
  · refine Tree.fits_of_children (by decide +kernel) (by decide +kernel) fun c hc => ?_
    obtain rfl := List.mem_singleton.mp hc
    refine Tree.fits_of_children (by decide) (by decide) fun c hc => ?_
    obtain rfl := List.mem_singleton.mp hc
    exact Tree.fits_of_children (by decide) (by decide) (by simp)
  · refine ⟨⟨some "no-console", .error, "Unexpected console statement.", ⟨1, 12⟩, some ⟨1, 1⟩, false,
      none⟩, ?_, ⟨1, 1⟩, rfl, by decide⟩
    rw [mem_messages_of_parsed (by decide)]
    exact ⟨_, List.mem_singleton_self _, by decide +kernel⟩

end Diagnosis.Lint
