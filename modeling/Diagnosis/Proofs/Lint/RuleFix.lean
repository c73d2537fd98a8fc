import Diagnosis.Proofs.Lint.Edit
import Diagnosis.Proofs.Lint.Fault
import Diagnosis.Proofs.Text.Lines

/-!
# The fixes that rules propose

Rule by rule, which bytes a proposed fix replaces and by what.

* `semi` and `quotes` name the range of a node, or the place where one ends. Such a fix cuts no
  character if no node of the tree does (`Tree.Fits`), which is all that is asked of a tree.
* `indent`, `no-trailing-spaces` and `eol-last` name their ranges by rows and lengths of lines. What
  they replace, and what they put there, is spaces, tabs and line ends only (`isLayout`), whatever
  the tree; and they cut no character either.

`Check.fits_of_mem` and `Check.laysOut_of_mem` put the rules together; `exists_of_mem_fixesOf` says
that a run of the rules proposes nothing else.
-/

namespace Diagnosis.Syntax

open Diagnosis.Text

/-- Whether no node of a tree begins or ends inside a character. -/
def Tree.Fits (data : Bytes) (t : Tree) : Prop :=
  ∀ u, t.IsNode u → IsBoundary data u.start ∧ IsBoundary data u.stop

/-- A node fits a text if its ends cut no character and its children fit. -/
lemma Tree.fits_of_children {data : Bytes} {t : Tree} (hstart : IsBoundary data t.start)
    (hstop : IsBoundary data t.stop) (h : ∀ c ∈ t.children, c.Fits data) : t.Fits data := by
  intro u hu
  obtain rfl | ⟨c, hc, hu⟩ := hu.eq_or_below
  · exact ⟨hstart, hstop⟩
  · exact h c hc u hu

/-- A row begins at a boundary. -/
lemma Source.isBoundary_rowStart {data : Bytes} (hdata : IsText data) {row : Nat}
    (h : row < (ofBytes data).lines.length) : IsBoundary data ((ofBytes data).rowStart row) := by
  obtain ⟨before, after, hsplit, hlen, rfl | hlast⟩ := exists_row h
  · rw [← hlen]
    exact isBoundary_zero hdata
  · obtain ⟨init, rfl⟩ := List.getLast?_eq_some_iff.mp hlast
    have hget : data[init.length]? = some lineFeed := by
      rw [hsplit]
      simp
    rw [← hlen, List.length_append, List.length_singleton]
    exact hdata.isBoundary_succ hget (by decide)

end Diagnosis.Syntax

namespace Diagnosis.Lint

open Diagnosis.Text Diagnosis.Syntax

/-! ## Fixes at nodes -/

section node

variable {data : Bytes} {tree : Tree} {s : Site} {subject : Subject} {finding : Finding} {fix : Fix}

/-- The last part of a statement is a node of the tree. -/
lemma Semi.isNode_of_lastPart? (hs : IsSite tree s) {last : Tree}
    (h : Semi.lastPart? s = some last) : tree.IsNode last := by
  unfold Semi.lastPart? at h
  obtain ⟨part, hpart, rfl⟩ := Option.map_eq_some_iff.mp h
  have hchild : tree.IsNode part :=
    .child hs.isNode (List.mem_reverse.mp (List.mem_of_find?_eq_some hpart))
  split
  case isFalse => exact hchild
  case isTrue =>
    unfold Semi.fieldEnd
    split
    case h_2 => exact hs.isNode
    case h_1 next hnext =>
      have hmem : next ∈ s.nextSiblings :=
        (List.dropWhile_sublist _).subset (List.mem_of_head? hnext)
      split
      case isTrue => exact (hs.of_mem_nextSiblings hmem).isNode
      case isFalse => exact hs.isNode

/-- What `semi` finds is that a semicolon is missing behind a node, or that one is too many. -/
lemma Semi.eq_of_atEnd {style : Presence} {last : Tree}
    (h : Semi.atEnd subject style last = some finding) :
    finding = Semi.missing subject.source last ∨ finding = Semi.extra subject last ∧ last.kind = ";" := by
  cases style with
  | always =>
    simp only [Semi.atEnd, Option.ite_none_right_eq_some, Option.some.injEq] at h
    exact .inl h.2.symm
  | never =>
    simp only [Semi.atEnd, Option.ite_none_right_eq_some, Option.some.injEq, Bool.and_eq_true,
      beq_iff_eq] at h
    exact .inr ⟨h.2.symm, h.1.1⟩

/-- A finding on semicolons says that one is missing behind a node, or that a node is one too many. -/
lemma Semi.exists_of_mem {style : Presence} (hsites : ∀ s ∈ subject.sites, IsSite tree s)
    (h : finding ∈ Semi.check style subject) :
    ∃ last, tree.IsNode last ∧ (finding = Semi.missing subject.source last ∨
      finding = Semi.extra subject last ∧ last.kind = ";") := by
  unfold Semi.check at h
  obtain ⟨s, hs, hfound⟩ := List.mem_filterMap.mp h
  obtain ⟨last, hlast, hend⟩ := Option.bind_eq_some_iff.mp hfound
  have hsite := hsites s (List.mem_of_mem_filter hs)
  exact ⟨last, Semi.isNode_of_lastPart? hsite hlast, Semi.eq_of_atEnd hend⟩

/-- Fixes of semicolons fit the text. -/
lemma Semi.fits_of_mem (htree : tree.Fits data) {style : Presence}
    (hsites : ∀ s ∈ subject.sites, IsSite tree s)
    (h : finding ∈ Semi.check style subject) (hfix : finding.fix = some fix) : fix.Fits data := by
  obtain ⟨last, hnode, hfinding⟩ := Semi.exists_of_mem hsites h
  obtain ⟨hstart, hstop⟩ := htree last hnode
  rcases hfinding with rfl | ⟨rfl, -⟩
  · obtain rfl := Option.some.inj hfix
    exact ⟨_, _, ⟨rfl, rfl⟩, hstop, hstop, isText_encode _⟩
  · obtain rfl := Option.some.inj hfix
    exact ⟨_, _, ⟨rfl, rfl⟩, hstart, hstop, isText_nil⟩

/-- What `quotes` finds is a literal that may not keep its quotes. -/
lemma Quotes.exists_of_mem {o : QuoteOptions} (hsites : ∀ s ∈ subject.sites, IsSite tree s)
    (h : finding ∈ Quotes.check o subject) :
    ∃ u, tree.IsNode u ∧ ¬ Quotes.isFine o (subject.source.chars u) = true ∧
      finding = { subject.findingAt s!"Strings must use {o.style.name}." u with
        fix := some ⟨u.start, u.stop, encode (Quotes.requote o.style.char (subject.source.chars u))⟩ } := by
  unfold Quotes.check at h
  obtain ⟨s, hs, hfound⟩ := List.mem_filterMap.mp h
  have hsite := hsites s (List.mem_of_mem_filter hs)
  simp only [Option.ite_none_left_eq_some, Option.some.injEq] at hfound
  exact ⟨s.node, hsite.isNode, hfound.1, hfound.2.symm⟩

/-- Fixes of quotes fit the text. -/
lemma Quotes.fits_of_mem (htree : tree.Fits data) {o : QuoteOptions}
    (hsites : ∀ s ∈ subject.sites, IsSite tree s)
    (h : finding ∈ Quotes.check o subject) (hfix : finding.fix = some fix) : fix.Fits data := by
  obtain ⟨u, hnode, -, rfl⟩ := Quotes.exists_of_mem hsites h
  obtain ⟨hstart, hstop⟩ := htree u hnode
  obtain rfl := Option.some.inj hfix
  exact ⟨_, _, ⟨rfl, rfl⟩, hstart, hstop, isText_encode _⟩

end node

/-! ## Fixes of the layout -/

/-- Whether a byte only lays out a text: a space, a tab, or part of a line end. -/
def isLayout (b : UInt8) : Bool := Source.isIndentByte b || Whitespace.isLineEnd b

/-- Bytes of layout are ASCII. -/
lemma toNat_lt_of_isLayout {b : UInt8} (h : isLayout b = true) : b.toNat < 128 := by
  simp only [isLayout, Source.isIndentByte, Whitespace.isLineEnd, Bool.or_eq_true,
    decide_eq_true_eq] at h
  obtain (rfl | rfl) | rfl | rfl := h <;> decide

/-- What indents is layout. -/
lemma isLayout_of_isIndentByte {b : UInt8} (h : Source.isIndentByte b = true) :
    isLayout b = true := by
  rw [isLayout, h, Bool.true_or]

/-- What ends lines is layout. -/
lemma isLayout_of_isLineEnd {b : UInt8} (h : Whitespace.isLineEnd b = true) : isLayout b = true := by
  rw [isLayout, h, Bool.or_true]

/-- Whether a fix changes the layout only, and cuts no character of a text. -/
def Fix.LaysOut (data : Bytes) (f : Fix) : Prop :=
  f.Within isLayout data ∧ (IsText data → f.Fits data)

/-- Whether a fix replaces what stands between two parts of a text. -/
def Fix.Replaces (data : Bytes) (f : Fix) (before middle after : Bytes) : Prop :=
  data = before ++ middle ++ after ∧ f.Covers before.length (before.length + middle.length)

section layout

variable {data : Bytes} {f : Fix} {finding : Finding}

/-- A fix lays out a stretch of the text if it begins at a boundary; a stretch that is not empty
does. -/
lemma Fix.Replaces.laysOut {before middle after : Bytes} (hf : f.Replaces data before middle after)
    (hmiddle : ∀ b ∈ middle, isLayout b = true) (htext : ∀ b ∈ f.text, isLayout b = true)
    (hstart : middle ≠ [] ∨ (IsText data → IsBoundary data before.length)) : f.LaysOut data := by
  obtain ⟨hdata, hcovers⟩ := hf
  have hbetween : between data before.length (before.length + middle.length) = middle := by
    rw [hdata, between_append]
  have hle : before.length + middle.length ≤ data.length := by
    rw [hdata]
    simp
  refine ⟨⟨_, _, hcovers, Nat.le_add_right _ _, hle, by rwa [hbetween], htext⟩, fun htext' => ?_⟩
  have hboundary : IsBoundary data before.length := by
    obtain hne | hstart := hstart
    · obtain ⟨b, tail, rfl⟩ := List.exists_cons_of_ne_nil hne
      have hb : data[before.length]? = some b := by
        rw [hdata]
        simp
      exact isBoundary_of_ascii hb (toNat_lt_of_isLayout (hmiddle b List.mem_cons_self))
    · exact hstart htext'
  refine ⟨_, _, hcovers, hboundary, ?_, isText_of_ascii fun b hb => toNat_lt_of_isLayout (htext b hb)⟩
  refine htext'.isBoundary_of_between hboundary (Nat.le_add_right _ _) hle fun b hb => ?_
  rw [hbetween] at hb
  exact toNat_lt_of_isLayout (hmiddle b hb)

/-- A fix of `indent` replaces the indentation of a row by another. -/
lemma Indent.replaces_of_finding? {o : IndentOptions} {row expected : Nat}
    (hrow : row < (Source.ofBytes data).lines.length)
    (h : Indent.finding? (Source.ofBytes data) o row expected = some finding)
    (hfix : finding.fix = some f) :
    ∃ before after, f.Replaces data before ((Source.ofBytes data).indentation row) after ∧
      before.length = (Source.ofBytes data).rowStart row ∧
      f.text = List.replicate expected o.unit.byte ∧
      (Source.ofBytes data).indentation row ≠ f.text := by
  simp only [Indent.finding?, Option.ite_none_left_eq_some, Option.some.injEq] at h
  obtain ⟨hne, rfl⟩ := h
  obtain rfl := Option.some.inj hfix
  obtain ⟨before, after, hsplit, hlen, -⟩ := Source.exists_row hrow
  have hdata : data = before ++ (Source.ofBytes data).indentation row ++
      (((Source.ofBytes data).line row).dropWhile Source.isIndentByte ++ after) := by
    conv_lhs => rw [hsplit]
    rw [Source.indentation, ← List.append_assoc, List.append_assoc before (List.takeWhile _ _),
      List.takeWhile_append_dropWhile]
  refine ⟨before, _, ⟨hdata, ?_⟩, hlen, rfl, hne⟩
  rw [hlen]
  exact ⟨rfl, rfl⟩

/-- Fixes of indentation change the layout only. -/
lemma Indent.laysOut_of_finding? {o : IndentOptions} {row expected : Nat}
    (hrow : row < (Source.ofBytes data).lines.length)
    (h : Indent.finding? (Source.ofBytes data) o row expected = some finding)
    (hfix : finding.fix = some f) : f.LaysOut data := by
  obtain ⟨before, after, hf, hlen, htext, -⟩ := Indent.replaces_of_finding? hrow h hfix
  refine hf.laysOut (fun b hb => ?_) (fun b hb => ?_) (.inr fun hdata => ?_)
  · exact isLayout_of_isIndentByte (List.mem_takeWhile_imp hb)
  · rw [htext] at hb
    obtain rfl := List.eq_of_mem_replicate hb
    cases o.unit <;> decide
  · rw [hlen]
    exact Source.isBoundary_rowStart hdata hrow

/-- Every finding of `indent` is about the row of some site. -/
lemma Indent.exists_of_mem_checkFrom {src : Source} {o : IndentOptions} {expected : Indent.Expected}
    {sites : List Site} (h : finding ∈ Indent.checkFrom src o expected sites) :
    ∃ s ∈ sites, ∃ n, Indent.finding? src o (src.startPoint s.node).row n = some finding := by
  induction sites generalizing expected with
  | nil => simp [Indent.checkFrom] at h
  | cons s sites ih =>
    have hlater : ∀ {expected}, finding ∈ Indent.checkFrom src o expected sites → ∃ s' ∈ s :: sites,
        ∃ n, Indent.finding? src o (src.startPoint s'.node).row n = some finding := by
      intro expected h
      obtain ⟨s', hs', hfound⟩ := ih h
      exact ⟨s', List.mem_cons_of_mem s hs', hfound⟩
    rw [Indent.checkFrom] at h
    split at h
    case isTrue => exact hlater h
    case isFalse =>
      split at h
      case h_1 => exact hlater h
      case h_2 n _ =>
        rw [List.mem_append, Option.mem_toList] at h
        obtain h | h := h
        · exact ⟨s, List.mem_cons_self, n, h⟩
        · exact hlater h

/-- Behind its body, a line has nothing but carriage returns. -/
lemma exists_lineBody_append (line : Bytes) : ∃ ending, line = Whitespace.lineBody line ++ ending ∧
    ∀ b ∈ ending, b = Whitespace.carriageReturn := by
  unfold Whitespace.lineBody
  split
  case isTrue h =>
    obtain ⟨init, rfl⟩ := List.getLast?_eq_some_iff.mp h
    exact ⟨[Whitespace.carriageReturn], by rw [List.dropLast_concat], by simp⟩
  case isFalse => exact ⟨[], (List.append_nil line).symm, by simp⟩

/-- A fix of `no-trailing-spaces` takes out spaces and tabs. -/
lemma Whitespace.replaces_of_trailing? {row : Nat} (hrow : row < (Source.ofBytes data).lines.length)
    (h : Whitespace.trailing? (Source.ofBytes data) row = some finding)
    (hfix : finding.fix = some f) :
    ∃ before tail after, f.Replaces data before tail after ∧ tail ≠ [] ∧
      (∀ b ∈ tail, Source.isIndentByte b = true) ∧ f.text = [] := by
  simp only [Whitespace.trailing?, Option.ite_none_left_eq_some, Option.some.injEq] at h
  obtain ⟨hkept, rfl⟩ := h
  obtain rfl := Option.some.inj hfix
  obtain ⟨before, after, hsplit, hlen, -⟩ := Source.exists_row hrow
  obtain ⟨ending, hline, -⟩ := exists_lineBody_append ((Source.ofBytes data).line row)
  generalize Whitespace.lineBody ((Source.ofBytes data).line row) = body at *
  obtain ⟨tail, hbody, htail⟩ := exists_append_dropEndWhile Source.isIndentByte body
  generalize dropEndWhile Source.isIndentByte body = kept at *
  have hdata : data = (before ++ kept) ++ tail ++ (ending ++ after) := by
    rw [hsplit, hline, hbody]
    simp
  refine ⟨before ++ kept, tail, ending ++ after, ⟨hdata, ?_, ?_⟩, fun hnil => ?_, htail, rfl⟩
  · simp [hlen]
  · simp [hlen, hbody, Nat.add_assoc]
  · rw [hbody, hnil, List.append_nil] at hkept
    exact hkept rfl

/-- Fixes of blanks at the end of a row change the layout only. -/
lemma Whitespace.laysOut_of_trailing? {row : Nat} (hrow : row < (Source.ofBytes data).lines.length)
    (h : Whitespace.trailing? (Source.ofBytes data) row = some finding)
    (hfix : finding.fix = some f) : f.LaysOut data := by
  obtain ⟨before, tail, after, hf, hne, htail, htext⟩ := Whitespace.replaces_of_trailing? hrow h hfix
  refine hf.laysOut (fun b hb => isLayout_of_isIndentByte (htail b hb)) ?_ (.inl hne)
  rw [htext]
  exact fun b hb => absurd hb List.not_mem_nil

/-- What `eol-last` finds is that the last line end is missing, or that it is one too many. -/
lemma Whitespace.eq_of_mem_checkLast {style : Presence} {subject : Subject}
    (h : finding ∈ Whitespace.checkLast style subject) :
    finding = Whitespace.missingLast subject.source ∨
      finding = Whitespace.extraLast subject.source ∧
        subject.source.data.getLast? = some lineFeed := by
  unfold Whitespace.checkLast at h
  dsimp only at h
  cases hdata : subject.source.data with
  | nil =>
    rw [hdata] at h
    exact absurd h List.not_mem_nil
  | cons b bs =>
    rw [hdata] at h
    cases style with
    | always =>
      dsimp only at h
      split at h
      case isTrue => exact absurd h List.not_mem_nil
      case isFalse => exact .inl (List.mem_singleton.mp h)
    | never =>
      dsimp only at h
      split at h
      case isTrue hlast => exact .inr ⟨List.mem_singleton.mp h, hlast⟩
      case isFalse => exact absurd h List.not_mem_nil

/-- A fix of `eol-last` puts a line feed behind the text, or takes out the line ends there. -/
lemma Whitespace.replaces_of_mem_checkLast {style : Presence} {subject : Subject}
    (hsource : subject.source = Source.ofBytes data)
    (h : finding ∈ Whitespace.checkLast style subject) (hfix : finding.fix = some f) :
    (f.Replaces data data [] [] ∧ f.text = [lineFeed]) ∨
      ∃ kept tail, f.Replaces data kept tail [] ∧ tail ≠ [] ∧
        (∀ b ∈ tail, Whitespace.isLineEnd b = true) ∧ f.text = [] := by
  have hdata : subject.source.data = data := by rw [hsource]; rfl
  obtain rfl | ⟨rfl, hlast⟩ := Whitespace.eq_of_mem_checkLast h
  · obtain rfl := Option.some.inj hfix
    refine .inl ⟨⟨by simp, ?_⟩, rfl⟩
    rw [hdata]
    exact ⟨rfl, rfl⟩
  · obtain rfl := Option.some.inj hfix
    rw [hdata] at hlast
    obtain ⟨tail, htail, hend⟩ := exists_append_dropEndWhile Whitespace.isLineEnd data
    refine .inr ⟨dropEndWhile Whitespace.isLineEnd data, tail, ⟨?_, ?_, ?_⟩, ?_, hend, rfl⟩
    · rw [List.append_nil, ← htail]
    · rw [hdata]
    · rw [hdata, ← List.length_append, ← htail]
    · -- the last byte is a line end, so something is dropped
      rintro rfl
      obtain ⟨init, rfl⟩ := List.getLast?_eq_some_iff.mp hlast
      rw [List.append_nil] at htail
      have hdrop : dropEndWhile Whitespace.isLineEnd (init ++ [lineFeed]) =
          dropEndWhile Whitespace.isLineEnd init := List.rdropWhile_concat_pos _ _ _ (by decide)
      have hlen := (dropEndWhile_isPrefix Whitespace.isLineEnd init).length_le
      rw [hdrop] at htail
      rw [← htail, List.length_append, List.length_singleton] at hlen
      exact Nat.not_succ_le_self _ hlen

/-- Fixes of the end of the text change the layout only. -/
lemma Whitespace.laysOut_of_mem_checkLast {style : Presence} {subject : Subject}
    (hsource : subject.source = Source.ofBytes data)
    (h : finding ∈ Whitespace.checkLast style subject) (hfix : finding.fix = some f) :
    f.LaysOut data := by
  rcases Whitespace.replaces_of_mem_checkLast hsource h hfix with
    ⟨hf, htext⟩ | ⟨kept, tail, hf, hne, hend, htext⟩
  · refine hf.laysOut (by simp) (fun b hb => ?_) (.inr fun _ => isBoundary_end)
    rw [htext] at hb
    rw [List.mem_singleton.mp hb]
    rfl
  · refine hf.laysOut (fun b hb => isLayout_of_isLineEnd (hend b hb)) ?_ (.inl hne)
    rw [htext]
    exact fun b hb => absurd hb List.not_mem_nil

end layout

/-! ## All rules -/

/-- Whether the fixes of a rule touch more than the layout. -/
def Check.editsCode : Check → Bool
  | .semi _ | .quotes _ => true
  | _ => false

section run

variable {data : Bytes} {tree : Tree} {finding : Finding} {fix : Fix}

/-- The rules on names propose no fixes. -/
lemma Names.fix_eq_none {check : Check}
    (hcheck : check = .noUnusedVars ∨ check = .noUndef ∨ check = .noConsole) {subject : Subject}
    (h : finding ∈ check.findings subject) : finding.fix = none := by
  obtain rfl | rfl | rfl := hcheck
  · obtain ⟨e, -, he⟩ := List.mem_filterMap.mp h
    obtain ⟨target, -, rfl⟩ := Option.map_eq_some_iff.mp he
    rfl
  · obtain ⟨s, -, rfl⟩ := List.mem_map.mp h
    rfl
  · obtain ⟨s, -, rfl⟩ := List.mem_map.mp h
    rfl

/-- **The layout rules.** What a rule that does not edit code proposes changes the layout only,
whatever the tree. -/
theorem Check.laysOut_of_mem {check : Check} (hcheck : check.editsCode = false)
    (h : finding ∈ check.findings (.of (.ofBytes data) tree)) (hfix : finding.fix = some fix) :
    fix.LaysOut data := by
  cases check with
  | semi | quotes => exact Bool.noConfusion hcheck
  | indent o =>
    obtain ⟨s, -, n, hfound⟩ := Indent.exists_of_mem_checkFrom h
    exact Indent.laysOut_of_finding? (Source.point_row_lt data _) hfound hfix
  | noUnusedVars => simp [Names.fix_eq_none (.inl rfl) h] at hfix
  | noUndef => simp [Names.fix_eq_none (.inr (.inl rfl)) h] at hfix
  | noConsole => simp [Names.fix_eq_none (.inr (.inr rfl)) h] at hfix
  | noTrailingSpaces =>
    obtain ⟨row, hrow, hfound⟩ := List.mem_filterMap.mp h
    have hrow := List.mem_range.mp (List.mem_filter.mp hrow).1
    exact Whitespace.laysOut_of_trailing? hrow hfound hfix
  | eolLast style => exact Whitespace.laysOut_of_mem_checkLast rfl h hfix

/-- **All rules.** What any rule proposes for a text cuts no character, if the tree does not. -/
theorem Check.fits_of_mem {check : Check} (hdata : IsText data) (htree : tree.Fits data)
    (h : finding ∈ check.findings (.of (.ofBytes data) tree)) (hfix : finding.fix = some fix) :
    fix.Fits data := by
  cases hcheck : check.editsCode with
  | false => exact (Check.laysOut_of_mem hcheck h hfix).2 hdata
  | true =>
    cases check with
    | semi style => exact Semi.fits_of_mem htree (fun s => Site.mem_walk_iff.mp) h hfix
    | quotes o => exact Quotes.fits_of_mem htree (fun s => Site.mem_walk_iff.mp) h hfix
    | _ => exact Bool.noConfusion hcheck

/-- A run of the rules proposes only what one of the rules proposes. -/
theorem exists_of_mem_fixesOf {rules : List Rule}
    (h : fix ∈ fixesOf (verifyTree rules data tree).messages) :
    ∃ rule ∈ rules, ∃ finding ∈ rule.check.findings (.of (.ofBytes data) tree),
      finding.fix = some fix := by
  obtain ⟨m, hm, hfix⟩ := List.mem_filterMap.mp h
  rw [verifyTree] at hm
  split at hm
  · rw [List.mem_singleton, SyntaxError.message_eq] at hm
    rw [hm] at hfix
    cases hfix
  · obtain ⟨rule, hrule, hm⟩ := List.mem_flatMap.mp (List.mem_mergeSort.mp hm)
    obtain ⟨finding, hfinding, rfl⟩ := List.mem_map.mp hm
    exact ⟨rule, hrule, finding, hfinding, hfix⟩

end run

end Diagnosis.Lint
