import Diagnosis.Proofs.Lint.Reindent
import Diagnosis.Proofs.Lint.RuleFix

/-!
# White space in templates

In a template, blanks are content, at the ends of lines and at their starts. `no-trailing-spaces` passes over
the rows that end inside a template; `indent` knows nothing of templates and looks only at what begins a row.

* The blanks that `no-trailing-spaces` takes out reach to the end of their row (`bytes_of_trailing?`), and
  behind them there is no backtick. So a template that holds one of them goes on to the next row, and then the
  row is passed over.
* The blanks that `indent` replaces are in front of a construct. If a template holds one of them, it neither
  begins nor ends between them and the construct, so the construct is below it (`isNode_of_between`). Hence it
  is in a substitution, and this begins further up, since its opening would stand in front of the construct.
* **Whitespace fixes spare templates** (`spares_template_of_mem`): no fix of the two rules covers content of a
  template. So applied fixes leave it as it is (`content_applyFixes`).
-/

namespace Diagnosis.Lint

open Diagnosis.Text Diagnosis.Syntax

/-! ## Templates -/

/-- The byte of a backtick. -/
def backtickByte : UInt8 := 96

/-- What a template consists of besides its substitutions: its quotes, its text and the escapes in it. -/
def templatePartKinds : List String := ["\x60", "string_fragment", "escape_sequence"]

/-- Whether a node is a substitution that begins with `${`: the two bytes are there, and of what is in the
substitution only the token `${` begins where it begins. -/
structure IsSubstitution (data : Bytes) (c : Tree) : Prop where
  kind : c.kind = "template_substitution"
  opening : data[c.start]? = some 36 ∧ data[c.start + 1]? = some 123
  behind : ∀ d ∈ c.children, ∀ u, d.IsNode u → u.kind = "$\x7b" ∨ c.start < u.start

/-- Whether a node is a template: it begins and ends with a backtick, and everything below it that is none of
its quotes, texts and escapes is in a substitution. -/
structure IsTemplate (data : Bytes) (t : Tree) : Prop where
  first : data[t.start]? = some backtickByte
  last : data[t.stop - 1]? = some backtickByte
  parts : ∀ c ∈ t.children, IsSubstitution data c ∨ ∀ u, c.IsNode u → u.kind ∈ templatePartKinds

section decidable

variable {data : Bytes} {t c : Tree}

/-- Whether a node is a substitution of a template can be computed. -/
lemma isSubstitution_iff : IsSubstitution data c ↔ c.kind = "template_substitution" ∧
    (data[c.start]? = some 36 ∧ data[c.start + 1]? = some 123) ∧
    ∀ d ∈ c.children, ∀ s ∈ Site.walk d, s.node.kind = "$\x7b" ∨ c.start < s.node.start := by
  simp only [← Tree.forall_isNode_iff (p := fun u => u.kind = "$\x7b" ∨ c.start < u.start)]
  exact ⟨fun h => ⟨h.kind, h.opening, h.behind⟩, fun ⟨hkind, hopening, hbehind⟩ =>
    ⟨hkind, hopening, hbehind⟩⟩

instance (data : Bytes) (c : Tree) : Decidable (IsSubstitution data c) :=
  decidable_of_iff _ isSubstitution_iff.symm

/-- Whether a node is a template can be computed. -/
lemma isTemplate_iff : IsTemplate data t ↔ data[t.start]? = some backtickByte ∧
    data[t.stop - 1]? = some backtickByte ∧
    ∀ c ∈ t.children, IsSubstitution data c ∨ ∀ s ∈ Site.walk c, s.node.kind ∈ templatePartKinds := by
  simp only [← Tree.forall_isNode_iff (p := fun u => u.kind ∈ templatePartKinds)]
  exact ⟨fun h => ⟨h.first, h.last, h.parts⟩, fun ⟨hfirst, hlast, hparts⟩ => ⟨hfirst, hlast, hparts⟩⟩

instance (data : Bytes) (t : Tree) : Decidable (IsTemplate data t) :=
  decidable_of_iff _ isTemplate_iff.symm

end decidable

/-- Whether a byte is content of a template: it belongs to the template and to none of its substitutions. -/
def IsContent (t : Tree) (i : Nat) : Prop :=
  (t.start ≤ i ∧ i < t.stop) ∧
    ∀ c ∈ t.children, c.kind = "template_substitution" → i < c.start ∨ c.stop ≤ i

/-- The rule `indent` looks at no part of a template itself. -/
lemma Indent.kind_notMem_of_concerns {s : Site} (hs : Indent.concerns s = true) :
    s.kind ∉ ["template_substitution", "$\x7b"] ++ templatePartKinds := by
  have hkind : s.kind ∈ Indent.anchorKinds ++ ["\x7d"] := by
    unfold Indent.concerns at hs
    rw [Bool.or_eq_true, Bool.and_eq_true, List.contains_iff_mem, beq_iff_eq] at hs
    obtain hanchor | ⟨hbrace, -⟩ := hs
    · exact List.mem_append_left _ hanchor
    · exact List.mem_append_right _ (List.mem_singleton.mpr hbrace)
  exact (show ∀ kind ∈ Indent.anchorKinds ++ ["\x7d"],
    kind ∉ ["template_substitution", "$\x7b"] ++ templatePartKinds by decide) _ hkind

/-! ## Trailing blanks -/

section trailing

variable {data : Bytes} {tree : Tree} {finding : Finding} {f : Fix} {row i : Nat}

/-- From what a fix of `no-trailing-spaces` takes out up to the end of the row there is only white space. -/
lemma Whitespace.bytes_of_trailing? (hrow : row < (Source.ofBytes data).lines.length)
    (h : trailing? (.ofBytes data) row = some finding) (hfix : finding.fix = some f) (hi : ¬ f.Spares i) :
    (Source.ofBytes data).rowStart row ≤ i ∧
      i < (Source.ofBytes data).rowStart row + ((Source.ofBytes data).line row).length ∧
      ∀ j, i ≤ j → j < (Source.ofBytes data).rowStart row + ((Source.ofBytes data).line row).length →
        ∃ b, data[j]? = some b ∧ (Source.isIndentByte b = true ∨ b = carriageReturn) := by
  simp only [trailing?, Option.ite_none_left_eq_some, Option.some.injEq] at h
  obtain ⟨-, rfl⟩ := h
  obtain rfl := Option.some.inj hfix
  obtain ⟨ending, hline, hending⟩ := exists_lineBody_append ((Source.ofBytes data).line row)
  obtain ⟨tail, hbody, htail⟩ :=
    exists_append_dropEndWhile Source.isIndentByte (lineBody ((Source.ofBytes data).line row))
  have hlength := congrArg List.length hline
  rw [List.length_append] at hlength
  unfold Fix.Spares at hi
  dsimp only at hi
  refine ⟨by omega, by omega, fun j hij hj => ?_⟩
  obtain ⟨k, rfl⟩ := Nat.exists_eq_add_of_le (show (Source.ofBytes data).rowStart row ≤ j by omega)
  have hk : k < ((Source.ofBytes data).line row).length := by omega
  refine ⟨_, (Source.getElem?_rowStart_add hrow hk).trans (List.getElem?_eq_getElem hk), ?_⟩
  -- the byte lies behind what is kept
  have hmem : ((Source.ofBytes data).line row)[k] ∈ tail ++ ending := by
    have hsplit : (Source.ofBytes data).line row =
        dropEndWhile Source.isIndentByte (lineBody ((Source.ofBytes data).line row)) ++
          (tail ++ ending) := by
      rw [← List.append_assoc, ← hbody]
      exact hline
    rw [List.getElem_of_eq hsplit, List.getElem_append_right (by omega)]
    exact List.getElem_mem _
  obtain hmem | hmem := List.mem_append.mp hmem
  · exact .inl (htail _ hmem)
  · exact .inr (hending _ hmem)

/-- The fixes of `no-trailing-spaces` take nothing out of a template. -/
lemma Whitespace.spares_of_trailing {t : Tree} (ht : tree.IsNode t) (hkind : t.kind = "template_string")
    (hlast : data[t.stop - 1]? = some backtickByte) (hi : t.start ≤ i ∧ i < t.stop)
    (h : finding ∈ checkTrailing (.of (.ofBytes data) tree)) (hfix : finding.fix = some f) :
    f.Spares i := by
  by_contra hcovers
  obtain ⟨row, hrow, hfound⟩ := List.mem_filterMap.mp h
  obtain ⟨hrow, hopen⟩ := List.mem_filter.mp hrow
  have hrow : row < (Source.ofBytes data).lines.length := List.mem_range.mp hrow
  obtain ⟨hstart, hend, hbytes⟩ := bytes_of_trailing? hrow hfound hfix hcovers
  have hpoint := Source.row_point_eq hrow hstart (Nat.le_of_lt hend)
  have hfirst := Source.row_point_mono data hi.1
  have hstop := Source.row_point_mono data (Nat.le_of_lt hi.2)
  rw [hpoint] at hfirst hstop
  -- the template ends on the row, since otherwise the row would be passed over
  have hsame : ((Source.ofBytes data).point t.stop).row = row := by
    obtain ⟨s, hs, rfl⟩ := ht.exists_isSite
    apply Nat.le_antisymm _ hstop
    apply Nat.le_of_not_lt
    intro hlt
    have hprotected : isProtected (.of (.ofBytes data) tree) row = true := by
      apply List.any_eq_true.mpr
      refine ⟨s, Site.mem_walk_iff.mpr hs, ?_⟩
      have hkind : s.kind = "template_string" := hkind
      rw [hkind, Bool.and_eq_true, Bool.and_eq_true]
      exact ⟨⟨rfl, decide_eq_true hfirst⟩, decide_eq_true hlt⟩
    rw [hprotected] at hopen
    exact absurd hopen Bool.false_ne_true
  have hlength := (List.getElem?_eq_some_iff.mp hlast).1
  have hwithin := (Source.point_offset (show t.stop ≤ data.length by omega)).2
  rw [hsame] at hwithin
  obtain ⟨b, hb, hblank⟩ := hbytes (t.stop - 1) (by omega) (by omega)
  rw [hlast] at hb
  obtain rfl := Option.some.inj hb
  exact absurd hblank (by decide)

end trailing

/-! ## Indentation -/

section indentation

variable {data : Bytes} {tree : Tree} {f : Fix} {row i : Nat}

/-- The indentation of a row ends before anything stands on the row. -/
lemma Indent.indentation_le_of_stands (hrow : row < (Source.ofBytes data).lines.length)
    (hi : (Source.ofBytes data).rowStart row ≤ i) (hstands : Stands data i) :
    (Source.ofBytes data).rowStart row + ((Source.ofBytes data).indentation row).length ≤ i := by
  by_contra hlt
  obtain ⟨k, rfl⟩ := Nat.exists_eq_add_of_le hi
  have hk : k < ((Source.ofBytes data).indentation row).length := by omega
  have hline := Nat.lt_of_lt_of_le hk (length_indentation_le (.ofBytes data) row)
  have hget : ((Source.ofBytes data).line row)[k]? = some ((Source.ofBytes data).indentation row)[k] := by
    rw [List.getElem?_eq_getElem hline]
    exact congrArg some (List.IsPrefix.getElem (List.takeWhile_prefix _) hk).symm
  have hblank : Source.isIndentByte ((Source.ofBytes data).indentation row)[k] = true :=
    List.mem_takeWhile_imp (List.getElem_mem hk)
  unfold Stands at hstands
  rw [Source.getElem?_rowStart_add hrow hline, hget, Option.map_some,
    isBlankByte_of_isIndentByte hblank] at hstands
  exact absurd hstands (by decide)

/-- A fix of `indent` covers blanks in front of a construct that the rule looks at and that begins the
row. -/
lemma Indent.exists_of_covers {o : IndentOptions} {finding : Finding}
    (hstands : ∀ s ∈ Site.walk tree, concerns s = true → Stands data s.node.start)
    (h : finding ∈ check o (.of (.ofBytes data) tree)) (hfix : finding.fix = some f) (hi : ¬ f.Spares i) :
    ∃ s, IsSite tree s ∧ concerns s = true ∧ i < s.node.start ∧
      ∀ j, i ≤ j → j < s.node.start → ¬ Stands data j := by
  have hmem : f ∈ (checkFrom (.ofBytes data) o [] (Site.walk tree)).filterMap (·.fix) :=
    List.mem_filterMap.mpr ⟨finding, h, hfix⟩
  rw [fixes_checkFrom] at hmem
  obtain ⟨r, hr, hrow⟩ := List.mem_filterMap.mp hmem
  obtain rfl := eq_of_rowFix? hrow
  obtain ⟨s, hs, hopens⟩ := exists_opens hr
  have hrow : ((Source.ofBytes data).point s.node.start).row = r.1 := hopens.row_eq
  have hlt : r.1 < (Source.ofBytes data).lines.length := hrow ▸ Source.point_row_lt data _
  have hstart := hstands s hs hopens.concerned
  have hlength : s.node.start < data.length := by
    obtain ⟨b, hb, -⟩ := Option.map_eq_some_iff.mp hstart
    exact (List.getElem?_eq_some_iff.mp hb).1
  obtain ⟨hle, hge⟩ := Source.point_offset (Nat.le_of_lt hlength)
  rw [hrow] at hle hge
  have hindentation := indentation_le_of_stands hlt hle hstart
  unfold Fix.Spares rowFix at hi
  dsimp only at hi
  refine ⟨s, Site.mem_walk_iff.mp hs, hopens.concerned, by omega, fun j hij hj hstands => ?_⟩
  -- otherwise the construct would not be the first on its row
  obtain ⟨b, hb, hblank⟩ := Option.map_eq_some_iff.mp hstands
  have hsame : ((Source.ofBytes data).point j).row = r.1 := Source.row_point_eq hlt (by omega) (by omega)
  have hnot := Source.not_startsLine_of_lt hb hblank hj (hsame.trans hrow.symm)
  exact absurd (hnot.symm.trans hopens.startsLine) Bool.false_ne_true

/-- The fixes of `indent` spare what is content of a template. -/
lemma Indent.spares_of_indent {o : IndentOptions} {finding : Finding} {t : Tree}
    (hnested : tree.IsNested)
    (hstands : ∀ s ∈ Site.walk tree, concerns s = true → Stands data s.node.start)
    (ht : tree.IsNode t) (htemplate : IsTemplate data t) (hi : IsContent t i)
    (h : finding ∈ check o (.of (.ofBytes data) tree)) (hfix : finding.fix = some f) : f.Spares i := by
  by_contra hcovers
  obtain ⟨s, hs, hconcerns, hlt, hblank⟩ := exists_of_covers hstands h hfix hcovers
  obtain ⟨⟨hstart, hstop⟩, houtside⟩ := hi
  have hbacktick : ∀ {j}, data[j]? = some backtickByte → Stands data j := by
    intro j hj
    unfold Stands
    rw [hj]
    rfl
  have hend : s.node.start < t.stop := by
    by_contra hle
    exact hblank (t.stop - 1) (by omega) (by omega) (hbacktick htemplate.last)
  have hbelow : t.IsNode s.node := hnested.isNode_of_between ht hs.isNode (by omega) hend
  have hkind := kind_notMem_of_concerns hconcerns
  rw [List.mem_append, not_or] at hkind
  obtain heq | ⟨c, hc, hcs⟩ := hbelow.eq_or_below
  · rw [heq] at hlt
    omega
  obtain hsubstitution | hparts := htemplate.parts c hc
  · -- the construct is neither the substitution nor its opening, so it is behind both
    have hbehind : c.start < s.node.start := by
      obtain heq | ⟨d, hd, hds⟩ := hcs.eq_or_below
      · exact absurd (by rw [Site.kind, heq, hsubstitution.kind]; exact List.mem_cons_self) hkind.1
      · apply (hsubstitution.behind d hd _ hds).resolve_left
        intro hopening
        exact hkind.1 (List.mem_cons_of_mem _ (List.mem_singleton.mpr hopening))
    have hdollar : Stands data c.start := by
      unfold Stands
      rw [hsubstitution.opening.1]
      rfl
    have hfurther : c.start < i := by
      by_contra hle
      exact hblank c.start (by omega) hbehind hdollar
    have hin := ((hnested.of_isNode (ht.child hc)).within_of_isNode hcs).2
    have hordered := hnested.isOrdered _ hs.isNode
    have := houtside c hc hsubstitution.kind
    omega
  · exact hkind.2 (hparts _ hcs)

end indentation

/-! ## Both rules -/

section both

variable {data : Bytes} {tree : Tree} {o : IndentOptions} {f : Fix}

/-- What the two rules find. -/
def whitespaceFindings (o : IndentOptions) (subject : Subject) : List Finding :=
  Indent.check o subject ++ Whitespace.checkTrailing subject

/-- Fixes of whitespace leave the texts of templates alone. -/
lemma spares_of_mem_whitespaceFindings {finding : Finding} (hnested : tree.IsNested)
    (htemplates : ∀ t, tree.IsNode t → t.kind = "template_string" → IsTemplate data t)
    (hstands : ∀ s ∈ Site.walk tree, Indent.concerns s = true → Indent.Stands data s.node.start)
    (h : finding ∈ whitespaceFindings o (.of (.ofBytes data) tree)) (hfix : finding.fix = some f)
    {t : Tree} {i : Nat} (ht : tree.IsNode t) (hkind : t.kind = "template_string") (hi : IsContent t i) :
    f.Spares i := by
  have htemplate := htemplates t ht hkind
  obtain hindent | htrailing := List.mem_append.mp h
  · exact Indent.spares_of_indent hnested hstands ht htemplate hi hindent hfix
  · exact Whitespace.spares_of_trailing ht hkind htemplate.last hi.1 htrailing hfix

/-- Fixes of whitespace are in range. -/
lemma inRange_of_mem_whitespaceFindings {finding : Finding}
    (h : finding ∈ whitespaceFindings o (.of (.ofBytes data) tree)) (hfix : finding.fix = some f) :
    f.InRange data := by
  have hlaysOut : f.LaysOut data := by
    obtain hindent | htrailing := List.mem_append.mp h
    · exact Check.laysOut_of_mem (show (Check.indent o).editsCode = false from rfl) hindent hfix
    · exact Check.laysOut_of_mem (show Check.noTrailingSpaces.editsCode = false from rfl) htrailing hfix
  obtain ⟨⟨start, stop, ⟨hstart, hstop⟩, hle, hlength, -⟩, -⟩ := hlaysOut
  unfold Fix.InRange
  omega

end both

/-- **Whitespace fixes spare templates.** No fix of `indent` or `no-trailing-spaces` covers a byte that belongs
to a template and to none of its substitutions. -/
theorem spares_template_of_mem {data : Bytes} {tree : Tree} (o : IndentOptions) (hnested : tree.IsNested)
    (htemplates : ∀ t, tree.IsNode t → t.kind = "template_string" → IsTemplate data t)
    (hstands : ∀ s ∈ Site.walk tree, Indent.concerns s = true → Indent.Stands data s.node.start)
    {f : Fix} (hf : f ∈ (Indent.check o (.of (.ofBytes data) tree) ++
      Whitespace.checkTrailing (.of (.ofBytes data) tree)).filterMap (·.fix)) {t : Tree} {i : Nat}
    (ht : tree.IsNode t) (hkind : t.kind = "template_string") (hi : IsContent t i) : f.Spares i := by
  obtain ⟨finding, hfinding, hfix⟩ := List.mem_filterMap.mp hf
  exact spares_of_mem_whitespaceFindings hnested htemplates hstands hfinding hfix ht hkind hi

/-- A template over several rows, with blanks at the end of a row and a function in a substitution. -/
def fencedTemplate : Tree where
  kind := "template_string"
  start := 0
  stop := 22
  children := [
    { kind := "\x60", start := 0, stop := 1, named := false },
    { kind := "string_fragment", start := 1, stop := 5 },
    { kind := "template_substitution", start := 5, stop := 21
      children := [
        { kind := "$\x7b", start := 5, stop := 7, named := false },
        { kind := "arrow_function", start := 7, stop := 20
          children := [
            { kind := "statement_block", start := 13, stop := 20, field := some "body"
              children := [
                { kind := "\x7b", start := 13, stop := 14, named := false },
                { kind := "expression_statement", start := 16, stop := 18 },
                { kind := "\x7d", start := 19, stop := 20, named := false }] }] },
        { kind := "\x7d", start := 20, stop := 21, named := false }] },
    { kind := "\x60", start := 21, stop := 22, named := false }]

/-- A statement that consists of the template. -/
def fencedTree : Tree where
  kind := "program"
  start := 0
  stop := 25
  children := [{ kind := "expression_statement", start := 0, stop := 23, children := [fencedTemplate] }]

/-- The row in the function is indented and the blanks behind the template are taken out, but not those in it,
and what is covered of the template is in its substitution. -/
theorem spares_template_of_mem_fenced :
    let data := encodeString "\x60a  \n$\x7b() => \x7b\n b;\n\x7d\x7d\x60;  "
    let fixes := (Indent.check ⟨.space, 4, 0⟩ (.of (.ofBytes data) fencedTree) ++
      Whitespace.checkTrailing (.of (.ofBytes data) fencedTree)).filterMap (·.fix)
    fixes = [⟨15, 16, [32, 32, 32, 32]⟩, ⟨23, 25, []⟩] ∧
      ∀ f ∈ fixes, ∀ i, IsContent fencedTemplate i → f.Spares i := by
  intro data fixes
  refine ⟨by decide +kernel, fun f hf i hi => ?_⟩
  have hnested : fencedTree.IsNested := by decide +kernel
  have hsites : ∀ s ∈ Site.walk fencedTree, s.node.kind = "template_string" → IsTemplate data s.node := by
    decide +kernel
  have hstands : ∀ s ∈ Site.walk fencedTree, Indent.concerns s = true →
      Indent.Stands data s.node.start := by decide +kernel
  have htemplates : ∀ t, fencedTree.IsNode t → t.kind = "template_string" → IsTemplate data t :=
    Tree.forall_isNode_iff.mpr hsites
  have hnode : fencedTree.IsNode fencedTemplate :=
    .child (.child .self List.mem_cons_self) List.mem_cons_self
  exact spares_template_of_mem ⟨.space, 4, 0⟩ hnested htemplates hstands hf hnode rfl hi

/-- So when fixes of the two rules are applied, the content of all templates is there as before, and in its
order. -/
theorem content_applyFixes {data : Bytes} {tree : Tree} (o : IndentOptions) (hnested : tree.IsNested)
    (htemplates : ∀ t, tree.IsNode t → t.kind = "template_string" → IsTemplate data t)
    (hstands : ∀ s ∈ Site.walk tree, Indent.concerns s = true → Indent.Stands data s.node.start)
    {findings : List Finding}
    (hfindings : ∀ finding ∈ findings, finding ∈ whitespaceFindings o (.of (.ofBytes data) tree)) :
    ∃ move : Nat → Nat, ∀ t, tree.IsNode t → t.kind = "template_string" → ∀ i, IsContent t i →
      (applyFixes data (findings.filterMap (·.fix))).1[move i]? = data[i]? ∧
        ∀ j, i < j → move i < move j := by
  have hfixes : ∀ f ∈ findings.filterMap (·.fix),
      ∃ finding ∈ whitespaceFindings o (.of (.ofBytes data) tree), finding.fix = some f := by
    intro f hf
    obtain ⟨finding, hfinding, hfix⟩ := List.mem_filterMap.mp hf
    exact ⟨finding, hfindings finding hfinding, hfix⟩
  have hrange : ∀ f ∈ findings.filterMap (·.fix), f.InRange data := by
    intro f hf
    obtain ⟨finding, hfinding, hfix⟩ := hfixes f hf
    exact inRange_of_mem_whitespaceFindings hfinding hfix
  obtain ⟨applied, hselects⟩ := Fix.exists_selects none ((findings.filterMap (·.fix)).mergeSort Fix.le)
  have hmem : ∀ f ∈ applied, f ∈ findings.filterMap (·.fix) :=
    fun f hf => List.mem_mergeSort.mp (hselects.sublist.subset hf)
  have hsep : Fix.Separate applied :=
    hselects.separate fun f hf => (hrange f (List.mem_mergeSort.mp hf)).2.1
  refine ⟨fun i => applied.foldr Fix.move i, fun t ht hkind i hi => ?_⟩
  have hspares : ∀ f ∈ applied, f.Spares i := by
    intro f hf
    obtain ⟨finding, hfinding, hfix⟩ := hfixes f (hmem f hf)
    exact spares_of_mem_whitespaceFindings hnested htemplates hstands hfinding hfix ht hkind hi
  have happlied : ∀ f ∈ applied, f.InRange data := fun f hf => hrange f (hmem f hf)
  rw [applyFixes_eq hrange hselects]
  exact ⟨getElem?_foldr_splice hsep happlied hspares, fun j hij =>
    foldr_move_lt hsep happlied hspares hij⟩

end Diagnosis.Lint
