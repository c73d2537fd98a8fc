import Diagnosis.Proofs.Lint.Realign
import Diagnosis.Proofs.Syntax.Move

/-!
# Indentation is mended in one pass

The rule `indent` expects something of each row that a construct opens, and counts from what it expects
of, or finds on, the row where the parent begins. So a fix could in principle change what is expected
further down; that it does not is shown in three steps.

* The rule settles rows one after the other (`settle`). Later rows lie further down
  (`pairwise_settle`), so the fixes are separate and are all applied.
* What stands on a row behind its indentation stays there, and opens the row or not as before
  (`realigned_rows`).
* On the text so mended, with the offsets of the tree moved along, the same rows are settled in the same
  way (`settle_moveBy`). A row from which something was counted although nothing was expected there is
  never settled later, since a construct that begins behind its parent on the same row does not open it;
  so its indentation is what it was.
-/

namespace Diagnosis.Lint

open Diagnosis.Text Diagnosis.Syntax

namespace Indent

variable {src : Source} {o : IndentOptions} {expected : Expected} {sites : List Site} {s : Site}

/-! ## The rows that are settled -/

/-- What a site settles: its row and what is expected there, unless it is not the first to open it. -/
def settled? (src : Source) (o : IndentOptions) (expected : Expected) (s : Site) :
    Option (Nat × Nat) :=
  let start := src.startPoint s.node
  if !concerns s || (expected.lookup start.row).isSome || !src.startsLine start then none
  else (expectedAt src o expected s).map (start.row, ·)

/-- The rows that sites settle one after the other. -/
def settle (src : Source) (o : IndentOptions) (expected : Expected) : List Site → Expected
  | [] => []
  | s :: ss =>
    match settled? src o expected s with
    | none => settle src o expected ss
    | some r => r :: settle src o (r :: expected) ss

/-- The rule looks at the rows that are settled. -/
lemma checkFrom_eq : checkFrom src o expected sites =
    (settle src o expected sites).filterMap fun r => finding? src o r.1 r.2 := by
  induction sites generalizing expected with
  | nil => rfl
  | cons s sites ih =>
    rw [checkFrom, settle, settled?]
    split
    · exact ih
    · cases expectedAt src o expected s with
      | none => exact ih
      | some n =>
        rw [Option.map_some]
        dsimp only
        rw [List.filterMap_cons, ih]
        cases finding? src o (src.startPoint s.node).row n <;> rfl

/-- No indentation is expected of a row that is not listed. -/
lemma lookup_eq_none_iff {rows : Expected} {row : Nat} :
    rows.lookup row = none ↔ ∀ r ∈ rows, r.1 ≠ row := by
  rw [List.lookup_eq_none_iff]
  simp only [bne_iff_ne, ne_comm]

/-- No indentation is expected of a row if none is listed for it, first or later. -/
lemma lookup_cons_eq_none_iff {rows : Expected} {r : Nat × Nat} {row : Nat} :
    (r :: rows : Expected).lookup row = none ↔ r.1 ≠ row ∧ rows.lookup row = none := by
  rw [lookup_eq_none_iff, lookup_eq_none_iff, List.forall_mem_cons]

/-- Whether a site is the first to open its row, and the rule looks at it. -/
structure Opens (src : Source) (expected : Expected) (s : Site) (row : Nat) : Prop where
  concerned : concerns s = true
  fresh : expected.lookup row = none
  startsLine : src.startsLine (src.startPoint s.node) = true
  row_eq : (src.startPoint s.node).row = row

/-- A node that settles the indentation of a row opens it. -/
lemma opens_of_settled? {r : Nat × Nat} (h : settled? src o expected s = some r) :
    Opens src expected s r.1 := by
  unfold settled? at h
  dsimp only at h
  split at h
  case isTrue => exact absurd h nofun
  case isFalse hopens =>
    simp only [Bool.or_eq_true, Bool.not_eq_true', not_or, Bool.not_eq_false, Bool.not_eq_true,
      Option.isSome_eq_false_iff, Option.isNone_iff_eq_none] at hopens
    obtain ⟨n, -, rfl⟩ := Option.map_eq_some_iff.mp h
    exact ⟨hopens.1.1, hopens.1.2, hopens.2, rfl⟩

/-- Each settled row is opened by one of the sites. -/
lemma exists_opens {r : Nat × Nat} (h : r ∈ settle src o expected sites) :
    ∃ s ∈ sites, Opens src expected s r.1 := by
  induction sites generalizing expected with
  | nil => exact absurd h List.not_mem_nil
  | cons s sites ih =>
    rw [settle] at h
    split at h
    case h_1 =>
      obtain ⟨m, hm, hopens⟩ := ih h
      exact ⟨m, List.mem_cons_of_mem s hm, hopens⟩
    case h_2 r' hsettled =>
      obtain rfl | h := List.mem_cons.mp h
      · exact ⟨s, List.mem_cons_self, opens_of_settled? hsettled⟩
      · obtain ⟨m, hm, hopens⟩ := ih h
        have hfresh := (lookup_cons_eq_none_iff.mp hopens.fresh).2
        exact ⟨m, List.mem_cons_of_mem s hm,
          ⟨hopens.concerned, hfresh, hopens.startsLine, hopens.row_eq⟩⟩

/-- Rows are settled from the top of the text to the bottom. -/
lemma pairwise_settle {data : Bytes} (h : sites.Pairwise (·.node.start ≤ ·.node.start)) :
    (settle (.ofBytes data) o expected sites).Pairwise (·.1 < ·.1) := by
  induction sites generalizing expected with
  | nil => exact .nil
  | cons s sites ih =>
    obtain ⟨hfirst, hsites⟩ := List.pairwise_cons.mp h
    rw [settle]
    split
    case h_1 => exact ih hsites
    case h_2 r hsettled =>
      refine List.pairwise_cons.mpr ⟨fun r' hr' => ?_, ih hsites⟩
      obtain ⟨m, hm, hopens⟩ := exists_opens hr'
      have hle := Source.row_point_mono data (hfirst m hm)
      have hrow : _ = r.1 := (opens_of_settled? hsettled).row_eq
      have hrow' : _ = r'.1 := hopens.row_eq
      have hne := (lookup_cons_eq_none_iff.mp hopens.fresh).1
      unfold Source.startPoint at hrow hrow'
      omega

/-- If every row is listed once, a listed indentation is the one expected. -/
lemma lookup_of_mem {rows : Expected} (h : rows.Pairwise (·.1 < ·.1)) {r : Nat × Nat}
    (hr : r ∈ rows) : rows.lookup r.1 = some r.2 := by
  induction rows with
  | nil => exact absurd hr List.not_mem_nil
  | cons r' rows ih =>
    obtain ⟨hlt, hrows⟩ := List.pairwise_cons.mp h
    rw [List.lookup_cons]
    obtain rfl | hr := List.mem_cons.mp hr
    · rw [beq_self_eq_true]
    · rw [beq_eq_false_iff_ne.mpr (Nat.ne_of_gt (hlt r hr))]
      exact ih hrows hr

/-- The fixes of the findings are those of the settled rows. -/
lemma fixes_checkFrom : (checkFrom src o expected sites).filterMap (·.fix) =
    (settle src o expected sites).filterMap (rowFix? src o) := by
  rw [checkFrom_eq, List.filterMap_filterMap]
  exact List.filterMap_congr fun r _ => fix_finding? src o r

/-- Every finding on indentation has a fix. -/
lemma isSome_fix_of_mem {f : Finding} (h : f ∈ checkFrom src o expected sites) : f.fix.isSome := by
  rw [checkFrom_eq] at h
  obtain ⟨r, -, hr⟩ := List.mem_filterMap.mp h
  unfold finding? at hr
  dsimp only at hr
  split at hr
  · exact absurd hr nofun
  · rw [← Option.some.inj hr]
    rfl

/-! ## The second run -/

/-- Whether a site is found in a text where it begins: there is a byte that is no blank, and so there is
at the beginning of the parent, which comes before, unless that is the program. -/
structure Grounded (data : Bytes) (s : Site) : Prop where
  stands : Stands data s.node.start
  parent : ∀ p ∈ s.parent?, p.kind ≠ "program" → Stands data p.node.start ∧ p.node.start < s.node.start

/-- Whether a node is grounded is a matter of where it stands, and where its parent does. -/
lemma grounded_iff {data : Bytes} : Grounded data s ↔ Stands data s.node.start ∧
    ∀ p ∈ s.parent?, p.kind ≠ "program" →
      Stands data p.node.start ∧ p.node.start < s.node.start :=
  ⟨fun h => ⟨h.stands, h.parent⟩, fun h => ⟨h.1, h.2⟩⟩

instance (data : Bytes) (s : Site) : Decidable (Grounded data s) :=
  decidable_of_iff _ grounded_iff.symm

section moved

variable (move : Nat → Nat)

/-- Moving a node does not change whether its indentation is checked. -/
@[simp]
lemma concerns_moveBy (s : Site) : concerns (s.moveBy move) = concerns s := by
  unfold concerns
  rw [Site.kind_moveBy, Site.parentKind?_moveBy]

/-- Moving a node does not change whether it is a body without braces. -/
@[simp]
lemma isBracelessBody_moveBy (s p : Site) :
    isBracelessBody (s.moveBy move) (p.moveBy move) = isBracelessBody s p := by
  have hrole : (s.moveBy move).hasRole = s.hasRole := funext fun _ => Site.hasRole_moveBy ..
  unfold isBracelessBody
  rw [Site.kind_moveBy, Site.kind_moveBy, hrole]

/-- What is expected of a moved site is what is expected of the site, if the same level is found where
the parent begins. -/
lemma expectedAt_moveBy {src' : Source} (h : ∀ p ∈ s.parent?, p.kind ≠ "program" →
      level src' expected (src'.startPoint (p.moveBy move).node).row =
        level src expected (src.startPoint p.node).row) :
    expectedAt src' o expected (s.moveBy move) = expectedAt src o expected s := by
  unfold expectedAt
  rw [Site.parent?_moveBy]
  cases hparent : s.parent? with
  | none => rfl
  | some p =>
    rw [Option.map_some]
    dsimp only
    rw [Site.kind_moveBy, Site.kind_moveBy, isBracelessBody_moveBy]
    by_cases hprogram : p.kind = "program"
    · rw [hprogram]
      rfl
    · rw [h p hparent hprogram]

end moved

section again

variable {data data' : Bytes} {move : Nat → Nat}

/-- A row on which the parent of a site begins is not settled at the site or later. -/
lemma lookup_settle_eq_none {p : Site} (hsites : (s :: sites).Pairwise (·.node.start ≤ ·.node.start))
    (hp : Stands data p.node.start) (hlt : p.node.start < s.node.start) :
    (settle (.ofBytes data) o expected (s :: sites)).lookup
      ((Source.ofBytes data).startPoint p.node).row = none := by
  refine lookup_eq_none_iff.mpr fun r hr hrow => ?_
  obtain ⟨m, hm, hopens⟩ := exists_opens hr
  obtain ⟨b, hb, hblank⟩ := Option.map_eq_some_iff.mp hp
  have hle : s.node.start ≤ m.node.start := by
    obtain rfl | hm := List.mem_cons.mp hm
    · exact Nat.le_refl _
    · exact (List.pairwise_cons.mp hsites).1 m hm
  have hnot := Source.not_startsLine_of_lt hb hblank (Nat.lt_of_lt_of_le hlt hle)
    (hrow.symm.trans hopens.row_eq.symm)
  exact Bool.false_ne_true (hnot.symm.trans hopens.startsLine)

/-- A moved site settles what the site settles. -/
lemma settled?_moveBy (o : IndentOptions) (hstays : ∀ i, Stands data i → Stays data data' i (move i))
    (hgrounded : concerns s = true → Grounded data s)
    (hother : ∀ p : Site, Stands data p.node.start → p.node.start < s.node.start →
      expected.lookup ((Source.ofBytes data).startPoint p.node).row = none →
      (Source.ofBytes data').indentation ((Source.ofBytes data).startPoint p.node).row =
        (Source.ofBytes data).indentation ((Source.ofBytes data).startPoint p.node).row) :
    settled? (.ofBytes data') o expected (s.moveBy move) = settled? (.ofBytes data) o expected s := by
  have hstart : ∀ m : Site, (Source.ofBytes data').startPoint (m.moveBy move).node =
      (Source.ofBytes data').point (move m.node.start) := fun m => by
    rw [Site.node_moveBy, Source.startPoint, Tree.start_moveBy]
  unfold settled?
  rw [concerns_moveBy, hstart]
  by_cases hconcerns : concerns s = true
  · obtain ⟨hstands, hparent⟩ := hgrounded hconcerns
    obtain ⟨-, hrow, hstartsLine⟩ := hstays _ hstands
    have hexpected : expectedAt (.ofBytes data') o expected (s.moveBy move) =
        expectedAt (.ofBytes data) o expected s := by
      refine expectedAt_moveBy move fun p hp hprogram => ?_
      obtain ⟨hstands, hlt⟩ := hparent p hp hprogram
      have hrow : ((Source.ofBytes data').startPoint (p.moveBy move).node).row =
          ((Source.ofBytes data).startPoint p.node).row := by
        rw [hstart]
        exact (hstays _ hstands).row
      rw [hrow, level, level]
      cases hlookup : expected.lookup ((Source.ofBytes data).startPoint p.node).row with
      | some n => rfl
      | none => rw [hother p hstands hlt hlookup]
    dsimp only
    rw [hexpected, hrow, hstartsLine]
    rfl
  · rw [Bool.not_eq_true] at hconcerns
    rw [hconcerns]
    rfl

/-- **The second run.** If what stands in the text has stayed, and rows that are not settled have kept
their indentation, then the moved sites settle what the sites settled. -/
lemma settle_moveBy (hsites : sites.Pairwise (·.node.start ≤ ·.node.start))
    (hgrounded : ∀ s ∈ sites, concerns s = true → Grounded data s)
    (hstays : ∀ i, Stands data i → Stays data data' i (move i))
    (hother : ∀ row, expected.lookup row = none →
      (settle (.ofBytes data) o expected sites).lookup row = none →
      (Source.ofBytes data').indentation row = (Source.ofBytes data).indentation row) :
    settle (.ofBytes data') o expected (sites.map (·.moveBy move)) =
      settle (.ofBytes data) o expected sites := by
  induction sites generalizing expected with
  | nil => rfl
  | cons s sites ih =>
    have hsettled := settled?_moveBy o hstays
      (hgrounded s List.mem_cons_self) fun p hp hlt hfresh =>
        hother _ hfresh (lookup_settle_eq_none hsites hp hlt)
    obtain ⟨-, hrest⟩ := List.pairwise_cons.mp hsites
    have hgrounded' : ∀ m ∈ sites, concerns m = true → Grounded data m :=
      fun m hm => hgrounded m (List.mem_cons_of_mem s hm)
    rw [List.map_cons, settle, settle, hsettled]
    rw [settle] at hother
    split
    case h_1 hnone =>
      rw [hnone] at hother
      exact ih hrest hgrounded' hother
    case h_2 r hsome =>
      rw [hsome] at hother
      congr 1
      refine ih hrest hgrounded' fun row hrow hlater => ?_
      obtain ⟨hne, hfresh⟩ := lookup_cons_eq_none_iff.mp hrow
      exact hother row hfresh (lookup_cons_eq_none_iff.mpr ⟨hne, hlater⟩)

end again

/-- **Indentation is mended in one pass.** For a nested tree whose constructs are found in the text where
they begin, each behind its parent: every finding has a fix, the fixes are applied all together, and on
the text that they make, with the tree moved along, nothing is found. -/
theorem check_applyFixes_eq_nil {data : Bytes} {tree : Tree} (o : IndentOptions)
    (hnested : tree.IsNested)
    (hgrounded : ∀ s ∈ Site.walk tree, concerns s = true → Grounded data s) :
    let findings := check o (.of (.ofBytes data) tree)
    let fixes := findings.filterMap (·.fix)
    let moved := tree.moveBy fun i => fixes.foldr Fix.move i
    (∀ f ∈ findings, f.fix.isSome) ∧
      (applyFixes data fixes).2 = fixes.length ∧
      Fix.Rewrites data fixes (applyFixes data fixes).1 ∧
      check o (.of (.ofBytes (applyFixes data fixes).1) moved) = [] := by
  intro findings fixes moved
  have hsorted := hnested.pairwise_walk
  obtain ⟨rows, hrows⟩ : ∃ rows, settle (.ofBytes data) o [] (Site.walk tree) = rows := ⟨_, rfl⟩
  have hpairwise : rows.Pairwise (·.1 < ·.1) := hrows ▸ pairwise_settle hsorted
  have hlt : ∀ r ∈ rows, r.1 < (Source.ofBytes data).lines.length := fun r hr => by
    obtain ⟨s, -, hopens⟩ := exists_opens (hrows ▸ hr)
    exact hopens.row_eq ▸ Source.point_row_lt data s.node.start
  have hfixes : fixes = rows.filterMap (rowFix? (.ofBytes data) o) := hrows ▸ fixes_checkFrom
  have hrange : ∀ f ∈ fixes, f.InRange data := fun f hf => by
    obtain ⟨r, hr, hfix⟩ := List.mem_filterMap.mp (hfixes ▸ hf)
    exact eq_of_rowFix? hfix ▸ inRange_rowFix (hlt r hr)
  have hseparate : Fix.Separate fixes := hfixes ▸ separate_rowFix hpairwise hlt
  have hrealigned : Realigned o rows data (fixes.foldr Fix.splice data) fun i => fixes.foldr Fix.move i :=
    hfixes ▸ realigned_rows hpairwise hlt
  have hindentation := indentation_realign hrealigned.lines hlt
  rw [applyFixes_of_separate hrange hseparate]
  refine ⟨fun f hf => isSome_fix_of_mem hf, rfl, Fix.rewrites_foldr_splice hseparate hrange, ?_⟩
  -- the second run settles the same rows, and each has the indentation that is expected of it
  have hagain : settle (.ofBytes (fixes.foldr Fix.splice data)) o [] (Site.walk moved) = rows := by
    rw [Site.walk_moveBy, settle_moveBy hsorted hgrounded hrealigned.stays fun row _ hnone => ?_, hrows]
    rw [hindentation, ← hrows, hnone, Option.map_none, Option.getD_none]
  change checkFrom (.ofBytes (fixes.foldr Fix.splice data)) o [] (Site.walk moved) = []
  rw [checkFrom_eq, hagain, List.filterMap_eq_nil_iff]
  intro r hr
  have hrow := hindentation r.1
  rw [lookup_of_mem hpairwise hr, Option.map_some, Option.getD_some] at hrow
  rw [finding?, if_pos hrow]

/-- Blocks in one another, of which all rows but one are out of place. -/
def crookedText : Bytes := encodeString "\x7b\n   x;\n\tif (y) \x7b\nz;\n  \x7d\n \x7d"

/-- The tree of the text. -/
def crookedTree : Tree where
  kind := "program"
  start := 0
  stop := 27
  children := [
    { kind := "statement_block", start := 0, stop := 27
      children := [{ kind := "\x7b", start := 0, stop := 1, named := false },
        { kind := "expression_statement", start := 5, stop := 7 },
        { kind := "if_statement", start := 9, stop := 24
          children := [{ kind := "if", start := 9, stop := 11, named := false },
            { kind := "parenthesized_expression", start := 12, stop := 15 },
            { kind := "statement_block", start := 16, stop := 24, field := some "consequence"
              children := [{ kind := "\x7b", start := 16, stop := 17, named := false },
                { kind := "expression_statement", start := 18, stop := 20 },
                { kind := "\x7d", start := 23, stop := 24, named := false }] }] },
        { kind := "\x7d", start := 26, stop := 27, named := false }] }]

/-- The fixes of the rows: the last but one is as it should be. -/
def crookedFixes : List Fix :=
  [⟨2, 5, [32, 32]⟩, ⟨8, 9, [32, 32]⟩, ⟨18, 18, [32, 32, 32, 32]⟩, ⟨25, 26, []⟩]

/-- Four rows are mended at once. -/
theorem check_applyFixes_eq_nil_crooked :
    crookedTree.IsNested ∧
      (∀ s ∈ Site.walk crookedTree, concerns s = true → Grounded crookedText s) ∧
      (check ⟨.space, 2, 0⟩ (.of (.ofBytes crookedText) crookedTree)).filterMap (·.fix) = crookedFixes ∧
      (applyFixes crookedText crookedFixes).2 = 4 ∧
      check ⟨.space, 2, 0⟩ (.of (.ofBytes (applyFixes crookedText crookedFixes).1)
        (crookedTree.moveBy fun i => crookedFixes.foldr Fix.move i)) = [] := by
  have hnested : crookedTree.IsNested := by decide +kernel
  have hgrounded : ∀ s ∈ Site.walk crookedTree, concerns s = true → Grounded crookedText s := by
    decide +kernel
  have hfixes : (check ⟨.space, 2, 0⟩ (.of (.ofBytes crookedText) crookedTree)).filterMap (·.fix) =
      crookedFixes := by
    decide +kernel
  obtain ⟨-, hcount, -, hnone⟩ := check_applyFixes_eq_nil ⟨.space, 2, 0⟩ hnested hgrounded
  rw [hfixes] at hcount hnone
  exact ⟨hnested, hgrounded, hfixes, hcount, hnone⟩

end Indent

end Diagnosis.Lint
