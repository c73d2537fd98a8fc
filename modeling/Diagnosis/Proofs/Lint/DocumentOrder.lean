import Diagnosis.Lint.SyntaxError
import Diagnosis.Proofs.Syntax.Move

/-!
# Document order and the first fault

The rules look at the nodes of a tree in the order in which the walk lists them, and a message about a text
that does not parse is about the fault that begins first. In a nested tree that is the first fault that the
walk lists: what is listed later begins no earlier (`culprit_eq_of_pairwise`).

**The walk is in document order** (`walk_inDocumentOrder`): it lists every site once, as the recursion over the
tree does; if the tree is nested, the sites are listed in the order in which they begin, and the first fault
listed begins before all others and is the one that the message is about.
-/

namespace Diagnosis.Lint

open Diagnosis.Syntax

namespace SyntaxError

/-- Of several nodes in the order in which they begin, the first is the earliest. -/
lemma earliest?_eq_head? {ts : List Tree} (h : ts.Pairwise (·.start ≤ ·.start)) :
    earliest? ts = ts.head? := by
  induction ts with
  | nil => rfl
  | cons t ts ih =>
    obtain ⟨hfirst, hrest⟩ := List.pairwise_cons.mp h
    rw [earliest?, ih hrest]
    cases ts with
    | nil => rfl
    | cons u ts => exact if_neg (Nat.not_lt.mpr (hfirst u List.mem_cons_self))

/-- If sites are listed in the order in which they begin, the message is about the first fault listed. -/
lemma culprit_eq_of_pairwise {sites : List Site} (root : Tree)
    (h : sites.Pairwise (·.node.start ≤ ·.node.start)) :
    culprit sites root = ((sites.find? (isCulprit ·.node)).map (·.node)).getD root := by
  have hnodes : (sites.map (·.node)).Pairwise (·.start ≤ ·.start) := List.pairwise_map.mpr h
  rw [culprit, earliest?_eq_head? (hnodes.filter isCulprit), List.head?_filter, List.find?_map]
  rfl

/-- If sites are listed in the order in which they begin, no fault begins before the first that is listed. -/
lemma start_le_of_find? {sites : List Site} {c s : Site}
    (h : sites.Pairwise (·.node.start ≤ ·.node.start))
    (hc : sites.find? (isCulprit ·.node) = some c) (hs : s ∈ sites) (hfault : isCulprit s.node = true) :
    c.node.start ≤ s.node.start := by
  obtain ⟨-, before, after, rfl, hbefore⟩ := List.find?_eq_some_iff_append.mp hc
  obtain hs | hs := List.mem_append.mp hs
  · exact absurd hfault (by simpa using hbefore s hs)
  · obtain rfl | hs := List.mem_cons.mp hs
    · exact Nat.le_refl _
    · exact (List.pairwise_cons.mp (List.pairwise_append.mp h).2.1).1 s hs

/-- **The walk is in document order.** It lists what the recursion over the tree lists, in the same order, and
thereby every site of the tree once. If the tree is nested, no site begins before one that is listed earlier;
so of all faults the first that is listed begins first, and it is the one that the message is about. -/
theorem walk_inDocumentOrder (t : Tree) :
    Site.walk t = (Site.root t).preorder ∧
      (∀ s, s ∈ Site.walk t ↔ IsSite t s) ∧ ((Site.walk t).map (·.address)).Nodup ∧
      (t.IsNested →
        (Site.walk t).Pairwise (·.node.start ≤ ·.node.start) ∧
          ∀ c, (Site.walk t).find? (isCulprit ·.node) = some c →
            (∀ s, IsSite t s → isCulprit s.node = true → c.node.start ≤ s.node.start) ∧
              culprit (Site.walk t) t = c.node) := by
  have horder := Site.walk_eq_preorder t
  refine ⟨horder, fun s => Site.mem_walk_iff, ?_, fun hnested => ?_⟩
  · rw [horder]
    exact Site.nodup_preorder _
  · have hstarts := hnested.pairwise_walk
    refine ⟨hstarts, fun c hc => ⟨fun s hs hfault => ?_, ?_⟩⟩
    · exact start_le_of_find? hstarts hc (Site.mem_walk_iff.mpr hs) hfault
    · rw [culprit_eq_of_pairwise t hstarts, hc]
      rfl

/-- What stands for the closing bracket in the text `a ] f(`. -/
def strayBracket : Tree :=
  { kind := Tree.errorKind, start := 2, stop := 3
    children := [{ kind := "]", start := 2, stop := 3, named := false }] }

/-- The tree of the text `a ] f(`: what closes nothing is a fault, and so is the parenthesis that is missing. -/
def strayTree : Tree :=
  { kind := "program", start := 0, stop := 6
    children := [
      { kind := "identifier", start := 0, stop := 1 }, strayBracket,
      { kind := "call_expression", start := 4, stop := 6
        children := [
          { kind := "identifier", start := 4, stop := 5, field := some "function" },
          { kind := "arguments", start := 5, stop := 6, field := some "arguments"
            children := [
              { kind := "(", start := 5, stop := 6, named := false },
              { kind := ")", start := 6, stop := 6, named := false, missing := true }] }] }] }

/-- Of the two faults of `a ] f(` the message is about the bracket. -/
theorem walk_inDocumentOrder_stray :
    let bracket : Site := .child (.root strayTree) 1 strayBracket
    strayTree.IsNested ∧ (Site.walk strayTree).find? (isCulprit ·.node) = some bracket ∧
      ((Site.walk strayTree).filter (isCulprit ·.node)).length = 2 ∧
      (∀ s, IsSite strayTree s → isCulprit s.node = true → bracket.node.start ≤ s.node.start) ∧
      culprit (Site.walk strayTree) strayTree = strayBracket := by
  intro bracket
  obtain ⟨horder, -, -, hnested⟩ := walk_inDocumentOrder strayTree
  have h : strayTree.IsNested := by decide +kernel
  have hfirst : (Site.walk strayTree).find? (isCulprit ·.node) = some bracket := by
    rw [horder]
    rfl
  obtain ⟨hleast, hculprit⟩ := (hnested h).2 bracket hfirst
  exact ⟨h, hfirst, by decide +kernel, hleast, hculprit⟩

end SyntaxError

end Diagnosis.Lint
