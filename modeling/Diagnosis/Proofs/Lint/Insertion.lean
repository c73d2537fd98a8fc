import Diagnosis.Proofs.Lint.RuleFix

/-!
# Semicolons that are not wanted

A semicolon may be left out where automatic semicolon insertion puts it back: at the end of the text,
before a closing brace, and before a line break, unless the next line would continue the statement. When
`semi` wants no semicolons it looks at one thing only, the first byte behind the blanks.

* `IsRestored` says what follows a semicolon that insertion restores.
* `IsRunOn` says what follows one that is not restored, although nothing continues the statement: another
  statement on the same line.

**Which semicolons are reported** (`Semi.mem_check_never_iff`): those that insertion restores, and those
between two statements on one line. The second kind is not restored. Without the semicolon the two
statements are one, as a rule one that does not parse.
-/

namespace Diagnosis.Lint

open Diagnosis.Text Diagnosis.Syntax

/-! ## What follows an offset -/

/-- The byte of a closing brace. -/
def closingBrace : UInt8 := 125

/-- Whether behind an offset there are the given blanks, and then a rest that begins with none. -/
structure Follows (data : Bytes) (e : Nat) (blanks rest : Bytes) : Prop where
  /-- They make up what is behind the offset. -/
  split : data.drop e = blanks ++ rest
  /-- The blanks are. -/
  blank : ∀ b ∈ blanks, isBlankByte b = true
  /-- The rest does not begin with another one. -/
  ends : ∀ b ∈ rest.head?, isBlankByte b = false

/-- Whether automatic semicolon insertion restores a semicolon that ends at an offset. -/
inductive IsRestored (data : Bytes) (e : Nat) : Prop
  /-- The text ends there. -/
  | atEnd {blanks : Bytes} (follows : Follows data e blanks [])
  /-- A block ends there. -/
  | beforeBrace {blanks rest : Bytes} (follows : Follows data e blanks (closingBrace :: rest))
  /-- The line ends there, and what is on a later line does not continue the statement. -/
  | beforeLine {b : UInt8} {blanks rest : Bytes} (follows : Follows data e blanks (b :: rest))
      (breaks : ∃ x ∈ blanks, Whitespace.isLineEnd x = true) (begins : b ∉ Semi.continuations)

/-- Whether what follows an offset on the same line neither ends a block nor continues a statement. -/
inductive IsRunOn (data : Bytes) (e : Nat) : Prop
  | sameLine {b : UInt8} {blanks rest : Bytes} (follows : Follows data e blanks (b :: rest))
      (unbroken : ∀ x ∈ blanks, Whitespace.isLineEnd x = false) (closes : b ≠ closingBrace)
      (begins : b ∉ Semi.continuations)

section follows

variable {data blanks blanks' rest rest' : Bytes} {e : Nat}

/-- Behind every offset come some blanks, and then the rest. -/
lemma exists_follows (data : Bytes) (e : Nat) : ∃ blanks rest, Follows data e blanks rest := by
  refine ⟨(data.drop e).takeWhile isBlankByte, (data.drop e).dropWhile isBlankByte, ?_, ?_, ?_⟩
  · exact List.takeWhile_append_dropWhile.symm
  · exact fun b => List.mem_takeWhile_imp
  · intro b hb
    have hfirst := List.head?_dropWhile_not isBlankByte (data.drop e)
    rw [Option.mem_def.mp hb] at hfirst
    simpa using hfirst

/-- What is left without blanks is the rest. -/
lemma Follows.dropWhile_eq (h : Follows data e blanks rest) :
    (data.drop e).dropWhile isBlankByte = rest := by
  rw [h.split]
  exact (takeWhile_dropWhile_append h.blank h.ends).2

/-- The blanks that come first are those before the rest. -/
lemma Follows.takeWhile_eq (h : Follows data e blanks rest) :
    (data.drop e).takeWhile isBlankByte = blanks := by
  rw [h.split]
  exact (takeWhile_dropWhile_append h.blank h.ends).1

/-- There is one way to tell the blanks from the rest. -/
lemma Follows.unique (h : Follows data e blanks rest) (h' : Follows data e blanks' rest') :
    blanks = blanks' ∧ rest = rest' :=
  ⟨h.takeWhile_eq.symm.trans h'.takeWhile_eq, h.dropWhile_eq.symm.trans h'.dropWhile_eq⟩

/-- What runs on is not restored. -/
lemma IsRunOn.not_isRestored (h : IsRunOn data e) : ¬ IsRestored data e := by
  obtain ⟨follows, unbroken, closes, -⟩ := h
  rintro (⟨follows'⟩ | ⟨follows'⟩ | ⟨follows', ⟨x, hx, hbreak⟩, -⟩)
  · cases (follows.unique follows').2
  · exact closes (List.cons.inj (follows.unique follows').2).1
  · rw [← (follows.unique follows').1] at hx
    exact Bool.false_ne_true ((unbroken x hx).symm.trans hbreak)

/-- A statement that nothing continues runs on if insertion does not restore its semicolon. -/
lemma Semi.isContinued_eq_false_iff :
    Semi.isContinued data e = false ↔ IsRestored data e ∨ IsRunOn data e := by
  obtain ⟨blanks, rest, follows⟩ := exists_follows data e
  rw [Semi.isContinued, follows.dropWhile_eq]
  cases rest with
  | nil => exact iff_of_true rfl (.inl (.atEnd follows))
  | cons b rest =>
    have hnot : continuations.contains b = false ↔ b ∉ continuations := by
      rw [← Bool.not_eq_true, List.contains_iff_mem]
    rw [hnot]
    constructor
    · intro hb
      by_cases hbreak : ∃ x ∈ blanks, Whitespace.isLineEnd x = true
      · exact .inl (.beforeLine follows hbreak hb)
      · by_cases hclose : b = closingBrace
        · subst hclose
          exact .inl (.beforeBrace follows)
        · refine .inr (.sameLine follows (fun x hx => ?_) hclose hb)
          exact Bool.eq_false_iff.mpr fun h => hbreak ⟨x, hx, h⟩
    · -- every way to be reported names the byte behind the blanks
      rintro ((⟨follows'⟩ | ⟨follows'⟩ | ⟨follows', -, hb⟩) | ⟨follows', -, -, hb⟩)
      · cases (follows.unique follows').2
      · rw [(List.cons.inj (follows.unique follows').2).1]
        exact (by decide : closingBrace ∉ continuations)
      · rwa [(List.cons.inj (follows.unique follows').2).1]
      · rwa [(List.cons.inj (follows.unique follows').2).1]

end follows

/-! ## What is reported -/

/-- Whether a node is the last part of a statement that `semi` looks at. -/
def EndsStatement (tree last : Tree) : Prop :=
  ∃ s, IsSite tree s ∧ Semi.concerns s = true ∧ Semi.lastPart? s = some last

/-- A semicolon is reported as extra if nothing goes on behind it. -/
lemma Semi.atEnd_never_eq_some_iff {subject : Subject} {last : Tree} {finding : Finding} :
    Semi.atEnd subject .never last = some finding ↔
      last.kind = ";" ∧ Semi.isContinued subject.source.data last.stop = false ∧
        finding = Semi.extra subject last := by
  simp only [Semi.atEnd, Option.ite_none_right_eq_some, Option.some.injEq, Bool.and_eq_true,
    beq_iff_eq, Bool.not_eq_true', and_assoc, eq_comm (a := finding)]

/-- **Which semicolons are reported** when none are wanted, for every text and every tree: those that
insertion restores, and those between two statements on one line, which it does not restore. -/
theorem Semi.mem_check_never_iff (data : Bytes) (tree : Tree) :
    (∀ finding, finding ∈ Semi.check .never (.of (.ofBytes data) tree) ↔
      ∃ last, EndsStatement tree last ∧ last.kind = ";" ∧
        finding = Semi.extra (.of (.ofBytes data) tree) last ∧
        (IsRestored data last.stop ∨ IsRunOn data last.stop)) ∧
      ∀ e, IsRunOn data e → ¬ IsRestored data e := by
  refine ⟨fun finding => ⟨fun h => ?_, ?_⟩, fun e => IsRunOn.not_isRestored⟩
  · obtain ⟨s, hs, hfound⟩ := List.mem_filterMap.mp h
    obtain ⟨last, hlast, hend⟩ := Option.bind_eq_some_iff.mp hfound
    obtain ⟨hs, hconcerns⟩ := List.mem_filter.mp hs
    obtain ⟨hkind, hcontinued, rfl⟩ := Semi.atEnd_never_eq_some_iff.mp hend
    exact ⟨last, ⟨s, Site.mem_walk_iff.mp hs, hconcerns, hlast⟩, hkind, rfl,
      Semi.isContinued_eq_false_iff.mp hcontinued⟩
  · rintro ⟨last, ⟨s, hs, hconcerns, hlast⟩, hkind, rfl, hfollows⟩
    refine List.mem_filterMap.mpr
      ⟨s, List.mem_filter.mpr ⟨Site.mem_walk_iff.mpr hs, hconcerns⟩, Option.bind_eq_some_iff.mpr ?_⟩
    exact ⟨last, hlast, Semi.atEnd_never_eq_some_iff.mpr
      ⟨hkind, Semi.isContinued_eq_false_iff.mpr hfollows, rfl⟩⟩

end Diagnosis.Lint
