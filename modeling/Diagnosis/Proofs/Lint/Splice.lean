import Diagnosis.Proofs.Lint.Edit
import Diagnosis.Proofs.Text.Lines
import Mathlib.Tactic.Common

/-!
# Which fixes are applied, and what they make of a text

Fixes are taken in the order of their ranges, and one after the other either applied or left out.

* `Fix.Selects` says which: the first is applied, and of the others each that begins strictly behind
  the end of the one applied before it.
* `Fix.splice` is what one fix does to a text, `Fix.move` what it does to the offsets of the text.
  Applied fixes are spliced in one by one, the last of the text first, so that each finds the text
  before it as it was (`applyFrom_eq`).

`applyFixes_greedy` is the whole of it: the selection, the text, the count, and that the order in which
the fixes are given makes no difference. Both parts of the loop are proved at once, by one induction over
the fixes; that the other bytes stay (`getElem?_foldr_splice`) and that they keep their order
(`foldr_move_lt`) follow from what a single fix does.
-/

namespace Diagnosis.Lint

open Diagnosis.Text Diagnosis.Syntax

/-! ## One fix -/

namespace Fix

/-- Whether the range of a fix lies in a text and does not end before it begins. -/
def InRange (data : Bytes) (f : Fix) : Prop := 0 ≤ f.start ∧ f.start ≤ f.stop ∧ f.stop ≤ data.length

instance (data : Bytes) (f : Fix) : Decidable (f.InRange data) :=
  inferInstanceAs (Decidable (_ ∧ _ ∧ _))

/-- The text with the range of a fix replaced. -/
def splice (f : Fix) (data : Bytes) : Bytes :=
  data.take f.start.toNat ++ f.text ++ data.drop f.stop.toNat

/-- How many bytes a text gains by a fix. -/
def growth (f : Fix) : Int := f.text.length - (f.stop - f.start)

/-- Where an offset comes to lie when a fix is applied. What is behind the range moves along with the
text behind it; an offset inside comes to lie where the range begins. -/
def move (f : Fix) (i : Nat) : Nat :=
  if f.stop ≤ i then i - (f.stop.toNat - f.start.toNat) + f.text.length else min i f.start.toNat

/-- Whether an offset is that of a byte which a fix does not replace. -/
def Spares (f : Fix) (i : Nat) : Prop := (i : Int) < f.start ∨ f.stop ≤ i

variable {data : Bytes} {f : Fix}

/-- A fix in range covers a stretch of the text. -/
lemma InRange.exists_covers (h : f.InRange data) :
    ∃ start stop, f.Covers start stop ∧ start ≤ stop ∧ stop ≤ data.length := by
  obtain ⟨hstart, hle, hstop⟩ := h
  refine ⟨f.start.toNat, f.stop.toNat, ⟨?_, ?_⟩, ?_, ?_⟩ <;> omega

section covers

variable {start stop : Nat} (h : f.Covers start stop)
include h

/-- The parts of a spliced text. -/
lemma Covers.splice_eq (data : Bytes) :
    f.splice data = data.take start ++ f.text ++ data.drop stop := by
  unfold splice
  rw [h.1, h.2, Int.toNat_natCast, Int.toNat_natCast]

/-- Where an offset comes to lie depends on whether it is behind the stretch. -/
lemma Covers.move_eq (i : Nat) :
    f.move i = if stop ≤ i then i - (stop - start) + f.text.length else min i start := by
  unfold move
  rw [h.1, h.2, Int.toNat_natCast, Int.toNat_natCast]
  simp only [Int.ofNat_le]

/-- An offset is spared if it is outside of the stretch. -/
lemma Covers.spares_iff {i : Nat} : f.Spares i ↔ i < start ∨ stop ≤ i := by
  unfold Spares
  rw [h.1, h.2, Int.ofNat_lt, Int.ofNat_le]

end covers

/-- What a fix makes of a text whose middle part it replaces. -/
lemma splice_append {before middle after : Bytes} (hdata : data = before ++ middle ++ after)
    (hf : f.Covers before.length (before.length + middle.length)) :
    f.splice data = before ++ f.text ++ after := by
  rw [hdata, hf.splice_eq, ← List.length_append, List.drop_left, List.append_assoc before,
    List.take_left]

/-- A fix inside a row puts another line in its place, and leaves the other rows as they are. -/
lemma lines_splice {row : Nat} {front middle back : Bytes}
    (hrow : row < (Source.ofBytes data).lines.length)
    (hline : (Source.ofBytes data).line row = front ++ middle ++ back)
    (hf : f.Covers ((Source.ofBytes data).rowStart row + front.length)
      ((Source.ofBytes data).rowStart row + front.length + middle.length))
    (htext : lineFeed ∉ f.text) :
    (Source.ofBytes (f.splice data)).lines =
      (Source.ofBytes data).lines.set row (front ++ f.text ++ back) := by
  obtain ⟨before, after, hdata, hlen, -, hset⟩ := Source.exists_row_set hrow
  have hunbroken : lineFeed ∉ front ++ middle ++ back := by
    rw [← hline]
    exact Source.lineFeed_not_mem_line hrow
  have hsplit : data = before ++ front ++ middle ++ (back ++ after) := by
    rw [hline] at hdata
    simpa using hdata
  have hcovers : f.Covers (before ++ front).length ((before ++ front).length + middle.length) := by
    rw [List.length_append, hlen]
    exact hf
  have hnew : lineFeed ∉ front ++ f.text ++ back := by
    simp only [List.mem_append, not_or] at hunbroken ⊢
    exact ⟨⟨hunbroken.1.1, htext⟩, hunbroken.2⟩
  rw [splice_append hsplit hcovers, ← hset _ hnew]
  simp

/-- A fix makes the text grow by the growth of the fix. -/
lemma length_splice (h : f.InRange data) : ((f.splice data).length : Int) = data.length + f.growth := by
  obtain ⟨start, stop, hcovers, hle, hlen⟩ := h.exists_covers
  unfold growth
  rw [hcovers.splice_eq, hcovers.1, hcovers.2]
  simp only [List.length_append, List.length_take, List.length_drop]
  omega

/-- A fix leaves what is before its range as it is. -/
lemma take_splice {k : Nat} (hk : (k : Int) ≤ f.start) (hlen : k ≤ data.length) :
    (f.splice data).take k = data.take k := by
  have hle : k ≤ (data.take f.start.toNat).length := by
    rw [List.length_take]
    omega
  unfold splice
  rw [List.append_assoc, List.take_append_of_le_length hle, List.take_take,
    Nat.min_eq_left (by omega)]

/-- A fix keeps every byte that it does not replace. -/
lemma getElem?_splice (h : f.InRange data) {i : Nat} (hi : f.Spares i) :
    (f.splice data)[f.move i]? = data[i]? := by
  obtain ⟨start, stop, hcovers, hle, hlen⟩ := h.exists_covers
  have htake : (data.take start).length = start := by
    rw [List.length_take]
    omega
  rw [hcovers.splice_eq, hcovers.move_eq]
  rcases hcovers.spares_iff.mp hi with hbefore | hbehind
  · rw [if_neg (by omega), Nat.min_eq_left (Nat.le_of_lt hbefore), List.append_assoc,
      List.getElem?_append_left (by omega), List.getElem?_take_of_lt hbefore]
  · -- the byte is found in the part behind the range
    rw [if_pos hbehind, List.getElem?_append_right (by rw [List.length_append, htake]; omega),
      List.getElem?_drop, List.length_append, htake]
    congr 1
    omega

/-- A byte that a fix does not replace stays in front of all that is behind it. -/
lemma move_lt (h : f.InRange data) {i j : Nat} (hi : f.Spares i) (hij : i < j) :
    f.move i < f.move j := by
  obtain ⟨start, stop, hcovers, hle, -⟩ := h.exists_covers
  rw [hcovers.spares_iff] at hi
  rw [hcovers.move_eq, hcovers.move_eq]
  split_ifs <;> omega

/-- A fix that begins behind an offset leaves it where it is. -/
lemma move_of_lt {i : Nat} (hle : f.start ≤ f.stop) (hi : (i : Int) < f.start) : f.move i = i := by
  unfold move
  rw [if_neg (by omega)]
  omega

end Fix

/-! ## The order of fixes -/

namespace Fix

/-- Fixes are ordered by their starts, and then by their stops. -/
lemma le_iff {a b : Fix} :
    Fix.le a b = true ↔ a.start < b.start ∨ a.start = b.start ∧ a.stop ≤ b.stop := by
  simp [Fix.le]

/-- The order of fixes is transitive. -/
lemma le_trans (a b c : Fix) (hab : Fix.le a b) (hbc : Fix.le b c) : Fix.le a c := by
  rw [le_iff] at *
  omega

/-- The order of fixes is total. -/
lemma le_total (a b : Fix) : Fix.le a b || Fix.le b a := by
  rw [Bool.or_eq_true, le_iff, le_iff]
  omega

/-- Whether the range of a fix is the one between two offsets. -/
def hasRange (start stop : Int) (f : Fix) : Bool := f.start = start && f.stop = stop

/-- Whether fixes are those of a list in the order of their ranges, where fixes of one range keep the
order in which they are given. -/
structure SortedFrom (fixes sorted : List Fix) : Prop where
  pairwise : sorted.Pairwise (Fix.le · ·)
  stable : ∀ start stop, sorted.filter (hasRange start stop) = fixes.filter (hasRange start stop)

/-- Sorting gives the fixes in the order in which they are applied. -/
lemma sortedFrom_mergeSort (fixes : List Fix) : SortedFrom fixes (fixes.mergeSort Fix.le) := by
  refine ⟨List.pairwise_mergeSort le_trans le_total fixes, fun start stop => ?_⟩
  have hsame : (fixes.filter (hasRange start stop)).Pairwise (Fix.le · ·) := by
    refine List.pairwise_of_forall_mem_list fun a ha b hb => ?_
    have ha := (List.mem_filter.mp ha).2
    have hb := (List.mem_filter.mp hb).2
    simp only [hasRange, Bool.and_eq_true, decide_eq_true_eq] at ha hb
    rw [le_iff]
    omega
  -- fixes of one range stand in the sorted list in the same order, and it has no others
  have hsub := List.sublist_mergeSort le_trans le_total hsame List.filter_sublist
  have hperm := (List.mergeSort_perm fixes Fix.le).filter (hasRange start stop)
  have hfilter := hsub.filter (hasRange start stop)
  simp only [List.filter_filter, Bool.and_self] at hfilter
  exact (hfilter.eq_of_length hperm.length_eq.symm).symm

/-- Fixes of one range that all have one text come in one order only. -/
lemma mergeSort_eq_of_perm {fixes fixes' : List Fix} (hperm : fixes'.Perm fixes)
    (htext : ∀ f ∈ fixes, ∀ g ∈ fixes, f.start = g.start → f.stop = g.stop → f.text = g.text) :
    fixes'.mergeSort Fix.le = fixes.mergeSort Fix.le := by
  have hsorted : ∀ fs : List Fix, (fs.mergeSort Fix.le).Pairwise (Fix.le · ·) :=
    List.pairwise_mergeSort le_trans le_total
  have hmerged : (fixes'.mergeSort Fix.le).Perm (fixes.mergeSort Fix.le) :=
    (List.mergeSort_perm _ _).trans (hperm.trans (List.mergeSort_perm _ _).symm)
  refine List.Perm.eq_of_pairwise (fun f g hf hg hfg hgf => ?_) (hsorted fixes') (hsorted fixes) hmerged
  have hf : f ∈ fixes := hperm.mem_iff.mp (List.mem_mergeSort.mp hf)
  have hg : g ∈ fixes := List.mem_mergeSort.mp hg
  rw [le_iff] at hfg hgf
  have hstart : f.start = g.start := by omega
  have hstop : f.stop = g.stop := by omega
  have := htext f hf g hg hstart hstop
  cases f
  cases g
  simp_all

end Fix

/-! ## The selection -/

namespace Fix

/-- Which of several fixes are applied, given where the fix applied last has ended; `none` when there
is none yet. -/
inductive Selects : Option Int → List Fix → List Fix → Prop
  | nil (last : Option Int) : Selects last [] []
  /-- A fix that begins strictly behind the one applied last is applied; so is the first. -/
  | take {last : Option Int} {f : Fix} {fixes applied : List Fix} :
      (∀ stop ∈ last, stop < f.start) → Selects (some f.stop) fixes applied →
        Selects last (f :: fixes) (f :: applied)
  /-- Any other fix is left out. -/
  | skip {stop : Int} {f : Fix} {fixes applied : List Fix} :
      f.start ≤ stop → Selects (some stop) fixes applied → Selects (some stop) (f :: fixes) applied

/-- Whether each fix ends before the next ones begin. -/
def Separate (fixes : List Fix) : Prop := fixes.Pairwise fun f g => f.stop < g.start

/-- Whether a fix begins in the range of another, or where it ends. -/
def BeginsIn (f g : Fix) : Prop := g.start ≤ f.start ∧ f.start ≤ g.stop

variable {last : Option Int} {fixes applied : List Fix}

/-- What is selected are some of the fixes, in their order. -/
lemma Selects.sublist (h : Selects last fixes applied) : applied.Sublist fixes := by
  induction h with
  | nil => exact List.Sublist.refl []
  | take _ _ ih => exact ih.cons_cons _
  | skip _ _ ih => exact ih.cons _

/-- What is applied begins behind the fix that was applied last. -/
lemma Selects.lt_start (h : Selects last fixes applied) (hle : ∀ f ∈ fixes, f.start ≤ f.stop) :
    ∀ stop ∈ last, ∀ f ∈ applied, stop < f.start := by
  induction h with
  | nil => exact fun _ _ _ hf => absurd hf List.not_mem_nil
  | take hbehind _ ih =>
    rw [List.forall_mem_cons] at hle
    intro stop hstop
    refine List.forall_mem_cons.mpr ⟨hbehind stop hstop, fun g hg => ?_⟩
    have hfirst := hbehind stop hstop
    have hnext := ih hle.2 _ rfl g hg
    omega
  | skip _ _ ih => exact ih fun f hf => hle f (List.mem_cons_of_mem _ hf)

/-- Fixes that are selected do not touch. -/
lemma Selects.separate (h : Selects last fixes applied) (hle : ∀ f ∈ fixes, f.start ≤ f.stop) :
    Separate applied := by
  induction h with
  | nil => exact List.Pairwise.nil
  | take _ hrest ih =>
    rw [List.forall_mem_cons] at hle
    exact List.pairwise_cons.mpr ⟨hrest.lt_start hle.2 _ rfl, ih hle.2⟩
  | skip _ _ ih => exact ih fun f hf => hle f (List.mem_cons_of_mem _ hf)

/-- What is left out begins in the range of a fix that is applied, or of the one that was applied
last. -/
lemma Selects.beginsIn (h : Selects last fixes applied) (hsorted : fixes.Pairwise (Fix.le · ·))
    {f : Fix} (hf : f ∈ fixes) :
    f ∈ applied ∨ (∃ g ∈ applied, f.BeginsIn g) ∨ ∃ stop ∈ last, f.start ≤ stop := by
  induction h with
  | nil => exact absurd hf List.not_mem_nil
  | @take last g fixes applied _ _ ih =>
    rw [List.pairwise_cons] at hsorted
    obtain rfl | hf := List.mem_cons.mp hf
    · exact .inl List.mem_cons_self
    · have hstart : g.start ≤ f.start := by
        have := le_iff.mp (hsorted.1 f hf)
        omega
      rcases ih hsorted.2 hf with happlied | ⟨g', hg', hbegins⟩ | ⟨stop, hstop, hle⟩
      · exact .inl (List.mem_cons_of_mem g happlied)
      · exact .inr (.inl ⟨g', List.mem_cons_of_mem g hg', hbegins⟩)
      · obtain rfl := Option.some.inj hstop
        exact .inr (.inl ⟨g, List.mem_cons_self, hstart, hle⟩)
  | skip hle _ ih =>
    obtain rfl | hf := List.mem_cons.mp hf
    · exact .inr (.inr ⟨_, rfl, hle⟩)
    · exact ih (List.pairwise_cons.mp hsorted).2 hf

/-- Separate fixes are all applied. -/
lemma selects_self (h : Separate fixes) (hlast : ∀ stop ∈ last, ∀ f ∈ fixes, stop < f.start) :
    Selects last fixes fixes := by
  induction fixes generalizing last with
  | nil => exact .nil last
  | cons f fixes ih =>
    obtain ⟨hbefore, hrest⟩ := List.pairwise_cons.mp h
    refine .take (fun stop hstop => hlast stop hstop f List.mem_cons_self) (ih hrest ?_)
    intro stop hstop
    obtain rfl := Option.some.inj hstop
    exact hbefore

end Fix

/-! ## Several fixes -/

section several

variable {data : Bytes} {applied : List Fix}

/-- Fixes leave what is before all of them as it is. -/
lemma take_foldr_splice (h : ∀ f ∈ applied, f.InRange data) {k : Nat} (hlen : k ≤ data.length)
    (hk : ∀ f ∈ applied, (k : Int) ≤ f.start) :
    (applied.foldr Fix.splice data).take k = data.take k := by
  induction applied with
  | nil => rfl
  | cons f applied ih =>
    rw [List.forall_mem_cons] at h hk
    have hrest := ih h.2 hk.2
    have hle : k ≤ (applied.foldr Fix.splice data).length := by
      have := congrArg List.length hrest
      rw [List.length_take, List.length_take] at this
      omega
    rw [List.foldr_cons, Fix.take_splice hk.1 hle, hrest]

/-- Before separate fixes that come later, a fix is still in range. -/
lemma inRange_foldr_splice {f : Fix} (hf : f.InRange data) (h : ∀ g ∈ applied, g.InRange data)
    (hbefore : ∀ g ∈ applied, f.stop < g.start) : f.InRange (applied.foldr Fix.splice data) := by
  obtain ⟨start, stop, ⟨hstart, hstop⟩, hle, hlen⟩ := hf.exists_covers
  have htake := take_foldr_splice h hlen fun g hg => by
    have := hbefore g hg
    omega
  have := congrArg List.length htake
  rw [List.length_take, List.length_take] at this
  unfold Fix.InRange
  omega

/-- Separate fixes make the text grow by the sum of their growths. -/
lemma length_foldr_splice (hsep : Fix.Separate applied) (h : ∀ f ∈ applied, f.InRange data) :
    ((applied.foldr Fix.splice data).length : Int) =
      data.length + (applied.map Fix.growth).foldr (· + ·) 0 := by
  induction applied with
  | nil => simp
  | cons f applied ih =>
    rw [List.forall_mem_cons] at h
    obtain ⟨hbefore, hsep⟩ := List.pairwise_cons.mp hsep
    rw [List.foldr_cons, Fix.length_splice (inRange_foldr_splice h.1 h.2 hbefore), ih hsep h.2,
      List.map_cons, List.foldr_cons]
    omega

/-- Fixes behind an offset leave it where it is. -/
lemma foldr_move_of_lt {i : Nat} (h : ∀ f ∈ applied, f.InRange data)
    (hi : ∀ f ∈ applied, (i : Int) < f.start) : applied.foldr Fix.move i = i := by
  induction applied with
  | nil => rfl
  | cons f applied ih =>
    rw [List.forall_mem_cons] at h hi
    rw [List.foldr_cons, ih h.2 hi.2, Fix.move_of_lt h.1.2.1 hi.1]

/-- Fixes that begin no earlier than an offset move nothing in front of it. -/
lemma le_foldr_move {k i : Nat} (h : ∀ f ∈ applied, f.InRange data)
    (hk : ∀ f ∈ applied, (k : Int) ≤ f.start) (hle : k ≤ i) : k ≤ applied.foldr Fix.move i := by
  induction applied with
  | nil => exact hle
  | cons f applied ih =>
    rw [List.forall_mem_cons] at h hk
    have hrest := ih h.2 hk.2
    obtain ⟨start, stop, ⟨hstart, hstop⟩, hle, -⟩ := h.1.exists_covers
    rw [List.foldr_cons]
    generalize applied.foldr Fix.move i = j at hrest
    unfold Fix.move
    split_ifs <;> omega

/-- An offset that a fix spares is spared by it also after the fixes behind it. -/
lemma spares_foldr_move {f : Fix} {i : Nat} (hf : f.InRange data)
    (h : ∀ g ∈ applied, g.InRange data) (hbefore : ∀ g ∈ applied, f.stop < g.start)
    (hi : f.Spares i) : f.Spares (applied.foldr Fix.move i) := by
  obtain ⟨start, stop, ⟨hstart, hstop⟩, hle, -⟩ := hf.exists_covers
  rcases hi with hi | hi
  · have hbehind : ∀ g ∈ applied, (i : Int) < g.start := fun g hg => by
      have := hbefore g hg
      omega
    rw [foldr_move_of_lt h hbehind]
    exact .inl hi
  · have hbehind : ∀ g ∈ applied, (stop : Int) ≤ g.start := fun g hg => by
      have := hbefore g hg
      omega
    have hmoved : stop ≤ applied.foldr Fix.move i := le_foldr_move h hbehind (by omega)
    exact .inr (by omega)

/-- Fixes keep every byte that none of them replaces. -/
lemma getElem?_foldr_splice (hsep : Fix.Separate applied) (h : ∀ f ∈ applied, f.InRange data)
    {i : Nat} (hi : ∀ f ∈ applied, f.Spares i) :
    (applied.foldr Fix.splice data)[applied.foldr Fix.move i]? = data[i]? := by
  induction applied with
  | nil => rfl
  | cons f applied ih =>
    rw [List.forall_mem_cons] at h hi
    obtain ⟨hbefore, hsep⟩ := List.pairwise_cons.mp hsep
    rw [List.foldr_cons, List.foldr_cons,
      Fix.getElem?_splice (inRange_foldr_splice h.1 h.2 hbefore)
        (spares_foldr_move h.1 h.2 hbefore hi.1),
      ih hsep h.2 hi.2]

/-- A byte that none of several fixes replaces stays in front of all that is behind it. -/
lemma foldr_move_lt (hsep : Fix.Separate applied) (h : ∀ f ∈ applied, f.InRange data) {i j : Nat}
    (hi : ∀ f ∈ applied, f.Spares i) (hij : i < j) :
    applied.foldr Fix.move i < applied.foldr Fix.move j := by
  induction applied with
  | nil => exact hij
  | cons f applied ih =>
    rw [List.forall_mem_cons] at h hi
    obtain ⟨hbefore, hsep⟩ := List.pairwise_cons.mp hsep
    rw [List.foldr_cons, List.foldr_cons]
    exact Fix.move_lt h.1 (spares_foldr_move h.1 h.2 hbefore hi.1) (ih hsep h.2 hi.2)

end several

/-- What it means that a text is another one with fixes applied. -/
structure Fix.Rewrites (data : Bytes) (applied : List Fix) (out : Bytes) : Prop where
  /-- The ranges are replaced by the texts, the last first, so that no offset is off. -/
  eq_splice : out = applied.foldr Fix.splice data
  /-- All other bytes are kept. -/
  kept : ∀ i, (∀ f ∈ applied, f.Spares i) → out[applied.foldr Fix.move i]? = data[i]?
  /-- They are kept in their order. -/
  ordered : ∀ i j, (∀ f ∈ applied, f.Spares i) → (∀ f ∈ applied, f.Spares j) → i < j →
    applied.foldr Fix.move i < applied.foldr Fix.move j
  /-- The text grows by what the fixes gain. -/
  length : (out.length : Int) = data.length + (applied.map Fix.growth).foldr (· + ·) 0

/-- Separate fixes rewrite the text: what they cover is replaced, and all else is kept. -/
lemma Fix.rewrites_foldr_splice {data : Bytes} {applied : List Fix} (hsep : Fix.Separate applied)
    (h : ∀ f ∈ applied, f.InRange data) : Fix.Rewrites data applied (applied.foldr Fix.splice data) where
  eq_splice := rfl
  kept _ hi := getElem?_foldr_splice hsep h hi
  ordered _ _ hi _ hij := foldr_move_lt hsep h hi hij
  length := length_foldr_splice hsep h

/-! ## The loop -/

section loop

variable {data : Bytes} {fixes : List Fix}

/-- **The loop.** From an offset on that is no further than the next applied fix may begin, the loop
makes of the text what the selected fixes make of it, and counts them. -/
lemma applyFrom_eq (h : ∀ f ∈ fixes, f.InRange data) {applied : List Fix} {cursor : Nat} {last : Int}
    (hselects : Fix.Selects (some last) fixes applied) (hcursor : (cursor : Int) ≤ last + 1) :
    applyFrom data cursor last fixes =
      ((applied.foldr Fix.splice data).drop cursor, applied.length) := by
  induction fixes generalizing applied cursor last with
  | nil =>
    cases hselects
    rw [applyFrom, sliceFrom_ofNat, List.foldr_nil, List.length_nil]
  | cons f fixes ih =>
    rw [List.forall_mem_cons] at h
    obtain ⟨start, stop, hcovers, hle, hlen⟩ := h.1.exists_covers
    obtain ⟨hstart, hstop⟩ := hcovers
    rw [applyFrom]
    cases hselects with
    | skip hskip hrest =>
      rw [if_pos hskip]
      exact ih h.2 hrest hcursor
    | @take _ _ _ applied htake hrest =>
      have hbehind := htake last rfl
      have hbounds : ∀ g ∈ fixes, g.start ≤ g.stop := fun g hg => (h.2 g hg).2.1
      have happlied : ∀ g ∈ applied, g.InRange data := fun g hg => h.2 g (hrest.sublist.subset hg)
      have hlater := hrest.lt_start hbounds _ rfl
      rw [if_neg (by omega)]
      dsimp only
      rw [hstop] at hrest ⊢
      rw [ih h.2 hrest (by omega), List.foldr_cons, List.length_cons, hstart, slice_ofNat]
      -- the later fixes leave the text up to this one as it was
      have hbefore : (applied.foldr Fix.splice data).take start = data.take start :=
        take_foldr_splice happlied (by omega) fun g hg => by have := hlater g hg; omega
      have hcut : cursor ≤ (data.take start).length := by
        rw [List.length_take]
        omega
      rw [Fix.Covers.splice_eq ⟨hstart, hstop⟩, hbefore, List.append_assoc (data.take start),
        List.drop_append_of_le_length hcut, List.drop_take, ← List.append_assoc]
      rfl

/-- For fixes that start in the text it makes no difference whether there is a fix before the text. -/
lemma Fix.selects_of_pos (h : ∀ f ∈ fixes, 0 ≤ f.start) {applied : List Fix}
    (hselects : Fix.Selects none fixes applied) : Fix.Selects (some (-1)) fixes applied := by
  cases hselects with
  | nil => exact .nil _
  | take _ hrest =>
    refine .take (fun stop hstop => ?_) hrest
    obtain rfl := Option.some.inj hstop
    have := h _ List.mem_cons_self
    omega

/-- Every list of fixes has a selection. -/
lemma Fix.exists_selects (last : Option Int) (fixes : List Fix) :
    ∃ applied, Fix.Selects last fixes applied := by
  induction fixes generalizing last with
  | nil => exact ⟨[], .nil last⟩
  | cons f fixes ih =>
    by_cases hskip : ∃ stop, last = some stop ∧ f.start ≤ stop
    · obtain ⟨stop, rfl, hle⟩ := hskip
      obtain ⟨applied, hrest⟩ := ih (some stop)
      exact ⟨applied, .skip hle hrest⟩
    · obtain ⟨applied, hrest⟩ := ih (some f.stop)
      refine ⟨f :: applied, .take (fun stop hstop => ?_) hrest⟩
      by_contra hle
      exact hskip ⟨stop, hstop, by omega⟩

/-- What applied fixes make of a text, given which are selected. -/
lemma applyFixes_eq (h : ∀ f ∈ fixes, f.InRange data) {applied : List Fix}
    (hselects : Fix.Selects none (fixes.mergeSort Fix.le) applied) :
    applyFixes data fixes = (applied.foldr Fix.splice data, applied.length) := by
  have hsorted : ∀ f ∈ fixes.mergeSort Fix.le, f.InRange data :=
    fun f hf => h f (List.mem_mergeSort.mp hf)
  have hpos : ∀ f ∈ fixes.mergeSort Fix.le, 0 ≤ f.start := fun f hf => (hsorted f hf).1
  have hloop : applyFrom data (0 : Nat) (-1) (fixes.mergeSort Fix.le) = _ :=
    applyFrom_eq hsorted (Fix.selects_of_pos hpos hselects) (by decide)
  exact hloop

/-- Separate fixes that come in order are all applied. -/
lemma applyFixes_of_separate (h : ∀ f ∈ fixes, f.InRange data) (hsep : Fix.Separate fixes) :
    applyFixes data fixes = (fixes.foldr Fix.splice data, fixes.length) := by
  have hsorted : fixes.Pairwise (Fix.le · ·) := by
    refine hsep.imp_of_mem fun {f g} hf _ hlt => ?_
    have := (h f hf).2.1
    rw [Fix.le_iff]
    omega
  refine applyFixes_eq h ?_
  rw [List.mergeSort_of_pairwise hsorted]
  exact Fix.selects_self hsep nofun

end loop

/-- **Fixes are applied greedily, and nothing else is changed.** For fixes whose ranges lie in the text,
taken in the order of their ranges: the first is applied, and then each that begins strictly behind the
one applied last. The applied fixes are separate, and each other fix begins in the range of one of them.
The text becomes the one with exactly their ranges replaced; the count is their number. If fixes of one
range have one text, then it makes no difference in which order they are given. -/
theorem applyFixes_greedy {data : Bytes} {fixes : List Fix} (h : ∀ f ∈ fixes, f.InRange data) :
    (∃ sorted applied, Fix.SortedFrom fixes sorted ∧ Fix.Selects none sorted applied ∧
      Fix.Separate applied ∧ (∀ f ∈ fixes, f ∈ applied ∨ ∃ g ∈ applied, f.BeginsIn g) ∧
      Fix.Rewrites data applied (applyFixes data fixes).1 ∧
      (applyFixes data fixes).2 = applied.length) ∧
    ∀ fixes' : List Fix, fixes'.Perm fixes →
      (∀ f ∈ fixes, ∀ g ∈ fixes, f.start = g.start → f.stop = g.stop → f.text = g.text) →
      applyFixes data fixes' = applyFixes data fixes := by
  refine ⟨?_, fun fixes' hperm htext => ?_⟩
  · obtain ⟨applied, hselects⟩ := Fix.exists_selects none (fixes.mergeSort Fix.le)
    have hsorted := Fix.sortedFrom_mergeSort fixes
    have hmem : ∀ f ∈ applied, f.InRange data :=
      fun f hf => h f (List.mem_mergeSort.mp (hselects.sublist.subset hf))
    have hsep : Fix.Separate applied :=
      hselects.separate fun f hf => (h f (List.mem_mergeSort.mp hf)).2.1
    refine ⟨fixes.mergeSort Fix.le, applied, hsorted, hselects, hsep, fun f hf => ?_, ?_, ?_⟩
    · rcases hselects.beginsIn hsorted.pairwise (List.mem_mergeSort.mpr hf) with
        hin | hbegins | ⟨stop, hstop, -⟩
      · exact .inl hin
      · exact .inr hbegins
      · exact absurd hstop nofun
    · rw [applyFixes_eq h hselects]
      exact Fix.rewrites_foldr_splice hsep hmem
    · rw [applyFixes_eq h hselects]
  · unfold applyFixes
    rw [Fix.mergeSort_eq_of_perm hperm htext]

/-- Fixes that touch, overlap, lie in one another and are given twice, out of order. -/
def crowdedFixes : List Fix :=
  [⟨4, 6, [120]⟩, ⟨2, 2, [121]⟩, ⟨0, 2, []⟩, ⟨1, 2, [122]⟩, ⟨4, 6, [120]⟩, ⟨3, 3, [119]⟩]

/-- The same fixes in the order of their ranges. -/
def crowdedInOrder : List Fix :=
  [⟨0, 2, []⟩, ⟨1, 2, [122]⟩, ⟨2, 2, [121]⟩, ⟨3, 3, [119]⟩, ⟨4, 6, [120]⟩, ⟨4, 6, [120]⟩]

/-- Of six fixes three are applied. -/
theorem applyFixes_greedy_crowded :
    (∀ f ∈ crowdedInOrder, f.InRange [97, 98, 99, 100, 101, 102]) ∧
      crowdedFixes.Perm crowdedInOrder ∧
      (∀ f ∈ crowdedInOrder, ∀ g ∈ crowdedInOrder,
        f.start = g.start → f.stop = g.stop → f.text = g.text) ∧
      applyFixes [97, 98, 99, 100, 101, 102] crowdedFixes = ([99, 119, 100, 120], 3) := by
  have hrange : ∀ f ∈ crowdedInOrder, f.InRange [97, 98, 99, 100, 101, 102] := by decide
  have hperm : crowdedFixes.Perm crowdedInOrder := by decide
  have htext : ∀ f ∈ crowdedInOrder, ∀ g ∈ crowdedInOrder,
      f.start = g.start → f.stop = g.stop → f.text = g.text := by decide
  refine ⟨hrange, hperm, htext, ?_⟩
  rw [(applyFixes_greedy hrange).2 crowdedFixes hperm htext]
  unfold applyFixes
  rw [List.mergeSort_of_pairwise (by decide)]
  decide

end Diagnosis.Lint
