import Mathlib.Data.List.DropRight
import Mathlib.Data.List.Forall2
import Mathlib.Data.List.Nodup
import Mathlib.Data.List.Perm.Basic

/-!
# Lists

What the proofs need of lists that is about no text and no tree.

* **Looking up**: what is found in a table that has every key once, and what a search finds if at most one
  item can be found. The order of the items makes no difference to either (`lookup_perm`, `find?_perm`).
* **Selecting**: sorting is stable, so it commutes with selecting (`filter_mergeSort`); what is left of a list
  whose items are each once (`nodup_eraseDups`) and what a function makes of it (`eraseDups_map`); the items
  at the end of a list of which something holds (`mem_rtakeWhile_iff`).
-/

namespace Diagnosis

variable {κ β α : Type}

/-! ## Looking up -/

/-- Something is found under a key if the table has it. -/
lemma isSome_lookup_iff [BEq κ] [LawfulBEq κ] {table : List (κ × β)} {k : κ} :
    (table.lookup k).isSome = true ↔ k ∈ table.map (·.1) := by
  rw [List.lookup_isSome_iff, List.mem_map]
  exact exists_congr fun entry => and_congr_right fun _ => beq_iff_eq.trans eq_comm

/-- In a table that has every key once, what is found under a key is what stands beside it. -/
lemma lookup_eq_some_iff_mem [BEq κ] [LawfulBEq κ] {table : List (κ × β)}
    (h : (table.map (·.1)).Nodup) {k : κ} {v : β} : table.lookup k = some v ↔ (k, v) ∈ table := by
  rw [List.lookup_eq_some_iff]
  constructor
  · rintro ⟨before, after, rfl, -⟩
    exact List.mem_append_right before List.mem_cons_self
  · intro hmem
    obtain ⟨before, after, rfl⟩ := List.append_of_mem hmem
    refine ⟨before, after, rfl, fun p hp => bne_iff_ne.mpr fun hkey => ?_⟩
    rw [List.map_append, List.nodup_append] at h
    exact h.2.2 p.1 (List.mem_map_of_mem hp) k (by simp) hkey.symm

/-- In a table that has every key once, the order of the entries makes no difference to what is found. -/
lemma lookup_perm [BEq κ] [LawfulBEq κ] {table table' : List (κ × β)} (hperm : table'.Perm table)
    (h : (table.map (·.1)).Nodup) (k : κ) : table'.lookup k = table.lookup k := by
  have h' : (table'.map (·.1)).Nodup := (hperm.map (·.1)).nodup_iff.mpr h
  refine Option.ext fun v => ?_
  rw [lookup_eq_some_iff_mem h', lookup_eq_some_iff_mem h, hperm.mem_iff]

/-- Where one item at most can be found, the order of the items makes no difference to what is found. -/
lemma find?_perm {p : α → Bool} {s s' : List α} (hperm : s'.Perm s)
    (h : ∀ x ∈ s, ∀ y ∈ s, p x = true → p y = true → x = y) : s'.find? p = s.find? p := by
  cases hfind : s.find? p with
  | none =>
    rw [List.find?_eq_none] at hfind ⊢
    exact fun x hx => hfind x (hperm.mem_iff.mp hx)
  | some x =>
    have hx : x ∈ s := List.mem_of_find?_eq_some hfind
    have hfound : (s'.find? p).isSome = true :=
      List.find?_isSome.mpr ⟨x, hperm.mem_iff.mpr hx, List.find?_some hfind⟩
    obtain ⟨y, hy⟩ := Option.isSome_iff_exists.mp hfound
    rw [hy, h y (hperm.mem_iff.mp (List.mem_of_find?_eq_some hy)) x hx (List.find?_some hy)
      (List.find?_some hfind)]

/-- What is found in a list of increasing numbers is found at the least where there is something. -/
lemma findSome?_eq_some_iff_of_pairwise {f : Nat → Option β} {b : β} {l : List Nat}
    (hl : l.Pairwise (· < ·)) :
    l.findSome? f = some b ↔ ∃ i ∈ l, f i = some b ∧ ∀ j ∈ l, j < i → f j = none := by
  rw [List.findSome?_eq_some_iff]
  constructor
  · rintro ⟨before, i, after, rfl, hi, hbefore⟩
    have hafter := (List.pairwise_cons.mp (List.pairwise_append.mp hl).2.1).1
    refine ⟨i, List.mem_append_right before List.mem_cons_self, hi, fun j hj hlt => ?_⟩
    rcases List.mem_append.mp hj with hj | hj
    · exact hbefore j hj
    · rcases List.mem_cons.mp hj with rfl | hj
      · exact absurd hlt (Nat.lt_irrefl j)
      · exact absurd hlt (Nat.lt_asymm (hafter j hj))
  · rintro ⟨i, hmem, hi, hleast⟩
    obtain ⟨before, after, rfl⟩ := List.append_of_mem hmem
    refine ⟨before, i, after, rfl, hi, fun j hj => ?_⟩
    have hlt := (List.pairwise_append.mp hl).2.2 j hj i List.mem_cons_self
    exact hleast j (List.mem_append_left _ hj) hlt

/-! ## Selecting -/

/-- Items that give nothing may be left out. -/
lemma flatMap_filter_of_eq_nil {f : α → List β} {p : α → Bool} {l : List α}
    (h : ∀ a ∈ l, p a = false → f a = []) : (l.filter p).flatMap f = l.flatMap f := by
  induction l with
  | nil => rfl
  | cons a l ih =>
    rw [List.forall_mem_cons] at h
    rw [List.filter_cons, List.flatMap_cons, ← ih h.2]
    cases hp : p a with
    | true => rfl
    | false =>
      rw [h.1 hp]
      rfl

/-- Where exactly the items of a kind give something, what they give belongs to the items of the kind. -/
lemma forall₂_filter {R : α → Option β → Prop} {p : α → Prop} [DecidablePred p]
    {Q : α → β → Prop} {xs : List α} {ys : List (Option β)} (h : List.Forall₂ R xs ys)
    (hR : ∀ x y, R x y → (∃ z, y = some z ∧ p x ∧ Q x z) ∨ y = none ∧ ¬ p x) :
    List.Forall₂ Q (xs.filter p) (ys.filterMap id) := by
  induction h with
  | nil => exact .nil
  | @cons x y xs ys hxy _ ih =>
    rcases hR x y hxy with ⟨z, rfl, hp, hz⟩ | ⟨rfl, hp⟩
    · rw [List.filter_cons_of_pos (by simpa using hp), List.filterMap_cons_some (f := id) rfl]
      exact .cons hz ih
    · rw [List.filter_cons_of_neg (by simpa using hp), List.filterMap_cons_none (f := id) rfl]
      exact ih

/-- What is taken from the end of a list: that after which nothing fails. -/
lemma mem_rtakeWhile_iff {p : α → Bool} {x : α} {xs : List α} :
    x ∈ xs.rtakeWhile p ↔ ∃ before after, xs = before ++ x :: after ∧ ∀ y ∈ x :: after, p y = true := by
  constructor
  · intro hx
    obtain ⟨kept, hkept⟩ := List.rtakeWhile_suffix p xs
    obtain ⟨before, after, hsplit⟩ := List.append_of_mem hx
    refine ⟨kept ++ before, after, by rw [← hkept, hsplit, List.append_assoc], fun y hy => ?_⟩
    exact List.mem_rtakeWhile_imp (hsplit ▸ List.mem_append_right before hy)
  · rintro ⟨before, after, rfl, hall⟩
    rw [List.rtakeWhile, List.reverse_append,
      List.takeWhile_append_of_pos fun y hy => hall y (List.mem_reverse.mp hy), List.mem_reverse]
    exact List.mem_append_left _ (List.mem_reverse.mpr List.mem_cons_self)

/-! ## First occurrences -/

/-- First occurrences are each once. -/
lemma nodup_eraseDups [BEq α] [LawfulBEq α] (xs : List α) : xs.eraseDups.Nodup := by
  match xs with
  | [] => exact List.nodup_nil
  | x :: xs =>
    rw [List.eraseDups_cons, List.nodup_cons]
    exact ⟨by simp, nodup_eraseDups _⟩
termination_by xs.length
decreasing_by exact Nat.lt_succ_of_le (List.length_filter_le _ _)

/-- Keeping first occurrences commutes with a function that keeps the elements apart. -/
lemma eraseDups_map [BEq α] [LawfulBEq α] [BEq β] [LawfulBEq β] {f : α → β}
    {xs : List α} (hf : ∀ x ∈ xs, ∀ y ∈ xs, f x = f y ↔ x = y) :
    (xs.map f).eraseDups = xs.eraseDups.map f := by
  induction hlength : xs.length using Nat.strongRecOn generalizing xs with
  | ind n ih =>
    cases xs with
    | nil => rfl
    | cons x xs =>
      obtain ⟨-, hxs⟩ := List.forall_mem_cons.mp hf
      have hrest : ∀ y ∈ xs, (f y == f x) = (y == x) := by
        intro y hy
        rw [Bool.eq_iff_iff, beq_iff_eq, beq_iff_eq]
        exact hxs y hy x List.mem_cons_self
      rw [List.map_cons, List.eraseDups_cons, List.eraseDups_cons, List.map_cons, List.filter_map]
      have hfilter : xs.filter ((fun y => !y == f x) ∘ f) = xs.filter fun y => !y == x :=
        List.filter_congr fun y hy => congrArg _ (hrest y hy)
      rw [hfilter]
      refine congrArg _ (ih _ ?_ (fun y hy z hz => ?_) rfl)
      · rw [← hlength, List.length_cons]
        exact Nat.lt_succ_of_le (List.length_filter_le _ xs)
      · exact hxs y (List.mem_of_mem_filter hy) z (List.mem_cons_of_mem x (List.mem_of_mem_filter hz))

/-! ## Sorted lists -/

section sorted

variable {le : α → α → Bool} {a : α} {l : List α}

/-- Sorting puts a first element behind the smaller ones. -/
lemma mergeSort_cons_eq_filter (htrans : ∀ a b c, le a b → le b c → le a c)
    (htotal : ∀ a b, le a b || le b a) :
    (a :: l).mergeSort le =
        (l.mergeSort le).filter (!le a ·) ++ a :: (l.mergeSort le).filter (le a ·) ∧
      l.mergeSort le = (l.mergeSort le).filter (!le a ·) ++ (l.mergeSort le).filter (le a ·) := by
  obtain ⟨before, after, hcons, hl, hbefore⟩ := List.mergeSort_cons htrans htotal a l
  have hafter : ∀ b ∈ after, le a b = true := by
    have hsorted := List.pairwise_mergeSort htrans htotal (a :: l)
    rw [hcons, List.pairwise_append] at hsorted
    exact (List.pairwise_cons.mp hsorted.2.1).1
  have hsmaller : (l.mergeSort le).filter (!le a ·) = before := by
    rw [hl, List.filter_append, List.filter_eq_self.mpr hbefore,
      List.filter_eq_nil_iff.mpr fun b hb => by simp [hafter b hb], List.append_nil]
  have hrest : (l.mergeSort le).filter (le a ·) = after := by
    rw [hl, List.filter_append, List.filter_eq_self.mpr hafter,
      List.filter_eq_nil_iff.mpr fun b hb => by simpa using hbefore b hb, List.nil_append]
  rw [hsmaller, hrest]
  exact ⟨hcons, hl⟩

/-- Sorting is stable: it does not matter whether one selects before or after. -/
lemma filter_mergeSort (htrans : ∀ a b c, le a b → le b c → le a c)
    (htotal : ∀ a b, le a b || le b a) (p : α → Bool) :
    (l.mergeSort le).filter p = (l.filter p).mergeSort le := by
  have hcomm : ∀ (q : α → Bool) (ys : List α), (ys.filter q).filter p = (ys.filter p).filter q := by
    intro q ys
    rw [List.filter_filter, List.filter_filter]
    exact List.filter_congr fun _ _ => Bool.and_comm _ _
  induction l with
  | nil => rw [List.filter_nil, List.mergeSort_nil, List.filter_nil]
  | cons a l ih =>
    obtain ⟨hcons, -⟩ := mergeSort_cons_eq_filter (a := a) (l := l) htrans htotal
    obtain ⟨hselected, hsplit⟩ :=
      mergeSort_cons_eq_filter (a := a) (l := l.filter p) htrans htotal
    rw [hcons, List.filter_append, hcomm, List.filter_cons, List.filter_cons, hcomm, ih]
    split
    · exact hselected.symm
    · exact hsplit.symm

end sorted

end Diagnosis
