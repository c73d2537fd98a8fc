import Diagnosis.Pattern.Regex
import Mathlib.Data.List.Basic

/-!
# The texts that a search pattern describes

`Regex.Describes` says which texts a regular expression describes, by its form alone: no place, no
order of alternatives and no limit on repetitions comes into this. The matcher is compared with it.

* **Soundness** (`exists_describes_of_mem_ends`): wherever a match may end, a described text has been
  read.
* **Completeness** (`exists_mem_ends`): a described text at the front of what is left is read by some
  match. This asks that the expression look at nothing but the characters it reads (`IsLocal`): the
  edges of texts and words depend on what stands around them.

Hence a text as a whole is a match exactly when it is described (`matches_iff`).
-/

namespace Diagnosis.Pattern

/-! ## Reading -/

/-- Whether reading the characters `x` leads from one place to another. -/
def Spot.Reads (s : Spot) (x : List Char) (e : Spot) : Prop :=
  s.rest = x ++ e.rest ∧ e.offset = s.offset + x.length

namespace Spot

variable {s e e' : Spot} {x y : List Char}

/-- Nothing is read on the spot. -/
lemma reads_nil : s.Reads [] s := ⟨rfl, rfl⟩

/-- Two stretches are read one after the other. -/
lemma Reads.trans (h : s.Reads x e) (h' : e.Reads y e') : s.Reads (x ++ y) e' := by
  refine ⟨?_, ?_⟩
  · rw [h.1, h'.1, List.append_assoc]
  · rw [h'.2, h.2, List.length_append, Nat.add_assoc]

/-- Going on reads one character. -/
lemma reads_next {c : Char} {rest : List Char} (h : s.rest = c :: rest) : s.Reads [c] s.next := by
  unfold Reads next
  rw [h]
  exact ⟨rfl, rfl⟩

/-- What a text begins with after the first of two texts has been read. -/
lemma Reads.prefix_rest (h : s.Reads x e) (hxy : x ++ y <+: s.rest) : y <+: e.rest := by
  rw [h.1] at hxy
  exact (List.prefix_append_right_inj x).mp hxy

/-- A stretch that is read takes the offset further unless it is empty. -/
lemma Reads.lt_iff (h : s.Reads x e) : s.offset < e.offset ↔ x ≠ [] := by
  rw [h.2, ← List.length_pos_iff]
  omega

end Spot

namespace Regex

/-! ## Descriptions -/

/-- Whether a text as a whole is a match. -/
def Matches (r : Regex) (x : List Char) : Prop := ∃ e ∈ r.ends (Spot.start x), e.rest = []

instance (r : Regex) (x : List Char) : Decidable (r.Matches x) :=
  inferInstanceAs (Decidable (∃ e ∈ r.ends (Spot.start x), e.rest = []))

/-- Whether a regular expression describes a text. The edges of texts and words have no characters;
a repetition is a sequence of texts, of which there are neither too few nor too many. -/
def Describes : Regex → List Char → Prop
  | empty, x => x = []
  | one t ignoreCase, x => ∃ c, x = [c] ∧ t.accepts ignoreCase c = true
  | textStart, x => x = []
  | textStop _, x => x = []
  | wordEdge _, x => x = []
  | both r s, x => ∃ y z, x = y ++ z ∧ r.Describes y ∧ s.Describes z
  | either r s, x => r.Describes x ∨ s.Describes x
  | many r least most _, x => ∃ xs : List (List Char), x = xs.flatten ∧ least ≤ xs.length ∧
      (∀ n, most = some n → xs.length ≤ max least n) ∧ ∀ y ∈ xs, r.Describes y

/-- Whether a regular expression looks at nothing but the characters it reads. -/
def isLocal : Regex → Bool
  | empty => true
  | one _ _ => true
  | textStart => false
  | textStop _ => false
  | wordEdge _ => false
  | both r s => r.isLocal && s.isLocal
  | either r s => r.isLocal && s.isLocal
  | many r _ _ _ => r.isLocal

/-! ## Repetitions -/

section repetitions

variable {f after : Spot → List Spot} {P Q : List Char → Prop} {s e : Spot}

/-- Optional repetitions read a sequence of texts. -/
lemma exists_of_mem_optionalEnds (hf : ∀ s, ∀ e ∈ f s, ∃ x, P x ∧ s.Reads x e) {isLazy : Bool}
    {room : Nat} (h : e ∈ optionalEnds f isLazy room s) :
    ∃ xs : List (List Char), xs.length ≤ room ∧ (∀ x ∈ xs, P x) ∧ s.Reads xs.flatten e := by
  induction room generalizing s with
  | zero =>
    rw [optionalEnds, List.mem_singleton] at h
    exact ⟨[], Nat.le_refl _, by simp, h ▸ Spot.reads_nil⟩
  | succ room ih =>
    have hcases : e = s ∨ ∃ e₁ ∈ f s, e ∈ optionalEnds f isLazy room e₁ := by
      rw [optionalEnds] at h
      split at h
      · obtain rfl | h := List.mem_cons.mp h
        · exact .inl rfl
        · obtain ⟨e₁, he₁, h⟩ := List.mem_flatMap.mp h
          exact .inr ⟨e₁, (List.mem_filter.mp he₁).1, h⟩
      · obtain h | h := List.mem_append.mp h
        · obtain ⟨e₁, he₁, h⟩ := List.mem_flatMap.mp h
          exact .inr ⟨e₁, (List.mem_filter.mp he₁).1, h⟩
        · exact .inl (List.mem_singleton.mp h)
    obtain rfl | ⟨e₁, he₁, h⟩ := hcases
    · exact ⟨[], Nat.zero_le _, by simp, Spot.reads_nil⟩
    · obtain ⟨x, hx, hreads⟩ := hf s e₁ he₁
      obtain ⟨xs, hlength, hxs, hreads'⟩ := ih h
      exact ⟨x :: xs, Nat.succ_le_succ hlength, List.forall_mem_cons.mpr ⟨hx, hxs⟩,
        hreads.trans hreads'⟩

/-- A sequence of texts, none of them empty, is read by optional repetitions. -/
lemma exists_mem_optionalEnds (hf : ∀ s x, P x → x <+: s.rest → ∃ e ∈ f s, s.Reads x e)
    (isLazy : Bool) {room : Nat} {xs : List (List Char)} (hlength : xs.length ≤ room)
    (hxs : ∀ x ∈ xs, P x ∧ x ≠ []) (hbegins : xs.flatten <+: s.rest) :
    ∃ e ∈ optionalEnds f isLazy room s, s.Reads xs.flatten e := by
  induction xs generalizing s room with
  | nil =>
    refine ⟨s, ?_, Spot.reads_nil⟩
    cases room with
    | zero => exact List.mem_singleton_self s
    | succ room =>
      rw [optionalEnds]
      split <;> simp
  | cons x xs ih =>
    obtain ⟨room, rfl⟩ : ∃ n, room = n + 1 := Nat.exists_eq_succ_of_ne_zero (by
      rw [List.length_cons] at hlength
      omega)
    rw [List.flatten_cons] at hbegins ⊢
    obtain ⟨⟨hx, hne⟩, hxs⟩ := List.forall_mem_cons.mp hxs
    obtain ⟨e₁, he₁, hreads⟩ := hf s x hx ((List.prefix_append _ _).trans hbegins)
    obtain ⟨e, he, hreads'⟩ := ih (Nat.le_of_succ_le_succ hlength) hxs (hreads.prefix_rest hbegins)
    refine ⟨e, ?_, hreads.trans hreads'⟩
    have hmore : e ∈ ((f s).filter (s.offset < ·.offset)).flatMap (optionalEnds f isLazy room) :=
      List.mem_flatMap.mpr ⟨e₁, List.mem_filter.mpr
        ⟨he₁, decide_eq_true (hreads.lt_iff.mpr hne)⟩, he⟩
    rw [optionalEnds]
    split
    · exact List.mem_cons_of_mem _ hmore
    · exact List.mem_append_left _ hmore

/-- Required repetitions read a sequence of texts before what comes after them. -/
lemma exists_of_mem_repeatedEnds (hf : ∀ s, ∀ e ∈ f s, ∃ x, P x ∧ s.Reads x e) {least : Nat}
    (h : e ∈ repeatedEnds f after least s) :
    ∃ (xs : List (List Char)) (e₁ : Spot), xs.length = least ∧ (∀ x ∈ xs, P x) ∧ s.Reads xs.flatten e₁ ∧ e ∈ after e₁ := by
  induction least generalizing s with
  | zero => exact ⟨[], s, rfl, by simp, Spot.reads_nil, h⟩
  | succ least ih =>
    rw [repeatedEnds] at h
    obtain ⟨e₁, he₁, h⟩ := List.mem_flatMap.mp h
    obtain ⟨x, hx, hreads⟩ := hf s e₁ he₁
    obtain ⟨xs, e₂, hlength, hxs, hreads', h⟩ := ih h
    exact ⟨x :: xs, e₂, congrArg (· + 1) hlength, List.forall_mem_cons.mpr ⟨hx, hxs⟩,
      hreads.trans hreads', h⟩

/-- A sequence of texts and what comes after it are read by required repetitions. -/
lemma exists_mem_repeatedEnds (hf : ∀ s x, P x → x <+: s.rest → ∃ e ∈ f s, s.Reads x e)
    {y : List Char} (hafter : ∀ s, y <+: s.rest → ∃ e ∈ after s, s.Reads y e)
    {xs : List (List Char)} (hxs : ∀ x ∈ xs, P x) (hbegins : xs.flatten ++ y <+: s.rest) :
    ∃ e ∈ repeatedEnds f after xs.length s, s.Reads (xs.flatten ++ y) e := by
  induction xs generalizing s with
  | nil => exact hafter s hbegins
  | cons x xs ih =>
    rw [List.flatten_cons, List.append_assoc] at hbegins ⊢
    obtain ⟨hx, hxs⟩ := List.forall_mem_cons.mp hxs
    obtain ⟨e₁, he₁, hreads⟩ := hf s x hx ((List.prefix_append _ _).trans hbegins)
    obtain ⟨e, he, hreads'⟩ := ih hxs (hreads.prefix_rest hbegins)
    exact ⟨e, List.mem_flatMap.mpr ⟨e₁, he₁, he⟩, hreads.trans hreads'⟩

end repetitions

/-! ## The matcher -/

variable {r : Regex} {s e : Spot} {x : List Char}

/-- **Soundness.** Up to the end of a match, a described text has been read. -/
theorem exists_describes_of_mem_ends (h : e ∈ r.ends s) : ∃ x, r.Describes x ∧ s.Reads x e := by
  induction r generalizing s e with
  | empty => exact ⟨[], rfl, List.mem_singleton.mp h ▸ Spot.reads_nil⟩
  | one t ignoreCase =>
    rw [ends] at h
    cases hrest : s.rest with
    | nil => simp [hrest] at h
    | cons c rest =>
      simp only [hrest] at h
      split at h
      case isTrue hc => exact ⟨[c], ⟨c, rfl, hc⟩, List.mem_singleton.mp h ▸ Spot.reads_next hrest⟩
      case isFalse => simp at h
  | textStart =>
    rw [ends] at h
    split at h
    · exact ⟨[], rfl, List.mem_singleton.mp h ▸ Spot.reads_nil⟩
    · simp at h
  | textStop loose =>
    rw [ends] at h
    split at h
    · exact ⟨[], rfl, List.mem_singleton.mp h ▸ Spot.reads_nil⟩
    · simp at h
  | wordEdge isEdge =>
    rw [ends] at h
    split at h
    · exact ⟨[], rfl, List.mem_singleton.mp h ▸ Spot.reads_nil⟩
    · simp at h
  | both r t ihr iht =>
    obtain ⟨e₁, he₁, h⟩ := List.mem_flatMap.mp h
    obtain ⟨y, hy, hreads⟩ := ihr he₁
    obtain ⟨z, hz, hreads'⟩ := iht h
    exact ⟨y ++ z, ⟨y, z, rfl, hy, hz⟩, hreads.trans hreads'⟩
  | either r t ihr iht =>
    obtain h | h := List.mem_append.mp h
    · obtain ⟨x, hx, hreads⟩ := ihr h
      exact ⟨x, .inl hx, hreads⟩
    · obtain ⟨x, hx, hreads⟩ := iht h
      exact ⟨x, .inr hx, hreads⟩
  | many r least most isLazy ih =>
    have hr : ∀ s, ∀ e ∈ r.ends s, ∃ x, r.Describes x ∧ s.Reads x e := fun s e he => ih he
    obtain ⟨xs, e₁, hlength, hxs, hreads, h⟩ := exists_of_mem_repeatedEnds hr h
    obtain ⟨ys, hroom, hys, hreads'⟩ := exists_of_mem_optionalEnds hr h
    refine ⟨(xs ++ ys).flatten, ⟨xs ++ ys, rfl, ?_, ?_, ?_⟩, ?_⟩
    · rw [List.length_append, hlength]
      exact Nat.le_add_right _ _
    · rintro n rfl
      have := Nat.le_trans hroom (Nat.min_le_left (n - least) _)
      rw [List.length_append, hlength]
      omega
    · exact List.forall_mem_append.mpr ⟨hxs, hys⟩
    · rw [List.flatten_append]
      exact hreads.trans hreads'

/-- The empty texts of a sequence can be left out. -/
lemma flatten_filter_ne_nil (xs : List (List Char)) :
    (xs.filter (· ≠ [])).flatten = xs.flatten := by
  induction xs with
  | nil => rfl
  | cons x xs ih =>
    rw [List.filter_cons]
    split
    case isTrue => rw [List.flatten_cons, List.flatten_cons, ih]
    case isFalse hx =>
      obtain rfl : x = [] := by simpa using hx
      exact ih

/-- There are no more texts than characters, if none is empty. -/
lemma length_le_length_flatten {xs : List (List Char)} (h : ∀ x ∈ xs, x ≠ []) :
    xs.length ≤ xs.flatten.length := by
  induction xs with
  | nil => exact Nat.le_refl _
  | cons x xs ih =>
    obtain ⟨hx, hxs⟩ := List.forall_mem_cons.mp h
    have hpos := List.length_pos_iff.mpr hx
    have := ih hxs
    rw [List.flatten_cons, List.length_append, List.length_cons]
    omega

/-- **Completeness.** A described text is read by some match. -/
theorem exists_mem_ends (hlocal : r.isLocal = true) (hx : r.Describes x) (hbegins : x <+: s.rest) :
    ∃ e ∈ r.ends s, s.Reads x e := by
  induction r generalizing s x with
  | empty =>
    obtain rfl := hx
    exact ⟨s, List.mem_singleton_self s, Spot.reads_nil⟩
  | one t ignoreCase =>
    obtain ⟨c, rfl, hc⟩ := hx
    obtain ⟨rest, hrest⟩ := hbegins
    refine ⟨s.next, ?_, Spot.reads_next hrest.symm⟩
    rw [ends, ← hrest]
    simp [hc]
  | textStart => simp [isLocal] at hlocal
  | textStop => simp [isLocal] at hlocal
  | wordEdge => simp [isLocal] at hlocal
  | both r t ihr iht =>
    rw [isLocal, Bool.and_eq_true] at hlocal
    obtain ⟨y, z, rfl, hy, hz⟩ := hx
    obtain ⟨e₁, he₁, hreads⟩ := ihr hlocal.1 hy ((List.prefix_append _ _).trans hbegins)
    obtain ⟨e, he, hreads'⟩ := iht hlocal.2 hz (hreads.prefix_rest hbegins)
    exact ⟨e, List.mem_flatMap.mpr ⟨e₁, he₁, he⟩, hreads.trans hreads'⟩
  | either r t ihr iht =>
    rw [isLocal, Bool.and_eq_true] at hlocal
    obtain hx | hx := hx
    · obtain ⟨e, he, hreads⟩ := ihr hlocal.1 hx hbegins
      exact ⟨e, List.mem_append_left _ he, hreads⟩
    · obtain ⟨e, he, hreads⟩ := iht hlocal.2 hx hbegins
      exact ⟨e, List.mem_append_right _ he, hreads⟩
  | many r least most isLazy ih =>
    have hr : ∀ (s : Spot) (x : List Char), r.Describes x → x <+: s.rest →
        ∃ e ∈ r.ends s, s.Reads x e := fun s x => ih hlocal
    obtain ⟨xs, rfl, hleast, hmost, hxs⟩ := hx
    -- the first `least` texts are required; of the others the matcher reads those with characters
    have hsplit : (xs.take least).flatten ++ ((xs.drop least).filter (· ≠ [])).flatten =
        xs.flatten := by
      rw [flatten_filter_ne_nil, ← List.flatten_append, List.take_append_drop]
    have hrest : ∀ x ∈ (xs.drop least).filter (· ≠ []), r.Describes x ∧ x ≠ [] := by
      intro x hx
      obtain ⟨hx, hne⟩ := List.mem_filter.mp hx
      exact ⟨hxs x (List.mem_of_mem_drop hx), of_decide_eq_true hne⟩
    have hroom : ∀ s : Spot, ((xs.drop least).filter (· ≠ [])).flatten <+: s.rest →
        ((xs.drop least).filter (· ≠ [])).length ≤ room least most s := by
      intro s hbegins
      have hchars := Nat.le_trans (length_le_length_flatten fun x hx => (hrest x hx).2)
        hbegins.length_le
      unfold room
      cases most with
      | none => exact hchars
      | some n =>
        have hfilter := List.length_filter_le (fun x : List Char => decide (x ≠ [])) (xs.drop least)
        have := hmost n rfl
        rw [List.length_drop] at hfilter
        exact Nat.le_min.mpr ⟨by omega, hchars⟩
    have htake : ∀ x ∈ xs.take least, r.Describes x := fun x hx =>
      hxs x (List.mem_of_mem_take hx)
    have hend := exists_mem_repeatedEnds (s := s) hr
      (fun s hbegins => exists_mem_optionalEnds hr isLazy (hroom s hbegins) hrest hbegins)
      htake (by rwa [hsplit])
    rwa [hsplit, List.length_take, Nat.min_eq_left hleast] at hend

/-- A text is a match as a whole exactly when it is described. -/
theorem matches_iff (hlocal : r.isLocal = true) : r.Matches x ↔ r.Describes x := by
  constructor
  · rintro ⟨e, he, hrest⟩
    obtain ⟨y, hy, hreads⟩ := exists_describes_of_mem_ends he
    have hxy : x = y ++ e.rest := hreads.1
    rw [hrest, List.append_nil] at hxy
    exact hxy ▸ hy
  · intro hx
    obtain ⟨e, he, hreads⟩ := exists_mem_ends (s := Spot.start x) hlocal hx (List.prefix_refl x)
    have hxe : x = x ++ e.rest := hreads.1
    exact ⟨e, he, List.append_right_eq_self.mp hxe.symm⟩

end Regex

end Diagnosis.Pattern
