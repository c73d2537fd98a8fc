import Diagnosis.Proofs.Pattern.Regex

/-!
# What described texts begin with

A regular expression is read character by character: `Regex.rests` gives, for a first character, the
expressions of which one describes what follows (`exists_mem_rests`). With them it can be computed
that no described text agrees with a given one as far as both go (`not_prefix_of_disagrees`).

`Regex.avoids` computes that a character stands in no described text (`not_mem_of_avoids`), and
`Regex.escapes` that each holds a character outside of some (`exists_not_mem_of_escapes`).
-/

namespace Diagnosis.Pattern.Regex

variable {r : Regex} {c : Char} {x : List Char}

/-! ## The empty text -/

/-- Whether the empty text is described. -/
def isNullable : Regex → Bool
  | empty => true
  | one _ _ => false
  | textStart => true
  | textStop _ => true
  | wordEdge _ => true
  | both r s => r.isNullable && s.isNullable
  | either r s => r.isNullable || s.isNullable
  | many r least _ _ => least == 0 || r.isNullable

/-- An expression describes the empty text if it may be empty. -/
lemma describes_nil_iff : r.Describes [] ↔ r.isNullable = true := by
  induction r with
  | empty => simp [Describes, isNullable]
  | one => simp [Describes, isNullable]
  | textStart => simp [Describes, isNullable]
  | textStop => simp [Describes, isNullable]
  | wordEdge => simp [Describes, isNullable]
  | both r s ihr ihs =>
    rw [isNullable, Bool.and_eq_true, ← ihr, ← ihs]
    constructor
    · rintro ⟨y, z, hyz, hy, hz⟩
      obtain ⟨rfl, rfl⟩ := List.append_eq_nil_iff.mp hyz.symm
      exact ⟨hy, hz⟩
    · rintro ⟨hy, hz⟩
      exact ⟨[], [], rfl, hy, hz⟩
  | either r s ihr ihs => rw [isNullable, Bool.or_eq_true, ← ihr, ← ihs, Describes]
  | many r least most isLazy ih =>
    rw [isNullable, Bool.or_eq_true, beq_iff_eq, ← ih]
    constructor
    · rintro ⟨xs, hflatten, hleast, -, hxs⟩
      cases xs with
      | nil => exact .inl (Nat.le_zero.mp hleast)
      | cons y xs =>
        obtain rfl := List.flatten_eq_nil_iff.mp hflatten.symm y List.mem_cons_self
        exact .inr (hxs [] List.mem_cons_self)
    · intro h
      obtain rfl | h := h
      · exact ⟨[], rfl, Nat.le_refl _, fun n _ => Nat.zero_le _, by simp⟩
      · refine ⟨List.replicate least [], by simp, by simp, fun n _ => ?_, fun y hy => ?_⟩
        · rw [List.length_replicate]
          exact Nat.le_max_left _ _
        · rwa [List.eq_of_mem_replicate hy]

/-- Where the empty text is not described, every described text has a first character. -/
lemma Describes.exists_eq_cons (hx : r.Describes x) (hr : r.isNullable = false) :
    ∃ c rest, x = c :: rest := by
  refine List.exists_cons_of_ne_nil fun hnil => ?_
  rw [hnil, describes_nil_iff, hr] at hx
  exact Bool.noConfusion hx

/-- What is described by an expression that is never empty is not empty. -/
lemma Describes.ne_nil (hx : r.Describes x) (hr : r.isNullable = false) : x ≠ [] := by
  rcases hx.exists_eq_cons hr with ⟨c, rest, rfl⟩
  exact List.cons_ne_nil c rest

/-! ## The first character -/

/-- The expressions of which one describes what comes after a first character. -/
def rests (c : Char) : Regex → List Regex
  | empty => []
  | one t ignoreCase => if t.accepts ignoreCase c then [empty] else []
  | textStart => []
  | textStop _ => []
  | wordEdge _ => []
  | both r s =>
    (rests c r).map (both · s) ++ if r.isNullable then rests c s else []
  | either r s => rests c r ++ rests c s
  | many r least most isLazy =>
    (rests c r).map (both · (many r (least - 1) (most.map (· - 1)) isLazy))

/-- Behind a first character, one of the rests describes what follows. -/
lemma exists_mem_rests (hx : r.Describes (c :: x)) : ∃ r' ∈ r.rests c, r'.Describes x := by
  induction r generalizing x with
  | empty => cases hx
  | one t ignoreCase =>
    obtain ⟨d, hd, haccepts⟩ := hx
    obtain ⟨rfl, rfl⟩ := List.cons.inj hd
    exact ⟨empty, by simp [rests, haccepts], rfl⟩
  | textStart => cases hx
  | textStop => cases hx
  | wordEdge => cases hx
  | both r s ihr ihs =>
    obtain ⟨y, z, hyz, hy, hz⟩ := hx
    obtain ⟨rfl, rfl⟩ | ⟨y, rfl, rfl⟩ := List.cons_eq_append_iff.mp hyz
    · obtain ⟨s', hs', hx⟩ := ihs hz
      refine ⟨s', List.mem_append_right _ ?_, hx⟩
      rwa [if_pos (describes_nil_iff.mp hy)]
    · obtain ⟨r', hr', hy⟩ := ihr hy
      exact ⟨.both r' s, List.mem_append_left _ (List.mem_map_of_mem hr'), y, z, rfl, hy, hz⟩
  | either r s ihr ihs =>
    obtain hx | hx := hx
    · obtain ⟨r', hr', hx⟩ := ihr hx
      exact ⟨r', List.mem_append_left _ hr', hx⟩
    · obtain ⟨s', hs', hx⟩ := ihs hx
      exact ⟨s', List.mem_append_right _ hs', hx⟩
  | many r least most isLazy ih =>
    obtain ⟨xs, hflatten, hleast, hmost, hxs⟩ := hx
    -- empty repetitions before the first character can as well come after it
    obtain ⟨empties, y, zs, rfl, hnil, rfl⟩ := List.flatten_eq_cons_iff.mp hflatten.symm
    obtain ⟨hempties, hrest⟩ := List.forall_mem_append.mp hxs
    obtain ⟨hy, hzs⟩ := List.forall_mem_cons.mp hrest
    obtain ⟨r', hr', hy⟩ := ih hy
    refine ⟨_, List.mem_map_of_mem hr', y, zs.flatten, rfl, hy, empties ++ zs, ?_, ?_, ?_, ?_⟩
    · rw [List.flatten_append, List.flatten_eq_nil_iff.mpr hnil, List.nil_append]
    · rw [List.length_append, List.length_cons] at hleast
      rw [List.length_append]
      omega
    · intro n hn
      obtain ⟨m, rfl, rfl⟩ := Option.map_eq_some_iff.mp hn
      have := hmost m rfl
      rw [List.length_append, List.length_cons] at this
      rw [List.length_append]
      omega
    · exact List.forall_mem_append.mpr ⟨hempties, hzs⟩

/-! ## Agreement -/

/-- Whether no text that one of several expressions describes agrees with `v` as far as both go. -/
def disagrees : List Char → List Regex → Bool
  | [], rs => rs.isEmpty
  | c :: v, rs => rs.all (!·.isNullable) && disagrees v (rs.flatMap (rests c))

/-- Nothing that an expression describes begins in a text with which it disagrees, whatever comes behind the
text. -/
theorem not_prefix_of_disagrees {v : List Char} {rs : List Regex} (h : disagrees v rs = true)
    (hr : r ∈ rs) (hx : r.Describes x) (z : List Char) : ¬ x <+: v ++ z := by
  induction v generalizing rs r x with
  | nil =>
    rw [disagrees, List.isEmpty_iff] at h
    rw [h] at hr
    cases hr
  | cons c v ih =>
    rw [disagrees, Bool.and_eq_true, List.all_eq_true] at h
    obtain ⟨hnullable, hrest⟩ := h
    obtain ⟨d, x, rfl⟩ := hx.exists_eq_cons (by simpa using hnullable r hr)
    intro hbegins
    obtain ⟨rfl, hrest'⟩ := List.cons_prefix_cons.mp hbegins
    obtain ⟨r', hr', hx⟩ := exists_mem_rests hx
    exact ih hrest (List.mem_flatMap.mpr ⟨r, hr, hr'⟩) hx hrest'

/-- Whether every test in an expression fails for a character. -/
def avoids (c : Char) : Regex → Bool
  | empty => true
  | one t ignoreCase => !t.accepts ignoreCase c
  | textStart => true
  | textStop _ => true
  | wordEdge _ => true
  | both r s => avoids c r && avoids c s
  | either r s => avoids c r && avoids c s
  | many r _ _ _ => avoids c r

/-- What an expression avoids is in nothing that it describes. -/
lemma not_mem_of_avoids (h : r.avoids c = true) (hx : r.Describes x) : c ∉ x := by
  induction r generalizing x with
  | empty => exact hx ▸ List.not_mem_nil
  | one t ignoreCase =>
    obtain ⟨d, rfl, haccepts⟩ := hx
    rw [avoids, Bool.not_eq_true'] at h
    intro hc
    rw [List.mem_singleton.mp hc, haccepts] at h
    cases h
  | textStart => exact hx ▸ List.not_mem_nil
  | textStop => exact hx ▸ List.not_mem_nil
  | wordEdge => exact hx ▸ List.not_mem_nil
  | both r s ihr ihs =>
    rw [avoids, Bool.and_eq_true] at h
    obtain ⟨y, z, rfl, hy, hz⟩ := hx
    exact List.not_mem_append (ihr h.1 hy) (ihs h.2 hz)
  | either r s ihr ihs =>
    rw [avoids, Bool.and_eq_true] at h
    exact hx.elim (ihr h.1) (ihs h.2)
  | many r least most isLazy ih =>
    obtain ⟨xs, rfl, -, -, hxs⟩ := hx
    intro hc
    obtain ⟨y, hy, hc⟩ := List.mem_flatten.mp hc
    exact ih h (hxs y hy) hc

/-- Whether every described text holds a character outside of `cs`. -/
def escapes (cs : List Char) : Regex → Bool
  | empty => false
  | one t ignoreCase => cs.all (!t.accepts ignoreCase ·)
  | textStart => false
  | textStop _ => false
  | wordEdge _ => false
  | both r s => escapes cs r || escapes cs s
  | either r s => escapes cs r && escapes cs s
  | many r least _ _ => 0 < least && escapes cs r

/-- What escapes a set of characters has a character outside of it. -/
lemma exists_not_mem_of_escapes {cs : List Char} (h : r.escapes cs = true) (hx : r.Describes x) :
    ∃ c ∈ x, c ∉ cs := by
  induction r generalizing x with
  | one t ignoreCase =>
    rcases hx with ⟨c, rfl, haccepts⟩
    have hfails : ∀ d ∈ cs, t.accepts ignoreCase d = false := by simpa [escapes] using h
    refine ⟨c, List.mem_singleton_self c, fun hc => ?_⟩
    simp [hfails c hc] at haccepts
  | both r s ihr ihs =>
    rcases hx with ⟨y, z, rfl, hy, hz⟩
    have hor : r.escapes cs = true ∨ s.escapes cs = true := by simpa [escapes] using h
    rcases hor with h | h
    · rcases ihr h hy with ⟨c, hc, hout⟩
      exact ⟨c, List.mem_append_left z hc, hout⟩
    · rcases ihs h hz with ⟨c, hc, hout⟩
      exact ⟨c, List.mem_append_right y hc, hout⟩
  | either r s ihr ihs =>
    have hand : r.escapes cs = true ∧ s.escapes cs = true := by simpa [escapes] using h
    exact hx.elim (ihr hand.1) (ihs hand.2)
  | many r least most isLazy ih =>
    rcases hx with ⟨xs, rfl, hleast, -, hxs⟩
    have hand : 0 < least ∧ r.escapes cs = true := by simpa [escapes] using h
    rcases List.exists_mem_of_length_pos (Nat.lt_of_lt_of_le hand.1 hleast) with ⟨y, hy⟩
    rcases ih hand.2 (hxs y hy) with ⟨c, hc, hout⟩
    exact ⟨c, List.mem_flatten_of_mem hy hc, hout⟩
  | _ => simp [escapes] at h

end Diagnosis.Pattern.Regex
