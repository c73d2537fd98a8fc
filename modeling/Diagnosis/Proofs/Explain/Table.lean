import Diagnosis.Explain.Table
import Diagnosis.Proofs.Lists
import Diagnosis.Proofs.Text.Search

/-!
# The order of the explanations

A diagnostic is explained by the entry of its rule, else by the first entry whose key its message has.
So the order of the table counts where a message has several keys.

* **When the order makes no difference** (`forall_perm_lookup_iff`): exactly if the table knows the
  rule, or else the message has at most one key.
* The keys should keep apart, but one of them lies within another one, "semi" in "Missing semicolon"
  (`stringOccurs_key_iff`), so the latter is never the only key of a message (`not_isUnambiguous`).
* Keys that have nothing to do with each other come together as well (`lookup_quoted`): a compiler that
  misses a semicolon quotes what stands there instead, which may be a key, and the entry of that comes first.
-/

namespace Diagnosis.Explain

open Diagnosis.Text

variable {entries entries' : List (String × Explanation)} {rule : Option String} {message : String}

/-! ## Rules and keys -/

/-- Whether a table has an entry for a rule. -/
def KnowsRule (entries : List (String × Explanation)) (rule : Option String) : Prop :=
  ∃ r ∈ rule, r ∈ entries.map (·.1)

/-- Whether a message has at most one key of a table. -/
def IsUnambiguous (entries : List (String × Explanation)) (message : String) : Prop :=
  ∀ k ∈ entries.map (·.1), ∀ k' ∈ entries.map (·.1),
    stringOccurs k message = true → stringOccurs k' message = true → k = k'

/-- Nothing is found for a rule if the table does not know it. -/
lemma bind_lookup_eq_none_iff :
    (rule.bind fun r => entries.lookup r) = none ↔ ¬ KnowsRule entries rule := by
  cases rule with
  | none => exact iff_of_true rfl nofun
  | some r =>
    rw [Option.bind_some, ← Option.not_isSome_iff_eq_none, isSome_lookup_iff]
    exact not_congr ⟨fun h => ⟨r, rfl, h⟩, fun ⟨_, hr, h⟩ => Option.some.inj hr ▸ h⟩

/-- A message with the first key gets the first entry, unless the rule is known. -/
lemma lookupIn_cons {entry : String × Explanation} (hrule : ¬ KnowsRule (entry :: entries) rule)
    (h : stringOccurs entry.1 message = true) : lookupIn (entry :: entries) rule message = entry.2 := by
  have hfind : (entry :: entries).find? (fun entry => stringOccurs entry.1 message) = some entry :=
    List.find?_cons_of_pos h
  rw [lookupIn, bind_lookup_eq_none_iff.mpr hrule, hfind]

/-! ## Any order -/

/-- The order of the table makes no difference to the rules that it knows. -/
lemma KnowsRule.perm (hperm : entries'.Perm entries) :
    KnowsRule entries' rule ↔ KnowsRule entries rule :=
  exists_congr fun _ => and_congr_right fun _ => (hperm.map (·.1)).mem_iff

/-- The order makes no difference if the rule is known or the message has one key at most. -/
lemma lookupIn_perm (hperm : entries'.Perm entries) (hkeys : (entries.map (·.1)).Nodup)
    (h : KnowsRule entries rule ∨ IsUnambiguous entries message) :
    lookupIn entries' rule message = lookupIn entries rule message := by
  have hrule : (rule.bind fun r => entries'.lookup r) = rule.bind fun r => entries.lookup r :=
    congrArg rule.bind (funext fun r => lookup_perm hperm hkeys r)
  rw [lookupIn, lookupIn, hrule]
  cases hfound : rule.bind fun r => entries.lookup r with
  | some e => rfl
  | none =>
    have hone := h.resolve_left (bind_lookup_eq_none_iff.mp hfound)
    have hfind := find?_perm (p := fun entry => stringOccurs entry.1 message) hperm
      fun x hx y hy hxkey hykey => List.inj_on_of_nodup_map hkeys hx hy
        (hone x.1 (List.mem_map_of_mem hx) y.1 (List.mem_map_of_mem hy) hxkey hykey)
    dsimp only
    rw [hfind]

/-- If the order makes no difference and the rule is not known, every entry whose key the message has is the
explanation. -/
lemma lookupIn_eq_of_forall_perm (hrule : ¬ KnowsRule entries rule)
    (h : ∀ entries' : List (String × Explanation), entries'.Perm entries →
      lookupIn entries' rule message = lookupIn entries rule message)
    {entry : String × Explanation} (hmem : entry ∈ entries)
    (hkey : stringOccurs entry.1 message = true) : lookupIn entries rule message = entry.2 := by
  have hperm : (entry :: entries.erase entry).Perm entries := (List.perm_cons_erase hmem).symm
  rw [← h _ hperm]
  exact lookupIn_cons (mt (KnowsRule.perm hperm).mp hrule) hkey

/-- The table has every key once. -/
lemma nodup_keys : (table.map (·.1)).Nodup := by decide

/-- The table has every explanation once. -/
lemma nodup_explanations : (table.map (·.2)).Nodup := by decide

/-- **When the order of the table makes no difference.** -/
theorem forall_perm_lookup_iff (rule : Option String) (message : String) :
    (∀ entries : List (String × Explanation), entries.Perm table →
        lookupIn entries rule message = lookup rule message) ↔
      KnowsRule table rule ∨ IsUnambiguous table message := by
  constructor
  · intro h
    by_cases hrule : KnowsRule table rule
    · exact .inl hrule
    · refine .inr ?_
      intro k hk k' hk' hkey hkey'
      obtain ⟨entry, hmem, rfl⟩ := List.mem_map.mp hk
      obtain ⟨entry', hmem', rfl⟩ := List.mem_map.mp hk'
      have hsame : entry.2 = entry'.2 :=
        (lookupIn_eq_of_forall_perm hrule h hmem hkey).symm.trans
          (lookupIn_eq_of_forall_perm hrule h hmem' hkey')
      exact congrArg Prod.fst (List.inj_on_of_nodup_map nodup_explanations hmem hmem' hsame)
  · exact fun h entries hperm => lookupIn_perm hperm nodup_keys h

/-! ## Messages with several keys -/

/-- The one key that lies within another one. -/
theorem stringOccurs_key_iff : ∀ k ∈ table.map (·.1), ∀ k' ∈ table.map (·.1),
    stringOccurs k k' = true ↔ k = k' ∨ k = "semi" ∧ k' = "Missing semicolon" := by
  decide +kernel

/-- A message of a missing semicolon has two keys. -/
theorem not_isUnambiguous (h : stringOccurs "Missing semicolon" message = true) :
    ¬ IsUnambiguous table message := by
  intro hone
  have hsemi : stringOccurs "semi" message = true := by
    have hpart : "semi".toList <:+: "Missing semicolon".toList := occurs_iff.mp (by decide)
    exact occurs_iff.mpr (hpart.trans (occurs_iff.mp h))
  exact absurd (hone "semi" (by decide) "Missing semicolon" (by decide) hsemi h) (by decide)

/-- What stands where a semicolon is missed may itself be a key, and then its entry comes before the one that
fits; in the other order the one that fits is found. -/
theorem lookup_quoted :
    table.lookup "indent" = some (lookup (some "g++-compilation") "expected ';' before 'indent'") ∧
      table.lookup "expected ';'" =
        some (lookupIn table.reverse (some "g++-compilation") "expected ';' before 'indent'") := by
  decide +kernel

end Diagnosis.Explain
