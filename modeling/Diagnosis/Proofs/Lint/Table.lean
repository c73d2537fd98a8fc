import Diagnosis.Lint.Analysis
import Diagnosis.Proofs.Syntax.Site
import Mathlib.Data.List.Induction
import Mathlib.Data.List.Nodup

/-!
# What the table of names holds

A table is known by what it finds for each binding (`Table.find?`), as long as no binding has two
entries (`Table.Keyed`).

* After the first pass, the entry of a binding is made of the declarations of this binding, in their
  order (`find?_foldl_declare`).
* The second pass never changes which bindings there are, hence not what a name refers to
  (`target?_refer`); the entry of a binding takes in the references to this binding, in their order
  (`find?_foldl_refer`).
-/

namespace Diagnosis.Lint

open Diagnosis.Syntax

/-- Declaring again leaves the binding as it is. -/
lemma Entry.binding_redeclare (d : Declaration) (e : Entry) :
    (e.redeclare d).binding = e.binding := rfl

/-- A use leaves the binding as it is. -/
lemma Entry.binding_use (s : Site) (e : Entry) : (e.use s).binding = e.binding := by
  unfold Entry.use
  split <;> rfl

namespace Table

variable {t : Table} {b : Binding} {d : Declaration} {e : Entry}

/-! ## Looking up -/

/-- Whether no binding has two entries. -/
def Keyed (t : Table) : Prop := (t.map (·.binding)).Nodup

/-- The first entry is found if it is of the binding. -/
lemma find?_cons : Table.find? (e :: t) b = if e.binding = b then some e else t.find? b := by
  unfold Table.find?
  rw [List.find?_cons]
  by_cases h : e.binding = b
  · rw [if_pos h, beq_iff_eq.mpr h]
  · rw [if_neg h, beq_eq_false_iff_ne.mpr h]

/-- What is found is in the table, and is of the binding. -/
lemma of_find? (h : t.find? b = some e) : e ∈ t ∧ e.binding = b := by
  induction t with
  | nil => cases h
  | cons first rest ih =>
    rw [find?_cons] at h
    split at h
    case isTrue hb =>
      obtain rfl := Option.some.inj h
      exact ⟨List.mem_cons_self, hb⟩
    case isFalse => exact (ih h).imp_left (List.mem_cons_of_mem _)

/-- In a table with every binding once, an entry is found if it is in the table. -/
lemma Keyed.find?_eq_some_iff (h : t.Keyed) : t.find? b = some e ↔ e ∈ t ∧ e.binding = b := by
  constructor
  · exact of_find?
  · rintro ⟨he, rfl⟩
    unfold Keyed at h
    induction t with
    | nil => simp at he
    | cons first rest ih =>
      rw [List.map_cons, List.nodup_cons] at h
      rw [find?_cons]
      obtain rfl | he := List.mem_cons.mp he
      · rw [if_pos rfl]
      · have hne : first.binding ≠ e.binding :=
          fun heq => h.1 (heq ▸ List.mem_map_of_mem he)
        rw [if_neg hne]
        exact ih h.2 he

/-! ## The first pass -/

/-- Declaring changes the entry of its binding, or adds it. -/
lemma find?_declare :
    (t.declare d).find? b =
      if d.binding = b then some (((t.find? b).map (·.redeclare d)).getD (.of d)) else t.find? b := by
  induction t with
  | nil =>
    rw [declare, find?_cons]
    rfl
  | cons e rest ih =>
    rw [declare]
    by_cases he : e.binding = d.binding
    · rw [if_pos (beq_iff_eq.mpr he), find?_cons, find?_cons, Entry.binding_redeclare, he]
      by_cases h : d.binding = b
      · rw [if_pos h, if_pos h, if_pos h]
        rfl
      · rw [if_neg h, if_neg h, if_neg h]
    · rw [if_neg (by simpa using he), find?_cons, find?_cons, ih]
      by_cases hb : e.binding = b
      · rw [if_pos hb, if_pos hb, if_neg fun h => he (hb.trans h.symm)]
      · rw [if_neg hb, if_neg hb]

/-- Declaring adds a binding that is not in the table yet. -/
lemma map_binding_declare :
    (t.declare d).map (·.binding) =
      if d.binding ∈ t.map (·.binding) then t.map (·.binding)
      else t.map (·.binding) ++ [d.binding] := by
  induction t with
  | nil => rfl
  | cons e rest ih =>
    rw [declare]
    by_cases he : e.binding = d.binding
    · rw [if_pos (beq_iff_eq.mpr he), if_pos (by simp [he])]
      rfl
    · rw [if_neg (by simpa using he), List.map_cons, ih]
      have hmem : d.binding ∈ (e :: rest).map (·.binding) ↔ d.binding ∈ rest.map (·.binding) := by
        rw [List.map_cons, List.mem_cons, or_iff_right fun h => he h.symm]
      by_cases hrest : d.binding ∈ rest.map (·.binding)
      · rw [if_pos hrest, if_pos (hmem.mpr hrest)]
        rfl
      · rw [if_neg hrest, if_neg (hmem.not.mpr hrest)]
        rfl

/-- Declaring leaves every binding there once. -/
lemma Keyed.declare (h : t.Keyed) (d : Declaration) : (t.declare d).Keyed := by
  unfold Keyed
  rw [map_binding_declare]
  by_cases hmem : d.binding ∈ t.map (·.binding)
  · rw [if_pos hmem]
    exact h
  · rw [if_neg hmem, List.nodup_append]
    refine ⟨h, List.nodup_singleton _, fun a ha c hc => ?_⟩
    rw [List.mem_singleton.mp hc]
    exact fun heq => hmem (heq ▸ ha)

/-- Many declarations leave every binding there once. -/
lemma keyed_foldl_declare (ds : List Declaration) (h : t.Keyed) : (ds.foldl declare t).Keyed := by
  induction ds generalizing t with
  | nil => exact h
  | cons d ds ih => exact ih (h.declare d)

end Table

/-- The entry that several declarations of one binding make. -/
def Entry.ofAll : List Declaration → Option Entry
  | [] => none
  | d :: ds => some (ds.foldl (fun e d => e.redeclare d) (.of d))

/-- One more declaration declares the entry again. -/
lemma Entry.ofAll_concat (ds : List Declaration) (d : Declaration) :
    ofAll (ds ++ [d]) = some (((ofAll ds).map (·.redeclare d)).getD (.of d)) := by
  cases ds with
  | nil => rfl
  | cons d' ds =>
    rw [List.cons_append, ofAll, ofAll, List.foldl_append]
    rfl

/-- After the first pass, an entry is made of all declarations of its binding. -/
theorem Table.find?_foldl_declare (ds : List Declaration) (b : Binding) :
    Table.find? (ds.foldl Table.declare []) b = Entry.ofAll (ds.filter (·.binding == b)) := by
  induction ds using List.reverseRecOn with
  | nil => rfl
  | append_singleton ds d ih =>
    rw [List.foldl_append, List.foldl_cons, List.foldl_nil, find?_declare, ih, List.filter_append]
    by_cases h : d.binding = b
    · rw [if_pos h, List.filter_cons, if_pos (beq_iff_eq.mpr h), List.filter_nil,
        Entry.ofAll_concat]
    · rw [if_neg h, List.filter_cons, if_neg (by simpa using h), List.filter_nil, List.append_nil]

/-- What the declarations of a binding make of its entry. -/
lemma Entry.of_ofAll {ds : List Declaration} {e : Entry} (h : ofAll ds = some e) :
    e.idents = ds.map (·.ident) ∧ e.assigned = ds.any (·.hasValue) ∧ e.read = false ∧
      e.lastWrite? = none := by
  induction ds using List.reverseRecOn generalizing e with
  | nil => cases h
  | append_singleton ds d ih =>
    rw [ofAll_concat, Option.some.injEq] at h
    rw [List.map_append, List.any_append]
    cases hds : ofAll ds with
    | none =>
      have hnil : ds = [] := by
        cases ds with
        | nil => rfl
        | cons => cases hds
      rw [hds] at h
      rw [← h, hnil]
      simp [Entry.of]
    | some e' =>
      obtain ⟨hidents, hassigned, hread, hlast⟩ := ih hds
      rw [hds] at h
      rw [← h, ← hidents, ← hassigned]
      simp [Entry.redeclare, hread, hlast]

/-- The first declaration of a binding decides whether it is the own name of an expression, and any of them
exports it. -/
lemma Entry.flags_ofAll {ds : List Declaration} {e : Entry} (h : ofAll ds = some e) :
    e.isSelf = ds.head?.any (·.isSelf) ∧ e.exported = ds.any (·.exported) := by
  have hfold : ∀ (ds : List Declaration) (e : Entry),
      (ds.foldl (fun e d => e.redeclare d) e).isSelf = e.isSelf ∧
        (ds.foldl (fun e d => e.redeclare d) e).exported = (e.exported || ds.any (·.exported)) := by
    intro ds
    induction ds with
    | nil => exact fun e => ⟨rfl, (Bool.or_false _).symm⟩
    | cons d ds ih =>
      intro e
      obtain ⟨hself, hexported⟩ := ih (e.redeclare d)
      rw [List.foldl_cons, hself, hexported, List.any_cons, ← Bool.or_assoc]
      exact ⟨rfl, rfl⟩
  cases ds with
  | nil => cases h
  | cons d ds =>
    obtain rfl := Option.some.inj h
    exact hfold ds (.of d)

/-- There is an entry unless there is no declaration. -/
lemma Entry.ofAll_eq_none_iff {ds : List Declaration} : ofAll ds = none ↔ ds = [] := by
  cases ds with
  | nil => simp [ofAll]
  | cons => simp [ofAll]

/-! ## The second pass -/

namespace Table

variable {t : Table} {b c : Binding} {e : Entry} {f : Entry → Entry} {s : Site} {name : String}

/-- Changing entries leaves the bindings as they are. -/
lemma map_binding_update (hf : ∀ e, (f e).binding = e.binding) :
    (t.update b f).map (·.binding) = t.map (·.binding) := by
  unfold update
  rw [List.map_map]
  refine List.map_congr_left fun e _ => ?_
  dsimp only [Function.comp]
  split
  · exact hf e
  · rfl

/-- Changing an entry changes what is found of its binding. -/
lemma find?_update (hf : ∀ e, (f e).binding = e.binding) :
    (t.update b f).find? c = (t.find? c).map fun e => if e.binding == b then f e else e := by
  unfold update
  induction t with
  | nil => rfl
  | cons e rest ih =>
    have hbinding : (if e.binding == b then f e else e).binding = e.binding := by
      split
      · exact hf e
      · rfl
    rw [List.map_cons, find?_cons, find?_cons, ih, hbinding]
    by_cases h : e.binding = c
    · rw [if_pos h, if_pos h, Option.map_some]
    · rw [if_neg h, if_neg h]

/-- The binding that a name refers to at a site. -/
def target? (t : Table) (s : Site) (name : String) : Option Binding :=
  (t.resolve s name).map (·.binding)

/-- Changing entries leaves what names refer to as it is. -/
lemma target?_update (hf : ∀ e, (f e).binding = e.binding) :
    (t.update b f).target? s name = t.target? s name := by
  unfold target? resolve
  rw [List.map_findSome?, List.map_findSome?]
  congr 1
  funext scope
  dsimp only [Function.comp]
  rw [find?_update hf]
  cases t.find? ⟨scope.address, name⟩ with
  | none => rfl
  | some e =>
    rw [Option.map_some, Option.map_some, Option.map_some]
    split
    · rw [hf e]
    · rfl

/-- A name is resolved to the entry of the nearest scope that has it. -/
lemma resolve_eq_some_iff :
    t.resolve s name = some e ↔
      ∃ scope, s.IsNearest (fun a => (t.find? ⟨a.address, name⟩).isSome) scope ∧
        t.find? ⟨scope.address, name⟩ = some e := by
  unfold resolve Site.IsNearest
  rw [List.findSome?_eq_some_iff]
  constructor
  · rintro ⟨nearer, scope, farther, hsplit, hfind, hnearer⟩
    refine ⟨scope, ⟨nearer, farther, hsplit, ?_, fun a ha => ?_⟩, hfind⟩
    · dsimp only
      rw [hfind, Option.isSome_some]
    · dsimp only
      rw [hnearer a ha, Option.isSome_none]
      exact Bool.false_ne_true
  · rintro ⟨scope, ⟨nearer, farther, hsplit, -, hnearer⟩, hfind⟩
    exact ⟨nearer, scope, farther, hsplit, hfind, fun a ha => by simpa using hnearer a ha⟩

/-- In a table where no binding has two entries, a name refers to an entry if it refers to the
binding of the entry. -/
lemma Keyed.resolve_eq_some_iff (h : t.Keyed) (he : e ∈ t) :
    t.resolve s name = some e ↔ t.target? s name = some e.binding := by
  unfold target?
  constructor
  · intro hresolve
    rw [hresolve, Option.map_some]
  · intro htarget
    obtain ⟨e', hresolve, hbinding⟩ := Option.map_eq_some_iff.mp htarget
    obtain ⟨scope, -, hfind⟩ := Table.resolve_eq_some_iff.mp hresolve
    obtain ⟨he', hb'⟩ := of_find? hfind
    have hfind' : t.find? ⟨scope.address, name⟩ = some e :=
      h.find?_eq_some_iff.mpr ⟨he, hbinding.symm.trans hb'⟩
    rw [hresolve, ← hfind, hfind']

end Table

namespace Analysis

variable {src : Source} {a : Analysis} {s s' : Site} {b : Binding} {name : String}

/-- A reference does not change what names refer to. -/
lemma target?_refer : (a.refer src s).table.target? s' name = a.table.target? s' name := by
  unfold refer
  split
  · exact Table.target?_update (Entry.binding_use s)
  · split <;> rfl

/-- A reference leaves the bindings as they are. -/
lemma map_binding_refer :
    (a.refer src s).table.map (·.binding) = a.table.map (·.binding) := by
  unfold refer
  split
  · exact Table.map_binding_update (Entry.binding_use s)
  · split <;> rfl

/-- A reference is taken in by the entry it refers to. -/
lemma find?_refer :
    (a.refer src s).table.find? b = (a.table.find? b).map fun e =>
      if a.table.target? s (src.text s.node) = some b then e.use s else e := by
  unfold refer Table.target?
  cases hresolve : a.table.resolve s (src.text s.node) with
  | some e₀ =>
    rw [Option.map_some, Table.find?_update (Entry.binding_use s)]
    cases hfind : a.table.find? b with
    | none => rfl
    | some e =>
      rw [Option.map_some, Option.map_some, (Table.of_find? hfind).2]
      by_cases hb : e₀.binding = b
      · rw [if_pos (beq_iff_eq.mpr hb.symm), if_pos (congrArg some hb)]
      · rw [if_neg (by simpa using Ne.symm hb), if_neg (by simpa using hb)]
  | none =>
    have hid : (fun e : Entry => if (none : Option Entry).map (·.binding) = some b then e.use s else e) =
        id := by
      funext e
      exact if_neg (by simp)
    rw [hid, Option.map_id]
    dsimp only
    split <;> rfl

/-- Those of several references that refer to a binding. -/
def usesOf (src : Source) (t : Table) (refs : List Site) (b : Binding) : List Site :=
  refs.filter fun s => t.target? s (src.text s.node) = some b

/-- **The second pass.** An entry takes in the references to its binding. -/
theorem find?_foldl_refer (refs : List Site) :
    (refs.foldl (refer src) a).table.find? b = (a.table.find? b).map fun e =>
      (usesOf src a.table refs b).foldl (fun e s => e.use s) e := by
  induction refs generalizing a with
  | nil =>
    exact Option.map_id'.symm
  | cons s refs ih =>
    have huses : usesOf src (a.refer src s).table refs b = usesOf src a.table refs b := by
      unfold usesOf
      simp only [target?_refer]
    rw [List.foldl_cons, ih, huses, find?_refer, Option.map_map]
    congr 1
    funext e
    dsimp only [Function.comp]
    unfold usesOf
    by_cases htarget : a.table.target? s (src.text s.node) = some b
    · rw [if_pos htarget, List.filter_cons, if_pos (decide_eq_true htarget), List.foldl_cons]
    · rw [if_neg htarget, List.filter_cons, if_neg (by simpa using htarget)]

/-- References leave what names refer to as it is. -/
lemma target?_foldl_refer (refs : List Site) :
    (refs.foldl (refer src) a).table.target? s' name = a.table.target? s' name := by
  induction refs generalizing a with
  | nil => rfl
  | cons s refs ih => rw [List.foldl_cons, ih, target?_refer]

/-- References leave every binding there once. -/
lemma keyed_foldl_refer (refs : List Site) (h : a.table.Keyed) :
    (refs.foldl (refer src) a).table.Keyed := by
  induction refs generalizing a with
  | nil => exact h
  | cons s refs ih =>
    refine ih ?_
    unfold Table.Keyed
    rw [map_binding_refer]
    exact h

end Analysis

/-- What the references to a binding make of its entry. -/
lemma Entry.foldl_use (uses : List Site) (e : Entry) :
    let e' := uses.foldl (fun e s => e.use s) e
    e'.binding = e.binding ∧ e'.idents = e.idents ∧
      e'.read = (e.read || uses.any fun s => !isWriteOnly s) ∧
      e'.assigned = (e.assigned || uses.any isWriteOnly) ∧
      e'.lastWrite? = ((uses.filter isWriteOnly).getLast?).or e.lastWrite? := by
  dsimp only
  induction uses using List.reverseRecOn with
  | nil => simp
  | append_singleton uses s ih =>
    obtain ⟨hbinding, hidents, hread, hassigned, hlast⟩ := ih
    rw [List.foldl_append, List.foldl_cons, List.foldl_nil]
    generalize uses.foldl (fun e s => e.use s) e = e' at *
    rw [Entry.binding_use, List.any_append, List.any_append, List.filter_append]
    unfold Entry.use
    by_cases hs : isWriteOnly s = true
    · rw [if_pos hs]
      simp [Entry.write, hs, hbinding, hidents, hread]
    · rw [if_neg hs]
      simp [Entry.markRead, hs, hbinding, hidents, hassigned, hlast]

/-- References change neither whether a binding is an own name nor whether it is exported. -/
lemma Entry.flags_foldl_use (uses : List Site) (e : Entry) :
    (uses.foldl (fun e s => e.use s) e).isSelf = e.isSelf ∧
      (uses.foldl (fun e s => e.use s) e).exported = e.exported := by
  induction uses generalizing e with
  | nil => exact ⟨rfl, rfl⟩
  | cons s uses ih =>
    have huse : (e.use s).isSelf = e.isSelf ∧ (e.use s).exported = e.exported := by
      unfold Entry.use
      split <;> exact ⟨rfl, rfl⟩
    rw [List.foldl_cons, ← huse.1, ← huse.2]
    exact ih (e.use s)

end Diagnosis.Lint
