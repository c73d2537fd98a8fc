import Diagnosis.Proofs.Lint.NameReport
import Diagnosis.Proofs.Lint.Renaming
import Diagnosis.Proofs.Lists
import Diagnosis.Proofs.Syntax.Overwrite

/-!
# Renaming a variable renames it in the messages

A variable is overwritten with a new name of the same length (`Renaming.apply`). Then the rules on names
say the same as before, with the new name in place of the old one (`aboutNames_rename`):

1. overwriting changes the text of the identifiers where the variable occurs and of no others, and moves
   none (`renames_apply`), so the analysis is the renamed one (`Renames.analysis_eq`);
2. what the rules look up in the analysis commutes with renaming, since bindings that are different stay
   different;
3. a report keeps its place and its name, unless it is about the variable (`nameReports_rename`).

A name with a line feed is left out, as is an identifier that cuts a character: there the places after
the identifier may move (`aboutNames_rename_moves`).
-/

namespace Diagnosis.Lint

open Diagnosis.Text Diagnosis.Syntax

/-! ## Renaming commutes with what the rules look up -/

section names

variable {r : Renaming} {a : Analysis} {c : Binding}

/-- Whether neither an entry nor a parameter of an analysis has the new name. -/
structure Renaming.Spares (r : Renaming) (a : Analysis) : Prop where
  table : r.IsFresh a.table
  parameters : ∀ bs ∈ a.parameters, ∀ c ∈ bs, c.name ≠ r.name

/-- Bindings without the new name are told apart by their renamed forms. -/
lemma Renaming.contains_map_binding {bs : List Binding} (hbs : ∀ c ∈ bs, c.name ≠ r.name)
    (hc : c.name ≠ r.name) : (bs.map r.binding).contains (r.binding c) = bs.contains c := by
  rw [Bool.eq_iff_iff, List.contains_iff_mem, List.contains_iff_mem, List.mem_map]
  constructor
  · rintro ⟨d, hd, heq⟩
    exact (binding_inj (hbs d hd) hc).mp heq ▸ hd
  · exact fun hmem => ⟨c, hmem, rfl⟩

/-- Renaming keeps apart the bindings with other names than the new one, so it commutes with leaving out
repetitions. -/
lemma Renaming.eraseDups_map_binding {bs : List Binding} (hbs : ∀ c ∈ bs, c.name ≠ r.name) :
    (bs.map r.binding).eraseDups = bs.eraseDups.map r.binding :=
  eraseDups_map fun c hc d hd => binding_inj (hbs c hc) (hbs d hd)

/-- A binding is read after renaming if it was before. -/
lemma Renaming.isRead_analysis (ha : r.Spares a) (hc : c.name ≠ r.name) :
    (r.analysis a).isRead (r.binding c) = a.isRead c := by
  unfold Analysis.isRead
  change (((r.table a.table).find? _).map _).getD _ = _
  rw [find?_binding ha.table hc, Option.map_map]
  rfl

/-- The parameters at the end of a list that nobody reads are the renamed ones. -/
lemma Renaming.trailingUnread_analysis (ha : r.Spares a) {bs : List Binding}
    (hbs : ∀ c ∈ bs, c.name ≠ r.name) :
    Names.trailingUnread (r.analysis a) (bs.map r.binding) =
      (Names.trailingUnread a bs).map r.binding := by
  have htakeWhile : ∀ cs : List Binding, (∀ c ∈ cs, c.name ≠ r.name) →
      (cs.map r.binding).takeWhile (!(r.analysis a).isRead ·) =
        (cs.takeWhile (!a.isRead ·)).map r.binding := by
    intro cs hcs
    induction cs with
    | nil => rfl
    | cons c cs ih =>
      obtain ⟨hc, hcs⟩ := List.forall_mem_cons.mp hcs
      rw [List.map_cons, List.takeWhile_cons, List.takeWhile_cons, isRead_analysis ha hc, ih hcs]
      split <;> rfl
  unfold Names.trailingUnread
  rw [← List.map_reverse, htakeWhile _ fun c hc => hbs c (List.mem_reverse.mp hc), List.map_reverse]

/-- The unused parameters are the renamed ones. -/
lemma Renaming.unusedParameters_analysis (ha : r.Spares a) :
    Names.unusedParameters (r.analysis a) = (Names.unusedParameters a).map r.entry := by
  have htrailing : (r.analysis a).parameters.flatMap (Names.trailingUnread (r.analysis a)) =
      (a.parameters.flatMap (Names.trailingUnread a)).map r.binding := by
    unfold analysis
    rw [List.flatMap_map, List.map_flatMap]
    exact List.flatMap_congr fun bs hbs => trailingUnread_analysis ha (ha.parameters bs hbs)
  have hfresh : ∀ c ∈ a.parameters.flatMap (Names.trailingUnread a), c.name ≠ r.name := by
    intro c hc
    obtain ⟨bs, hbs, hc⟩ := List.mem_flatMap.mp hc
    exact ha.parameters bs hbs c (Names.mem_of_mem_trailingUnread hc)
  unfold Names.unusedParameters
  rw [htrailing, eraseDups_map_binding hfresh, List.filterMap_map, List.map_filterMap]
  exact List.filterMap_congr fun c hc =>
    find?_binding ha.table (hfresh c (List.mem_eraseDups.mp hc))

/-- The entries are the renamed ones. -/
lemma Renaming.entries_analysis : (r.analysis a).entries = a.entries.map r.entry := by
  unfold Analysis.entries analysis table
  dsimp only
  rw [List.map_map, List.map_flatMap]
  have hscope : ∀ e : Entry, (r.entry e).binding.scope = e.binding.scope :=
    fun e => scope_binding e.binding
  congr 1
  · funext scope
    rw [List.filter_map]
    refine congrArg _ (List.filter_congr fun e _ => ?_)
    dsimp only [Function.comp]
    rw [hscope]
  · refine congrArg _ (List.map_congr_left fun e _ => ?_)
    exact hscope e

/-- The unused variables are the renamed ones. -/
lemma Renaming.unusedVariables_analysis (ha : r.Spares a) :
    Names.unusedVariables (r.analysis a) = (Names.unusedVariables a).map r.entry := by
  have hflatten : ∀ c ∈ a.parameters.flatten, c.name ≠ r.name := by
    intro c hc
    obtain ⟨bs, hbs, hc⟩ := List.mem_flatten.mp hc
    exact ha.parameters bs hbs c hc
  unfold Names.unusedVariables
  dsimp only
  rw [entries_analysis, List.filter_map]
  refine congrArg _ (List.filter_congr fun e he => ?_)
  have hparameters : (r.analysis a).parameters.flatten = a.parameters.flatten.map r.binding :=
    List.map_flatten.symm
  have hname := ha.table _ (List.mem_map_of_mem (Analysis.mem_of_mem_entries he))
  dsimp only [Function.comp]
  rw [hparameters]
  change (_ && !(List.contains _ (r.binding e.binding))) = _
  rw [contains_map_binding hflatten hname]
  rfl

end names

/-! ## Renaming a report -/

/-- The fault under the new name. -/
def NameFault.rename (r : Renaming) : NameFault → NameFault
  | unused b assigned => unused (r.binding b) assigned
  | undefined name => undefined name

/-- The report under the new name, at the same place. -/
def NameReport.rename (r : Renaming) (report : NameReport) : NameReport :=
  { report with fault := report.fault.rename r }

section reports

variable {r : Renaming} {src src' : Source} {tree : Tree}

/-- Whether two texts have the identifiers of a tree at the same places. -/
def SamePlaces (src src' : Source) (tree : Tree) : Prop :=
  ∀ s, IsIdentifier tree s →
    src'.place (src'.startPoint s.node) = src.place (src.startPoint s.node) ∧
      src'.place (src'.stopPoint s.node) = src.place (src.stopPoint s.node)

/-- A report on an identifier keeps its place, and tells the renamed fault. -/
lemma SamePlaces.of_eq (h : SamePlaces src src' tree) {s : Site} (hs : IsIdentifier tree s)
    (severity : Severity) (fault : NameFault) :
    NameReport.of src' severity (fault.rename r) s.node =
      (NameReport.of src severity fault s.node).rename r := by
  rw [NameReport.of, (h s hs).1, (h s hs).2]
  rfl

/-- The new name is none that the analysis knows. -/
lemma Renames.spares (h : Renames r src src' tree) : r.Spares (analysisOf src tree) := by
  refine ⟨h.isFresh_analysis, fun bs hbs c hc => ?_⟩
  rw [analysisOf, Analysis.of, Analysis.parameters_foldl_refer] at hbs
  obtain ⟨s, hs, rfl⟩ := List.mem_map.mp hbs
  obtain ⟨d, hd, rfl⟩ := List.mem_map.mp hc
  exact h.name_ne (List.mem_flatMap.mpr
    ⟨s, List.mem_of_mem_filter hs, List.mem_append_right _ hd⟩)

/-- What the report on an entry points to is an identifier. -/
lemma isIdentifier_of_target {e : Entry} {target : Site} (he : e ∈ (analysisOf src tree).table)
    (htarget : (e.lastWrite? <|> e.idents.head?) = some target) : IsIdentifier tree target := by
  obtain ⟨scope, valued, hdeclares⟩ | huse := declares_or_isUse_of_target he htarget
  · exact ⟨hdeclares.isSite.2, .inr (.inr ⟨scope, valued, hdeclares⟩)⟩
  · exact huse.isIdentifier

/-- What is said of a renamed entry is what was said of the entry, renamed. -/
lemma unused?_entry (hplaces : SamePlaces src src' tree) (severity : Severity) {e : Entry}
    (he : e ∈ (analysisOf src tree).table) :
    NameReport.unused? src' severity (r.entry e) =
      (NameReport.unused? src severity e).map (·.rename r) := by
  unfold NameReport.unused?
  change ((e.lastWrite? <|> e.idents.head?).map fun target =>
    NameReport.of src' severity ((NameFault.unused e.binding e.assigned).rename r) target.node) = _
  cases htarget : (e.lastWrite? <|> e.idents.head?) with
  | none => rfl
  | some target =>
    rw [Option.map_some, Option.map_some, Option.map_some,
      hplaces.of_eq (isIdentifier_of_target he htarget)]

/-- What is undefined has another name than the renamed variable. -/
lemma undefined_eq (h : Renames r src src' tree) (hplaces : SamePlaces src src' tree)
    (severity : Severity) {s : Site} (hs : s ∈ (analysisOf src tree).undefined) :
    NameReport.undefined src' severity s = (NameReport.undefined src severity s).rename r := by
  obtain ⟨huse, hnone⟩ := mem_undefined hs
  have hother : s ∉ occurrences src tree r.old := by
    rw [huse.mem_occurrences_iff, hnone]
    exact nofun
  unfold NameReport.undefined
  rw [h.kept s huse.isIdentifier hother]
  exact hplaces.of_eq huse.isIdentifier severity (.undefined (src.text s.node))

/-- The reports of a rule are the renamed ones. -/
lemma rule_nameReports_rename (h : Renames r src src' tree) (hplaces : SamePlaces src src' tree)
    (rule : Rule) :
    rule.nameReports src' (analysisOf src' tree) =
      (rule.nameReports src (analysisOf src tree)).map (·.rename r) := by
  rw [h.analysis_eq]
  unfold Rule.nameReports
  split
  case h_1 =>
    rw [Renaming.unusedParameters_analysis h.spares, Renaming.unusedVariables_analysis h.spares,
      ← List.map_append, List.filterMap_map, List.map_filterMap]
    exact List.filterMap_congr fun e he =>
      unused?_entry hplaces rule.severity (Names.mem_table_of_mem_unused he)
  case h_2 =>
    rw [List.map_map]
    exact List.map_congr_left fun s hs => undefined_eq h hplaces rule.severity hs
  case h_3 => rfl

/-- **Renaming a variable renames it in the reports**: none moves, comes or goes. -/
theorem nameReports_rename (h : Renames r src src' tree) (hplaces : SamePlaces src src' tree)
    (rules : List Rule) :
    nameReports rules src' tree = (nameReports rules src tree).map (·.rename r) := by
  unfold nameReports
  split
  case isTrue => rfl
  case isFalse =>
    rw [List.map_mergeSort (f := NameReport.rename r) (r := NameReport.le) (s := NameReport.le)
      fun _ _ _ _ => rfl, List.map_flatMap]
    simp only [rule_nameReports_rename h hplaces]

end reports

/-! ## Overwriting a variable -/

/-- The text with the new name wherever the variable occurs. -/
def Renaming.apply (r : Renaming) (data : Bytes) (tree : Tree) : Bytes :=
  overwriteAll (encodeString r.name) data
    ((occurrences (.ofBytes data) tree r.old).map (·.node.start))

/-- Whether the identifiers of a tree lie apart. -/
structure Separate (tree : Tree) : Prop where
  ordered : ∀ s, IsIdentifier tree s → s.node.start ≤ s.node.stop
  apart : ∀ s s', IsIdentifier tree s → IsIdentifier tree s' → s ≠ s' →
    s.node.stop ≤ s'.node.start ∨ s'.node.stop ≤ s.node.start

/-- Whether a name may take the place of another one: no identifier has it, and it is as long. -/
structure Renaming.IsNew (r : Renaming) (src : Source) (tree : Tree) : Prop where
  fresh : ∀ s, IsIdentifier tree s → src.text s.node ≠ r.name
  bytes : (encodeString r.name).length = (encodeString r.old.name).length
  chars : r.name.length = r.old.name.length

/-- The identifiers of a tree, in a list. -/
def identifiers (src : Source) (tree : Tree) : List Site :=
  ((Site.walk tree).filter fun s => referenceKinds.contains s.kind || Pattern.nameKinds.contains s.kind)
    ++ (declarations src tree).map (·.ident)

/-- The identifiers that are listed are those of the tree. -/
lemma mem_identifiers_iff {src : Source} {tree : Tree} {s : Site} :
    s ∈ identifiers src tree ↔ IsIdentifier tree s := by
  unfold identifiers
  rw [List.mem_append, List.mem_filter, Site.mem_walk_iff, Bool.or_eq_true, List.contains_iff_mem,
    List.contains_iff_mem]
  constructor
  · rintro (⟨hs, hkind⟩ | hs)
    · exact ⟨hs, hkind.imp_right .inl⟩
    · obtain ⟨d, hd, rfl⟩ := List.mem_map.mp hs
      exact isIdentifier_of_mem hd
  · rintro ⟨hs, hkind | hkind | ⟨scope, valued, hdeclares⟩⟩
    · exact .inl ⟨hs, .inl hkind⟩
    · exact .inl ⟨hs, .inr hkind⟩
    · obtain ⟨d, hd, -, rfl, -⟩ := exists_mem_declarations src hdeclares
      exact .inr (List.mem_map_of_mem hd)

/-- Identifiers are told apart by their addresses. -/
lemma separate_iff (src : Source) {tree : Tree} :
    Separate tree ↔ ∀ s ∈ identifiers src tree, s.node.start ≤ s.node.stop ∧
      ∀ s' ∈ identifiers src tree, s.address ≠ s'.address →
        s.node.stop ≤ s'.node.start ∨ s'.node.stop ≤ s.node.start := by
  simp only [mem_identifiers_iff]
  constructor
  · intro h s hs
    exact ⟨h.ordered s hs, fun s' hs' hne => h.apart s s' hs hs' fun heq => hne (heq ▸ rfl)⟩
  · intro h
    exact ⟨fun s hs => (h s hs).1, fun s s' hs hs' hne =>
      (h s hs).2 s' hs' fun heq => hne (hs.1.ext_address hs'.1 heq)⟩

instance (tree : Tree) : Decidable (Separate tree) :=
  decidable_of_iff _ (separate_iff (.ofBytes [])).symm

instance (r : Renaming) (src : Source) (tree : Tree) : Decidable (r.IsNew src tree) :=
  decidable_of_iff ((∀ s ∈ identifiers src tree, src.text s.node ≠ r.name) ∧
      (encodeString r.name).length = (encodeString r.old.name).length ∧
      r.name.length = r.old.name.length)
    ⟨fun ⟨fresh, bytes, chars⟩ => ⟨fun s hs => fresh s (mem_identifiers_iff.mpr hs), bytes, chars⟩,
      fun ⟨fresh, bytes, chars⟩ => ⟨fun s hs => fresh s (mem_identifiers_iff.mp hs), bytes, chars⟩⟩

/-- Whether a variable can be overwritten: neither name has a line feed, and where the variable occurs,
no character is cut. -/
structure Renaming.IsPlain (r : Renaming) (src : Source) (tree : Tree) : Prop where
  unbroken : lineFeed ∉ encodeString r.old.name ∧ lineFeed ∉ encodeString r.name
  whole : ∀ s ∈ occurrences src tree r.old,
    IsBoundary src.data s.node.start ∧ IsBoundary src.data s.node.stop

instance (r : Renaming) (src : Source) (tree : Tree) : Decidable (r.IsPlain src tree) :=
  decidable_of_iff ((lineFeed ∉ encodeString r.old.name ∧ lineFeed ∉ encodeString r.name) ∧
      ∀ s ∈ occurrences src tree r.old,
        IsBoundary src.data s.node.start ∧ IsBoundary src.data s.node.stop)
    ⟨fun ⟨unbroken, whole⟩ => ⟨unbroken, whole⟩, fun ⟨unbroken, whole⟩ => ⟨unbroken, whole⟩⟩

section overwriting

variable {r : Renaming} {src : Source} {data : Bytes} {tree : Tree} {b : Binding} {s s' : Site}

/-- A variable occurs at identifiers. -/
lemma isIdentifier_of_mem_occurrences (hs : s ∈ occurrences src tree b) : IsIdentifier tree s := by
  obtain hs | hs := List.mem_append.mp hs
  · obtain ⟨d, hd, rfl⟩ := List.mem_map.mp hs
    exact isIdentifier_of_mem (List.mem_of_mem_filter hd)
  · exact (mem_usesIn.mp hs).1.isIdentifier

/-- Where a variable occurs, the text is its name. -/
lemma text_of_mem_occurrences (hs : s ∈ occurrences src tree b) : src.text s.node = b.name := by
  obtain hs | hs := List.mem_append.mp hs
  · obtain ⟨d, hd, rfl⟩ := List.mem_map.mp hs
    obtain ⟨hd, hbinding⟩ := List.mem_filter.mp hd
    rw [← (declares_of_mem hd).2, ← beq_iff_eq.mp hbinding]
    rfl
  · obtain ⟨huse, htarget⟩ := mem_usesIn.mp hs
    obtain ⟨scope, -, rfl⟩ := (target?_analysis huse.isSite).mp htarget
    rfl

/-- Where a variable occurs, its name stands. -/
lemma between_of_mem_occurrences (hdata : IsText data) (hsep : Separate tree)
    (hplain : r.IsPlain (.ofBytes data) tree)
    (hs : s ∈ occurrences (.ofBytes data) tree r.old) :
    between data s.node.start s.node.stop = encodeString r.old.name ∧
      s.node.start + (encodeString r.old.name).length = s.node.stop := by
  obtain ⟨hstart, hstop⟩ := hplain.whole s hs
  have hordered := hsep.ordered s (isIdentifier_of_mem_occurrences hs)
  have hname : between data s.node.start s.node.stop = encodeString r.old.name := by
    rw [← text_of_mem_occurrences hs, encodeString, Source.text, String.toList_ofList]
    exact (isText_between hdata hstart hstop hordered).encode_decode.symm
  refine ⟨hname, ?_⟩
  have hle : s.node.stop ≤ data.length := hstop.le
  rw [← hname, between, List.length_take, List.length_drop]
  omega

/-- Where a variable occurs, a word as long as its name stands, and the new name is as long. -/
lemma wordAt_of_mem_occurrences (hdata : IsText data) (hsep : Separate tree)
    (hnew : r.IsNew (.ofBytes data) tree) (hplain : r.IsPlain (.ofBytes data) tree)
    (hs : s ∈ occurrences (.ofBytes data) tree r.old) :
    WordAt (encodeString r.name).length r.old.name.length data s.node.start := by
  obtain ⟨hname, hlength⟩ := between_of_mem_occurrences hdata hsep hplain hs
  obtain ⟨hstart, hstop⟩ := hplain.whole s hs
  rw [hnew.bytes]
  refine ⟨hstart, hlength ▸ hstop, ?_⟩
  rw [hlength, hname]
  exact ⟨isText_encode _, hplain.unbroken.1, by rw [encodeString, decode_encode, String.length_toList]⟩

/-- What overwriting the variable makes of the text. -/
lemma overwritten_apply (hdata : IsText data) (hsep : Separate tree)
    (hnew : r.IsNew (.ofBytes data) tree) (hplain : r.IsPlain (.ofBytes data) tree) :
    Overwritten (encodeString r.name) data (r.apply data tree)
      ((occurrences (.ofBytes data) tree r.old).map (·.node.start)) := by
  have hword : IsWord r.old.name.length (encodeString r.name) :=
    ⟨isText_encode _, hplain.unbroken.2, by
      rw [encodeString, decode_encode, String.length_toList, hnew.chars]⟩
  refine overwritten_overwriteAll hdata hword (fun i hi => ?_) (fun i hi j hj => ?_)
  · obtain ⟨s, hs, rfl⟩ := List.mem_map.mp hi
    exact wordAt_of_mem_occurrences hdata hsep hnew hplain hs
  · obtain ⟨s, hs, rfl⟩ := List.mem_map.mp hi
    obtain ⟨s', hs', rfl⟩ := List.mem_map.mp hj
    rw [hnew.bytes, Apart, (between_of_mem_occurrences hdata hsep hplain hs).2,
      (between_of_mem_occurrences hdata hsep hplain hs').2]
    by_cases heq : s = s'
    · exact .inl (heq ▸ rfl)
    · exact .inr (hsep.apart s s' (isIdentifier_of_mem_occurrences hs)
        (isIdentifier_of_mem_occurrences hs') heq)

/-- Overwriting a variable renames it, and moves no identifier. -/
theorem renames_apply (hdata : IsText data) (hsep : Separate tree)
    (hnew : r.IsNew (.ofBytes data) tree) (hplain : r.IsPlain (.ofBytes data) tree) :
    Renames r (.ofBytes data) (.ofBytes (r.apply data tree)) tree ∧
      SamePlaces (.ofBytes data) (.ofBytes (r.apply data tree)) tree := by
  obtain ⟨hword, hother, hplace⟩ := overwritten_apply hdata hsep hnew hplain
  have hstop : ∀ {s}, s ∈ occurrences (.ofBytes data) tree r.old →
      s.node.start + (encodeString r.name).length = s.node.stop := by
    intro s hs
    rw [hnew.bytes]
    exact (between_of_mem_occurrences hdata hsep hplain hs).2
  have hapart : ∀ {s}, IsIdentifier tree s → ∀ s' ∈ occurrences (.ofBytes data) tree r.old,
      s = s' ∨ s.node.stop ≤ s'.node.start ∨
        s'.node.start + (encodeString r.name).length ≤ s.node.start := by
    intro s hs s' hs'
    rw [hstop hs']
    by_cases heq : s = s'
    · exact .inl heq
    · exact .inr (hsep.apart s s' hs (isIdentifier_of_mem_occurrences hs') heq)
  constructor
  · refine ⟨hnew.fresh, fun s hs => ?_, fun s hs hmem => ?_⟩
    · have hself := hword _ (List.mem_map_of_mem hs)
      rw [hstop hs] at hself
      rw [Source.text, Source.chars]
      change String.ofList (decode (between (r.apply data tree) s.node.start s.node.stop)) = _
      rw [hself, encodeString, decode_encode, String.ofList_toList]
    · rw [Source.text, Source.text, Source.chars, Source.chars]
      refine congrArg (String.ofList <| decode ·) (hother _ _ fun i hi => ?_)
      obtain ⟨s', hs', rfl⟩ := List.mem_map.mp hi
      obtain rfl | houtside := hapart hs s' hs'
      · exact absurd hs' hmem
      · exact houtside
  · intro s hs
    have hordered := hsep.ordered s hs
    constructor <;> refine hplace _ fun i hi => ?_
    · obtain ⟨s', hs', rfl⟩ := List.mem_map.mp hi
      obtain rfl | houtside := hapart hs s' hs'
      · exact .inl (Nat.le_refl _)
      · exact houtside.imp_left (Nat.le_trans hordered)
    · obtain ⟨s', hs', rfl⟩ := List.mem_map.mp hi
      obtain rfl | houtside := hapart hs s' hs'
      · exact .inr (Nat.le_of_eq (hstop hs'))
      · exact houtside.imp_right fun h => Nat.le_trans h hordered

end overwriting

/-- **Reports are invariant under renaming a variable.** What is said of names stays the same, in number,
order, severity and place, but for the name of the variable in what is said of the variable. -/
theorem aboutNames_rename (rules : List Rule) (text : String) (tree : Tree) (r : Renaming)
    (hsep : Separate tree) (hnew : r.IsNew (.ofBytes (encodeString text)) tree)
    (hplain : r.IsPlain (.ofBytes (encodeString text)) tree) :
    let data := encodeString text
    let reports := nameReports rules (.ofBytes data) tree
    (verifyTree rules data tree).aboutNames = reports.map (·.message) ∧
      (verifyTree rules (r.apply data tree) tree).aboutNames =
        reports.map fun report => (report.rename r).message := by
  have hdata : IsText (encodeString text) := isText_encode _
  obtain ⟨hrenames, hplaces⟩ := renames_apply hdata hsep hnew hplain
  refine ⟨aboutNames_verifyTree rules _ tree, ?_⟩
  rw [aboutNames_verifyTree, nameReports_rename hrenames hplaces, List.map_map]
  rfl

/-- The tree of a text that declares two variables: one in the whole text, and one in a block. -/
def shadowedTree : Tree :=
  let identifier start stop : Tree := { kind := "identifier", start, stop, field := some "name" }
  let declaration start stop (name : Tree) : Tree :=
    { kind := "lexical_declaration", start, stop
      children := [{ kind := "variable_declarator", start := name.start, stop := name.stop,
                     children := [name] }] }
  { kind := "program", start := 0, stop := 17
    children := [
      declaration 0 6 (identifier 4 5),
      { kind := "statement_block", start := 7, stop := 17
        children := [declaration 9 15 (identifier 13 14)] }] }

/-- In `let a; { let a; }`, the outer variable is renamed and the inner one is not. -/
theorem aboutNames_rename_shadowed :
    let rules := [Rule.mk .error .noUnusedVars]
    let data := encodeString "let a; { let a; }"
    let r : Renaming := ⟨⟨[], "a"⟩, "b"⟩
    (Separate shadowedTree ∧ r.IsNew (.ofBytes data) shadowedTree ∧
        r.IsPlain (.ofBytes data) shadowedTree) ∧
      r.apply data shadowedTree = encodeString "let b; { let a; }" ∧
      (verifyTree rules (r.apply data shadowedTree) shadowedTree).aboutNames.map (·.message) =
        ["'b' is defined but never used.", "'a' is defined but never used."] := by
  have hsep : Separate shadowedTree := by decide +kernel
  have hnew : (Renaming.mk ⟨[], "a"⟩ "b").IsNew (.ofBytes (encodeString "let a; { let a; }"))
      shadowedTree := by decide +kernel
  have hplain : (Renaming.mk ⟨[], "a"⟩ "b").IsPlain (.ofBytes (encodeString "let a; { let a; }"))
      shadowedTree := by decide +kernel
  refine ⟨⟨hsep, hnew, hplain⟩, by decide +kernel, ?_⟩
  obtain ⟨-, hrenamed⟩ := aboutNames_rename [Rule.mk .error .noUnusedVars] "let a; { let a; }"
    shadowedTree _ hsep hnew hplain
  rw [hrenamed, List.map_map, nameReports, if_neg (by decide),
    List.mergeSort_of_pairwise (by decide +kernel)]
  decide +kernel

/-- The tree of a text that declares one variable and then uses other names; the names lie between the
given offsets. -/
def letTree (stop : Nat) (name : Nat × Nat) (uses : List (Nat × Nat)) : Tree :=
  let declarator : Tree :=
    { kind := "variable_declarator", start := name.1, stop := name.2
      children := [
        { kind := "identifier", start := name.1, stop := name.2, field := some "name" }] }
  { kind := "program", start := 0, stop
    children := { kind := "lexical_declaration", start := 0, stop := name.2
                  children := [{ kind := "let", start := 0, stop := 3, named := false },
                    declarator] } ::
      uses.map fun range =>
        { kind := "expression_statement", start := range.1, stop := range.2
          children := [{ kind := "identifier", start := range.1, stop := range.2 }] } }

/-- A line feed in the name makes a difference: the identifier then ends on another line. So does an
identifier that ends inside a character: what is left of the character counts as one of its own, and
the names behind it move. -/
theorem aboutNames_rename_moves :
    let Admits (r : Renaming) (data : Bytes) (tree : Tree) : Prop :=
      r.old ∈ (analysisOf (.ofBytes data) tree).table.map (·.binding) ∧ Separate tree ∧
        (∀ s ∈ identifiers (.ofBytes data) tree, s.children.length = 0) ∧
        r.IsNew (.ofBytes data) tree ∧ isGlobal r.name = false
    let stops (check : Check) (data : Bytes) (tree : Tree) : List (Option Place) :=
      (verifyTree [Rule.mk .error check] data tree).aboutNames.map (·.stop)
    (let r : Renaming := ⟨⟨[], "a\nc"⟩, "xyz"⟩
      let data := encodeString "let a\nc"
      let tree := letTree 7 (4, 7) []
      Admits r data tree ∧ r.apply data tree = encodeString "let xyz" ∧
        stops .noUnusedVars data tree = [some ⟨2, 2⟩] ∧
        stops .noUnusedVars (r.apply data tree) tree = [some ⟨1, 8⟩]) ∧
      let r : Renaming := ⟨⟨[], "\uFFFD"⟩, "€"⟩
      let data := encodeString "let 😀;b"
      let tree := letTree 10 (4, 7) [(9, 10)]
      Admits r data tree ∧ stops .noUndef data tree = [some ⟨1, 8⟩] ∧
        stops .noUndef (r.apply data tree) tree = [some ⟨1, 9⟩] := by
  decide +kernel

end Diagnosis.Lint
