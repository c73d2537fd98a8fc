import Diagnosis.Service
import Diagnosis.Proofs.Lists
import Diagnosis.Proofs.Steps

/-!
# Requests and their analyzers

Analyzers are registered one tag after the other, and every tag is looked up in one table. So what
a router does with a request can be told from the analyzers alone, without the table: there is at
most one that has the tag of the request, and that one is run.

* Registering stops at the first tag that is there already (`Router.ofAnalyzers_cases`); if there is
  none, the table holds every tag of every analyzer.
* **Every request is served by the analyzer that has its tag** (`Router.serves_ofAnalyzers`), which
  is run once, and by no other. A request that no analyzer has the tag of is turned down.
* The service's own analyzers can all be registered, so it has a router if there is an analyzer for
  JavaScript at all (`exists_router_iff`).

Analyzers may have effects. To tell how often they are run, they are replaced by analyzers that do
the same and note their number besides (`Analyzer.noting`).
-/

namespace Diagnosis.Analysis

open Diagnosis.Text

variable {m : Type → Type} {as : List (Analyzer m)}

/-! ## Registration -/

/-- The tags of analyzers, each with its analyzer. -/
def registrations (as : List (Analyzer m)) : List (String × Analyzer m) :=
  as.flatMap fun a => a.tags.map (·, a)

/-- Analyzers are registered under their tags, in order. -/
lemma map_fst_registrations (as : List (Analyzer m)) :
    (registrations as).map (·.1) = as.flatMap Analyzer.tags := by
  simp [registrations, List.map_flatMap, Function.comp_def]

/-- An analyzer is registered under a tag if it is one of the analyzers and the tag is one of its tags. -/
@[simp] lemma mem_registrations {tag : String} {a : Analyzer m} :
    (tag, a) ∈ registrations as ↔ a ∈ as ∧ tag ∈ a.tags := by
  simp [registrations]

/-- Whether a tag is the first one in a list that has been there before. -/
def FirstRepeat (tags : List String) (tag : String) : Prop :=
  ∃ before after, tags = before ++ tag :: after ∧ before.Nodup ∧ tag ∈ before

/-- Tags of which one repeats are not each once. -/
lemma FirstRepeat.not_nodup {tags : List String} {tag : String} (h : FirstRepeat tags tag) :
    ¬ tags.Nodup := by
  obtain ⟨before, after, rfl, -, hmem⟩ := h
  intro hnodup
  exact (List.nodup_append.mp hnodup).2.2 tag hmem tag List.mem_cons_self rfl

namespace Router

/-- Registering, in the words of the table's tags. -/
lemma register_eq (r : Router m) (a : Analyzer m) (tag : String) :
    r.register a tag = if tag ∈ r.table.map (·.1) then .error ⟨tag⟩ else
      .ok ⟨r.table ++ [(tag, a)]⟩ := by
  simp only [register, isSome_lookup_iff]

/-- Registering tags one after the other stops at the first repeated one. -/
lemma foldlM_register (es : List (String × Analyzer m)) (r : Router m)
    (hr : (r.table.map (·.1)).Nodup) :
    (((r.table ++ es).map (·.1)).Nodup ∧
        es.foldlM (fun r e => r.register e.2 e.1) r = .ok ⟨r.table ++ es⟩) ∨
      ∃ tag, FirstRepeat ((r.table ++ es).map (·.1)) tag ∧
        es.foldlM (fun r e => r.register e.2 e.1) r = .error ⟨tag⟩ := by
  induction es generalizing r with
  | nil => exact .inl ⟨by simpa using hr, by simp; rfl⟩
  | cons e es ih =>
    rw [List.foldlM_cons, register_eq]
    by_cases hmem : e.1 ∈ r.table.map (·.1)
    · rw [if_pos hmem]
      exact .inr ⟨e.1, ⟨r.table.map (·.1), es.map (·.1), by simp, hr, hmem⟩, rfl⟩
    · rw [if_neg hmem]
      have hnext : ((r.table ++ [e]).map (·.1)).Nodup := by
        rw [List.map_append, List.nodup_append]
        refine ⟨hr, List.nodup_singleton _, fun tag htag tag' htag' heq => ?_⟩
        rw [List.map_singleton, List.mem_singleton] at htag'
        exact hmem (htag' ▸ heq ▸ htag)
      have hrest := ih ⟨r.table ++ [e]⟩ hnext
      rw [List.append_assoc, List.singleton_append] at hrest
      exact hrest

/-- A router is made by registering one tag after the other. -/
lemma ofAnalyzers_eq_foldlM (as : List (Analyzer m)) :
    ofAnalyzers as = (registrations as).foldlM (fun r e => r.register e.2 e.1) ⟨[]⟩ := by
  have hfrom : ∀ r : Router m,
      as.foldlM (fun r a => a.tags.foldlM (fun r tag => r.register a tag) r) r =
        (registrations as).foldlM (fun r e => r.register e.2 e.1) r := by
    induction as with
    | nil => exact fun r => rfl
    | cons a as ih =>
      intro r
      rw [registrations, List.flatMap_cons, List.foldlM_append, List.foldlM_map, List.foldlM_cons]
      exact bind_congr ih
  exact hfrom ⟨[]⟩

/-- **Registration stops at the first tag that is there already**; if there is none, the table holds
every tag of every analyzer. -/
theorem ofAnalyzers_cases (as : List (Analyzer m)) :
    ((as.flatMap Analyzer.tags).Nodup ∧ ofAnalyzers as = .ok ⟨registrations as⟩) ∨
      ∃ tag, FirstRepeat (as.flatMap Analyzer.tags) tag ∧ ofAnalyzers as = .error ⟨tag⟩ := by
  rw [ofAnalyzers_eq_foldlM, ← map_fst_registrations]
  exact foldlM_register (registrations as) ⟨[]⟩ List.nodup_nil

/-- Analyzers whose tags are each once make a router. -/
lemma ofAnalyzers_of_nodup (h : (as.flatMap Analyzer.tags).Nodup) :
    ofAnalyzers as = .ok ⟨registrations as⟩ := by
  rcases ofAnalyzers_cases as with ⟨-, hok⟩ | ⟨tag, hrepeat, -⟩
  · exact hok
  · exact absurd h hrepeat.not_nodup

/-- Registration fails exactly for analyzers that have a tag twice. -/
lemma exists_ofAnalyzers_error_iff (as : List (Analyzer m)) :
    (∃ e, ofAnalyzers as = .error e) ↔ ¬ (as.flatMap Analyzer.tags).Nodup := by
  constructor
  · rintro ⟨e, herror⟩ hnodup
    exact absurd ((ofAnalyzers_of_nodup hnodup).symm.trans herror) nofun
  · intro hnodup
    rcases ofAnalyzers_cases as with ⟨h, -⟩ | ⟨tag, -, herror⟩
    · exact absurd h hnodup
    · exact ⟨⟨tag⟩, herror⟩

/-- A router comes from analyzers whose tags are each once, and knows their registrations. -/
lemma eq_of_ofAnalyzers {r : Router m} (h : ofAnalyzers as = .ok r) :
    (as.flatMap Analyzer.tags).Nodup ∧ r = ⟨registrations as⟩ := by
  rcases ofAnalyzers_cases as with ⟨hnodup, hok⟩ | ⟨tag, -, herror⟩
  · exact ⟨hnodup, Except.ok.inj (h.symm.trans hok)⟩
  · exact absurd (h.symm.trans herror) nofun

/-! ## The list of languages -/

/-- The languages are the registered tags. -/
lemma languages_perm (r : Router m) : r.languages.Perm (r.table.map (·.1)) :=
  List.mergeSort_perm _ _

/-- If no tag is registered twice, the languages are strictly sorted. -/
lemma pairwise_languages {r : Router m} (h : (r.table.map (·.1)).Nodup) :
    r.languages.Pairwise (· < ·) := by
  have hsorted : r.languages.Pairwise fun a b => (!decide (b < a)) = true := by
    apply List.pairwise_mergeSort
    · intro a b c hab hbc
      simp only [Bool.not_eq_true', decide_eq_false_iff_not, String.not_lt] at hab hbc ⊢
      exact String.le_trans hab hbc
    · intro a b
      simp only [Bool.or_eq_true, Bool.not_eq_true', decide_eq_false_iff_not, String.not_lt]
      exact String.le_total a b
  have hdistinct : r.languages.Pairwise (· ≠ ·) := (languages_perm r).nodup_iff.mpr h
  refine hsorted.imp₂ (fun a b hle hne => ?_) hdistinct
  simp only [Bool.not_eq_true', decide_eq_false_iff_not, String.not_lt] at hle
  by_contra hlt
  exact hne (String.le_antisymm hle (String.not_lt.mp hlt))

end Router

/-! ## Requests -/

/-- A request to analyze a text. -/
structure Request where
  /-- The text. -/
  code : LooseText
  /-- The tag of its language. -/
  language : String

namespace Request

/-- Whether a request has a tag of an analyzer. -/
def IsFor (q : Request) (a : Analyzer m) : Prop := normalizedTag q.language ∈ a.tags

instance (q : Request) (a : Analyzer m) : Decidable (q.IsFor a) :=
  inferInstanceAs (Decidable (_ ∈ a.tags))

/-- The number of the analyzer that a request has a tag of. -/
def target? (q : Request) (as : List (Analyzer m)) : Option Nat := as.findIdx? (q.IsFor ·)

/-- A request has tags of one analyzer only. -/
lemma index_unique (h : (as.flatMap Analyzer.tags).Nodup) {q : Request} {i j : Nat}
    {a b : Analyzer m} (hi : as[i]? = some a) (hj : as[j]? = some b) (ha : q.IsFor a)
    (hb : q.IsFor b) : i = j := by
  have hdisjoint := (List.nodup_flatMap.mp h).2
  rw [List.pairwise_iff_getElem] at hdisjoint
  obtain ⟨hi', rfl⟩ := List.getElem?_eq_some_iff.mp hi
  obtain ⟨hj', rfl⟩ := List.getElem?_eq_some_iff.mp hj
  by_contra hne
  rcases Nat.lt_or_gt_of_ne hne with hlt | hlt
  · exact hdisjoint i j hi' hj' hlt ha hb
  · exact hdisjoint j i hj' hi' hlt hb ha

/-- A request goes to the analyzer that it is for. -/
lemma target?_eq_some_iff (h : (as.flatMap Analyzer.tags).Nodup) {q : Request} {i : Nat} :
    q.target? as = some i ↔ ∃ a, as[i]? = some a ∧ q.IsFor a := by
  rw [target?, List.findIdx?_eq_some_iff_getElem]
  constructor
  · rintro ⟨hi, ha, -⟩
    exact ⟨as[i], List.getElem?_eq_getElem hi, by simpa using ha⟩
  · rintro ⟨a, hi, ha⟩
    obtain ⟨hlt, rfl⟩ := List.getElem?_eq_some_iff.mp hi
    refine ⟨hlt, by simpa using ha, fun j hji hj => Nat.ne_of_lt hji ?_⟩
    have hjlt := Nat.lt_trans hji hlt
    exact index_unique h (List.getElem?_eq_getElem hjlt) hi (by simpa using hj) ha

/-- A request goes nowhere if it is for no analyzer. -/
lemma target?_eq_none_iff {q : Request} : q.target? as = none ↔ ∀ a ∈ as, ¬ q.IsFor a := by
  simp [target?, List.findIdx?_eq_none_iff]

end Request

namespace Router

/-- What comes of a request. -/
def answer [Pure m] (r : Router m) (q : Request) : m Outcome := r.analyze q.code q.language

/-- What comes of one request after the other. -/
def serve [Monad m] (r : Router m) (qs : List Request) : m (List Outcome) := qs.mapM r.answer

variable {r : Router m} {q : Request}

/-- A request is handed to the analyzer that it has a tag of. -/
lemma answer_of_isFor [Pure m] (hr : ofAnalyzers as = .ok r) {a : Analyzer m} (ha : a ∈ as)
    (hq : q.IsFor a) : r.answer q = a.analyze q.code := by
  obtain ⟨hnodup, rfl⟩ := eq_of_ofAnalyzers hr
  have hfound : (registrations as).lookup (normalizedTag q.language) = some a := by
    rw [lookup_eq_some_iff_mem (by rwa [map_fst_registrations]), mem_registrations]
    exact ⟨ha, hq⟩
  simp only [answer, analyze, analyzerFor?, hfound]

/-- A request that has no tag of an analyzer is turned down. -/
lemma answer_of_not_isFor [Pure m] (hr : ofAnalyzers as = .ok r) (hq : ∀ a ∈ as, ¬ q.IsFor a) :
    r.answer q = pure (unsupported q.language) := by
  obtain ⟨hnodup, rfl⟩ := eq_of_ofAnalyzers hr
  have hmissing : (registrations as).lookup (normalizedTag q.language) = none := by
    rw [Option.eq_none_iff_forall_ne_some]
    intro a hfound
    rw [lookup_eq_some_iff_mem (by rwa [map_fst_registrations]), mem_registrations] at hfound
    exact hq a hfound.1 hfound.2
  simp only [answer, analyze, analyzerFor?, hmissing]

end Router

/-! ## Noting what is run -/

section Noting

variable [Monad m]

/-- An analyzer that also notes a number whenever it is run. -/
def Analyzer.noting (a : Analyzer m) (n : Nat) : Analyzer (StateT (List Nat) m) where
  name := a.name
  aliases := a.aliases
  analyze code := do
    modify (· ++ [n])
    a.analyze code

/-- Analyzers that note their numbers. -/
def allNoting (as : List (Analyzer m)) : List (Analyzer (StateT (List Nat) m)) :=
  as.mapIdx fun n a => a.noting n

/-- Noting calls changes no tags. -/
lemma flatMap_tags_allNoting (as : List (Analyzer m)) :
    (allNoting as).flatMap Analyzer.tags = as.flatMap Analyzer.tags := by
  have htags : (allNoting as).map Analyzer.tags = as.map Analyzer.tags := by
    apply List.ext_getElem?
    intro i
    rw [allNoting, List.getElem?_map, List.getElem?_mapIdx, List.getElem?_map, Option.map_map]
    rfl
  rw [List.flatMap_def, List.flatMap_def, htags]

/-- If each action notes something beside what another one does, so do many. -/
lemma run_mapM_of_run [LawfulMonad m] {α β ν : Type} {f : α → StateT (List ν) m β} {g : α → m β}
    {notes : α → Option ν}
    (h : ∀ x log, (f x).run log = (·, log ++ (notes x).toList) <$> g x) (xs : List α)
    (log : List ν) : (xs.mapM f).run log = (·, log ++ xs.filterMap notes) <$> xs.mapM g := by
  induction xs generalizing log with
  | nil => simp
  | cons x xs ih =>
    simp only [List.mapM_cons, StateT.run_bind, h, ih, map_bind, bind_map_left]
    refine bind_congr fun y => bind_congr fun ys => ?_
    simp [List.filterMap_eq_flatMap_toList]

namespace Router

/-- Where analyzers note their numbers, a request is noted under the number of the analyzer that it
has a tag of; nothing else changes. -/
lemma run_answer_allNoting [LawfulMonad m] {r : Router m} {r' : Router (StateT (List Nat) m)}
    (hr : ofAnalyzers as = .ok r) (hr' : ofAnalyzers (allNoting as) = .ok r') (q : Request)
    (log : List Nat) :
    (r'.answer q).run log = (·, log ++ (q.target? as).toList) <$> r.answer q := by
  cases htarget : q.target? as with
  | some i =>
    obtain ⟨a, hi, hq⟩ := (Request.target?_eq_some_iff (eq_of_ofAnalyzers hr).1).mp htarget
    have hnoting : (allNoting as)[i]? = some (a.noting i) := by
      rw [allNoting, List.getElem?_mapIdx, hi]
      rfl
    rw [answer_of_isFor hr (List.mem_of_getElem? hi) hq,
      answer_of_isFor hr' (List.mem_of_getElem? hnoting) hq]
    simp [Analyzer.noting]
  | none =>
    have hq := Request.target?_eq_none_iff.mp htarget
    have hq' : ∀ a ∈ allNoting as, ¬ q.IsFor a := by
      intro a' ha' hfor
      obtain ⟨i, hi, rfl⟩ := List.mem_mapIdx.mp ha'
      exact hq as[i] (List.getElem_mem hi) hfor
    rw [answer_of_not_isFor hr hq, answer_of_not_isFor hr' hq']
    simp

/-- What a router does that serves analyzers. -/
structure Serves (r : Router m) (as : List (Analyzer m)) : Prop where
  /-- A request that has a tag of an analyzer comes to what that analyzer does. -/
  answer : ∀ q : Request, ∀ a ∈ as, q.IsFor a → r.answer q = a.analyze q.code
  /-- Every other request is turned down. -/
  refusal : ∀ q : Request, (∀ a ∈ as, ¬ q.IsFor a) → r.answer q = pure (unsupported q.language)
  /-- If analyzers note their numbers, the router for them does the same, and after a run the number
  of every request's analyzer is noted once, in the order of the requests. -/
  noted : ∃ r', ofAnalyzers (allNoting as) = .ok r' ∧ ∀ qs log,
    (r'.serve qs).run log = (·, log ++ qs.filterMap (·.target? as)) <$> r.serve qs
  /-- The analyzer of a request is the only one that it has a tag of. -/
  target : ∀ (q : Request) i, q.target? as = some i ↔ ∃ a, as[i]? = some a ∧ q.IsFor a
  /-- So an analyzer is noted once for every request that has a tag of it. -/
  calls : ∀ (qs : List Request) i a, as[i]? = some a →
    (qs.filterMap (·.target? as)).count i = qs.countP (·.IsFor a)
  /-- The languages are sorted, without repetitions. -/
  sorted : r.languages.Pairwise (· < ·)
  /-- The languages are the tags of the analyzers. -/
  languages : ∀ tag, tag ∈ r.languages ↔ ∃ a ∈ as, tag ∈ a.tags

/-- **Every request is served by the one analyzer that has its tag.** -/
theorem serves_ofAnalyzers [LawfulMonad m] (as : List (Analyzer m)) :
    ((∃ e, ofAnalyzers as = .error e) ↔ ¬ (as.flatMap Analyzer.tags).Nodup) ∧
      ∀ r, ofAnalyzers as = .ok r → r.Serves as := by
  refine ⟨exists_ofAnalyzers_error_iff as, fun r hr => ?_⟩
  obtain ⟨hnodup, htable⟩ := eq_of_ofAnalyzers hr
  have hkeys : r.table.map (·.1) = as.flatMap Analyzer.tags := by rw [htable, map_fst_registrations]
  have hr' := ofAnalyzers_of_nodup (flatMap_tags_allNoting as ▸ hnodup)
  constructor
  case answer => exact fun q a ha hq => answer_of_isFor hr ha hq
  case refusal => exact fun q hq => answer_of_not_isFor hr hq
  case noted => exact ⟨_, hr', fun qs log => run_mapM_of_run (run_answer_allNoting hr hr') qs log⟩
  case target => exact fun q i => Request.target?_eq_some_iff hnodup
  case calls =>
    intro qs i a hi
    rw [List.count_filterMap]
    apply List.countP_congr
    intro q _
    rw [beq_iff_eq, Request.target?_eq_some_iff hnodup, decide_eq_true_iff]
    simp [hi]
  case sorted => exact pairwise_languages (hkeys ▸ hnodup)
  case languages =>
    intro tag
    rw [(languages_perm r).mem_iff, hkeys, List.mem_flatMap]

/-- Two analyzers with three tags and four requests, and two analyzers with one tag. -/
theorem serves_ofAnalyzers_sample :
    let python : Analyzer Id := ⟨"python", ["py"], fun _ => .stopped (.notStarted "no pylint")⟩
    let cpp : Analyzer Id := ⟨" C++", [], fun _ => .failed "no compiler" none⟩
    let qs : List Request :=
      [⟨.text "x", "Py "⟩, ⟨.text "y", "c++"⟩, ⟨.text "z", "go"⟩, ⟨.text "x", "PYTHON"⟩]
    (∃ r, ofAnalyzers [python, cpp] = .ok r ∧ r.Serves [python, cpp] ∧
        qs.filterMap (·.target? [python, cpp]) = [0, 1, 0]) ∧
      ∃ e, ofAnalyzers [cpp, { python with aliases := ["C++ "] }] = .error e := by
  intro python cpp qs
  have hr : ofAnalyzers [python, cpp] = .ok ⟨registrations [python, cpp]⟩ :=
    ofAnalyzers_of_nodup (by decide)
  obtain ⟨-, hserves⟩ := serves_ofAnalyzers [python, cpp]
  obtain ⟨hfails, -⟩ := serves_ofAnalyzers [cpp, { python with aliases := ["C++ "] }]
  exact ⟨⟨_, hr, hserves _ hr, by decide +kernel⟩, hfails.mpr (by decide +kernel)⟩

end Router

end Noting

/-! ## The service's own analyzers -/

/-- The tags of the service's own analyzers. -/
lemma flatMap_tags_analyzers (w : Workplace) (c : Config) (javaScript : JavaScriptAnalyzer) :
    (w.analyzers c javaScript).flatMap Analyzer.tags =
      ["javascript", "js", "python", "py", "c++", "cpp"] := by
  have hnormal : ∀ tag ∈ ["javascript", "js", "python", "py", "c++", "cpp"],
      normalizedTag tag = tag := by
    decide
  have htags : (w.analyzers c javaScript).flatMap Analyzer.tags =
      ["javascript", "js", "python", "py", "c++", "cpp"].map normalizedTag := rfl
  rw [htags, List.map_congr_left hnormal, List.map_id']

/-- **When the service has a router.** Its analyzers have no tag twice, so there is a router if and only if
there is an analyzer for JavaScript, whatever else it is configured to do. -/
theorem exists_router_iff (w : Workplace) (c : Config) :
    (∃ r, w.router c = .ok r) ↔ ∃ a, w.javaScript c = .ok a := by
  unfold Workplace.router
  constructor
  · rintro ⟨r, hr⟩
    obtain ⟨javaScript, hjavaScript, -⟩ := bind_eq_ok_iff.mp hr
    exact ⟨javaScript, mapError_eq_ok_iff.mp hjavaScript⟩
  · rintro ⟨javaScript, hjavaScript⟩
    have hnodup : ((w.analyzers c javaScript).flatMap Analyzer.tags).Nodup := by
      rw [flatMap_tags_analyzers]
      decide
    have hrouter := Router.ofAnalyzers_of_nodup hnodup
    exact ⟨_, bind_eq_ok_iff.mpr
      ⟨javaScript, mapError_eq_ok_iff.mpr hjavaScript, mapError_eq_ok_iff.mpr hrouter⟩⟩

end Diagnosis.Analysis
