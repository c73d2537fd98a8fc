import Diagnosis.Proofs.Lint.Unused

/-!
# The names of a function

A function declares names in four ways: as parameters, by the `var` statements that are hoisted to it, by the
functions that stand in its body, and, if it is an expression, by its own name. In the language, the first
three make one variable of a name and the last makes another. A table with one scope for each node does not:
the functions of the body are declared in the body, and everything else in the function.

* **Which identifiers of a function are one variable** (`VariablesOf`, `variablesOf_function`): those of one
  name that the functions of the body declare, and those that anything else declares, the own name among them.
* So a parameter whose name a function of the body takes is not read by what is read in the body, and is
  reported as unused; and a variable with the own name of the function is not reported, unless it is a
  parameter: then the report may point to the own name.
-/

namespace Diagnosis.Lint

open Diagnosis.Syntax

/-! ## Declarations in a function -/

/-- As what a function declares a name. -/
inductive Role where
  /-- As a parameter. -/
  | parameter
  /-- By a `var` that is hoisted to it. -/
  | hoisted
  /-- As a function in its body. -/
  | bodyFunction
  /-- As the own name of the expression. -/
  | ownName
  deriving DecidableEq

/-- Declarations of functions. -/
def functionDeclarationKinds : List String := ["function_declaration", "generator_function_declaration"]

/-- Whether a function declares an identifier, and as what. -/
inductive DeclaredIn (tree : Tree) (f : Site) : Role → Site → Prop
  /-- The parameters are those of its pattern. -/
  | parameter {pattern ident : Site} :
      (f.childAt? "parameters" <|> f.childAt? "parameter") = some pattern → Binds pattern ident →
        DeclaredIn tree f .parameter ident
  /-- A `var` is hoisted to the nearest function. -/
  | variable {s declarator pattern ident : Site} :
      IsSite tree s → s.kind = "variable_declaration" → s.IsNearest (·.kind ∈ functionKinds) f →
        declarator ∈ s.namedChildren → declarator.kind = "variable_declarator" →
        declarator.childAt? "name" = some pattern → Binds pattern ident → DeclaredIn tree f .hoisted ident
  /-- So is a `var` in the head of a loop. -/
  | loopVariable {s word pattern ident : Site} :
      IsSite tree s → s.kind = "for_in_statement" → s.IsNearest (·.kind ∈ functionKinds) f →
        s.childAt? "kind" = some word → word.kind = "var" →
        s.childAt? "left" = some pattern → Binds pattern ident → DeclaredIn tree f .hoisted ident
  /-- A function of the body stands directly in it. -/
  | bodyFunction {body s ident : Site} :
      f.childAt? "body" = some body → body.kind = "statement_block" → s ∈ body.children →
        s.kind ∈ functionDeclarationKinds → s.childAt? "name" = some ident →
        DeclaredIn tree f .bodyFunction ident
  /-- An expression may have a name of its own. -/
  | ownName {ident : Site} :
      f.kind ∈ selfNamingKinds → f.childAt? "name" = some ident → DeclaredIn tree f .ownName ident

section declared

variable {src : Source} {tree : Tree} {f x y : Site} {role role' : Role}

/-- The scope in which a function declares a name: its body for the functions of the body, else itself. -/
def scopeOf? (f : Site) (role : Role) : Option Site :=
  if role = .bodyFunction then f.childAt? "body" else some f

/-- What a function declares is declared in the scope of its role. -/
lemma DeclaredIn.declares (hf : IsSite tree f) (hkind : f.kind ∈ functionKinds)
    (h : DeclaredIn tree f role x) :
    ∃ scope valued, scopeOf? f role = some scope ∧ Declares tree scope x valued := by
  cases h with
  | parameter hpattern hbinds => exact ⟨f, _, rfl, f, hf, .parameter hkind hpattern hbinds⟩
  | «variable» hs hvar hnearest hmem hdeclarator hpattern hbinds =>
    exact ⟨f, _, rfl, _, hs, .variable hvar hmem hdeclarator hpattern hbinds (.inl hnearest)⟩
  | loopVariable hs hloop hnearest hword hvar hpattern hbinds =>
    exact ⟨f, _, rfl, _, hs, .loopVariable hloop hword hvar hpattern hbinds (.inl hnearest)⟩
  | @bodyFunction body s _ hbody hblock hs hfunction hname =>
    have hsite := hf.of_mem_children (Site.mem_of_childAt? hbody).1
    have hnearest : s.IsNearest (·.kind ∈ lexicalKinds) body := by
      obtain ⟨i, c, -, rfl⟩ := Site.mem_children.mp hs
      exact Site.isNearest_child.mpr (.inl ⟨hblock ▸ by decide, rfl⟩)
    have hnamed := (show ∀ kind ∈ functionDeclarationKinds, kind ∈ namedDeclarationKinds
      by decide) _ hfunction
    exact ⟨body, _, hbody, s, hsite.of_mem_children hs, .named hnamed hname (.inl hnearest)⟩
  | ownName hself hname => exact ⟨f, _, rfl, f, hf, .self hself hname⟩

/-- What is declared in a function in any role but one is declared for its own scope. -/
lemma DeclaredIn.declares_self (hf : IsSite tree f) (hkind : f.kind ∈ functionKinds)
    (h : DeclaredIn tree f role x) (hrole : role ≠ .bodyFunction) :
    ∃ valued, Declares tree f x valued := by
  obtain ⟨scope, valued, hscope, hdeclares⟩ := h.declares hf hkind
  rw [scopeOf?, if_neg hrole, Option.some.injEq] at hscope
  exact ⟨valued, hscope ▸ hdeclares⟩

/-- The scopes of two roles are the same if both are that of the body, or neither is. -/
lemma scopeOf?_eq_iff {scope scope' : Site} (hscope : scopeOf? f role = some scope)
    (hscope' : scopeOf? f role' = some scope') :
    scope = scope' ↔ (role = .bodyFunction ↔ role' = .bodyFunction) := by
  have hne : f.childAt? "body" ≠ some f := by
    intro hbody
    obtain ⟨i, c, -, heq⟩ := Site.mem_children.mp (Site.mem_of_childAt? hbody).1
    exact List.cons_ne_self _ _ (congrArg Site.address heq).symm
  rw [← Option.some.injEq, ← hscope, ← hscope', scopeOf?, scopeOf?]
  by_cases hrole : role = .bodyFunction
  · by_cases hrole' : role' = .bodyFunction
    · simp [hrole, hrole']
    · simp [hrole, hrole', hne]
  · by_cases hrole' : role' = .bodyFunction
    · simp [hrole, hrole', hne.symm]
    · simp [hrole, hrole']

/-- The bindings of the parameters of a function are those of the identifiers that it declares as such. -/
lemma isParameter_iff (hf : IsSite tree f) (hkind : f.kind ∈ functionKinds) {name : String} :
    IsParameter src tree ⟨f.address, name⟩ ↔
      ∃ y, DeclaredIn tree f .parameter y ∧ src.text y.node = name := by
  have hparameters : parameterDeclarations src f =
      (patternIdentifiers? (f.childAt? "parameters" <|> f.childAt? "parameter")).map
        (Declaration.of src f) := if_pos (List.contains_iff_mem.mpr hkind)
  constructor
  · rintro ⟨g, hg, hb⟩
    obtain ⟨d, hd, hbinding⟩ := List.mem_map.mp hb
    obtain ⟨haddress, hname⟩ := Binding.mk.inj hbinding
    have hscope : d.scope = g := by
      obtain ⟨-, -, hfunction, -⟩ := flags_of_mem_parameterDeclarations hd
      rw [parameterDeclarations, if_pos (List.contains_iff_mem.mpr hfunction)] at hd
      obtain ⟨y, -, rfl⟩ := List.mem_map.mp hd
      rfl
    obtain rfl := hg.ext_address hf (hscope ▸ haddress)
    rw [hparameters] at hd
    obtain ⟨pattern, y, hpattern, hbinds, rfl⟩ := mem_map_patternIdentifiers?.mp hd
    exact ⟨y, .parameter hpattern hbinds, hname⟩
  · rintro ⟨y, h, rfl⟩
    cases h with
    | parameter hpattern hbinds =>
      refine ⟨f, hf, List.mem_map.mpr ⟨Declaration.of src f y, ?_, rfl⟩⟩
      rw [hparameters]
      exact mem_map_patternIdentifiers?.mpr ⟨_, y, hpattern, hbinds, rfl⟩

/-- The own name of an expression. -/
lemma isOwnName_iff (hf : IsSite tree f) {name : String} :
    IsOwnName src tree ⟨f.address, name⟩ ↔
      ∃ y, DeclaredIn tree f .ownName y ∧ src.text y.node = name := by
  constructor
  · rintro ⟨s, y, hs, hself, hname, hbinding⟩
    obtain ⟨haddress, rfl⟩ := Binding.mk.inj hbinding
    obtain rfl := hf.ext_address hs haddress
    exact ⟨y, .ownName hself hname, rfl⟩
  · rintro ⟨y, h, rfl⟩
    cases h with
    | ownName hself hname => exact ⟨f, y, hf, hself, hname, rfl⟩

end declared

/-! ## Reports -/

section reports

variable (src : Source) (tree : Tree)

/-- Whether two identifiers declare one variable. -/
def DeclareOne (x y : Site) : Prop := ∃ e ∈ (analysisOf src tree).table, x ∈ e.idents ∧ y ∈ e.idents

/-- Whether a finding is the one that a binding gets for being unused. -/
def IsReportOn (b : Binding) (finding : Finding) : Prop :=
  ∃ e ∈ Names.unusedParameters (analysisOf src tree) ++ Names.unusedVariables (analysisOf src tree),
    e.binding = b ∧ Names.unused (.of src tree) e = some finding

variable {src tree} {b : Binding} {finding : Finding}

/-- The findings of the rule are those that bindings get. -/
lemma mem_checkUnused_iff :
    finding ∈ Names.checkUnused (.of src tree) ↔ ∃ b, IsReportOn src tree b finding := by
  constructor
  · intro h
    obtain ⟨e, he, hfound⟩ := List.mem_filterMap.mp h
    exact ⟨e.binding, e, he, rfl, hfound⟩
  · rintro ⟨b, e, he, -, hfound⟩
    exact List.mem_filterMap.mpr ⟨e, he, hfound⟩

/-- A report that says why a binding is unused is one on the binding. -/
lemma IsReportOn.reports (h : IsReportOn src tree b finding) : Reports src tree b finding := by
  obtain ⟨e, he, rfl, hfound⟩ := h
  obtain ⟨finding', hfound', hreports⟩ := exists_reports_of_mem (Names.mem_table_of_mem_unused he)
  rwa [Option.some.inj (hfound.symm.trans hfound')]

/-- A binding is reported if nobody reads it and its kind of binding is asked for. -/
lemma exists_isReportOn_iff (hb : IsDeclared src tree b) :
    (∃ finding, IsReportOn src tree b finding) ↔ ¬ IsRead src tree b ∧
      (IsBehindReads src tree b ∨
        ¬ IsParameter src tree b ∧ ¬ IsExported src tree b ∧ ¬ IsOwnName src tree b) := by
  have hmem : (∃ finding, IsReportOn src tree b finding) ↔
      b ∈ (Names.unusedParameters (analysisOf src tree) ++
        Names.unusedVariables (analysisOf src tree)).map (·.binding) := by
    constructor
    · rintro ⟨finding, e, he, rfl, -⟩
      exact List.mem_map_of_mem he
    · intro h
      obtain ⟨e, he, rfl⟩ := List.mem_map.mp h
      obtain ⟨finding, hfound, -⟩ := exists_reports_of_mem (Names.mem_table_of_mem_unused he)
      exact ⟨finding, e, he, rfl, hfound⟩
  rw [hmem, List.map_append, List.mem_append, map_binding_unusedParameters, List.mem_eraseDups,
    mem_trailingUnread_iff, mem_unusedVariables_iff hb]
  tauto

end reports

/-! ## The variables of a function -/

/-- Which identifiers that a function declares are one variable, what refers to it, and when and where it is
reported as unused. -/
structure VariablesOf (src : Source) (tree : Tree) (f : Site) : Prop where
  /-- Two identifiers declare one variable if they have one name, and both or neither are functions of the
  body. -/
  one : ∀ {role role' x y}, DeclaredIn tree f role x → DeclaredIn tree f role' y →
    (DeclareOne src tree x y ↔
      src.text x.node = src.text y.node ∧ (role = .bodyFunction ↔ role' = .bodyFunction))
  /-- A name inside the function refers to the variable of the function unless a scope in between declares
  the name. -/
  refers : ∀ {role x s}, DeclaredIn tree f role x → role ≠ .bodyFunction → IsSite tree s →
    f ∈ s.ancestors → src.text s.node = src.text x.node →
      (RefersTo src tree s ⟨f.address, src.text x.node⟩ ↔
        ∀ scope ∈ s.ancestors, f ∈ scope.ancestors → ¬ DeclaresName src tree (src.text x.node) scope)
  /-- The body is such a scope if it has a function of the name. -/
  hidden : ∀ {x body s}, DeclaredIn tree f .bodyFunction x → f.childAt? "body" = some body →
    IsSite tree s → body ∈ s.ancestors → src.text s.node = src.text x.node →
      ¬ RefersTo src tree s ⟨f.address, src.text x.node⟩
  /-- A variable of the function is reported if nobody reads it, and if it is a parameter behind the last one
  that is read, or else neither exported nor the own name of the function. -/
  reported : ∀ {role x}, DeclaredIn tree f role x → role ≠ .bodyFunction →
    ((∃ finding, IsReportOn src tree ⟨f.address, src.text x.node⟩ finding) ↔
      ¬ IsRead src tree ⟨f.address, src.text x.node⟩ ∧
        (IsBehindReads src tree ⟨f.address, src.text x.node⟩ ∨
          (∀ y, DeclaredIn tree f .parameter y → src.text y.node ≠ src.text x.node) ∧
            ¬ IsExported src tree ⟨f.address, src.text x.node⟩ ∧
            ∀ y, DeclaredIn tree f .ownName y → src.text y.node ≠ src.text x.node))
  /-- The report points to the last write, or else to the first declaration: to the own name of the function
  if it is the same. -/
  blamed : ∀ {role x finding}, DeclaredIn tree f role x → role ≠ .bodyFunction →
    IsReportOn src tree ⟨f.address, src.text x.node⟩ finding →
      finding ∈ Names.checkUnused (.of src tree) ∧
      ∃ s, finding.start = src.place (src.startPoint s.node) ∧
        finding.stop = some (src.place (src.stopPoint s.node)) ∧
        (IsLast (Writes src tree · ⟨f.address, src.text x.node⟩) (Site.walk tree) s ∨
          (∀ s', ¬ Writes src tree s' ⟨f.address, src.text x.node⟩) ∧
            DeclaresFirst src tree s ⟨f.address, src.text x.node⟩ ∧
            ∀ y, DeclaredIn tree f .ownName y → src.text y.node = src.text x.node → s = y)

section function

variable {src : Source} {tree : Tree} {f : Site}

/-- The own name of an expression comes first of all that declare the name in the expression. -/
lemma DeclaredIn.eq_of_declaresFirst {x s : Site} (hf : IsSite tree f) (h : DeclaredIn tree f .ownName x)
    (hfirst : DeclaresFirst src tree s ⟨f.address, src.text x.node⟩) : s = x := by
  cases h with
  | ownName hself hname =>
    obtain ⟨d, hfind, rfl⟩ := hfirst
    rw [← List.head?_filter, head?_declarations_of_self hf hself hname] at hfind
    rw [← Option.some.inj hfind]
    rfl

/-- **The variables of a function**, for every function of every tree. -/
theorem variablesOf_function (src : Source) (hf : IsSite tree f) (hkind : f.kind ∈ functionKinds) :
    VariablesOf src tree f where
  one := by
    intro role role' x y hx hy
    obtain ⟨scope, valued, hscope, hdeclares⟩ := hx.declares hf hkind
    obtain ⟨scope', valued', hscope', hdeclares'⟩ := hy.declares hf hkind
    rw [DeclareOne, share_entry_iff hdeclares hdeclares', scopeOf?_eq_iff hscope hscope']
  refers := by
    intro role x s hx hrole hs hancestor hname
    obtain ⟨valued, hdeclares⟩ := hx.declares_self hf hkind hrole
    have hnearest : RefersTo src tree s ⟨f.address, src.text x.node⟩ ↔
        s.IsNearest (DeclaresName src tree (src.text x.node)) f := by
      rw [RefersTo, hname]
      constructor
      · rintro ⟨scope, hscope, hbinding⟩
        have hsite := hs.of_mem_ancestors hscope.mem_ancestors
        rwa [hf.ext_address hsite (Binding.mk.inj hbinding).1]
      · exact fun h => ⟨f, h, rfl⟩
    rw [hnearest, Site.isNearest_iff_of_mem hancestor, and_iff_right ⟨x, valued, hdeclares, rfl⟩]
  hidden := by
    intro x body s hx hbody hs hancestor hname hrefers
    obtain ⟨scope, hscope, hbinding⟩ := hrefers
    obtain ⟨haddress, -⟩ := Binding.mk.inj hbinding
    obtain rfl := hf.ext_address (hs.of_mem_ancestors hscope.mem_ancestors) haddress
    have hbelow := ((Site.isNearest_iff_of_mem hscope.mem_ancestors).mp hscope).2 body hancestor ?_
    · obtain ⟨scope', valued, hscope', hdeclares⟩ := hx.declares hf hkind
      obtain rfl : body = scope' := Option.some.inj (hbody.symm.trans hscope')
      exact hbelow ⟨x, valued, hdeclares, hname.symm⟩
    · obtain ⟨i, c, -, rfl⟩ := Site.mem_children.mp (Site.mem_of_childAt? hbody).1
      exact List.mem_cons_self
  reported := by
    intro role x hx hrole
    obtain ⟨valued, hdeclares⟩ := hx.declares_self hf hkind hrole
    rw [exists_isReportOn_iff ⟨f, x, valued, hdeclares, rfl⟩, isParameter_iff hf hkind, isOwnName_iff hf]
    simp only [not_exists, not_and]
  blamed := by
    intro role x finding hx hrole hreport
    obtain ⟨s, hblame, hstart, hstop⟩ := hreport.reports.place
    refine ⟨mem_checkUnused_iff.mpr ⟨_, hreport⟩, s, hstart, hstop, hblame.imp_right fun hfirst => ?_⟩
    refine ⟨hfirst.1, hfirst.2, fun y hy hname => ?_⟩
    exact hy.eq_of_declaresFirst hf (hname ▸ hfirst.2)

end function

/-- The function of `(function f(a) { function a() {} var f; a })`. -/
def functionNode : Tree :=
  let name start field : Tree := { kind := "identifier", start, stop := start + 1, field := field }
  { kind := "function_expression", start := 1, stop := 43
    children := [name 10 (some "name"),
      { kind := "formal_parameters", start := 11, stop := 14, field := some "parameters"
        children := [name 12 none] },
      { kind := "statement_block", start := 15, stop := 43, field := some "body"
        children := [
          { kind := "function_declaration", start := 17, stop := 32, children := [name 26 (some "name")] },
          { kind := "variable_declaration", start := 33, stop := 39
            children := [
              { kind := "variable_declarator", start := 37, stop := 38
                children := [name 37 (some "name")] }] },
          name 40 none] }] }

/-- Its tree. -/
def functionTree : Tree := { kind := "program", start := 0, stop := 44, children := [functionNode] }

/-- In `(function f(a) { function a() {} var f; a })`, the parameter is reported although `a` is read, and the
variable `f` is not although nobody reads it. -/
theorem variablesOf_function_shadowing :
    let src := Source.ofBytes
      (Text.encodeString "(function f(a) \x7b function a() \x7b\x7d var f; a \x7d)")
    let f := Site.child (.root functionTree) 0 functionNode
    IsSite functionTree f ∧ f.kind ∈ functionKinds ∧
      (∃ x y, DeclaredIn functionTree f .ownName x ∧ DeclaredIn functionTree f .hoisted y ∧
        DeclareOne src functionTree x y) ∧
      (∃ finding, IsReportOn src functionTree ⟨f.address, "a"⟩ finding) ∧
      ¬ ∃ finding, IsReportOn src functionTree ⟨f.address, "f"⟩ finding := by
  intro src f
  have hf : IsSite functionTree f := .child .root rfl
  have hkind : f.kind ∈ functionKinds := by decide
  have hvariables := variablesOf_function src hf hkind
  obtain ⟨own, hown, hownName⟩ : ∃ x, DeclaredIn functionTree f .ownName x ∧ src.text x.node = "f" :=
    ⟨_, .ownName (by decide) rfl, by decide +kernel⟩
  obtain ⟨hoisted, hhoisted, hhoistedName⟩ :
      ∃ y, DeclaredIn functionTree f .hoisted y ∧ src.text y.node = "f" := by
    have hstatement : IsSite functionTree (.child (.child f 2 _) 1 _) := .child (.child hf rfl) rfl
    refine ⟨_, .variable hstatement rfl ?_ (Site.mem_namedChildren.mpr
      ⟨Site.mem_children.mpr ⟨0, _, rfl, rfl⟩, rfl⟩) rfl rfl (.name ?_), ?_⟩
    · exact Site.isNearest_child.mpr (.inr ⟨by decide, Site.isNearest_child.mpr (.inl ⟨hkind, rfl⟩)⟩)
    · decide
    · decide +kernel
  have hparameters : parametersOf src f = [⟨f.address, "a"⟩] := by decide +kernel
  have hbehind : IsBehindReads src functionTree ⟨f.address, "a"⟩ :=
    ⟨f, hf, [], [], hparameters, by simp⟩
  obtain ⟨parameter, hparameter, hname⟩ := (isParameter_iff hf hkind).mp hbehind.isParameter
  have hunread : ¬ IsRead src functionTree ⟨f.address, "a"⟩ := by
    rw [← isRead_eq_true_iff hbehind.isParameter.isDeclared]
    decide +kernel
  refine ⟨hf, hkind, ⟨own, hoisted, hown, hhoisted, ?_⟩, ?_, ?_⟩
  · exact (hvariables.one hown hhoisted).mpr ⟨hownName.trans hhoistedName.symm, by decide⟩
  · have hreported := hvariables.reported hparameter nofun
    rw [hname] at hreported
    exact hreported.mpr ⟨hunread, .inl hbehind⟩
  · have hreported := hvariables.reported hown nofun
    rw [hownName] at hreported
    rw [hreported]
    rintro ⟨-, hbehind | ⟨-, -, hnot⟩⟩
    · have hmem := mem_flatten_parameters_iff.mpr hbehind.isParameter
      exact absurd hmem (by decide +kernel)
    · exact hnot own hown hownName

end Diagnosis.Lint
