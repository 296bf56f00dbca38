import ShaderLang.Proofs.CleanChecks
import ShaderLang.Proofs.Lists
import ShaderLang.Proofs.Nodes

/-!
# Analysis only adds

A check that reports nothing adds annotations for the nodes it visits, each node once, and keeps the
types that are declared.  So in a shader whose nodes are distinct, what a check writes down about a
node is what analysis knows about it at the end.
-/

namespace ShaderLang

/-- A symbol table that goes on from another: the given nodes may have been annotated, and declared
types stay. -/
structure SymbolTable.Leads (nodes : List NodeId) (before after : SymbolTable) : Prop where
  types : ∃ new, after.annotations.types = new ++ before.annotations.types ∧
    (new.map Prod.fst).Subperm nodes
  methods : ∃ new, after.annotations.methods = new ++ before.annotations.methods ∧
    (new.map Prod.fst).Subperm nodes
  declared : ∀ name type,
    before.declaredType? name = some type → after.declaredType? name = some type

namespace SymbolTable

variable {nodes more : List NodeId} {before middle after table : SymbolTable}

namespace Leads

/-- A change of other parts of a table. -/
theorem of_same
    (sameAnnotations : after.annotations.types = before.annotations.types)
    (sameMethods : after.annotations.methods = before.annotations.methods)
    (sameDeclared : after.declaredTypes = before.declaredTypes) :
    Leads [] before after where
  types := ⟨[], sameAnnotations, List.Subperm.refl _⟩
  methods := ⟨[], sameMethods, List.Subperm.refl _⟩
  declared name type known := by
    unfold declaredType? at known ⊢
    rw [sameDeclared]
    exact known

theorem refl (table : SymbolTable) : Leads [] table table :=
  of_same rfl rfl rfl

theorem trans (first : Leads nodes before middle) (second : Leads more middle after) :
    Leads (nodes ++ more) before after where
  types := by
    obtain ⟨firstNew, firstTypes, firstWithin⟩ := first.types
    obtain ⟨secondNew, secondTypes, secondWithin⟩ := second.types
    refine ⟨secondNew ++ firstNew, by rw [secondTypes, firstTypes, List.append_assoc], ?_⟩
    rw [List.map_append]
    exact List.perm_append_comm.subperm.trans (firstWithin.append secondWithin)
  methods := by
    obtain ⟨firstNew, firstMethods, firstWithin⟩ := first.methods
    obtain ⟨secondNew, secondMethods, secondWithin⟩ := second.methods
    refine ⟨secondNew ++ firstNew, by rw [secondMethods, firstMethods, List.append_assoc], ?_⟩
    rw [List.map_append]
    exact List.perm_append_comm.subperm.trans (firstWithin.append secondWithin)
  declared name type known := second.declared name type (first.declared name type known)

theorem weaken (leads : Leads nodes before after) (within : nodes.Subperm more) :
    Leads more before after where
  types := by
    obtain ⟨new, types, keys⟩ := leads.types
    exact ⟨new, types, keys.trans within⟩
  methods := by
    obtain ⟨new, methods, keys⟩ := leads.methods
    exact ⟨new, methods, keys.trans within⟩
  declared := leads.declared

/-- A sequence of which only the first part visits nodes. -/
theorem then_same (first : Leads nodes before middle) (second : Leads [] middle after) :
    Leads nodes before after := by
  have whole := first.trans second
  rw [List.append_nil] at whole
  exact whole

theorem annotate (table : SymbolTable) (node : NodeId) (type : ShaderType) :
    Leads [node] table (table.annotate node type) where
  types := ⟨[(node, type)], rfl, List.Subperm.refl _⟩
  methods := ⟨[], rfl, List.nil_subperm⟩
  declared _ _ known := known

theorem annotateAll (table : SymbolTable) (notes : List (NodeId × ShaderType)) :
    Leads (notes.map Prod.fst) table (table.annotateAll notes) := by
  induction notes generalizing table with
  | nil => exact refl table
  | cons note rest inductionHypothesis =>
      exact (annotate table note.1 note.2).trans (inductionHypothesis _)

/-- A method is annotated with its type and its state together. -/
theorem annotateMethod (table : SymbolTable) (node : NodeId) (type : ShaderType)
    (info : MethodInfo) :
    Leads [node] table ((table.annotate node type).annotateMethod node info) where
  types := ⟨[(node, type)], rfl, List.Subperm.refl _⟩
  methods := ⟨[(node, info)], rfl, List.Subperm.refl _⟩
  declared _ _ known := known

theorem declareType (table : SymbolTable) (name : String) (type : ShaderType) :
    Leads [] table (table.declareType name type) where
  types := by
    unfold SymbolTable.declareType
    split <;> exact ⟨[], rfl, List.Subperm.refl _⟩
  methods := by
    unfold SymbolTable.declareType
    split <;> exact ⟨[], rfl, List.Subperm.refl _⟩
  declared asked known found := by
    unfold SymbolTable.declareType
    split
    · exact found
    · next untaken =>
        have different : asked ≠ name := by
          intro same
          rw [same] at found
          simp [found] at untaken
        unfold declaredType? at found ⊢
        rw [lookup_cons_eq, if_neg different]
        exact found

end Leads

/-! ## What is known at the end -/

/-- The table at the end of analysis annotates every node once. -/
structure Final (table : SymbolTable) : Prop where
  types : (table.annotations.types.map Prod.fst).Nodup
  methods : (table.annotations.methods.map Prod.fst).Nodup

theorem Final.of_leads {visited : List NodeId}
    (leads : Leads visited .empty table)
    (distinct : visited.Nodup) :
    table.Final := by
  obtain ⟨types, typesEq, typesWithin⟩ := leads.types
  obtain ⟨methods, methodsEq, methodsWithin⟩ := leads.methods
  constructor
  · rw [typesEq]
    simpa [SymbolTable.empty, Annotations.empty] using nodup_of_subperm typesWithin distinct
  · rw [methodsEq]
    simpa [SymbolTable.empty, Annotations.empty] using nodup_of_subperm methodsWithin distinct

variable {last : SymbolTable}

theorem Leads.isFinal (leads : Leads nodes table last) (isFinal : last.Final) : table.Final := by
  obtain ⟨types, typesEq, -⟩ := leads.types
  obtain ⟨methods, methodsEq, -⟩ := leads.methods
  have typesDistinct := isFinal.types
  have methodsDistinct := isFinal.methods
  rw [typesEq, List.map_append] at typesDistinct
  rw [methodsEq, List.map_append] at methodsDistinct
  exact ⟨(List.nodup_append.mp typesDistinct).2.1, (List.nodup_append.mp methodsDistinct).2.1⟩

theorem Leads.mem_types (leads : Leads nodes table last) {note : NodeId × ShaderType}
    (noted : note ∈ table.annotations.types) :
    note ∈ last.annotations.types := by
  obtain ⟨types, typesEq, -⟩ := leads.types
  rw [typesEq]
  exact List.mem_append_right _ noted

theorem Leads.mem_methods (leads : Leads nodes table last) {note : NodeId × MethodInfo}
    (noted : note ∈ table.annotations.methods) :
    note ∈ last.annotations.methods := by
  obtain ⟨methods, methodsEq, -⟩ := leads.methods
  rw [methodsEq]
  exact List.mem_append_right _ noted

theorem Final.type? (isFinal : table.Final) {node : NodeId} {type : ShaderType}
    (noted : (node, type) ∈ table.annotations.types) :
    table.annotations.type? node = some type :=
  lookup_eq_some_of_mem isFinal.types noted

theorem Final.method? (isFinal : table.Final) {node : NodeId} {info : MethodInfo}
    (noted : (node, info) ∈ table.annotations.methods) :
    table.annotations.method? node = some info :=
  lookup_eq_some_of_mem isFinal.methods noted

/-- A written type that is resolved once denotes the same type from then on. -/
theorem Leads.resolve (leads : Leads nodes before after) {written : TypeName} {type : ShaderType}
    (resolved : written.resolve before = .ok type) :
    written.resolve after = .ok type := by
  have base : ∀ found, before.resolveType? written.name = some found →
      after.resolveType? written.name = some found := by
    intro found known
    unfold resolveType? at known ⊢
    cases numeric : ShaderType.resolveNumeric? written.name with
    | some numericType =>
        rw [numeric] at known
        exact known
    | none =>
        rw [numeric] at known
        cases object : ShaderType.resolveObject? written.name with
        | some objectType =>
            rw [object] at known
            exact known
        | none =>
            rw [object] at known
            exact leads.declared _ _ known
  unfold TypeName.resolve at resolved ⊢
  cases known : before.resolveType? written.name with
  | none => simp [known] at resolved
  | some found =>
      rw [known] at resolved
      rw [base found known]
      exact resolved

end SymbolTable

/-! ## Expressions and statements -/

section Checks

variable {before after : SymbolTable} {result : Unit}

theorem Check.leads_declare {symbol : Symbol}
    (passes : (Check.declare symbol).Passes before result after) :
    SymbolTable.Leads [] before after := by
  obtain ⟨frame, rest, -, rfl⟩ := Check.passes_declare.mp passes
  exact .of_same rfl rfl rfl

theorem Check.leads_declareUnique {symbol : Symbol} {location : Location}
    (passes : (Check.declareUnique symbol location).Passes before result after) :
    SymbolTable.Leads [] before after := by
  obtain ⟨frame, rest, -, -, rfl⟩ := Check.passes_declareUnique.mp passes
  exact .of_same rfl rfl rfl

theorem Expression.notes_perm (expression : Expression) (table : SymbolTable)
    (entryPoint : Option EntryPoint) :
    ((expression.typing table entryPoint).notes.map Prod.fst).Perm expression.nodes := by
  induction expression with
  | literal node location value => exact List.Perm.refl _
  | identifier node location name => exact List.Perm.refl _
  | stream node location name => exact List.Perm.refl _
  | binary node location operator left right leftHypothesis rightHypothesis =>
      unfold Expression.typing Expression.nodes
      dsimp only
      rw [List.map_append, List.map_append]
      exact (List.perm_append_singleton _ _).trans ((leftHypothesis.append rightHypothesis).cons _)

theorem Expression.passes_check {expression : Expression} {context : BodyContext}
    {type : ShaderType} :
    (expression.check context).Passes before type after ↔
      (expression.typing before context.entryPoint).reports = [] ∧
      (expression.typing before context.entryPoint).type = type ∧
      after = before.annotateAll (expression.typing before context.entryPoint).notes := by
  unfold Check.Passes Expression.check
  simp only [Checked.mk.injEq]
  constructor
  · rintro ⟨typed, noted, clean⟩
    exact ⟨clean, typed, noted.symm⟩
  · rintro ⟨clean, typed, noted⟩
    exact ⟨typed, noted.symm, clean⟩

theorem Expression.leads_check {expression : Expression} {context : BodyContext}
    {type : ShaderType}
    (passes : (expression.check context).Passes before type after) :
    SymbolTable.Leads expression.nodes before after := by
  obtain ⟨-, -, rfl⟩ := Expression.passes_check.mp passes
  exact (SymbolTable.Leads.annotateAll before _).weaken
    (expression.notes_perm before context.entryPoint).subperm

theorem leads_checkInitializer {context : BodyContext} {expected : ShaderType}
    {value : Option Expression}
    (passes : (checkInitializer context expected value).Passes before result after) :
    SymbolTable.Leads (Expression.optionalNodes value) before after := by
  cases value with
  | none =>
      obtain ⟨-, rfl⟩ := Check.passes_pure.mp passes
      exact .refl before
  | some expression =>
      obtain ⟨found, middle, checks, reports⟩ := Check.passes_bind.mp passes
      obtain ⟨-, rfl⟩ := Check.passes_report.mp reports
      exact Expression.leads_check checks

/-- An assignment that passes has a target that can be assigned to. -/
theorem passes_checkAssignment {context : BodyContext} {location : Location}
    {target value : Expression}
    (passes : (checkAssignment context location target value).Passes before result after) :
    ∃ found expected middle, target.isAssignable = true ∧
      (value.check context).Passes before found middle ∧
      (target.check context).Passes middle expected after ∧
      mismatchReports expected found location = [] := by
  obtain ⟨found, middle, valueChecks, rest⟩ := Check.passes_bind.mp passes
  split at rest
  · next assignable =>
      obtain ⟨expected, last, targetChecks, reports⟩ := Check.passes_bind.mp rest
      obtain ⟨matching, rfl⟩ := Check.passes_report.mp reports
      exact ⟨found, expected, middle, assignable, valueChecks, targetChecks, matching⟩
  · obtain ⟨impossible, -⟩ := Check.passes_report.mp rest
    cases impossible

theorem leads_checkReturn {context : BodyContext} {location : Location}
    {value : Option Expression}
    (passes : (checkReturn context location value).Passes before result after) :
    SymbolTable.Leads (Expression.optionalNodes value) before after := by
  cases value with
  | none =>
      obtain ⟨-, rfl⟩ := Check.passes_report.mp passes
      exact .refl before
  | some expression =>
      obtain ⟨found, middle, checks, reports⟩ := Check.passes_bind.mp passes
      obtain ⟨-, rfl⟩ := Check.passes_report.mp reports
      exact Expression.leads_check checks

/-- The declaration of a local variable: its type, its value, its node and its name. -/
theorem Statement.passes_declare {context : BodyContext} {node : NodeId} {location : Location}
    {written : TypeName} {name : String} {value : Option Expression}
    (passes : ((Statement.declare node location written name value).check context).Passes before
      result after) :
    ∃ type middle, written.resolve before = .ok type ∧
      (checkInitializer context type value).Passes before () middle ∧
      (Check.declare ⟨name, .binding, .function, type⟩).Passes (middle.annotate node type) ()
        after := by
  obtain ⟨type, _, resolves, rest⟩ := Check.passes_bind.mp passes
  obtain ⟨resolved, rfl⟩ := Check.passes_resolve.mp resolves
  obtain ⟨_, middle, initializes, rest⟩ := Check.passes_bind.mp rest
  obtain ⟨_, _, annotates, declares⟩ := Check.passes_bind.mp rest
  rw [Check.passes_annotate] at annotates
  subst annotates
  exact ⟨type, middle, resolved, initializes, declares⟩

mutual

theorem Statement.leads_check {context : BodyContext} :
    ∀ (statement : Statement) {before after : SymbolTable} {result : Unit},
      (statement.check context).Passes before result after →
        SymbolTable.Leads statement.nodes before after
  | .declare node location written name value, before, after, result, passes => by
      obtain ⟨type, middle, -, initializes, declares⟩ := Statement.passes_declare passes
      have annotated := (leads_checkInitializer initializes).trans
        ((SymbolTable.Leads.annotate middle node type).then_same (Check.leads_declare declares))
      refine annotated.weaken ((List.perm_append_singleton _ _).subperm.trans ?_)
      exact (List.subperm_cons _).mpr (List.sublist_append_right _ _).subperm
  | .assign location target value, before, after, result, passes => by
      obtain ⟨found, expected, middle, -, valueChecks, targetChecks, -⟩ :=
        passes_checkAssignment passes
      have leads := (Expression.leads_check valueChecks).trans
        (Expression.leads_check targetChecks)
      exact leads.weaken List.perm_append_comm.subperm
  | .evaluate value, before, after, result, passes => by
      obtain ⟨found, middle, checks, finished⟩ := Check.passes_bind.mp passes
      obtain ⟨-, rfl⟩ := Check.passes_pure.mp finished
      exact Expression.leads_check checks
  | .exit location value, before, after, result, passes => leads_checkReturn passes
  | .block location body, before, after, result, passes => by
      obtain ⟨inner, checks, rfl⟩ := Check.passes_inFrame.mp passes
      have opened : SymbolTable.Leads [] before before.push := .of_same rfl rfl rfl
      have closed : SymbolTable.Leads [] inner inner.dropFrame := .of_same rfl rfl rfl
      exact (opened.trans (Statement.leads_checkAll body checks)).then_same closed

theorem Statement.leads_checkAll {context : BodyContext} :
    ∀ (body : List Statement) {before after : SymbolTable} {result : Unit},
      (Statement.checkAll context body).Passes before result after →
        SymbolTable.Leads (Statement.allNodes body) before after
  | [], before, after, result, passes => by
      obtain ⟨-, rfl⟩ := Check.passes_pure.mp passes
      exact .refl before
  | statement :: rest, before, after, result, passes => by
      obtain ⟨_, middle, statementChecks, restChecks⟩ := Check.passes_bind.mp passes
      exact (Statement.leads_check statement statementChecks).trans
        (Statement.leads_checkAll rest restChecks)

end

/-! ## Declarations -/

theorem Check.leads_collect {α β : Type} {check : α → Check β} (nodes : α → List NodeId)
    {items : List α} {values : List β} {before after : SymbolTable}
    (passes : (Check.collect check items).Passes before values after)
    (leads : ∀ item ∈ items, ∀ value table table', (check item).Passes table value table' →
      SymbolTable.Leads (nodes item) table table') :
    SymbolTable.Leads (items.flatMap nodes) before after := by
  refine Check.collect_invariant (fun done _ table =>
    SymbolTable.Leads (done.flatMap nodes) before table) passes (.refl before) ?_
  intro done item rest split found table value table' others earlier checks _
  rw [List.flatMap_append, List.flatMap_singleton]
  exact earlier.trans (leads item (by simp [split]) value table table' checks)

theorem Check.leads_forEach {α : Type} {check : α → Check Unit} (nodes : α → List NodeId)
    {items : List α} {before after : SymbolTable} {result : Unit}
    (passes : (Check.forEach check items).Passes before result after)
    (leads : ∀ item ∈ items, ∀ table table', (check item).Passes table () table' →
      SymbolTable.Leads (nodes item) table table') :
    SymbolTable.Leads (items.flatMap nodes) before after := by
  refine Check.forEach_invariant (fun done table =>
    SymbolTable.Leads (done.flatMap nodes) before table) passes (.refl before) ?_
  intro done item rest split table table' earlier checks _
  rw [List.flatMap_append, List.flatMap_singleton]
  exact earlier.trans (leads item (by simp [split]) table table' checks)

theorem Generic.passes_check {generic : Generic} {symbol : Symbol}
    (passes : generic.check.Passes before symbol after) :
    ∃ type, generic.type.resolve before = .ok type ∧
      symbol = ⟨generic.name, .binding, .generic, type⟩ ∧
      (Check.declareUnique symbol generic.location).Passes
        (before.annotate generic.node type) () after := by
  obtain ⟨type, _, resolves, rest⟩ := Check.passes_bind.mp passes
  obtain ⟨resolved, rfl⟩ := Check.passes_resolve.mp resolves
  obtain ⟨_, _, annotates, rest⟩ := Check.passes_bind.mp rest
  rw [Check.passes_annotate] at annotates
  subst annotates
  obtain ⟨_, _, declares, finished⟩ := Check.passes_bind.mp rest
  obtain ⟨rfl, rfl⟩ := Check.passes_pure.mp finished
  exact ⟨type, resolved, rfl, declares⟩

theorem StructField.passes_check {field : StructField} {found : Field}
    (passes : field.check.Passes before found after) :
    ∃ type, field.type.resolve before = .ok type ∧ found = ⟨field.name, type⟩ ∧
      after = before := by
  obtain ⟨type, _, resolves, finished⟩ := Check.passes_bind.mp passes
  obtain ⟨resolved, rfl⟩ := Check.passes_resolve.mp resolves
  obtain ⟨rfl, rfl⟩ := Check.passes_pure.mp finished
  exact ⟨type, resolved, rfl, rfl⟩

theorem StructField.passes_collect {fields : List StructField} {found : List Field}
    (passes : (Check.collect StructField.check fields).Passes before found after) :
    after = before ∧
      ∀ field ∈ found, ∃ written, TypeName.resolve written before = .ok field.type := by
  refine Check.collect_invariant (fun _ found table => table = before ∧
    ∀ field ∈ found, ∃ written, TypeName.resolve written before = .ok field.type) passes
    ⟨rfl, by simp⟩ ?_
  rintro done item rest - found table value table' others ⟨rfl, earlier⟩ checks -
  obtain ⟨type, resolved, rfl, rfl⟩ := StructField.passes_check checks
  refine ⟨rfl, fun field member => ?_⟩
  rcases List.mem_append.mp member with older | newest
  · exact earlier field older
  · rw [List.mem_singleton.mp newest]
    exact ⟨item.type, resolved⟩

theorem Struct.passes_check {struct : Struct} {symbol : Symbol}
    (passes : struct.check.Passes before symbol after) :
    ∃ fields, (∀ field ∈ fields, ∃ written, TypeName.resolve written before = .ok field.type) ∧
      symbol = ⟨struct.name, .struct, .none, .struct struct.name fields⟩ ∧
      before.resolveType? struct.name = none ∧
      (Check.declare symbol).Passes
        ((before.annotate struct.node (.struct struct.name fields)).declareType struct.name
          (.struct struct.name fields)) () after := by
  obtain ⟨fields, _, collects, rest⟩ := Check.passes_bind.mp passes
  obtain ⟨rfl, resolved⟩ := StructField.passes_collect collects
  obtain ⟨_, _, annotates, rest⟩ := Check.passes_bind.mp rest
  rw [Check.passes_annotate] at annotates
  subst annotates
  obtain ⟨earlier, _, reads, rest⟩ := Check.passes_bind.mp rest
  obtain ⟨resolves, rfl⟩ := Check.passes_read.mp reads
  cases earlier with
  | some type =>
      obtain ⟨_, _, reports, -⟩ := Check.passes_bind.mp rest
      obtain ⟨impossible, -⟩ := Check.passes_report.mp reports
      cases impossible
  | none =>
      obtain ⟨_, _, updates, rest⟩ := Check.passes_bind.mp rest
      rw [Check.passes_update] at updates
      subst updates
      obtain ⟨_, _, declares, finished⟩ := Check.passes_bind.mp rest
      obtain ⟨rfl, rfl⟩ := Check.passes_pure.mp finished
      exact ⟨fields, resolved, rfl, resolves, declares⟩

theorem Member.passes_checkValue {member : Member} {expected : ShaderType}
    (passes : (member.checkValue expected).Passes before result after) :
    (∀ expression ∈ member.value, ∃ node location literal,
      expression = .literal node location literal) ∧
      (checkInitializer .shaderLevel expected member.value).Passes before result after := by
  unfold Member.checkValue at passes
  split at passes
  · next absent =>
      rw [absent]
      exact ⟨by simp, passes⟩
  · next value present =>
      rw [present]
      split at passes
      · next node location literal =>
          refine ⟨fun expression same => ⟨node, location, literal, ?_⟩, passes⟩
          simpa using same.symm
      · obtain ⟨impossible, -⟩ := Check.passes_report.mp passes
        cases impossible

theorem Member.passes_check {member : Member} {symbol : Symbol}
    (passes : member.check.Passes before symbol after) :
    ∃ type middle, member.type.resolve before = .ok type ∧
      symbol = ⟨member.name, .binding, member.symbolStorage, type⟩ ∧
      (member.checkValue type).Passes before () middle ∧
      (Check.declareUnique symbol member.location).Passes (middle.annotate member.node type) ()
        after := by
  obtain ⟨type, _, resolves, rest⟩ := Check.passes_bind.mp passes
  obtain ⟨resolved, rfl⟩ := Check.passes_resolve.mp resolves
  obtain ⟨_, middle, values, rest⟩ := Check.passes_bind.mp rest
  obtain ⟨_, _, annotates, rest⟩ := Check.passes_bind.mp rest
  rw [Check.passes_annotate] at annotates
  subst annotates
  obtain ⟨_, _, declares, finished⟩ := Check.passes_bind.mp rest
  obtain ⟨rfl, rfl⟩ := Check.passes_pure.mp finished
  exact ⟨type, middle, resolved, rfl, values, declares⟩

theorem Sampler.passes_check {sampler : Sampler} {symbol : Symbol}
    (passes : sampler.check.Passes before symbol after) :
    symbol = ⟨sampler.name, .binding, .uniform, sampler.kind.type⟩ ∧
      (Check.declareUnique symbol sampler.location).Passes
        (before.annotate sampler.node sampler.kind.type) () after := by
  obtain ⟨_, _, annotates, rest⟩ := Check.passes_bind.mp passes
  rw [Check.passes_annotate] at annotates
  subst annotates
  obtain ⟨_, _, declares, finished⟩ := Check.passes_bind.mp rest
  obtain ⟨rfl, rfl⟩ := Check.passes_pure.mp finished
  exact ⟨rfl, declares⟩

theorem Composition.passes_check {composition : Composition} {symbol : Symbol}
    (passes : composition.check.Passes before symbol after) :
    symbol = ⟨composition.name, .composition, .none, .shader composition.mixin []⟩ ∧
      (Check.declareUnique symbol composition.location).Passes
        (before.annotate composition.node (.shader composition.mixin [])) () after := by
  obtain ⟨_, _, annotates, rest⟩ := Check.passes_bind.mp passes
  rw [Check.passes_annotate] at annotates
  subst annotates
  obtain ⟨_, _, declares, finished⟩ := Check.passes_bind.mp rest
  obtain ⟨rfl, rfl⟩ := Check.passes_pure.mp finished
  exact ⟨rfl, declares⟩

theorem Parameter.passes_check {parameter : Parameter} {type : ShaderType}
    (passes : parameter.check.Passes before type after) :
    parameter.type.resolve before = .ok type ∧
      ∃ middle,
        (if type.isUndefined then before else before.declareType type.text type).addParameter
          ⟨parameter.name, .binding, .function, type⟩ = .ok middle ∧
        after = middle.annotate parameter.node type := by
  obtain ⟨found, _, resolves, rest⟩ := Check.passes_bind.mp passes
  obtain ⟨resolved, rfl⟩ := Check.passes_resolve.mp resolves
  obtain ⟨_, _, updates, rest⟩ := Check.passes_bind.mp rest
  rw [Check.passes_update] at updates
  subst updates
  obtain ⟨_, middle, attempts, rest⟩ := Check.passes_bind.mp rest
  rw [Check.passes_attempt] at attempts
  obtain ⟨_, _, annotates, finished⟩ := Check.passes_bind.mp rest
  rw [Check.passes_annotate] at annotates
  subst annotates
  obtain ⟨rfl, rfl⟩ := Check.passes_pure.mp finished
  exact ⟨resolved, middle, attempts, rfl⟩

theorem SymbolTable.addParameter_eq_ok {table changed : SymbolTable} {parameter : Symbol}
    (added : table.addParameter parameter = .ok changed) :
    ∃ overloads, changed = { table with overloads := overloads } := by
  unfold SymbolTable.addParameter at added
  split at added
  · cases added
    exact ⟨_, rfl⟩
  · cases added

theorem SymbolTable.completeFunction_eq_ok {table changed : SymbolTable} {signature : Signature}
    (completed : table.completeFunction signature = .ok changed) :
    ∃ overloads, changed = { table with overloads := overloads, registering := false } := by
  unfold SymbolTable.completeFunction at completed
  split at completed
  · cases completed
    exact ⟨_, rfl⟩
  · cases completed

theorem Parameter.leads_check {parameter : Parameter} {type : ShaderType}
    (passes : parameter.check.Passes before type after) :
    SymbolTable.Leads [parameter.node] before after := by
  obtain ⟨-, middle, added, rfl⟩ := Parameter.passes_check passes
  obtain ⟨overloads, rfl⟩ := SymbolTable.addParameter_eq_ok added
  have declares : SymbolTable.Leads [] before
      (if type.isUndefined then before else before.declareType type.text type) := by
    split
    · exact .refl before
    · exact .declareType before type.text type
  have adds : SymbolTable.Leads [] before { (if type.isUndefined then before
      else before.declareType type.text type : SymbolTable) with overloads := overloads } :=
    declares.then_same (.of_same rfl rfl rfl)
  exact adds.trans (.annotate _ parameter.node type)

/-- The declaration of a method: its signature, its annotations and its name. -/
theorem Method.passes_declare {method : Method} {symbol : Symbol}
    (passes : method.declare.Passes before symbol after) :
    ∃ returned parameters middle completed,
      method.returned.resolve before = .ok returned ∧
      (Check.collect Parameter.check method.parameters).Passes
        (before.registerFunction method.name) parameters middle ∧
      middle.completeFunction ⟨returned, parameters⟩ = .ok completed ∧
      symbol = ⟨method.name, .method, .none, .function returned parameters⟩ ∧
      (Check.declare symbol).Passes
        ((completed.annotate method.node (.function returned parameters)).annotateMethod method.node
          ⟨EntryPoint.ofMethodName? method.name, .typeResolved⟩) () after := by
  obtain ⟨earlier, _, reads, rest⟩ := Check.passes_bind.mp passes
  obtain ⟨-, rfl⟩ := Check.passes_read.mp reads
  obtain ⟨_, _, updates, rest⟩ := Check.passes_bind.mp rest
  rw [Check.passes_update] at updates
  subst updates
  obtain ⟨returned, _, resolves, rest⟩ := Check.passes_bind.mp rest
  obtain ⟨resolved, rfl⟩ := Check.passes_resolve.mp resolves
  obtain ⟨parameters, middle, collects, rest⟩ := Check.passes_bind.mp rest
  dsimp only at rest
  split at rest
  · obtain ⟨_, _, reports, -⟩ := Check.passes_bind.mp rest
    obtain ⟨impossible, -⟩ := Check.passes_report.mp reports
    cases impossible
  obtain ⟨_, completed, completes, rest⟩ := Check.passes_bind.mp rest
  rw [Check.passes_attempt] at completes
  obtain ⟨_, _, annotates, rest⟩ := Check.passes_bind.mp rest
  rw [Check.passes_annotate] at annotates
  subst annotates
  obtain ⟨_, _, annotatesMethod, rest⟩ := Check.passes_bind.mp rest
  rw [Check.passes_update] at annotatesMethod
  subst annotatesMethod
  obtain ⟨_, _, declares, finished⟩ := Check.passes_bind.mp rest
  obtain ⟨rfl, rfl⟩ := Check.passes_pure.mp finished
  exact ⟨returned, parameters, middle, completed, resolved, collects, completes, rfl, declares⟩

theorem Generic.leads_check {generic : Generic} {symbol : Symbol}
    (passes : generic.check.Passes before symbol after) :
    SymbolTable.Leads [generic.node] before after := by
  obtain ⟨type, -, -, declares⟩ := Generic.passes_check passes
  exact (SymbolTable.Leads.annotate before generic.node type).then_same
    (Check.leads_declareUnique declares)

theorem Struct.leads_check {struct : Struct} {symbol : Symbol}
    (passes : struct.check.Passes before symbol after) :
    SymbolTable.Leads [struct.node] before after := by
  obtain ⟨fields, -, -, -, declares⟩ := Struct.passes_check passes
  exact ((SymbolTable.Leads.annotate before struct.node _).then_same
    (.declareType _ struct.name _)).then_same (Check.leads_declare declares)

theorem Member.leads_check {member : Member} {symbol : Symbol}
    (passes : member.check.Passes before symbol after) :
    SymbolTable.Leads member.visited before after := by
  obtain ⟨type, middle, -, -, values, declares⟩ := Member.passes_check passes
  obtain ⟨-, initializes⟩ := Member.passes_checkValue values
  exact (leads_checkInitializer initializes).trans
    ((SymbolTable.Leads.annotate middle member.node type).then_same
      (Check.leads_declareUnique declares))

theorem Sampler.leads_check {sampler : Sampler} {symbol : Symbol}
    (passes : sampler.check.Passes before symbol after) :
    SymbolTable.Leads [sampler.node] before after := by
  obtain ⟨-, declares⟩ := Sampler.passes_check passes
  exact (SymbolTable.Leads.annotate before sampler.node _).then_same
    (Check.leads_declareUnique declares)

theorem Composition.leads_check {composition : Composition} {symbol : Symbol}
    (passes : composition.check.Passes before symbol after) :
    SymbolTable.Leads [composition.node] before after := by
  obtain ⟨-, declares⟩ := Composition.passes_check passes
  exact (SymbolTable.Leads.annotate before composition.node _).then_same
    (Check.leads_declareUnique declares)

theorem Method.leads_declare {method : Method} {symbol : Symbol}
    (passes : method.declare.Passes before symbol after) :
    SymbolTable.Leads method.visited before after := by
  obtain ⟨returned, parameters, middle, completed, -, collects, completes, -, declares⟩ :=
    Method.passes_declare passes
  obtain ⟨overloads, rfl⟩ := SymbolTable.completeFunction_eq_ok completes
  have registers : SymbolTable.Leads [] before (before.registerFunction method.name) :=
    .of_same rfl rfl rfl
  have parametersLead := Check.leads_collect (fun parameter => [parameter.node]) collects
    fun _ _ _ _ _ checks => Parameter.leads_check checks
  rw [← List.map_eq_flatMap] at parametersLead
  have completesLead : SymbolTable.Leads [] middle
      { middle with overloads := overloads, registering := false } :=
    .of_same rfl rfl rfl
  exact ((registers.trans parametersLead).then_same completesLead).trans
    ((SymbolTable.Leads.annotateMethod _ method.node _ _).then_same
      (Check.leads_declare declares))

/-! ## Bodies and shaders -/

theorem Parameter.passes_bind {parameter : Parameter}
    (passes : parameter.bind.Passes before result after) :
    (Check.declare ⟨parameter.name, .binding, .function,
      (before.annotations.type? parameter.node).getD (.undefined parameter.type.name)⟩).Passes
        before () after := by
  obtain ⟨type, _, reads, declares⟩ := Check.passes_bind.mp passes
  obtain ⟨rfl, rfl⟩ := Check.passes_read.mp reads
  exact declares

/-- The check of a body: the parameters, the statements, and a return at the end if a value is
required. -/
theorem Method.passes_checkBody {method : Method} {body : List Statement}
    (present : method.body = some body)
    (passes : method.checkBody.Passes before result after) :
    ∃ opened inner,
      (Check.forEach Parameter.bind method.parameters).Passes before.push () opened ∧
      (Statement.checkAll (method.context before) body).Passes opened () inner ∧
      method.missingReturnReports (method.context before).returned body = [] ∧
      after = inner.dropFrame := by
  unfold Method.checkBody at passes
  rw [present] at passes
  obtain ⟨context, _, reads, framed⟩ := Check.passes_bind.mp passes
  obtain ⟨rfl, rfl⟩ := Check.passes_read.mp reads
  obtain ⟨inner, checks, rfl⟩ := Check.passes_inFrame.mp framed
  obtain ⟨_, opened, binds, rest⟩ := Check.passes_bind.mp checks
  obtain ⟨_, _, statements, reports⟩ := Check.passes_bind.mp rest
  obtain ⟨complete, rfl⟩ := Check.passes_report.mp reports
  exact ⟨opened, _, binds, statements, complete, rfl⟩

theorem Method.leads_checkBody {method : Method}
    (passes : method.checkBody.Passes before result after) :
    SymbolTable.Leads method.bodyNodes before after := by
  cases present : method.body with
  | none =>
      unfold Method.checkBody at passes
      rw [present] at passes
      obtain ⟨-, rfl⟩ := Check.passes_pure.mp passes
      unfold Method.bodyNodes
      rw [present]
      exact .refl before
  | some body =>
      obtain ⟨opened, inner, binds, statements, -, rfl⟩ := Method.passes_checkBody present passes
      have pushes : SymbolTable.Leads [] before before.push := .of_same rfl rfl rfl
      have parametersLead := Check.leads_forEach (fun _ => []) binds
        fun _ _ _ _ checks => Check.leads_declare (Parameter.passes_bind checks)
      have noNodes : method.parameters.flatMap (fun _ => ([] : List NodeId)) = [] := by simp
      rw [noNodes] at parametersLead
      have drops : SymbolTable.Leads [] inner inner.dropFrame := .of_same rfl rfl rfl
      unfold Method.bodyNodes
      rw [present]
      have leads := (pushes.trans parametersLead).trans (Statement.leads_checkAll body statements)
      exact leads.then_same drops

/-- The phases of the check of declarations, kind by kind. -/
theorem Shader.passes_checkDeclarations {shader : Shader} {components : List Symbol}
    (passes : shader.checkDeclarations.Passes before components after) :
    ∃ generics structs members samplers compositions methods first second third fourth fifth,
      (Check.collect Generic.check shader.generics).Passes before generics first ∧
      (Check.collect Struct.check shader.structs).Passes first structs second ∧
      (Check.collect Member.check shader.members).Passes second members third ∧
      (Check.collect Sampler.check shader.samplers).Passes third samplers fourth ∧
      (Check.collect Composition.check shader.compositions).Passes fourth compositions fifth ∧
      (Check.collect Method.declare shader.methods).Passes fifth methods after ∧
      components = generics ++ structs ++ members ++ samplers ++ compositions ++ methods := by
  obtain ⟨generics, first, genericsPass, rest⟩ := Check.passes_bind.mp passes
  obtain ⟨structs, second, structsPass, rest⟩ := Check.passes_bind.mp rest
  obtain ⟨members, third, membersPass, rest⟩ := Check.passes_bind.mp rest
  obtain ⟨samplers, fourth, samplersPass, rest⟩ := Check.passes_bind.mp rest
  obtain ⟨compositions, fifth, compositionsPass, rest⟩ := Check.passes_bind.mp rest
  obtain ⟨methods, sixth, methodsPass, finished⟩ := Check.passes_bind.mp rest
  obtain ⟨rfl, rfl⟩ := Check.passes_pure.mp finished
  exact ⟨generics, structs, members, samplers, compositions, methods, first, second, third, fourth,
    fifth, genericsPass, structsPass, membersPass, samplersPass, compositionsPass, methodsPass, rfl⟩

theorem Shader.leads_checkDeclarations {shader : Shader} {components : List Symbol}
    (passes : shader.checkDeclarations.Passes before components after) :
    SymbolTable.Leads shader.visitedDeclarations before after := by
  obtain ⟨_, _, _, _, _, _, _, _, _, _, _, generics, structs, members, samplers, compositions,
    methods, -⟩ := Shader.passes_checkDeclarations passes
  unfold Shader.visitedDeclarations
  rw [List.map_eq_flatMap, List.map_eq_flatMap, List.map_eq_flatMap, List.map_eq_flatMap]
  have genericsLead := Check.leads_collect _ generics fun _ _ _ _ _ => Generic.leads_check
  have structsLead := Check.leads_collect _ structs fun _ _ _ _ _ => Struct.leads_check
  have membersLead := Check.leads_collect _ members fun _ _ _ _ _ => Member.leads_check
  have samplersLead := Check.leads_collect _ samplers fun _ _ _ _ _ => Sampler.leads_check
  have compositionsLead :=
    Check.leads_collect _ compositions fun _ _ _ _ _ => Composition.leads_check
  have methodsLead := Check.leads_collect _ methods fun _ _ _ _ _ => Method.leads_declare
  exact ((((genericsLead.trans structsLead).trans membersLead).trans samplersLead).trans
    compositionsLead).trans methodsLead

/-- The phases of the check of a shader: declarations, attributes, bodies. -/
theorem Shader.passes_check {shader : Shader}
    (passes : shader.check.Passes before result after) :
    ∃ components declared arguments,
      shader.checkDeclarations.Passes before.push components declared ∧
      (Check.forEach Shader.checkArgument shader.attributeArguments).Passes
        (declared.setShader ⟨shader.name, components⟩) () arguments ∧
      (Check.forEach Method.checkBody shader.methods).Passes arguments () after := by
  obtain ⟨_, _, pushes, rest⟩ := Check.passes_bind.mp passes
  rw [Check.passes_update] at pushes
  subst pushes
  obtain ⟨components, declared, declares, rest⟩ := Check.passes_bind.mp rest
  obtain ⟨_, _, updates, rest⟩ := Check.passes_bind.mp rest
  rw [Check.passes_update] at updates
  subst updates
  obtain ⟨_, arguments, attributes, bodies⟩ := Check.passes_bind.mp rest
  exact ⟨components, declared, arguments, declares, attributes, bodies⟩

theorem Shader.leads_checkArgument {argument : Expression}
    (passes : (Shader.checkArgument argument).Passes before result after) :
    SymbolTable.Leads argument.nodes before after := by
  obtain ⟨type, middle, checks, finished⟩ := Check.passes_bind.mp passes
  obtain ⟨-, rfl⟩ := Check.passes_pure.mp finished
  exact Expression.leads_check checks

theorem Shader.leads_check {shader : Shader}
    (passes : shader.check.Passes before result after) :
    SymbolTable.Leads shader.visited before after := by
  obtain ⟨components, declared, arguments, declares, attributes, bodies⟩ :=
    Shader.passes_check passes
  have pushes : SymbolTable.Leads [] before before.push := .of_same rfl rfl rfl
  have named : SymbolTable.Leads [] declared (declared.setShader ⟨shader.name, components⟩) :=
    .of_same rfl rfl rfl
  have argumentsLead := Check.leads_forEach _ attributes
    fun _ _ _ _ => Shader.leads_checkArgument
  have bodiesLead := Check.leads_forEach _ bodies fun _ _ _ _ => Method.leads_checkBody
  exact (((pushes.trans (Shader.leads_checkDeclarations declares)).then_same named).trans
    argumentsLead).trans bodiesLead

/-- At the end of analysis every node of a shader with distinct nodes is annotated once. -/
theorem Shader.isFinal_of_check {shader : Shader}
    (passes : shader.check.Passes .empty result after)
    (distinct : shader.nodes.Nodup) :
    after.Final :=
  .of_leads (Shader.leads_check passes) (nodup_of_subperm shader.visited_subperm distinct)

end Checks

end ShaderLang
