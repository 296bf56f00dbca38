import ShaderLang.Proofs.EmissionGrowth
import ShaderLang.Proofs.RegistryIdentity
import ShaderLang.Proofs.RegistryRanges

/-!
# Emission step by step

All that emission does to a module is a sequence of steps of three kinds: it registers a type that
an annotation or a variable has, it registers the constant of a literal, or it writes code that
registers nothing and labels only ids that it defines.  An invariant of module builders that every
step keeps is kept by the emission of a shader.
-/

namespace ShaderLang

/-! ## Code that registers nothing -/

/-- An instruction names an id or gives it a semantic. -/
inductive Instruction.Labels (id : ResultId) : Instruction → Prop
  | name (text : String) : Labels id (.name id text)
  | semantic (text : String) : Labels id (.semantic id text)

namespace ModuleBuilder

variable {builder before middle after : ModuleBuilder} {start id : ResultId}

/-- A builder goes on to another one with code that declares no type and no constant, and that
labels only ids from the given one on. -/
structure Writes (start : ResultId) (before after : ModuleBuilder) : Prop where
  code : ∃ new, before.Extends new after ∧
    ∀ instruction ∈ new, instruction.isDeclaration = true →
      ∃ id, start ≤ id ∧ id < after.bound ∧ instruction.Labels id
  options : after.options = before.options

namespace Writes

theorem refl (start : ResultId) (builder : ModuleBuilder) : Writes start builder builder :=
  ⟨⟨[], .refl builder, List.forall_mem_nil _⟩, rfl⟩

theorem trans (first : Writes start before middle) (second : Writes start middle after) :
    Writes start before after := by
  obtain ⟨firstNew, firstExtension, firstLabels⟩ := first.code
  obtain ⟨secondNew, secondExtension, secondLabels⟩ := second.code
  refine ⟨⟨firstNew ++ secondNew, firstExtension.trans secondExtension, ?_⟩,
    second.options.trans first.options⟩
  intro instruction member declares
  rcases List.mem_append.mp member with inFirst | inSecond
  · obtain ⟨id, isNew, allocated, labels⟩ := firstLabels instruction inFirst declares
    exact ⟨id, isNew, Nat.lt_of_lt_of_le allocated secondExtension.bound, labels⟩
  · exact secondLabels instruction inSecond declares

theorem defined {form : ResultId → Instruction}
    (defines : (form builder.bound).result? = some builder.bound)
    (plain : (form builder.bound).isDeclaration = false) :
    Writes start builder (builder.defined form) := by
  refine ⟨⟨[form builder.bound], .of_definition rfl rfl rfl rfl ?_, ?_⟩, rfl⟩
  · rw [List.filterMap_cons_some defines, List.filterMap_nil]
  · simp [plain]

theorem append {instruction : Instruction}
    (defines : instruction.result? = none)
    (plain : instruction.isDeclaration = false) :
    Writes start builder (builder.append instruction) := by
  refine ⟨⟨[instruction], .of_plain rfl rfl (Nat.le_refl _) rfl ?_, ?_⟩, rfl⟩
  · rw [List.filterMap_cons_none defines, List.filterMap_nil]
  · simp [plain]

theorem addName (isNew : start ≤ id) (allocated : id < builder.bound) (name : String) :
    Writes start builder (builder.addName id name) := by
  refine ⟨⟨_, .addName builder id name, ?_⟩, options_addName builder id name⟩
  intro instruction member _
  unfold nameCode at member
  split at member
  · rw [List.mem_singleton.mp member, bound_addName]
    exact ⟨id, isNew, allocated, .name name⟩
  · exact absurd member List.not_mem_nil

theorem addOptionalSemantic (isNew : start ≤ id) (allocated : id < builder.bound)
    (semantic : Option String) :
    Writes start builder (builder.addOptionalSemantic id semantic) := by
  cases semantic with
  | none => exact .refl start builder
  | some text =>
      refine ⟨⟨_, .addSemantic builder id text, ?_⟩, rfl⟩
      intro instruction member _
      rw [List.mem_singleton.mp member]
      exact ⟨id, isNew, allocated, .semantic text⟩

theorem withCell (builder : ModuleBuilder) (name : String) (typeId : ResultId)
    (storage : StorageClass) :
    Writes builder.bound builder (builder.withCell name typeId storage) :=
  (defined rfl rfl).trans (.addName (Nat.le_refl _) (Nat.lt_succ_self _) name)

theorem withMember (builder : ModuleBuilder) (name : String) (semantic : Option String)
    (typeId : ResultId) :
    Writes builder.bound builder (builder.withMember name semantic typeId) := by
  have decorated : Writes builder.bound builder ((builder.defined fun result =>
      .cell result typeId .function).addOptionalSemantic builder.bound semantic) :=
    (defined rfl rfl).trans (.addOptionalSemantic (Nat.le_refl _) (Nat.lt_succ_self _) semantic)
  have allocated : builder.bound < ((builder.defined fun result =>
      .cell result typeId .function).addOptionalSemantic builder.bound semantic).bound := by
    cases semantic <;> exact Nat.lt_succ_self _
  exact decorated.trans (.addName (Nat.le_refl _) allocated name)

theorem withParameter (builder : ModuleBuilder) (name : String) (typeId : ResultId) :
    Writes builder.bound builder (builder.withParameter name typeId) :=
  (defined rfl rfl).trans (.addName (Nat.le_refl _) (Nat.lt_succ_self _) name)

theorem storeOptional (builder : ModuleBuilder) (cell : ResultId) (value : Option ResultId) :
    Writes start builder (builder.storeOptional cell value) := by
  cases value with
  | none => exact .refl start builder
  | some id => exact append rfl rfl

theorem closeBlock (builder : ModuleBuilder) (function : OpenFunction) :
    Writes start builder (builder.closeBlock function) := by
  unfold ModuleBuilder.closeBlock
  split
  · exact .refl start builder
  · exact append rfl rfl

theorem startFunction (builder : ModuleBuilder) (name : String) (entryPoint : Option EntryPoint)
    (returned functionType : ResultId) :
    Writes builder.bound builder
      (builder.startFunction name entryPoint returned functionType) := by
  have started : Writes builder.bound builder
      (builder.withFunction name entryPoint returned functionType) := by
    refine ⟨⟨_, .of_definition rfl rfl rfl rfl results_functionStart, ?_⟩, rfl⟩
    intro instruction member declares
    rcases List.mem_append.mp member with isEntryPoint | isFunction
    · cases entryPoint with
      | none => exact absurd isEntryPoint List.not_mem_nil
      | some stage =>
          rw [List.mem_singleton.mp isEntryPoint] at declares
          cases declares
    · rw [List.mem_singleton.mp isFunction] at declares
      cases declares
  exact started.trans (.addName (Nat.le_refl _) (Nat.lt_succ_self _) name)

end Writes

/-! ## Steps -/

/-- A step of emission.  The types that are registered pass a test, and the literals are exact. -/
inductive EmissionStep (test : ShaderType → Bool) : ModuleBuilder → ModuleBuilder → Prop
  | register {type : ShaderType} {id : ResultId} {before after : ModuleBuilder}
      (passed : type.everywhere test = true)
      (registers : (Build.register type).run before = .ok id after) :
      EmissionStep test before after
  | literal {value : Literal} {id : ResultId} {before after : ModuleBuilder}
      (isExact : value.excess?.isNone = true)
      (registers : (Build.registerConstant value.constant.1 value.constant.2).run before =
        .ok id after) :
      EmissionStep test before after
  | write {before after : ModuleBuilder}
      (writes : Writes before.bound before after) :
      EmissionStep test before after

/-- The steps of an emission, one after the other. -/
abbrev EmissionTrace (test : ShaderType → Bool) : ModuleBuilder → ModuleBuilder → Prop :=
  Relation.ReflTransGen (EmissionStep test)

variable {test : ShaderType → Bool}

theorem EmissionTrace.register {type : ShaderType}
    (trace : EmissionTrace test before middle)
    (passed : type.everywhere test = true)
    (registers : (Build.register type).run middle = .ok id after) :
    EmissionTrace test before after :=
  trace.tail (.register passed registers)

theorem EmissionTrace.write (trace : EmissionTrace test before middle)
    (writes : Writes middle.bound middle after) :
    EmissionTrace test before after :=
  trace.tail (.write writes)

/-- What registering the types that pass, registering exact literals and writing code all keep is
kept by an emission. -/
theorem EmissionTrace.invariant (trace : EmissionTrace test before after)
    (invariant : ModuleBuilder → Prop)
    (holds : invariant before)
    (kept : ∀ builder builder', EmissionStep test builder builder' →
      invariant builder → invariant builder') :
    invariant after := by
  induction trace with
  | refl => exact holds
  | tail _ step inductionHypothesis => exact kept _ _ step inductionHypothesis

theorem EmissionStep.identifies (step : EmissionStep test before after)
    (identifies : before.Identifies) :
    after.Identifies := by
  cases step with
  | register passed registers =>
      exact (Build.register_reaches _ registers).1.identifies identifies
  | literal isExact registers =>
      exact (Build.registerConstant_reaches registers).1.identifies identifies
  | write writes =>
      obtain ⟨new, extension, -⟩ := writes.code
      exact identifies.extend extension

/-- Exact literals are no lengths, so only arrays bring unsigned constants. -/
theorem EmissionStep.inRange (step : EmissionStep test before after)
    (suits : ShaderType.SuitsRegistration test)
    (inRange : before.InRange test []) :
    after.InRange test [] := by
  cases step with
  | register passed registers => exact Build.register_inRange suits _ registers inRange passed
  | @literal value id _ _ isExact registers =>
      refine Build.registerConstant_inRange suits registers inRange
        (Literal.holds_constant isExact) (List.Subset.refl _) ?_
      intro size same
      exact absurd (congrArg Prod.fst same) value.constant_ne_uint
  | write writes =>
      obtain ⟨new, extension, -⟩ := writes.code
      exact inRange.congr extension.types extension.constants

end ModuleBuilder

/-! ## Expressions -/

open ModuleBuilder

variable {test : ShaderType → Bool} {annotations : Annotations}

/-- Every annotated type passes a test, with all its parts. -/
def Annotations.TypesPass (test : ShaderType → Bool) (annotations : Annotations) : Prop :=
  ∀ node type, annotations.type? node = some type → type.everywhere test = true

/-- The types of the variables that names stand for pass a test, with all their parts. -/
def NameTable.CellsPass (test : ShaderType → Bool) (names : NameTable Binding) : Prop :=
  ∀ entry ∈ names.entries, ∀ id type, entry.2 = .cell id type → type.everywhere test = true

theorem Expression.Emits.trace {functions : FunctionBuilder} {expression : Expression}
    {id : ResultId} {before after : ModuleBuilder}
    (emits : expression.Emits annotations functions before id after)
    (passed : annotations.TypesPass test)
    (cells : functions.names.CellsPass test)
    (isExact : expression.isExact = true) :
    EmissionTrace test before after := by
  induction emits with
  | literal registers => exact .single (.literal isExact registers)
  | value bound => exact .refl
  | @load expression cell typeId type before after bound registers =>
      obtain ⟨name, member⟩ := NameTable.mem_entries_of_resolve? bound
      have registered := EmissionTrace.register .refl (cells _ member cell type rfl) registers
      exact registered.write (.defined rfl rfl)
  | binary leftEmits rightEmits typed selected registers leftHypothesis rightHypothesis =>
      obtain ⟨leftExact, rightExact⟩ := Bool.and_eq_true_iff.mp isExact
      have operands := (leftHypothesis leftExact).trans (rightHypothesis rightExact)
      exact (EmissionTrace.register operands (passed _ _ typed) registers).write (.defined rfl rfl)

theorem Expression.EmitsOptional.trace {functions : FunctionBuilder}
    {value : Option Expression} {result : Option ResultId} {before after : ModuleBuilder}
    (emits : Expression.EmitsOptional annotations functions value before result after)
    (passed : annotations.TypesPass test)
    (cells : functions.names.CellsPass test)
    (isExact : value.all Expression.isExact = true) :
    EmissionTrace test before after := by
  cases emits with
  | none => exact .refl
  | some emits => exact emits.trace passed cells isExact

/-! ## Names of variables -/

namespace NameTable.CellsPass

variable {functions : FunctionBuilder} {binding : Binding}

/-- A name that stands for a variable whose type passes, or for no variable, may be added. -/
theorem add {names more : NameTable Binding}
    (cells : names.CellsPass test) (name : String)
    (entries : more.entries ⊆ (name, binding) :: names.entries)
    (passed : ∀ id type, binding = .cell id type → type.everywhere test = true) :
    more.CellsPass test := by
  intro entry member
  rcases List.mem_cons.mp (entries member) with rfl | older
  · exact passed
  · exact cells entry older

theorem bindLocal (cells : functions.names.CellsPass test) (name : String)
    (passed : ∀ id type, binding = .cell id type → type.everywhere test = true) :
    (functions.bindLocal name binding).names.CellsPass test := by
  rw [FunctionBuilder.names_bindLocal]
  by_cases opened : functions.names.scopes = []
  · have same : (functions.names.bind name binding).entries = functions.names.entries := by
      unfold NameTable.bind NameTable.entries
      rw [opened]
    refine cells.add name ?_ passed
    rw [same]
    exact List.subset_cons_self _ _
  · refine cells.add name ?_ passed
    rw [NameTable.entries_bind opened]
    exact List.Subset.refl _

theorem bindMember (cells : functions.names.CellsPass test) (name : String)
    (passed : ∀ id type, binding = .cell id type → type.everywhere test = true) :
    (functions.bindMember name binding).names.CellsPass test := by
  refine cells.add name ?_ passed
  intro entry member
  rcases List.mem_append.mp member with inScopes | inShader
  · exact List.mem_cons_of_mem _ (List.mem_append_left _ inScopes)
  · rcases List.mem_cons.mp inShader with same | older
    · rw [same]
      exact List.mem_cons_self
    · exact List.mem_cons_of_mem _ (List.mem_append_right _ older)

theorem pushScope (cells : functions.names.CellsPass test) :
    functions.pushScope.names.CellsPass test := by
  intro entry member
  exact cells entry (functions.names.entries_push ▸ member)

end NameTable.CellsPass

/-! ## Statements and methods -/

/-- An emitter goes on to another one by steps of emission, and leaves variables whose types
pass. -/
structure Emitter.Traces (test : ShaderType → Bool) (before after : Emitter) : Prop where
  trace : EmissionTrace test before.target after.target
  cells : after.functions.names.CellsPass test

theorem Emitter.Traces.trans {before middle after : Emitter}
    (first : before.Traces test middle)
    (second : middle.Traces test after) :
    before.Traces test after :=
  ⟨first.trace.trans second.trace, second.cells⟩

theorem Statement.EmitsSimple.traces {statement : Statement} {before after : Emitter}
    (emits : statement.EmitsSimple annotations before after)
    (passed : annotations.TypesPass test)
    (isExact : statement.isExact = true)
    (cells : before.functions.names.CellsPass test) :
    before.Traces test after := by
  cases emits with
  | @declare node _ _ name _ valueId typeId type _ first second typed valueEmits registers
      opened =>
      have typePassed := passed _ _ typed
      have registered := (valueEmits.trace passed cells isExact).register typePassed registers
      refine ⟨(registered.write (.withCell _ _ _ _)).write (.storeOptional _ _ _),
        cells.bindLocal name fun id found same => ?_⟩
      cases same
      exact typePassed
  | assign valueEmits bound =>
      exact ⟨(valueEmits.trace passed cells isExact).write (.append rfl rfl), cells⟩
  | evaluate valueEmits => exact ⟨valueEmits.trace passed cells isExact, cells⟩
  | @exit _ _ valueId _ _ _ valueEmits opened inBlock =>
      refine ⟨(valueEmits.trace passed cells isExact).write ?_, cells⟩
      cases valueId with
      | none => exact .append rfl rfl
      | some id => exact .append rfl rfl

theorem Statement.EmitsAll.traces {body : List Statement} {before after : Emitter}
    (emits : Statement.EmitsAll annotations body before after)
    (passed : annotations.TypesPass test)
    (isExact : Statement.allExact body = true)
    (cells : before.functions.names.CellsPass test) :
    before.Traces test after := by
  induction emits with
  | nil => exact ⟨.refl, cells⟩
  | stop terminated => exact ⟨.refl, cells⟩
  | simple running emits restEmits inductionHypothesis =>
      obtain ⟨statementExact, restExact⟩ := Bool.and_eq_true_iff.mp isExact
      have first := emits.traces passed statementExact cells
      exact first.trans (inductionHypothesis restExact first.cells)
  | @block location body rest before inner after running bodyEmits restEmits bodyHypothesis
      restHypothesis =>
      obtain ⟨bodyExact, restExact⟩ := Bool.and_eq_true_iff.mp isExact
      have inside := bodyHypothesis bodyExact cells.pushScope
      -- Behind the block the names are those in front of it.
      have behind : inner.functions.dropScope.names.CellsPass test := by
        rw [bodyEmits.names_dropScope]
        exact cells
      have rest := restHypothesis restExact behind
      exact ⟨inside.trace.trans rest.trace, rest.cells⟩

theorem Method.EmitsParameters.traces {parameters : List Parameter} {before after : Emitter}
    (emits : Method.EmitsParameters annotations parameters before after)
    (passed : annotations.TypesPass test)
    (cells : before.functions.names.CellsPass test) :
    before.Traces test after := by
  induction emits with
  | nil => exact ⟨.refl, cells⟩
  | @cons parameter rest type typeId before after first typed registers restEmits
      inductionHypothesis =>
      have registered := EmissionTrace.register .refl (passed _ _ typed) registers
      have bound := inductionHypothesis
        (cells.bindLocal parameter.name fun id found same => by cases same)
      exact ⟨(registered.write (.withParameter _ _ _)).trans bound.trace, bound.cells⟩

theorem Method.EmitsBody.traces {body : Option (List Statement)} {before after : Emitter}
    (emits : Method.EmitsBody annotations body before after)
    (passed : annotations.TypesPass test)
    (isExact : body.all Statement.allExact = true)
    (cells : before.functions.names.CellsPass test) :
    before.Traces test after := by
  cases emits with
  | none => exact ⟨.refl, cells⟩
  | some opened statementsEmit =>
      have inside := statementsEmit.traces passed isExact cells
      exact ⟨(EmissionTrace.write .refl (.defined rfl rfl)).trans inside.trace, inside.cells⟩

theorem Method.Emits.traces {method : Method} {before after : Emitter}
    (emits : method.Emits annotations before after)
    (passed : annotations.TypesPass test)
    (isExact : method.body.all Statement.allExact = true)
    (cells : before.functions.names.CellsPass test) :
    before.Traces test after := by
  have sameMembers := emits.members
  cases emits with
  | @mk info returned parameters functionType returnedId first second function _ middle last
      checked typed closed registersType registersReturned parametersEmit bodyEmits opened
      closable =>
      have signature := passed _ _ typed
      have returnedPassed : returned.everywhere test = true :=
        (Bool.and_eq_true_iff.mp (Bool.and_eq_true_iff.mp signature).2).1
      have registered : EmissionTrace test before.target second :=
        (EmissionTrace.register .refl signature registersType).register returnedPassed
          registersReturned
      have started := registered.write (.startFunction second method.name info.entryPoint
        returnedId functionType)
      have parameters := parametersEmit.traces passed cells.pushScope
      have inside := parameters.trans (bodyEmits.traces passed isExact parameters.cells)
      have filled : EmissionTrace test before.target last.target := started.trans inside.trace
      refine ⟨(filled.write (.closeBlock _ function)).write (.append rfl rfl),
        fun entry member => ?_⟩
      have inShader : entry ∈ (last.functions.finish function).members := member
      rw [sameMembers] at inShader
      exact cells entry (List.mem_append_right _ inShader)

/-! ## Shaders -/

section Shaders

variable {before after : Emitter}

theorem Generic.traces_of_emit {generic : Generic}
    (run : (generic.emit annotations).run before = .ok () after)
    (cells : before.functions.names.CellsPass test) :
    before.Traces test after := by
  obtain ⟨type, -, rfl⟩ := Generic.emit_eq_ok run
  exact ⟨.refl, cells.bindMember generic.name fun id found same => by cases same⟩

theorem Struct.traces_of_emit {struct : Struct}
    (run : (struct.emit annotations).run before = .ok () after)
    (passed : annotations.TypesPass test)
    (cells : before.functions.names.CellsPass test) :
    before.Traces test after := by
  obtain ⟨type, typeId, target, typed, registers, rfl⟩ := Struct.emit_eq_ok run
  exact ⟨EmissionTrace.register .refl (passed _ _ typed) registers, cells⟩

theorem Member.traces_of_emit {member : Member}
    (run : (member.emit annotations).run before = .ok () after)
    (passed : annotations.TypesPass test)
    (isExact : member.value.all Expression.isExact = true)
    (cells : before.functions.names.CellsPass test) :
    before.Traces test after := by
  obtain ⟨type, typeId, valueId, first, second, typed, registers, valueEmits, rfl⟩ :=
    Member.emit_eq_ok run
  have typePassed := passed _ _ typed
  have declared := (EmissionTrace.register .refl typePassed registers).write
    (.withMember first member.name member.semantic typeId)
  have initialized : EmissionTrace test before.target second :=
    declared.trans (valueEmits.trace passed cells isExact)
  refine ⟨initialized.write (.storeOptional _ _ _), cells.bindMember member.name ?_⟩
  intro id found same
  cases same
  exact typePassed

theorem Sampler.traces_of_emit {sampler : Sampler}
    (run : (sampler.emit annotations).run before = .ok () after)
    (passed : annotations.TypesPass test)
    (cells : before.functions.names.CellsPass test) :
    before.Traces test after := by
  obtain ⟨type, typeId, first, typed, registers, rfl⟩ := Sampler.emit_eq_ok run
  have typePassed := passed _ _ typed
  have registered := EmissionTrace.register .refl typePassed registers
  refine ⟨registered.write (.withCell _ _ _ _), cells.bindMember sampler.name ?_⟩
  intro id found same
  cases same
  exact typePassed

/-- Elements that each go on by steps of emission do so together. -/
theorem Emitter.traces_of_forM {α : Type} {items : List α} {emit : α → Emit Unit}
    (run : (items.forM emit).run before = .ok () after)
    (cells : before.functions.names.CellsPass test)
    (each : ∀ item ∈ items, ∀ {state state' : Emitter}, (emit item).run state = .ok () state' →
      state.functions.names.CellsPass test → state.Traces test state') :
    before.Traces test after := by
  refine Run.forM_invariant (fun _ emitter => before.Traces test emitter) run ⟨.refl, cells⟩ ?_
  intro done item rest split state state' earlier emits
  have isItem : item ∈ items := by
    rw [split]
    exact List.mem_append_right _ List.mem_cons_self
  exact earlier.trans (each item isItem emits earlier.cells)

/-- A shader with exact literals is emitted by steps that register types which pass. -/
theorem Shader.traces_of_emit {shader : Shader}
    (run : (shader.emit annotations).run before = .ok () after)
    (passed : annotations.TypesPass test)
    (isExact : shader.HasExactLiterals)
    (cells : before.functions.names.CellsPass test) :
    before.Traces test after := by
  obtain ⟨first, second, third, fourth, generics, structs, members, samplers, methods⟩ :=
    Shader.emit_eq_ok run
  have toFirst := Emitter.traces_of_forM generics cells
    fun _ _ _ _ emits cells => Generic.traces_of_emit emits cells
  have toSecond := toFirst.trans (Emitter.traces_of_forM structs toFirst.cells
    fun _ _ _ _ emits cells => Struct.traces_of_emit emits passed cells)
  have toThird := toSecond.trans (Emitter.traces_of_forM members toSecond.cells
    fun member isMember _ _ emits cells =>
      Member.traces_of_emit emits passed (isExact.members member isMember) cells)
  have toFourth := toThird.trans (Emitter.traces_of_forM samplers toThird.cells
    fun _ _ _ _ emits cells => Sampler.traces_of_emit emits passed cells)
  exact toFourth.trans (Emitter.traces_of_forM methods toFourth.cells
    fun method isMethod _ _ emits cells => (Method.emits_of_emit emits).traces passed
      (isExact.methods method isMethod) cells)

/-- A clean analysis is emitted by steps that register types which pass. -/
theorem Shader.traces_of_clean {shader : Shader} {options : CompileOptions} {emitter : Emitter}
    (suits : ShaderType.SuitsAnalysis shader shader.analyse.1 test)
    (clean : shader.analyse.2 = [])
    (run : (shader.emit shader.analyse.1.annotations).run (.initial options) = .ok () emitter) :
    (Emitter.initial options).Traces test emitter := by
  have passes := Check.passes_of_reports clean
  have typesPass := Shader.typesPass_check suits passes .empty
  exact Shader.traces_of_emit run (fun _ _ noted => typesPass.type? noted)
    (Shader.hasExactLiterals_of_check passes) (List.forall_mem_nil _)

end Shaders

end ShaderLang
