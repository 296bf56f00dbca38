import ShaderLang.Compile
import ShaderLang.Proofs.NameTable
import ShaderLang.Proofs.Steps

/-!
# Runs of emission

What a successful emission of an expression, a statement, a method or another element consists of:
which types and constants are registered, which instructions are added, and how the function builder
changes.  The relations follow the source, so a fact about emitted code is proved by an induction
with one case for each form of expression or statement.
-/

namespace ShaderLang

/-- The names that are bound in emitted code. -/
def FunctionBuilder.names (functions : FunctionBuilder) : NameTable Binding :=
  ⟨functions.scopes, functions.members⟩

theorem FunctionBuilder.names_bindLocal (functions : FunctionBuilder) (name : String)
    (binding : Binding) :
    (functions.bindLocal name binding).names = functions.names.bind name binding := by
  unfold FunctionBuilder.bindLocal FunctionBuilder.names NameTable.bind
  cases functions.scopes <;> rfl

/-! ## Expressions -/

/-- The emission of an expression: the builder before it, the id of its value and the builder after
it.  Operands are emitted first, and a type is registered before the instruction that needs it. -/
inductive Expression.Emits (annotations : Annotations) (functions : FunctionBuilder) :
    Expression → ModuleBuilder → ResultId → ModuleBuilder → Prop
  | literal {node : NodeId} {location : Location} {value : Literal}
      {before after : ModuleBuilder} {id : ResultId}
      (registers : (Build.registerConstant value.constant.1 value.constant.2).run before =
        .ok id after) :
      Emits annotations functions (.literal node location value) before id after
  /-- A bound value is used directly. -/
  | value {expression : Expression} {id : ResultId} {type : ShaderType} {before : ModuleBuilder}
      (bound : expression.resolve? functions.names = some (.value id type)) :
      Emits annotations functions expression before id before
  /-- A variable is loaded. -/
  | load {expression : Expression} {cell typeId : ResultId} {type : ShaderType}
      {before after : ModuleBuilder}
      (bound : expression.resolve? functions.names = some (.cell cell type))
      (registers : (Build.register type).run before = .ok typeId after) :
      Emits annotations functions expression before after.bound
        (after.defined fun result => .load result typeId cell)
  | binary {node : NodeId} {location : Location} {operator : Operator}
      {left right : Expression} {leftId rightId typeId : ResultId} {type : ShaderType}
      {operation : Arithmetic} {before first second third : ModuleBuilder}
      (leftEmits : Emits annotations functions left before leftId first)
      (rightEmits : Emits annotations functions right first rightId second)
      (typed : annotations.type? node = some type)
      (selected : type.element?.bind operator.arithmetic? = some operation)
      (registers : (Build.register type).run second = .ok typeId third) :
      Emits annotations functions (.binary node location operator left right) before third.bound
        (third.defined fun result => .arithmetic operation result typeId leftId rightId)

/-- The emission of an expression that may be missing. -/
inductive Expression.EmitsOptional (annotations : Annotations) (functions : FunctionBuilder) :
    Option Expression → ModuleBuilder → Option ResultId → ModuleBuilder → Prop
  | none {before : ModuleBuilder} : EmitsOptional annotations functions none before none before
  | some {expression : Expression} {before after : ModuleBuilder} {id : ResultId}
      (emits : expression.Emits annotations functions before id after) :
      EmitsOptional annotations functions (some expression) before (some id) after

section Expressions

variable {annotations : Annotations} {before after : Emitter} {id : ResultId}

theorem Binding.emitRead_emits {expression : Expression} {binding : Binding} {name : String}
    (bound : expression.resolve? before.functions.names = some binding)
    (run : (binding.emitRead name).run before = .ok id after) :
    ∃ target, expression.Emits annotations before.functions before.target id target ∧
      after = ⟨target, before.functions⟩ := by
  cases binding with
  | value valueId type =>
      obtain ⟨rfl, rfl⟩ := Run.pure_eq_ok.mp run
      exact ⟨before.target, .value bound, rfl⟩
  | cell cellId type =>
      obtain ⟨target, moduleOk, rfl⟩ := Emit.inModule_eq_ok run
      obtain ⟨typeId, middle, registers, defineOk⟩ := Run.bind_eq_ok.mp moduleOk
      rw [Build.run_define] at defineOk
      cases defineOk
      exact ⟨_, .load bound registers, rfl⟩
  | generic type => exact absurd run Run.throw_ne_ok

theorem emitOperation_eq_ok {node : NodeId} {location : Location} {operator : Operator}
    {left right : ResultId}
    (run : (emitOperation annotations node location operator left right).run before =
      .ok id after) :
    ∃ type operation typeId middle, annotations.type? node = some type ∧
      type.element?.bind operator.arithmetic? = some operation ∧
      (Build.register type).run before.target = .ok typeId middle ∧ id = middle.bound ∧
      after = ⟨middle.defined fun result => .arithmetic operation result typeId left right,
        before.functions⟩ := by
  unfold emitOperation at run
  cases typed : annotations.type? node with
  | none =>
      rw [typed] at run
      exact absurd run Run.throw_ne_ok
  | some type =>
      simp only [typed] at run
      cases selected : type.element?.bind operator.arithmetic? with
      | none =>
          rw [selected] at run
          exact absurd run Run.throw_ne_ok
      | some operation =>
          rw [selected] at run
          obtain ⟨target, moduleOk, rfl⟩ := Emit.inModule_eq_ok run
          obtain ⟨typeId, middle, registers, defineOk⟩ := Run.bind_eq_ok.mp moduleOk
          rw [Build.run_define] at defineOk
          cases defineOk
          exact ⟨type, operation, typeId, middle, rfl, selected, registers, rfl, rfl⟩

/-- Every successful emission of an expression is a run. -/
theorem Expression.emits_of_emit {expression : Expression}
    (run : (expression.emit annotations).run before = .ok id after) :
    ∃ target, expression.Emits annotations before.functions before.target id target ∧
      after = ⟨target, before.functions⟩ := by
  induction expression generalizing before after id with
  | literal node location value =>
      obtain ⟨target, registers, rfl⟩ := Emit.inModule_eq_ok run
      exact ⟨target, .literal registers, rfl⟩
  | identifier node location name =>
      unfold Expression.emit at run
      rw [Run.run_get_bind] at run
      cases found : before.functions.lookup? name with
      | none =>
          rw [found] at run
          exact absurd run Run.throw_ne_ok
      | some binding =>
          rw [found] at run
          exact Binding.emitRead_emits found run
  | stream node location name =>
      unfold Expression.emit at run
      rw [Run.run_get_bind] at run
      cases found : before.functions.member? name with
      | none =>
          rw [found] at run
          exact absurd run Run.throw_ne_ok
      | some binding =>
          rw [found] at run
          exact Binding.emitRead_emits found run
  | binary node location operator left right leftHypothesis rightHypothesis =>
      obtain ⟨leftId, first, leftOk, rest⟩ := Run.bind_eq_ok.mp run
      obtain ⟨rightId, second, rightOk, operationOk⟩ := Run.bind_eq_ok.mp rest
      obtain ⟨leftTarget, leftEmits, rfl⟩ := leftHypothesis leftOk
      obtain ⟨rightTarget, rightEmits, rfl⟩ := rightHypothesis rightOk
      obtain ⟨type, operation, typeId, middle, typed, selected, registers, rfl, rfl⟩ :=
        emitOperation_eq_ok operationOk
      exact ⟨_, .binary leftEmits rightEmits typed selected registers, rfl⟩

theorem Expression.emitsOptional_of_emitOptional {value : Option Expression}
    {result : Option ResultId}
    (run : (Expression.emitOptional annotations value).run before = .ok result after) :
    ∃ target,
      Expression.EmitsOptional annotations before.functions value before.target result target ∧
      after = ⟨target, before.functions⟩ := by
  cases value with
  | none =>
      obtain ⟨rfl, rfl⟩ := Run.pure_eq_ok.mp run
      exact ⟨before.target, .none, rfl⟩
  | some expression =>
      obtain ⟨id, middle, expressionOk, finished⟩ := Run.bind_eq_ok.mp run
      obtain ⟨rfl, rfl⟩ := Run.pure_eq_ok.mp finished
      obtain ⟨target, emits, rfl⟩ := Expression.emits_of_emit expressionOk
      exact ⟨target, .some emits, rfl⟩

end Expressions

/-! ## Statements -/

namespace ModuleBuilder

/-- The builder after the declaration of a variable with its name. -/
def withCell (builder : ModuleBuilder) (name : String) (typeId : ResultId)
    (storage : StorageClass) : ModuleBuilder :=
  (builder.defined fun result => .cell result typeId storage).addName builder.bound name

/-- The builder after the store of a value into a variable, if there is a value. -/
def storeOptional (builder : ModuleBuilder) (cell : ResultId) : Option ResultId → ModuleBuilder
  | none => builder
  | some value => builder.append (.store cell value)

end ModuleBuilder

/-- The function builder after a return from the open block. -/
def FunctionBuilder.terminate (functions : FunctionBuilder) (function : OpenFunction) :
    FunctionBuilder :=
  { functions with current := some { function with terminated := true } }

/-- The emission of a statement that is no block. -/
inductive Statement.EmitsSimple (annotations : Annotations) :
    Statement → Emitter → Emitter → Prop
  | declare {node : NodeId} {location : Location} {written : TypeName} {name : String}
      {value : Option Expression} {valueId : Option ResultId} {typeId : ResultId}
      {type : ShaderType} {before : Emitter} {first second : ModuleBuilder}
      (typed : annotations.type? node = some type)
      (valueEmits : Expression.EmitsOptional annotations before.functions value before.target
        valueId first)
      (registers : (Build.register type).run first = .ok typeId second)
      (opened : before.functions.scopes ≠ []) :
      EmitsSimple annotations (.declare node location written name value) before
        ⟨(second.withCell name typeId .function).storeOptional second.bound valueId,
          before.functions.bindLocal name (.cell second.bound type)⟩
  | assign {location : Location} {target value : Expression} {valueId cell : ResultId}
      {type : ShaderType} {before : Emitter} {first : ModuleBuilder}
      (valueEmits : value.Emits annotations before.functions before.target valueId first)
      (bound : target.resolve? before.functions.names = some (.cell cell type)) :
      EmitsSimple annotations (.assign location target value) before
        ⟨first.append (.store cell valueId), before.functions⟩
  | evaluate {value : Expression} {id : ResultId} {before : Emitter} {first : ModuleBuilder}
      (valueEmits : value.Emits annotations before.functions before.target id first) :
      EmitsSimple annotations (.evaluate value) before ⟨first, before.functions⟩
  | exit {location : Location} {value : Option Expression} {valueId : Option ResultId}
      {function : OpenFunction} {before : Emitter} {first : ModuleBuilder}
      (valueEmits : Expression.EmitsOptional annotations before.functions value before.target
        valueId first)
      (opened : before.functions.current = some function)
      (inBlock : function.state = .blockOpen) :
      EmitsSimple annotations (.exit location value) before
        ⟨first.append (Emit.returnInstruction valueId), before.functions.terminate function⟩

/-- The emission of statements in order.  Nothing is emitted behind a return, and a block has a
scope of its own. -/
inductive Statement.EmitsAll (annotations : Annotations) :
    List Statement → Emitter → Emitter → Prop
  | nil {before : Emitter} : EmitsAll annotations [] before before
  | stop {statement : Statement} {rest : List Statement} {before : Emitter}
      (terminated : before.functions.isTerminated = true) :
      EmitsAll annotations (statement :: rest) before before
  | simple {statement : Statement} {rest : List Statement} {before middle after : Emitter}
      (running : before.functions.isTerminated = false)
      (emits : statement.EmitsSimple annotations before middle)
      (restEmits : EmitsAll annotations rest middle after) :
      EmitsAll annotations (statement :: rest) before after
  | block {location : Location} {body rest : List Statement} {before inner after : Emitter}
      (running : before.functions.isTerminated = false)
      (bodyEmits : EmitsAll annotations body ⟨before.target, before.functions.pushScope⟩ inner)
      (restEmits : EmitsAll annotations rest ⟨inner.target, inner.functions.dropScope⟩ after) :
      EmitsAll annotations (.block location body :: rest) before after

section Statements

variable {annotations : Annotations} {before after : Emitter}

theorem Annotations.require_eq_ok {node : NodeId} {thing : TypedThing} {name : String}
    {type : ShaderType}
    (run : (annotations.require node thing name).run before = .ok type after) :
    annotations.type? node = some type ∧ after = before := by
  unfold Annotations.require at run
  cases found : annotations.type? node with
  | none =>
      rw [found] at run
      exact absurd run Run.throw_ne_ok
  | some recorded =>
      rw [found] at run
      obtain ⟨rfl, rfl⟩ := Run.pure_eq_ok.mp run
      exact ⟨rfl, rfl⟩

theorem Emit.defineCell_eq_ok {name : String} {type : ShaderType} {storage : StorageClass}
    {cell : ResultId}
    (run : (Emit.defineCell name type storage).run before = .ok cell after) :
    ∃ typeId middle, (Build.register type).run before.target = .ok typeId middle ∧
      cell = middle.bound ∧ after = ⟨middle.withCell name typeId storage, before.functions⟩ := by
  obtain ⟨target, moduleOk, rfl⟩ := Emit.inModule_eq_ok run
  obtain ⟨typeId, middle, registers, rest⟩ := Run.bind_eq_ok.mp moduleOk
  rw [Run.bind_of_ok (Build.run_define _ _)] at rest
  obtain ⟨_, named, nameOk, finished⟩ := Run.bind_eq_ok.mp rest
  obtain ⟨rfl, rfl⟩ := Run.pure_eq_ok.mp finished
  refine ⟨typeId, middle, registers, rfl, ?_⟩
  rw [Build.addName_eq_ok nameOk]
  rfl

theorem Emit.run_storeOptional (cell : ResultId) (value : Option ResultId) (emitter : Emitter) :
    (Emit.storeOptional cell value).run emitter =
      .ok () ⟨emitter.target.storeOptional cell value, emitter.functions⟩ := by
  cases value <;> rfl

theorem Expression.assigned_eq_ok {target : Expression} {cell : ResultId}
    (run : target.assigned.run before = .ok cell after) :
    ∃ type, target.resolve? before.functions.names = some (.cell cell type) ∧
      after = before := by
  have fromBinding : ∀ {name : String} {binding : Option Binding},
      target.resolve? before.functions.names = binding →
      (Binding.assigned name binding).run before = .ok cell after →
      ∃ type, target.resolve? before.functions.names = some (.cell cell type) ∧
        after = before := by
    intro name binding resolved assignedOk
    rcases binding with _ | binding
    · exact absurd assignedOk Run.throw_ne_ok
    · cases binding with
      | value id type => exact absurd assignedOk Run.throw_ne_ok
      | cell id type =>
          obtain ⟨rfl, rfl⟩ := Run.pure_eq_ok.mp assignedOk
          exact ⟨type, resolved, rfl⟩
      | generic type => exact absurd assignedOk Run.throw_ne_ok
  cases target with
  | identifier node location name => exact fromBinding rfl run
  | stream node location name => exact fromBinding rfl run
  | literal node location value => exact absurd run Run.throw_ne_ok
  | binary node location operator left right => exact absurd run Run.throw_ne_ok

theorem emitDeclaration_emits {node : NodeId} {location : Location} {written : TypeName}
    {name : String} {value : Option Expression}
    (run : (emitDeclaration annotations node name value).run before = .ok () after) :
    Statement.EmitsSimple annotations (.declare node location written name value)
      before after := by
  unfold emitDeclaration at run
  obtain ⟨type, _, requireOk, valueRun⟩ := Run.bind_eq_ok.mp run
  obtain ⟨typed, rfl⟩ := Annotations.require_eq_ok requireOk
  obtain ⟨valueId, _, valueOk, cellRun⟩ := Run.bind_eq_ok.mp valueRun
  obtain ⟨first, valueEmits, rfl⟩ := Expression.emitsOptional_of_emitOptional valueOk
  obtain ⟨cell, _, cellOk, storeRun⟩ := Run.bind_eq_ok.mp cellRun
  obtain ⟨typeId, second, registers, rfl, rfl⟩ := Emit.defineCell_eq_ok cellOk
  rw [Run.bind_of_ok (Emit.run_storeOptional _ _ _)] at storeRun
  obtain ⟨opened, rfl⟩ := Emit.bindLocal_eq_ok storeRun
  exact .declare typed valueEmits registers opened

theorem Emit.emitReturn_eq_ok {value : Option ResultId}
    (run : (Emit.emitReturn value).run before = .ok () after) :
    ∃ function, before.functions.current = some function ∧ function.state = .blockOpen ∧
      after = ⟨before.target.append (Emit.returnInstruction value),
        before.functions.terminate function⟩ := by
  obtain ⟨function, _, stateOk, rest⟩ := Run.bind_eq_ok.mp run
  obtain ⟨opened, inBlock, rfl⟩ := Emit.requireState_eq_ok stateOk
  rw [Run.bind_of_ok (Emit.run_inModule_of_ok (Build.run_emit _ _)),
    Emit.run_updateFunctions] at rest
  cases rest
  exact ⟨function, opened, inBlock, rfl⟩

mutual

/-- A statement that is emitted is a simple one or a block whose body is emitted. -/
theorem Statement.emits_of_emit : ∀ (statement : Statement) {before after : Emitter},
    (statement.emit annotations).run before = .ok () after →
      statement.EmitsSimple annotations before after ∨
      ∃ location body inner, statement = .block location body ∧
        Statement.EmitsAll annotations body ⟨before.target, before.functions.pushScope⟩ inner ∧
        after = ⟨inner.target, inner.functions.dropScope⟩
  | .declare node location written name value, before, after, run =>
      .inl (emitDeclaration_emits run)
  | .assign location target value, before, after, run => by
      obtain ⟨valueId, _, valueOk, rest⟩ := Run.bind_eq_ok.mp run
      obtain ⟨first, valueEmits, rfl⟩ := Expression.emits_of_emit valueOk
      obtain ⟨cell, _, targetOk, storeRun⟩ := Run.bind_eq_ok.mp rest
      obtain ⟨type, bound, rfl⟩ := Expression.assigned_eq_ok targetOk
      rw [Emit.run_inModule_of_ok (Build.run_emit _ _)] at storeRun
      cases storeRun
      exact .inl (.assign valueEmits bound)
  | .evaluate value, before, after, run => by
      obtain ⟨id, _, valueOk, finished⟩ := Run.bind_eq_ok.mp run
      obtain ⟨first, valueEmits, rfl⟩ := Expression.emits_of_emit valueOk
      obtain ⟨-, rfl⟩ := Run.pure_eq_ok.mp finished
      exact .inl (.evaluate valueEmits)
  | .exit location value, before, after, run => by
      obtain ⟨valueId, _, valueOk, returnRun⟩ := Run.bind_eq_ok.mp run
      obtain ⟨first, valueEmits, rfl⟩ := Expression.emitsOptional_of_emitOptional valueOk
      obtain ⟨function, opened, inBlock, rfl⟩ := Emit.emitReturn_eq_ok returnRun
      exact .inl (.exit valueEmits opened inBlock)
  | .block location body, before, after, run => by
      obtain ⟨inner, bodyOk, rfl⟩ := Emit.inScope_eq_ok run
      exact .inr ⟨location, body, inner, rfl, Statement.emitsAll_of_emitAll body bodyOk, rfl⟩

/-- Every successful emission of statements is a run. -/
theorem Statement.emitsAll_of_emitAll : ∀ (body : List Statement) {before after : Emitter},
    (Statement.emitAll annotations body).run before = .ok () after →
      Statement.EmitsAll annotations body before after
  | [], before, after, run => by
      obtain ⟨-, rfl⟩ := Run.pure_eq_ok.mp run
      exact .nil
  | statement :: rest, before, after, run => by
      unfold Statement.emitAll at run
      rw [Run.run_get_bind] at run
      split at run
      · next terminated =>
          obtain ⟨-, rfl⟩ := Run.pure_eq_ok.mp run
          exact .stop terminated
      · next notTerminated =>
          have running : before.functions.isTerminated = false := by
            simpa using notTerminated
          obtain ⟨_, middle, statementOk, restOk⟩ := Run.bind_eq_ok.mp run
          have restEmits := Statement.emitsAll_of_emitAll rest restOk
          rcases Statement.emits_of_emit statement statementOk with
            emits | ⟨location, body, inner, rfl, bodyEmits, rfl⟩
          · exact .simple running emits restEmits
          · exact .block running bodyEmits restEmits

end

end Statements

/-! ## Methods -/

/-- The instruction in front of a function that is an entry point. -/
def entryPointCode (function : ResultId) (name : String) : Option EntryPoint → List Instruction
  | none => []
  | some entryPoint => [.entryPoint entryPoint.executionModel function name]

namespace ModuleBuilder

/-- The builder after the start of a function. -/
def withFunction (builder : ModuleBuilder) (name : String) (entryPoint : Option EntryPoint)
    (returned functionType : ResultId) : ModuleBuilder :=
  { builder with
    bound := builder.bound + 1
    code := builder.code ++ (entryPointCode builder.bound name entryPoint ++
      [.uncontrolled builder.bound returned functionType]) }

/-- The builder after the start of a function with its name. -/
def startFunction (builder : ModuleBuilder) (name : String) (entryPoint : Option EntryPoint)
    (returned functionType : ResultId) : ModuleBuilder :=
  (builder.withFunction name entryPoint returned functionType).addName builder.bound name

/-- The builder after a parameter with its name. -/
def withParameter (builder : ModuleBuilder) (name : String) (typeId : ResultId) :
    ModuleBuilder :=
  (builder.defined fun result => .functionParameter result typeId).addName builder.bound name

/-- The builder after the end of the block of a function.  A block that is open and does not end in
a return gets one. -/
def closeBlock (builder : ModuleBuilder) (function : OpenFunction) : ModuleBuilder :=
  if function.state ≠ .blockOpen ∨ function.terminated then builder
  else builder.append .returnNothing

end ModuleBuilder

namespace FunctionBuilder

/-- The function builder at the start of a function. -/
def start (functions : FunctionBuilder) (function : OpenFunction) : FunctionBuilder :=
  { functions.pushScope with current := some function }

/-- The function builder with the block of its function open. -/
def openBlock (functions : FunctionBuilder) (function : OpenFunction) : FunctionBuilder :=
  { functions with current := some { function with state := .blockOpen } }

/-- The function builder after the end of its function. -/
def finish (functions : FunctionBuilder) (function : OpenFunction) : FunctionBuilder :=
  { functions with
    current := none
    scopes := []
    finished := functions.finished ++
      [⟨function.name, function.id, function.entryPoint, .finalized⟩] }

end FunctionBuilder

namespace Method

/-- The emission of parameters in order. -/
inductive EmitsParameters (annotations : Annotations) :
    List Parameter → Emitter → Emitter → Prop
  | nil {before : Emitter} : EmitsParameters annotations [] before before
  | cons {parameter : Parameter} {rest : List Parameter} {type : ShaderType} {typeId : ResultId}
      {before after : Emitter} {first : ModuleBuilder}
      (typed : annotations.type? parameter.node = some type)
      (registers : (Build.register type).run before.target = .ok typeId first)
      (restEmits : EmitsParameters annotations rest
        ⟨first.withParameter parameter.name typeId,
          before.functions.bindLocal parameter.name (.value first.bound type)⟩ after) :
      EmitsParameters annotations (parameter :: rest) before after

/-- The emission of a body in a block of its own, if there is a body. -/
inductive EmitsBody (annotations : Annotations) :
    Option (List Statement) → Emitter → Emitter → Prop
  | none {before : Emitter} : EmitsBody annotations none before before
  | some {body : List Statement} {function : OpenFunction} {before after : Emitter}
      (opened : before.functions.current = some function)
      (emits : Statement.EmitsAll annotations body
        ⟨before.target.defined .label, before.functions.openBlock function⟩ after) :
      EmitsBody annotations (some body) before after

/-- The emission of a method: its types, its start, its parameters, its body and its end. -/
inductive Emits (annotations : Annotations) (method : Method) : Emitter → Emitter → Prop
  | mk {info : MethodInfo} {returned : ShaderType} {parameters : List ShaderType}
      {functionType returnedId : ResultId} {first second : ModuleBuilder}
      {function : OpenFunction} {before middle last : Emitter}
      (checked : annotations.method? method.node = some info)
      (typed : annotations.type? method.node = some (.function returned parameters))
      (closed : before.functions.current = none)
      (registersType : (Build.register (.function returned parameters)).run before.target =
        .ok functionType first)
      (registersReturned : (Build.register returned).run first = .ok returnedId second)
      (parametersEmit : EmitsParameters annotations method.parameters
        ⟨second.startFunction method.name info.entryPoint returnedId functionType,
          before.functions.start
            ⟨method.name, second.bound, returned, info.entryPoint, .declared, false⟩⟩ middle)
      (bodyEmits : EmitsBody annotations method.body middle last)
      (opened : last.functions.current = some function)
      (closable : (function.state ≠ .blockOpen ∨ function.terminated) ∨
        function.returned.isVoid = true) :
      Emits annotations method before
        ⟨(last.target.closeBlock function).append .functionEnd,
          last.functions.finish function⟩

end Method

section Methods

variable {annotations : Annotations} {before after : Emitter}

theorem Method.signature_eq_ok {method : Method} {signature : Signature}
    (run : (method.signature annotations).run before = .ok signature after) :
    annotations.type? method.node = some (.function signature.returned signature.parameters) ∧
      after = before := by
  unfold Method.signature at run
  split at run
  · next returned parameters found =>
      obtain ⟨rfl, rfl⟩ := Run.pure_eq_ok.mp run
      exact ⟨found, rfl⟩
  · exact absurd run Run.throw_ne_ok
  · exact absurd run Run.throw_ne_ok

theorem Method.checkedInfo_eq_ok {method : Method} {info : MethodInfo}
    (run : (method.checkedInfo annotations).run before = .ok info after) :
    annotations.method? method.node = some info ∧ after = before := by
  unfold Method.checkedInfo at run
  split at run
  · next recorded found =>
      split at run
      · obtain ⟨rfl, rfl⟩ := Run.pure_eq_ok.mp run
        exact ⟨found, rfl⟩
      · exact absurd run Run.throw_ne_ok
  · exact absurd run Run.throw_ne_ok

theorem Emit.startFunction_eq_ok {name : String} {signature : Signature}
    {entryPoint : Option EntryPoint} {builder target : ModuleBuilder} {id : ResultId}
    (run : (Emit.startFunction name signature entryPoint).run builder = .ok id target) :
    ∃ functionType returned first second,
      (Build.register signature.type).run builder = .ok functionType first ∧
      (Build.register signature.returned).run first = .ok returned second ∧
      id = second.bound ∧ target = second.startFunction name entryPoint returned functionType := by
  obtain ⟨functionType, first, typeOk, returnedRun⟩ := Run.bind_eq_ok.mp run
  obtain ⟨returned, second, returnedOk, idRun⟩ := Run.bind_eq_ok.mp returnedRun
  obtain ⟨fresh, third, freshOk, entryRun⟩ := Run.bind_eq_ok.mp idRun
  cases freshOk
  obtain ⟨_, fourth, entryOk, rest⟩ := Run.bind_eq_ok.mp entryRun
  rw [Run.bind_of_ok (Build.run_emit _ _)] at rest
  obtain ⟨_, named, nameOk, finished⟩ := Run.bind_eq_ok.mp rest
  obtain ⟨rfl, rfl⟩ := Run.pure_eq_ok.mp finished
  refine ⟨functionType, returned, first, second, typeOk, returnedOk, rfl, ?_⟩
  rw [Build.addName_eq_ok nameOk]
  cases entryPoint with
  | none =>
      cases entryOk
      rfl
  | some stage =>
      cases entryOk
      unfold ModuleBuilder.startFunction ModuleBuilder.withFunction entryPointCode
      rw [← List.append_assoc]
      rfl

theorem Emit.run_emitEntryPoint (function : ResultId) (name : String)
    (entryPoint : Option EntryPoint) (builder : ModuleBuilder) :
    (Emit.emitEntryPoint function name entryPoint).run builder =
      .ok () { builder with code := builder.code ++ entryPointCode function name entryPoint } := by
  cases entryPoint with
  | none =>
      unfold entryPointCode
      rw [List.append_nil]
      rfl
  | some stage => rfl

theorem Emit.run_startFunction {signature : Signature} {builder first second : ModuleBuilder}
    {functionType returned : ResultId} (name : String) (entryPoint : Option EntryPoint)
    (typeOk : (Build.register signature.type).run builder = .ok functionType first)
    (returnedOk : (Build.register signature.returned).run first = .ok returned second)
    (positive : 0 < second.bound) :
    (Emit.startFunction name signature entryPoint).run builder =
      .ok second.bound (second.startFunction name entryPoint returned functionType) := by
  have fresh : Build.freshId.run second =
      .ok second.bound { second with bound := second.bound + 1 } :=
    rfl
  have starts : ModuleBuilder.append
      { second with
        bound := second.bound + 1
        code := second.code ++ entryPointCode second.bound name entryPoint }
      (.uncontrolled second.bound returned functionType) =
      second.withFunction name entryPoint returned functionType := by
    unfold ModuleBuilder.append ModuleBuilder.withFunction
    rw [List.append_assoc]
  have allocated : (second.withFunction name entryPoint returned functionType).isAllocated
      second.bound = true :=
    ModuleBuilder.isAllocated_of_lt positive (Nat.lt_succ_self _)
  unfold Emit.startFunction
  rw [Run.bind_of_ok typeOk, Run.bind_of_ok returnedOk, Run.bind_of_ok fresh,
    Run.bind_of_ok (Emit.run_emitEntryPoint _ _ _ _), Run.bind_of_ok (Build.run_emit _ _), starts,
    Run.bind_of_ok (Build.run_addName allocated name)]
  rfl

theorem Emit.createFunction_eq_ok {name : String} {signature : Signature}
    {entryPoint : Option EntryPoint} {id : ResultId}
    (run : (Emit.createFunction name signature entryPoint).run before = .ok id after) :
    ∃ functionType returned first second, before.functions.current = none ∧
      (Build.register signature.type).run before.target = .ok functionType first ∧
      (Build.register signature.returned).run first = .ok returned second ∧
      after = ⟨second.startFunction name entryPoint returned functionType,
        before.functions.start
          ⟨name, second.bound, signature.returned, entryPoint, .declared, false⟩⟩ := by
  unfold Emit.createFunction at run
  rw [Run.run_get_bind] at run
  cases current : before.functions.current with
  | some function =>
      rw [current] at run
      exact absurd run Run.throw_ne_ok
  | none =>
      rw [current] at run
      obtain ⟨started, _, startRun, rest⟩ := Run.bind_eq_ok.mp run
      obtain ⟨target, startOk, rfl⟩ := Emit.inModule_eq_ok startRun
      obtain ⟨functionType, returned, first, second, typeOk, returnedOk, rfl, rfl⟩ :=
        Emit.startFunction_eq_ok startOk
      unfold Emit.pushScope at rest
      rw [Run.bind_of_ok (Emit.run_updateFunctions _ _),
        Run.bind_of_ok (Emit.run_updateFunctions _ _)] at rest
      obtain ⟨-, rfl⟩ := Run.pure_eq_ok.mp rest
      exact ⟨functionType, returned, first, second, rfl, typeOk, returnedOk, rfl⟩

/-- A function starts behind the start of its code, if no other function is open. -/
theorem Emit.run_createFunction {emitter : Emitter} {signature : Signature} {name : String}
    {entryPoint : Option EntryPoint} {id : ResultId} {target : ModuleBuilder}
    (closed : emitter.functions.current = none)
    (starts : (Emit.startFunction name signature entryPoint).run emitter.target = .ok id target) :
    (Emit.createFunction name signature entryPoint).run emitter =
      .ok id ⟨target, emitter.functions.start
        ⟨name, id, signature.returned, entryPoint, .declared, false⟩⟩ := by
  unfold Emit.createFunction
  rw [Run.run_get_bind]
  simp only [closed]
  rw [Run.bind_of_ok (Emit.run_inModule_of_ok starts)]
  rfl

theorem Parameter.emit_eq_ok {parameter : Parameter}
    (run : (parameter.emit annotations).run before = .ok () after) :
    ∃ type typeId first, annotations.type? parameter.node = some type ∧
      (Build.register type).run before.target = .ok typeId first ∧
      after = ⟨first.withParameter parameter.name typeId,
        before.functions.bindLocal parameter.name (.value first.bound type)⟩ := by
  obtain ⟨type, _, requireOk, addRun⟩ := Run.bind_eq_ok.mp run
  obtain ⟨typed, rfl⟩ := Annotations.require_eq_ok requireOk
  obtain ⟨added, _, addOk, finished⟩ := Run.bind_eq_ok.mp addRun
  obtain ⟨-, rfl⟩ := Run.pure_eq_ok.mp finished
  obtain ⟨function, _, stateOk, emitRun⟩ := Run.bind_eq_ok.mp addOk
  obtain ⟨-, -, rfl⟩ := Emit.requireState_eq_ok stateOk
  obtain ⟨emitted, _, emitOk, bindRun⟩ := Run.bind_eq_ok.mp emitRun
  obtain ⟨target, moduleOk, rfl⟩ := Emit.inModule_eq_ok emitOk
  obtain ⟨typeId, first, registers, defineRun⟩ := Run.bind_eq_ok.mp moduleOk
  rw [Run.bind_of_ok (Build.run_define _ _)] at defineRun
  obtain ⟨_, named, nameOk, emittedId⟩ := Run.bind_eq_ok.mp defineRun
  obtain ⟨rfl, rfl⟩ := Run.pure_eq_ok.mp emittedId
  obtain ⟨_, _, bindOk, returnedId⟩ := Run.bind_eq_ok.mp bindRun
  obtain ⟨-, rfl⟩ := Run.pure_eq_ok.mp returnedId
  obtain ⟨-, rfl⟩ := Emit.bindLocal_eq_ok bindOk
  refine ⟨type, typeId, first, typed, registers, ?_⟩
  rw [Build.addName_eq_ok nameOk]
  rfl

theorem Method.emitsParameters_of_forM {parameters : List Parameter}
    (run : (parameters.forM fun parameter => parameter.emit annotations).run before =
      .ok () after) :
    Method.EmitsParameters annotations parameters before after := by
  induction parameters generalizing before with
  | nil =>
      rw [Run.run_forM_nil] at run
      cases run
      exact .nil
  | cons parameter rest inductionHypothesis =>
      rw [Run.forM_cons] at run
      obtain ⟨_, middle, parameterOk, restOk⟩ := Run.bind_eq_ok.mp run
      obtain ⟨type, typeId, first, typed, registers, rfl⟩ := Parameter.emit_eq_ok parameterOk
      exact .cons typed registers (inductionHypothesis restOk)

theorem Method.emitsBody_of_emitBody {body : Option (List Statement)}
    (run : (Method.emitBody annotations body).run before = .ok () after) :
    Method.EmitsBody annotations body before after := by
  cases body with
  | none =>
      obtain ⟨-, rfl⟩ := Run.pure_eq_ok.mp run
      exact .none
  | some body =>
      obtain ⟨label, _, blockOk, statementsOk⟩ := Run.bind_eq_ok.mp run
      obtain ⟨function, _, stateOk, rest⟩ := Run.bind_eq_ok.mp blockOk
      obtain ⟨opened, -, rfl⟩ := Emit.requireState_eq_ok stateOk
      rw [Run.bind_of_ok (Emit.run_inModule_of_ok (Build.run_define _ _)),
        Run.bind_of_ok (Emit.run_updateFunctions _ _)] at rest
      obtain ⟨-, rfl⟩ := Run.pure_eq_ok.mp rest
      exact .some opened (Statement.emitsAll_of_emitAll body statementsOk)

theorem Emit.closeBlock_eq_ok {function : OpenFunction}
    (run : (Emit.closeBlock function).run before = .ok () after) :
    ((function.state ≠ .blockOpen ∨ function.terminated) ∨
      function.returned.isVoid = true) ∧
      after = ⟨before.target.closeBlock function, before.functions⟩ := by
  unfold Emit.closeBlock at run
  unfold ModuleBuilder.closeBlock
  split at run
  · next finished =>
      obtain ⟨-, rfl⟩ := Run.pure_eq_ok.mp run
      rw [if_pos finished]
      exact ⟨.inl finished, rfl⟩
  · next unfinished =>
      split at run
      · next isVoid =>
          rw [Emit.run_inModule_of_ok (Build.run_emit _ _)] at run
          cases run
          rw [if_neg unfinished]
          exact ⟨.inr isVoid, rfl⟩
      · exact absurd run Run.throw_ne_ok

theorem Emit.endFunction_eq_ok {record : FunctionRecord}
    (run : Emit.endFunction.run before = .ok record after) :
    ∃ function, before.functions.current = some function ∧
      ((function.state ≠ .blockOpen ∨ function.terminated) ∨
        function.returned.isVoid = true) ∧
      after = ⟨(before.target.closeBlock function).append .functionEnd,
        before.functions.finish function⟩ := by
  unfold Emit.endFunction at run
  rw [Run.run_get_bind] at run
  cases current : before.functions.current with
  | none =>
      rw [current] at run
      exact absurd run Run.throw_ne_ok
  | some function =>
      simp only [current] at run
      rw [Run.bind_of_ok (Emit.run_updateFunctions _ _)] at run
      obtain ⟨_, _, closeOk, rest⟩ := Run.bind_eq_ok.mp run
      obtain ⟨closable, rfl⟩ := Emit.closeBlock_eq_ok closeOk
      rw [Run.bind_of_ok (Emit.run_inModule_of_ok (Build.run_emit _ _)),
        Run.bind_of_ok (Emit.run_updateFunctions _ _)] at rest
      obtain ⟨-, rfl⟩ := Run.pure_eq_ok.mp rest
      exact ⟨function, rfl, closable, rfl⟩

/-- Every successful emission of a method is a run. -/
theorem Method.emits_of_emit {method : Method}
    (run : (method.emit annotations).run before = .ok () after) :
    method.Emits annotations before after := by
  obtain ⟨info, _, infoOk, signatureRun⟩ := Run.bind_eq_ok.mp run
  obtain ⟨checked, rfl⟩ := Method.checkedInfo_eq_ok infoOk
  obtain ⟨signature, _, signatureOk, createRun⟩ := Run.bind_eq_ok.mp signatureRun
  obtain ⟨typed, rfl⟩ := Method.signature_eq_ok signatureOk
  obtain ⟨id, _, createOk, parametersRun⟩ := Run.bind_eq_ok.mp createRun
  obtain ⟨functionType, returned, first, second, closed, registersType, registersReturned, rfl⟩ :=
    Emit.createFunction_eq_ok createOk
  obtain ⟨_, middle, parametersOk, bodyRun⟩ := Run.bind_eq_ok.mp parametersRun
  obtain ⟨_, last, bodyOk, endRun⟩ := Run.bind_eq_ok.mp bodyRun
  obtain ⟨record, _, endOk, finished⟩ := Run.bind_eq_ok.mp endRun
  obtain ⟨-, rfl⟩ := Run.pure_eq_ok.mp finished
  obtain ⟨function, opened, closable, rfl⟩ := Emit.endFunction_eq_ok endOk
  exact .mk checked typed closed registersType registersReturned
    (Method.emitsParameters_of_forM parametersOk) (Method.emitsBody_of_emitBody bodyOk) opened
    closable

end Methods

/-! ## Other elements and shaders -/

namespace ModuleBuilder

/-- The builder after the semantic of an id, if it has one. -/
def addOptionalSemantic (builder : ModuleBuilder) (id : ResultId) :
    Option String → ModuleBuilder
  | none => builder
  | some semantic => builder.addSemantic id semantic

/-- The builder after the variable of a member with its semantic and its name. -/
def withMember (builder : ModuleBuilder) (name : String) (semantic : Option String)
    (typeId : ResultId) : ModuleBuilder :=
  ((builder.defined fun result => .cell result typeId .function).addOptionalSemantic
    builder.bound semantic).addName builder.bound name

end ModuleBuilder

section Elements

variable {annotations : Annotations} {before after : Emitter}

theorem Generic.emit_eq_ok {generic : Generic}
    (run : (generic.emit annotations).run before = .ok () after) :
    ∃ type, annotations.type? generic.node = some type ∧
      after = ⟨before.target, before.functions.bindMember generic.name (.generic type)⟩ := by
  obtain ⟨type, _, requireOk, bindRun⟩ := Run.bind_eq_ok.mp run
  obtain ⟨typed, rfl⟩ := Annotations.require_eq_ok requireOk
  rw [Emit.run_bindMember] at bindRun
  cases bindRun
  exact ⟨type, typed, rfl⟩

theorem Struct.emit_eq_ok {struct : Struct}
    (run : (struct.emit annotations).run before = .ok () after) :
    ∃ type typeId target, annotations.type? struct.node = some type ∧
      (Build.register type).run before.target = .ok typeId target ∧
      after = ⟨target, before.functions⟩ := by
  obtain ⟨type, _, requireOk, registerRun⟩ := Run.bind_eq_ok.mp run
  obtain ⟨typed, rfl⟩ := Annotations.require_eq_ok requireOk
  obtain ⟨typeId, _, moduleOk, finished⟩ := Run.bind_eq_ok.mp registerRun
  obtain ⟨target, registers, rfl⟩ := Emit.inModule_eq_ok moduleOk
  obtain ⟨-, rfl⟩ := Run.pure_eq_ok.mp finished
  exact ⟨type, typeId, target, typed, registers, rfl⟩

theorem Emit.addOptionalSemantic_eq_ok {id : ResultId} {semantic : Option String}
    {builder target : ModuleBuilder}
    (run : (Emit.addOptionalSemantic id semantic).run builder = .ok () target) :
    target = builder.addOptionalSemantic id semantic := by
  cases semantic with
  | none =>
      obtain ⟨-, rfl⟩ := Run.pure_eq_ok.mp run
      rfl
  | some text => exact Build.addSemantic_eq_ok run

theorem Member.emit_eq_ok {member : Member}
    (run : (member.emit annotations).run before = .ok () after) :
    ∃ type typeId valueId first second, annotations.type? member.node = some type ∧
      (Build.register type).run before.target = .ok typeId first ∧
      Expression.EmitsOptional annotations before.functions member.value
        (first.withMember member.name member.semantic typeId) valueId second ∧
      after = ⟨second.storeOptional first.bound valueId,
        before.functions.bindMember member.name (.cell first.bound type)⟩ := by
  obtain ⟨type, _, requireOk, cellRun⟩ := Run.bind_eq_ok.mp run
  obtain ⟨typed, rfl⟩ := Annotations.require_eq_ok requireOk
  obtain ⟨cell, _, moduleOk, valueRun⟩ := Run.bind_eq_ok.mp cellRun
  obtain ⟨target, buildOk, rfl⟩ := Emit.inModule_eq_ok moduleOk
  obtain ⟨typeId, first, registers, defineRun⟩ := Run.bind_eq_ok.mp buildOk
  rw [Run.bind_of_ok (Build.run_define _ _)] at defineRun
  obtain ⟨_, marked, semanticOk, nameRun⟩ := Run.bind_eq_ok.mp defineRun
  obtain ⟨_, named, nameOk, finished⟩ := Run.bind_eq_ok.mp nameRun
  obtain ⟨rfl, rfl⟩ := Run.pure_eq_ok.mp finished
  have target : named = first.withMember member.name member.semantic typeId := by
    rw [Build.addName_eq_ok nameOk, Emit.addOptionalSemantic_eq_ok semanticOk]
    rfl
  subst target
  obtain ⟨valueId, _, valueOk, storeRun⟩ := Run.bind_eq_ok.mp valueRun
  obtain ⟨second, valueEmits, rfl⟩ := Expression.emitsOptional_of_emitOptional valueOk
  rw [Run.bind_of_ok (Emit.run_storeOptional _ _ _), Emit.run_bindMember] at storeRun
  cases storeRun
  exact ⟨type, typeId, valueId, first, second, typed, registers, valueEmits, rfl⟩

theorem Sampler.emit_eq_ok {sampler : Sampler}
    (run : (sampler.emit annotations).run before = .ok () after) :
    ∃ type typeId first, annotations.type? sampler.node = some type ∧
      (Build.register type).run before.target = .ok typeId first ∧
      after = ⟨first.withCell sampler.name typeId .uniformConstant,
        before.functions.bindMember sampler.name (.cell first.bound type)⟩ := by
  obtain ⟨type, _, requireOk, cellRun⟩ := Run.bind_eq_ok.mp run
  obtain ⟨typed, rfl⟩ := Annotations.require_eq_ok requireOk
  obtain ⟨cell, _, cellOk, bindRun⟩ := Run.bind_eq_ok.mp cellRun
  obtain ⟨typeId, first, registers, rfl, rfl⟩ := Emit.defineCell_eq_ok cellOk
  rw [Emit.run_bindMember] at bindRun
  cases bindRun
  exact ⟨type, typeId, first, typed, registers, rfl⟩

/-- The emission of a shader passes over its elements kind by kind. -/
theorem Shader.emit_eq_ok {shader : Shader}
    (run : (shader.emit annotations).run before = .ok () after) :
    ∃ first second third fourth,
      (shader.generics.forM fun generic => generic.emit annotations).run before = .ok () first ∧
      (shader.structs.forM fun struct => struct.emit annotations).run first = .ok () second ∧
      (shader.members.forM fun member => member.emit annotations).run second = .ok () third ∧
      (shader.samplers.forM fun sampler => sampler.emit annotations).run third =
        .ok () fourth ∧
      (shader.methods.forM fun method => method.emit annotations).run fourth = .ok () after := by
  obtain ⟨_, first, genericsOk, structsRun⟩ := Run.bind_eq_ok.mp run
  obtain ⟨_, second, structsOk, membersRun⟩ := Run.bind_eq_ok.mp structsRun
  obtain ⟨_, third, membersOk, samplersRun⟩ := Run.bind_eq_ok.mp membersRun
  obtain ⟨_, fourth, samplersOk, methodsOk⟩ := Run.bind_eq_ok.mp samplersRun
  exact ⟨first, second, third, fourth, genericsOk, structsOk, membersOk, samplersOk, methodsOk⟩

end Elements

theorem Shader.compile_of_clean {shader : Shader} (clean : shader.analyse.2 = [])
    (options : CompileOptions) :
    shader.compile options =
      match (shader.emit shader.analyse.1.annotations).run (.initial options) with
      | .ok _ emitter => .ok ⟨emitter.target.finish, emitter.functions.finished⟩
      | .error diagnostic _ => .error [diagnostic] := by
  change (if shader.analyse.2.isEmpty then _ else _) = _
  rw [clean]
  rfl

theorem Shader.compile_of_reports {shader : Shader} (reported : shader.analyse.2 ≠ [])
    (options : CompileOptions) :
    shader.compile options = .error shader.analyse.2 := by
  change (if shader.analyse.2.isEmpty then _ else _) = _
  exact if_neg (by simpa using reported)

/-- A compilation that succeeds is a clean check and a successful emission from the empty
module. -/
theorem Shader.compile_eq_ok {shader : Shader} {options : CompileOptions}
    {compiled : CompiledShader}
    (compiles : shader.compile options = .ok compiled) :
    shader.analyse.2 = [] ∧
      ∃ emitter, (shader.emit shader.analyse.1.annotations).run (.initial options) =
          .ok () emitter ∧
        compiled = ⟨emitter.target.finish, emitter.functions.finished⟩ := by
  by_cases clean : shader.analyse.2 = []
  · refine ⟨clean, ?_⟩
    rw [Shader.compile_of_clean clean] at compiles
    cases emission : (shader.emit shader.analyse.1.annotations).run (.initial options) with
    | ok _ emitter =>
        rw [emission] at compiles
        cases compiles
        exact ⟨emitter, rfl, rfl⟩
    | error diagnostic emitter =>
        rw [emission] at compiles
        cases compiles
  · rw [Shader.compile_of_reports clean] at compiles
    cases compiles

/-! ## A shader that compiles -/

/-- The written type `int`. -/
def TypeName.integer : TypeName :=
  ⟨"int", none, .unknown⟩

/-- A shader with a stream member, and a pixel stage whose body hides a local variable behind
another one of its name. -/
def Shader.scaling : Shader where
  name := "Scaling"
  generics := []
  elements := [
    .member ⟨0, .unknown, .integer, "level", some (.literal 1 .unknown (.int 2)), none, .stream,
      .none, []⟩,
    .method ⟨2, .unknown, .integer, "PSMain", [⟨3, .integer, "step", none, none⟩],
      some [
        .declare 4 .unknown .integer "sum" (some (.binary 5 .unknown .mul
          (.identifier 6 .unknown "step") (.stream 7 .unknown "level"))),
        .block .unknown [
          .declare 8 .unknown .integer "sum" (some (.binary 9 .unknown .add
            (.identifier 10 .unknown "sum") (.literal 11 .unknown (.int 2)))),
          .assign .unknown (.stream 12 .unknown "level") (.identifier 13 .unknown "sum")],
        .exit .unknown (some (.identifier 14 .unknown "sum"))],
      none, none, []⟩]

theorem Shader.exists_compiled {shader : Shader} {options : CompileOptions}
    {test : CompiledShader → Bool}
    (holds : (shader.compile options).toOption.any test = true) :
    ∃ compiled, shader.compile options = .ok compiled ∧ test compiled = true := by
  cases outcome : shader.compile options with
  | ok compiled =>
      rw [outcome] at holds
      exact ⟨compiled, rfl, holds⟩
  | error reports =>
      rw [outcome] at holds
      cases holds

theorem Shader.scaling_compiles :
    ∃ compiled, Shader.scaling.compile .allNames = .ok compiled := by
  have succeeds : (Shader.scaling.compile .allNames).toOption.any (fun _ => true) = true := by
    decide +kernel
  obtain ⟨compiled, compiles, -⟩ := Shader.exists_compiled succeeds
  exact ⟨compiled, compiles⟩

end ShaderLang
