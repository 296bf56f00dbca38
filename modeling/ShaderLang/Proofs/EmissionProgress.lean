import ShaderLang.Proofs.EmissionGrowth
import ShaderLang.Proofs.Restrictions
import ShaderLang.Proofs.ShaderSoundness

/-!
# Emission of well-typed shaders

A well-typed shader is emitted, unless it breaks one of the restrictions of emission; then emission
stops at the first place that breaks one, with the fault that says so.  The bound names of emission
follow the visible names of typing, so no other step can fail.
-/

namespace ShaderLang

/-! ## Steps with known faults -/

namespace Run

variable {σ α β : Type}

/-- A step fails with the first of the given faults, or it succeeds if there is none. -/
inductive Meets (faults : List EmissionFault) (good : α → σ → Prop) :
    EStateM.Result Diagnostic σ α → Prop
  | ok {value : α} {state : σ} (faultless : faults = []) (holds : good value state) :
      Meets faults good (.ok value state)
  | error {fault : EmissionFault} {rest : List EmissionFault} {state : σ}
      (first : faults = fault :: rest) :
      Meets faults good (.error (.emission fault) state)

theorem Meets.of_ok {good : α → σ → Prop} {step : EStateM Diagnostic σ α} {before after : σ}
    {value : α}
    (succeeds : step.run before = .ok value after)
    (holds : good value after) :
    Meets [] good (step.run before) := by
  rw [succeeds]
  exact .ok rfl holds

theorem Meets.imp {faults : List EmissionFault} {good better : α → σ → Prop}
    {outcome : EStateM.Result Diagnostic σ α}
    (meets : Meets faults good outcome)
    (weaker : ∀ value state, good value state → better value state) :
    Meets faults better outcome := by
  cases meets with
  | ok faultless holds => exact .ok faultless (weaker _ _ holds)
  | error first => exact .error first

/-- The faults of a sequence are those of its parts in order. -/
theorem Meets.bind {firstFaults nextFaults : List EmissionFault} {good : α → σ → Prop}
    {better : β → σ → Prop} {first : EStateM Diagnostic σ α}
    {next : α → EStateM Diagnostic σ β} {before : σ}
    (firstMeets : Meets firstFaults good (first.run before))
    (nextMeets : ∀ value state, good value state →
      Meets nextFaults better ((next value).run state)) :
    Meets (firstFaults ++ nextFaults) better ((first >>= next).run before) := by
  rw [EStateM.run_bind]
  cases outcome : first.run before with
  | ok value state =>
      rw [outcome] at firstMeets
      cases firstMeets with
      | ok faultless holds =>
          rw [faultless, List.nil_append]
          exact nextMeets value state holds
  | error diagnostic state =>
      rw [outcome] at firstMeets
      cases firstMeets with
      | @error fault rest _ isFirst =>
          rw [isFirst]
          exact .error rfl

/-- A sequence whose second part succeeds. -/
theorem Meets.then_ok {faults : List EmissionFault} {good : α → σ → Prop}
    {better : β → σ → Prop} {first : EStateM Diagnostic σ α}
    {next : α → EStateM Diagnostic σ β} {before : σ}
    (firstMeets : Meets faults good (first.run before))
    (nextMeets : ∀ value state, good value state → Meets [] better ((next value).run state)) :
    Meets faults better ((first >>= next).run before) := by
  have whole := firstMeets.bind nextMeets
  rw [List.append_nil] at whole
  exact whole

/-- A sequence whose first part succeeds. -/
theorem Meets.after_ok {faults : List EmissionFault} {good : α → σ → Prop}
    {better : β → σ → Prop} {first : EStateM Diagnostic σ α}
    {next : α → EStateM Diagnostic σ β} {before : σ}
    (firstMeets : Meets [] good (first.run before))
    (nextMeets : ∀ value state, good value state →
      Meets faults better ((next value).run state)) :
    Meets faults better ((first >>= next).run before) := by
  have whole := firstMeets.bind nextMeets
  rw [List.nil_append] at whole
  exact whole

/-- What a step that succeeds leaves behind is what its run gives. -/
theorem Meets.with_run {faults : List EmissionFault} {good : α → σ → Prop}
    {outcome : EStateM.Result Diagnostic σ α}
    (meets : Meets faults good outcome) :
    Meets faults (fun value state => good value state ∧ outcome = .ok value state) outcome := by
  cases meets with
  | ok faultless holds => exact .ok faultless ⟨holds, rfl⟩
  | error first => exact .error first

/-- The faults of a pass over items are those of the items in order. -/
theorem Meets.forM {step : α → EStateM Diagnostic σ PUnit} {items : List α} {before : σ}
    (faults : α → List EmissionFault) (invariant : List α → σ → Prop)
    (initially : invariant [] before)
    (meets : ∀ done item rest, items = done ++ item :: rest → ∀ state, invariant done state →
      Meets (faults item) (fun _ after => invariant (done ++ [item]) after)
        ((step item).run state)) :
    Meets (items.flatMap faults) (fun _ after => invariant items after)
      ((items.forM step).run before) := by
  suffices general : ∀ rest done state, items = done ++ rest → invariant done state →
      Meets (rest.flatMap faults) (fun _ after => invariant items after)
        ((rest.forM step).run state) from
    general items [] before rfl initially
  intro rest
  induction rest with
  | nil =>
      intro done state split holds
      refine .ok rfl ?_
      rw [split, List.append_nil]
      exact holds
  | cons item rest inductionHypothesis =>
      intro done state split holds
      rw [forM_cons, List.flatMap_cons]
      exact (meets done item rest split state holds).bind fun _ state' kept =>
        inductionHypothesis (done ++ [item]) state' (by simp [split]) kept

end Run

/-! ## Bound names -/

/-- The role of a bound name. -/
def Binding.role : Binding → Role
  | value .. => .parameter
  | cell .. => .variable
  | generic _ => .generic

/-- How what a name stands for is bound: parameters as values, variables as cells. -/
inductive Binding.Denotes : Binding → Referent → Prop
  | value {id : ResultId} {type : ShaderType} : Denotes (.value id type) ⟨.parameter, type⟩
  | cell {id : ResultId} {type : ShaderType} (emittable : type.isEmittable = true) :
      Denotes (.cell id type) ⟨.variable, type⟩
  | generic {type : ShaderType} : Denotes (.generic type) ⟨.generic, type⟩

/-- The bound names are the visible names. -/
structure FunctionBuilder.Binds (functions : FunctionBuilder) (names : NameTable Referent)
    (roles : NameTable Role) : Prop where
  referents : names.Agrees (fun referent binding => binding.Denotes referent) functions.names
  roles : roles.Agrees (fun role binding => binding.role = role) functions.names

namespace FunctionBuilder.Binds

variable {functions : FunctionBuilder} {names : NameTable Referent} {roles : NameTable Role}

theorem pushScope (binds : functions.Binds names roles) :
    functions.pushScope.Binds names.push roles.push :=
  ⟨binds.referents.push, binds.roles.push⟩

theorem bindLocal (binds : functions.Binds names roles) (name : String) {binding : Binding}
    {referent : Referent} {role : Role}
    (denotes : binding.Denotes referent)
    (sameRole : binding.role = role) :
    (functions.bindLocal name binding).Binds (names.bind name referent)
      (roles.bind name role) := by
  constructor
  · rw [names_bindLocal]
    exact binds.referents.bind name denotes
  · rw [names_bindLocal]
    exact binds.roles.bind name sameRole

/-- A name that is visible is bound, with its role. -/
theorem lookup? (binds : functions.Binds names roles) {name : String} {referent : Referent}
    (found : names.lookup? name = some referent) :
    ∃ binding, functions.lookup? name = some binding ∧ binding.Denotes referent ∧
      roles.lookup? name = some binding.role := by
  have sameReferent := binds.referents.lookup? name
  have sameRole := binds.roles.lookup? name
  rw [found] at sameReferent
  change Option.Rel _ _ (functions.lookup? name) at sameReferent
  change Option.Rel _ _ (functions.lookup? name) at sameRole
  generalize functions.lookup? name = bound at sameReferent sameRole ⊢
  generalize roles.lookup? name = role at sameRole ⊢
  cases sameReferent with
  | @some _ binding denotes =>
      cases sameRole with
      | some same => exact ⟨binding, rfl, denotes, congrArg some same.symm⟩

/-- A variable of the shader that is visible is bound to a cell. -/
theorem member? (binds : functions.Binds names roles) {name : String} {type : ShaderType}
    (found : names.shader.lookup name = some ⟨.variable, type⟩) :
    ∃ id, functions.member? name = some (.cell id type) ∧ type.isEmittable = true := by
  have sameReferent := NameTable.lookup_related binds.referents.shader name
  rw [found] at sameReferent
  change Option.Rel _ _ (functions.member? name) at sameReferent
  generalize functions.member? name = bound at sameReferent ⊢
  cases sameReferent with
  | some denotes =>
      cases denotes with
      | @cell id _ emittable => exact ⟨id, rfl, emittable⟩

end FunctionBuilder.Binds

/-! ## Expressions -/

/-- An emitter that has gone on with the same bound names. -/
structure Emitter.Continues (before after : Emitter) : Prop where
  functions : after.functions = before.functions
  bound : before.target.bound ≤ after.target.bound

theorem Emitter.Continues.trans {first second third : Emitter} (front : first.Continues second)
    (back : second.Continues third) :
    first.Continues third :=
  ⟨back.functions.trans front.functions, Nat.le_trans front.bound back.bound⟩

section Expressions

variable {annotations : Annotations} {names : NameTable Referent} {roles : NameTable Role}
  {emitter : Emitter}

open Run

theorem Literal.constant_valued (value : Literal) : value.constant.1 ≠ .void := by
  cases value <;> simp [Literal.constant]

theorem ShaderType.isEmittable_of_isNumeric {type : ShaderType} (numeric : type.isNumeric = true) :
    type.isEmittable = true := by
  cases type with
  | scalar scalar => rfl
  | vector vector => rfl
  | matrix matrix => rfl
  | _ => cases numeric

theorem Emit.meets_literal (value : Literal) (emitter : Emitter) :
    Meets [] (fun _ after => emitter.Continues after)
      ((Emit.inModule (Build.registerConstant value.constant.1 value.constant.2)).run emitter) := by
  obtain ⟨id, target, registers⟩ :=
    Build.registerConstant_succeeds value.constant_valued value.constant.2 emitter.target
  exact .of_ok (Emit.run_inModule_of_ok registers)
    ⟨rfl, (ModuleBuilder.Advances.registerConstant registers).grows.bound⟩

/-- A type is registered and an instruction that defines an id is added. -/
theorem Emit.meets_registerDefine {type : ShaderType} (emittable : type.isEmittable = true)
    (instruction : ResultId → ResultId → Instruction) (emitter : Emitter) :
    Meets [] (fun _ after => emitter.Continues after)
      ((Emit.inModule (do
        let typeId ← Build.register type
        Build.define (instruction typeId))).run emitter) := by
  obtain ⟨typeId, target, registers⟩ := Build.register_succeeds type emitter.target emittable
  have runs : (do
      let typeId ← Build.register type
      Build.define (instruction typeId) : Build ResultId).run emitter.target =
      .ok target.bound (target.defined (instruction typeId)) := by
    rw [bind_of_ok registers]
    exact Build.run_define _ _
  refine .of_ok (Emit.run_inModule_of_ok runs) ⟨rfl, ?_⟩
  exact Nat.le_succ_of_le (ModuleBuilder.Advances.register registers).grows.bound

theorem Binding.meets_emitRead {binding : Binding} {referent : Referent}
    (denotes : binding.Denotes referent) (name : String) (emitter : Emitter) :
    Meets (if binding.role = .generic then [.genericRead name] else [])
      (fun _ after => emitter.Continues after) ((binding.emitRead name).run emitter) := by
  cases denotes with
  | @value id type => exact .of_ok (run_pure id emitter) ⟨rfl, Nat.le_refl _⟩
  | @cell id type emittable =>
      exact Emit.meets_registerDefine emittable (fun typeId result => .load result typeId id)
        emitter
  | generic => exact .error rfl

/-- A well-typed expression is emitted, unless it reads a generic parameter. -/
theorem Expression.meets_emit {expression : Expression} {type : ShaderType}
    (typed : expression.HasType annotations names type)
    (binds : emitter.functions.Binds names roles) :
    Meets (expression.genericReads roles) (fun _ after => emitter.Continues after)
      ((expression.emit annotations).run emitter) := by
  induction typed generalizing emitter with
  | @literal node location value => exact Emit.meets_literal value emitter
  | @identifier node location name referent found =>
      obtain ⟨binding, bound, denotes, role⟩ := binds.lookup? found
      unfold Expression.emit Expression.genericReads
      rw [run_get_bind, bound, role]
      simpa using Binding.meets_emitRead denotes name emitter
  | @stream node location name type found =>
      obtain ⟨id, bound, emittable⟩ := binds.member? found
      unfold Expression.emit Expression.genericReads
      rw [run_get_bind, bound]
      exact Emit.meets_registerDefine emittable (fun typeId result => .load result typeId id)
        emitter
  | @binary node location operator left right type leftTyped rightTyped numeric annotated
      leftHypothesis rightHypothesis =>
      obtain ⟨operation, selected⟩ := ShaderType.exists_arithmetic numeric operator
      have operates : ∀ leftId rightId (state : Emitter), Meets []
          (fun _ after => state.Continues after)
          ((emitOperation annotations node location operator leftId rightId).run state) := by
        intro leftId rightId state
        unfold emitOperation
        simp only [annotated, selected]
        exact Emit.meets_registerDefine (ShaderType.isEmittable_of_isNumeric numeric)
          (fun typeId result => .arithmetic operation result typeId leftId rightId) state
      refine (leftHypothesis binds).bind fun leftId first leftContinues => ?_
      rw [← leftContinues.functions] at binds
      refine (rightHypothesis binds).then_ok fun rightId second rightContinues => ?_
      exact (operates leftId rightId second).imp fun _ _ continues =>
        (leftContinues.trans rightContinues).trans continues

theorem Expression.meets_emitOptional {value : Option Expression} {type : ShaderType}
    (typed : ∀ expression ∈ value, expression.HasType annotations names type)
    (binds : emitter.functions.Binds names roles) :
    Meets (Expression.optionalGenericReads roles value)
      (fun _ after => emitter.Continues after)
      ((Expression.emitOptional annotations value).run emitter) := by
  cases value with
  | none => exact .of_ok (run_pure none emitter) ⟨rfl, Nat.le_refl _⟩
  | some expression =>
      exact (Expression.meets_emit (typed expression rfl) binds).then_ok
        fun id state continues => .of_ok (run_pure (some id) state) continues

end Expressions

/-! ## Statements -/

/-- An emitter with an open function in the given state, with the given return type.  The block of
the function may end in a return already. -/
structure Emitter.InFunction (emitter : Emitter) (state : MethodState) (returned : ShaderType)
    (terminated : Bool) : Prop where
  current : ∃ function, emitter.functions.current = some function ∧
    function.state = state ∧ function.returned = returned ∧ function.terminated = terminated
  positive : 0 < emitter.target.bound

/-- An emitter in the block of a function. -/
abbrev Emitter.InBlock (emitter : Emitter) (returned : ShaderType) (terminated : Bool) : Prop :=
  emitter.InFunction .blockOpen returned terminated

/-- An emitter in a function whose block does not end in a return yet, with the given visible
names. -/
structure Emitter.Reached (emitter : Emitter) (state : MethodState) (returned : ShaderType)
    (names : NameTable Referent) (roles : NameTable Role) : Prop where
  block : emitter.InFunction state returned false
  binds : emitter.functions.Binds names roles
  opened : emitter.functions.scopes ≠ []

theorem Emitter.InFunction.isTerminated {emitter : Emitter} {state : MethodState}
    {returned : ShaderType} {terminated : Bool}
    (inFunction : emitter.InFunction state returned terminated) :
    emitter.functions.isTerminated = terminated := by
  obtain ⟨function, opened, -, -, flag⟩ := inFunction.current
  unfold FunctionBuilder.isTerminated
  rw [opened]
  exact flag

theorem Emitter.InFunction.continue {before after : Emitter} {state : MethodState}
    {returned : ShaderType} {terminated : Bool}
    (inFunction : before.InFunction state returned terminated)
    (continues : before.Continues after) :
    after.InFunction state returned terminated where
  current := by
    rw [continues.functions]
    exact inFunction.current
  positive := Nat.lt_of_lt_of_le inFunction.positive continues.bound

/-- An emitter at a point of a body that is reached. -/
abbrev Emitter.InBody (emitter : Emitter) (returned : ShaderType) (names : NameTable Referent)
    (roles : NameTable Role) : Prop :=
  emitter.Reached .blockOpen returned names roles

theorem Emitter.Reached.continue {before after : Emitter} {state : MethodState}
    {returned : ShaderType} {names : NameTable Referent} {roles : NameTable Role}
    (reached : before.Reached state returned names roles)
    (continues : before.Continues after) :
    after.Reached state returned names roles where
  block := reached.block.continue continues
  binds := by
    rw [continues.functions]
    exact reached.binds
  opened := by
    rw [continues.functions]
    exact reached.opened

/-- A name can be bound where a body is reached. -/
theorem Emitter.Reached.bindLocal {emitter : Emitter} {state : MethodState}
    {returned : ShaderType} {names : NameTable Referent} {roles : NameTable Role}
    (reached : emitter.Reached state returned names roles) (name : String) {binding : Binding}
    {referent : Referent} {role : Role}
    (denotes : binding.Denotes referent)
    (sameRole : binding.role = role) :
    Emitter.Reached ⟨emitter.target, emitter.functions.bindLocal name binding⟩ state returned
      (names.bind name referent) (roles.bind name role) where
  block := ⟨reached.block.current, reached.block.positive⟩
  binds := reached.binds.bindLocal name denotes sameRole
  opened := (emitter.functions.sameOuter_bindLocal name binding).opened reached.opened

section Statements

variable {table : SymbolTable} {returned : ShaderType} {names names' : NameTable Referent}
  {roles : NameTable Role} {emitter : Emitter}

open Run

theorem Annotations.run_require {annotations : Annotations} {node : NodeId} {type : ShaderType}
    (annotated : annotations.type? node = some type) (thing : TypedThing) (name : String)
    (emitter : Emitter) :
    (annotations.require node thing name).run emitter = .ok type emitter := by
  unfold Annotations.require
  rw [annotated]
  rfl

theorem Emit.meets_defineCell {type : ShaderType} (name : String) (storage : StorageClass)
    (emittable : type.isEmittable = true)
    (positive : 0 < emitter.target.bound) :
    Meets [] (fun _ after => emitter.Continues after)
      ((Emit.defineCell name type storage).run emitter) := by
  obtain ⟨typeId, target, registers⟩ := Build.register_succeeds type emitter.target emittable
  have grows := (ModuleBuilder.Advances.register registers).grows.bound
  have named := Build.run_addName (ModuleBuilder.isAllocated_defined
    (Nat.lt_of_lt_of_le positive grows) fun result => .cell result typeId storage) name
  have runs : (do
      let typeId ← Build.register type
      let cell ← Build.define fun result => .cell result typeId storage
      Build.addName cell name
      return cell : Build ResultId).run emitter.target =
      .ok target.bound (target.withCell name typeId storage) := by
    rw [bind_of_ok registers, bind_of_ok (Build.run_define _ _), bind_of_ok named]
    rfl
  refine .of_ok (Emit.run_inModule_of_ok runs) ⟨rfl, ?_⟩
  exact Nat.le_trans grows (ModuleBuilder.Advances.withCell target name typeId storage).grows.bound

theorem Emit.meets_storeOptional (cell : ResultId) (value : Option ResultId)
    (emitter : Emitter) :
    Meets [] (fun _ after => emitter.Continues after)
      ((Emit.storeOptional cell value).run emitter) :=
  .of_ok (Emit.run_storeOptional cell value emitter)
    ⟨rfl, (ModuleBuilder.Advances.storeOptional _ cell value).grows.bound⟩

/-- The target of a well-typed assignment is a variable, unless its role forbids assignment. -/
theorem Expression.meets_assigned {target : Expression} {type : ShaderType}
    (typed : target.HasType table.annotations names type)
    (assignable : target.isAssignable = true)
    (binds : emitter.functions.Binds names roles) :
    Meets (target.assignmentFaults roles) (fun _ after => after = emitter)
      (target.assigned.run emitter) := by
  cases typed with
  | literal => simp [Expression.isAssignable] at assignable
  | binary => simp [Expression.isAssignable] at assignable
  | @identifier node location name referent found =>
      obtain ⟨binding, bound, denotes, role⟩ := binds.lookup? found
      unfold Expression.assigned
      simp only [Expression.assignmentFaults, role]
      rw [run_get_bind, bound]
      cases denotes with
      | value => exact .error rfl
      | @cell id type emittable => exact .of_ok (run_pure id emitter) rfl
      | generic => exact .error rfl
  | @stream node location name type found =>
      obtain ⟨id, bound, -⟩ := binds.member? found
      unfold Expression.assigned
      rw [run_get_bind, bound]
      exact .of_ok (run_pure id emitter) rfl

theorem Emit.meets_emitReturn (value : Option ResultId)
    (inBlock : emitter.InBlock returned false) :
    Meets [] (fun _ after => after.InBlock returned true)
      ((Emit.emitReturn value).run emitter) := by
  obtain ⟨function, opened, inState, isReturned, -⟩ := inBlock.current
  have required := Emit.run_requireState opened .exit
  rw [inState] at required
  have runs : (Emit.emitReturn value).run emitter =
      .ok () ⟨emitter.target.append (Emit.returnInstruction value),
        emitter.functions.terminate function⟩ := by
    unfold Emit.emitReturn
    rw [bind_of_ok required, bind_of_ok (Emit.run_inModule_of_ok (Build.run_emit _ _))]
    rfl
  exact .of_ok runs ⟨⟨_, rfl, inState, isReturned, rfl⟩, inBlock.positive⟩

/-- A well-typed statement that is no block is emitted, unless it has a fault.  Behind a return the
block is ended, and behind any other statement the next one is reached. -/
theorem Statement.meets_emit {statement : Statement}
    (typed : statement.TypedSimple table returned names names')
    (inBody : emitter.InBody returned names roles) :
    Meets (statement.faults roles)
      (fun _ after => after.InBlock returned statement.stops ∧
        (statement.stops = false → after.InBody returned names' (statement.bindRole roles)))
      ((statement.emit table.annotations).run emitter) := by
  cases typed with
  | @declare node location written name value annotated emittable valueTyped =>
      change Meets _ _ ((emitDeclaration table.annotations node name value).run emitter)
      unfold emitDeclaration
      rw [bind_of_ok (Annotations.run_require annotated _ _ _)]
      refine (Expression.meets_emitOptional valueTyped inBody.binds).then_ok
        fun valueId first firstContinues => ?_
      have firstBody := inBody.continue firstContinues
      refine (Emit.meets_defineCell name .function emittable firstBody.block.positive).after_ok
        fun cell second secondContinues => ?_
      refine (Emit.meets_storeOptional cell valueId second).after_ok
        fun _ third thirdContinues => ?_
      have thirdBody := firstBody.continue (secondContinues.trans thirdContinues)
      refine .of_ok (Emit.run_bindLocal thirdBody.opened name _) ?_
      have nextBody := thirdBody.bindLocal name
        (.cell emittable : Binding.Denotes (.cell cell _) _) rfl
      exact ⟨nextBody.block, fun _ => nextBody⟩
  | @assign location target value type valueTyped targetTyped assignable =>
      refine (Expression.meets_emit valueTyped inBody.binds).bind
        fun valueId first firstContinues => ?_
      have firstBody := inBody.continue firstContinues
      refine (Expression.meets_assigned targetTyped assignable firstBody.binds).then_ok ?_
      rintro cell second rfl
      refine .of_ok (Emit.run_inModule_of_ok (Build.run_emit _ _)) ?_
      have nextBody : Emitter.InBody
          ⟨second.target.append (.store cell valueId), second.functions⟩ returned names roles :=
        firstBody.continue ⟨rfl, Nat.le_refl _⟩
      exact ⟨nextBody.block, fun _ => nextBody⟩
  | @evaluate value type valueTyped =>
      refine (Expression.meets_emit valueTyped inBody.binds).then_ok
        fun valueId first firstContinues => .of_ok (run_pure () first) ?_
      have nextBody := inBody.continue firstContinues
      exact ⟨nextBody.block, fun _ => nextBody⟩
  | @exit location value valueTyped absent =>
      refine (Expression.meets_emitOptional valueTyped inBody.binds).then_ok
        fun valueId first firstContinues => ?_
      exact (Emit.meets_emitReturn valueId (inBody.block.continue firstContinues)).imp
        fun _ _ ended => ⟨ended, fun running => by cases running⟩

/-- A step in a scope of its own succeeds and fails as it does without, and leaves its scope. -/
theorem Emit.meets_inScope {α : Type} {step : Emit α} {faults : List EmissionFault}
    {good : α → Emitter → Prop}
    (meets : Meets faults good (step.run ⟨emitter.target, emitter.functions.pushScope⟩)) :
    Meets faults (fun value after => ∃ inner,
        step.run ⟨emitter.target, emitter.functions.pushScope⟩ = .ok value inner ∧
        good value inner ∧ after = ⟨inner.target, inner.functions.dropScope⟩)
      ((Emit.inScope step).run emitter) := by
  rw [Emit.run_inScope]
  cases outcome : step.run ⟨emitter.target, emitter.functions.pushScope⟩ with
  | ok value inner =>
      rw [outcome] at meets
      cases meets with
      | ok faultless holds => exact .ok faultless ⟨inner, rfl, holds, rfl⟩
  | error diagnostic inner =>
      rw [outcome] at meets
      cases meets with
      | error first => exact .error first

theorem Statement.run_emitAll_cons {annotations : Annotations} {statement : Statement}
    {rest : List Statement}
    (running : emitter.functions.isTerminated = false) :
    (Statement.emitAll annotations (statement :: rest)).run emitter =
      (statement.emit annotations >>= fun _ => Statement.emitAll annotations rest).run emitter := by
  rw [Statement.emitAll, run_get_bind, if_neg (by simp [running])]

theorem Statement.run_emitAll_of_terminated {annotations : Annotations} {body : List Statement}
    (terminated : emitter.functions.isTerminated = true) :
    (Statement.emitAll annotations body).run emitter = .ok () emitter := by
  cases body with
  | nil => rfl
  | cons statement rest =>
      rw [Statement.emitAll, run_get_bind, if_pos terminated]
      rfl

/-- Behind a statement that stops nothing is emitted, and behind another one the rest is. -/
theorem Statement.meets_rest (statement : Statement) {rest : List Statement}
    (inBlock : emitter.InBlock returned statement.stops)
    (continues : statement.stops = false →
      Meets (Statement.reachedFaults (statement.bindRole roles) rest)
        (fun _ after => after.InBlock returned (Statement.anyStops rest))
        ((Statement.emitAll table.annotations rest).run emitter)) :
    Meets (if statement.stops then []
        else Statement.reachedFaults (statement.bindRole roles) rest)
      (fun _ after => after.InBlock returned (Statement.anyStops (statement :: rest)))
      ((Statement.emitAll table.annotations rest).run emitter) := by
  unfold Statement.anyStops
  cases stops : statement.stops with
  | true =>
      rw [stops] at inBlock
      rw [if_pos rfl, Bool.true_or]
      exact .of_ok (Statement.run_emitAll_of_terminated inBlock.isTerminated) inBlock
  | false =>
      rw [if_neg Bool.false_ne_true, Bool.false_or]
      exact continues stops

/-- Well-typed statements are emitted, unless a reached one has a fault. -/
theorem Statement.meets_emitAll {body : List Statement}
    (typed : Statement.TypedAll table returned names body)
    (inBody : emitter.InBody returned names roles) :
    Meets (Statement.reachedFaults roles body)
      (fun _ after => after.InBlock returned (Statement.anyStops body))
      ((Statement.emitAll table.annotations body).run emitter) := by
  induction typed generalizing emitter roles with
  | nil => exact .ok rfl inBody.block
  | @simple names names' statement rest typed restTyped inductionHypothesis =>
      rw [Statement.run_emitAll_cons inBody.block.isTerminated]
      exact (Statement.meets_emit typed inBody).bind fun _ state reached =>
        Statement.meets_rest statement reached.1 fun running =>
          inductionHypothesis (reached.2 running)
  | @block names location body rest bodyTyped restTyped bodyHypothesis restHypothesis =>
      rw [Statement.run_emitAll_cons inBody.block.isTerminated]
      have inner : Emitter.InBody ⟨emitter.target, emitter.functions.pushScope⟩ returned names.push
          roles.push :=
        ⟨⟨inBody.block.current, inBody.block.positive⟩, inBody.binds.pushScope,
          by simp [FunctionBuilder.pushScope]⟩
      refine (Emit.meets_inScope (bodyHypothesis inner)).bind ?_
      rintro _ _ ⟨final, bodyRun, ended, rfl⟩
      have bodyEmits := Statement.emitsAll_of_emitAll body bodyRun
      have sameNames := bodyEmits.names_dropScope
      have sameScopes : final.functions.dropScope.scopes = emitter.functions.scopes :=
        bodyEmits.sameOuter.scopes
      have afterBlock : Emitter.InBlock ⟨final.target, final.functions.dropScope⟩ returned
          (Statement.anyStops body) :=
        ⟨ended.current, ended.positive⟩
      refine Statement.meets_rest (.block location body) afterBlock fun running => ?_
      refine restHypothesis ⟨?_, ⟨?_, ?_⟩, ?_⟩
      · rw [← running]
        exact afterBlock
      · rw [sameNames]
        exact inBody.binds.referents
      · rw [sameNames]
        exact inBody.binds.roles
      · rw [sameScopes]
        exact inBody.opened

end Statements

end ShaderLang
