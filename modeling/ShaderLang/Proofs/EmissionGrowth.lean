import ShaderLang.Proofs.BuilderInvariant
import ShaderLang.Proofs.EmissionRuns

/-!
# Emission grows well-formed modules

Emission only adds instructions behind the ones that are there, and it keeps the invariant of
module builders.  The code of an expression, a statement or a parameter lies inside one function:
it neither starts nor ends a function.
-/

namespace ShaderLang

/-- Whether an instruction stands at the edge of a function. -/
def Instruction.isBoundary : Instruction → Bool
  | entryPoint .. | function .. | functionEnd => true
  | _ => false

theorem Instruction.isBoundary_of_isDeclaration {instruction : Instruction}
    (declares : instruction.isDeclaration = true) :
    instruction.isBoundary = false := by
  cases instruction <;> first | rfl | cases declares

namespace ModuleBuilder

variable {limit : Nat} {builder before middle after : ModuleBuilder}

/-- A builder goes on to another one inside of a function or outside of all functions. -/
structure Advances (before after : ModuleBuilder) : Prop where
  grows : before.Grows after
  wellFormed : before.WellFormed → after.WellFormed
  code : ∃ new, after.code = before.code ++ new ∧
    ∀ instruction ∈ new, instruction.isBoundary = false

namespace Advances

theorem refl (builder : ModuleBuilder) : builder.Advances builder :=
  ⟨.refl builder, fun wellFormed => wellFormed, [], (List.append_nil _).symm, by simp⟩

theorem trans (first : before.Advances middle) (second : middle.Advances after) :
    before.Advances after := by
  obtain ⟨firstGrows, firstKeeps, firstNew, firstCode, firstPlain⟩ := first
  obtain ⟨secondGrows, secondKeeps, secondNew, secondCode, secondPlain⟩ := second
  refine ⟨firstGrows.trans secondGrows, fun wellFormed => secondKeeps (firstKeeps wellFormed),
    firstNew ++ secondNew, by rw [secondCode, firstCode, List.append_assoc], ?_⟩
  intro instruction member
  rcases List.mem_append.mp member with inFirst | inSecond
  · exact firstPlain instruction inFirst
  · exact secondPlain instruction inSecond

theorem of_reaches (reaches : Reaches limit before after) : before.Advances after := by
  obtain ⟨new, code, declares⟩ := reaches.appends
  exact ⟨reaches.grows, reaches.wellFormed, new, code, fun instruction member =>
    Instruction.isBoundary_of_isDeclaration (declares instruction member)⟩

theorem register {type : ShaderType} {id : ResultId}
    (registers : (Build.register type).run before = .ok id after) :
    before.Advances after :=
  of_reaches (Build.register_reaches type registers).1

theorem registerConstant {scalar : ScalarType} {value : Constant} {id : ResultId}
    (registers : (Build.registerConstant scalar value).run before = .ok id after) :
    before.Advances after :=
  of_reaches (Build.registerConstant_reaches registers).1

theorem defined {instruction : ResultId → Instruction}
    (defines : (instruction builder.bound).result? = some builder.bound)
    (plain : (instruction builder.bound).isBoundary = false) :
    builder.Advances (builder.defined instruction) :=
  ⟨.defined builder instruction, fun wellFormed => wellFormed.defined defines, [_], rfl, by
    simpa using plain⟩

theorem append {instruction : Instruction}
    (defines : instruction.result? = none)
    (plain : instruction.isBoundary = false) :
    builder.Advances (builder.append instruction) :=
  ⟨.append builder instruction, fun wellFormed => wellFormed.append defines, [_], rfl, by
    simpa using plain⟩

theorem addName (builder : ModuleBuilder) (id : ResultId) (name : String) :
    builder.Advances (builder.addName id name) := by
  refine ⟨.addName builder id name, fun wellFormed => wellFormed.addName id name, ?_⟩
  unfold ModuleBuilder.addName
  split
  · exact ⟨[.name id name], rfl, by simp [Instruction.isBoundary]⟩
  · exact ⟨[], (List.append_nil _).symm, by simp⟩

theorem addOptionalSemantic (builder : ModuleBuilder) (id : ResultId)
    (semantic : Option String) :
    builder.Advances (builder.addOptionalSemantic id semantic) := by
  cases semantic with
  | none => exact .refl builder
  | some text =>
      exact ⟨.addSemantic builder id text, fun wellFormed => wellFormed.addSemantic id text,
        [.semantic id text], rfl, by simp [Instruction.isBoundary]⟩

theorem withCell (builder : ModuleBuilder) (name : String) (typeId : ResultId)
    (storage : StorageClass) :
    builder.Advances (builder.withCell name typeId storage) :=
  (defined rfl rfl).trans (.addName _ _ _)

theorem withMember (builder : ModuleBuilder) (name : String) (semantic : Option String)
    (typeId : ResultId) :
    builder.Advances (builder.withMember name semantic typeId) :=
  ((defined rfl rfl).trans (.addOptionalSemantic _ _ _)).trans (.addName _ _ _)

theorem withParameter (builder : ModuleBuilder) (name : String) (typeId : ResultId) :
    builder.Advances (builder.withParameter name typeId) :=
  (defined rfl rfl).trans (.addName _ _ _)

theorem storeOptional (builder : ModuleBuilder) (cell : ResultId) (value : Option ResultId) :
    builder.Advances (builder.storeOptional cell value) := by
  cases value with
  | none => exact .refl builder
  | some id => exact append rfl rfl

theorem closeBlock (builder : ModuleBuilder) (function : OpenFunction) :
    builder.Advances (builder.closeBlock function) := by
  unfold ModuleBuilder.closeBlock
  split
  · exact .refl builder
  · exact append rfl rfl

end Advances

end ModuleBuilder

/-! ## Expressions and statements -/

section Runs

variable {annotations : Annotations} {functions : FunctionBuilder}

theorem Expression.Emits.advances {expression : Expression} {id : ResultId}
    {before after : ModuleBuilder}
    (emits : expression.Emits annotations functions before id after) :
    before.Advances after := by
  induction emits with
  | literal registers => exact .registerConstant registers
  | value bound => exact .refl _
  | load bound registers =>
      exact (ModuleBuilder.Advances.register registers).trans (.defined rfl rfl)
  | binary leftEmits rightEmits typed selected registers leftHypothesis rightHypothesis =>
      exact ((leftHypothesis.trans rightHypothesis).trans (.register registers)).trans
        (.defined rfl rfl)

theorem Expression.EmitsOptional.advances {value : Option Expression} {id : Option ResultId}
    {before after : ModuleBuilder}
    (emits : Expression.EmitsOptional annotations functions value before id after) :
    before.Advances after := by
  cases emits with
  | none => exact .refl _
  | some emits => exact emits.advances

theorem Statement.EmitsSimple.advances {statement : Statement} {before after : Emitter}
    (emits : statement.EmitsSimple annotations before after) :
    before.target.Advances after.target := by
  cases emits with
  | declare typed valueEmits registers opened =>
      exact ((valueEmits.advances.trans (.register registers)).trans (.withCell _ _ _ _)).trans
        (.storeOptional _ _ _)
  | assign valueEmits bound => exact valueEmits.advances.trans (.append rfl rfl)
  | evaluate valueEmits => exact valueEmits.advances
  | @exit _ _ valueId _ _ _ valueEmits opened inBlock =>
      refine valueEmits.advances.trans ?_
      cases valueId with
      | none => exact .append rfl rfl
      | some id => exact .append rfl rfl

theorem Statement.EmitsAll.advances {body : List Statement} {before after : Emitter}
    (emits : Statement.EmitsAll annotations body before after) :
    before.target.Advances after.target := by
  induction emits with
  | nil => exact .refl _
  | stop terminated => exact .refl _
  | simple running emits restEmits inductionHypothesis =>
      exact emits.advances.trans inductionHypothesis
  | block running bodyEmits restEmits bodyHypothesis restHypothesis =>
      exact bodyHypothesis.trans restHypothesis

theorem Method.EmitsParameters.advances {parameters : List Parameter} {before after : Emitter}
    (emits : Method.EmitsParameters annotations parameters before after) :
    before.target.Advances after.target := by
  induction emits with
  | nil => exact .refl _
  | cons typed registers restEmits inductionHypothesis =>
      exact ((ModuleBuilder.Advances.register registers).trans (.withParameter _ _ _)).trans
        inductionHypothesis

theorem Method.EmitsBody.advances {body : Option (List Statement)} {before after : Emitter}
    (emits : Method.EmitsBody annotations body before after) :
    before.target.Advances after.target := by
  cases emits with
  | none => exact .refl _
  | some opened statementsEmit =>
      exact (ModuleBuilder.Advances.defined rfl rfl).trans statementsEmit.advances

end Runs

/-! ## Scopes -/

/-- Two function builders that differ in their innermost scope and in their open function only. -/
structure FunctionBuilder.SameOuter (before after : FunctionBuilder) : Prop where
  scopes : after.scopes.tail = before.scopes.tail
  members : after.members = before.members
  opened : before.scopes ≠ [] → after.scopes ≠ []

theorem FunctionBuilder.SameOuter.refl (functions : FunctionBuilder) :
    functions.SameOuter functions :=
  ⟨rfl, rfl, fun opened => opened⟩

theorem FunctionBuilder.SameOuter.trans {first second third : FunctionBuilder}
    (front : first.SameOuter second)
    (back : second.SameOuter third) :
    first.SameOuter third :=
  ⟨back.scopes.trans front.scopes, back.members.trans front.members,
    fun opened => back.opened (front.opened opened)⟩

theorem FunctionBuilder.sameOuter_bindLocal (functions : FunctionBuilder) (name : String)
    (binding : Binding) :
    functions.SameOuter (functions.bindLocal name binding) := by
  unfold FunctionBuilder.bindLocal
  constructor
  · cases functions.scopes <;> rfl
  · rfl
  · intro opened
    cases scopes : functions.scopes with
    | nil => exact absurd scopes opened
    | cons scope rest => simp

theorem Statement.EmitsSimple.sameOuter {annotations : Annotations} {statement : Statement}
    {before after : Emitter}
    (emits : statement.EmitsSimple annotations before after) :
    before.functions.SameOuter after.functions := by
  cases emits with
  | declare typed valueEmits registers opened => exact before.functions.sameOuter_bindLocal _ _
  | assign valueEmits bound => exact .refl _
  | evaluate valueEmits => exact .refl _
  | exit valueEmits opened inBlock => exact ⟨rfl, rfl, fun scopes => scopes⟩

/-- A body changes the innermost scope only, and a block leaves the scopes as they are. -/
theorem Statement.EmitsAll.sameOuter {annotations : Annotations} {body : List Statement}
    {before after : Emitter}
    (emits : Statement.EmitsAll annotations body before after) :
    before.functions.SameOuter after.functions := by
  induction emits with
  | nil => exact .refl _
  | stop terminated => exact .refl _
  | simple running emits restEmits inductionHypothesis =>
      exact emits.sameOuter.trans inductionHypothesis
  | @block location body rest before inner after running bodyEmits restEmits bodyHypothesis
      restHypothesis =>
      have sameScopes : inner.functions.dropScope.scopes = before.functions.scopes :=
        bodyHypothesis.scopes
      refine FunctionBuilder.SameOuter.trans ⟨congrArg List.tail sameScopes,
        bodyHypothesis.members, fun opened => ?_⟩ restHypothesis
      rw [sameScopes]
      exact opened

/-- Behind a block the names are those in front of it. -/
theorem Statement.EmitsAll.names_dropScope {annotations : Annotations} {body : List Statement}
    {before after : Emitter}
    (emits : Statement.EmitsAll annotations body
      ⟨before.target, before.functions.pushScope⟩ after) :
    after.functions.dropScope.names = before.functions.names := by
  have same := emits.sameOuter
  have sameScopes : after.functions.dropScope.scopes = before.functions.scopes := same.scopes
  unfold FunctionBuilder.names
  rw [sameScopes]
  exact congrArg (NameTable.mk before.functions.scopes) same.members

theorem Method.EmitsParameters.sameOuter {annotations : Annotations}
    {parameters : List Parameter} {before after : Emitter}
    (emits : Method.EmitsParameters annotations parameters before after) :
    before.functions.SameOuter after.functions := by
  induction emits with
  | nil => exact .refl _
  | cons typed registers restEmits inductionHypothesis =>
      exact (FunctionBuilder.sameOuter_bindLocal _ _ _).trans inductionHypothesis

theorem Method.EmitsParameters.current {annotations : Annotations} {parameters : List Parameter}
    {before after : Emitter}
    (emits : Method.EmitsParameters annotations parameters before after) :
    after.functions.current = before.functions.current := by
  induction emits with
  | nil => rfl
  | cons typed registers restEmits inductionHypothesis => exact inductionHypothesis

theorem Method.EmitsParameters.finished {annotations : Annotations} {parameters : List Parameter}
    {before after : Emitter}
    (emits : Method.EmitsParameters annotations parameters before after) :
    after.functions.finished = before.functions.finished := by
  induction emits with
  | nil => rfl
  | cons typed registers restEmits inductionHypothesis => exact inductionHypothesis

theorem Method.EmitsBody.sameOuter {annotations : Annotations}
    {body : Option (List Statement)} {before after : Emitter}
    (emits : Method.EmitsBody annotations body before after) :
    before.functions.SameOuter after.functions := by
  cases emits with
  | none => exact .refl _
  | some opened statementsEmit =>
      have kept := statementsEmit.sameOuter
      exact ⟨kept.scopes, kept.members, kept.opened⟩

/-- A method does not change the names of the shader. -/
theorem Method.Emits.members {annotations : Annotations} {method : Method}
    {before after : Emitter}
    (emits : method.Emits annotations before after) :
    after.functions.members = before.functions.members := by
  cases emits with
  | mk checked typed closed registersType registersReturned parametersEmit bodyEmits opened
      closable =>
      exact bodyEmits.sameOuter.members.trans parametersEmit.sameOuter.members

theorem Method.Emits.names {annotations : Annotations} {method : Method}
    {before after : Emitter}
    (emits : method.Emits annotations before after)
    (outside : before.functions.scopes = []) :
    after.functions.names = before.functions.names := by
  have members := emits.members
  unfold FunctionBuilder.names
  rw [members, outside]
  cases emits
  rfl

/-! ## Methods and other elements -/

namespace ModuleBuilder

variable {builder : ModuleBuilder} {name : String} {entryPoint : Option EntryPoint}
  {returned functionType : ResultId}

theorem results_functionStart :
    (entryPointCode builder.bound name entryPoint ++ [Instruction.uncontrolled builder.bound
      returned functionType]).filterMap Instruction.result? = [builder.bound] := by
  cases entryPoint <;> rfl

theorem grows_withFunction (builder : ModuleBuilder) (name : String)
    (entryPoint : Option EntryPoint) (returned functionType : ResultId) :
    builder.Grows (builder.withFunction name entryPoint returned functionType) :=
  .of_code (List.prefix_append _ _) rfl rfl (Nat.le_succ _)

theorem grows_startFunction (builder : ModuleBuilder) (name : String)
    (entryPoint : Option EntryPoint) (returned functionType : ResultId) :
    builder.Grows (builder.startFunction name entryPoint returned functionType) :=
  (builder.grows_withFunction name entryPoint returned functionType).trans (.addName _ _ _)

theorem WellFormed.withFunction (wellFormed : builder.WellFormed) :
    (builder.withFunction name entryPoint returned functionType).WellFormed :=
  wellFormed.extend (grows_withFunction _ _ _ _ _) rfl rfl
    (wellFormed.dense_succ results_functionStart)

end ModuleBuilder

section Elements

variable {annotations : Annotations} {before after : Emitter}

/-- The parameters and the body of a function neither start nor end a function. -/
theorem Method.advances_inside {parameters : List Parameter} {body : Option (List Statement)}
    {builder : ModuleBuilder} {name : String} {entryPoint : Option EntryPoint}
    {returned functionType : ResultId} {functions : FunctionBuilder} {middle last : Emitter}
    (parametersEmit : Method.EmitsParameters annotations parameters
      ⟨builder.startFunction name entryPoint returned functionType, functions⟩ middle)
    (bodyEmits : Method.EmitsBody annotations body middle last) (function : OpenFunction) :
    (builder.withFunction name entryPoint returned functionType).Advances
      (last.target.closeBlock function) :=
  (((ModuleBuilder.Advances.addName _ _ _).trans parametersEmit.advances).trans
    bodyEmits.advances).trans (.closeBlock _ _)

/-- The code of a method: declarations, then the function from its start to its end. -/
theorem Method.Emits.adds {method : Method} (emits : method.Emits annotations before after) :
    before.target.Grows after.target ∧
    (before.target.WellFormed → after.target.WellFormed) ∧
    ∃ declarations entryPoint id returned functionType inner,
      after.target.code = before.target.code ++ (declarations ++
        (entryPointCode id method.name entryPoint ++
          .uncontrolled id returned functionType :: (inner ++ [.functionEnd]))) ∧
      (∀ instruction ∈ declarations, instruction.isBoundary = false) ∧
      ∀ instruction ∈ inner, instruction.isBoundary = false := by
  cases emits with
  | @mk info returned parameters functionType returnedId first second function _ middle last
      checked typed closed registersType registersReturned parametersEmit bodyEmits opened
      closable =>
      have declared : before.target.Advances second :=
        (ModuleBuilder.Advances.register registersType).trans (.register registersReturned)
      have inside := Method.advances_inside parametersEmit bodyEmits function
      obtain ⟨declarations, declaredCode, declarationsPlain⟩ := declared.code
      obtain ⟨inner, insideCode, innerPlain⟩ := inside.code
      refine ⟨?_, ?_, declarations, info.entryPoint, second.bound, returnedId, functionType,
        inner, ?_, declarationsPlain, innerPlain⟩
      · exact ((declared.grows.trans (ModuleBuilder.grows_withFunction _ _ _ _ _)).trans
          inside.grows).trans (.append _ _)
      · intro wellFormed
        exact (inside.wellFormed (declared.wellFormed wellFormed).withFunction).append rfl
      · change (last.target.closeBlock function).code ++ [.functionEnd] = _
        rw [insideCode]
        unfold ModuleBuilder.withFunction
        rw [declaredCode]
        simp

theorem Member.advances_of_emit {member : Member}
    (run : (member.emit annotations).run before = .ok () after) :
    before.target.Advances after.target := by
  obtain ⟨type, typeId, valueId, first, second, typed, registers, valueEmits, rfl⟩ :=
    Member.emit_eq_ok run
  exact (((ModuleBuilder.Advances.register registers).trans (.withMember _ _ _ _)).trans
    valueEmits.advances).trans (.storeOptional _ _ _)

theorem Sampler.advances_of_emit {sampler : Sampler}
    (run : (sampler.emit annotations).run before = .ok () after) :
    before.target.Advances after.target := by
  obtain ⟨type, typeId, first, typed, registers, rfl⟩ := Sampler.emit_eq_ok run
  exact (ModuleBuilder.Advances.register registers).trans (.withCell _ _ _ _)

theorem Struct.advances_of_emit {struct : Struct}
    (run : (struct.emit annotations).run before = .ok () after) :
    before.target.Advances after.target := by
  obtain ⟨type, typeId, target, typed, registers, rfl⟩ := Struct.emit_eq_ok run
  exact .register registers

end Elements

end ShaderLang
