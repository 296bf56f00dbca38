import ShaderLang.Proofs.CodeTyping
import ShaderLang.Proofs.ShaderSoundness

/-!
# Emission preserves types

A well-typed shader is emitted to well-typed code.  A type has one id, so two values of one type
have one type id, and the typing rules of the source become the typing rules of the code.
-/

namespace ShaderLang

open Instruction

/-! ## Types of bound names -/

/-- A bound name has the type of what it stands for, and its id has the type id of that type. -/
inductive Binding.Carries (builder : ModuleBuilder) : Referent → Binding → Prop
  | value {role : Role} {type : ShaderType} {id typeId : ResultId}
      (registered : builder.typeId? type = some typeId)
      (holds : HasValue builder.code id typeId) :
      Carries builder ⟨role, type⟩ (.value id type)
  | cell {role : Role} {type : ShaderType} {id typeId : ResultId}
      (registered : builder.typeId? type = some typeId)
      (holds : HasCell builder.code id typeId) :
      Carries builder ⟨role, type⟩ (.cell id type)
  | generic {role : Role} {type : ShaderType} :
      Carries builder ⟨role, type⟩ (.generic type)

theorem Binding.Carries.grow {before after : ModuleBuilder} {referent : Referent}
    {binding : Binding}
    (carries : binding.Carries before referent)
    (grows : before.Grows after) :
    binding.Carries after referent := by
  cases carries with
  | value registered holds => exact .value (grows.types _ _ registered) (holds.extend grows.code)
  | cell registered holds => exact .cell (grows.types _ _ registered) (holds.extend grows.code)
  | generic => exact .generic

/-- The names that are bound in a builder have the types of the visible names. -/
abbrev FunctionBuilder.Carries (functions : FunctionBuilder) (builder : ModuleBuilder)
    (names : NameTable Referent) : Prop :=
  names.Agrees (fun referent binding => binding.Carries builder referent) functions.names

theorem FunctionBuilder.Carries.grow {functions : FunctionBuilder} {names : NameTable Referent}
    {before after : ModuleBuilder}
    (carries : functions.Carries before names)
    (grows : before.Grows after) :
    functions.Carries after names :=
  carries.imp fun _ _ entry => entry.grow grows

/-! ## Expressions -/

section Expressions

variable {annotations : Annotations} {functions : FunctionBuilder} {names : NameTable Referent}
  {before after : ModuleBuilder}

theorem Literal.type_eq (value : Literal) : value.type = .scalar value.constant.1 := by
  cases value <;> rfl

theorem Build.valueType?_constantDeclaration (scalar : ScalarType) (value : Constant)
    (type result : ResultId) :
    (Build.constantDeclaration scalar value type result).valueType? = some type := by
  unfold Build.constantDeclaration
  split
  · split <;> rfl
  · rfl

/-- The id of a constant has the type id of its scalar. -/
theorem ModuleBuilder.WellFormed.hasValue_constant {builder : ModuleBuilder}
    (wellFormed : builder.WellFormed) {scalar : ScalarType} {value : Constant} {id : ResultId}
    (registered : builder.constantId? scalar value = some id) :
    ∃ typeId, builder.typeId? (.scalar scalar) = some typeId ∧ HasValue builder.code id typeId := by
  obtain ⟨typeId, typed, defined⟩ := wellFormed.constants scalar value id registered
  exact ⟨typeId, typed, _, defined, Build.valueType?_constantDeclaration _ _ _ _⟩

theorem Expression.Emits.typed {expression : Expression} {id : ResultId} {type : ShaderType}
    (emits : expression.Emits annotations functions before id after)
    (hasType : expression.HasType annotations names type)
    (wellFormed : before.WellFormed)
    (typed : before.Typed)
    (carries : functions.Carries before names) :
    after.Typed ∧
      ∃ typeId, after.typeId? type = some typeId ∧ HasValue after.code id typeId := by
  induction emits generalizing type with
  | @literal node location value before after id registers =>
      cases hasType with
      | literal =>
          obtain ⟨reaches, registered⟩ := Build.registerConstant_reaches registers
          rw [value.type_eq]
          exact ⟨typed.registerConstant registers,
            (reaches.wellFormed wellFormed).hasValue_constant registered⟩
  | @value expression id boundType before bound =>
      obtain ⟨referent, resolved, entry⟩ := carries.resolve?_eq_some bound
      cases entry with
      | @value role _ _ typeId registered holds =>
          cases hasType.type_eq resolved
          exact ⟨typed, typeId, registered, holds⟩
  | @load expression cell typeId boundType before after bound registers =>
      obtain ⟨referent, resolved, entry⟩ := carries.resolve?_eq_some bound
      obtain ⟨reaches, registered⟩ := Build.register_reaches boundType registers
      cases entry with
      | @cell role _ _ cellType cellRegistered holds =>
          cases hasType.type_eq resolved
          have sameType : cellType = typeId :=
            Option.some.inj ((reaches.grows.types _ _ cellRegistered).symm.trans registered)
          rw [sameType] at holds
          exact ⟨(typed.register registers).defined (holds.extend reaches.grows.code), typeId,
            registered, _, (reaches.wellFormed wellFormed).definition?_defined rfl, rfl⟩
  | @binary node location operator left right leftId rightId typeId annotatedType operation before
      first second third leftEmits rightEmits annotated selected registers leftHypothesis
      rightHypothesis =>
      cases hasType with
      | binary leftTyped rightTyped numeric annotated' =>
          cases annotated.symm.trans annotated'
          obtain ⟨firstTyped, leftType, leftRegistered, leftHolds⟩ :=
            leftHypothesis leftTyped wellFormed typed carries
          have firstWellFormed := leftEmits.advances.wellFormed wellFormed
          obtain ⟨secondTyped, rightType, rightRegistered, rightHolds⟩ :=
            rightHypothesis rightTyped firstWellFormed firstTyped
              (carries.grow leftEmits.advances.grows)
          obtain ⟨reaches, registered⟩ := Build.register_reaches annotatedType registers
          have leftGrows := rightEmits.advances.grows.trans reaches.grows
          have sameLeft : leftType = typeId :=
            Option.some.inj ((leftGrows.types _ _ leftRegistered).symm.trans registered)
          have sameRight : rightType = typeId :=
            Option.some.inj ((reaches.grows.types _ _ rightRegistered).symm.trans registered)
          rw [sameLeft] at leftHolds
          rw [sameRight] at rightHolds
          have thirdWellFormed :=
            reaches.wellFormed (rightEmits.advances.wellFormed firstWellFormed)
          obtain ⟨scalar, isElement, chosen⟩ := Option.bind_eq_some_iff.mp selected
          obtain ⟨elementId, elementOf⟩ := thirdWellFormed.elementOf registered isElement
          refine ⟨(secondTyped.register registers).defined ?_, typeId, registered, _,
            thirdWellFormed.definition?_defined rfl, rfl⟩
          exact ⟨leftHolds.extend leftGrows.code, rightHolds.extend reaches.grows.code, _,
            elementOf, Operator.suits_of_arithmetic? chosen elementId⟩

theorem Expression.EmitsOptional.typed {value : Option Expression} {id : Option ResultId}
    {type : ShaderType}
    (emits : Expression.EmitsOptional annotations functions value before id after)
    (hasType : ∀ expression ∈ value, expression.HasType annotations names type)
    (wellFormed : before.WellFormed)
    (typed : before.Typed)
    (carries : functions.Carries before names) :
    after.Typed ∧ ∀ valueId ∈ id, ∃ typeId,
      after.typeId? type = Option.some typeId ∧ HasValue after.code valueId typeId := by
  cases emits with
  | none => exact ⟨typed, by simp⟩
  | some emits =>
      obtain ⟨afterTyped, holds⟩ := emits.typed (hasType _ rfl) wellFormed typed carries
      exact ⟨afterTyped, by simpa using holds⟩

end Expressions

/-! ## Statements -/

/-- The types of an emitter: its code is well typed, and its bound names have the types of the
visible names. -/
structure Emitter.Types (emitter : Emitter) (names : NameTable Referent) : Prop where
  wellFormed : emitter.target.WellFormed
  typed : emitter.target.Typed
  carries : emitter.functions.Carries emitter.target names

/-- The end of the code of a builder lies in a function that returns a type. -/
def ModuleBuilder.Returns (builder : ModuleBuilder) (returned : ShaderType) : Prop :=
  ∃ typeId, builder.typeId? returned = some typeId ∧ EndsInside builder.code typeId

theorem ModuleBuilder.Returns.advance {before after : ModuleBuilder} {returned : ShaderType}
    (returns : before.Returns returned)
    (advances : before.Advances after) :
    after.Returns returned := by
  obtain ⟨typeId, registered, inside⟩ := returns
  obtain ⟨new, code, plain⟩ := advances.code
  refine ⟨typeId, advances.grows.types _ _ registered, ?_⟩
  rw [code]
  exact inside.append plain

namespace ModuleBuilder.Typed

variable {builder : ModuleBuilder} {type : ShaderType} {typeId : ResultId}

/-- A new variable has the type id that it is declared with. -/
theorem withCell (typed : builder.Typed) (wellFormed : builder.WellFormed) (name : String)
    (typeId : ResultId) (storage : StorageClass) :
    (builder.withCell name typeId storage).Typed ∧
      HasCell (builder.withCell name typeId storage).code builder.bound typeId := by
  have rule : (Instruction.cell builder.bound typeId storage).WellTyped builder.code := trivial
  refine ⟨(typed.defined rule).addName _ _, storage, ?_⟩
  exact definition?_of_isPrefix (Advances.addName _ _ _).grows.code
    (wellFormed.definition?_defined rfl)

/-- A value can be stored into a variable of its type. -/
theorem storeOptional (typed : builder.Typed) {cell : ResultId} {value : Option ResultId}
    (registered : builder.typeId? type = some typeId)
    (holdsCell : HasCell builder.code cell typeId)
    (holdsValue : ∀ id ∈ value, ∃ valueType, builder.typeId? type = some valueType ∧
      HasValue builder.code id valueType) :
    (builder.storeOptional cell value).Typed := by
  cases value with
  | none => exact typed
  | some id =>
      obtain ⟨valueType, valueRegistered, holds⟩ := holdsValue id rfl
      cases registered.symm.trans valueRegistered
      exact typed.append ⟨typeId, holdsCell, holds⟩

end ModuleBuilder.Typed

section Statements

variable {table : SymbolTable} {returned : ShaderType} {names names' : NameTable Referent}

theorem FunctionBuilder.Carries.bindLocal {functions : FunctionBuilder} {builder : ModuleBuilder}
    (carries : functions.Carries builder names) (name : String) {binding : Binding}
    {referent : Referent}
    (entry : binding.Carries builder referent) :
    (functions.bindLocal name binding).Carries builder (names.bind name referent) := by
  unfold FunctionBuilder.Carries
  rw [FunctionBuilder.names_bindLocal]
  exact carries.bind name entry

theorem Statement.EmitsSimple.types {statement : Statement} {before after : Emitter}
    (emits : statement.EmitsSimple table.annotations before after)
    (typed : statement.TypedSimple table returned names names')
    (types : before.Types names)
    (returns : before.target.Returns returned) :
    after.Types names' := by
  have wellFormed := emits.advances.wellFormed types.wellFormed
  have grows := emits.advances.grows
  cases emits with
  | @declare node location written name value valueId typeId type before first second annotated
      valueEmits registers opened =>
      cases typed with
      | declare annotated' emittable valueTyped =>
          cases annotated.symm.trans annotated'
          obtain ⟨firstTyped, valueHolds⟩ :=
            valueEmits.typed valueTyped types.wellFormed types.typed types.carries
          obtain ⟨reaches, registered⟩ := Build.register_reaches _ registers
          have secondWellFormed :=
            reaches.wellFormed (valueEmits.advances.wellFormed types.wellFormed)
          obtain ⟨cellTyped, holdsCell⟩ :=
            (firstTyped.register registers).withCell secondWellFormed name typeId .function
          have cellGrows := (ModuleBuilder.Advances.withCell second name typeId .function).grows
          have cellRegistered := cellGrows.types _ _ registered
          have storeGrows := (ModuleBuilder.Advances.storeOptional
            (second.withCell name typeId .function) second.bound valueId).grows
          refine ⟨wellFormed, cellTyped.storeOptional cellRegistered holdsCell ?_, ?_⟩
          · intro id present
            obtain ⟨valueType, valueRegistered, holds⟩ := valueHolds id present
            have valueGrows := reaches.grows.trans cellGrows
            exact ⟨valueType, valueGrows.types _ _ valueRegistered, holds.extend valueGrows.code⟩
          · exact (types.carries.grow grows).bindLocal name
              (.cell (storeGrows.types _ _ cellRegistered) (holdsCell.extend storeGrows.code))
  | @assign location target value valueId cell type before first valueEmits bound =>
      cases typed with
      | assign valueTyped targetTyped assignable =>
          obtain ⟨firstTyped, valueType, valueRegistered, holds⟩ :=
            valueEmits.typed valueTyped types.wellFormed types.typed types.carries
          have firstCarries := types.carries.grow valueEmits.advances.grows
          obtain ⟨referent, resolved, entry⟩ := firstCarries.resolve?_eq_some bound
          cases entry with
          | @cell role _ _ cellType registered holdsCell =>
              cases targetTyped.type_eq resolved
              cases registered.symm.trans valueRegistered
              exact ⟨wellFormed, firstTyped.append ⟨_, holdsCell, holds⟩,
                types.carries.grow grows⟩
  | evaluate valueEmits =>
      cases typed with
      | evaluate valueTyped =>
          obtain ⟨firstTyped, -⟩ :=
            valueEmits.typed valueTyped types.wellFormed types.typed types.carries
          exact ⟨wellFormed, firstTyped, types.carries.grow grows⟩
  | @exit location value valueId function before first valueEmits opened inBlock =>
      cases typed with
      | exit valueTyped absent =>
          obtain ⟨firstTyped, valueHolds⟩ :=
            valueEmits.typed valueTyped types.wellFormed types.typed types.carries
          refine ⟨wellFormed, ?_, types.carries.grow grows⟩
          cases valueId with
          | none => exact firstTyped.append trivial
          | some id =>
              obtain ⟨typeId, registered, inside⟩ := returns.advance valueEmits.advances
              obtain ⟨valueType, valueRegistered, holds⟩ := valueHolds id rfl
              cases registered.symm.trans valueRegistered
              exact firstTyped.append ⟨_, inside, holds⟩

theorem Emitter.Types.pushScope {emitter : Emitter} (types : emitter.Types names) :
    Emitter.Types ⟨emitter.target, emitter.functions.pushScope⟩ names.push :=
  ⟨types.wellFormed, types.typed, types.carries.push⟩

/-- Behind a block the names have the types that they have in front of it. -/
theorem Emitter.Types.dropScope {annotations : Annotations} {body : List Statement}
    {before inner : Emitter}
    (types : before.Types names)
    (emits : Statement.EmitsAll annotations body
      ⟨before.target, before.functions.pushScope⟩ inner)
    (typed : inner.target.Typed) :
    Emitter.Types ⟨inner.target, inner.functions.dropScope⟩ names := by
  refine ⟨emits.advances.wellFormed types.wellFormed, typed, ?_⟩
  unfold FunctionBuilder.Carries
  rw [emits.names_dropScope]
  exact types.carries.grow emits.advances.grows

/-- A well-typed body is emitted to well-typed code. -/
theorem Statement.EmitsAll.typed {body : List Statement} {before after : Emitter}
    (emits : Statement.EmitsAll table.annotations body before after)
    (typed : Statement.TypedAll table returned names body)
    (types : before.Types names)
    (returns : before.target.Returns returned) :
    after.target.Typed := by
  induction emits generalizing names with
  | nil => exact types.typed
  | stop terminated => exact types.typed
  | simple running emits restEmits inductionHypothesis =>
      cases typed with
      | simple statementTyped restTyped =>
          exact inductionHypothesis restTyped (emits.types statementTyped types returns)
            (returns.advance emits.advances)
      | block bodyTyped restTyped => cases emits
  | @block location body rest before inner after running bodyEmits restEmits bodyHypothesis
      restHypothesis =>
      cases typed with
      | simple statementTyped restTyped => cases statementTyped
      | block bodyTyped restTyped =>
          have innerTyped := bodyHypothesis bodyTyped types.pushScope returns
          exact restHypothesis restTyped (types.dropScope bodyEmits innerTyped)
            (returns.advance bodyEmits.advances)

end Statements

/-! ## Parameters -/

/-- The type ids of the parameters in the code of a builder. -/
def ModuleBuilder.parameterTypes (builder : ModuleBuilder) : List ResultId :=
  builder.code.filterMap parameterType?

namespace ModuleBuilder

variable {limit : Nat} {builder before after : ModuleBuilder}

theorem parameterTypes_defined {instruction : ResultId → Instruction}
    (none : (instruction builder.bound).parameterType? = none) :
    (builder.defined instruction).parameterTypes = builder.parameterTypes := by
  simp [parameterTypes, defined, none]

theorem parameterTypes_append {instruction : Instruction}
    (none : instruction.parameterType? = none) :
    (builder.append instruction).parameterTypes = builder.parameterTypes := by
  simp [parameterTypes, append, none]

theorem parameterTypes_addName (builder : ModuleBuilder) (id : ResultId) (name : String) :
    (builder.addName id name).parameterTypes = builder.parameterTypes := by
  unfold addName
  split
  · exact parameterTypes_append rfl
  · rfl

theorem Reaches.parameterTypes (reaches : Reaches limit before after) :
    after.parameterTypes = before.parameterTypes := by
  obtain ⟨new, code, declares⟩ := reaches.appends
  have none : new.filterMap parameterType? = [] := by
    rw [List.filterMap_eq_nil_iff]
    intro instruction member
    exact parameterType?_of_isDeclaration (declares instruction member)
  unfold ModuleBuilder.parameterTypes
  rw [code, List.filterMap_append, none, List.append_nil]

theorem parameterTypes_register {type : ShaderType} {id : ResultId}
    (registers : (Build.register type).run before = .ok id after) :
    after.parameterTypes = before.parameterTypes :=
  (Build.register_reaches type registers).1.parameterTypes

theorem parameterTypes_storeOptional (builder : ModuleBuilder) (cell : ResultId)
    (value : Option ResultId) :
    (builder.storeOptional cell value).parameterTypes = builder.parameterTypes := by
  cases value with
  | none => rfl
  | some id => exact parameterTypes_append rfl

theorem parameterTypes_closeBlock (builder : ModuleBuilder) (function : OpenFunction) :
    (builder.closeBlock function).parameterTypes = builder.parameterTypes := by
  unfold closeBlock
  split
  · rfl
  · exact parameterTypes_append rfl

end ModuleBuilder

open ModuleBuilder in
theorem Expression.Emits.parameterTypes {annotations : Annotations} {functions : FunctionBuilder}
    {expression : Expression} {before after : ModuleBuilder} {id : ResultId}
    (emits : expression.Emits annotations functions before id after) :
    after.parameterTypes = before.parameterTypes := by
  induction emits with
  | literal registers => exact (Build.registerConstant_reaches registers).1.parameterTypes
  | value bound => rfl
  | load bound registers =>
      rw [parameterTypes_defined rfl, parameterTypes_register registers]
  | binary leftEmits rightEmits typed selected registers leftHypothesis rightHypothesis =>
      rw [parameterTypes_defined rfl, parameterTypes_register registers, rightHypothesis,
        leftHypothesis]

theorem Expression.EmitsOptional.parameterTypes {annotations : Annotations}
    {functions : FunctionBuilder} {value : Option Expression} {before after : ModuleBuilder}
    {id : Option ResultId}
    (emits : Expression.EmitsOptional annotations functions value before id after) :
    after.parameterTypes = before.parameterTypes := by
  cases emits with
  | none => rfl
  | some emits => exact emits.parameterTypes

open ModuleBuilder in
theorem Statement.EmitsSimple.parameterTypes {annotations : Annotations} {statement : Statement}
    {before after : Emitter}
    (emits : statement.EmitsSimple annotations before after) :
    after.target.parameterTypes = before.target.parameterTypes := by
  cases emits with
  | declare typed valueEmits registers opened =>
      unfold withCell
      rw [parameterTypes_storeOptional, parameterTypes_addName, parameterTypes_defined rfl,
        parameterTypes_register registers, valueEmits.parameterTypes]
  | assign valueEmits bound =>
      rw [parameterTypes_append rfl, valueEmits.parameterTypes]
  | evaluate valueEmits => exact valueEmits.parameterTypes
  | @exit _ _ valueId _ _ _ valueEmits opened inBlock =>
      rw [parameterTypes_append (by cases valueId <;> rfl), valueEmits.parameterTypes]

/-- A body adds no parameter. -/
theorem Statement.EmitsAll.parameterTypes {annotations : Annotations} {body : List Statement}
    {before after : Emitter}
    (emits : Statement.EmitsAll annotations body before after) :
    after.target.parameterTypes = before.target.parameterTypes := by
  induction emits with
  | nil => rfl
  | stop terminated => rfl
  | simple running emits restEmits inductionHypothesis =>
      exact inductionHypothesis.trans emits.parameterTypes
  | block running bodyEmits restEmits bodyHypothesis restHypothesis =>
      exact restHypothesis.trans bodyHypothesis

theorem Method.EmitsBody.parameterTypes {annotations : Annotations}
    {body : Option (List Statement)} {before after : Emitter}
    (emits : Method.EmitsBody annotations body before after) :
    after.target.parameterTypes = before.target.parameterTypes := by
  cases emits with
  | none => rfl
  | some opened statementsEmit =>
      rw [statementsEmit.parameterTypes, ModuleBuilder.parameterTypes_defined rfl]

section Methods

variable {table : SymbolTable} {shader : Shader}

/-- The parameters of a method are added with the ids of their types, and they are bound. -/
theorem Method.EmitsParameters.types {parameters : List Parameter} {before after : Emitter}
    {scope referents : List (String × Referent)}
    (emits : Method.EmitsParameters table.annotations parameters before after)
    (annotated : ∀ parameter ∈ parameters,
      table.annotations.type? parameter.node = some (parameter.type.denoted table))
    (types : before.Types ⟨[scope], referents⟩) :
    after.Types ⟨[(parameters.map (Parameter.referent table)).reverse ++ scope], referents⟩ ∧
      ∃ ids, after.target.parameterTypes = before.target.parameterTypes ++ ids ∧
        List.Forall₂ (fun parameter id =>
          after.target.typeId? (Parameter.type parameter |>.denoted table) = some id)
          parameters ids := by
  induction emits generalizing scope with
  | nil => exact ⟨types, [], by simp, .nil⟩
  | @cons parameter rest type typeId before after first annotatedType registers restEmits
      inductionHypothesis =>
      cases annotatedType.symm.trans (annotated parameter List.mem_cons_self)
      obtain ⟨reaches, registered⟩ := Build.register_reaches _ registers
      have wellFormed := reaches.wellFormed types.wellFormed
      have advances := ModuleBuilder.Advances.withParameter first parameter.name typeId
      have holds : HasValue (first.withParameter parameter.name typeId).code first.bound typeId :=
        ⟨_, definition?_of_isPrefix (ModuleBuilder.Advances.addName _ _ _).grows.code
          (wellFormed.definition?_defined rfl), rfl⟩
      have rule : (Instruction.functionParameter first.bound typeId).WellTyped first.code := trivial
      have next : Emitter.Types ⟨first.withParameter parameter.name typeId,
          before.functions.bindLocal parameter.name
            (.value first.bound (parameter.type.denoted table))⟩
          ⟨[parameter.referent table :: scope], referents⟩ :=
        ⟨advances.wellFormed wellFormed,
          ((types.typed.register registers).defined rule).addName _ _,
          (types.carries.grow (reaches.grows.trans advances.grows)).bindLocal parameter.name
            (.value (advances.grows.types _ _ registered) holds)⟩
      obtain ⟨afterTypes, ids, added, registeredIds⟩ :=
        inductionHypothesis (fun other member => annotated other (List.mem_cons_of_mem _ member))
          next
      refine ⟨by simpa using afterTypes, typeId :: ids, ?_, .cons ?_ registeredIds⟩
      · have here : (first.withParameter parameter.name typeId).parameterTypes =
            before.target.parameterTypes ++ [typeId] := by
          unfold ModuleBuilder.withParameter
          rw [ModuleBuilder.parameterTypes_addName,
            ← ModuleBuilder.parameterTypes_register registers]
          simp [ModuleBuilder.parameterTypes, ModuleBuilder.defined, parameterType?]
        rw [added, here, List.append_assoc]
        rfl
      · exact restEmits.advances.grows.types _ _ (advances.grows.types _ _ registered)

/-- The body block of a function is opened. -/
theorem Emitter.Types.openBlock {emitter : Emitter} {names : NameTable Referent}
    (types : emitter.Types names) (function : OpenFunction) :
    Emitter.Types ⟨emitter.target.defined .label, emitter.functions.openBlock function⟩ names := by
  have advances : emitter.target.Advances (emitter.target.defined .label) := .defined rfl rfl
  have rule : (Instruction.label emitter.target.bound).WellTyped emitter.target.code := trivial
  exact ⟨advances.wellFormed types.wellFormed, types.typed.defined rule,
    types.carries.grow advances.grows⟩

theorem Method.EmitsBody.typed {body : Option (List Statement)} {returned : ShaderType}
    {names : NameTable Referent} {before after : Emitter}
    (emits : Method.EmitsBody table.annotations body before after)
    (typed : ∀ statements ∈ body, Statement.TypedAll table returned names statements)
    (types : before.Types names)
    (returns : before.target.Returns returned) :
    after.target.Typed := by
  cases emits with
  | none => exact types.typed
  | some opened statementsEmit =>
      exact statementsEmit.typed (typed _ rfl) (types.openBlock _)
        (returns.advance (.defined rfl rfl))

theorem ModuleBuilder.Typed.closeBlock {builder : ModuleBuilder} (typed : builder.Typed)
    (function : OpenFunction) :
    (builder.closeBlock function).Typed := by
  unfold ModuleBuilder.closeBlock
  split
  · exact typed
  · exact typed.append trivial

theorem ModuleBuilder.Typed.withFunction {builder : ModuleBuilder} (typed : builder.Typed)
    (name : String) (entryPoint : Option EntryPoint) (returned functionType : ResultId) :
    (builder.withFunction name entryPoint returned functionType).Typed := by
  refine throughout_append.mpr ⟨typed, fun inner instruction rest split => ?_⟩
  have member : instruction ∈ entryPointCode builder.bound name entryPoint ++
      [.uncontrolled builder.bound returned functionType] := by simp [split]
  cases entryPoint with
  | none =>
      rw [List.mem_singleton.mp member]
      trivial
  | some stage =>
      rcases List.mem_cons.mp member with rfl | later
      · trivial
      · rw [List.mem_singleton.mp later]
        trivial

theorem ModuleBuilder.withFunction_code (builder : ModuleBuilder) (name : String)
    (entryPoint : Option EntryPoint) (returned functionType : ResultId) :
    (builder.withFunction name entryPoint returned functionType).code =
      (builder.code ++ entryPointCode builder.bound name entryPoint) ++
        [.uncontrolled builder.bound returned functionType] :=
  (List.append_assoc _ _ _).symm

theorem WellSignedCode.entryPoint {code : List Instruction} (signed : WellSignedCode code)
    (id : ResultId) (name : String) (entryPoint : Option EntryPoint) :
    WellSignedCode (code ++ entryPointCode id name entryPoint) := by
  refine signed.append fun instruction member before after => ?_
  cases entryPoint with
  | none => simp [entryPointCode] at member
  | some stage =>
      rw [List.mem_singleton.mp member]
      trivial

/-- Types that are registered have one list of ids. -/
theorem ModuleBuilder.typeIds_unique {builder : ModuleBuilder} {types : List ShaderType}
    {ids ids' : List ResultId}
    (registered : List.Forall₂ (fun type id => builder.typeId? type = some id) types ids)
    (registered' : List.Forall₂ (fun type id => builder.typeId? type = some id) types ids') :
    ids = ids' := by
  induction registered generalizing ids' with
  | nil =>
      cases registered'
      rfl
  | cons head tail inductionHypothesis =>
      cases registered' with
      | cons head' tail' =>
          cases head.symm.trans head'
          rw [inductionHypothesis tail']

/-- A registered function type is declared with the ids of its types, which stay the ids of those
types. -/
theorem ModuleBuilder.WellFormed.functionType {builder later : ModuleBuilder}
    {returned : ShaderType} {parameters : List ShaderType} {id returnedId : ResultId}
    {parameterIds : List ResultId}
    (wellFormed : builder.WellFormed)
    (registered : builder.typeId? (.function returned parameters) = some id)
    (returnedRegistered : builder.typeId? returned = some returnedId)
    (grows : builder.Grows later)
    (parametersRegistered : List.Forall₂ (fun type typeId => later.typeId? type = some typeId)
      parameters parameterIds) :
    definition? builder.code id = some (.typeFunction id returnedId parameterIds) := by
  rcases wellFormed.types _ _ registered with ⟨form, written, defined⟩ | ⟨comparison, -⟩
  · cases written with
    | function returnedDeclared parametersDeclared =>
        cases returnedDeclared.symm.trans returnedRegistered
        have stillRegistered := parametersDeclared.imp fun _ _ earlier =>
          grows.types _ _ earlier
        rw [← ModuleBuilder.typeIds_unique stillRegistered parametersRegistered]
        exact defined
    | image isImage sampledId => simp [ShaderType.image?] at isImage
  · cases comparison

/-- A function is started in an empty scope behind the registration of its types. -/
theorem Emitter.Types.start {emitter : Emitter} {referents : List (String × Referent)}
    {second : ModuleBuilder} {returned : ShaderType} {returnedId : ResultId}
    (types : emitter.Types ⟨[], referents⟩)
    (declared : emitter.target.Advances second)
    (typed : second.Typed)
    (registered : second.typeId? returned = some returnedId)
    (name : String) (entryPoint : Option EntryPoint) (functionType : ResultId)
    (function : OpenFunction) :
    Emitter.Types ⟨second.startFunction name entryPoint returnedId functionType,
        emitter.functions.start function⟩ ⟨[[]], referents⟩ ∧
      (second.startFunction name entryPoint returnedId functionType).Returns returned := by
  have grows := second.grows_startFunction name entryPoint returnedId functionType
  have inside : (second.withFunction name entryPoint returnedId functionType).Returns returned :=
    ⟨returnedId, registered, _, _, _, _, [], second.withFunction_code _ _ _ _, by simp⟩
  refine ⟨⟨?_, ?_, ?_⟩, inside.advance (.addName _ _ _)⟩
  · exact (declared.wellFormed types.wellFormed).withFunction.addName _ _
  · exact (typed.withFunction name entryPoint returnedId functionType).addName _ _
  · exact types.carries.push.imp fun _ _ entry => entry.grow (declared.grows.trans grows)

/-- A well-typed method is emitted to well-typed code, and its function has the type that it is
declared with. -/
theorem Method.Emits.typed {method : Method} {before after : Emitter}
    (emits : method.Emits table.annotations before after)
    (typed : method.Typed shader table)
    (types : before.Types ⟨[], shader.referents table⟩)
    (signed : WellSignedCode before.target.code) :
    after.target.Typed ∧ WellSignedCode after.target.code := by
  cases emits with
  | @mk info returned parameters functionType returnedId first second function _ middle last
      checked annotated closed registersType registersReturned parametersEmit bodyEmits opened
      closable =>
      cases annotated.symm.trans typed.signature
      obtain ⟨typeReaches, typeRegistered⟩ := Build.register_reaches _ registersType
      obtain ⟨returnedReaches, returnedRegistered⟩ := Build.register_reaches _ registersReturned
      have declared : before.target.Advances second :=
        (ModuleBuilder.Advances.register registersType).trans (.register registersReturned)
      have wellFormed := declared.wellFormed types.wellFormed
      have functionRegistered := returnedReaches.grows.types _ _ typeRegistered
      have secondTyped := (types.typed.register registersType).register registersReturned
      obtain ⟨startTypes, startReturns⟩ := types.start declared secondTyped returnedRegistered
        method.name info.entryPoint functionType _
      obtain ⟨middleTypes, ids, added, idsRegistered⟩ := parametersEmit.types
        (fun parameter member => (typed.parameters parameter member).1) startTypes
      rw [List.append_nil] at middleTypes
      have lastTyped := bodyEmits.typed (fun body present => (typed.body body present).1)
        middleTypes (startReturns.advance parametersEmit.advances)
      refine ⟨(lastTyped.closeBlock function).append trivial, ?_⟩
      -- between the start and the end there are the parameters that the type is declared with
      have inside := Method.advances_inside parametersEmit bodyEmits function
      obtain ⟨inner, insideCode, innerPlain⟩ := inside.code
      have innerTypes : inner.filterMap parameterType? = ids := by
        have both : (last.target.closeBlock function).parameterTypes =
            (second.withFunction method.name info.entryPoint returnedId
              functionType).parameterTypes ++ ids := by
          rw [ModuleBuilder.parameterTypes_closeBlock, bodyEmits.parameterTypes, added]
          exact congrArg (· ++ ids) (ModuleBuilder.parameterTypes_addName _ _ _)
        unfold ModuleBuilder.parameterTypes at both
        rw [insideCode, List.filterMap_append] at both
        exact List.append_cancel_left both
      have startGrows := second.grows_startFunction method.name info.entryPoint returnedId
        functionType
      have defined := wellFormed.functionType functionRegistered returnedRegistered
        (startGrows.trans parametersEmit.advances.grows)
        (List.forall₂_map_left_iff.mpr idsRegistered)
      rw [← innerTypes] at defined
      change WellSignedCode ((last.target.closeBlock function).code ++ [.functionEnd])
      rw [insideCode, ModuleBuilder.withFunction_code, List.append_assoc, List.append_assoc]
      exact ((signed.advance declared).entryPoint _ _ _).append_function innerPlain
        (definition?_append defined _)

/-- A method leaves the names of the shader with their types. -/
theorem Method.Emits.types {method : Method} {before after : Emitter}
    {referents : List (String × Referent)}
    (emits : method.Emits table.annotations before after)
    (types : before.Types ⟨[], referents⟩)
    (typed : after.target.Typed) :
    after.Types ⟨[], referents⟩ := by
  obtain ⟨grows, wellFormed, -⟩ := emits.adds
  have sameNames := emits.names (types.carries.scopes_eq_nil rfl)
  refine ⟨wellFormed types.wellFormed, typed, ?_⟩
  unfold FunctionBuilder.Carries
  rw [sameNames]
  exact types.carries.grow grows

end Methods

/-! ## Other elements and shaders -/

/-- What holds of the code of an emitter between two elements of a shader. -/
structure Emitter.TypesShader (emitter : Emitter) (referents : List (String × Referent)) :
    Prop where
  types : emitter.Types ⟨[], referents⟩
  signed : WellSignedCode emitter.target.code

theorem Emitter.typesShader_initial (options : CompileOptions) :
    (Emitter.initial options).TypesShader [] where
  types := ⟨ModuleBuilder.wellFormed_initial options, throughout_nil _, ⟨.nil, .nil⟩⟩
  signed := by
    intro before instruction after split
    simp [Emitter.initial, ModuleBuilder.initial] at split

section Elements

variable {table : SymbolTable} {shader : Shader} {before after : Emitter}
  {referents : List (String × Referent)}

/-- A name of the shader is bound behind declarations and instructions outside of functions. -/
theorem Emitter.TypesShader.bindMember {target : ModuleBuilder}
    (types : before.TypesShader referents)
    (advances : before.target.Advances target)
    (typed : target.Typed) (name : String) {binding : Binding} {referent : Referent}
    (entry : binding.Carries target referent) :
    Emitter.TypesShader ⟨target, before.functions.bindMember name binding⟩
      ((name, referent) :: referents) where
  types := by
    have carried := types.types.carries.grow advances.grows
    exact ⟨advances.wellFormed types.types.wellFormed, typed, carried.scopes,
      .cons ⟨rfl, entry⟩ carried.shader⟩
  signed := types.signed.advance advances

theorem Generic.typesShader_of_emit {generic : Generic}
    (run : (generic.emit table.annotations).run before = .ok () after)
    (annotated : table.annotations.type? generic.node = some (generic.type.denoted table))
    (types : before.TypesShader referents) :
    after.TypesShader (generic.referent table :: referents) := by
  obtain ⟨type, annotated', rfl⟩ := Generic.emit_eq_ok run
  cases annotated.symm.trans annotated'
  exact types.bindMember (.refl _) types.types.typed generic.name .generic

theorem Struct.typesShader_of_emit {struct : Struct}
    (run : (struct.emit table.annotations).run before = .ok () after)
    (types : before.TypesShader referents) :
    after.TypesShader referents := by
  have advances := Struct.advances_of_emit run
  obtain ⟨type, typeId, target, -, registers, rfl⟩ := Struct.emit_eq_ok run
  exact ⟨⟨advances.wellFormed types.types.wellFormed, types.types.typed.register registers,
    types.types.carries.grow advances.grows⟩, types.signed.advance advances⟩

theorem Member.typesShader_of_emit {member : Member}
    (run : (member.emit table.annotations).run before = .ok () after)
    (typed : member.Typed table)
    (types : before.TypesShader referents) :
    after.TypesShader (member.referent table :: referents) := by
  have advances := Member.advances_of_emit run
  obtain ⟨type, typeId, valueId, first, second, annotated, registers, valueEmits, rfl⟩ :=
    Member.emit_eq_ok run
  cases typed.annotated.symm.trans annotated
  obtain ⟨reaches, registered⟩ := Build.register_reaches _ registers
  have wellFormed := reaches.wellFormed types.types.wellFormed
  have cellAdvances := ModuleBuilder.Advances.withMember first member.name member.semantic typeId
  have rule : (Instruction.cell first.bound typeId .function).WellTyped first.code := trivial
  have cellTyped : (first.withMember member.name member.semantic typeId).Typed :=
    (((types.types.typed.register registers).defined rule).addOptionalSemantic _ _).addName _ _
  have holdsCell : HasCell (first.withMember member.name member.semantic typeId).code
      first.bound typeId :=
    ⟨.function, definition?_of_isPrefix ((ModuleBuilder.Advances.addOptionalSemantic _ _ _).trans
      (.addName _ _ _)).grows.code (wellFormed.definition?_defined rfl)⟩
  have valueTyped : ∀ expression ∈ member.value, expression.HasType table.annotations
      ⟨[], referents⟩ (member.type.denoted table) := by
    intro expression present
    obtain ⟨node, location, literal, rfl, sameType⟩ := typed.value expression present
    rw [← sameType]
    exact .literal
  obtain ⟨secondTyped, valueHolds⟩ := valueEmits.typed valueTyped
    (cellAdvances.wellFormed wellFormed) cellTyped
    (types.types.carries.grow (reaches.grows.trans cellAdvances.grows))
  have valueGrows := valueEmits.advances.grows
  have secondRegistered := valueGrows.types _ _ (cellAdvances.grows.types _ _ registered)
  have secondHolds := holdsCell.extend valueGrows.code
  have storeGrows := (ModuleBuilder.Advances.storeOptional second first.bound valueId).grows
  exact types.bindMember advances
    (secondTyped.storeOptional secondRegistered secondHolds valueHolds) member.name
    (.cell (storeGrows.types _ _ secondRegistered) (secondHolds.extend storeGrows.code))

theorem Sampler.typesShader_of_emit {sampler : Sampler}
    (run : (sampler.emit table.annotations).run before = .ok () after)
    (annotated : table.annotations.type? sampler.node = some sampler.kind.type)
    (types : before.TypesShader referents) :
    after.TypesShader (sampler.referent :: referents) := by
  have advances := Sampler.advances_of_emit run
  obtain ⟨type, typeId, first, annotated', registers, rfl⟩ := Sampler.emit_eq_ok run
  cases annotated.symm.trans annotated'
  obtain ⟨reaches, registered⟩ := Build.register_reaches _ registers
  obtain ⟨cellTyped, holdsCell⟩ := (types.types.typed.register registers).withCell
    (reaches.wellFormed types.types.wellFormed) sampler.name typeId .uniformConstant
  have cellGrows :=
    (ModuleBuilder.Advances.withCell first sampler.name typeId .uniformConstant).grows
  exact types.bindMember advances cellTyped sampler.name
    (.cell (cellGrows.types _ _ registered) holdsCell)

/-- The elements in front of the methods are emitted to well-typed code. -/
theorem Shader.typesShader_of_variables {first second third : Emitter}
    (generics : (shader.generics.forM fun generic => generic.emit table.annotations).run before =
      .ok () first)
    (structs : (shader.structs.forM fun struct => struct.emit table.annotations).run first =
      .ok () second)
    (members : (shader.members.forM fun member => member.emit table.annotations).run second =
      .ok () third)
    (samplers : (shader.samplers.forM fun sampler => sampler.emit table.annotations).run third =
      .ok () after)
    (typed : shader.Typed table)
    (types : before.TypesShader []) :
    after.TypesShader (shader.referents table) := by
  have afterGenerics : first.TypesShader
      (shader.generics.map (Generic.referent table)).reverse := by
    refine Run.forM_invariant (fun done (emitter : Emitter) => emitter.TypesShader
      (done.map (Generic.referent table)).reverse) generics types ?_
    intro done generic rest split state state' earlier emits
    have next := Generic.typesShader_of_emit emits
      (typed.generics generic (by simp [split])) earlier
    simpa using next
  have afterStructs : second.TypesShader
      (shader.generics.map (Generic.referent table)).reverse := by
    refine Run.forM_invariant (fun _ (emitter : Emitter) => emitter.TypesShader _) structs
      afterGenerics ?_
    intro done struct rest split state state' earlier emits
    exact Struct.typesShader_of_emit emits earlier
  have afterMembers : third.TypesShader ((shader.members.map (Member.referent table)).reverse ++
      (shader.generics.map (Generic.referent table)).reverse) := by
    refine Run.forM_invariant (fun done (emitter : Emitter) => emitter.TypesShader
      ((done.map (Member.referent table)).reverse ++ _)) members afterStructs ?_
    intro done member rest split state state' earlier emits
    have next := Member.typesShader_of_emit emits
      (typed.members member (by simp [split])) earlier
    simpa using next
  unfold Shader.referents
  rw [List.reverse_append, List.reverse_append]
  refine Run.forM_invariant (fun done (emitter : Emitter) => emitter.TypesShader
    ((done.map Sampler.referent).reverse ++ _)) samplers afterMembers ?_
  intro done sampler rest split state state' earlier emits
  have next := Sampler.typesShader_of_emit emits
    (typed.samplers sampler (by simp [split])) earlier
  simpa using next

theorem Method.typesShader_of_emit {method : Method}
    (emits : method.Emits table.annotations before after)
    (typed : method.Typed shader table)
    (types : before.TypesShader (shader.referents table)) :
    after.TypesShader (shader.referents table) := by
  obtain ⟨afterTyped, afterSigned⟩ := emits.typed typed types.types types.signed
  exact ⟨emits.types types.types afterTyped, afterSigned⟩

/-- A well-typed shader is emitted to well-typed code. -/
theorem Shader.typesShader_of_emit
    (run : (shader.emit table.annotations).run before = .ok () after)
    (typed : shader.Typed table)
    (types : before.TypesShader []) :
    after.TypesShader (shader.referents table) := by
  obtain ⟨first, second, third, fourth, generics, structs, members, samplers, methods⟩ :=
    Shader.emit_eq_ok run
  refine Run.forM_invariant (fun _ (emitter : Emitter) => emitter.TypesShader _) methods
    (Shader.typesShader_of_variables generics structs members samplers typed types) ?_
  intro done method rest split state state' earlier emits
  exact Method.typesShader_of_emit (Method.emits_of_emit emits)
    (typed.methods method (by simp [split])) earlier

end Elements

/-! ## Compiled modules -/

/-- The code of a compiled module is well typed. -/
theorem Shader.compile_wellTyped {shader : Shader} {options : CompileOptions}
    {compiled : CompiledShader}
    (distinct : shader.nodes.Nodup)
    (compiles : shader.compile options = .ok compiled) :
    WellTypedCode compiled.shaderModule.instructions := by
  obtain ⟨clean, emitter, emits, rfl⟩ := Shader.compile_eq_ok compiles
  have types := Shader.typesShader_of_emit emits (Shader.typed_of_clean distinct clean)
    (Emitter.typesShader_initial options)
  exact ⟨types.types.typed, types.signed⟩

theorem Shader.scaling_wellTyped :
    Shader.scaling.nodes.Nodup ∧ ∃ compiled, Shader.scaling.compile .allNames = .ok compiled ∧
      WellTypedCode compiled.shaderModule.instructions := by
  have distinct : Shader.scaling.nodes.Nodup := by decide +kernel
  obtain ⟨compiled, compiles⟩ := Shader.scaling_compiles
  exact ⟨distinct, compiled, compiles, Shader.compile_wellTyped distinct compiles⟩

end ShaderLang
