import ShaderLang.Proofs.EmissionGrowth

/-!
# Well-typed code

Typing rules for emitted instructions.  A value has the type id that the instruction that makes it
names, and a variable has the type id that it is declared with.  The rules compare type ids, and
only the choice of an arithmetic operation looks at how a type is declared.
-/

namespace ShaderLang

/-! ## Types of ids -/

/-- Whether an arithmetic operation works on floating point numbers. -/
def Arithmetic.isFloat : Arithmetic → Bool
  | floatAdd | floatSub | floatMul | floatDiv => true
  | intAdd | intSub | intMul | signedDiv | unsignedDiv => false

namespace Instruction

/-- The type id of the value that an instruction makes: a constant, a load, an operation or a
parameter. -/
def valueType? : Instruction → Option ResultId
  | constant _ type _ | constantTrue _ type | constantFalse _ type => some type
  | load _ type _ | arithmetic _ _ type _ _ | functionParameter _ type => some type
  | _ => none

/-- The type id of a parameter. -/
def parameterType? : Instruction → Option ResultId
  | functionParameter _ type => some type
  | _ => none

/-- Whether an instruction declares a scalar type. -/
def declaresScalar : Instruction → Bool
  | typeVoid _ | typeBool _ | typeInt .. | typeFloat .. => true
  | _ => false

/-- An id is the value of a constant, a load, an operation or a parameter with the given type id. -/
def HasValue (code : List Instruction) (id type : ResultId) : Prop :=
  ∃ definition, definition? code id = some definition ∧ definition.valueType? = some type

/-- An id is a variable with the given type id. -/
def HasCell (code : List Instruction) (id type : ResultId) : Prop :=
  ∃ storage, definition? code id = some (.cell id type storage)

/-- The declaration of the scalar that a scalar, vector or matrix type is made of. -/
inductive ElementOf (code : List Instruction) : ResultId → Instruction → Prop
  | scalar {type : ResultId} {declaration : Instruction}
      (defined : definition? code type = some declaration)
      (isScalar : declaration.declaresScalar = true) :
      ElementOf code type declaration
  | vector {type component : ResultId} {count : Nat} {declaration : Instruction}
      (defined : definition? code type = some (.typeVector type component count))
      (element : ElementOf code component declaration) :
      ElementOf code type declaration
  | matrix {type column : ResultId} {count : Nat} {declaration : Instruction}
      (defined : definition? code type = some (.typeMatrix type column count))
      (element : ElementOf code column declaration) :
      ElementOf code type declaration

end Instruction

/-- An operation is the right one for values that are made of the declared scalar. -/
structure Arithmetic.Suits (operation : Arithmetic) (element : Instruction) : Prop where
  float : operation.isFloat = true ↔ ∃ result width, element = .typeFloat result width
  unsigned : operation = .unsignedDiv → ∃ result width, element = .typeInt result width false
  signed : operation = .signedDiv → ∃ result width, element = .typeInt result width true

/-! ## Typing rules -/

namespace Instruction

/-- Some code ends inside a function with the given return type id. -/
def EndsInside (code : List Instruction) (returned : ResultId) : Prop :=
  ∃ outer id control functionType inner,
    code = outer ++ .function id returned control functionType :: inner ∧
      ∀ instruction ∈ inner, instruction.isBoundary = false

/-- An instruction is well typed behind the instructions in front of it. -/
def WellTyped (before : List Instruction) : Instruction → Prop
  | load _ type pointer => HasCell before pointer type
  | store pointer object => ∃ type, HasCell before pointer type ∧ HasValue before object type
  | arithmetic operation _ type left right =>
      HasValue before left type ∧ HasValue before right type ∧
        ∃ element, ElementOf before type element ∧ operation.Suits element
  | returnValue value => ∃ returned, EndsInside before returned ∧ HasValue before value returned
  | _ => True

/-- The start of a function is well typed in front of the instructions behind it: its type is
declared with its return type and with the types of its parameters in order. -/
def WellSigned (before after : List Instruction) : Instruction → Prop
  | function _ returned _ functionType =>
      ∃ inner rest, after = inner ++ .functionEnd :: rest ∧
        (∀ instruction ∈ inner, instruction.isBoundary = false) ∧
        definition? before functionType =
          some (.typeFunction functionType returned (inner.filterMap parameterType?))
  | _ => True

end Instruction

/-- The functions of some code have the types that they are declared with. -/
def WellSignedCode (code : List Instruction) : Prop :=
  ∀ before instruction after, code = before ++ instruction :: after →
    instruction.WellSigned before after

/-- Every instruction is well typed, and every function has the type that it is declared with. -/
structure WellTypedCode (code : List Instruction) : Prop where
  instructions : Throughout (fun before instruction => instruction.WellTyped before) code
  functions : WellSignedCode code

/-! ## Longer code -/

namespace Instruction

variable {code whole : List Instruction} {id type : ResultId} {declaration : Instruction}

theorem HasValue.extend (holds : HasValue code id type) (starts : code <+: whole) :
    HasValue whole id type := by
  obtain ⟨definition, defined, typed⟩ := holds
  exact ⟨definition, definition?_of_isPrefix starts defined, typed⟩

theorem HasCell.extend (holds : HasCell code id type) (starts : code <+: whole) :
    HasCell whole id type := by
  obtain ⟨storage, defined⟩ := holds
  exact ⟨storage, definition?_of_isPrefix starts defined⟩

theorem EndsInside.append {new : List Instruction} (inside : EndsInside code type)
    (plain : ∀ instruction ∈ new, instruction.isBoundary = false) :
    EndsInside (code ++ new) type := by
  obtain ⟨outer, function, control, functionType, inner, rfl, innerPlain⟩ := inside
  refine ⟨outer, function, control, functionType, inner ++ new, by simp, ?_⟩
  intro instruction member
  rcases List.mem_append.mp member with inInner | inNew
  · exact innerPlain instruction inInner
  · exact plain instruction inNew

theorem wellTyped_of_isDeclaration {instruction : Instruction}
    (declares : instruction.isDeclaration = true) (before : List Instruction) :
    instruction.WellTyped before := by
  cases instruction <;> trivial

theorem parameterType?_of_isDeclaration {instruction : Instruction}
    (declares : instruction.isDeclaration = true) :
    instruction.parameterType? = none := by
  cases instruction <;> cases declares <;> rfl

end Instruction

open Instruction

theorem Instruction.WellSigned.append {before after : List Instruction}
    {instruction : Instruction}
    (signed : instruction.WellSigned before after) (more : List Instruction) :
    instruction.WellSigned before (after ++ more) := by
  cases instruction with
  | function id returned control functionType =>
      obtain ⟨inner, rest, rfl, plain, defined⟩ := signed
      exact ⟨inner, rest ++ more, by simp, plain, defined⟩
  | _ => trivial

theorem Instruction.wellSigned_of_plain {instruction : Instruction}
    (plain : instruction.isBoundary = false) (before after : List Instruction) :
    instruction.WellSigned before after := by
  cases instruction <;> trivial

namespace WellSignedCode

variable {code : List Instruction}

/-- Instructions that start no function can be added. -/
theorem append {new : List Instruction} (signed : WellSignedCode code)
    (always : ∀ instruction ∈ new, ∀ before after, instruction.WellSigned before after) :
    WellSignedCode (code ++ new) := by
  intro before instruction after split
  rcases append_eq_append_cons split with ⟨rest, codeEq, rfl⟩ | ⟨inner, rfl, newEq⟩
  · exact (signed before instruction rest codeEq).append new
  · exact always instruction (by simp [newEq]) _ _

theorem advance {before after : ModuleBuilder} (signed : WellSignedCode before.code)
    (advances : before.Advances after) :
    WellSignedCode after.code := by
  obtain ⟨new, code, plain⟩ := advances.code
  rw [code]
  exact signed.append fun instruction member => wellSigned_of_plain (plain instruction member)

/-- A function that is well signed can be added. -/
theorem append_function {id returned functionType : ResultId} {control : FunctionControl}
    {inner : List Instruction} (signed : WellSignedCode code)
    (plain : ∀ instruction ∈ inner, instruction.isBoundary = false)
    (defined : definition? code functionType =
      some (.typeFunction functionType returned (inner.filterMap parameterType?))) :
    WellSignedCode
      (code ++ .function id returned control functionType :: (inner ++ [.functionEnd])) := by
  intro before instruction after split
  rcases append_eq_append_cons split with ⟨rest, codeEq, rfl⟩ | ⟨front, rfl, newEq⟩
  · exact (signed before instruction rest codeEq).append _
  · cases front with
    | nil =>
        rw [List.nil_append, List.cons.injEq] at newEq
        obtain ⟨rfl, rfl⟩ := newEq
        exact ⟨inner, [], rfl, plain, by rw [List.append_nil]; exact defined⟩
    | cons head others =>
        rw [List.cons_append, List.cons.injEq] at newEq
        have member : instruction ∈ inner ++ [.functionEnd] := by simp [newEq.2]
        rcases List.mem_append.mp member with inInner | isEnd
        · exact wellSigned_of_plain (plain instruction inInner) _ _
        · rw [List.mem_singleton.mp isEnd]
          trivial

end WellSignedCode

/-! ## Steps of building -/

namespace ModuleBuilder

variable {limit : Nat} {builder before after : ModuleBuilder}

/-- Every instruction of a builder is well typed. -/
def Typed (builder : ModuleBuilder) : Prop :=
  Throughout (fun before instruction => instruction.WellTyped before) builder.code

namespace Typed

theorem append (typed : builder.Typed) {instruction : Instruction}
    (rule : instruction.WellTyped builder.code) :
    (builder.append instruction).Typed :=
  throughout_append_singleton.mpr ⟨typed, rule⟩

theorem defined (typed : builder.Typed) {instruction : ResultId → Instruction}
    (rule : (instruction builder.bound).WellTyped builder.code) :
    (builder.defined instruction).Typed :=
  throughout_append_singleton.mpr ⟨typed, rule⟩

/-- Declarations are well typed behind every code. -/
theorem declarations (typed : before.Typed) {new : List Instruction}
    (code : after.code = before.code ++ new)
    (declares : ∀ instruction ∈ new, instruction.isDeclaration = true) :
    after.Typed := by
  unfold Typed
  rw [code]
  refine throughout_append.mpr ⟨typed, fun inner instruction rest split => ?_⟩
  exact wellTyped_of_isDeclaration (declares instruction (by simp [split])) _

theorem reaches (typed : before.Typed) (reaches : Reaches limit before after) :
    after.Typed := by
  obtain ⟨new, code, declares⟩ := reaches.appends
  exact typed.declarations code declares

theorem register (typed : before.Typed) {type : ShaderType} {id : ResultId}
    (registers : (Build.register type).run before = .ok id after) :
    after.Typed :=
  typed.reaches (Build.register_reaches type registers).1

theorem registerConstant (typed : before.Typed) {scalar : ScalarType} {value : Constant}
    {id : ResultId}
    (registers : (Build.registerConstant scalar value).run before = .ok id after) :
    after.Typed :=
  typed.reaches (Build.registerConstant_reaches registers).1

theorem addName (typed : builder.Typed) (id : ResultId) (name : String) :
    (builder.addName id name).Typed := by
  unfold ModuleBuilder.addName
  split
  · exact typed.append trivial
  · exact typed

theorem addOptionalSemantic (typed : builder.Typed) (id : ResultId) (semantic : Option String) :
    (builder.addOptionalSemantic id semantic).Typed := by
  cases semantic with
  | none => exact typed
  | some text => exact typed.append trivial

end Typed

/-! ## Declarations of registered types -/

theorem WellFormed.definition?_scalar (wellFormed : builder.WellFormed) {scalar : ScalarType}
    {id : ResultId} (registered : builder.typeId? (.scalar scalar) = some id) :
    definition? builder.code id = some (Build.scalarDeclaration id scalar) := by
  rcases wellFormed.types _ _ registered with ⟨form, written, defined⟩ | ⟨comparison, -⟩
  · cases written with
    | scalar => exact defined
    | image isImage sampledId => simp [ShaderType.image?] at isImage
  · cases comparison

theorem WellFormed.definition?_vector (wellFormed : builder.WellFormed) {vector : VectorType}
    {id : ResultId} (registered : builder.typeId? (.vector vector) = some id) :
    ∃ component, builder.typeId? (.scalar vector.base) = some component ∧
      definition? builder.code id = some (.typeVector id component vector.size) := by
  rcases wellFormed.types _ _ registered with ⟨form, written, defined⟩ | ⟨comparison, -⟩
  · cases written with
    | vector componentId => exact ⟨_, componentId, defined⟩
    | image isImage sampledId => simp [ShaderType.image?] at isImage
  · cases comparison

theorem WellFormed.definition?_matrix (wellFormed : builder.WellFormed) {matrix : MatrixType}
    {id : ResultId} (registered : builder.typeId? (.matrix matrix) = some id) :
    ∃ column, builder.typeId? (.vector matrix.column) = some column ∧
      definition? builder.code id = some (.typeMatrix id column matrix.columns) := by
  rcases wellFormed.types _ _ registered with ⟨form, written, defined⟩ | ⟨comparison, -⟩
  · cases written with
    | matrix columnId => exact ⟨_, columnId, defined⟩
    | image isImage sampledId => simp [ShaderType.image?] at isImage
  · cases comparison

theorem WellFormed.elementOf_scalar (wellFormed : builder.WellFormed) {scalar : ScalarType}
    {id : ResultId} (registered : builder.typeId? (.scalar scalar) = some id) :
    ElementOf builder.code id (Build.scalarDeclaration id scalar) :=
  .scalar (wellFormed.definition?_scalar registered) (by cases scalar <;> rfl)

theorem WellFormed.elementOf_vector (wellFormed : builder.WellFormed) {vector : VectorType}
    {id : ResultId} (registered : builder.typeId? (.vector vector) = some id) :
    ∃ element, ElementOf builder.code id (Build.scalarDeclaration element vector.base) := by
  obtain ⟨component, componentId, defined⟩ := wellFormed.definition?_vector registered
  exact ⟨component, .vector defined (wellFormed.elementOf_scalar componentId)⟩

/-- The element of a registered type is the scalar that the type is made of. -/
theorem WellFormed.elementOf (wellFormed : builder.WellFormed) {type : ShaderType}
    {id : ResultId} {scalar : ScalarType}
    (registered : builder.typeId? type = some id)
    (element : type.element? = some scalar) :
    ∃ elementId, ElementOf builder.code id (Build.scalarDeclaration elementId scalar) := by
  cases type with
  | scalar base =>
      cases element
      exact ⟨id, wellFormed.elementOf_scalar registered⟩
  | vector shape =>
      cases element
      exact wellFormed.elementOf_vector registered
  | matrix shape =>
      cases element
      obtain ⟨column, columnId, defined⟩ := wellFormed.definition?_matrix registered
      obtain ⟨elementId, elementOf⟩ := wellFormed.elementOf_vector columnId
      exact ⟨elementId, .matrix defined elementOf⟩
  | _ => cases element

end ModuleBuilder

/-- The operation of an operator suits the scalar that it is chosen for. -/
theorem Operator.suits_of_arithmetic? {operator : Operator} {scalar : ScalarType}
    {operation : Arithmetic}
    (selected : operator.arithmetic? scalar = some operation) (id : ResultId) :
    operation.Suits (Build.scalarDeclaration id scalar) := by
  cases scalar <;> cases operator <;> cases selected <;>
    constructor <;> simp [Arithmetic.isFloat, Build.scalarDeclaration]

end ShaderLang
