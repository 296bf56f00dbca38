import ShaderLang.Proofs.BuilderInvariant
import ShaderLang.Proofs.Evaluation
import ShaderLang.ShaderModule.Basic

/-!
# The execution of functions

A machine that executes the instructions of one function.  A constant stands for its literal
wherever in the module it is declared, and the type of an operation is read from the declarations of
the module.  Everything else that is declared does nothing.
-/

namespace ShaderLang

variable {Value : Type}

/-! ## What declarations say -/

/-- The operator of an arithmetic operation. -/
def Arithmetic.operator : Arithmetic → Operator
  | intAdd | floatAdd => .add
  | intSub | floatSub => .sub
  | intMul | floatMul => .mul
  | signedDiv | unsignedDiv | floatDiv => .div

namespace Instruction

/-- The literal that a constant stands for. -/
def literal? : Instruction → Option Literal
  | constantTrue .. => some (.bool true)
  | constantFalse .. => some (.bool false)
  | constant _ _ (.int value) => some (.int value)
  | constant _ _ (.float value) => some (.float value)
  | _ => none

/-- The scalar type that an instruction declares. -/
def scalar? : Instruction → Option ScalarType
  | typeVoid _ => some .void
  | typeBool _ => some .bool
  | typeInt _ 32 true => some .int
  | typeInt _ 32 false => some .uint
  | typeInt _ 64 true => some .long
  | typeInt _ 64 false => some .ulong
  | typeFloat _ 16 => some .half
  | typeFloat _ 32 => some .float
  | typeFloat _ 64 => some .double
  | _ => none

/-- The vector type that is declared with an id. -/
def vectorType? (code : List Instruction) (id : ResultId) : Option VectorType :=
  match definition? code id with
  | some (typeVector _ component size) =>
      ((definition? code component).bind scalar?).map fun base => ⟨base, size⟩
  | _ => none

/-- The scalar, vector or matrix type that is declared with an id. -/
def numericType? (code : List Instruction) (id : ResultId) : Option ShaderType :=
  match definition? code id with
  | some (typeVector ..) => (vectorType? code id).map .vector
  | some (typeMatrix _ column count) =>
      (vectorType? code column).map fun shape => .matrix ⟨shape.base, shape.size, count⟩
  | some declaration => declaration.scalar?.map .scalar
  | none => none

end Instruction

/-! ## Machines -/

/-- The state of the execution of a function. -/
structure Machine (Value : Type) where
  /-- The values of parameters, loads and operations, the latest first. -/
  values : List (ResultId × Value)
  /-- What the variables hold, in the order in which they were made. -/
  cells : List (ResultId × Value)
  /-- The arguments that no parameter has taken yet. -/
  arguments : List Value

/-- What one instruction leads to. -/
inductive Progress (Value : Type) where
  | next (machine : Machine Value)
  | stop (value : Option Value)

namespace Machine

/-- The value of an id: the literal of a constant, or else what was computed for it. -/
def value? (interpretation : Interpretation Value) (code : List Instruction)
    (machine : Machine Value) (id : ResultId) : Option Value :=
  match (Instruction.definition? code id).bind Instruction.literal? with
  | some literal => some (interpretation.literal literal)
  | none => machine.values.lookup id

/-- Records the value of an id. -/
def define (machine : Machine Value) (id : ResultId) (value : Value) : Machine Value :=
  { machine with values := (id, value) :: machine.values }

/-- Makes a new variable. -/
def allocate (machine : Machine Value) (id : ResultId) (content : Value) : Machine Value :=
  { machine with cells := machine.cells ++ [(id, content)] }

/-- Changes what a variable holds. -/
def store (machine : Machine Value) (id : ResultId) (content : Value) : Machine Value :=
  { machine with
    cells := machine.cells.map fun cell => if cell.1 = id then (id, content) else cell }

/-- Executes one instruction of a module with the given code. -/
def step (interpretation : Interpretation Value) (code : List Instruction)
    (machine : Machine Value) : Instruction → Option (Progress Value)
  | .functionParameter result _ =>
      match machine.arguments with
      | [] => none
      | argument :: rest => some (.next ({ machine with arguments := rest }.define result argument))
  | .cell result _ _ =>
      some (.next (machine.allocate result (interpretation.unset machine.cells.length)))
  | .load result _ pointer => do
      let content ← machine.cells.lookup pointer
      return .next (machine.define result content)
  | .store pointer object => do
      let value ← machine.value? interpretation code object
      let _ ← machine.cells.lookup pointer
      return .next (machine.store pointer value)
  | .arithmetic operation result type left right => do
      let leftValue ← machine.value? interpretation code left
      let rightValue ← machine.value? interpretation code right
      let numericType ← Instruction.numericType? code type
      return .next (machine.define result
        (interpretation.operate operation.operator numericType leftValue rightValue))
  | .returnNothing => some (.stop none)
  | .returnValue id => do
      let value ← machine.value? interpretation code id
      return .stop (some value)
  | _ => some (.next machine)

/-- Executes instructions up to the first return.  Instructions that end without one are stuck. -/
def execute (interpretation : Interpretation Value) (code : List Instruction) :
    List Instruction → Machine Value → Option (Option Value × Machine Value)
  | [], _ => none
  | instruction :: rest, machine =>
      match machine.step interpretation code instruction with
      | none => none
      | some (.next after) => execute interpretation code rest after
      | some (.stop value) => some (value, machine)

end Machine

/-! ## Functions of a module -/

/-- The variables of a module outside of its functions, and the functions. -/
structure Outline where
  /-- The variables that are declared outside of functions, in order. -/
  shared : List ResultId
  /-- The instructions between the start and the end of each function, in order. -/
  bodies : List (List Instruction)
  /-- The instructions of the function that has not ended yet. -/
  current : Option (List Instruction)
  deriving DecidableEq

namespace Outline

/-- The outline behind one more instruction. -/
def after (outline : Outline) (instruction : Instruction) : Outline :=
  match outline.current with
  | some body =>
      if instruction = .functionEnd then
        { outline with bodies := outline.bodies ++ [body], current := none }
      else
        { outline with current := some (body ++ [instruction]) }
  | none =>
      match instruction with
      | .function .. => { outline with current := some [] }
      | .cell result _ _ => { outline with shared := outline.shared ++ [result] }
      | _ => outline

/-- The outline of some code. -/
def ofCode (code : List Instruction) : Outline :=
  code.foldl after ⟨[], [], none⟩

end Outline

/-- Executes the function with the given index, from the contents of the variables outside of
functions.  Gives the returned value, if there is one, and the contents of those variables. -/
def ShaderModule.execute (shaderModule : ShaderModule) (interpretation : Interpretation Value)
    (index : Nat) (arguments contents : List Value) : Option (Option Value × List Value) := do
  let code := shaderModule.instructions
  let outline := Outline.ofCode code
  let body ← outline.bodies[index]?
  let (value, machine) ← Machine.execute interpretation code body
    ⟨[], outline.shared.zip contents, arguments⟩
  let final ← outline.shared.mapM fun id => machine.cells.lookup id
  return (value, final)

end ShaderLang
