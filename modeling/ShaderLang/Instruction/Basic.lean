import ShaderLang.Binary64.Basic
import ShaderLang.Instruction.Words

/-!
# Instructions

The instructions of a module, the id that an instruction defines, its opcode and its operands.
An instruction is written as its result, its opcode and its operands, in that order.
-/

namespace ShaderLang

/-- The id of a type, constant, variable, function, parameter, label or value. -/
abbrev ResultId :=
  Nat

/-- The literal of a constant. -/
inductive Constant where
  | int (value : Int)
  | float (value : Binary64)
  deriving DecidableEq

/-- One instruction of a module. -/
inductive Instruction where
  | name (target : ResultId) (text : String)
  | memberName (type : ResultId) (index : Nat) (text : String)
  | semantic (target : ResultId) (text : String)
  | entryPoint (model : ExecutionModel) (target : ResultId) (text : String)
  | typeVoid (result : ResultId)
  | typeBool (result : ResultId)
  | typeInt (result : ResultId) (width : Nat) (signed : Bool)
  | typeFloat (result : ResultId) (width : Nat)
  | typeVector (result component : ResultId) (count : Nat)
  | typeMatrix (result column : ResultId) (count : Nat)
  | typeArray (result element length : ResultId)
  | typePointer (result : ResultId) (storage : StorageClass) (pointee : ResultId)
  | typeStruct (result : ResultId) (members : List ResultId)
  | typeFunction (result returned : ResultId) (parameters : List ResultId)
  | typeImage (result sampled : ResultId) (dimension : Dimension)
  | typeSampler (result : ResultId)
  | constant (result type : ResultId) (value : Constant)
  | constantTrue (result type : ResultId)
  | constantFalse (result type : ResultId)
  | cell (result type : ResultId) (storage : StorageClass)
  | load (result type pointer : ResultId)
  | store (pointer object : ResultId)
  | function (result type : ResultId) (control : FunctionControl) (functionType : ResultId)
  | functionParameter (result type : ResultId)
  | label (result : ResultId)
  | arithmetic (operation : Arithmetic) (result type left right : ResultId)
  | returnNothing
  | returnValue (value : ResultId)
  | functionEnd
  deriving DecidableEq

/-- The kind of an instruction. -/
inductive Opcode where
  | name
  | memberName
  | semantic
  | entryPoint
  | typeVoid
  | typeBool
  | typeInt
  | typeFloat
  | typeVector
  | typeMatrix
  | typeArray
  | typePointer
  | typeStruct
  | typeFunction
  | typeImage
  | typeSampler
  | constant
  | constantTrue
  | constantFalse
  | cell
  | load
  | store
  | function
  | functionParameter
  | label
  | arithmetic (operation : Arithmetic)
  | returnNothing
  | returnValue
  | functionEnd
  deriving DecidableEq, Repr

namespace Opcode

/-- The name that an opcode is written with. -/
def text : Opcode → String
  | name => "OpName"
  | memberName => "OpMemberName"
  | semantic => "OpSDSLDecorateSemantic"
  | entryPoint => "OpEntryPoint"
  | typeVoid => "OpTypeVoid"
  | typeBool => "OpTypeBool"
  | typeInt => "OpTypeInt"
  | typeFloat => "OpTypeFloat"
  | typeVector => "OpTypeVector"
  | typeMatrix => "OpTypeMatrix"
  | typeArray => "OpTypeArray"
  | typePointer => "OpTypePointer"
  | typeStruct => "OpTypeStruct"
  | typeFunction => "OpTypeFunction"
  | typeImage => "OpTypeImage"
  | typeSampler => "OpTypeSampler"
  | constant => "OpConstant"
  | constantTrue => "OpConstantTrue"
  | constantFalse => "OpConstantFalse"
  | cell => "OpVariable"
  | load => "OpLoad"
  | store => "OpStore"
  | function => "OpFunction"
  | functionParameter => "OpFunctionParameter"
  | label => "OpLabel"
  | arithmetic operation => operation.name
  | returnNothing => "OpReturn"
  | returnValue => "OpReturnValue"
  | functionEnd => "OpFunctionEnd"

/-- Every opcode. -/
def all : List Opcode :=
  [name, memberName, semantic, entryPoint, typeVoid, typeBool, typeInt, typeFloat, typeVector,
    typeMatrix, typeArray, typePointer, typeStruct, typeFunction, typeImage, typeSampler, constant,
    constantTrue, constantFalse, cell, load, store, function, functionParameter, label,
    returnNothing, returnValue, functionEnd, arithmetic .intAdd, arithmetic .intSub,
    arithmetic .intMul, arithmetic .signedDiv, arithmetic .unsignedDiv, arithmetic .floatAdd,
    arithmetic .floatSub, arithmetic .floatMul, arithmetic .floatDiv]

theorem mem_all (opcode : Opcode) : opcode ∈ all := by
  cases opcode with
  | arithmetic operation => cases operation <;> decide
  | _ => decide

instance : Vocabulary Opcode where
  values := all
  word := text
  mem_values := mem_all
  nodup_words := by decide +kernel

/-- Whether an opcode declares a type. -/
def declaresType : Opcode → Bool
  | typeVoid | typeBool | typeInt | typeFloat | typeVector | typeMatrix | typeArray | typePointer
  | typeStruct | typeFunction | typeImage | typeSampler => true
  | _ => false

/-- Whether an opcode ends a block. -/
def endsBlock : Opcode → Bool
  | returnNothing | returnValue => true
  | _ => false

end Opcode

/-! ## Operands -/

/-- The kind of an operand. -/
inductive OperandKind where
  | id
  | number
  | text
  | literal
  | storageClass
  | executionModel
  | dimension
  | functionControl
  deriving DecidableEq, Repr

/-- One operand of an instruction. -/
inductive Operand where
  | id (target : ResultId)
  | number (value : Nat)
  | text (content : String)
  | literal (value : Constant)
  | storageClass (storage : StorageClass)
  | executionModel (model : ExecutionModel)
  | dimension (shape : Dimension)
  | functionControl (control : FunctionControl)
  deriving DecidableEq

namespace Opcode

/-- The kinds of the operands that every instruction with an opcode has, in order. -/
def operandKinds : Opcode → List OperandKind
  | name | semantic => [.id, .text]
  | memberName => [.id, .number, .text]
  | entryPoint => [.executionModel, .id, .text]
  | typeVoid | typeBool | typeSampler | label => []
  | typeInt => [.number, .number]
  | typeFloat => [.number]
  | typeVector | typeMatrix => [.id, .number]
  | typeArray => [.id, .id]
  | typePointer => [.storageClass, .id]
  | typeStruct => []
  | typeFunction => [.id]
  | typeImage => [.id, .dimension]
  | constant => [.id, .literal]
  | constantTrue | constantFalse | functionParameter => [.id]
  | cell => [.id, .storageClass]
  | load | store => [.id, .id]
  | function => [.id, .functionControl, .id]
  | arithmetic _ => [.id, .id, .id]
  | returnValue => [.id]
  | returnNothing | functionEnd => []

/-- Whether an instruction with an opcode has any number of ids behind its other operands. -/
def takesIds : Opcode → Bool
  | typeStruct | typeFunction => true
  | _ => false

end Opcode

namespace Instruction

/-- The kind of an instruction. -/
def opcode : Instruction → Opcode
  | name .. => .name
  | memberName .. => .memberName
  | semantic .. => .semantic
  | entryPoint .. => .entryPoint
  | typeVoid .. => .typeVoid
  | typeBool .. => .typeBool
  | typeInt .. => .typeInt
  | typeFloat .. => .typeFloat
  | typeVector .. => .typeVector
  | typeMatrix .. => .typeMatrix
  | typeArray .. => .typeArray
  | typePointer .. => .typePointer
  | typeStruct .. => .typeStruct
  | typeFunction .. => .typeFunction
  | typeImage .. => .typeImage
  | typeSampler .. => .typeSampler
  | constant .. => .constant
  | constantTrue .. => .constantTrue
  | constantFalse .. => .constantFalse
  | cell .. => .cell
  | load .. => .load
  | store .. => .store
  | function .. => .function
  | functionParameter .. => .functionParameter
  | label .. => .label
  | arithmetic operation .. => .arithmetic operation
  | returnNothing => .returnNothing
  | returnValue .. => .returnValue
  | functionEnd => .functionEnd

/-- The id that an instruction defines, if it defines one. -/
def result? : Instruction → Option ResultId
  | typeVoid result | typeBool result | typeInt result .. | typeFloat result .. => some result
  | typeVector result .. | typeMatrix result .. | typeArray result .. => some result
  | typePointer result .. | typeStruct result .. | typeFunction result .. => some result
  | typeImage result .. | typeSampler result => some result
  | constant result .. | constantTrue result .. | constantFalse result .. => some result
  | cell result .. | load result .. | function result .. => some result
  | functionParameter result .. | label result | arithmetic _ result .. => some result
  | name .. | memberName .. | semantic .. | entryPoint .. | store .. => none
  | returnNothing | returnValue .. | functionEnd => none

/-- The operands of an instruction in the order they are written in. -/
def operands : Instruction → List Operand
  | name target text => [.id target, .text text]
  | memberName type index text => [.id type, .number index, .text text]
  | semantic target text => [.id target, .text text]
  | entryPoint model target text => [.executionModel model, .id target, .text text]
  | typeVoid _ | typeBool _ | typeSampler _ | label _ => []
  | typeInt _ width signed => [.number width, .number (if signed then 1 else 0)]
  | typeFloat _ width => [.number width]
  | typeVector _ component count => [.id component, .number count]
  | typeMatrix _ column count => [.id column, .number count]
  | typeArray _ element length => [.id element, .id length]
  | typePointer _ storage pointee => [.storageClass storage, .id pointee]
  | typeStruct _ members => members.map .id
  | typeFunction _ returned parameters => .id returned :: parameters.map .id
  | typeImage _ sampled dimension => [.id sampled, .dimension dimension]
  | constant _ type value => [.id type, .literal value]
  | constantTrue _ type | constantFalse _ type => [.id type]
  | cell _ type storage => [.id type, .storageClass storage]
  | load _ type pointer => [.id type, .id pointer]
  | store pointer object => [.id pointer, .id object]
  | function _ type control functionType =>
      [.id type, .functionControl control, .id functionType]
  | functionParameter _ type => [.id type]
  | arithmetic _ _ type left right => [.id type, .id left, .id right]
  | returnValue value => [.id value]
  | returnNothing | functionEnd => []

/-- The start of a function without hints. -/
def uncontrolled (result type functionType : ResultId) : Instruction :=
  function result type .none functionType

/-! ## Assembly -/

/-- The ids of operands that are all ids. -/
def ids? (operands : List Operand) : Option (List ResultId) :=
  operands.mapM fun
    | .id target => some target
    | _ => none

/-- The instruction with the given opcode and operands that defines `result`.  A signedness other
than zero stands for a signed type. -/
def define? (result : ResultId) : Opcode → List Operand → Option Instruction
  | .typeVoid, [] => some (typeVoid result)
  | .typeBool, [] => some (typeBool result)
  | .typeInt, [.number width, .number signedness] =>
      some (typeInt result width (signedness != 0))
  | .typeFloat, [.number width] => some (typeFloat result width)
  | .typeVector, [.id component, .number count] => some (typeVector result component count)
  | .typeMatrix, [.id column, .number count] => some (typeMatrix result column count)
  | .typeArray, [.id element, .id length] => some (typeArray result element length)
  | .typePointer, [.storageClass storage, .id pointee] =>
      some (typePointer result storage pointee)
  | .typeStruct, operands => (ids? operands).map (typeStruct result)
  | .typeFunction, .id returned :: operands => (ids? operands).map (typeFunction result returned)
  | .typeImage, [.id sampled, .dimension dimension] => some (typeImage result sampled dimension)
  | .typeSampler, [] => some (typeSampler result)
  | .constant, [.id type, .literal value] => some (constant result type value)
  | .constantTrue, [.id type] => some (constantTrue result type)
  | .constantFalse, [.id type] => some (constantFalse result type)
  | .cell, [.id type, .storageClass storage] => some (cell result type storage)
  | .load, [.id type, .id pointer] => some (load result type pointer)
  | .function, [.id type, .functionControl control, .id functionType] =>
      some (function result type control functionType)
  | .functionParameter, [.id type] => some (functionParameter result type)
  | .label, [] => some (label result)
  | .arithmetic operation, [.id type, .id left, .id right] =>
      some (arithmetic operation result type left right)
  | _, _ => none

/-- The instruction with the given opcode and operands that defines nothing. -/
def plain? : Opcode → List Operand → Option Instruction
  | .name, [.id target, .text text] => some (name target text)
  | .memberName, [.id type, .number index, .text text] => some (memberName type index text)
  | .semantic, [.id target, .text text] => some (semantic target text)
  | .entryPoint, [.executionModel model, .id target, .text text] =>
      some (entryPoint model target text)
  | .store, [.id pointer, .id object] => some (store pointer object)
  | .returnNothing, [] => some returnNothing
  | .returnValue, [.id value] => some (returnValue value)
  | .functionEnd, [] => some functionEnd
  | _, _ => none

/-- The instruction with the given result, opcode and operands. -/
def assemble? (result : Option ResultId) (opcode : Opcode) (operands : List Operand) :
    Option Instruction :=
  match result with
  | some result => define? result opcode operands
  | none => plain? opcode operands

/-- Ids are read back from the operands that they are. -/
@[simp]
theorem ids?_map_id (targets : List ResultId) : ids? (targets.map .id) = some targets := by
  induction targets with
  | nil => rfl
  | cons target rest inductionHypothesis =>
      simp [ids?] at inductionHypothesis ⊢
      simp [inductionHypothesis]

/-- Every instruction is assembled from its parts. -/
@[simp]
theorem assemble?_parts (instruction : Instruction) :
    assemble? instruction.result? instruction.opcode instruction.operands = some instruction := by
  cases instruction with
  | typeInt result width signed => cases signed <;> rfl
  | typeStruct result members =>
      change (ids? (members.map .id)).map (typeStruct result) = _
      rw [ids?_map_id, Option.map_some]
  | typeFunction result returned parameters =>
      change (ids? (parameters.map .id)).map (typeFunction result returned) = _
      rw [ids?_map_id, Option.map_some]
  | _ => rfl

end Instruction

end ShaderLang
