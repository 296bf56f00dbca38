import ShaderLang.Vocabulary

/-!
# Words of the instruction text

The operands that are written as words: storage classes, execution models, image dimensions,
function controls; and the arithmetic operations, whose opcodes they are.
-/

namespace ShaderLang

/-- Where a variable or the target of a pointer is stored. -/
inductive StorageClass where
  | function
  | priv
  | input
  | output
  | uniform
  | uniformConstant
  | workgroup
  deriving DecidableEq, Repr

namespace StorageClass

/-- The word of a storage class. -/
def name : StorageClass → String
  | function => "Function"
  | priv => "Private"
  | input => "Input"
  | output => "Output"
  | uniform => "Uniform"
  | uniformConstant => "UniformConstant"
  | workgroup => "Workgroup"

instance : Vocabulary StorageClass where
  values := [function, priv, input, output, uniform, uniformConstant, workgroup]
  word := name
  mem_values := by intro storage; cases storage <;> decide
  nodup_words := by decide

end StorageClass

/-- The pipeline stage that an entry point runs in. -/
inductive ExecutionModel where
  | vertex
  | tessellationControl
  | tessellationEvaluation
  | geometry
  | fragment
  | compute
  deriving DecidableEq, Repr

namespace ExecutionModel

/-- The word of an execution model. -/
def name : ExecutionModel → String
  | vertex => "Vertex"
  | tessellationControl => "TessellationControl"
  | tessellationEvaluation => "TessellationEvaluation"
  | geometry => "Geometry"
  | fragment => "Fragment"
  | compute => "GLCompute"

instance : Vocabulary ExecutionModel where
  values := [vertex, tessellationControl, tessellationEvaluation, geometry, fragment, compute]
  word := name
  mem_values := by intro model; cases model <;> decide
  nodup_words := by decide

end ExecutionModel

/-- The dimensionality of an image type. -/
inductive Dimension where
  | one
  | two
  | three
  | buffer
  deriving DecidableEq, Repr

namespace Dimension

/-- The word of a dimensionality. -/
def name : Dimension → String
  | one => "1D"
  | two => "2D"
  | three => "3D"
  | buffer => "Buffer"

instance : Vocabulary Dimension where
  values := [one, two, three, buffer]
  word := name
  mem_values := by intro dimension; cases dimension <;> decide
  nodup_words := by decide

end Dimension

/-- Hints on how to treat a function. -/
inductive FunctionControl where
  | none
  | inlined
  | notInlined
  | pure
  | const
  deriving DecidableEq, Repr

namespace FunctionControl

/-- The word of a function control. -/
def name : FunctionControl → String
  | none => "None"
  | inlined => "Inline"
  | notInlined => "DontInline"
  | pure => "Pure"
  | const => "Const"

instance : Vocabulary FunctionControl where
  values := [none, inlined, notInlined, pure, const]
  word := name
  mem_values := by intro control; cases control <;> decide
  nodup_words := by decide

end FunctionControl

/-- An arithmetic operation on two operands of one numeric type. -/
inductive Arithmetic where
  | intAdd
  | intSub
  | intMul
  | signedDiv
  | unsignedDiv
  | floatAdd
  | floatSub
  | floatMul
  | floatDiv
  deriving DecidableEq, Repr

namespace Arithmetic

/-- The opcode name of an arithmetic operation. -/
def name : Arithmetic → String
  | intAdd => "OpIAdd"
  | intSub => "OpISub"
  | intMul => "OpIMul"
  | signedDiv => "OpSDiv"
  | unsignedDiv => "OpUDiv"
  | floatAdd => "OpFAdd"
  | floatSub => "OpFSub"
  | floatMul => "OpFMul"
  | floatDiv => "OpFDiv"

instance : Vocabulary Arithmetic where
  values := [intAdd, intSub, intMul, signedDiv, unsignedDiv, floatAdd, floatSub, floatMul, floatDiv]
  word := name
  mem_values := by intro operation; cases operation <;> decide
  nodup_words := by decide

end Arithmetic

end ShaderLang
