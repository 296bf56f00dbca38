import ShaderLang.Text.Basic
import ShaderLang.Vocabulary

/-!
# Scalar, vector and matrix types

The types that have a name without being declared.  A vector is named by its base and its size
(`float4`), a matrix by its base and its numbers of rows and columns (`float4x3`).
-/

namespace ShaderLang

/-! ## Scalars -/

/-- The element types. -/
inductive ScalarType where
  | void
  | bool
  | int
  | uint
  | long
  | ulong
  | half
  | float
  | double
  deriving DecidableEq, Repr

namespace ScalarType

/-- The name of a scalar type. -/
def name : ScalarType → String
  | void => "void"
  | bool => "bool"
  | int => "int"
  | uint => "uint"
  | long => "long"
  | ulong => "ulong"
  | half => "half"
  | float => "float"
  | double => "double"

instance : Vocabulary ScalarType where
  values := [void, bool, int, uint, long, ulong, half, float, double]
  word := name
  mem_values := by intro scalar; cases scalar <;> decide
  nodup_words := by decide

/-- The scalar types that hold a value: all but `void`. -/
def valued : List ScalarType :=
  [bool, int, uint, long, ulong, half, float, double]

/-- The valued scalar type with the given name. -/
def ofName? (text : String) : Option ScalarType :=
  valued.find? fun scalar => scalar.name == text

/-- Whether arithmetic is defined on a scalar type. -/
def isNumeric : ScalarType → Bool
  | void | bool => false
  | _ => true

/-- Whether a scalar type is a floating point type. -/
def isFloat : ScalarType → Bool
  | half | float | double => true
  | _ => false

/-- Whether a scalar type is an unsigned integer type. -/
def isUnsigned : ScalarType → Bool
  | uint | ulong => true
  | _ => false

end ScalarType

/-! ## Sizes in names -/

/-- The sizes that a vector or matrix name can hold. -/
def nameableSizes : List Nat :=
  [2, 3, 4]

/-- The size that a text of one digit denotes. -/
def nameableSize? : List Char → Option Nat
  | [digit] =>
      if digit.isDigit ∧ Text.digitsValue [digit] ∈ nameableSizes then
        some (Text.digitsValue [digit])
      else
        none
  | _ => none

/-! ## Vectors -/

/-- A vector of `size` scalars. -/
structure VectorType where
  base : ScalarType
  size : Nat
  deriving DecidableEq, Repr

namespace VectorType

/-- Every vector type that has a name. -/
def nameable : List VectorType :=
  ScalarType.valued.flatMap fun base => nameableSizes.map fun size => ⟨base, size⟩

/-- The vector type with the given name. -/
def ofName? (text : String) : Option VectorType :=
  ScalarType.valued.findSome? fun base => do
    let rest ← base.name.toList.isPrefixOf? text.toList
    let size ← nameableSize? rest
    return ⟨base, size⟩

/-- The name of a vector type. -/
def text (vector : VectorType) : String :=
  vector.base.name ++ toString vector.size

end VectorType

/-! ## Matrices -/

/-- A matrix of `columns` columns with `rows` scalars each. -/
structure MatrixType where
  base : ScalarType
  rows : Nat
  columns : Nat
  deriving DecidableEq, Repr

namespace MatrixType

/-- The scalar types that matrices are made of. -/
def bases : List ScalarType :=
  [.half, .float, .double]

/-- Every matrix type that has a name. -/
def nameable : List MatrixType :=
  bases.flatMap fun base => nameableSizes.flatMap fun rows =>
    nameableSizes.map fun columns => ⟨base, rows, columns⟩

/-- The matrix type with the given name. -/
def ofName? (text : String) : Option MatrixType :=
  bases.findSome? fun base => do
    let rest ← base.name.toList.isPrefixOf? text.toList
    match rest.dropWhile (· ≠ 'x') with
    | [] => none
    | _ :: columnText => do
        let rows ← nameableSize? (rest.takeWhile (· ≠ 'x'))
        let columns ← nameableSize? columnText
        return ⟨base, rows, columns⟩

/-- The type of a column. -/
def column (matrix : MatrixType) : VectorType :=
  ⟨matrix.base, matrix.rows⟩

/-- The name of a matrix type. -/
def text (matrix : MatrixType) : String :=
  matrix.base.name ++ toString matrix.rows ++ "x" ++ toString matrix.columns

end MatrixType

end ShaderLang
