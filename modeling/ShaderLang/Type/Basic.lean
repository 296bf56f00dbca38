import ShaderLang.Type.Numeric

/-!
# Types and symbols

The types of the language.  A symbol is a named thing with a type, and a shader type holds the
symbols of the shader's components, so types and symbols are declared together.
-/

namespace ShaderLang

/-! ## What a symbol is -/

/-- What a symbol names. -/
inductive SymbolKind where
  | binding
  | constant
  | method
  | struct
  | shader
  | constantBuffer
  | composition
  deriving DecidableEq, Repr

namespace SymbolKind

/-- The word for a kind of symbol. -/
def name : SymbolKind → String
  | binding => "variable"
  | constant => "constant"
  | method => "method"
  | struct => "struct"
  | shader => "shader"
  | constantBuffer => "cbuffer"
  | composition => "compose"

instance : Vocabulary SymbolKind where
  values := [binding, constant, method, struct, shader, constantBuffer, composition]
  word := name
  mem_values := by intro kind; cases kind <;> decide
  nodup_words := by decide

/-- The place of a kind in the order of symbols. -/
def rank : SymbolKind → Nat
  | binding => 0
  | constant => 1
  | method => 2
  | struct => 3
  | shader => 4
  | constantBuffer => 5
  | composition => 6

end SymbolKind

/-- Where the value of a symbol lives. -/
inductive Storage where
  | none
  | function
  | stream
  | static
  | uniform
  | generic
  deriving DecidableEq, Repr

namespace Storage

/-- The word for a storage. -/
def name : Storage → String
  | none => "None"
  | function => "Function"
  | stream => "Stream"
  | static => "Static"
  | uniform => "Uniform"
  | generic => "Generic"

instance : Vocabulary Storage where
  values := [none, function, stream, static, uniform, generic]
  word := name
  mem_values := by intro storage; cases storage <;> decide
  nodup_words := by decide

/-- The place of a storage in the order of symbols. -/
def rank : Storage → Nat
  | none => 0
  | function => 1
  | stream => 2
  | static => 3
  | uniform => 4
  | generic => 5

end Storage

/-- The kinds of named groups of symbols. -/
inductive GroupKind where
  | constantBuffer
  | parameters
  | effect
  deriving DecidableEq, Repr

/-- The word for a kind of group. -/
def GroupKind.name : GroupKind → String
  | constantBuffer => "cbuffer"
  | parameters => "params"
  | effect => "effect"

/-! ## Types -/

mutual

/-- A type of the language. -/
inductive ShaderType where
  /-- A placeholder for a type that could not be found. -/
  | undefined (name : String)
  | pointer (base : ShaderType)
  | scalar (scalar : ScalarType)
  | vector (vector : VectorType)
  | matrix (matrix : MatrixType)
  | array (base : ShaderType) (size : Nat)
  | struct (name : String) (fields : List Field)
  | buffer (base : ShaderType) (size : Nat)
  | texture1D (base : ShaderType) (size : Nat)
  | texture2D (base : ShaderType) (width height : Nat)
  | texture3D (base : ShaderType) (width height depth : Nat)
  | function (returned : ShaderType) (parameters : List ShaderType)
  | sampler
  | comparisonSampler
  | streams
  | group (kind : GroupKind) (name : String) (symbols : List Symbol)
  | shader (name : String) (components : List Symbol)

/-- A named field of a struct. -/
structure Field where
  name : String
  type : ShaderType

/-- A named thing with a type. -/
structure Symbol where
  name : String
  kind : SymbolKind
  storage : Storage
  type : ShaderType

end

namespace ShaderType

/-- The type without values. -/
def void : ShaderType :=
  scalar .void

/-- The scalar that a scalar, vector or matrix type is made of. -/
def element? : ShaderType → Option ScalarType
  | scalar element => some element
  | vector shape => some shape.base
  | matrix shape => some shape.base
  | _ => none

/-- Whether arithmetic is defined on a type. -/
def isNumeric (type : ShaderType) : Bool :=
  type.element?.any ScalarType.isNumeric

/-- Whether a type is the type without values. -/
def isVoid : ShaderType → Bool
  | scalar .void => true
  | _ => false

/-- Whether a type is a placeholder. -/
def isUndefined : ShaderType → Bool
  | undefined _ => true
  | _ => false

/-! ## Types with a name of their own -/

/-- Every numeric type that has a name, and `void`. -/
def numericTypes : List ShaderType :=
  ScalarType.valued.map scalar ++ VectorType.nameable.map vector ++
    MatrixType.nameable.map matrix ++ [void]

/-- The scalar, vector or matrix type with the given name. -/
def resolveNumeric? (name : String) : Option ShaderType :=
  ((ScalarType.ofName? name).map scalar).or <|
    ((VectorType.ofName? name).map vector).or <|
      ((MatrixType.ofName? name).map matrix).or <|
        if name = "void" then some void else none

/-- The object type with the given name. -/
def resolveObject? (name : String) : Option ShaderType :=
  if name = "SamplerState" then
    some sampler
  else if name = "SamplerComparisonState" then
    some comparisonSampler
  else
    none

end ShaderType

/-- The first field with the given name, and its index. -/
def Field.find? (fields : List Field) (name : String) : Option (Nat × ShaderType) :=
  fields.zipIdx.findSome? fun (field, index) =>
    if field.name = name then some (index, field.type) else none

/-- The first symbol with the given name and kind. -/
def Symbol.find? (symbols : List Symbol) (name : String) (kind : SymbolKind) : Option Symbol :=
  symbols.find? fun symbol => symbol.name == name && symbol.kind == kind

end ShaderLang
