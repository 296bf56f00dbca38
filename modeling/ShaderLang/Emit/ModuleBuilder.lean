import ShaderLang.Diagnostic
import ShaderLang.ShaderModule.Basic

/-!
# Building modules

A module builder hands out ids, collects instructions, and keeps the types and constants that have
been declared, so that each is declared once.  A step that fails leaves behind what it did before it
failed.
-/

namespace ShaderLang

/-- Which names a compilation emits. -/
structure CompileOptions where
  /-- The names of variables, functions, parameters and struct members. -/
  debugNames : Bool
  /-- The canonical ids of types. -/
  typeNames : Bool
  deriving DecidableEq, Repr

/-- The options that emit every name. -/
def CompileOptions.allNames : CompileOptions :=
  ⟨true, true⟩

/-- The state of building a module. -/
structure ModuleBuilder where
  options : CompileOptions
  /-- The next id to hand out. -/
  bound : ResultId
  /-- The instructions in order of emission. -/
  code : List Instruction
  /-- The ids of the registered types, the latest first. -/
  types : List (ShaderType × ResultId)
  /-- The ids of the registered constants, the latest first. -/
  constants : List ((ScalarType × Constant) × ResultId)
  /-- The recorded names, the latest first. -/
  names : List (ResultId × String)
  /-- The recorded semantics, the latest first. -/
  semantics : List (ResultId × String)

namespace ModuleBuilder

/-- The first id that is handed out. -/
def firstId : ResultId :=
  1

/-- The builder of an empty module. -/
def initial (options : CompileOptions) : ModuleBuilder :=
  ⟨options, firstId, [], [], [], [], []⟩

/-- The id of a registered type. -/
def typeId? (builder : ModuleBuilder) (type : ShaderType) : Option ResultId :=
  builder.types.lookup type

/-- The id of a registered constant. -/
def constantId? (builder : ModuleBuilder) (scalar : ScalarType) (value : Constant) :
    Option ResultId :=
  builder.constants.lookup (scalar, value)

/-- The recorded name of an id. -/
def nameOf? (builder : ModuleBuilder) (id : ResultId) : Option String :=
  builder.names.lookup id

/-- The recorded semantic of an id. -/
def semanticOf? (builder : ModuleBuilder) (id : ResultId) : Option String :=
  builder.semantics.lookup id

/-- Whether an id has been handed out. -/
def isAllocated (builder : ModuleBuilder) (id : ResultId) : Bool :=
  firstId ≤ id && id < builder.bound

/-- The module built so far. -/
def finish (builder : ModuleBuilder) : ShaderModule :=
  ⟨builder.bound, builder.code⟩

/-- Appends an instruction. -/
def append (builder : ModuleBuilder) (instruction : Instruction) : ModuleBuilder :=
  { builder with code := builder.code ++ [instruction] }

/-- Records the id of a type. -/
def addType (builder : ModuleBuilder) (type : ShaderType) (id : ResultId) : ModuleBuilder :=
  { builder with types := (type, id) :: builder.types }

/-- Records a name. -/
def recordName (builder : ModuleBuilder) (id : ResultId) (name : String) : ModuleBuilder :=
  { builder with names := (id, name) :: builder.names }

/-- Records a name, and emits it if debug names are emitted. -/
def addName (builder : ModuleBuilder) (id : ResultId) (name : String) : ModuleBuilder :=
  if builder.options.debugNames then
    (builder.recordName id name).append (.name id name)
  else
    builder.recordName id name

/-- Records and emits a semantic. -/
def addSemantic (builder : ModuleBuilder) (id : ResultId) (semantic : String) : ModuleBuilder :=
  { builder with semantics := (id, semantic) :: builder.semantics }.append (.semantic id semantic)

/-- Records the id of a newly declared type, and names it if type names are emitted. -/
def addDeclaredType (builder : ModuleBuilder) (type : ShaderType) (id : ResultId) :
    ModuleBuilder :=
  if builder.options.typeNames then
    ((builder.addType type id).recordName id type.canonicalId).append (.name id type.canonicalId)
  else
    builder.addType type id

end ModuleBuilder

/-- A step of building a module. -/
abbrev Build :=
  EStateM Diagnostic ModuleBuilder

namespace Build

/-! ## Ids and instructions -/

/-- Hands out an id. -/
def freshId : Build ResultId := do
  let builder ← get
  set { builder with bound := builder.bound + 1 }
  return builder.bound

/-- Emits an instruction. -/
def emit (instruction : Instruction) : Build Unit :=
  modify fun builder => builder.append instruction

/-- Emits the instruction that defines a fresh id. -/
def define (instruction : ResultId → Instruction) : Build ResultId := do
  let result ← freshId
  emit (instruction result)
  return result

/-! ## Types and constants -/

/-- The id of a type.  A type that is not registered is declared by the given step and then
registered. -/
def registered (type : ShaderType) (declare : Build ResultId) : Build ResultId := do
  match (← get).typeId? type with
  | some id => return id
  | none => do
      let id ← declare
      modify fun builder => builder.addDeclaredType type id
      return id

/-- The declaration of a scalar type. -/
def scalarDeclaration (result : ResultId) : ScalarType → Instruction
  | .void => .typeVoid result
  | .bool => .typeBool result
  | .int => .typeInt result 32 true
  | .uint => .typeInt result 32 false
  | .long => .typeInt result 64 true
  | .ulong => .typeInt result 64 false
  | .half => .typeFloat result 16
  | .float => .typeFloat result 32
  | .double => .typeFloat result 64

/-- Registers a scalar type. -/
def registerScalar (scalar : ScalarType) : Build ResultId :=
  registered (.scalar scalar) (define fun result => scalarDeclaration result scalar)

/-- Registers a vector type, after its base. -/
def registerVector (vector : VectorType) : Build ResultId :=
  registered (.vector vector) do
    let component ← registerScalar vector.base
    define fun result => .typeVector result component vector.size

/-- Registers a matrix type, after its column type. -/
def registerMatrix (matrix : MatrixType) : Build ResultId :=
  registered (.matrix matrix) do
    let column ← registerVector matrix.column
    define fun result => .typeMatrix result column matrix.columns

/-- The declaration of a constant.  Of the boolean constants only the integer zero is false. -/
def constantDeclaration (scalar : ScalarType) (value : Constant) (type result : ResultId) :
    Instruction :=
  if scalar = .bool then
    if value = .int 0 then .constantFalse result type else .constantTrue result type
  else
    .constant result type value

/-- The id of a scalar constant, which is declared on first use. -/
def registerConstant (scalar : ScalarType) (value : Constant) : Build ResultId := do
  match (← get).constantId? scalar value with
  | some id => return id
  | none =>
      if scalar = .void then
        throw (.emission .voidConstant)
      else do
        let type ← registerScalar scalar
        let id ← define (constantDeclaration scalar value type)
        modify fun builder =>
          { builder with constants := ((scalar, value), id) :: builder.constants }
        return id

/-- Registers the plain sampler type. -/
def registerSampler : Build ResultId :=
  registered .sampler (define .typeSampler)

/-- The id of the comparison sampler type, which is that of the plain sampler type. -/
def registerComparisonSampler : Build ResultId := do
  match (← get).typeId? .comparisonSampler with
  | some id => return id
  | none => do
      let id ← registerSampler
      modify fun builder => builder.addType .comparisonSampler id
      return id

/-- The instructions that name the members of a struct type, which are counted in 32 bits. -/
def memberNaming (type : ResultId) (fields : List Field) : List Instruction :=
  fields.mapIdx fun index field => .memberName type (index % 4294967296) field.name

/-- Emits the names of the members of a struct type, if debug names are emitted. -/
def emitMemberNames (type : ResultId) (fields : List Field) : Build Unit :=
  modify fun builder =>
    if builder.options.debugNames then
      { builder with code := builder.code ++ memberNaming type fields }
    else
      builder

mutual

/-- The id of a type.  A type is declared on first use, after the types it is made of. -/
def register : ShaderType → Build ResultId
  | .undefined name =>
      registered (.undefined name) (throw (.unresolvedType name .unknown))
  | .scalar scalar => registerScalar scalar
  | .vector vector => registerVector vector
  | .matrix matrix => registerMatrix matrix
  | .array base size =>
      registered (.array base size) do
        let element ← register base
        let length ← registerConstant .uint (.int size)
        define fun result => .typeArray result element length
  | .pointer base =>
      registered (.pointer base) do
        let pointee ← register base
        define fun result => .typePointer result .function pointee
  | .struct name fields =>
      registered (.struct name fields) do
        let members ← registerFields fields
        let result ← define fun result => .typeStruct result members
        emitMemberNames result fields
        return result
  | .function returned parameters =>
      registered (.function returned parameters) do
        let returnedId ← register returned
        let parameterIds ← registerAll parameters
        define fun result => .typeFunction result returnedId parameterIds
  | .sampler => registerSampler
  | .comparisonSampler => registerComparisonSampler
  | .buffer base size =>
      registered (.buffer base size) do
        let sampled ← register base
        define fun result => .typeImage result sampled .buffer
  | .texture1D base size =>
      registered (.texture1D base size) do
        let sampled ← register base
        define fun result => .typeImage result sampled .one
  | .texture2D base width height =>
      registered (.texture2D base width height) do
        let sampled ← register base
        define fun result => .typeImage result sampled .two
  | .texture3D base width height depth =>
      registered (.texture3D base width height depth) do
        let sampled ← register base
        define fun result => .typeImage result sampled .three
  | .streams =>
      registered .streams (throw (.emission (.noInstructionForm .streams)))
  | .group kind name symbols =>
      registered (.group kind name symbols)
        (throw (.emission (.noInstructionForm (.group kind name symbols))))
  | .shader name components =>
      registered (.shader name components)
        (throw (.emission (.noInstructionForm (.shader name components))))

/-- The ids of types, registered in order. -/
def registerAll : List ShaderType → Build (List ResultId)
  | [] => pure []
  | type :: rest => do
      let id ← register type
      let ids ← registerAll rest
      return id :: ids

/-- The id of the type of a field. -/
def registerField : Field → Build ResultId
  | ⟨_, type⟩ => register type

/-- The ids of the types of fields, registered in order. -/
def registerFields : List Field → Build (List ResultId)
  | [] => pure []
  | field :: rest => do
      let id ← registerField field
      let ids ← registerFields rest
      return id :: ids

end

/-! ## Names and semantics -/

/-- Fails unless an id has been handed out. -/
def requireAllocated (id : ResultId) : Build Unit := do
  if (← get).isAllocated id then
    pure ()
  else
    throw (.emission (.notAllocated id))

/-- Records the name of an id, and emits it if debug names are emitted. -/
def addName (id : ResultId) (name : String) : Build Unit := do
  requireAllocated id
  modify fun builder => builder.addName id name

/-- Records and emits the semantic of an id. -/
def addSemantic (id : ResultId) (semantic : String) : Build Unit := do
  requireAllocated id
  modify fun builder => builder.addSemantic id semantic

end Build

end ShaderLang
