import ShaderLang.Check.Shader
import ShaderLang.Proofs.NameTable
import ShaderLang.Proofs.Registration

/-!
# Well-typed shaders

The typing rules that a shader without reports satisfies, stated over the names that are visible at
each point.  The rules read the annotations that analysis leaves behind, because emission chooses
its instructions by them.
-/

namespace ShaderLang

/-! ## What names stand for -/

/-- The kinds of things that a name in a body can stand for. -/
inductive Role where
  | parameter
  | variable
  | generic
  deriving DecidableEq, Repr

/-- What a name in a body stands for, and its type. -/
structure Referent where
  role : Role
  type : ShaderType

/-- The type that a written type denotes, or the placeholder with its name. -/
def TypeName.denoted (written : TypeName) (table : SymbolTable) : ShaderType :=
  (Check.resolve written table).value

theorem TypeName.denoted_of_resolve {written : TypeName} {table : SymbolTable} {type : ShaderType}
    (resolved : written.resolve table = .ok type) :
    written.denoted table = type := by
  unfold TypeName.denoted Check.resolve
  rw [resolved]

/-- What the name of a generic parameter stands for. -/
def Generic.referent (table : SymbolTable) (generic : Generic) : String × Referent :=
  (generic.name, ⟨.generic, generic.type.denoted table⟩)

/-- What the name of a member stands for. -/
def Member.referent (table : SymbolTable) (member : Member) : String × Referent :=
  (member.name, ⟨.variable, member.type.denoted table⟩)

/-- What the name of a sampler state stands for. -/
def Sampler.referent (sampler : Sampler) : String × Referent :=
  (sampler.name, ⟨.variable, sampler.kind.type⟩)

/-- What the name of a parameter stands for. -/
def Parameter.referent (table : SymbolTable) (parameter : Parameter) : String × Referent :=
  (parameter.name, ⟨.parameter, parameter.type.denoted table⟩)

/-- The generic parameters and the variables of a shader, the latest first. -/
def Shader.referents (shader : Shader) (table : SymbolTable) : List (String × Referent) :=
  (shader.generics.map (Generic.referent table) ++ shader.members.map (Member.referent table) ++
    shader.samplers.map Sampler.referent).reverse

/-- The parameters of a method, the latest first. -/
def Method.referents (method : Method) (table : SymbolTable) : List (String × Referent) :=
  (method.parameters.map (Parameter.referent table)).reverse

/-- The names that the body of a method starts with. -/
def Method.names (method : Method) (shader : Shader) (table : SymbolTable) :
    NameTable Referent :=
  ⟨[method.referents table], shader.referents table⟩

/-! ## Expressions -/

/-- An expression has a type under the visible names.  The annotation of an operation is its
type. -/
inductive Expression.HasType (annotations : Annotations) (names : NameTable Referent) :
    Expression → ShaderType → Prop
  | literal {node : NodeId} {location : Location} {value : Literal} :
      HasType annotations names (.literal node location value) value.type
  | identifier {node : NodeId} {location : Location} {name : String} {referent : Referent}
      (found : names.lookup? name = some referent) :
      HasType annotations names (.identifier node location name) referent.type
  /-- Only variables of the shader are passed between stages. -/
  | stream {node : NodeId} {location : Location} {name : String} {type : ShaderType}
      (found : names.shader.lookup name = some ⟨.variable, type⟩) :
      HasType annotations names (.stream node location name) type
  | binary {node : NodeId} {location : Location} {operator : Operator}
      {left right : Expression} {type : ShaderType}
      (leftTyped : HasType annotations names left type)
      (rightTyped : HasType annotations names right type)
      (numeric : type.isNumeric = true)
      (annotated : annotations.type? node = some type) :
      HasType annotations names (.binary node location operator left right) type

/-- An expression that names something has the type of what it names. -/
theorem Expression.HasType.type_eq {annotations : Annotations} {names : NameTable Referent}
    {expression : Expression} {type : ShaderType} {referent : Referent}
    (typed : expression.HasType annotations names type)
    (resolved : expression.resolve? names = some referent) :
    referent.type = type := by
  cases typed with
  | literal => simp [Expression.resolve?] at resolved
  | identifier found =>
      have same : some _ = some referent := found.symm.trans resolved
      cases same
      rfl
  | stream found =>
      have same : some _ = some referent := found.symm.trans resolved
      cases same
      rfl
  | binary leftTyped rightTyped numeric annotated => simp [Expression.resolve?] at resolved

/-- Every operator has an operation on a numeric type. -/
theorem ShaderType.exists_arithmetic {type : ShaderType} (numeric : type.isNumeric = true)
    (operator : Operator) :
    ∃ operation, type.element?.bind operator.arithmetic? = some operation := by
  unfold ShaderType.isNumeric at numeric
  cases element : type.element? with
  | none => simp [element] at numeric
  | some scalar =>
      rw [element] at numeric
      cases operator <;> cases scalar <;>
        first
        | exact ⟨_, rfl⟩
        | simp [ScalarType.isNumeric] at numeric

/-! ## Statements -/

/-- A statement that is no block is well typed, and leaves the names that the next one sees. -/
inductive Statement.TypedSimple (table : SymbolTable) (returned : ShaderType)
    (names : NameTable Referent) : Statement → NameTable Referent → Prop
  | declare {node : NodeId} {location : Location} {written : TypeName} {name : String}
      {value : Option Expression}
      (annotated : table.annotations.type? node = some (written.denoted table))
      (emittable : (written.denoted table).isEmittable = true)
      (valueTyped : ∀ expression ∈ value,
        expression.HasType table.annotations names (written.denoted table)) :
      TypedSimple table returned names (.declare node location written name value)
        (names.bind name ⟨.variable, written.denoted table⟩)
  | assign {location : Location} {target value : Expression} {type : ShaderType}
      (valueTyped : value.HasType table.annotations names type)
      (targetTyped : target.HasType table.annotations names type)
      (assignable : target.isAssignable = true) :
      TypedSimple table returned names (.assign location target value) names
  | evaluate {value : Expression} {type : ShaderType}
      (valueTyped : value.HasType table.annotations names type) :
      TypedSimple table returned names (.evaluate value) names
  | exit {location : Location} {value : Option Expression}
      (valueTyped : ∀ expression ∈ value,
        expression.HasType table.annotations names returned)
      (absent : value = none → returned.isVoid = true) :
      TypedSimple table returned names (.exit location value) names

/-- Statements are well typed in order.  A block has a scope of its own. -/
inductive Statement.TypedAll (table : SymbolTable) (returned : ShaderType) :
    NameTable Referent → List Statement → Prop
  | nil {names : NameTable Referent} : TypedAll table returned names []
  | simple {names names' : NameTable Referent} {statement : Statement} {rest : List Statement}
      (typed : statement.TypedSimple table returned names names')
      (restTyped : TypedAll table returned names' rest) :
      TypedAll table returned names (statement :: rest)
  | block {names : NameTable Referent} {location : Location} {body rest : List Statement}
      (bodyTyped : TypedAll table returned names.push body)
      (restTyped : TypedAll table returned names rest) :
      TypedAll table returned names (.block location body :: rest)

/-! ## Shaders -/

/-- A method is well typed: its signature, its parameters and its body. -/
structure Method.Typed (shader : Shader) (table : SymbolTable) (method : Method) : Prop where
  info : table.annotations.method? method.node =
    some ⟨EntryPoint.ofMethodName? method.name, .typeResolved⟩
  signature : table.annotations.type? method.node =
    some (.function (method.returned.denoted table)
      (method.parameters.map fun parameter => parameter.type.denoted table))
  returned : (method.returned.denoted table).isEmittable = true
  parameters : ∀ parameter ∈ method.parameters,
    table.annotations.type? parameter.node = some (parameter.type.denoted table) ∧
      (parameter.type.denoted table).isEmittable = true
  body : ∀ body ∈ method.body,
    Statement.TypedAll table (method.returned.denoted table) (method.names shader table) body ∧
      ((method.returned.denoted table).isVoid = true ∨ Statement.endsWithReturn body = true)

/-- A member is well typed: its value is a literal of its type. -/
structure Member.Typed (table : SymbolTable) (member : Member) : Prop where
  annotated : table.annotations.type? member.node = some (member.type.denoted table)
  emittable : (member.type.denoted table).isEmittable = true
  value : ∀ expression ∈ member.value, ∃ node location literal,
    expression = .literal node location literal ∧ literal.type = member.type.denoted table

/-- A shader is well typed under the symbol table that analysis leaves behind. -/
structure Shader.Typed (shader : Shader) (table : SymbolTable) : Prop where
  generics : ∀ generic ∈ shader.generics,
    table.annotations.type? generic.node = some (generic.type.denoted table)
  structs : ∀ struct ∈ shader.structs, ∃ type,
    table.annotations.type? struct.node = some type ∧ type.isEmittable = true
  members : ∀ member ∈ shader.members, member.Typed table
  samplers : ∀ sampler ∈ shader.samplers,
    table.annotations.type? sampler.node = some sampler.kind.type
  methods : ∀ method ∈ shader.methods, method.Typed shader table

end ShaderLang
