import ShaderLang.Source.Expression

/-!
# Shaders

Statements, the elements of a shader, and the shader itself, which is what a compilation takes.
-/

namespace ShaderLang

/-! ## Statements -/

/-- A statement of a method body. -/
inductive Statement where
  | declare (node : NodeId) (location : Location) (type : TypeName) (name : String)
      (value : Option Expression)
  | assign (location : Location) (target value : Expression)
  | evaluate (value : Expression)
  | exit (location : Location) (value : Option Expression)
  | block (location : Location) (body : List Statement)

namespace Statement

/-- The position of a statement. -/
def location : Statement → Location
  | declare _ location .. | assign location .. | exit location _ | block location _ => location
  | evaluate value => value.location

mutual

/-- Whether a statement is a return, or a block whose last statement returns. -/
def returns : Statement → Bool
  | exit .. => true
  | block _ body => endsWithReturn body
  | _ => false

/-- Whether the last of some statements returns. -/
def endsWithReturn : List Statement → Bool
  | [] => false
  | statement :: rest => if rest.isEmpty then returns statement else endsWithReturn rest

end

end Statement

/-! ## Elements -/

/-- An attribute in front of an element. -/
structure Attribute where
  name : String
  arguments : List Expression
  deriving DecidableEq

/-- Whether a member is passed between stages, and how. -/
inductive StreamKind where
  | none
  | stream
  | patch
  deriving DecidableEq, Repr

/-- The storage modifier of a member. -/
inductive StorageModifier where
  | none
  | external
  | static
  | groupShared
  deriving DecidableEq, Repr

/-- A variable of a shader. -/
structure Member where
  node : NodeId
  location : Location
  type : TypeName
  name : String
  value : Option Expression
  semantic : Option String
  stream : StreamKind
  storage : StorageModifier
  attributes : List Attribute
  deriving DecidableEq

/-- A parameter of a method. -/
structure Parameter where
  node : NodeId
  type : TypeName
  name : String
  semantic : Option String
  storage : Option String
  deriving DecidableEq

/-- A method of a shader.  A method without a body is only declared. -/
structure Method where
  node : NodeId
  location : Location
  returned : TypeName
  name : String
  parameters : List Parameter
  body : Option (List Statement)
  visibility : Option String
  storage : Option String
  attributes : List Attribute

/-- A field of a struct as it is written. -/
structure StructField where
  type : TypeName
  name : String
  deriving DecidableEq

/-- A struct of a shader. -/
structure Struct where
  node : NodeId
  location : Location
  name : String
  fields : List StructField
  deriving DecidableEq

/-- The two kinds of sampler states. -/
inductive SamplerKind where
  | plain
  | comparison
  deriving DecidableEq, Repr

/-- One setting of a sampler state. -/
structure SamplerSetting where
  name : String
  value : Expression
  deriving DecidableEq

/-- A sampler state of a shader.  Its settings are kept as written. -/
structure Sampler where
  node : NodeId
  location : Location
  kind : SamplerKind
  name : String
  settings : List SamplerSetting
  attributes : List Attribute
  deriving DecidableEq

/-- A slot of a shader that another shader fills. -/
structure Composition where
  node : NodeId
  location : Location
  mixin : String
  generics : List Expression
  name : String
  isArray : Bool
  attributes : List Attribute
  deriving DecidableEq

/-- An element of a shader. -/
inductive Element where
  | member (member : Member)
  | method (method : Method)
  | struct (struct : Struct)
  | sampler (sampler : Sampler)
  | composition (composition : Composition)

/-- The attributes in front of an element.  Structs have none. -/
def Element.attributes : Element → List Attribute
  | member element => element.attributes
  | method element => element.attributes
  | sampler element => element.attributes
  | composition element => element.attributes
  | struct _ => []

/-- A generic parameter of a shader. -/
structure Generic where
  node : NodeId
  location : Location
  type : TypeName
  name : String
  semantic : Option String
  storage : Option String
  deriving DecidableEq

/-- A shader: the unit of compilation. -/
structure Shader where
  name : String
  generics : List Generic
  elements : List Element

namespace Shader

/-- The members of a shader, in order. -/
def members (shader : Shader) : List Member :=
  shader.elements.filterMap fun
    | .member member => some member
    | _ => none

/-- The methods of a shader, in order. -/
def methods (shader : Shader) : List Method :=
  shader.elements.filterMap fun
    | .method method => some method
    | _ => none

/-- The structs of a shader, in order. -/
def structs (shader : Shader) : List Struct :=
  shader.elements.filterMap fun
    | .struct struct => some struct
    | _ => none

/-- The sampler states of a shader, in order. -/
def samplers (shader : Shader) : List Sampler :=
  shader.elements.filterMap fun
    | .sampler sampler => some sampler
    | _ => none

/-- The compositions of a shader, in order. -/
def compositions (shader : Shader) : List Composition :=
  shader.elements.filterMap fun
    | .composition composition => some composition
    | _ => none

end Shader

end ShaderLang
