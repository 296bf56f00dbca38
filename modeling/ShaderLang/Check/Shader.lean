import ShaderLang.Check.Statement

/-!
# The checking of shaders

A shader is checked in a frame that stays open.  First its declarations are checked by kind:
generics, structs, members, sampler states, compositions and method signatures.  Their symbols make
up the symbol of the shader; a symbol is a component even when its name is taken and it cannot be
declared.  Then come the arguments of attributes, and last the method bodies, so that both see every
declaration.
-/

namespace ShaderLang

/-! ## Declarations -/

/-- Declares a generic parameter. -/
def Generic.check (generic : Generic) : Check Symbol := do
  let type ← Check.resolve generic.type
  Check.annotate generic.node type
  let symbol : Symbol := ⟨generic.name, .binding, .generic, type⟩
  Check.declareUnique symbol generic.location
  return symbol

/-- Resolves the type of a field. -/
def StructField.check (field : StructField) : Check Field := do
  let type ← Check.resolve field.type
  return ⟨field.name, type⟩

/-- Declares a struct and its type.  Its fields can use the types declared before it.  A name that
is a type already is reported, and the earlier type stays. -/
def Struct.check (struct : Struct) : Check Symbol := do
  let fields ← Check.collect StructField.check struct.fields
  let type : ShaderType := .struct struct.name fields
  let symbol : Symbol := ⟨struct.name, .struct, .none, type⟩
  Check.annotate struct.node type
  let earlier ← Check.read fun table => table.resolveType? struct.name
  match earlier with
  | some _ => Check.report [.redeclaration .struct struct.name struct.location]
  | none => do
      Check.update fun table => table.declareType struct.name type
      Check.declare symbol
  return symbol

/-- Where the value of a member lives. -/
def Member.symbolStorage (member : Member) : Storage :=
  match member.stream, member.storage with
  | .stream, _ | .patch, _ => .stream
  | .none, .static => .static
  | .none, _ => .none

/-- Checks the initial value of a member of type `expected`, which has to be a literal. -/
def Member.checkValue (member : Member) (expected : ShaderType) : Check Unit :=
  match member.value with
  | none => pure ()
  | some value =>
      match value with
      | .literal .. => checkInitializer .shaderLevel expected (some value)
      | _ => Check.report [.nonConstantInitializer member.name value.location]

/-- Declares a member. -/
def Member.check (member : Member) : Check Symbol := do
  let type ← Check.resolve member.type
  member.checkValue type
  Check.annotate member.node type
  let symbol : Symbol := ⟨member.name, .binding, member.symbolStorage, type⟩
  Check.declareUnique symbol member.location
  return symbol

/-- The type of a sampler state. -/
def SamplerKind.type : SamplerKind → ShaderType
  | plain => .sampler
  | comparison => .comparisonSampler

/-- Declares a sampler state. -/
def Sampler.check (sampler : Sampler) : Check Symbol := do
  let type := sampler.kind.type
  Check.annotate sampler.node type
  let symbol : Symbol := ⟨sampler.name, .binding, .uniform, type⟩
  Check.declareUnique symbol sampler.location
  return symbol

/-- Declares a composition.  Its type is the shader it names, of which no component is known. -/
def Composition.check (composition : Composition) : Check Symbol := do
  let type : ShaderType := .shader composition.mixin []
  Check.annotate composition.node type
  let symbol : Symbol := ⟨composition.name, .composition, .none, type⟩
  Check.declareUnique symbol composition.location
  return symbol

/-! ## Methods -/

/-- Resolves the type of a parameter, declares it under its description and adds the parameter to
the overload that is being registered. -/
def Parameter.check (parameter : Parameter) : Check ShaderType := do
  let type ← Check.resolve parameter.type
  Check.update fun table =>
    if type.isUndefined then table else table.declareType type.text type
  Check.attempt fun table => table.addParameter ⟨parameter.name, .binding, .function, type⟩
  Check.annotate parameter.node type
  return type

/-- Declares a method: resolves its signature and registers it as an overload.  An earlier overload
with an equal signature is reported. -/
def Method.declare (method : Method) : Check Symbol := do
  let earlier ← Check.read fun table => table.overloadsOf method.name
  Check.update fun table => table.registerFunction method.name
  let returned ← Check.resolve method.returned
  let parameters ← Check.collect Parameter.check method.parameters
  let signature : Signature := ⟨returned, parameters⟩
  if earlier.any fun overload => overload.signature = some signature then
    Check.report [.redeclaration .method method.name method.location]
  Check.attempt fun table => table.completeFunction signature
  Check.annotate method.node signature.type
  Check.update fun table =>
    table.annotateMethod method.node ⟨EntryPoint.ofMethodName? method.name, .typeResolved⟩
  let symbol : Symbol := ⟨method.name, .method, .none, signature.type⟩
  Check.declare symbol
  return symbol

/-- The return type that the annotation of a method gives.  A node that is not annotated with a
function type returns nothing. -/
def Method.annotatedReturn (method : Method) (table : SymbolTable) : ShaderType :=
  match table.annotations.type? method.node with
  | some (.function returned _) => returned
  | _ => .void

/-- What the body of a method is checked against. -/
def Method.context (method : Method) (table : SymbolTable) : BodyContext where
  entryPoint := (table.annotations.method? method.node).bind MethodInfo.entryPoint
  returned := method.annotatedReturn table

/-- Declares a parameter as a variable of the body, with the type of its annotation. -/
def Parameter.bind (parameter : Parameter) : Check Unit := do
  let type ← Check.read fun table =>
    (table.annotations.type? parameter.node).getD (.undefined parameter.type.name)
  Check.declare ⟨parameter.name, .binding, .function, type⟩

/-- The report that a body can end without returning the value it has to. -/
def Method.missingReturnReports (method : Method) (returned : ShaderType)
    (body : List Statement) : List Diagnostic :=
  if returned.isVoid || returned.isUndefined || Statement.endsWithReturn body then
    []
  else
    [.missingReturn method.name method.location]

/-- Checks the body of a method, if it has one, in a frame that holds its parameters. -/
def Method.checkBody (method : Method) : Check Unit :=
  match method.body with
  | none => pure ()
  | some body => do
      let context ← Check.read method.context
      Check.inFrame do
        Check.forEach Parameter.bind method.parameters
        Statement.checkAll context body
        Check.report (method.missingReturnReports context.returned body)

/-! ## Shaders -/

namespace Shader

/-- Checks the declarations of a shader and gives the symbols of its components. -/
def checkDeclarations (shader : Shader) : Check (List Symbol) := do
  let generics ← Check.collect Generic.check shader.generics
  let structs ← Check.collect Struct.check shader.structs
  let members ← Check.collect Member.check shader.members
  let samplers ← Check.collect Sampler.check shader.samplers
  let compositions ← Check.collect Composition.check shader.compositions
  let methods ← Check.collect Method.declare shader.methods
  return generics ++ structs ++ members ++ samplers ++ compositions ++ methods

/-- Every argument of an attribute in a shader, in order. -/
def attributeArguments (shader : Shader) : List Expression :=
  shader.elements.flatMap fun element => element.attributes.flatMap Attribute.arguments

/-- Checks an argument of an attribute. -/
def checkArgument (argument : Expression) : Check Unit := do
  let _ ← argument.check .shaderLevel

/-- Checks a shader. -/
def check (shader : Shader) : Check Unit := do
  Check.update SymbolTable.push
  let components ← shader.checkDeclarations
  Check.update fun table => table.setShader ⟨shader.name, components⟩
  Check.forEach checkArgument shader.attributeArguments
  Check.forEach Method.checkBody shader.methods

/-- The symbol table and the reports after checking a shader from the empty table. -/
def analyse (shader : Shader) : SymbolTable × List Diagnostic :=
  let checked := shader.check .empty
  (checked.table, checked.reports)

end Shader

end ShaderLang
