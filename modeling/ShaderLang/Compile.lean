import ShaderLang.Check.Shader
import ShaderLang.Emit.Statement

/-!
# Compilation

A shader is checked, and if nothing was reported it is emitted into a module of its own.  Its
elements are emitted by kind: generics, structs, members, sampler states, methods.  Compositions
have no instructions.
-/

namespace ShaderLang

/-! ## Emission -/

/-- Binds a generic parameter, which has no instructions. -/
def Generic.emit (generic : Generic) (annotations : Annotations) : Emit Unit := do
  let type ← annotations.require generic.node .generic generic.name
  Emit.bindMember generic.name (.generic type)

/-- Registers the type of a struct. -/
def Struct.emit (struct : Struct) (annotations : Annotations) : Emit Unit := do
  let type ← annotations.require struct.node .struct struct.name
  let _ ← Emit.inModule (Build.register type)

/-- Emits the semantic of an id, if it has one. -/
def Emit.addOptionalSemantic (id : ResultId) : Option String → Build Unit
  | none => pure ()
  | some semantic => Build.addSemantic id semantic

/-- Emits the variable of a member with its semantic, its name and its initial value. -/
def Member.emit (member : Member) (annotations : Annotations) : Emit Unit := do
  let type ← annotations.require member.node .member member.name
  let cell ← Emit.inModule do
    let typeId ← Build.register type
    let cell ← Build.define fun result => .cell result typeId .function
    Emit.addOptionalSemantic cell member.semantic
    Build.addName cell member.name
    return cell
  let valueId ← Expression.emitOptional annotations member.value
  Emit.storeOptional cell valueId
  Emit.bindMember member.name (.cell cell type)

/-- Emits the variable of a sampler state. -/
def Sampler.emit (sampler : Sampler) (annotations : Annotations) : Emit Unit := do
  let type ← annotations.require sampler.node .sampler sampler.name
  let cell ← Emit.defineCell sampler.name type .uniformConstant
  Emit.bindMember sampler.name (.cell cell type)

/-- The signature that a method is annotated with. -/
def Method.signature (method : Method) (annotations : Annotations) : Emit Signature :=
  match annotations.type? method.node with
  | some (.function returned parameters) => pure ⟨returned, parameters⟩
  | some type => throw (.invalidSignature method.name type.text method.location)
  | none => throw (.invalidSignature method.name "<unresolved>" method.location)

/-- What analysis recorded about a method whose types are resolved. -/
def Method.checkedInfo (method : Method) (annotations : Annotations) : Emit MethodInfo :=
  match annotations.method? method.node with
  | some info =>
      if info.state = .typeResolved then
        pure info
      else
        throw (.emission (.methodNotChecked method.name))
  | none => throw (.emission (.methodNotChecked method.name))

/-- Emits a parameter of a method. -/
def Parameter.emit (parameter : Parameter) (annotations : Annotations) : Emit Unit := do
  let type ← annotations.require parameter.node .parameter parameter.name
  let _ ← Emit.addParameter parameter.name type

/-- Emits the body block of a method, if the method has a body. -/
def Method.emitBody (annotations : Annotations) : Option (List Statement) → Emit Unit
  | none => pure ()
  | some body => do
      let _ ← Emit.createBlock
      Statement.emitAll annotations body

/-- Emits a method. -/
def Method.emit (method : Method) (annotations : Annotations) : Emit Unit := do
  let info ← method.checkedInfo annotations
  let signature ← method.signature annotations
  let _ ← Emit.createFunction method.name signature info.entryPoint
  method.parameters.forM fun parameter => parameter.emit annotations
  Method.emitBody annotations method.body
  let _ ← Emit.endFunction

/-- Emits an element of a shader. -/
def Element.emit (annotations : Annotations) : Element → Emit Unit
  | member element => element.emit annotations
  | method element => element.emit annotations
  | struct element => element.emit annotations
  | sampler element => element.emit annotations
  | composition _ => pure ()

/-- Emits a shader. -/
def Shader.emit (shader : Shader) (annotations : Annotations) : Emit Unit := do
  shader.generics.forM fun generic => generic.emit annotations
  shader.structs.forM fun struct => struct.emit annotations
  shader.members.forM fun member => member.emit annotations
  shader.samplers.forM fun sampler => sampler.emit annotations
  shader.methods.forM fun method => method.emit annotations

/-! ## Shaders -/

/-- What a compilation gives: the module and its functions in order of emission. -/
structure CompiledShader where
  shaderModule : ShaderModule
  functions : List FunctionRecord
  deriving DecidableEq

/-- Compiles a shader.  All reports of the check are given together; emission stops at its first
one. -/
def Shader.compile (shader : Shader) (options : CompileOptions) :
    Except (List Diagnostic) CompiledShader :=
  let (table, reports) := shader.analyse
  if reports.isEmpty then
    match shader.emit table.annotations (.initial options) with
    | .ok _ emitter => .ok ⟨emitter.target.finish, emitter.functions.finished⟩
    | .error diagnostic _ => .error [diagnostic]
  else
    .error reports

end ShaderLang
