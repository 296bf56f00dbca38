import ShaderLang.Emit.ModuleBuilder
import ShaderLang.SymbolTable

/-!
# Building functions

A function builder follows the function that is being emitted through its states and keeps the
names that are bound in it.  An emitter pairs it with the module builder that it emits into.
-/

namespace ShaderLang

/-! ## States -/

/-- How a name is bound in emitted code. -/
inductive Binding where
  /-- A value that is used directly. -/
  | value (id : ResultId) (type : ShaderType)
  /-- A variable that is loaded from and stored to. -/
  | cell (id : ResultId) (type : ShaderType)
  /-- A generic parameter, which has no value. -/
  | generic (type : ShaderType)
  deriving DecidableEq

/-- The bindings of one scope, the latest first. -/
abbrev Scope :=
  List (String × Binding)

/-- The function that is being emitted. -/
structure OpenFunction where
  name : String
  id : ResultId
  returned : ShaderType
  entryPoint : Option EntryPoint
  state : MethodState
  /-- Whether the open block ends in a return already. -/
  terminated : Bool
  deriving DecidableEq

/-- A function that has been emitted. -/
structure FunctionRecord where
  name : String
  id : ResultId
  entryPoint : Option EntryPoint
  state : MethodState
  deriving DecidableEq, Repr

/-- The state of building functions. -/
structure FunctionBuilder where
  current : Option OpenFunction
  /-- The emitted functions in order. -/
  finished : List FunctionRecord
  /-- The open scopes, the innermost first. -/
  scopes : List Scope
  /-- The bindings of the shader: members, sampler states and generics. -/
  members : Scope
  deriving DecidableEq

namespace FunctionBuilder

/-- The builder that has emitted nothing. -/
def initial : FunctionBuilder :=
  ⟨none, [], [], []⟩

/-- The state of the open function. -/
def state? (builder : FunctionBuilder) : Option MethodState :=
  builder.current.map OpenFunction.state

/-- Whether the open block ends in a return already. -/
def isTerminated (builder : FunctionBuilder) : Bool :=
  builder.current.any OpenFunction.terminated

/-- The binding of a name of the shader. -/
def member? (builder : FunctionBuilder) (name : String) : Option Binding :=
  builder.members.lookup name

/-- The binding of a name: the innermost local one, or else that of the shader. -/
def lookup? (builder : FunctionBuilder) (name : String) : Option Binding :=
  (builder.scopes.findSome? fun scope => scope.lookup name).or (builder.member? name)

/-- Opens a scope. -/
def pushScope (builder : FunctionBuilder) : FunctionBuilder :=
  { builder with scopes := [] :: builder.scopes }

/-- The builder without its innermost scope. -/
def dropScope (builder : FunctionBuilder) : FunctionBuilder :=
  { builder with scopes := builder.scopes.tail }

/-- Binds a name of the shader. -/
def bindMember (builder : FunctionBuilder) (name : String) (binding : Binding) :
    FunctionBuilder :=
  { builder with members := (name, binding) :: builder.members }

end FunctionBuilder

/-- Everything that emission writes into. -/
structure Emitter where
  target : ModuleBuilder
  functions : FunctionBuilder

/-- The emitter of an empty module. -/
def Emitter.initial (options : CompileOptions) : Emitter :=
  ⟨.initial options, .initial⟩

/-- A step of emission. -/
abbrev Emit :=
  EStateM Diagnostic Emitter

namespace Emit

/-- Runs a step of building the module. -/
def inModule {α : Type} (step : Build α) : Emit α := fun emitter =>
  match step emitter.target with
  | .ok value target => .ok value { emitter with target := target }
  | .error diagnostic target => .error diagnostic { emitter with target := target }

/-- Changes the function builder. -/
def updateFunctions (change : FunctionBuilder → FunctionBuilder) : Emit Unit :=
  modify fun emitter => { emitter with functions := change emitter.functions }

/-! ## Scopes -/

/-- Opens a scope. -/
def pushScope : Emit Unit :=
  updateFunctions FunctionBuilder.pushScope

/-- Closes the innermost scope. -/
def popScope : Emit Unit := do
  match (← get).functions.scopes with
  | [] => throw .scopeUnderflow
  | _ :: _ => updateFunctions FunctionBuilder.dropScope

/-- Runs a step in a scope of its own, which is closed afterwards, also when the step fails. -/
def inScope {α : Type} (step : Emit α) : Emit α := fun emitter =>
  match step { emitter with functions := emitter.functions.pushScope } with
  | .ok value after => .ok value { after with functions := after.functions.dropScope }
  | .error diagnostic after =>
      .error diagnostic { after with functions := after.functions.dropScope }

/-- Binds a name in the innermost scope. -/
def bindLocal (name : String) (binding : Binding) : Emit Unit := do
  match (← get).functions.scopes with
  | [] => throw .noActiveScope
  | scope :: rest =>
      updateFunctions fun builder => { builder with scopes := ((name, binding) :: scope) :: rest }

/-- Binds a name of the shader. -/
def bindMember (name : String) (binding : Binding) : Emit Unit :=
  updateFunctions fun builder => builder.bindMember name binding

/-! ## Functions -/

/-- Fails unless the open function is in the state that a step needs, and gives it otherwise. -/
def requireState (state : MethodState) (step : BuildStep) : Emit OpenFunction := do
  match (← get).functions.current with
  | none => throw (.emission (.noFunctionFor step))
  | some function =>
      if function.state = state then
        return function
      else
        throw (.emission (.wrongState step function.name function.state))

/-- The instruction in front of a function that is an entry point. -/
def emitEntryPoint (function : ResultId) (name : String) : Option EntryPoint → Build Unit
  | none => pure ()
  | some entryPoint => Build.emit (.entryPoint entryPoint.executionModel function name)

/-- Registers the types of a function, and emits its start and its name. -/
def startFunction (name : String) (signature : Signature) (entryPoint : Option EntryPoint) :
    Build ResultId := do
  let functionType ← Build.register signature.type
  let returned ← Build.register signature.returned
  let id ← Build.freshId
  emitEntryPoint id name entryPoint
  Build.emit (.uncontrolled id returned functionType)
  Build.addName id name
  return id

/-- Starts a function in a scope of its own, unless one is open. -/
def createFunction (name : String) (signature : Signature) (entryPoint : Option EntryPoint) :
    Emit ResultId := do
  match (← get).functions.current with
  | some function => throw (.emission (.functionStillOpen name function.name))
  | none => do
      let id ← inModule (startFunction name signature entryPoint)
      pushScope
      updateFunctions fun builder =>
        { builder with
          current := some ⟨name, id, signature.returned, entryPoint, .declared, false⟩ }
      return id

/-- Emits a parameter and its name. -/
def emitParameter (name : String) (type : ShaderType) : Build ResultId := do
  let typeId ← Build.register type
  let id ← Build.define fun result => .functionParameter result typeId
  Build.addName id name
  return id

/-- Adds a parameter to the open function, and binds its name. -/
def addParameter (name : String) (type : ShaderType) : Emit ResultId := do
  let _ ← requireState .declared .addParameter
  let id ← inModule (emitParameter name type)
  bindLocal name (.value id type)
  return id

/-- Opens the body block of the open function. -/
def createBlock : Emit ResultId := do
  let function ← requireState .declared .openBlock
  let label ← inModule (Build.define .label)
  updateFunctions fun builder =>
    { builder with current := some { function with state := .blockOpen } }
  return label

/-- The instruction that returns a value or nothing. -/
def returnInstruction : Option ResultId → Instruction
  | none => .returnNothing
  | some value => .returnValue value

/-- Emits a return from the open block. -/
def emitReturn (value : Option ResultId) : Emit Unit := do
  let function ← requireState .blockOpen .exit
  inModule (Build.emit (returnInstruction value))
  updateFunctions fun builder =>
    { builder with current := some { function with terminated := true } }

/-- Ends a block that is open and does not end in a return.  Only a function without a value can
return at the end of its block. -/
def closeBlock (function : OpenFunction) : Emit Unit :=
  if function.state ≠ .blockOpen ∨ function.terminated then
    pure ()
  else if function.returned.isVoid then
    inModule (Build.emit .returnNothing)
  else
    throw (.missingReturn function.name .unknown)

/-- Ends the open function and gives its record.  The function is no longer open, even if its block
cannot be closed. -/
def endFunction : Emit FunctionRecord := do
  match (← get).functions.current with
  | none => throw (.emission .noFunctionOpen)
  | some function => do
      updateFunctions fun builder => { builder with current := none }
      closeBlock function
      inModule (Build.emit .functionEnd)
      let record : FunctionRecord :=
        ⟨function.name, function.id, function.entryPoint, .finalized⟩
      updateFunctions fun builder =>
        { builder with scopes := [], finished := builder.finished ++ [record] }
      return record

end Emit

end ShaderLang
