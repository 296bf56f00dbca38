import ShaderLang.Instruction.Basic
import ShaderLang.Method
import ShaderLang.Source.Expression
import ShaderLang.Type.Equality
import ShaderLang.Type.Text

/-!
# Diagnostics

Everything that analysis or emission can report: the cause, its position if it has one, and the
message.
-/

namespace ShaderLang

/-! ## Faults of emission -/

/-- The things that need a recorded type to be emitted. -/
inductive TypedThing where
  | struct
  | generic
  | member
  | sampler
  | parameter
  | localVariable
  deriving DecidableEq, Repr

/-- The word for a thing that needs a type. -/
def TypedThing.name : TypedThing → String
  | struct => "struct"
  | generic => "generic"
  | member => "member"
  | sampler => "sampler"
  | parameter => "parameter"
  | localVariable => "local"

/-- The steps of building a function that depend on its state. -/
inductive BuildStep where
  | addParameter
  | openBlock
  | exit
  deriving DecidableEq, Repr

/-- The words for a step of building a function. -/
def BuildStep.name : BuildStep → String
  | addParameter => "add a parameter"
  | openBlock => "open a block"
  | exit => "return"

/-- Why emission, or the registration of a function, cannot go on. -/
inductive EmissionFault where
  | parameterOutsideFunction
  | noFunctionRegistering
  | noInstructionForm (type : ShaderType)
  | voidConstant
  | notAllocated (id : ResultId)
  | functionStillOpen (name openName : String)
  | wrongState (step : BuildStep) (name : String) (state : MethodState)
  | noFunctionFor (step : BuildStep)
  | noFunctionOpen
  | notBound (name : String)
  | streamNotBound (name : String)
  | genericRead (name : String)
  | parameterAssigned (name : String)
  | genericAssigned (name : String)
  | targetNotVariable
  | untyped (thing : TypedThing) (name : String)
  | untypedOperation (operator : Operator)
  | methodNotChecked (name : String)
  | other (message : String)
  deriving DecidableEq

/-- The message of an emission fault. -/
def EmissionFault.message : EmissionFault → String
  | parameterOutsideFunction => "parameter declared outside a function"
  | noFunctionRegistering => "no function is being registered"
  | noInstructionForm type => "type '" ++ type.text ++ "' has no instruction form"
  | voidConstant => "void has no constants"
  | notAllocated id => "%" ++ toString id ++ " has not been allocated"
  | functionStillOpen name openName =>
      "cannot start '" ++ name ++ "' while '" ++ openName ++ "' is still open"
  | wrongState step name state =>
      "cannot " ++ step.name ++ " in '" ++ name ++ "' while it is " ++ state.name
  | noFunctionFor step => "cannot " ++ step.name ++ " with no function open"
  | noFunctionOpen => "no function is open"
  | notBound name => "'" ++ name ++ "' is not bound"
  | streamNotBound name => "stream '" ++ name ++ "' is not bound"
  | genericRead name =>
      "generic parameter '" ++ name ++ "' has no value before specialization"
  | parameterAssigned name => "parameter '" ++ name ++ "' cannot be assigned"
  | genericAssigned name => "generic parameter '" ++ name ++ "' cannot be assigned"
  | targetNotVariable => "assignment target is not a variable"
  | untyped thing name => thing.name ++ " '" ++ name ++ "' has no type"
  | untypedOperation operator => "'" ++ operator.sign ++ "' expression has no type"
  | methodNotChecked name => "method '" ++ name ++ "' has not been type checked"
  | other message => message

/-! ## Diagnostics -/

/-- A report of analysis or emission. -/
inductive Diagnostic where
  | unresolvedType (name : String) (location : Location)
  | invalidSignature (method found : String) (location : Location)
  | missingMember (container name : String) (kind : SymbolKind)
  | scopeUnderflow
  | noActiveScope
  | undefinedVariable (name : String) (location : Location)
  | typeMismatch (expected found : ShaderType) (location : Location)
  | invalidOperand (operator : Operator) (type : ShaderType) (location : Location)
  | invalidArraySize (name : String) (location : Location)
  | invalidAssignmentTarget (location : Location)
  | nonConstantInitializer (name : String) (location : Location)
  | missingReturn (method : String) (location : Location)
  | streamsOutsideEntryPoint (name : String) (location : Location)
  | redeclaration (kind : SymbolKind) (name : String) (location : Location)
  | literalOutOfRange (literal : String) (type : ShaderType) (location : Location)
  | emission (fault : EmissionFault)
  deriving DecidableEq

namespace Diagnostic

/-- The position of a diagnostic, if its cause has one. -/
def location? : Diagnostic → Option Location
  | unresolvedType _ location | invalidSignature _ _ location | undefinedVariable _ location
  | typeMismatch _ _ location | invalidOperand _ _ location | invalidArraySize _ location
  | invalidAssignmentTarget location | nonConstantInitializer _ location
  | missingReturn _ location | streamsOutsideEntryPoint _ location | redeclaration _ _ location
  | literalOutOfRange _ _ location => some location
  | missingMember .. | scopeUnderflow | noActiveScope | emission _ => none

/-- The cause of a diagnostic in words. -/
def cause : Diagnostic → String
  | unresolvedType name _ => "Unresolved type '" ++ name ++ "'"
  | invalidSignature method found _ =>
      "Method '" ++ method ++ "' has type '" ++ found ++ "' instead of a function type"
  | missingMember container name kind =>
      "'" ++ container ++ "' has no " ++ kind.name ++ " named '" ++ name ++ "'"
  | scopeUnderflow => "Scope stack underflow"
  | noActiveScope => "No scope open to declare into"
  | undefinedVariable name _ => "Undefined variable '" ++ name ++ "'"
  | typeMismatch expected found _ =>
      "Type mismatch: expected '" ++ expected.text ++ "', found '" ++ found.text ++ "'"
  | invalidOperand operator type _ =>
      "Operator '" ++ operator.sign ++ "' cannot be applied to '" ++ type.text ++ "'"
  | invalidArraySize name _ =>
      "Array size of '" ++ name ++ "' must be a positive integer literal"
  | invalidAssignmentTarget _ => "Left side of assignment is not assignable"
  | nonConstantInitializer name _ => "Initializer of member '" ++ name ++ "' must be a literal"
  | missingReturn method _ =>
      "Method '" ++ method ++ "' does not return a value on every path"
  | streamsOutsideEntryPoint name _ =>
      "'streams." ++ name ++ "' can only be used inside an entry point"
  | redeclaration kind name _ => "Redeclaration of " ++ kind.name ++ " '" ++ name ++ "'"
  | literalOutOfRange literal type _ =>
      "Literal '" ++ literal ++ "' does not fit in '" ++ type.text ++ "'"
  | emission fault => "Code generation error: " ++ fault.message

/-- The message of a diagnostic: the cause, then the position if it is known. -/
def message (diagnostic : Diagnostic) : String :=
  match diagnostic.location? with
  | some location =>
      if location.isKnown then
        diagnostic.cause ++ " at " ++ location.text
      else
        diagnostic.cause
  | none => diagnostic.cause

end Diagnostic

end ShaderLang
