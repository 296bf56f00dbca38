import ShaderLang.Emit.FunctionBuilder
import ShaderLang.Source.Expression
import ShaderLang.Source.Shader

/-!
# The emission of expressions and statements

Operands are emitted before operations, the left one first, and each expression gives the id that
holds its value.  Statements are emitted in order, and nothing is emitted behind a return.
-/

namespace ShaderLang

/-! ## Expressions -/

/-- The scalar type and the value of a literal. -/
def Literal.constant : Literal → ScalarType × Constant
  | bool value => (.bool, .int (if value then 1 else 0))
  | int value => (.int, .int value)
  | float value => (.float, .float value)

/-- The arithmetic operation of an operator on an element type, if there is one. -/
def Operator.arithmetic? (operator : Operator) (element : ScalarType) : Option Arithmetic :=
  if !element.isNumeric then
    none
  else if element.isFloat then
    match operator with
    | add => some .floatAdd
    | sub => some .floatSub
    | mul => some .floatMul
    | div => some .floatDiv
  else
    match operator with
    | add => some .intAdd
    | sub => some .intSub
    | mul => some .intMul
    | div => if element.isUnsigned then some .unsignedDiv else some .signedDiv

/-- The value of a bound name.  A variable is loaded. -/
def Binding.emitRead (name : String) : Binding → Emit ResultId
  | value id _ => pure id
  | cell id type => Emit.inModule do
      let typeId ← Build.register type
      Build.define fun result => .load result typeId id
  | generic _ => throw (.emission (.genericRead name))

/-- Emits an operation on two values.  The annotated type of its node decides the instruction. -/
def emitOperation (annotations : Annotations) (node : NodeId) (location : Location)
    (operator : Operator) (left right : ResultId) : Emit ResultId :=
  match annotations.type? node with
  | none => throw (.emission (.untypedOperation operator))
  | some type =>
      match type.element?.bind operator.arithmetic? with
      | none => throw (.invalidOperand operator type location)
      | some operation => Emit.inModule do
          let typeId ← Build.register type
          Build.define fun result => .arithmetic operation result typeId left right

/-- Emits an expression and gives the id of its value. -/
def Expression.emit (annotations : Annotations) : Expression → Emit ResultId
  | .literal _ _ value =>
      Emit.inModule (Build.registerConstant value.constant.1 value.constant.2)
  | .identifier _ _ name => do
      match (← get).functions.lookup? name with
      | some binding => binding.emitRead name
      | none => throw (.emission (.notBound name))
  | .stream _ _ name => do
      match (← get).functions.member? name with
      | some binding => binding.emitRead name
      | none => throw (.emission (.streamNotBound name))
  | .binary node location operator left right => do
      let leftId ← left.emit annotations
      let rightId ← right.emit annotations
      emitOperation annotations node location operator leftId rightId

/-- Emits an expression if there is one. -/
def Expression.emitOptional (annotations : Annotations) :
    Option Expression → Emit (Option ResultId)
  | none => pure none
  | some expression => do
      let id ← expression.emit annotations
      return some id

/-! ## Statements -/

/-- Emits a variable with its name. -/
def Emit.defineCell (name : String) (type : ShaderType) (storage : StorageClass) :
    Emit ResultId :=
  Emit.inModule do
    let typeId ← Build.register type
    let cell ← Build.define fun result => .cell result typeId storage
    Build.addName cell name
    return cell

/-- Emits the store of a value into a variable, if there is a value. -/
def Emit.storeOptional (cell : ResultId) : Option ResultId → Emit Unit
  | none => pure ()
  | some value => Emit.inModule (Build.emit (.store cell value))

/-- The annotated type of a node, or the fault that it has none. -/
def Annotations.require (annotations : Annotations) (node : NodeId) (thing : TypedThing)
    (name : String) : Emit ShaderType :=
  match annotations.type? node with
  | some type => pure type
  | none => throw (.emission (.untyped thing name))

/-- The variable that a binding lets an assignment store into. -/
def Binding.assigned (name : String) : Option Binding → Emit ResultId
  | some (.cell id _) => pure id
  | some (.value _ _) => throw (.emission (.parameterAssigned name))
  | some (.generic _) => throw (.emission (.genericAssigned name))
  | none => throw (.emission (.notBound name))

/-- The variable that an assignment to an expression stores into. -/
def Expression.assigned : Expression → Emit ResultId
  | .identifier _ _ name => do
      Binding.assigned name ((← get).functions.lookup? name)
  | .stream _ _ name => do
      Binding.assigned name ((← get).functions.member? name)
  | .literal .. | .binary .. => throw (.emission .targetNotVariable)

/-- Emits the declaration of a local variable.  Its value is emitted before the variable. -/
def emitDeclaration (annotations : Annotations) (node : NodeId) (name : String)
    (value : Option Expression) : Emit Unit := do
  let type ← annotations.require node .localVariable name
  let valueId ← Expression.emitOptional annotations value
  let cell ← Emit.defineCell name type .function
  Emit.storeOptional cell valueId
  Emit.bindLocal name (.cell cell type)

namespace Statement

mutual

/-- Emits a statement. -/
def emit (annotations : Annotations) : Statement → Emit Unit
  | .declare node _ _ name value => emitDeclaration annotations node name value
  | .assign _ target value => do
      let valueId ← value.emit annotations
      let cell ← target.assigned
      Emit.inModule (Build.emit (.store cell valueId))
  | .evaluate value => do
      let _ ← value.emit annotations
  | .exit _ value => do
      let valueId ← Expression.emitOptional annotations value
      Emit.emitReturn valueId
  | .block _ body => Emit.inScope (emitAll annotations body)

/-- Emits statements in order, up to the first one behind a return. -/
def emitAll (annotations : Annotations) : List Statement → Emit Unit
  | [] => pure ()
  | statement :: rest => do
      if (← get).functions.isTerminated then
        pure ()
      else
        emit annotations statement
        emitAll annotations rest

end

end Statement

end ShaderLang
