import ShaderLang.Binary64.Text
import ShaderLang.Check.Basic
import ShaderLang.Source.Shader

/-!
# The checking of expressions and statements

An expression is typed bottom up.  An expression with a fault has the placeholder type, which is
reported once, where it arises, and silently passed on from there.
-/

namespace ShaderLang

/-- What the expressions and statements of a body are checked against. -/
structure BodyContext where
  entryPoint : Option EntryPoint
  returned : ShaderType
  deriving DecidableEq

/-- The context of expressions outside of any method. -/
def BodyContext.shaderLevel : BodyContext :=
  ⟨none, .void⟩

/-- The placeholder type of an expression whose fault has been reported. -/
def faultyType : ShaderType :=
  .undefined "<error>"

/-! ## Literals -/

/-- The type of a literal. -/
def Literal.type : Literal → ShaderType
  | bool _ => .scalar .bool
  | int _ => .scalar .int
  | float _ => .scalar .float

/-- The text of a literal that has no exact value in its type: an integer outside of 32 signed
bits, or a float that is not finite. -/
def Literal.excess? : Literal → Option String
  | bool _ => none
  | int value =>
      if -2147483648 ≤ value ∧ value ≤ 2147483647 then
        none
      else
        some (String.ofList (Text.signedDigits value))
  | float value => if value.isFinite then none else some (String.ofList value.text)

/-! ## Expressions -/

/-- What typing an expression gives. -/
structure Typing where
  type : ShaderType
  reports : List Diagnostic
  /-- The types of the expression and its parts, operands before operations. -/
  notes : List (NodeId × ShaderType)
  deriving DecidableEq

/-- The type of an identifier: that of the innermost variable of its name. -/
def identifierType (table : SymbolTable) (name : String) (location : Location) :
    ShaderType × List Diagnostic :=
  match table.lookup? name .binding with
  | some symbol => (symbol.type, [])
  | none => (faultyType, [.undefinedVariable name location])

/-- The type of a stream access: that of the stream member of its name, inside an entry point. -/
def streamType (table : SymbolTable) (entryPoint : Option EntryPoint) (name : String)
    (location : Location) : ShaderType × List Diagnostic :=
  match entryPoint with
  | none => (faultyType, [.streamsOutsideEntryPoint name location])
  | some _ =>
      let component := table.annotations.shader.bind fun shader => shader.find? name .binding
      match component.filter fun symbol => symbol.storage = .stream with
      | some symbol => (symbol.type, [])
      | none => (faultyType, [.missingMember "streams" name .binding])

/-- The type of an operation on operands of the given types.  Both have to be the same numeric
type, and the left one is looked at first. -/
def operationType (operator : Operator) (left right : ShaderType)
    (location rightLocation : Location) : ShaderType × List Diagnostic :=
  if left.isUndefined || right.isUndefined then
    (faultyType, [])
  else if !left.isNumeric then
    (faultyType, [.invalidOperand operator left location])
  else if left ≠ right then
    (faultyType, [.typeMismatch left right rightLocation])
  else
    (left, [])

/-- Types an expression. -/
def Expression.typing (table : SymbolTable) (entryPoint : Option EntryPoint) :
    Expression → Typing
  | .literal node location value =>
      { type := value.type
        reports := value.excess?.toList.map fun text =>
          .literalOutOfRange text value.type location
        notes := [(node, value.type)] }
  | .identifier node location name =>
      let result := identifierType table name location
      ⟨result.1, result.2, [(node, result.1)]⟩
  | .stream node location name =>
      let result := streamType table entryPoint name location
      ⟨result.1, result.2, [(node, result.1)]⟩
  | .binary node location operator left right =>
      let leftTyping := left.typing table entryPoint
      let rightTyping := right.typing table entryPoint
      let result :=
        operationType operator leftTyping.type rightTyping.type location right.location
      { type := result.1
        reports := leftTyping.reports ++ rightTyping.reports ++ result.2
        notes := leftTyping.notes ++ rightTyping.notes ++ [(node, result.1)] }

/-- Types an expression, reports its faults and records the types of its nodes. -/
def Expression.check (expression : Expression) (context : BodyContext) : Check ShaderType :=
  fun table =>
    let typing := expression.typing table context.entryPoint
    ⟨typing.type, table.annotateAll typing.notes, typing.reports⟩

/-! ## Statements -/

/-- Whether an expression names something that can be assigned to. -/
def Expression.isAssignable : Expression → Bool
  | .identifier .. | .stream .. => true
  | .literal .. | .binary .. => false

/-- Checks the value that a name of type `expected` is declared with, if there is one. -/
def checkInitializer (context : BodyContext) (expected : ShaderType) :
    Option Expression → Check Unit
  | none => pure ()
  | some value => do
      let found ← value.check context
      Check.report (mismatchReports expected found value.location)

/-- Checks an assignment.  The value comes before the target. -/
def checkAssignment (context : BodyContext) (location : Location) (target value : Expression) :
    Check Unit := do
  let found ← value.check context
  if target.isAssignable then
    let expected ← target.check context
    Check.report (mismatchReports expected found location)
  else
    Check.report [.invalidAssignmentTarget target.location]

/-- Checks a returned value, or its absence, against the return type. -/
def checkReturn (context : BodyContext) (location : Location) : Option Expression → Check Unit
  | none => Check.report (mismatchReports context.returned .void location)
  | some value => do
      let found ← value.check context
      Check.report (mismatchReports context.returned found location)

namespace Statement

mutual

/-- Checks a statement.  A declaration does not see the name it declares, and a block has a frame of
its own. -/
def check (context : BodyContext) : Statement → Check Unit
  | .declare node _ written name value => do
      let type ← Check.resolve written
      checkInitializer context type value
      Check.annotate node type
      Check.declare ⟨name, .binding, .function, type⟩
  | .assign location target value => checkAssignment context location target value
  | .evaluate value => do
      let _ ← value.check context
  | .exit location value => checkReturn context location value
  | .block _ body => Check.inFrame (checkAll context body)

/-- Checks statements in order. -/
def checkAll (context : BodyContext) : List Statement → Check Unit
  | [] => pure ()
  | statement :: rest => do
      check context statement
      checkAll context rest

end

end Statement

end ShaderLang
