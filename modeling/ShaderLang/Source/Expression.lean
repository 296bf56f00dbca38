import ShaderLang.Binary64.Basic

/-!
# Expressions

Source positions, node ids, literals, expressions and written types.
-/

namespace ShaderLang

/-! ## Positions and nodes -/

/-- A position in the source text.  Line zero stands for an unknown position. -/
structure Location where
  line : Nat
  column : Nat
  deriving DecidableEq, Repr

namespace Location

/-- The unknown position. -/
def unknown : Location :=
  ⟨0, 0⟩

/-- Whether a position is known. -/
def isKnown (location : Location) : Bool :=
  0 < location.line

/-- The text of a position. -/
def text (location : Location) : String :=
  toString location.line ++ ":" ++ toString location.column

end Location

/-- The identity of a node, by which analysis results are found. -/
abbrev NodeId :=
  Nat

/-- Hands out node ids in increasing order. -/
structure NodeSupply where
  next : NodeId
  deriving DecidableEq, Repr

namespace NodeSupply

/-- The supply that has handed out no id yet. -/
def initial : NodeSupply :=
  ⟨0⟩

/-- The next id, and the supply without it. -/
def take (supply : NodeSupply) : NodeId × NodeSupply :=
  (supply.next, ⟨supply.next + 1⟩)

end NodeSupply

/-! ## Expressions -/

/-- A literal. -/
inductive Literal where
  | bool (value : Bool)
  | int (value : Int)
  | float (value : Binary64)
  deriving DecidableEq

/-- An arithmetic operator. -/
inductive Operator where
  | add
  | sub
  | mul
  | div
  deriving DecidableEq, Repr

/-- The sign of an operator. -/
def Operator.sign : Operator → String
  | add => "+"
  | sub => "-"
  | mul => "*"
  | div => "/"

/-- An expression.  Every node carries its id and its position. -/
inductive Expression where
  | literal (node : NodeId) (location : Location) (value : Literal)
  | identifier (node : NodeId) (location : Location) (name : String)
  /-- The stream member of the given name, written behind `streams.`. -/
  | stream (node : NodeId) (location : Location) (name : String)
  | binary (node : NodeId) (location : Location) (operator : Operator) (left right : Expression)
  deriving DecidableEq

namespace Expression

/-- The id of an expression. -/
def node : Expression → NodeId
  | literal node .. | identifier node .. | stream node .. | binary node .. => node

/-- The position of an expression. -/
def location : Expression → Location
  | literal _ location _ | identifier _ location _ | stream _ location _ => location
  | binary _ location .. => location

end Expression

/-- A type as it is written: a name and perhaps an array size. -/
structure TypeName where
  name : String
  size : Option Expression
  location : Location
  deriving DecidableEq

end ShaderLang
