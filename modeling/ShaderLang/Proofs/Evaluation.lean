import ShaderLang.Proofs.Typing

/-!
# The meaning of method bodies

A body is evaluated statement by statement, up to its first return.  Names are scoped lexically: the
innermost declaration of a name counts, and within one scope the latest one.  What the values are,
and what the operators do with them at each type, is left open.
-/

namespace ShaderLang

/-! ## Interpretations -/

/-- What literals stand for and what operators do, on values of any kind. -/
structure Interpretation (Value : Type) where
  literal : Literal → Value
  /-- What an operator does with two values of a type. -/
  operate : Operator → ShaderType → Value → Value → Value
  /-- What a new variable holds, by the number of variables there are before it. -/
  unset : Nat → Value

/-- What a name stands for during evaluation. -/
inductive Slot (Value : Type) where
  | argument (value : Value) (type : ShaderType)
  /-- A variable, by its place in memory. -/
  | cell (place : Nat) (type : ShaderType)
  /-- A generic parameter, which has no value. -/
  | generic

/-- How some statements end. -/
inductive Completion (Value : Type) where
  /-- The statement behind them is reached. -/
  | reached (names : NameTable (Slot Value)) (memory : List Value)
  /-- One of them has returned. -/
  | returned (value : Option Value) (memory : List Value)

variable {Value : Type}

/-! ## Expressions -/

/-- The value and the type of what a name stands for. -/
def Slot.read? (memory : List Value) : Slot Value → Option (Value × ShaderType)
  | argument value type => some (value, type)
  | cell place type => memory[place]?.map fun value => (value, type)
  | generic => none

/-- The place that an assignment changes. -/
def Slot.place? : Slot Value → Option Nat
  | cell place _ => some place
  | argument .. | generic => none

namespace Expression

/-- The value of an expression, and its type.  An operator is applied at the type of its left
operand. -/
def evaluate (interpretation : Interpretation Value) (names : NameTable (Slot Value))
    (memory : List Value) : Expression → Option (Value × ShaderType)
  | literal _ _ value => some (interpretation.literal value, value.type)
  | identifier _ _ name => (names.lookup? name).bind (Slot.read? memory)
  | stream _ _ name => (names.shader.lookup name).bind (Slot.read? memory)
  | binary _ _ operator left right => do
      let (leftValue, type) ← left.evaluate interpretation names memory
      let (rightValue, _) ← right.evaluate interpretation names memory
      return (interpretation.operate operator type leftValue rightValue, type)

/-- The value of an expression, if there is an expression. -/
def evaluateOptional (interpretation : Interpretation Value) (names : NameTable (Slot Value))
    (memory : List Value) : Option Expression → Option (Option Value)
  | none => some none
  | some expression => do
      let (value, _) ← expression.evaluate interpretation names memory
      return some value

end Expression

/-! ## Statements -/

namespace Statement

mutual

/-- Evaluates a statement.  The value of a declaration is evaluated before its name is bound, and
what a block declares is forgotten behind it. -/
def evaluateOne (interpretation : Interpretation Value) (table : SymbolTable) :
    Statement → NameTable (Slot Value) → List Value → Option (Completion Value)
  | declare _ _ written name value, names, memory => do
      let initial ← Expression.evaluateOptional interpretation names memory value
      let slot := Slot.cell memory.length (written.denoted table)
      return .reached (names.bind name slot)
        (memory ++ [initial.getD (interpretation.unset memory.length)])
  | assign _ target value, names, memory => do
      let (new, _) ← value.evaluate interpretation names memory
      let place ← (target.resolve? names).bind Slot.place?
      return .reached names (memory.set place new)
  | evaluate value, names, memory => do
      let _ ← value.evaluate interpretation names memory
      return .reached names memory
  | exit _ value, names, memory => do
      let result ← Expression.evaluateOptional interpretation names memory value
      return .returned result memory
  | block _ body, names, memory =>
      match evaluateAll interpretation table body names.push memory with
      | none => none
      | some (.reached _ memory) => some (.reached names memory)
      | some (.returned value memory) => some (.returned value memory)

/-- Evaluates statements in order, up to the first return. -/
def evaluateAll (interpretation : Interpretation Value) (table : SymbolTable) :
    List Statement → NameTable (Slot Value) → List Value → Option (Completion Value)
  | [], names, memory => some (.reached names memory)
  | statement :: rest, names, memory =>
      match evaluateOne interpretation table statement names memory with
      | none => none
      | some (.reached names memory) => evaluateAll interpretation table rest names memory
      | some (.returned value memory) => some (.returned value memory)

end

end Statement

/-! ## Methods -/

/-- The name and the type of a member. -/
def Member.entry (table : SymbolTable) (member : Member) : String × ShaderType :=
  (member.name, member.type.denoted table)

/-- The name and the type of a sampler state. -/
def Sampler.entry (sampler : Sampler) : String × ShaderType :=
  (sampler.name, sampler.kind.type)

/-- What the name of the variable at a place of memory stands for. -/
def Slot.ofEntry (place : Nat) (entry : String × ShaderType) : String × Slot Value :=
  (entry.1, .cell place entry.2)

/-- What the names of generic parameters and of variables stand for, the latest first. -/
def Slot.listed (generics : List Generic) (entries : List (String × ShaderType)) :
    List (String × Slot Value) :=
  (generics.map (fun generic => (Generic.name generic, Slot.generic)) ++
    entries.mapIdx Slot.ofEntry).reverse

/-- What the names of a shader stand for, the latest first.  Its variables are the members and then
the sampler states. -/
def Shader.slots (shader : Shader) (table : SymbolTable) : List (String × Slot Value) :=
  Slot.listed shader.generics
    (shader.members.map (Member.entry table) ++ shader.samplers.map Sampler.entry)

/-- What the name of a parameter stands for. -/
def Parameter.slot (table : SymbolTable) (parameter : Parameter) (argument : Value) :
    String × Slot Value :=
  (parameter.name, .argument argument (parameter.type.denoted table))

/-- What the parameters of a method stand for, the latest first. -/
def Method.slots (method : Method) (table : SymbolTable) (arguments : List Value) :
    List (String × Slot Value) :=
  (List.zipWith (Parameter.slot table) method.parameters arguments).reverse

/-- The returned value, if there is one, and the contents of the first variables. -/
def Completion.outcome (count : Nat) : Completion Value → Option Value × List Value
  | reached _ memory => (none, memory.take count)
  | returned value memory => (value, memory.take count)

/-- Evaluates the body of a method, from the contents of the variables of the shader.  Gives the
returned value, if there is one, and the contents of the variables of the shader. -/
def Method.evaluate (method : Method) (interpretation : Interpretation Value) (shader : Shader)
    (body : List Statement) (arguments contents : List Value) :
    Option (Option Value × List Value) :=
  let table := shader.analyse.1
  let names := ⟨[method.slots table arguments], shader.slots table⟩
  (Statement.evaluateAll interpretation table body names contents).map
    (Completion.outcome contents.length)

end ShaderLang
