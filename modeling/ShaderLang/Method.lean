import ShaderLang.Instruction.Words

/-!
# Entry points and method states

A method is the entry point of a pipeline stage when it has the stage's name.  Each method runs
through a sequence of states while it is analysed and emitted.
-/

namespace ShaderLang

/-- The pipeline stage that a method is the entry point of. -/
inductive EntryPoint where
  | vertex
  | pixel
  | compute
  | geometry
  | domain
  | hull
  deriving DecidableEq, Repr

namespace EntryPoint

/-- The name of the method that is the entry point of a stage. -/
def methodName : EntryPoint → String
  | vertex => "VSMain"
  | pixel => "PSMain"
  | compute => "CSMain"
  | geometry => "GSMain"
  | domain => "DSMain"
  | hull => "HSMain"

instance : Vocabulary EntryPoint where
  values := [vertex, pixel, compute, geometry, domain, hull]
  word := methodName
  mem_values := by intro entry; cases entry <;> decide
  nodup_words := by decide

/-- The stage that a method of the given name is the entry point of. -/
def ofMethodName? (name : String) : Option EntryPoint :=
  Vocabulary.ofWord? name

/-- The execution model of a stage. -/
def executionModel : EntryPoint → ExecutionModel
  | vertex => .vertex
  | pixel => .fragment
  | compute => .compute
  | geometry => .geometry
  | domain => .tessellationEvaluation
  | hull => .tessellationControl

end EntryPoint

/-- How far a method has come.  The two block states are skipped by a method without a body. -/
inductive MethodState where
  | unprocessed
  | typeResolved
  | declared
  | blockOpen
  | blockClosed
  | finalized
  deriving DecidableEq, Repr

/-- The word for a method state. -/
def MethodState.name : MethodState → String
  | unprocessed => "Unprocessed"
  | typeResolved => "TypeResolved"
  | declared => "Declared"
  | blockOpen => "BlockOpen"
  | blockClosed => "BlockClosed"
  | finalized => "Finalized"

/-- What analysis records about a method. -/
structure MethodInfo where
  entryPoint : Option EntryPoint
  state : MethodState
  deriving DecidableEq, Repr

end ShaderLang
