import ShaderLang.Proofs.Execution
import ShaderLang.Proofs.TypePreservation

/-!
# Machines that follow evaluation

The execution of emitted code follows the evaluation of its source.  A variable of the source is the
cell at the same place, and an argument is the value of its parameter.  Emission hands out new ids
only, so what has been computed for earlier ids stays.
-/

namespace ShaderLang

open Instruction

variable {Value : Type}

/-! ## Declarations are read back -/

theorem Literal.literal?_constantDeclaration (value : Literal) (type result : ResultId) :
    (Build.constantDeclaration value.constant.1 value.constant.2 type result).literal? =
      some value := by
  cases value with
  | bool value => cases value <;> rfl
  | int value => rfl
  | float value => rfl

theorem Build.scalar?_scalarDeclaration (id : ResultId) (scalar : ScalarType) :
    (Build.scalarDeclaration id scalar).scalar? = some scalar := by
  cases scalar <;> rfl

theorem Operator.operator_of_arithmetic? {operator : Operator} {scalar : ScalarType}
    {operation : Arithmetic}
    (selected : operator.arithmetic? scalar = some operation) :
    operation.operator = operator := by
  cases scalar <;> cases operator <;> cases selected <;> rfl

namespace ModuleBuilder.WellFormed

variable {builder : ModuleBuilder} {whole : List Instruction} {id : ResultId}

theorem vectorType? (wellFormed : builder.WellFormed) (starts : builder.code <+: whole)
    {vector : VectorType} (registered : builder.typeId? (.vector vector) = some id) :
    Instruction.vectorType? whole id = some vector := by
  obtain ⟨component, componentId, defined⟩ := wellFormed.definition?_vector registered
  have scalar := definition?_of_isPrefix starts (wellFormed.definition?_scalar componentId)
  unfold Instruction.vectorType?
  rw [definition?_of_isPrefix starts defined]
  dsimp only
  rw [scalar, Option.bind_some, Build.scalar?_scalarDeclaration]
  rfl

/-- A registered type that arithmetic can be defined on is read back from its declarations. -/
theorem numericType? (wellFormed : builder.WellFormed) (starts : builder.code <+: whole)
    {type : ShaderType} {scalar : ScalarType}
    (registered : builder.typeId? type = some id)
    (element : type.element? = some scalar) :
    Instruction.numericType? whole id = some type := by
  unfold Instruction.numericType?
  cases type with
  | scalar base =>
      rw [definition?_of_isPrefix starts (wellFormed.definition?_scalar registered)]
      cases base <;> rfl
  | vector shape =>
      obtain ⟨component, -, defined⟩ := wellFormed.definition?_vector registered
      rw [definition?_of_isPrefix starts defined]
      dsimp only
      rw [wellFormed.vectorType? starts registered]
      rfl
  | matrix shape =>
      obtain ⟨column, columnId, defined⟩ := wellFormed.definition?_matrix registered
      rw [definition?_of_isPrefix starts defined]
      dsimp only
      rw [wellFormed.vectorType? starts columnId]
      rfl
  | _ => cases element

end ModuleBuilder.WellFormed

/-! ## Values and cells -/

namespace Machine

variable {interpretation : Interpretation Value} {whole : List Instruction}
  {machine : Machine Value} {id : ResultId}

/-- The ids of the variables of a machine, in the order in which they were made. -/
def places (machine : Machine Value) : List ResultId :=
  machine.cells.map Prod.fst

/-- What the variables of a machine hold, in the order in which they were made. -/
def memory (machine : Machine Value) : List Value :=
  machine.cells.map Prod.snd

theorem value?_constant {literal : Literal} {definition : Instruction}
    (defined : definition? whole id = some definition)
    (isConstant : definition.literal? = some literal) :
    machine.value? interpretation whole id = some (interpretation.literal literal) := by
  unfold value?
  rw [defined, Option.bind_some, isConstant]

theorem value?_define_self {value : Value} {definition : Instruction}
    (defined : definition? whole id = some definition)
    (computed : definition.literal? = none) :
    (machine.define id value).value? interpretation whole id = some value := by
  unfold value?
  rw [defined, Option.bind_some, computed]
  exact List.lookup_cons_self

theorem value?_define_ne {value : Value} {asked : ResultId} (different : asked ≠ id) :
    (machine.define id value).value? interpretation whole asked =
      machine.value? interpretation whole asked := by
  unfold value? define
  dsimp only
  rw [lookup_cons_eq, if_neg different]

@[simp]
theorem places_allocate (machine : Machine Value) (id : ResultId) (content : Value) :
    (machine.allocate id content).places = machine.places ++ [id] := by
  simp [places, allocate]

@[simp]
theorem memory_allocate (machine : Machine Value) (id : ResultId) (content : Value) :
    (machine.allocate id content).memory = machine.memory ++ [content] := by
  simp [memory, allocate]

@[simp]
theorem places_store (machine : Machine Value) (id : ResultId) (content : Value) :
    (machine.store id content).places = machine.places := by
  unfold places store
  rw [List.map_map]
  refine List.map_congr_left fun cell _ => ?_
  rw [Function.comp_apply]
  split
  · next same => exact same.symm
  · rfl

/-- The cell at a place. -/
theorem exists_cell {place : Nat} (holds : machine.places[place]? = some id) :
    ∃ content, machine.cells[place]? = some (id, content) := by
  unfold places at holds
  rw [List.getElem?_map, Option.map_eq_some_iff] at holds
  obtain ⟨⟨found, content⟩, atPlace, rfl⟩ := holds
  exact ⟨content, atPlace⟩

/-- A variable is found by its id at its place. -/
theorem lookup_cells {place : Nat} (distinct : machine.places.Nodup)
    (holds : machine.places[place]? = some id) :
    ∃ content, machine.cells.lookup id = some content ∧
      machine.memory[place]? = some content := by
  obtain ⟨content, atPlace⟩ := exists_cell holds
  refine ⟨content, lookup_eq_some_of_mem distinct (List.mem_of_getElem? atPlace), ?_⟩
  unfold memory
  rw [List.getElem?_map, atPlace]
  rfl

/-- A store changes the memory at the place of its variable. -/
theorem memory_store {place : Nat} (distinct : machine.places.Nodup)
    (holds : machine.places[place]? = some id) (content : Value) :
    (machine.store id content).memory = machine.memory.set place content := by
  obtain ⟨old, atPlace⟩ := exists_cell holds
  apply List.ext_getElem?
  intro index
  unfold memory store
  rw [List.map_map, List.getElem?_map, List.getElem?_set, List.length_map, List.getElem?_map]
  by_cases here : place = index
  · have inside := (List.getElem?_eq_some_iff.mp atPlace).1
    rw [← here, atPlace, if_pos rfl, if_pos inside]
    simp
  · rw [if_neg here]
    cases other : machine.cells[index]? with
    | none => rfl
    | some cell =>
        have different : cell.1 ≠ id := by
          intro same
          apply here
          have otherPlace : machine.places[index]? = some id := by
            unfold places
            rw [List.getElem?_map, other, ← same]
            rfl
          have inside := (List.getElem?_eq_some_iff.mp holds).1
          exact (List.getElem?_inj inside distinct).mp (holds.trans otherPlace.symm)
        simp [different]

theorem execute_cons_next {after : Machine Value} {instruction : Instruction}
    (steps : machine.step interpretation whole instruction = some (.next after))
    (rest : List Instruction) :
    execute interpretation whole (instruction :: rest) machine =
      execute interpretation whole rest after := by
  rw [execute, steps]

theorem execute_cons_stop {value : Option Value} {instruction : Instruction}
    (steps : machine.step interpretation whole instruction = some (.stop value))
    (rest : List Instruction) :
    execute interpretation whole (instruction :: rest) machine = some (value, machine) := by
  rw [execute, steps]

/-! ## Longer runs -/

/-- A machine goes on from another one: the values of the ids below a bound stay, and variables are
only added. -/
structure Extends (interpretation : Interpretation Value) (whole : List Instruction)
    (bound : ResultId) (before after : Machine Value) : Prop where
  values : ∀ id, id < bound →
    after.value? interpretation whole id = before.value? interpretation whole id
  places : before.places <+: after.places

namespace Extends

variable {bound bound' : ResultId} {first second third : Machine Value}

theorem refl (bound : ResultId) (machine : Machine Value) :
    Extends interpretation whole bound machine machine :=
  ⟨fun _ _ => rfl, List.prefix_refl _⟩

theorem trans (front : Extends interpretation whole bound first second)
    (back : Extends interpretation whole bound' second third)
    (later : bound ≤ bound') :
    Extends interpretation whole bound first third where
  values id below := (back.values id (Nat.lt_of_lt_of_le below later)).trans (front.values id below)
  places := front.places.trans back.places

theorem define (machine : Machine Value) {id : ResultId} (new : bound ≤ id) (value : Value) :
    Extends interpretation whole bound machine (machine.define id value) :=
  ⟨fun _ below => value?_define_ne (Nat.ne_of_lt (Nat.lt_of_lt_of_le below new)),
    List.prefix_refl _⟩

theorem allocate (bound : ResultId) (machine : Machine Value) (id : ResultId) (content : Value) :
    Extends interpretation whole bound machine (machine.allocate id content) :=
  ⟨fun _ _ => rfl, by simp⟩

theorem store (bound : ResultId) (machine : Machine Value) (id : ResultId) (content : Value) :
    Extends interpretation whole bound machine (machine.store id content) :=
  ⟨fun _ _ => rfl, by simp⟩

end Extends

end Machine

/-! ## Runs of added code -/

namespace ModuleBuilder

variable {interpretation : Interpretation Value} {whole : List Instruction}
  {builder before middle after : ModuleBuilder} {first second third : Machine Value}

/-- The code that a builder adds leads from one machine to another. -/
def Executes (interpretation : Interpretation Value) (whole : List Instruction)
    (before after : ModuleBuilder) (first second : Machine Value) : Prop :=
  ∃ new, after.code = before.code ++ new ∧ ∀ rest,
    Machine.execute interpretation whole (new ++ rest) first =
      Machine.execute interpretation whole rest second

/-- The code that a builder adds returns. -/
def Finishes (interpretation : Interpretation Value) (whole : List Instruction)
    (before after : ModuleBuilder) (first : Machine Value) (value : Option Value)
    (second : Machine Value) : Prop :=
  ∃ new, after.code = before.code ++ new ∧ ∀ rest,
    Machine.execute interpretation whole (new ++ rest) first = some (value, second)

namespace Executes

theorem refl (builder : ModuleBuilder) (machine : Machine Value) :
    Executes interpretation whole builder builder machine machine :=
  ⟨[], (List.append_nil _).symm, fun _ => rfl⟩

theorem trans (front : Executes interpretation whole before middle first second)
    (back : Executes interpretation whole middle after second third) :
    Executes interpretation whole before after first third := by
  obtain ⟨frontNew, frontCode, frontRuns⟩ := front
  obtain ⟨backNew, backCode, backRuns⟩ := back
  refine ⟨frontNew ++ backNew, by rw [backCode, frontCode, List.append_assoc], fun rest => ?_⟩
  rw [List.append_assoc, frontRuns, backRuns]

theorem append {instruction : Instruction}
    (steps : first.step interpretation whole instruction = some (.next second)) :
    Executes interpretation whole builder (builder.append instruction) first second :=
  ⟨[instruction], rfl, Machine.execute_cons_next steps⟩

theorem defined {instruction : ResultId → Instruction}
    (steps : first.step interpretation whole (instruction builder.bound) = some (.next second)) :
    Executes interpretation whole builder (builder.defined instruction) first second :=
  ⟨[instruction builder.bound], rfl, Machine.execute_cons_next steps⟩

theorem declarations {new : List Instruction} (code : after.code = before.code ++ new)
    (declares : ∀ instruction ∈ new, instruction.isDeclaration = true)
    (machine : Machine Value) :
    Executes interpretation whole before after machine machine := by
  refine ⟨new, code, fun rest => ?_⟩
  clear code
  induction new with
  | nil => rfl
  | cons instruction others inductionHypothesis =>
      have steps : machine.step interpretation whole instruction = some (.next machine) := by
        have isDeclaration := declares instruction List.mem_cons_self
        cases instruction <;> cases isDeclaration <;> rfl
      rw [List.cons_append, Machine.execute_cons_next steps]
      exact inductionHypothesis fun other member => declares other (List.mem_cons_of_mem _ member)

/-- Declarations do nothing. -/
theorem register {type : ShaderType} {id : ResultId}
    (registers : (Build.register type).run before = .ok id after) (machine : Machine Value) :
    Executes interpretation whole before after machine machine := by
  obtain ⟨new, code, declares⟩ := (Build.register_reaches type registers).1.appends
  exact declarations code declares machine

theorem registerConstant {scalar : ScalarType} {value : Constant} {id : ResultId}
    (registers : (Build.registerConstant scalar value).run before = .ok id after)
    (machine : Machine Value) :
    Executes interpretation whole before after machine machine := by
  obtain ⟨new, code, declares⟩ := (Build.registerConstant_reaches registers).1.appends
  exact declarations code declares machine

theorem addName (builder : ModuleBuilder) (id : ResultId) (name : String)
    (machine : Machine Value) :
    Executes interpretation whole builder (builder.addName id name) machine machine := by
  unfold ModuleBuilder.addName
  split
  · exact append rfl
  · exact refl _ _

theorem finishes {value : Option Value}
    (front : Executes interpretation whole before middle first second)
    (back : Finishes interpretation whole middle after second value third) :
    Finishes interpretation whole before after first value third := by
  obtain ⟨frontNew, frontCode, frontRuns⟩ := front
  obtain ⟨backNew, backCode, backRuns⟩ := back
  refine ⟨frontNew ++ backNew, by rw [backCode, frontCode, List.append_assoc], fun rest => ?_⟩
  rw [List.append_assoc, frontRuns, backRuns]

end Executes

theorem Finishes.append {instruction : Instruction} {value : Option Value}
    (steps : first.step interpretation whole instruction = some (.stop value)) :
    Finishes interpretation whole builder (builder.append instruction) first value first :=
  ⟨[instruction], rfl, Machine.execute_cons_stop steps⟩

end ModuleBuilder

/-! ## What names stand for -/

/-- How what a name stands for is kept in a machine: an argument as the value of an id, a variable
as the cell at its place. -/
inductive Slot.Represents (interpretation : Interpretation Value) (whole : List Instruction)
    (machine : Machine Value) (bound : ResultId) : Slot Value → Binding → Prop
  | argument {value : Value} {type : ShaderType} {id : ResultId}
      (below : id < bound)
      (holds : machine.value? interpretation whole id = some value) :
      Represents interpretation whole machine bound (.argument value type) (.value id type)
  | cell {place : Nat} {type : ShaderType} {id : ResultId}
      (holds : machine.places[place]? = some id) :
      Represents interpretation whole machine bound (.cell place type) (.cell id type)
  | generic {type : ShaderType} :
      Represents interpretation whole machine bound .generic (.generic type)

/-- A machine that has executed the code of a builder keeps what the visible names stand for. -/
structure FunctionBuilder.Represents (functions : FunctionBuilder) (builder : ModuleBuilder)
    (interpretation : Interpretation Value) (whole : List Instruction) (machine : Machine Value)
    (slots : NameTable (Slot Value)) : Prop where
  names : slots.Agrees (Slot.Represents interpretation whole machine builder.bound)
    functions.names
  distinct : machine.places.Nodup
  below : ∀ id ∈ machine.places, id < builder.bound

section Names

variable {interpretation : Interpretation Value} {whole : List Instruction}
  {machine machine' : Machine Value}

theorem Slot.Represents.extend {bound bound' : ResultId} {slot : Slot Value} {binding : Binding}
    (represents : slot.Represents interpretation whole machine bound binding)
    (continues : machine.Extends interpretation whole bound machine')
    (later : bound ≤ bound') :
    slot.Represents interpretation whole machine' bound' binding := by
  cases represents with
  | argument below holds =>
      exact .argument (Nat.lt_of_lt_of_le below later) ((continues.values _ below).trans holds)
  | cell holds => exact .cell (getElem?_of_isPrefix continues.places holds)
  | generic => exact .generic

end Names

end ShaderLang
