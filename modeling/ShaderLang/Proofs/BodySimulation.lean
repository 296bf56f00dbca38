import ShaderLang.Proofs.Simulation

/-!
# Execution follows evaluation

The code of an expression computes the value that evaluation gives, and the code of statements leads
to the memory that evaluation leads to.  Both stop at the same return.
-/

namespace ShaderLang

open Instruction

variable {Value : Type} {interpretation : Interpretation Value} {whole : List Instruction}

/-! ## Expressions -/

/-- The code that a builder adds computes a value and changes no variable. -/
structure ModuleBuilder.Computes (interpretation : Interpretation Value)
    (whole : List Instruction) (before after : ModuleBuilder) (machine machine' : Machine Value)
    (id : ResultId) (value : Value) : Prop where
  executes : Executes interpretation whole before after machine machine'
  continues : machine.Extends interpretation whole before.bound machine'
  cells : machine'.cells = machine.cells
  below : id < after.bound
  holds : machine'.value? interpretation whole id = some value

/-- Computing a value leaves memory as it is. -/
theorem ModuleBuilder.Computes.memory {before after : ModuleBuilder}
    {machine machine' : Machine Value} {id : ResultId} {value : Value}
    (computes : Computes interpretation whole before after machine machine' id value) :
    machine'.memory = machine.memory :=
  congrArg (List.map Prod.snd) computes.cells

section Expressions

variable {annotations : Annotations} {functions : FunctionBuilder} {names : NameTable Referent}
  {slots : NameTable (Slot Value)} {before after : ModuleBuilder} {machine : Machine Value}

theorem Expression.evaluate_of_resolve? {expression : Expression} {slot : Slot Value}
    (resolved : expression.resolve? slots = some slot) (memory : List Value) :
    expression.evaluate interpretation slots memory = slot.read? memory := by
  cases expression with
  | identifier node location name =>
      change (slots.lookup? name).bind (Slot.read? memory) = _
      rw [show slots.lookup? name = some slot from resolved, Option.bind_some]
  | stream node location name =>
      change (slots.shader.lookup name).bind (Slot.read? memory) = _
      rw [show slots.shader.lookup name = some slot from resolved, Option.bind_some]
  | literal node location value => simp [Expression.resolve?] at resolved
  | binary node location operator left right => simp [Expression.resolve?] at resolved

theorem FunctionBuilder.Represents.extend {machine' : Machine Value}
    (represents : functions.Represents before interpretation whole machine slots)
    (continues : machine.Extends interpretation whole before.bound machine')
    (cells : machine'.cells = machine.cells)
    (later : before.bound ≤ after.bound) :
    functions.Represents after interpretation whole machine' slots := by
  have samePlaces : machine'.places = machine.places := congrArg (List.map Prod.fst) cells
  refine ⟨represents.names.imp fun _ _ entry => entry.extend continues later, ?_, ?_⟩
  · rw [samePlaces]
    exact represents.distinct
  · intro id member
    rw [samePlaces] at member
    exact Nat.lt_of_lt_of_le (represents.below id member) later

/-- A definition behind registered types computes a value that is new. -/
theorem ModuleBuilder.Computes.define {middle : ModuleBuilder} {machine machine' : Machine Value}
    {instruction : ResultId → Instruction} {value : Value}
    (front : Executes interpretation whole before middle machine machine')
    (continues : machine.Extends interpretation whole before.bound machine')
    (cells : machine'.cells = machine.cells)
    (later : before.bound ≤ middle.bound)
    (wellFormed : middle.WellFormed)
    (starts : (middle.defined instruction).code <+: whole)
    (defines : (instruction middle.bound).result? = some middle.bound)
    (computed : (instruction middle.bound).literal? = none)
    (steps : machine'.step interpretation whole (instruction middle.bound) =
      some (.next (machine'.define middle.bound value))) :
    Computes interpretation whole before (middle.defined instruction) machine
      (machine'.define middle.bound value) middle.bound value where
  executes := front.trans (.defined steps)
  continues := continues.trans (.define machine' (Nat.le_refl _) value) later
  cells := cells
  below := Nat.lt_succ_self _
  holds := Machine.value?_define_self
    (definition?_of_isPrefix starts (wellFormed.definition?_defined defines)) computed

/-- An operation computes what its operator does with the values of its operands. -/
theorem ModuleBuilder.Computes.operate {first second third : ModuleBuilder}
    {machine leftMachine rightMachine : Machine Value} {leftId rightId typeId : ResultId}
    {leftValue rightValue : Value} {type : ShaderType} {operator : Operator}
    {operation : Arithmetic}
    (leftComputes : Computes interpretation whole before first machine leftMachine leftId leftValue)
    (rightComputes : Computes interpretation whole first second leftMachine rightMachine rightId
      rightValue)
    (grows : before.Grows first)
    (grows' : first.Grows second)
    (wellFormed : second.WellFormed)
    (registers : (Build.register type).run second = .ok typeId third)
    (selected : type.element?.bind operator.arithmetic? = some operation)
    (starts : (third.defined fun result =>
      .arithmetic operation result typeId leftId rightId).code <+: whole) :
    ∃ machine', Computes interpretation whole before
      (third.defined fun result => .arithmetic operation result typeId leftId rightId)
      machine machine' third.bound (interpretation.operate operator type leftValue rightValue) := by
  obtain ⟨reaches, registered⟩ := Build.register_reaches type registers
  obtain ⟨scalar, isElement, chosen⟩ := Option.bind_eq_some_iff.mp selected
  have thirdWellFormed := reaches.wellFormed wellFormed
  have thirdStarts := (ModuleBuilder.Grows.defined third _).code.trans starts
  have readType := thirdWellFormed.numericType? thirdStarts registered isElement
  have leftHolds : rightMachine.value? interpretation whole leftId = some leftValue :=
    (rightComputes.continues.values leftId leftComputes.below).trans leftComputes.holds
  have steps : rightMachine.step interpretation whole
      (.arithmetic operation third.bound typeId leftId rightId) =
      some (.next (rightMachine.define third.bound
        (interpretation.operate operator type leftValue rightValue))) := by
    simp [Machine.step, leftHolds, rightComputes.holds, readType,
      Operator.operator_of_arithmetic? chosen]
  refine ⟨_, .define ((leftComputes.executes.trans rightComputes.executes).trans
    (.register registers rightMachine)) ?_ ?_ ?_ thirdWellFormed starts rfl rfl steps⟩
  · exact leftComputes.continues.trans rightComputes.continues grows.bound
  · exact rightComputes.cells.trans leftComputes.cells
  · exact ((grows.trans grows').trans reaches.grows).bound

/-- The code of an expression computes the value of the expression. -/
theorem Expression.Emits.computes {expression : Expression} {id : ResultId} {type : ShaderType}
    (emits : expression.Emits annotations functions before id after)
    (hasType : expression.HasType annotations names type)
    (wellFormed : before.WellFormed)
    (carries : functions.Carries before names)
    (represents : functions.Represents before interpretation whole machine slots)
    (starts : after.code <+: whole) :
    ∃ value machine', ModuleBuilder.Computes interpretation whole before after machine machine' id
        value ∧
      expression.evaluate interpretation slots machine.memory = some (value, type) := by
  induction emits generalizing type machine with
  | @literal node location value before after id registers =>
      cases hasType
      obtain ⟨reaches, registered⟩ := Build.registerConstant_reaches registers
      obtain ⟨typeId, -, defined⟩ :=
        (reaches.wellFormed wellFormed).constants _ _ _ registered
      refine ⟨interpretation.literal value, machine, ⟨.registerConstant registers machine,
        .refl _ _, rfl, ((reaches.wellFormed wellFormed).definition_bounds defined).2, ?_⟩, rfl⟩
      exact Machine.value?_constant (definition?_of_isPrefix starts defined)
        (value.literal?_constantDeclaration _ _)
  | @value expression id boundType before bound =>
      obtain ⟨referent, resolved, entry⟩ := carries.resolve?_eq_some bound
      obtain ⟨slot, slotResolved, represented⟩ := represents.names.resolve?_eq_some bound
      have sameType := hasType.type_eq resolved
      cases entry
      cases sameType
      cases represented with
      | @argument value _ _ below holds =>
          exact ⟨value, machine, ⟨.refl _ _, .refl _ _, rfl, below, holds⟩,
            Expression.evaluate_of_resolve? slotResolved _⟩
  | @load expression cell typeId boundType before after bound registers =>
      obtain ⟨referent, resolved, entry⟩ := carries.resolve?_eq_some bound
      obtain ⟨slot, slotResolved, represented⟩ := represents.names.resolve?_eq_some bound
      have sameType := hasType.type_eq resolved
      cases entry
      cases sameType
      cases represented with
      | @cell place _ _ holds =>
          obtain ⟨content, found, inMemory⟩ := Machine.lookup_cells represents.distinct holds
          obtain ⟨reaches, -⟩ := Build.register_reaches boundType registers
          have steps : machine.step interpretation whole (.load after.bound typeId cell) =
              some (.next (machine.define after.bound content)) := by
            simp [Machine.step, found]
          refine ⟨content, _, .define (.register registers machine) (.refl _ _) rfl
            reaches.grows.bound (reaches.wellFormed wellFormed) starts rfl rfl steps, ?_⟩
          rw [Expression.evaluate_of_resolve? slotResolved]
          simp [Slot.read?, inMemory]
  | @binary node location operator left right leftId rightId typeId annotatedType operation before
      first second third leftEmits rightEmits annotated selected registers leftHypothesis
      rightHypothesis =>
      cases hasType with
      | binary leftTyped rightTyped numeric annotated' =>
          cases annotated.symm.trans annotated'
          have thirdStarts := (ModuleBuilder.Grows.defined third _).code.trans starts
          have secondStarts :=
            (ModuleBuilder.Advances.register registers).grows.code.trans thirdStarts
          have firstStarts := rightEmits.advances.grows.code.trans secondStarts
          obtain ⟨leftValue, leftMachine, leftComputes, leftEvaluates⟩ :=
            leftHypothesis leftTyped wellFormed carries represents firstStarts
          have firstWellFormed := leftEmits.advances.wellFormed wellFormed
          have firstRepresents := represents.extend leftComputes.continues leftComputes.cells
            leftEmits.advances.grows.bound
          obtain ⟨rightValue, rightMachine, rightComputes, rightEvaluates⟩ :=
            rightHypothesis rightTyped firstWellFormed (carries.grow leftEmits.advances.grows)
              firstRepresents secondStarts
          -- the right operand is evaluated in the memory that the left one leaves as it is
          rw [leftComputes.memory] at rightEvaluates
          obtain ⟨machine', computes⟩ := leftComputes.operate rightComputes
            leftEmits.advances.grows rightEmits.advances.grows
            (rightEmits.advances.wellFormed firstWellFormed) registers selected starts
          refine ⟨_, machine', computes, ?_⟩
          simp [Expression.evaluate, leftEvaluates, rightEvaluates]

/-- The code of an expression that may be missing computes its value, if there is one. -/
inductive ModuleBuilder.ComputesOptional (interpretation : Interpretation Value)
    (whole : List Instruction) (before : ModuleBuilder) (machine : Machine Value) :
    ModuleBuilder → Machine Value → Option ResultId → Option Value → Prop
  | none : ComputesOptional interpretation whole before machine before machine none none
  | some {after : ModuleBuilder} {machine' : Machine Value} {id : ResultId} {value : Value}
      (computes : Computes interpretation whole before after machine machine' id value) :
      ComputesOptional interpretation whole before machine after machine' (some id) (some value)

namespace ModuleBuilder.ComputesOptional

variable {machine' : Machine Value} {id : Option ResultId} {value : Option Value}

theorem executes
    (computes : ComputesOptional interpretation whole before machine after machine' id value) :
    Executes interpretation whole before after machine machine' := by
  cases computes with
  | none => exact .refl _ _
  | some computes => exact computes.executes

theorem continues
    (computes : ComputesOptional interpretation whole before machine after machine' id value) :
    machine.Extends interpretation whole before.bound machine' := by
  cases computes with
  | none => exact .refl _ _
  | some computes => exact computes.continues

theorem cells
    (computes : ComputesOptional interpretation whole before machine after machine' id value) :
    machine'.cells = machine.cells := by
  cases computes with
  | none => rfl
  | some computes => exact computes.cells

theorem memory
    (computes : ComputesOptional interpretation whole before machine after machine' id value) :
    machine'.memory = machine.memory :=
  congrArg (List.map Prod.snd) computes.cells

theorem holds
    (computes : ComputesOptional interpretation whole before machine after machine' id value) :
    Option.Rel (fun id value => machine'.value? interpretation whole id = Option.some value)
      id value := by
  cases computes with
  | none => exact .none
  | some computes => exact .some computes.holds

end ModuleBuilder.ComputesOptional

theorem Expression.EmitsOptional.computes {value : Option Expression} {id : Option ResultId}
    {type : ShaderType}
    (emits : Expression.EmitsOptional annotations functions value before id after)
    (hasType : ∀ expression ∈ value, expression.HasType annotations names type)
    (wellFormed : before.WellFormed)
    (carries : functions.Carries before names)
    (represents : functions.Represents before interpretation whole machine slots)
    (starts : after.code <+: whole) :
    ∃ result machine', ModuleBuilder.ComputesOptional interpretation whole before machine after
        machine' id result ∧
      Expression.evaluateOptional interpretation slots machine.memory value =
        Option.some result := by
  cases emits with
  | none => exact ⟨Option.none, machine, .none, rfl⟩
  | some emits =>
      obtain ⟨result, machine', computes, evaluates⟩ :=
        emits.computes (hasType _ rfl) wellFormed carries represents starts
      refine ⟨Option.some result, machine', .some computes, ?_⟩
      simp [Expression.evaluateOptional, evaluates]

end Expressions

/-! ## Statements -/

/-- The code of statements leads to how their evaluation ends. -/
inductive Emitter.Completes (interpretation : Interpretation Value) (whole : List Instruction)
    (before after : Emitter) (machine : Machine Value) : Completion Value → Prop
  | reached {machine' : Machine Value} {slots : NameTable (Slot Value)}
      (executes : before.target.Executes interpretation whole after.target machine machine')
      (continues : machine.Extends interpretation whole before.target.bound machine')
      (represents : after.functions.Represents after.target interpretation whole machine' slots)
      (running : after.functions.isTerminated = false) :
      Completes interpretation whole before after machine (.reached slots machine'.memory)
  | returned {machine' : Machine Value} {value : Option Value}
      (finishes : before.target.Finishes interpretation whole after.target machine value machine')
      (continues : machine.Extends interpretation whole before.target.bound machine')
      (distinct : machine'.places.Nodup)
      (terminated : after.functions.isTerminated = true) :
      Completes interpretation whole before after machine (.returned value machine'.memory)

section Statements

variable {table : SymbolTable} {returned : ShaderType} {names names' : NameTable Referent}
  {slots : NameTable (Slot Value)} {before after : Emitter} {machine : Machine Value}

theorem Machine.length_memory (machine : Machine Value) :
    machine.memory.length = machine.cells.length :=
  List.length_map ..

theorem ModuleBuilder.lt_bound_withCell (builder : ModuleBuilder) (name : String)
    (typeId : ResultId) (storage : StorageClass) :
    builder.bound < (builder.withCell name typeId storage).bound :=
  Nat.lt_of_lt_of_le (Nat.lt_succ_self _) (ModuleBuilder.Grows.addName
    (builder.defined fun result => .cell result typeId storage) builder.bound name).bound

theorem FunctionBuilder.Represents.nodup_bound {functions : FunctionBuilder}
    {builder : ModuleBuilder}
    (represents : functions.Represents builder interpretation whole machine slots) :
    (machine.places ++ [builder.bound]).Nodup := by
  refine List.nodup_append.mpr ⟨represents.distinct, by simp, ?_⟩
  intro id member new isNew
  rw [List.mem_singleton.mp isNew]
  exact Nat.ne_of_lt (represents.below id member)

/-- A new variable stands for a name that is declared. -/
theorem FunctionBuilder.Represents.declare {functions : FunctionBuilder}
    {builder after : ModuleBuilder} {machine' : Machine Value}
    (represents : functions.Represents builder interpretation whole machine slots)
    (continues : machine.Extends interpretation whole builder.bound machine')
    (places : machine'.places = machine.places ++ [builder.bound])
    (later : builder.bound < after.bound) (name : String) (type : ShaderType) :
    (functions.bindLocal name (.cell builder.bound type)).Represents after interpretation whole
      machine' (slots.bind name (.cell machine.memory.length type)) := by
  have earlier := represents.names.imp fun _ _ entry =>
    entry.extend continues (Nat.le_of_lt later)
  have sameLength : machine.memory.length = machine.places.length := by
    simp [Machine.places, Machine.memory]
  refine ⟨?_, ?_, ?_⟩
  · rw [FunctionBuilder.names_bindLocal]
    refine earlier.bind name (.cell ?_)
    rw [places, sameLength]
    simp
  · rw [places]
    exact represents.nodup_bound
  · intro id member
    rw [places] at member
    rcases List.mem_append.mp member with inPlaces | isNew
    · exact Nat.lt_trans (represents.below id inPlaces) later
    · rw [List.mem_singleton.mp isNew]
      exact later

/-- Changing what a variable holds changes no name. -/
theorem FunctionBuilder.Represents.store {functions : FunctionBuilder}
    {builder after : ModuleBuilder}
    (represents : functions.Represents builder interpretation whole machine slots)
    (later : builder.bound ≤ after.bound) (id : ResultId) (content : Value) :
    functions.Represents after interpretation whole (machine.store id content) slots := by
  have continues : machine.Extends interpretation whole builder.bound (machine.store id content) :=
    .store builder.bound machine id content
  refine ⟨represents.names.imp fun _ _ entry => entry.extend continues later, ?_, ?_⟩
  · rw [Machine.places_store]
    exact represents.distinct
  · intro other member
    rw [Machine.places_store] at member
    exact Nat.lt_of_lt_of_le (represents.below other member) later

/-- A declared variable is made, and its value is stored in it. -/
theorem ModuleBuilder.executes_declaration {builder : ModuleBuilder} {valueId : Option ResultId}
    {value : Option Value} (name : String) (typeId : ResultId)
    (distinct : (machine.places ++ [builder.bound]).Nodup)
    (holds : Option.Rel (fun id value => machine.value? interpretation whole id = some value)
      valueId value) :
    ∃ machine', builder.Executes interpretation whole
        ((builder.withCell name typeId .function).storeOptional builder.bound valueId)
        machine machine' ∧
      (∀ bound, machine.Extends interpretation whole bound machine') ∧
      machine'.places = machine.places ++ [builder.bound] ∧
      machine'.memory = machine.memory ++
        [value.getD (interpretation.unset machine.memory.length)] := by
  have allocates : builder.Executes interpretation whole
      (builder.withCell name typeId .function) machine
      (machine.allocate builder.bound (interpretation.unset machine.memory.length)) := by
    refine ModuleBuilder.Executes.trans (.defined ?_) (.addName _ _ _ _)
    rw [machine.length_memory]
    rfl
  cases holds with
  | none =>
      exact ⟨_, allocates, fun bound => .allocate bound _ _ _, machine.places_allocate _ _,
        machine.memory_allocate _ _⟩
  | @some id value holds =>
      -- the new variable is at the place behind the others
      have atEnd : (machine.allocate builder.bound
          (interpretation.unset machine.memory.length)).places[machine.places.length]? =
          some builder.bound := by simp
      have distinct' : (machine.allocate builder.bound
          (interpretation.unset machine.memory.length)).places.Nodup := by
        rw [Machine.places_allocate]
        exact distinct
      obtain ⟨content, found, -⟩ := Machine.lookup_cells distinct' atEnd
      have stillHolds : (machine.allocate builder.bound (interpretation.unset
          machine.memory.length)).value? interpretation whole id = some value := holds
      have stores : (machine.allocate builder.bound
          (interpretation.unset machine.memory.length)).step interpretation whole
          (.store builder.bound id) = some (.next ((machine.allocate builder.bound
            (interpretation.unset machine.memory.length)).store builder.bound value)) := by
        simp [Machine.step, stillHolds, found]
      refine ⟨_, allocates.trans (.append stores), fun bound =>
        (Machine.Extends.allocate bound _ _ _).trans (.store bound _ _ _) (Nat.le_refl _), ?_, ?_⟩
      · rw [Machine.places_store, Machine.places_allocate]
      · have sameLength : machine.places.length = machine.memory.length := by
          simp [Machine.places, Machine.memory]
        rw [Machine.memory_store distinct' atEnd, Machine.memory_allocate, sameLength]
        simp

theorem Statement.EmitsSimple.completes {statement : Statement}
    (emits : statement.EmitsSimple table.annotations before after)
    (typed : statement.TypedSimple table returned names names')
    (types : before.Types names)
    (represents : before.functions.Represents before.target interpretation whole machine slots)
    (starts : after.target.code <+: whole)
    (running : before.functions.isTerminated = false) :
    ∃ completion, Statement.evaluateOne interpretation table statement slots machine.memory =
        some completion ∧
      before.Completes interpretation whole after machine completion := by
  have later := emits.advances.grows.bound
  cases emits with
  | @declare node location written name value valueId typeId type before first second annotated
      valueEmits registers opened =>
      cases typed with
      | declare annotated' emittable valueTyped =>
          cases annotated.symm.trans annotated'
          obtain ⟨reaches, -⟩ := Build.register_reaches _ registers
          have addedAdvances := (ModuleBuilder.Advances.withCell second name typeId .function).trans
            (.storeOptional _ second.bound valueId)
          have firstStarts := (reaches.grows.trans addedAdvances.grows).code.trans starts
          obtain ⟨result, machine', computes, evaluates⟩ := valueEmits.computes valueTyped
            types.wellFormed types.carries represents firstStarts
          have secondBound := (valueEmits.advances.trans (.register registers)).grows.bound
          have secondRepresents := represents.extend computes.continues computes.cells secondBound
          obtain ⟨machine'', declares, continues, places, memory⟩ :=
            ModuleBuilder.executes_declaration name typeId secondRepresents.nodup_bound
              computes.holds
          rw [computes.memory] at memory
          have grows : second.bound < ((second.withCell name typeId .function).storeOptional
              second.bound valueId).bound :=
            Nat.lt_of_lt_of_le (second.lt_bound_withCell name typeId .function)
              (ModuleBuilder.Advances.storeOptional _ _ _).grows.bound
          have declared := secondRepresents.declare (continues _) places grows name
            (written.denoted table)
          rw [computes.memory] at declared
          refine ⟨.reached _ machine''.memory, ?_, .reached
            ((computes.executes.trans (.register registers machine')).trans declares)
            (computes.continues.trans (continues _) (Nat.le_refl _)) declared running⟩
          rw [memory]
          simp [Statement.evaluateOne, evaluates]
  | @assign location target value valueId cell type before first valueEmits bound =>
      cases typed with
      | assign valueTyped targetTyped assignable =>
          have grows := ModuleBuilder.Grows.append first (.store cell valueId)
          obtain ⟨result, machine', computes, evaluates⟩ := valueEmits.computes valueTyped
            types.wellFormed types.carries represents (grows.code.trans starts)
          have firstRepresents := represents.extend computes.continues computes.cells
            valueEmits.advances.grows.bound
          obtain ⟨slot, resolved, represented⟩ := firstRepresents.names.resolve?_eq_some bound
          cases represented with
          | @cell place _ _ holds =>
              obtain ⟨content, found, -⟩ := Machine.lookup_cells firstRepresents.distinct holds
              have stores : machine'.step interpretation whole (.store cell valueId) =
                  some (.next (machine'.store cell result)) := by
                simp [Machine.step, computes.holds, found]
              have continues := computes.continues.trans
                (Machine.Extends.store before.target.bound machine' cell result) (Nat.le_refl _)
              have memory := Machine.memory_store firstRepresents.distinct holds result
              rw [computes.memory] at memory
              refine ⟨.reached slots (machine'.store cell result).memory, ?_,
                .reached (computes.executes.trans (.append stores)) continues
                  (firstRepresents.store grows.bound cell result) running⟩
              rw [memory]
              simp [Statement.evaluateOne, evaluates, resolved, Slot.place?]
  | @evaluate value id before first valueEmits =>
      cases typed with
      | evaluate valueTyped =>
          obtain ⟨result, machine', computes, evaluates⟩ := valueEmits.computes valueTyped
            types.wellFormed types.carries represents starts
          refine ⟨.reached slots machine.memory, ?_, ?_⟩
          · simp [Statement.evaluateOne, evaluates]
          · rw [← computes.memory]
            exact .reached computes.executes computes.continues
              (represents.extend computes.continues computes.cells later) running
  | @exit location value valueId function before first valueEmits opened inBlock =>
      cases typed with
      | exit valueTyped absent =>
          have firstStarts := (ModuleBuilder.Grows.append first
            (Emit.returnInstruction valueId)).code.trans starts
          obtain ⟨result, machine', computes, evaluates⟩ := valueEmits.computes valueTyped
            types.wellFormed types.carries represents firstStarts
          have stops : machine'.step interpretation whole (Emit.returnInstruction valueId) =
              some (.stop result) := by
            cases computes.holds with
            | none => rfl
            | some holds => simp [Emit.returnInstruction, Machine.step, holds]
          refine ⟨.returned result machine'.memory, ?_, .returned
            (computes.executes.finishes (.append stops)) computes.continues ?_ rfl⟩
          · rw [computes.memory]
            simp [Statement.evaluateOne, evaluates]
          · exact (represents.extend computes.continues computes.cells
              valueEmits.advances.grows.bound).distinct

/-- Nothing is emitted behind a return. -/
theorem Statement.EmitsAll.eq_of_terminated {annotations : Annotations} {body : List Statement}
    (emits : Statement.EmitsAll annotations body before after)
    (terminated : before.functions.isTerminated = true) :
    after = before := by
  cases emits with
  | nil => rfl
  | stop => rfl
  | simple running emits restEmits =>
      rw [terminated] at running
      cases running
  | block running bodyEmits restEmits =>
      rw [terminated] at running
      cases running

/-- Code that leads to a machine goes on as that machine does. -/
theorem Emitter.Completes.behind {middle : Emitter} {machine' : Machine Value}
    {completion : Completion Value}
    (completes : middle.Completes interpretation whole after machine' completion)
    (executes : before.target.Executes interpretation whole middle.target machine machine')
    (continues : machine.Extends interpretation whole before.target.bound machine')
    (later : before.target.bound ≤ middle.target.bound) :
    before.Completes interpretation whole after machine completion := by
  cases completes with
  | reached restExecutes restContinues represents running =>
      exact .reached (executes.trans restExecutes) (continues.trans restContinues later) represents
        running
  | returned finishes restContinues distinct terminated =>
      exact .returned (executes.finishes finishes) (continues.trans restContinues later) distinct
        terminated

/-- The code of statements follows their evaluation up to the same return. -/
theorem Statement.EmitsAll.completes {body : List Statement}
    (emits : Statement.EmitsAll table.annotations body before after)
    (typed : Statement.TypedAll table returned names body)
    (types : before.Types names)
    (returns : before.target.Returns returned)
    (represents : before.functions.Represents before.target interpretation whole machine slots)
    (starts : after.target.code <+: whole)
    (running : before.functions.isTerminated = false) :
    ∃ completion, Statement.evaluateAll interpretation table body slots machine.memory =
        some completion ∧
      before.Completes interpretation whole after machine completion := by
  induction emits generalizing names slots machine with
  | nil =>
      exact ⟨.reached slots machine.memory, rfl,
        .reached (.refl _ _) (.refl _ _) represents running⟩
  | stop terminated =>
      rw [terminated] at running
      cases running
  | @simple statement rest before middle after _ emits restEmits inductionHypothesis =>
      cases typed with
      | block bodyTyped restTyped => cases emits
      | simple statementTyped restTyped =>
          obtain ⟨completion, evaluates, completes⟩ := emits.completes statementTyped types
            represents (restEmits.advances.grows.code.trans starts) running
          cases completes with
          | reached executes continues middleRepresents middleRunning =>
              obtain ⟨restCompletion, restEvaluates, restCompletes⟩ :=
                inductionHypothesis restTyped (emits.types statementTyped types returns)
                  (returns.advance emits.advances) middleRepresents starts middleRunning
              refine ⟨restCompletion, ?_,
                restCompletes.behind executes continues emits.advances.grows.bound⟩
              simp only [Statement.evaluateAll, evaluates]
              exact restEvaluates
          | returned finishes continues distinct terminated =>
              cases restEmits.eq_of_terminated terminated
              refine ⟨_, ?_, .returned finishes continues distinct terminated⟩
              simp only [Statement.evaluateAll, evaluates]
  | @block location body rest before inner after _ bodyEmits restEmits bodyHypothesis
      restHypothesis =>
      cases typed with
      | simple statementTyped restTyped => cases statementTyped
      | block bodyTyped restTyped =>
          have advances := bodyEmits.advances
          obtain ⟨completion, evaluates, completes⟩ := bodyHypothesis bodyTyped types.pushScope
            returns ⟨represents.names.push, represents.distinct, represents.below⟩
            (restEmits.advances.grows.code.trans starts) running
          cases completes with
          | @reached machine' _ executes continues innerRepresents innerRunning =>
              have outerTypes := types.dropScope bodyEmits
                (bodyEmits.typed bodyTyped types.pushScope returns)
              have outerRepresents : inner.functions.dropScope.Represents inner.target
                  interpretation whole machine' slots := by
                refine ⟨?_, innerRepresents.distinct, innerRepresents.below⟩
                rw [bodyEmits.names_dropScope]
                exact represents.names.imp fun _ _ entry =>
                  entry.extend continues advances.grows.bound
              obtain ⟨restCompletion, restEvaluates, restCompletes⟩ := restHypothesis restTyped
                outerTypes (returns.advance advances) outerRepresents starts innerRunning
              refine ⟨restCompletion, ?_,
                restCompletes.behind executes continues advances.grows.bound⟩
              simp only [Statement.evaluateAll, Statement.evaluateOne, evaluates]
              exact restEvaluates
          | returned finishes continues distinct terminated =>
              cases restEmits.eq_of_terminated terminated
              refine ⟨_, ?_, .returned finishes continues distinct terminated⟩
              simp only [Statement.evaluateAll, Statement.evaluateOne, evaluates]

end Statements

end ShaderLang
