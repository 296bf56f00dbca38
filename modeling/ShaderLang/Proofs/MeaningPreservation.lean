import ShaderLang.Proofs.BodySimulation
import ShaderLang.Proofs.Outlines

/-!
# Compilation preserves meaning

Executing the function of a method gives what evaluating the body of the method gives.  The
variables of the shader are the variables of the module outside of its functions, in the order of
the members and then of the sampler states, and the functions of the module are those of the methods
in order.
-/

namespace ShaderLang

open Instruction

variable {Value : Type} {interpretation : Interpretation Value} {whole : List Instruction}

/-! ## Parameters -/

section Methods

variable {table : SymbolTable} {shader : Shader} {before after : Emitter}
  {machine : Machine Value}

/-- The parameters take the arguments in order. -/
theorem Method.EmitsParameters.represents {parameters : List Parameter} {arguments : List Value}
    {scope shaderSlots : List (String × Slot Value)}
    (emits : Method.EmitsParameters table.annotations parameters before after)
    (annotated : ∀ parameter ∈ parameters,
      table.annotations.type? parameter.node = some (parameter.type.denoted table))
    (wellFormed : before.target.WellFormed)
    (represents : before.functions.Represents before.target interpretation whole machine
      ⟨[scope], shaderSlots⟩)
    (starts : after.target.code <+: whole)
    (given : machine.arguments = arguments)
    (fits : arguments.length = parameters.length) :
    ∃ machine', before.target.Executes interpretation whole after.target machine machine' ∧
      machine'.cells = machine.cells ∧
      after.functions.Represents after.target interpretation whole machine'
        ⟨[(List.zipWith (Parameter.slot table) parameters arguments).reverse ++ scope],
          shaderSlots⟩ := by
  induction emits generalizing arguments machine scope with
  | nil => exact ⟨machine, .refl _ _, rfl, by simpa using represents⟩
  | @cons parameter rest type typeId before after first annotatedType registers restEmits
      inductionHypothesis =>
      cases annotatedType.symm.trans (annotated parameter List.mem_cons_self)
      cases arguments with
      | nil => simp at fits
      | cons argument others =>
          obtain ⟨reaches, -⟩ := Build.register_reaches _ registers
          have advances := ModuleBuilder.Advances.withParameter first parameter.name typeId
          have here : definition? (first.defined fun result =>
              .functionParameter result typeId).code first.bound =
              some (.functionParameter first.bound typeId) :=
            (reaches.wellFormed wellFormed).definition?_defined rfl
          have named := ModuleBuilder.Grows.addName (first.defined fun result =>
            .functionParameter result typeId) first.bound parameter.name
          have defined := definition?_of_isPrefix
            ((named.code.trans restEmits.advances.grows.code).trans starts) here
          have steps : machine.step interpretation whole (.functionParameter first.bound typeId) =
              some (.next ({ machine with arguments := others }.define first.bound argument)) := by
            simp [Machine.step, given]
          have takes : before.target.Executes interpretation whole
              (first.withParameter parameter.name typeId) machine
              ({ machine with arguments := others }.define first.bound argument) :=
            ((ModuleBuilder.Executes.register registers machine).trans (.defined steps)).trans
              (.addName _ _ _ _)
          have continues : machine.Extends interpretation whole before.target.bound
              ({ machine with arguments := others }.define first.bound argument) :=
            ⟨fun id below => Machine.value?_define_ne
              (Nat.ne_of_lt (Nat.lt_of_lt_of_le below reaches.grows.bound)), List.prefix_refl _⟩
          have later : first.bound < (first.withParameter parameter.name typeId).bound :=
            Nat.lt_of_lt_of_le (Nat.lt_succ_self _) named.bound
          have kept := represents.extend continues rfl
            (Nat.le_trans reaches.grows.bound (Nat.le_of_lt later))
          have next : (before.functions.bindLocal parameter.name
              (.value first.bound (parameter.type.denoted table))).Represents
              (first.withParameter parameter.name typeId) interpretation whole
              ({ machine with arguments := others }.define first.bound argument)
              ⟨[parameter.slot table argument :: scope], shaderSlots⟩ := by
            refine ⟨?_, kept.distinct, kept.below⟩
            rw [FunctionBuilder.names_bindLocal]
            exact kept.names.bind parameter.name
              (.argument later (Machine.value?_define_self defined rfl))
          have remaining : ({ machine with arguments := others }.define first.bound
              argument).arguments = others := rfl
          obtain ⟨machine', executes, cells, finalRepresents⟩ := inductionHypothesis
            (fun other member => annotated other (List.mem_cons_of_mem _ member))
            (advances.wellFormed (reaches.wellFormed wellFormed)) next starts remaining
            (by simpa using fits)
          exact ⟨machine', takes.trans executes, cells, by simpa using finalRepresents⟩

/-! ## Methods -/

/-- A body leaves the state of its function as it is. -/
theorem Statement.EmitsAll.state? {annotations : Annotations} {body : List Statement}
    (emits : Statement.EmitsAll annotations body before after) :
    after.functions.state? = before.functions.state? := by
  induction emits with
  | nil => rfl
  | stop terminated => rfl
  | simple running emits restEmits inductionHypothesis =>
      rw [inductionHypothesis]
      cases emits with
      | declare typed valueEmits registers opened => rfl
      | assign valueEmits bound => rfl
      | evaluate valueEmits => rfl
      | exit valueEmits opened inBlock =>
          unfold FunctionBuilder.state?
          rw [opened]
          rfl
  | block running bodyEmits restEmits bodyHypothesis restHypothesis =>
      exact restHypothesis.trans bodyHypothesis

/-- The code of a body returns what its evaluation returns, if it is given a return where it has
none. -/
theorem Emitter.Completes.finishes {completion : Completion Value} {function : OpenFunction}
    (completes : before.Completes interpretation whole after machine completion)
    (opened : after.functions.current = some function)
    (inBlock : function.state = .blockOpen) :
    ∃ value machine', before.target.Finishes interpretation whole
        (after.target.closeBlock function) machine value machine' ∧
      machine.places <+: machine'.places ∧ machine'.places.Nodup ∧
      ∀ count, completion.outcome count = (value, machine'.memory.take count) := by
  cases completes with
  | @reached machine' slots executes continues represents running =>
      have notTerminated : ¬ (function.state ≠ .blockOpen ∨ function.terminated) := by
        unfold FunctionBuilder.isTerminated at running
        rw [opened] at running
        simpa [inBlock] using running
      have closes : after.target.closeBlock function = after.target.append .returnNothing :=
        if_neg notTerminated
      rw [closes]
      exact ⟨none, machine', executes.finishes (.append rfl), continues.places,
        represents.distinct, fun _ => rfl⟩
  | @returned machine' value finishes continues distinct terminated =>
      have isTerminated : function.state ≠ .blockOpen ∨ function.terminated := by
        unfold FunctionBuilder.isTerminated at terminated
        rw [opened] at terminated
        exact .inr terminated
      have closes : after.target.closeBlock function = after.target := if_pos isTerminated
      rw [closes]
      exact ⟨value, machine', finishes, continues.places, distinct, fun _ => rfl⟩

/-- How what a name of a shader stands for is bound: a variable as the shared variable at its
place. -/
inductive Slot.Placed (shared : List ResultId) : Slot Value → Binding → Prop
  | cell {place : Nat} {type : ShaderType} {id : ResultId}
      (holds : shared[place]? = some id) :
      Placed shared (.cell place type) (.cell id type)
  | generic {type : ShaderType} : Placed shared .generic (.generic type)

/-- An emitter between two elements of a shader has emitted the given variables outside of
functions, and what the names of the shader stand for is bound to them. -/
structure Emitter.Shares (emitter : Emitter) (shared : List ResultId)
    (slots : List (String × Slot Value)) : Prop where
  outside : (Outline.ofCode emitter.target.code).current = none
  listed : (Outline.ofCode emitter.target.code).shared = shared
  names : NameTable.Agrees (Slot.Placed shared) ⟨[], slots⟩ emitter.functions.names
  distinct : shared.Nodup
  below : ∀ id ∈ shared, id < emitter.target.bound

theorem Machine.places_zip {shared : List ResultId} {contents : List Value}
    (fits : contents.length = shared.length) (arguments : List Value) :
    Machine.places ⟨[], shared.zip contents, arguments⟩ = shared :=
  List.map_fst_zip (Nat.le_of_eq fits.symm)

theorem Machine.memory_zip {shared : List ResultId} {contents : List Value}
    (fits : contents.length = shared.length) (arguments : List Value) :
    Machine.memory ⟨[], shared.zip contents, arguments⟩ = contents :=
  List.map_snd_zip (Nat.le_of_eq fits)

/-- The machine that starts with the given contents of the shared variables keeps what the names of
the shader stand for. -/
theorem Emitter.Shares.represents {shared : List ResultId} {slots : List (String × Slot Value)}
    {contents : List Value}
    (shares : before.Shares shared slots)
    (fits : contents.length = shared.length) (arguments : List Value) :
    before.functions.Represents before.target interpretation whole
      ⟨[], shared.zip contents, arguments⟩ ⟨[], slots⟩ := by
  have places := Machine.places_zip fits arguments
  refine ⟨shares.names.imp fun slot binding placed => ?_, ?_, ?_⟩
  · cases placed with
    | cell holds => exact .cell (by rw [places]; exact holds)
    | generic => exact .generic
  · rw [places]
    exact shares.distinct
  · rw [places]
    exact shares.below

/-- A function is started in an empty scope, with the shared variables as they are. -/
theorem Emitter.Shares.start {shared : List ResultId} {slots : List (String × Slot Value)}
    {contents : List Value} {second : ModuleBuilder}
    (shares : before.Shares shared slots)
    (fits : contents.length = shared.length)
    (declared : before.target.Advances second)
    (arguments : List Value) (name : String) (entryPoint : Option EntryPoint)
    (returned functionType : ResultId) (function : OpenFunction) :
    (before.functions.start function).Represents
      (second.startFunction name entryPoint returned functionType) interpretation whole
      ⟨[], shared.zip contents, arguments⟩ ⟨[[]], slots⟩ := by
  have represents : before.functions.Represents before.target interpretation whole
      ⟨[], shared.zip contents, arguments⟩ ⟨[], slots⟩ := shares.represents fits arguments
  have grows := declared.grows.trans
    (second.grows_startFunction name entryPoint returned functionType)
  have later := represents.extend (.refl _ _) rfl grows.bound
  exact ⟨later.names.push, later.distinct, later.below⟩

/-- Executing the instructions of a function, as part of any code that goes on from the given one,
gives what evaluating the body of its method gives. -/
def Method.Follows (Value : Type) (method : Method) (shader : Shader) (table : SymbolTable)
    (shared : List ResultId) (code inner : List Instruction) : Prop :=
  ∀ (interpretation : Interpretation Value) (whole : List Instruction) (body : List Statement)
    (arguments contents : List Value),
    code <+: whole → method.body = some body → arguments.length = method.parameters.length →
    contents.length = shared.length →
    ∃ completion value machine,
      Statement.evaluateAll interpretation table body
        ⟨[method.slots table arguments], shader.slots table⟩ contents = some completion ∧
      Machine.execute interpretation whole inner ⟨[], shared.zip contents, arguments⟩ =
        some (value, machine) ∧
      shared <+: machine.places ∧ machine.places.Nodup ∧
      ∀ count, completion.outcome count = (value, machine.memory.take count)

/-- The body of a method is executed in the block of its function. -/
theorem Method.finishes_of_emitsBody {body : List Statement} {returned : ShaderType}
    {names : NameTable Referent} {slots : NameTable (Slot Value)} {function started : OpenFunction}
    (emits : Method.EmitsBody table.annotations (some body) before after)
    (typed : Statement.TypedAll table returned names body)
    (types : before.Types names)
    (returns : before.target.Returns returned)
    (represents : before.functions.Represents before.target interpretation whole machine slots)
    (starts : after.target.code <+: whole)
    (current : before.functions.current = some started)
    (running : started.terminated = false)
    (opened : after.functions.current = some function) :
    ∃ completion value machine',
      Statement.evaluateAll interpretation table body slots machine.memory = some completion ∧
      before.target.Finishes interpretation whole (after.target.closeBlock function) machine value
        machine' ∧
      machine.places <+: machine'.places ∧ machine'.places.Nodup ∧
      ∀ count, completion.outcome count = (value, machine'.memory.take count) := by
  cases emits with
  | @some _ opening _ _ isOpen statementsEmit =>
      cases current.symm.trans isOpen
      have labelRepresents : before.functions.Represents (before.target.defined .label)
          interpretation whole machine slots :=
        represents.extend (.refl _ machine) rfl (Nat.le_succ _)
      obtain ⟨completion, evaluates, completes⟩ := statementsEmit.completes typed
        (types.openBlock started) (returns.advance (.defined rfl rfl))
        ⟨labelRepresents.names, labelRepresents.distinct, labelRepresents.below⟩ starts running
      have inBlock : function.state = .blockOpen := by
        have same := statementsEmit.state?
        unfold FunctionBuilder.state? at same
        rw [opened] at same
        exact Option.some.inj same
      obtain ⟨value, machine', finishes, places, distinct, outcome⟩ :=
        completes.finishes opened inBlock
      exact ⟨completion, value, machine', evaluates,
        (ModuleBuilder.Executes.defined rfl).finishes finishes, places, distinct, outcome⟩

/-- The function of a method is added behind the others, and it follows the body of the method. -/
theorem Method.Emits.follows {method : Method} {shared : List ResultId}
    (emits : method.Emits table.annotations before after)
    (typed : method.Typed shader table)
    (types : before.Types ⟨[], shader.referents table⟩)
    (shares : before.Shares shared (shader.slots table : List (String × Slot Value))) :
    ∃ inner, Outline.ofCode after.target.code =
        { Outline.ofCode before.target.code with
          bodies := (Outline.ofCode before.target.code).bodies ++ [inner] } ∧
      method.Follows Value shader table shared after.target.code inner := by
  cases emits with
  | @mk info returned parameters functionType returnedId first second function _ middle last
      checked annotated closed registersType registersReturned parametersEmit bodyEmits opened
      closable =>
      cases annotated.symm.trans typed.signature
      obtain ⟨-, returnedRegistered⟩ := Build.register_reaches _ registersReturned
      obtain ⟨inner, insideCode, innerPlain⟩ :=
        (Method.advances_inside parametersEmit bodyEmits function).code
      have outline := ModuleBuilder.outline_function method.name info.entryPoint
        ((ModuleBuilder.KeepsOutline.register registersType).trans (.register registersReturned))
        insideCode innerPlain shares.outside
      refine ⟨inner, outline, ?_⟩
      intro interpretation whole body arguments contents starts hasBody fits contentsFit
      have closedStarts := (ModuleBuilder.Grows.append (last.target.closeBlock function)
        .functionEnd).code.trans starts
      have lastStarts := (ModuleBuilder.Advances.closeBlock last.target
        function).grows.code.trans closedStarts
      have middleStarts := bodyEmits.advances.grows.code.trans lastStarts
      have declared : before.target.Advances second :=
        (ModuleBuilder.Advances.register registersType).trans (.register registersReturned)
      have secondTyped := (types.typed.register registersType).register registersReturned
      -- the parameters bind the same names to types and to arguments
      obtain ⟨startTypes, startReturns⟩ := types.start declared secondTyped returnedRegistered
        method.name info.entryPoint functionType
        ⟨method.name, second.bound, method.returned.denoted table, info.entryPoint, .declared,
          false⟩
      obtain ⟨middleTypes, -⟩ := parametersEmit.types
        (fun parameter member => (typed.parameters parameter member).1) startTypes
      obtain ⟨machine, parametersExecute, cells, middleRepresents⟩ := parametersEmit.represents
        (fun parameter member => (typed.parameters parameter member).1) startTypes.wellFormed
        (shares.start contentsFit declared arguments _ _ _ _ _) middleStarts rfl fits
      rw [List.append_nil] at middleTypes middleRepresents
      rw [hasBody] at bodyEmits
      obtain ⟨completion, value, machine', evaluates, finishes, places, distinct, outcome⟩ :=
        Method.finishes_of_emitsBody bodyEmits (typed.body body hasBody).1 middleTypes
          (startReturns.advance parametersEmit.advances) middleRepresents lastStarts
          parametersEmit.current rfl opened
      have sameMemory : machine.memory = contents :=
        (congrArg (List.map Prod.snd) cells).trans (Machine.memory_zip contentsFit arguments)
      have samePlaces : machine.places = shared :=
        (congrArg (List.map Prod.fst) cells).trans (Machine.places_zip contentsFit arguments)
      rw [sameMemory] at evaluates
      rw [samePlaces] at places
      obtain ⟨new, newCode, runs⟩ := ((ModuleBuilder.Executes.addName _ _ _ _).trans
        parametersExecute).finishes finishes
      have same : new = inner := List.append_cancel_left (newCode.symm.trans insideCode)
      have executes := runs []
      rw [same, List.append_nil] at executes
      exact ⟨completion, value, machine', evaluates, executes, places, distinct, outcome⟩

end Methods

/-! ## Other elements and shaders -/

section Elements

variable {table : SymbolTable} {shader : Shader} {before after : Emitter}
  {shared : List ResultId} {slots : List (String × Slot Value)}

theorem Emitter.shares_initial (options : CompileOptions) :
    (Emitter.initial options).Shares [] ([] : List (String × Slot Value)) where
  outside := rfl
  listed := rfl
  names := ⟨.nil, .nil⟩
  distinct := List.nodup_nil
  below := by simp

theorem Slot.Placed.extend {longer : List ResultId} {slot : Slot Value} {binding : Binding}
    (placed : slot.Placed shared binding)
    (starts : shared <+: longer) :
    slot.Placed longer binding := by
  cases placed with
  | cell holds => exact .cell (getElem?_of_isPrefix starts holds)
  | generic => exact .generic

/-- A variable of the shader is bound to a new variable outside of functions. -/
theorem Emitter.Shares.bindVariable {target : ModuleBuilder} {id : ResultId}
    (shares : before.Shares shared slots)
    (outline : Outline.ofCode target.code =
      { Outline.ofCode before.target.code with
        shared := (Outline.ofCode before.target.code).shared ++ [id] })
    (fresh : before.target.bound ≤ id)
    (later : id < target.bound) (name : String) (type : ShaderType) :
    Emitter.Shares ⟨target, before.functions.bindMember name (.cell id type)⟩ (shared ++ [id])
      (Slot.ofEntry shared.length (name, type) :: slots) where
  outside := by
    rw [outline]
    exact shares.outside
  listed := by
    rw [outline, ← shares.listed]
  names := by
    have earlier := shares.names.imp fun _ _ placed =>
      placed.extend (List.prefix_append shared [id])
    exact ⟨earlier.scopes, .cons ⟨rfl, .cell (by simp)⟩ earlier.shader⟩
  distinct := by
    refine List.nodup_append.mpr ⟨shares.distinct, by simp, ?_⟩
    intro old member new isNew
    rw [List.mem_singleton.mp isNew]
    exact Nat.ne_of_lt (Nat.lt_of_lt_of_le (shares.below old member) fresh)
  below := by
    intro other member
    rcases List.mem_append.mp member with isOld | isNew
    · exact Nat.lt_trans (Nat.lt_of_lt_of_le (shares.below other isOld) fresh) later
    · rw [List.mem_singleton.mp isNew]
      exact later

/-- The elements in front of the methods have been emitted up to a point, with a variable outside of
functions for each of the given entries. -/
def Emitter.Lists (Value : Type) (emitter : Emitter) (generics : List Generic)
    (entries : List (String × ShaderType)) : Prop :=
  (Outline.ofCode emitter.target.code).bodies = [] ∧
  ∃ shared, shared.length = entries.length ∧
    emitter.Shares shared (Slot.listed generics entries : List (String × Slot Value))

theorem Slot.listed_generic (generics : List Generic) (generic : Generic) :
    (Slot.listed (generics ++ [generic]) [] : List (String × Slot Value)) =
      (generic.name, .generic) :: Slot.listed generics [] := by
  simp [Slot.listed]

theorem Slot.listed_entry (generics : List Generic) (entries : List (String × ShaderType))
    (entry : String × ShaderType) :
    (Slot.listed generics (entries ++ [entry]) : List (String × Slot Value)) =
      Slot.ofEntry entries.length entry :: Slot.listed generics entries := by
  simp [Slot.listed, List.mapIdx_append]

theorem Generic.lists_of_emit {generic : Generic} {generics : List Generic}
    (run : (generic.emit table.annotations).run before = .ok () after)
    (lists : before.Lists Value generics []) :
    after.Lists Value (generics ++ [generic]) [] := by
  obtain ⟨type, -, rfl⟩ := Generic.emit_eq_ok run
  obtain ⟨bodies, shared, length, shares⟩ := lists
  refine ⟨bodies, shared, length, ?_⟩
  rw [Slot.listed_generic]
  exact ⟨shares.outside, shares.listed,
    ⟨shares.names.scopes, .cons ⟨rfl, .generic⟩ shares.names.shader⟩, shares.distinct,
    shares.below⟩

theorem Struct.lists_of_emit {struct : Struct} {generics : List Generic}
    {entries : List (String × ShaderType)}
    (run : (struct.emit table.annotations).run before = .ok () after)
    (lists : before.Lists Value generics entries) :
    after.Lists Value generics entries := by
  have advances := Struct.advances_of_emit run
  obtain ⟨type, typeId, target, -, registers, rfl⟩ := Struct.emit_eq_ok run
  obtain ⟨bodies, shared, length, shares⟩ := lists
  have outline := ModuleBuilder.KeepsOutline.register registers shares.outside
  refine ⟨by rw [outline]; exact bodies, shared, length, ?_, ?_, shares.names, shares.distinct, ?_⟩
  · rw [outline]
    exact shares.outside
  · rw [outline]
    exact shares.listed
  · intro id member
    exact Nat.lt_of_lt_of_le (shares.below id member) advances.grows.bound

/-- A new variable outside of functions is listed with its entry. -/
theorem Emitter.Lists.bindVariable {target : ModuleBuilder} {id : ResultId}
    {generics : List Generic} {entries : List (String × ShaderType)}
    (lists : before.Lists Value generics entries)
    (outline : (Outline.ofCode before.target.code).current = none →
      Outline.ofCode target.code =
        { Outline.ofCode before.target.code with
          shared := (Outline.ofCode before.target.code).shared ++ [id] })
    (fresh : before.target.bound ≤ id)
    (later : id < target.bound) (name : String) (type : ShaderType) :
    Emitter.Lists Value ⟨target, before.functions.bindMember name (.cell id type)⟩ generics
      (entries ++ [(name, type)]) := by
  obtain ⟨bodies, shared, length, shares⟩ := lists
  have outline := outline shares.outside
  refine ⟨by rw [outline]; exact bodies, shared ++ [id], by simp [length], ?_⟩
  rw [Slot.listed_entry, ← length]
  exact shares.bindVariable outline fresh later name type

theorem Member.lists_of_emit {member : Member} {generics : List Generic}
    {entries : List (String × ShaderType)}
    (run : (member.emit table.annotations).run before = .ok () after)
    (typed : member.Typed table)
    (lists : before.Lists Value generics entries) :
    after.Lists Value generics (entries ++ [member.entry table]) := by
  obtain ⟨type, typeId, valueId, first, second, annotated, registers, valueEmits, rfl⟩ :=
    Member.emit_eq_ok run
  cases typed.annotated.symm.trans annotated
  have named := (ModuleBuilder.Advances.addOptionalSemantic (first.defined fun result =>
    .cell result typeId .function) first.bound member.semantic).trans
      (.addName _ first.bound member.name)
  have later : first.bound < (second.storeOptional first.bound valueId).bound :=
    Nat.lt_of_lt_of_le (Nat.lt_succ_self _) ((named.trans valueEmits.advances).trans
      (.storeOptional _ _ _)).grows.bound
  have literals : ∀ expression ∈ member.value, ∃ node location literal,
      expression = .literal node location literal := by
    intro expression present
    obtain ⟨node, location, literal, same, -⟩ := typed.value expression present
    exact ⟨node, location, literal, same⟩
  have back : (first.defined fun result => .cell result typeId .function).KeepsOutline
      (second.storeOptional first.bound valueId) :=
    (((ModuleBuilder.KeepsOutline.addOptionalSemantic _ _ _).trans (.addName _ _ _)).trans
      (.literal valueEmits literals)).trans (.storeOptional _ _ _)
  exact lists.bindVariable (ModuleBuilder.outline_cell (.register registers) back)
    (ModuleBuilder.Advances.register registers).grows.bound later member.name
    (member.type.denoted table)

theorem Sampler.lists_of_emit {sampler : Sampler} {generics : List Generic}
    {entries : List (String × ShaderType)}
    (run : (sampler.emit table.annotations).run before = .ok () after)
    (annotated : table.annotations.type? sampler.node = some sampler.kind.type)
    (lists : before.Lists Value generics entries) :
    after.Lists Value generics (entries ++ [sampler.entry]) := by
  obtain ⟨type, typeId, first, annotated', registers, rfl⟩ := Sampler.emit_eq_ok run
  cases annotated.symm.trans annotated'
  exact lists.bindVariable (ModuleBuilder.outline_cell (.register registers) (.addName _ _ _))
    (ModuleBuilder.Advances.register registers).grows.bound
    (first.lt_bound_withCell sampler.name typeId .uniformConstant) sampler.name sampler.kind.type

theorem Method.Follows.extend {method : Method} {code code' inner : List Instruction}
    (follows : method.Follows Value shader table shared code inner)
    (starts : code <+: code') :
    method.Follows Value shader table shared code' inner :=
  fun interpretation whole body arguments contents wholeStarts =>
    follows interpretation whole body arguments contents (starts.trans wholeStarts)

/-- A method leaves the variables outside of functions as they are. -/
theorem Method.Emits.shares {method : Method} {inner : List Instruction}
    (emits : method.Emits table.annotations before after)
    (shares : before.Shares shared slots)
    (outline : Outline.ofCode after.target.code =
      { Outline.ofCode before.target.code with
        bodies := (Outline.ofCode before.target.code).bodies ++ [inner] }) :
    after.Shares shared slots where
  outside := by
    rw [outline]
    exact shares.outside
  listed := by
    rw [outline]
    exact shares.listed
  names := by
    rw [emits.names (shares.names.scopes_eq_nil rfl)]
    exact shares.names
  distinct := shares.distinct
  below := by
    intro id member
    exact Nat.lt_of_lt_of_le (shares.below id member) emits.adds.1.bound

/-- The elements in front of the methods add the variables of the shader and no function. -/
theorem Shader.lists_of_variables {options : CompileOptions} {first second third fourth : Emitter}
    (generics : (shader.generics.forM fun generic => generic.emit table.annotations).run
      (.initial options) = .ok () first)
    (structs : (shader.structs.forM fun struct => struct.emit table.annotations).run first =
      .ok () second)
    (members : (shader.members.forM fun member => member.emit table.annotations).run second =
      .ok () third)
    (samplers : (shader.samplers.forM fun sampler => sampler.emit table.annotations).run third =
      .ok () fourth)
    (typed : shader.Typed table) :
    fourth.Lists Value shader.generics
      (shader.members.map (Member.entry table) ++ shader.samplers.map Sampler.entry) := by
  have afterGenerics : first.Lists Value shader.generics [] := by
    refine Run.forM_invariant (fun done (emitter : Emitter) => emitter.Lists Value done [])
      generics ⟨rfl, [], rfl, Emitter.shares_initial options⟩ ?_
    intro done generic rest split state state' earlier emits
    exact Generic.lists_of_emit emits earlier
  have afterStructs : second.Lists Value shader.generics [] := by
    refine Run.forM_invariant (fun _ (emitter : Emitter) => emitter.Lists Value _ _)
      structs afterGenerics ?_
    intro done struct rest split state state' earlier emits
    exact Struct.lists_of_emit emits earlier
  have afterMembers : third.Lists Value shader.generics
      (shader.members.map (Member.entry table)) := by
    refine Run.forM_invariant (fun done (emitter : Emitter) => emitter.Lists Value shader.generics
      (done.map (Member.entry table))) members afterStructs ?_
    intro done member rest split state state' earlier emits
    rw [List.map_append]
    exact Member.lists_of_emit emits (typed.members member (by simp [split])) earlier
  refine Run.forM_invariant (fun done (emitter : Emitter) => emitter.Lists Value shader.generics
    (shader.members.map (Member.entry table) ++ done.map Sampler.entry)) samplers
    (by simpa using afterMembers) ?_
  intro done sampler rest split state state' earlier emits
  rw [List.map_append, ← List.append_assoc]
  exact Sampler.lists_of_emit emits (typed.samplers sampler (by simp [split])) earlier

/-- Every function of an emitted shader follows the body of its method. -/
theorem Shader.follows_of_emit (Value : Type) {options : CompileOptions}
    (run : (shader.emit table.annotations).run (.initial options) = .ok () after)
    (typed : shader.Typed table) :
    (Outline.ofCode after.target.code).shared.length =
        shader.members.length + shader.samplers.length ∧
      List.Forall₂ (fun method inner => Method.Follows Value method shader table
          (Outline.ofCode after.target.code).shared after.target.code inner)
        shader.methods (Outline.ofCode after.target.code).bodies := by
  obtain ⟨first, second, third, fourth, generics, structs, members, samplers, methods⟩ :=
    Shader.emit_eq_ok run
  have typesShader := Shader.typesShader_of_variables generics structs members samplers typed
    (Emitter.typesShader_initial options)
  obtain ⟨noBodies, shared, length, shares⟩ :=
    Shader.lists_of_variables generics structs members samplers typed
  have afterMethods : after.TypesShader (shader.referents table) ∧
      after.Shares shared (shader.slots table : List (String × Slot Value)) ∧
      List.Forall₂ (fun method inner =>
        Method.Follows Value method shader table shared after.target.code inner)
        shader.methods (Outline.ofCode after.target.code).bodies := by
    refine Run.forM_invariant (fun done (emitter : Emitter) =>
      emitter.TypesShader (shader.referents table) ∧
      emitter.Shares shared (shader.slots table : List (String × Slot Value)) ∧
      List.Forall₂ (fun method inner =>
        Method.Follows Value method shader table shared emitter.target.code inner)
        done (Outline.ofCode emitter.target.code).bodies) methods
      ⟨typesShader, shares, by rw [noBodies]; exact .nil⟩ ?_
    intro done method rest split state state' ⟨types, stateShares, earlier⟩ run
    have emits := Method.emits_of_emit run
    have methodTyped := typed.methods method (by simp [split])
    obtain ⟨inner, outline, follows⟩ := emits.follows methodTyped types.types stateShares
    refine ⟨Method.typesShader_of_emit emits methodTyped types,
      emits.shares stateShares outline, ?_⟩
    rw [outline]
    exact List.rel_append (earlier.imp fun _ _ holds => holds.extend emits.adds.1.code)
      (.cons follows .nil)
  obtain ⟨-, afterShares, follows⟩ := afterMethods
  rw [afterShares.listed]
  exact ⟨by simpa using length, follows⟩

end Elements

/-! ## Compiled modules -/

/-- The contents of the first variables of a machine are found by their ids. -/
theorem Machine.mapM_lookup_cells {machine : Machine Value} {shared : List ResultId}
    (distinct : machine.places.Nodup)
    (starts : shared <+: machine.places) :
    (shared.mapM fun id => machine.cells.lookup id) =
      some (machine.memory.take shared.length) := by
  have general : ∀ cells : List (ResultId × Value), (∀ cell ∈ cells, cell ∈ machine.cells) →
      ((cells.map Prod.fst).mapM fun id => machine.cells.lookup id) =
        some (cells.map Prod.snd) := by
    intro cells
    induction cells with
    | nil => intro _; rfl
    | cons cell rest inductionHypothesis =>
        intro inside
        have found := lookup_eq_some_of_mem distinct (inside cell List.mem_cons_self)
        have others := inductionHypothesis fun other member =>
          inside other (List.mem_cons_of_mem _ member)
        rw [List.map_cons, List.mapM_cons, found, others]
        rfl
  have front : shared = (machine.cells.take shared.length).map Prod.fst := by
    rw [List.map_take]
    exact List.prefix_iff_eq_take.mp starts
  have back : machine.memory.take shared.length =
      (machine.cells.take shared.length).map Prod.snd :=
    List.map_take.symm
  have found := general (machine.cells.take shared.length) fun _ member =>
    List.mem_of_mem_take member
  rw [← front, ← back] at found
  exact found

/-- Executing the function of a method gives the returned value and the contents of the variables
that evaluating the body of the method gives, whatever the values are and the operators do. -/
theorem Shader.compile_preservesMeaning {shader : Shader} {options : CompileOptions}
    {compiled : CompiledShader} {index : Nat} {method : Method} {body : List Statement}
    (distinct : shader.nodes.Nodup)
    (compiles : shader.compile options = .ok compiled)
    (isMethod : shader.methods[index]? = some method)
    (hasBody : method.body = some body)
    (interpretation : Interpretation Value) (arguments contents : List Value)
    (argumentsFit : arguments.length = method.parameters.length)
    (contentsFit : contents.length = shader.members.length + shader.samplers.length) :
    ∃ outcome,
      compiled.shaderModule.execute interpretation index arguments contents = some outcome ∧
      method.evaluate interpretation shader body arguments contents = some outcome := by
  obtain ⟨clean, emitter, emits, rfl⟩ := Shader.compile_eq_ok compiles
  obtain ⟨length, follows⟩ := Shader.follows_of_emit Value emits
    (Shader.typed_of_clean distinct clean)
  have sharedFit := contentsFit.trans length.symm
  obtain ⟨inner, isBody, methodFollows⟩ := getElem?_of_forall₂ follows isMethod
  obtain ⟨completion, value, machine, evaluates, executes, places, nodup, outcome⟩ :=
    methodFollows interpretation emitter.target.code body arguments contents (List.prefix_refl _)
      hasBody argumentsFit sharedFit
  have final := Machine.mapM_lookup_cells nodup places
  rw [← sharedFit] at final
  refine ⟨(value, machine.memory.take contents.length), ?_, ?_⟩
  · unfold ShaderModule.execute ModuleBuilder.finish
    simp only [isBody, Option.bind_eq_bind, Option.bind_some, executes, final]
    rfl
  · unfold Method.evaluate
    simp only [evaluates, Option.map_some, outcome]

/-- Whole numbers, on which division rounds to minus infinity.  Literals of other types count as
zero or one, and new variables hold zero. -/
def Interpretation.integers : Interpretation Int where
  literal
    | .int value => value
    | .bool value => if value then 1 else 0
    | .float _ => 0
  operate operator _ left right :=
    match operator with
    | .add => left + right
    | .sub => left - right
    | .mul => left * right
    | .div => left / right
  unset _ := 0

theorem Shader.scaling_preservesMeaning :
    Shader.scaling.nodes.Nodup ∧
    ∃ compiled method body,
      Shader.scaling.compile .allNames = .ok compiled ∧
      Shader.scaling.methods[0]? = some method ∧
      method.body = some body ∧
      [(5 : Int)].length = method.parameters.length ∧
      [(3 : Int)].length = Shader.scaling.members.length + Shader.scaling.samplers.length ∧
      compiled.shaderModule.execute .integers 0 [5] [3] = some (some 15, [17]) ∧
      method.evaluate .integers Shader.scaling body [5] [3] = some (some 15, [17]) := by
  have distinct : Shader.scaling.nodes.Nodup := by decide +kernel
  obtain ⟨compiled, compiles⟩ := Shader.scaling_compiles
  obtain ⟨method, body, isMethod, hasBody, fits, expected⟩ : ∃ method body,
      Shader.scaling.methods[0]? = some method ∧ Method.body method = some body ∧
      [(5 : Int)].length = method.parameters.length ∧
      method.evaluate .integers Shader.scaling body [5] [3] = some (some 15, [17]) :=
    ⟨_, _, rfl, rfl, rfl, by decide +kernel⟩
  obtain ⟨outcome, executes, evaluates⟩ := Shader.compile_preservesMeaning distinct compiles
    isMethod hasBody .integers [5] [3] fits rfl
  rw [expected] at evaluates
  rw [← evaluates] at executes
  exact ⟨distinct, compiled, method, body, compiles, isMethod, hasBody, fits, rfl, executes,
    expected⟩

end ShaderLang
