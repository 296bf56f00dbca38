import ShaderLang.Proofs.BodySimulation
import ShaderLang.Proofs.IdScoping
import ShaderLang.Proofs.ShaderSoundness

/-!
# The layout of functions

The instructions that hold a function together make up its frame: an entry point, the start of the
function, its parameters, the label of its block, the return from the block and the end of the
function.  A compiled module has one frame for each method, in the order of the methods; a body
adds one return to it whatever its blocks and returns are.  A method that is named after a stage is
an entry point with the execution model of the stage.
-/

namespace ShaderLang

/-! ## Frames -/

/-- Whether an instruction is a part of the frame of a function. -/
def Instruction.isFramePart : Instruction → Bool
  | entryPoint .. | function .. | functionParameter .. | label _ => true
  | returnNothing | returnValue _ | functionEnd => true
  | _ => false

/-- The frame of a function.  A parameter is its id and its type; a block is its label and the value
that it returns, if it returns one. -/
structure FunctionFrame where
  record : FunctionRecord
  returned : ResultId
  functionType : ResultId
  parameters : List (ResultId × ResultId)
  block : Option (ResultId × Option ResultId)

namespace FunctionFrame

/-- The instructions of parameters. -/
def parameterCode (parameters : List (ResultId × ResultId)) : List Instruction :=
  parameters.map fun parameter => .functionParameter parameter.1 parameter.2

/-- The label of a block and the return from it. -/
def blockCode : Option (ResultId × Option ResultId) → List Instruction
  | none => []
  | some (label, value) => [.label label, Emit.returnInstruction value]

/-- The instructions of a frame. -/
def code (frame : FunctionFrame) : List Instruction :=
  entryPointCode frame.record.id frame.record.name frame.record.entryPoint ++
    .function frame.record.id frame.returned .none frame.functionType ::
      (parameterCode frame.parameters ++ (blockCode frame.block ++ [.functionEnd]))

end FunctionFrame

/-- The frame of a method: an entry point if the method has the name of a stage, and what is written
of its parameters and of its body. -/
def Method.frame (method : Method) (id returned functionType : ResultId)
    (parameters : List (ResultId × ResultId)) (block : Option (ResultId × Option ResultId)) :
    FunctionFrame where
  record := ⟨method.name, id, EntryPoint.ofMethodName? method.name, .finalized⟩
  returned := returned
  functionType := functionType
  parameters := parameters
  block := block

theorem Method.code_frame (method : Method) (id returned functionType : ResultId)
    (parameters : List (ResultId × ResultId)) (block : Option (ResultId × Option ResultId)) :
    (method.frame id returned functionType parameters block).code =
      (entryPointCode id method.name (EntryPoint.ofMethodName? method.name) ++
        [.function id returned .none functionType]) ++
      FunctionFrame.parameterCode parameters ++
      (FunctionFrame.blockCode block ++ [.functionEnd]) := by
  simp [FunctionFrame.code, frame]

/-- Whether a frame is that of a method.  The method is the entry point of a stage exactly when it
has the name of the stage, and there is a block exactly when the method has a body. -/
structure Method.FramedBy (method : Method) (frame : FunctionFrame) : Prop where
  name : frame.record.name = method.name
  stage : ∀ stage : EntryPoint,
    frame.record.entryPoint = some stage ↔ stage.methodName = method.name
  state : frame.record.state = .finalized
  parameters : frame.parameters.length = method.parameters.length
  block : frame.block.isSome = method.body.isSome

theorem Method.framedBy_frame (method : Method) (id returned functionType : ResultId)
    {parameters : List (ResultId × ResultId)} {block : Option (ResultId × Option ResultId)}
    (sameLength : parameters.length = method.parameters.length)
    (sameBlock : block.isSome = method.body.isSome) :
    method.FramedBy (method.frame id returned functionType parameters block) where
  name := rfl
  stage _ := Vocabulary.ofWord?_eq_some_iff
  state := rfl
  parameters := sameLength
  block := sameBlock

/-- Every return stands right in front of the end of its function. -/
def ReturnsClose (code : List Instruction) : Prop :=
  ∀ before instruction after, code = before ++ instruction :: after →
    instruction.opcode.endsBlock = true → ∃ rest, after = .functionEnd :: rest

theorem ReturnsClose.append {front back : List Instruction}
    (frontCloses : ReturnsClose front)
    (backCloses : ReturnsClose back) :
    ReturnsClose (front ++ back) := by
  intro before instruction after split endsBlock
  rcases append_eq_append_cons split with ⟨rest, frontEq, rfl⟩ | ⟨inner, -, backEq⟩
  · obtain ⟨others, rfl⟩ := frontCloses _ _ _ frontEq endsBlock
    exact ⟨others ++ back, rfl⟩
  · exact backCloses _ _ _ backEq endsBlock

theorem ReturnsClose.of_forall {code : List Instruction}
    (noReturn : ∀ instruction ∈ code, instruction.opcode.endsBlock = false) :
    ReturnsClose code := by
  intro before instruction after split endsBlock
  have member : instruction ∈ code := by
    rw [split]
    exact List.mem_append_right _ List.mem_cons_self
  rw [noReturn instruction member] at endsBlock
  cases endsBlock

theorem ReturnsClose.closed (value : Option ResultId) :
    ReturnsClose [Emit.returnInstruction value, .functionEnd] := by
  intro before instruction after split endsBlock
  cases before with
  | nil =>
      obtain ⟨-, rfl⟩ := List.cons.inj split
      exact ⟨[], rfl⟩
  | cons first rest =>
      have noReturn : ReturnsClose [.functionEnd] := .of_forall (by decide)
      exact noReturn rest instruction after (List.cons.inj split).2 endsBlock

/-! ## Code that adds frame parts -/

namespace ModuleBuilder

/-- A builder goes on to another one, and what is added has the given frame parts. -/
def AddsFrame (before after : ModuleBuilder) (frame : List Instruction) : Prop :=
  ∃ new, after.code = before.code ++ new ∧ new.filter Instruction.isFramePart = frame ∧
    ReturnsClose new

namespace AddsFrame

variable {before middle after builder : ModuleBuilder}

theorem trans {front back : List Instruction}
    (first : before.AddsFrame middle front)
    (second : middle.AddsFrame after back) :
    before.AddsFrame after (front ++ back) := by
  obtain ⟨firstNew, firstCode, rfl, firstCloses⟩ := first
  obtain ⟨secondNew, secondCode, rfl, secondCloses⟩ := second
  refine ⟨firstNew ++ secondNew, ?_, List.filter_append .., firstCloses.append secondCloses⟩
  rw [secondCode, firstCode, List.append_assoc]

theorem of_plain {new : List Instruction}
    (code : after.code = before.code ++ new)
    (plain : ∀ instruction ∈ new, instruction.isFramePart = false) :
    before.AddsFrame after [] := by
  refine ⟨new, code, ?_, .of_forall fun instruction member => ?_⟩
  · rw [List.filter_eq_nil_iff]
    intro instruction member
    rw [plain instruction member]
    decide
  · have notPart := plain instruction member
    cases instruction <;> first | rfl | cases notPart

theorem refl (builder : ModuleBuilder) : builder.AddsFrame builder [] :=
  of_plain (List.append_nil _).symm (List.forall_mem_nil _)

theorem plain {instruction : Instruction}
    (code : after.code = before.code ++ [instruction])
    (notPart : instruction.isFramePart = false) :
    before.AddsFrame after [] :=
  of_plain code (List.forall_mem_singleton.mpr notPart)

theorem part {instruction : Instruction}
    (code : after.code = before.code ++ [instruction])
    (isPart : instruction.isFramePart = true)
    (noReturn : instruction.opcode.endsBlock = false) :
    before.AddsFrame after [instruction] :=
  ⟨[instruction], code, List.filter_cons_of_pos isPart,
    .of_forall (List.forall_mem_singleton.mpr noReturn)⟩

theorem reaches {limit : Nat} (reaches : Reaches limit before after) :
    before.AddsFrame after [] := by
  obtain ⟨new, code, declares⟩ := reaches.appends
  refine of_plain code fun instruction member => ?_
  have declaration := declares instruction member
  cases instruction <;> first | rfl | cases declaration

theorem register {type : ShaderType} {id : ResultId}
    (registers : (Build.register type).run before = .ok id after) :
    before.AddsFrame after [] :=
  reaches (Build.register_reaches type registers).1

theorem registerConstant {scalar : ScalarType} {value : Constant} {id : ResultId}
    (registers : (Build.registerConstant scalar value).run before = .ok id after) :
    before.AddsFrame after [] :=
  reaches (Build.registerConstant_reaches registers).1

theorem addName (builder : ModuleBuilder) (id : ResultId) (name : String) :
    builder.AddsFrame (builder.addName id name) [] := by
  unfold ModuleBuilder.addName
  split
  · exact plain rfl rfl
  · exact .refl builder

theorem addOptionalSemantic (builder : ModuleBuilder) (id : ResultId)
    (semantic : Option String) :
    builder.AddsFrame (builder.addOptionalSemantic id semantic) [] := by
  cases semantic with
  | none => exact .refl builder
  | some text => exact plain rfl rfl

theorem withCell (builder : ModuleBuilder) (name : String) (typeId : ResultId)
    (storage : StorageClass) :
    builder.AddsFrame (builder.withCell name typeId storage) [] :=
  (plain rfl rfl).trans (addName _ _ _)

theorem withMember (builder : ModuleBuilder) (name : String) (semantic : Option String)
    (typeId : ResultId) :
    builder.AddsFrame (builder.withMember name semantic typeId) [] :=
  ((plain rfl rfl).trans (addOptionalSemantic _ _ _)).trans (addName _ _ _)

theorem storeOptional (builder : ModuleBuilder) (cell : ResultId) (value : Option ResultId) :
    builder.AddsFrame (builder.storeOptional cell value) [] := by
  cases value with
  | none => exact .refl builder
  | some id => exact plain rfl rfl

theorem withParameter (builder : ModuleBuilder) (name : String) (typeId : ResultId) :
    builder.AddsFrame (builder.withParameter name typeId)
      [.functionParameter builder.bound typeId] :=
  (part rfl rfl rfl).trans (addName _ _ _)

/-- The start of a function is an entry point, if it is one, and the function. -/
theorem startFunction (builder : ModuleBuilder) (name : String) (entryPoint : Option EntryPoint)
    (returned functionType : ResultId) :
    builder.AddsFrame (builder.startFunction name entryPoint returned functionType)
      (entryPointCode builder.bound name entryPoint ++
        [.function builder.bound returned .none functionType]) := by
  have starts : builder.AddsFrame
      (builder.withFunction name entryPoint returned functionType)
      (entryPointCode builder.bound name entryPoint ++
        [.function builder.bound returned .none functionType]) := by
    refine ⟨_, rfl, ?_, .of_forall ?_⟩
    · cases entryPoint <;> rfl
    · cases entryPoint <;> simp [entryPointCode, Instruction.uncontrolled, Instruction.opcode,
        Opcode.endsBlock]
  have named := starts.trans
    (addName (builder.withFunction name entryPoint returned functionType) builder.bound name)
  rw [List.append_nil] at named
  exact named

/-- A block is closed by its return and the end of its function. -/
theorem closed (builder : ModuleBuilder) (value : Option ResultId) :
    builder.AddsFrame ((builder.append (Emit.returnInstruction value)).append .functionEnd)
      [Emit.returnInstruction value, .functionEnd] := by
  refine ⟨_, List.append_assoc .., ?_, ReturnsClose.closed value⟩
  cases value <;> rfl

end AddsFrame

end ModuleBuilder

/-! ## Expressions and statements -/

section Runs

variable {annotations : Annotations} {functions : FunctionBuilder}

theorem Expression.Emits.addsFrame {expression : Expression} {id : ResultId}
    {before after : ModuleBuilder}
    (emits : expression.Emits annotations functions before id after) :
    before.AddsFrame after [] := by
  induction emits with
  | literal registers => exact .registerConstant registers
  | value bound => exact .refl _
  | load bound registers =>
      exact (ModuleBuilder.AddsFrame.register registers).trans (.plain rfl rfl)
  | binary leftEmits rightEmits typed selected registers leftHypothesis rightHypothesis =>
      exact ((leftHypothesis.trans rightHypothesis).trans (.register registers)).trans
        (.plain rfl rfl)

theorem Expression.EmitsOptional.addsFrame {value : Option Expression} {id : Option ResultId}
    {before after : ModuleBuilder}
    (emits : Expression.EmitsOptional annotations functions value before id after) :
    before.AddsFrame after [] := by
  cases emits with
  | none => exact .refl _
  | some emits => exact emits.addsFrame

/-- What statements write: code without frame parts, or such code and one return. -/
inductive Emitter.Writes (before after : Emitter) : Prop
  | running
      (frame : before.target.AddsFrame after.target [])
      (isRunning : after.functions.isTerminated = false)
  | returned {middle : ModuleBuilder} {value : Option ResultId}
      (frame : before.target.AddsFrame middle [])
      (code : after.target = middle.append (Emit.returnInstruction value))
      (isTerminated : after.functions.isTerminated = true)

theorem Emitter.Writes.behind {before middle after : Emitter}
    (writes : middle.Writes after)
    (frame : before.target.AddsFrame middle.target []) :
    before.Writes after := by
  cases writes with
  | running later isRunning => exact .running (frame.trans later) isRunning
  | returned later code isTerminated => exact .returned (frame.trans later) code isTerminated

theorem Statement.EmitsSimple.writes {statement : Statement} {before after : Emitter}
    (emits : statement.EmitsSimple annotations before after)
    (isRunning : before.functions.isTerminated = false) :
    before.Writes after := by
  cases emits with
  | declare typed valueEmits registers opened =>
      exact .running (((valueEmits.addsFrame.trans (.register registers)).trans
        (.withCell _ _ _ _)).trans (.storeOptional _ _ _)) isRunning
  | assign valueEmits bound =>
      exact .running (valueEmits.addsFrame.trans (.plain rfl rfl)) isRunning
  | evaluate valueEmits => exact .running valueEmits.addsFrame isRunning
  | exit valueEmits opened inBlock => exact .returned valueEmits.addsFrame rfl rfl

/-- However blocks are nested, statements write at most one return, and nothing behind it. -/
theorem Statement.EmitsAll.writes {body : List Statement} {before after : Emitter}
    (emits : Statement.EmitsAll annotations body before after)
    (isRunning : before.functions.isTerminated = false) :
    before.Writes after := by
  induction emits with
  | nil => exact .running (.refl _) isRunning
  | stop terminated =>
      rw [isRunning] at terminated
      cases terminated
  | simple running emits restEmits inductionHypothesis =>
      cases emits.writes isRunning with
      | running frame stillRunning => exact (inductionHypothesis stillRunning).behind frame
      | returned frame code isTerminated =>
          rw [restEmits.eq_of_terminated isTerminated]
          exact .returned frame code isTerminated
  | @block location body rest before inner after running bodyEmits restEmits bodyHypothesis
      restHypothesis =>
      cases bodyHypothesis isRunning with
      | running frame stillRunning =>
          have restWrites := restHypothesis stillRunning
          exact restWrites.behind frame
      | returned frame code isTerminated =>
          rw [restEmits.eq_of_terminated isTerminated]
          exact .returned frame code isTerminated

end Runs

/-! ## The function that is open -/

/-- The record that an open function leaves when it ends. -/
def OpenFunction.record (function : OpenFunction) : FunctionRecord :=
  ⟨function.name, function.id, function.entryPoint, .finalized⟩

/-- Two function builders have finished the same functions, and the same function is open; it may
have returned in between. -/
structure FunctionBuilder.SameFunction (before after : FunctionBuilder) : Prop where
  finished : after.finished = before.finished
  current : ∀ function, before.current = some function →
    ∃ terminated, after.current = some { function with terminated := terminated }

theorem FunctionBuilder.SameFunction.refl (functions : FunctionBuilder) :
    functions.SameFunction functions :=
  ⟨rfl, fun function opened => ⟨function.terminated, opened⟩⟩

theorem FunctionBuilder.SameFunction.trans {first second third : FunctionBuilder}
    (front : first.SameFunction second)
    (back : second.SameFunction third) :
    first.SameFunction third := by
  refine ⟨back.finished.trans front.finished, fun function opened => ?_⟩
  obtain ⟨earlier, middleOpened⟩ := front.current function opened
  obtain ⟨later, lastOpened⟩ := back.current _ middleOpened
  exact ⟨later, lastOpened⟩

section Functions

variable {annotations : Annotations} {before after : Emitter}

theorem Statement.EmitsSimple.sameFunction {statement : Statement}
    (emits : statement.EmitsSimple annotations before after) :
    before.functions.SameFunction after.functions := by
  cases emits with
  | declare typed valueEmits registers opened => 
      exact ⟨rfl, fun function current => ⟨function.terminated, current⟩⟩
  | assign valueEmits bound => exact .refl _
  | evaluate valueEmits => exact .refl _
  | exit valueEmits opened inBlock =>
      refine ⟨rfl, fun function current => ⟨true, ?_⟩⟩
      cases opened.symm.trans current
      rfl

theorem Statement.EmitsAll.sameFunction {body : List Statement}
    (emits : Statement.EmitsAll annotations body before after) :
    before.functions.SameFunction after.functions := by
  induction emits with
  | nil => exact .refl _
  | stop terminated => exact .refl _
  | simple running emits restEmits inductionHypothesis =>
      exact emits.sameFunction.trans inductionHypothesis
  | @block location body rest before inner after running bodyEmits restEmits bodyHypothesis
      restHypothesis =>
      have bodySame : before.functions.SameFunction inner.functions.dropScope :=
        ⟨bodyHypothesis.finished, bodyHypothesis.current⟩
      exact bodySame.trans restHypothesis

/-! ## Methods -/

/-- Parameters add one frame part each. -/
theorem Method.EmitsParameters.addsFrame {parameters : List Parameter}
    (emits : Method.EmitsParameters annotations parameters before after) :
    ∃ written, written.length = parameters.length ∧
      before.target.AddsFrame after.target (FunctionFrame.parameterCode written) := by
  induction emits with
  | nil => exact ⟨[], rfl, .refl _⟩
  | @cons parameter rest type typeId before after first typed registers restEmits
      inductionHypothesis =>
      obtain ⟨written, sameLength, frame⟩ := inductionHypothesis
      refine ⟨(first.bound, typeId) :: written, congrArg Nat.succ sameLength, ?_⟩
      exact ((ModuleBuilder.AddsFrame.register registers).trans (.withParameter _ _ _)).trans frame

/-- A block that statements have been written into is closed with one return. -/
theorem Emitter.Writes.closeBlock {function : OpenFunction}
    (writes : before.Writes after)
    (opened : after.functions.current = some function)
    (inBlock : function.state = .blockOpen) :
    ∃ value, before.target.AddsFrame ((after.target.closeBlock function).append .functionEnd)
      [Emit.returnInstruction value, .functionEnd] := by
  have sameFlag : after.functions.isTerminated = function.terminated := by
    unfold FunctionBuilder.isTerminated
    rw [opened]
    rfl
  unfold ModuleBuilder.closeBlock
  cases writes with
  | running frame isRunning =>
      rw [sameFlag] at isRunning
      rw [if_neg (by simp [inBlock, isRunning])]
      exact ⟨none, frame.trans (.closed _ none)⟩
  | @returned middle value frame code isTerminated =>
      rw [sameFlag] at isTerminated
      rw [if_pos (.inr isTerminated), code]
      exact ⟨value, frame.trans (.closed _ value)⟩

/-- The body of a method adds a block with one return, and nothing if there is no body. -/
theorem Method.addsFrame_of_emitsBody {body : Option (List Statement)}
    {started function : OpenFunction}
    (emits : Method.EmitsBody annotations body before after)
    (starts : before.functions.current = some started)
    (isDeclared : started.state = .declared)
    (isRunning : started.terminated = false)
    (opened : after.functions.current = some function) :
    after.functions.finished = before.functions.finished ∧
    function.record = started.record ∧
    ∃ block, block.isSome = body.isSome ∧
      before.target.AddsFrame ((after.target.closeBlock function).append .functionEnd)
        (FunctionFrame.blockCode block ++ [.functionEnd]) := by
  cases emits with
  | none =>
      cases starts.symm.trans opened
      refine ⟨rfl, rfl, none, rfl, ?_⟩
      unfold ModuleBuilder.closeBlock
      rw [if_pos (.inl (by rw [isDeclared]; decide))]
      exact .part rfl rfl rfl
  | @some statements opening _ _ isOpen statementsEmit =>
      cases starts.symm.trans isOpen
      have same := statementsEmit.sameFunction
      obtain ⟨terminated, current⟩ := same.current _ rfl
      cases current.symm.trans opened
      obtain ⟨value, frame⟩ := (statementsEmit.writes isRunning).closeBlock opened rfl
      refine ⟨same.finished, rfl, some (before.target.bound, value), rfl, ?_⟩
      exact (ModuleBuilder.AddsFrame.part rfl rfl rfl).trans frame

/-- What is emitted adds frames, and the records of their functions. -/
structure Emitter.AddsFrames (before after : Emitter) (frames : List FunctionFrame) : Prop where
  code : before.target.AddsFrame after.target (frames.flatMap FunctionFrame.code)
  finished : after.functions.finished =
    before.functions.finished ++ frames.map FunctionFrame.record

theorem Emitter.AddsFrames.refl (emitter : Emitter) : emitter.AddsFrames emitter [] :=
  ⟨.refl _, (List.append_nil _).symm⟩

theorem Emitter.AddsFrames.trans {middle : Emitter} {front back : List FunctionFrame}
    (first : before.AddsFrames middle front)
    (second : middle.AddsFrames after back) :
    before.AddsFrames after (front ++ back) := by
  constructor
  · rw [List.flatMap_append]
    exact first.code.trans second.code
  · rw [second.finished, first.finished, List.map_append, List.append_assoc]

theorem Emitter.AddsFrames.of_plain
    (frame : before.target.AddsFrame after.target [])
    (finished : after.functions.finished = before.functions.finished) :
    before.AddsFrames after [] :=
  ⟨frame, finished.trans (List.append_nil _).symm⟩

/-- A method adds its frame. -/
theorem Method.Emits.addsFrames {method : Method} {table : SymbolTable} {shader : Shader}
    (emits : method.Emits table.annotations before after)
    (typed : method.Typed shader table) :
    ∃ frame, method.FramedBy frame ∧ before.AddsFrames after [frame] := by
  cases emits with
  | @mk info returned parameters functionType returnedId first second function _ middle last
      checked annotated closed registersType registersReturned parametersEmit bodyEmits opened
      closable =>
      cases checked.symm.trans typed.info
      obtain ⟨written, sameLength, parametersFrame⟩ := parametersEmit.addsFrame
      obtain ⟨finished, sameRecord, block, sameBlock, blockFrame⟩ :=
        Method.addsFrame_of_emitsBody bodyEmits parametersEmit.current rfl rfl opened
      have typesFrame : before.target.AddsFrame second [] :=
        (ModuleBuilder.AddsFrame.register registersType).trans (.register registersReturned)
      have whole := ((typesFrame.trans (.startFunction second method.name
        (EntryPoint.ofMethodName? method.name) returnedId functionType)).trans
          parametersFrame).trans blockFrame
      refine ⟨method.frame second.bound returnedId functionType written block,
        method.framedBy_frame _ _ _ sameLength sameBlock, ?_, ?_⟩
      · rw [List.flatMap_singleton, Method.code_frame]
        exact whole
      · change last.functions.finished ++ [function.record] = _
        rw [finished, parametersEmit.finished, sameRecord]
        rfl

/-! ## Shaders -/

theorem Generic.addsFrames_of_emit {generic : Generic}
    (run : (generic.emit annotations).run before = .ok () after) :
    before.AddsFrames after [] := by
  obtain ⟨type, -, rfl⟩ := Generic.emit_eq_ok run
  exact .of_plain (.refl _) rfl

theorem Struct.addsFrames_of_emit {struct : Struct}
    (run : (struct.emit annotations).run before = .ok () after) :
    before.AddsFrames after [] := by
  obtain ⟨type, typeId, target, -, registers, rfl⟩ := Struct.emit_eq_ok run
  exact .of_plain (.register registers) rfl

theorem Member.addsFrames_of_emit {member : Member}
    (run : (member.emit annotations).run before = .ok () after) :
    before.AddsFrames after [] := by
  obtain ⟨type, typeId, valueId, first, second, -, registers, valueEmits, rfl⟩ :=
    Member.emit_eq_ok run
  exact .of_plain ((((ModuleBuilder.AddsFrame.register registers).trans (.withMember _ _ _ _)).trans
    valueEmits.addsFrame).trans (.storeOptional _ _ _)) rfl

theorem Sampler.addsFrames_of_emit {sampler : Sampler}
    (run : (sampler.emit annotations).run before = .ok () after) :
    before.AddsFrames after [] := by
  obtain ⟨type, typeId, first, -, registers, rfl⟩ := Sampler.emit_eq_ok run
  exact .of_plain ((ModuleBuilder.AddsFrame.register registers).trans (.withCell _ _ _ _)) rfl

/-- Items that add no frames add none together. -/
theorem Emitter.AddsFrames.forM {α : Type} {step : α → Emit PUnit} {items : List α}
    (run : (items.forM step).run before = .ok () after)
    (each : ∀ item start stop, (step item).run start = .ok () stop → start.AddsFrames stop []) :
    before.AddsFrames after [] :=
  Run.forM_invariant (fun _ emitter => before.AddsFrames emitter []) run (.refl before)
    fun _ item _ _ state state' earlier emits => earlier.trans (each item state state' emits)

/-- The methods of a shader add one frame each, in order. -/
theorem Shader.addsFrames_of_emit {shader : Shader} {table : SymbolTable}
    (run : (shader.emit table.annotations).run before = .ok () after)
    (typed : shader.Typed table) :
    ∃ frames, List.Forall₂ Method.FramedBy shader.methods frames ∧
      before.AddsFrames after frames := by
  obtain ⟨first, second, third, fourth, generics, structs, members, samplers, methods⟩ :=
    Shader.emit_eq_ok run
  have front : before.AddsFrames fourth [] :=
    (((Emitter.AddsFrames.forM generics fun _ _ _ => Generic.addsFrames_of_emit).trans
      (.forM structs fun _ _ _ => Struct.addsFrames_of_emit)).trans
      (.forM members fun _ _ _ => Member.addsFrames_of_emit)).trans
      (.forM samplers fun _ _ _ => Sampler.addsFrames_of_emit)
  refine Run.forM_invariant (fun done emitter => ∃ frames,
    List.Forall₂ Method.FramedBy done frames ∧ before.AddsFrames emitter frames) methods
    ⟨[], .nil, front⟩ ?_
  rintro done method rest split state state' ⟨frames, framed, adds⟩ emits
  have inShader : method ∈ shader.methods := by
    rw [split]
    exact List.mem_append_right _ List.mem_cons_self
  obtain ⟨frame, methodFramed, methodAdds⟩ :=
    (Method.emits_of_emit emits).addsFrames (typed.methods method inShader)
  exact ⟨frames ++ [frame], List.rel_append framed (.cons methodFramed .nil), adds.trans methodAdds⟩

end Functions

/-! ## Entry points -/

/-- The stages, by the names of their methods, with the models that they are executed in. -/
def stageModels : List (String × ExecutionModel) :=
  [("VSMain", .vertex), ("PSMain", .fragment), ("CSMain", .compute), ("GSMain", .geometry),
    ("DSMain", .tessellationEvaluation), ("HSMain", .tessellationControl)]

/-- The stage that a method is named after, with its model. -/
def Method.stageModel? (method : Method) : Option (String × ExecutionModel) :=
  stageModels.find? fun stage => stage.1 = method.name

/-- The name and the model of an entry point. -/
def Instruction.entryPoint? : Instruction → Option (String × ExecutionModel)
  | entryPoint model _ text => some (text, model)
  | _ => none

theorem Instruction.isFramePart_of_entryPoint? {instruction : Instruction}
    {stage : String × ExecutionModel}
    (starts : instruction.entryPoint? = some stage) :
    instruction.isFramePart = true := by
  cases instruction <;> first | rfl | cases starts

theorem Instruction.filterMap_entryPoint?_filter (code : List Instruction) :
    (code.filter isFramePart).filterMap entryPoint? = code.filterMap entryPoint? := by
  rw [List.filterMap_filter]
  refine List.filterMap_congr fun instruction _ => ?_
  cases starts : instruction.entryPoint? with
  | none => split <;> rfl
  | some stage => rw [if_pos (isFramePart_of_entryPoint? starts)]

theorem EntryPoint.find?_stageModels (stage : EntryPoint) :
    stageModels.find? (fun other => other.1 = stage.methodName) =
      some (stage.methodName, stage.executionModel) := by
  cases stage <;> decide

theorem EntryPoint.exists_of_mem_stageModels {entry : String × ExecutionModel}
    (member : entry ∈ stageModels) :
    ∃ stage : EntryPoint, stage.methodName = entry.1 := by
  simp only [stageModels, List.mem_cons, List.not_mem_nil, or_false] at member
  rcases member with rfl | rfl | rfl | rfl | rfl | rfl
  · exact ⟨.vertex, rfl⟩
  · exact ⟨.pixel, rfl⟩
  · exact ⟨.compute, rfl⟩
  · exact ⟨.geometry, rfl⟩
  · exact ⟨.domain, rfl⟩
  · exact ⟨.hull, rfl⟩

theorem FunctionFrame.entryPoints_behind_start (frame : FunctionFrame) :
    (Instruction.function frame.record.id frame.returned .none frame.functionType ::
      (parameterCode frame.parameters ++ (blockCode frame.block ++ [.functionEnd]))).filterMap
        Instruction.entryPoint? = [] := by
  have parameters : (parameterCode frame.parameters).filterMap Instruction.entryPoint? = [] := by
    simp [parameterCode, Instruction.entryPoint?]
  have block : (blockCode frame.block).filterMap Instruction.entryPoint? = [] := by
    rcases frame.block with _ | ⟨label, _ | value⟩ <;> rfl
  rw [List.filterMap_cons_none rfl, List.filterMap_append, List.filterMap_append, parameters, block]
  rfl

/-- A frame has one entry point if its method is named after a stage, and none otherwise. -/
theorem Method.FramedBy.entryPoints {method : Method} {frame : FunctionFrame}
    (framed : method.FramedBy frame) :
    frame.code.filterMap Instruction.entryPoint? = method.stageModel?.toList := by
  unfold Method.stageModel? FunctionFrame.code
  rw [List.filterMap_append, frame.entryPoints_behind_start, List.append_nil]
  cases named : frame.record.entryPoint with
  | none =>
      have noStage : stageModels.find? (fun stage => stage.1 = method.name) = none := by
        rw [List.find?_eq_none]
        intro entry member same
        obtain ⟨stage, isStage⟩ := EntryPoint.exists_of_mem_stageModels member
        have starts := (framed.stage stage).mpr (isStage.trans (of_decide_eq_true same))
        rw [named] at starts
        cases starts
      rw [noStage]
      rfl
  | some stage =>
      have isStage := (framed.stage stage).mp named
      rw [← isStage, stage.find?_stageModels, framed.name, ← isStage]
      rfl

theorem Method.entryPoints_of_framedBy {methods : List Method} {frames : List FunctionFrame}
    (framed : List.Forall₂ Method.FramedBy methods frames) :
    (frames.flatMap FunctionFrame.code).filterMap Instruction.entryPoint? =
      methods.filterMap Method.stageModel? := by
  induction framed with
  | nil => rfl
  | @cons method frame methods frames first _ inductionHypothesis =>
      rw [List.flatMap_cons, List.filterMap_append, first.entryPoints, inductionHypothesis,
        List.filterMap_cons]
      cases method.stageModel? <;> rfl

/-! ## Compiled modules -/

/-- A compiled module has one frame for each method, in the order of the methods, and gives the
record of each frame.  An entry point stands right in front of its function, and a return right in
front of the end of its function.  The entry points are those of the methods that are named after a
stage, in the order of the methods, each with the model of its stage. -/
theorem Shader.compile_laysOutFunctions {shader : Shader} {options : CompileOptions}
    {compiled : CompiledShader}
    (distinct : shader.nodes.Nodup)
    (compiles : shader.compile options = .ok compiled) :
    (∃ frames, List.Forall₂ Method.FramedBy shader.methods frames ∧
      compiled.shaderModule.instructions.filter Instruction.isFramePart =
        frames.flatMap FunctionFrame.code ∧
      compiled.functions = frames.map FunctionFrame.record) ∧
    EntryPointsLead compiled.shaderModule.instructions ∧
    ReturnsClose compiled.shaderModule.instructions ∧
    compiled.shaderModule.instructions.filterMap Instruction.entryPoint? =
      shader.methods.filterMap Method.stageModel? := by
  obtain ⟨clean, emitter, emits, rfl⟩ := Shader.compile_eq_ok compiles
  have settled := Shader.settled_of_emit emits (Emitter.settled_initial options)
  obtain ⟨frames, framed, adds⟩ :=
    Shader.addsFrames_of_emit emits (Shader.typed_of_clean distinct clean)
  obtain ⟨new, code, parts, closes⟩ := adds.code
  have whole : emitter.target.code = new := code
  rw [← whole] at parts closes
  refine ⟨⟨frames, framed, parts, adds.finished⟩, settled.lead, closes, ?_⟩
  change emitter.target.code.filterMap _ = _
  rw [← Instruction.filterMap_entryPoint?_filter, parts, Method.entryPoints_of_framedBy framed]

theorem Shader.scaling_laysOutFunctions :
    ∃ compiled, Shader.scaling.compile .allNames = .ok compiled ∧
      (∃ frames, List.Forall₂ Method.FramedBy Shader.scaling.methods frames ∧
        compiled.shaderModule.instructions.filter Instruction.isFramePart =
          frames.flatMap FunctionFrame.code ∧
        compiled.functions = frames.map FunctionFrame.record) ∧
      EntryPointsLead compiled.shaderModule.instructions ∧
      ReturnsClose compiled.shaderModule.instructions ∧
      compiled.shaderModule.instructions.filterMap Instruction.entryPoint? =
        [("PSMain", .fragment)] := by
  obtain ⟨compiled, compiles⟩ := Shader.scaling_compiles
  exact ⟨compiled, compiles, Shader.compile_laysOutFunctions (by decide) compiles⟩

end ShaderLang
