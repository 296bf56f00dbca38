import Mathlib.Data.List.Induction
import ShaderLang.Proofs.EmissionGrowth
import ShaderLang.Proofs.FailedRegistration

/-!
# The order of functions

The instructions that hold functions together come in groups: the start of a function, its
parameters, at most one block with its returns, and the end of the function.  A function builder
follows this order as long as the functions that it has started are ended.  A function whose block
cannot be closed is given up without an end, and then the order is lost with the next function that
is started, and only then.
-/

namespace ShaderLang

/-! ## Groups of opcodes -/

/-- Whether an opcode is one of those that hold functions together. -/
def Opcode.isFunctionPart : Opcode → Bool
  | function | functionParameter | label | returnNothing | returnValue | functionEnd => true
  | _ => false

/-- The opcodes of a code that hold functions together. -/
def Instruction.functionParts (code : List Instruction) : List Opcode :=
  (code.map opcode).filter Opcode.isFunctionPart

/-- The opcodes of the block of a function, if it has one. -/
inductive BlockGroup : List Opcode → Prop
  | absent : BlockGroup []
  | present {returns : List Opcode}
      (ends : ∀ opcode ∈ returns, opcode.endsBlock = true) : BlockGroup (.label :: returns)

/-- The opcodes of one function. -/
def IsFunctionGroup (opcodes : List Opcode) : Prop :=
  ∃ count block, BlockGroup block ∧
    opcodes = .function :: (List.replicate count .functionParameter ++ block ++ [.functionEnd])

/-- The opcodes of functions one behind the other, of which the last may be unfinished. -/
def InFunctionOrder (opcodes : List Opcode) : Prop :=
  ∃ groups : List (List Opcode), (∀ group ∈ groups, IsFunctionGroup group) ∧
    opcodes <+: groups.flatten

/-! ## Phases -/

/-- Where a sequence of opcodes stands. -/
inductive FunctionPhase where
  | outside
  | header
  | body
  deriving DecidableEq

namespace FunctionPhase

/-- The phase behind one more opcode, if the opcode may stand in a phase. -/
def next? : FunctionPhase → Opcode → Option FunctionPhase
  | outside, .function => some header
  | header, .functionParameter => some header
  | header, .label => some body
  | body, .returnNothing | body, .returnValue => some body
  | header, .functionEnd | body, .functionEnd => some outside
  | _, _ => none

/-- The phase behind opcodes. -/
def after? (phase : FunctionPhase) (opcodes : List Opcode) : Option FunctionPhase :=
  opcodes.foldlM next? phase

theorem after?_append (phase : FunctionPhase) (front back : List Opcode) :
    phase.after? (front ++ back) = (phase.after? front).bind fun middle => middle.after? back :=
  List.foldlM_append

theorem after?_singleton (phase : FunctionPhase) (opcode : Opcode) :
    phase.after? [opcode] = phase.next? opcode := by
  unfold after?
  rw [List.foldlM_cons]
  cases phase.next? opcode <;> rfl

theorem after?_parameters (count : Nat) :
    header.after? (List.replicate count .functionParameter) = some header := by
  induction count with
  | zero => rfl
  | succ count inductionHypothesis => exact inductionHypothesis

theorem after?_returns {returns : List Opcode}
    (ends : ∀ opcode ∈ returns, opcode.endsBlock = true) :
    body.after? returns = some body := by
  induction returns with
  | nil => rfl
  | cons opcode rest inductionHypothesis =>
      obtain ⟨endsBlock, restEnd⟩ := List.forall_mem_cons.mp ends
      have stays : body.next? opcode = some body := by
        cases opcode <;> first | rfl | cases endsBlock
      unfold after?
      rw [List.foldlM_cons, stays]
      exact inductionHypothesis restEnd

theorem after?_group {group : List Opcode} (isGroup : IsFunctionGroup group) :
    outside.after? group = some outside := by
  obtain ⟨count, block, isBlock, rfl⟩ := isGroup
  have started : outside.after? [.function] = some header := rfl
  rw [← List.singleton_append, after?_append, started, Option.bind_some, List.append_assoc,
    after?_append, after?_parameters, Option.bind_some, after?_append]
  cases isBlock with
  | absent => rfl
  | present ends =>
      have opened : header.after? [.label] = some body := rfl
      rw [← List.singleton_append, after?_append, opened, Option.bind_some, after?_returns ends]
      rfl

theorem after?_groups {groups : List (List Opcode)}
    (areGroups : ∀ group ∈ groups, IsFunctionGroup group) :
    outside.after? groups.flatten = some outside := by
  induction groups with
  | nil => rfl
  | cons group rest inductionHypothesis =>
      obtain ⟨isGroup, restGroups⟩ := List.forall_mem_cons.mp areGroups
      rw [List.flatten_cons, after?_append, after?_group isGroup, Option.bind_some]
      exact inductionHypothesis restGroups

/-- The opcodes of an unfinished function in each phase. -/
inductive Unfinished : FunctionPhase → List Opcode → Prop
  | outside : Unfinished outside []
  | header (count : Nat) :
      Unfinished header (.function :: List.replicate count .functionParameter)
  | body (count : Nat) {returns : List Opcode}
      (ends : ∀ opcode ∈ returns, opcode.endsBlock = true) :
      Unfinished body (.function :: (List.replicate count .functionParameter ++ .label :: returns))

/-- One more opcode goes on with an unfinished function or finishes it. -/
theorem Unfinished.next {phase phase' : FunctionPhase} {opcodes : List Opcode} {opcode : Opcode}
    (unfinished : Unfinished phase opcodes)
    (moves : phase.next? opcode = some phase') :
    Unfinished phase' (opcodes ++ [opcode]) ∨
      phase' = FunctionPhase.outside ∧ IsFunctionGroup (opcodes ++ [opcode]) := by
  cases unfinished with
  | outside =>
      cases opcode <;> cases moves
      exact .inl (.header 0)
  | header count =>
      cases opcode <;> cases moves
      · refine .inl ?_
        rw [List.cons_append, ← List.replicate_succ']
        exact .header (count + 1)
      · exact .inl (.body count (List.forall_mem_nil _))
      · refine .inr ⟨rfl, count, [], .absent, ?_⟩
        rw [List.append_nil]
        rfl
  | @body count returns ends =>
      have extended : ∀ last : Opcode, last.endsBlock = true →
          Unfinished FunctionPhase.body (.function ::
            (List.replicate count .functionParameter ++ .label :: returns) ++ [last]) := by
        intro last isReturn
        rw [List.cons_append, List.append_assoc, List.cons_append]
        apply Unfinished.body count
        intro opcode member
        rcases List.mem_append.mp member with older | newest
        · exact ends opcode older
        · rw [List.mem_singleton.mp newest]
          exact isReturn
      cases opcode <;> cases moves
      · exact .inl (extended .returnNothing rfl)
      · exact .inl (extended .returnValue rfl)
      · exact .inr ⟨rfl, count, .label :: returns, .present ends, rfl⟩

/-- Every unfinished function can be finished. -/
theorem Unfinished.isPrefix {phase : FunctionPhase} {opcodes : List Opcode}
    (unfinished : Unfinished phase opcodes) :
    ∃ groups : List (List Opcode), (∀ group ∈ groups, IsFunctionGroup group) ∧
      opcodes <+: groups.flatten := by
  cases unfinished with
  | outside => exact ⟨[], List.forall_mem_nil _, List.prefix_refl _⟩
  | header count =>
      refine ⟨[_], List.forall_mem_singleton.mpr ⟨count, [], .absent, rfl⟩, [.functionEnd], ?_⟩
      simp
  | body count ends =>
      refine ⟨[_], List.forall_mem_singleton.mpr ⟨count, _, .present ends, rfl⟩,
        [.functionEnd], ?_⟩
      simp

theorem exists_unfinished {opcodes : List Opcode} {phase : FunctionPhase}
    (reached : outside.after? opcodes = some phase) :
    ∃ (groups : List (List Opcode)) (rest : List Opcode),
      (∀ group ∈ groups, IsFunctionGroup group) ∧ opcodes = groups.flatten ++ rest ∧
        Unfinished phase rest := by
  induction opcodes using List.reverseRecOn generalizing phase with
  | nil =>
      cases reached
      exact ⟨[], [], List.forall_mem_nil _, rfl, .outside⟩
  | append_singleton front last inductionHypothesis =>
      rw [after?_append] at reached
      obtain ⟨earlier, earlierReached, moves⟩ := Option.bind_eq_some_iff.mp reached
      rw [after?_singleton] at moves
      obtain ⟨groups, rest, areGroups, rfl, unfinished⟩ := inductionHypothesis earlierReached
      rcases unfinished.next moves with goesOn | ⟨rfl, isGroup⟩
      · exact ⟨groups, rest ++ [last], areGroups, List.append_assoc .., goesOn⟩
      · refine ⟨groups ++ [rest ++ [last]], [], ?_, ?_, .outside⟩
        · intro group member
          rcases List.mem_append.mp member with older | newest
          · exact areGroups group older
          · rw [List.mem_singleton.mp newest]
            exact isGroup
        · simp

end FunctionPhase

/-- Opcodes are in order exactly when each of them may stand in the phase in front of it. -/
theorem inFunctionOrder_iff_after? {opcodes : List Opcode} :
    InFunctionOrder opcodes ↔ ∃ phase, FunctionPhase.outside.after? opcodes = some phase := by
  constructor
  · rintro ⟨groups, areGroups, rest, split⟩
    have whole := FunctionPhase.after?_groups areGroups
    rw [← split, FunctionPhase.after?_append] at whole
    obtain ⟨phase, reached, -⟩ := Option.bind_eq_some_iff.mp whole
    exact ⟨phase, reached⟩
  · rintro ⟨phase, reached⟩
    obtain ⟨groups, rest, areGroups, rfl, unfinished⟩ := FunctionPhase.exists_unfinished reached
    obtain ⟨more, moreGroups, starts⟩ := unfinished.isPrefix
    refine ⟨groups ++ more, ?_, ?_⟩
    · intro group member
      rcases List.mem_append.mp member with older | newer
      · exact areGroups group older
      · exact moreGroups group newer
    · rw [List.flatten_append]
      exact (List.prefix_append_right_inj _).mpr starts

/-! ## Calls of a function builder -/

/-- What a caller can ask of a function builder. -/
inductive FunctionCall where
  | createFunction (name : String) (signature : Signature) (entryPoint : Option EntryPoint)
  | addParameter (name : String) (type : ShaderType)
  | createBlock
  | emitReturn (value : Option ResultId)
  | endFunction

namespace FunctionCall

/-- The emitter after a call, whether the call succeeds or fails. -/
def perform : FunctionCall → Emitter → Emitter
  | createFunction name signature entryPoint =>
      Run.final (Emit.createFunction name signature entryPoint)
  | addParameter name type => Run.final (Emit.addParameter name type)
  | createBlock => Run.final Emit.createBlock
  | emitReturn value => Run.final (Emit.emitReturn value)
  | endFunction => Run.final Emit.endFunction

/-- The emitter after calls in order. -/
def performAll (calls : List FunctionCall) (emitter : Emitter) : Emitter :=
  calls.foldl (fun current call => call.perform current) emitter

/-- Whether a call starts a function. -/
def Starts (emitter : Emitter) : FunctionCall → Prop
  | createFunction name signature entryPoint =>
      ∃ id after, (Emit.createFunction name signature entryPoint).run emitter = .ok id after
  | _ => False

/-- Whether a call gives up the open function because its block lacks a return. -/
def Abandons (emitter : Emitter) : FunctionCall → Prop
  | endFunction =>
      ∃ name location after,
        Emit.endFunction.run emitter = .error (.missingReturn name location) after
  | _ => False

end FunctionCall

/-- The phase that the open function is in. -/
def FunctionBuilder.phase (functions : FunctionBuilder) : FunctionPhase :=
  match functions.current with
  | none => .outside
  | some function => if function.state = .blockOpen then .body else .header

/-- The opcodes that an emitter has emitted to hold functions together. -/
def Emitter.functionParts (emitter : Emitter) : List Opcode :=
  Instruction.functionParts emitter.target.code

/-! ## What one call does -/

theorem Instruction.functionParts_append (front back : List Instruction) :
    functionParts (front ++ back) = functionParts front ++ functionParts back := by
  unfold functionParts
  rw [List.map_append, List.filter_append]

theorem Instruction.functionParts_eq_nil {code : List Instruction}
    (declares : ∀ instruction ∈ code, instruction.isDeclaration = true) :
    functionParts code = [] := by
  unfold functionParts
  rw [List.filter_eq_nil_iff]
  intro opcode member
  obtain ⟨instruction, isInstruction, rfl⟩ := List.mem_map.mp member
  have declaration := declares instruction isInstruction
  have notPart : instruction.opcode.isFunctionPart = false := by
    cases instruction <;> first | rfl | cases declaration
  exact Bool.eq_false_iff.mp notPart

namespace ModuleBuilder

open Instruction

theorem Reaches.functionParts {limit : Nat} {before after : ModuleBuilder}
    (reaches : Reaches limit before after) :
    functionParts after.code = functionParts before.code := by
  obtain ⟨new, code, declares⟩ := reaches.appends
  rw [code, functionParts_append, functionParts_eq_nil declares, List.append_nil]

theorem functionParts_addName (builder : ModuleBuilder) (id : ResultId) (name : String) :
    functionParts (builder.addName id name).code = functionParts builder.code := by
  unfold addName
  split
  · exact (functionParts_append _ _).trans (List.append_nil _)
  · rfl

theorem functionParts_startFunction (builder : ModuleBuilder) (name : String)
    (entryPoint : Option EntryPoint) (returned functionType : ResultId) :
    functionParts (builder.startFunction name entryPoint returned functionType).code =
      functionParts builder.code ++ [.function] := by
  unfold startFunction
  rw [functionParts_addName]
  refine (functionParts_append _ _).trans ?_
  cases entryPoint <;> rfl

theorem functionParts_closeBlock (builder : ModuleBuilder) (function : OpenFunction) :
    functionParts (builder.closeBlock function).code =
      functionParts builder.code ++
        if function.state ≠ .blockOpen ∨ function.terminated then [] else [.returnNothing] := by
  unfold closeBlock
  split
  · rw [List.append_nil]
  · exact functionParts_append _ _

end ModuleBuilder

namespace FunctionCall

/-- What a call can do: it starts a function, it goes on with the open function or ends it, it
changes nothing, or it gives the open function up. -/
inductive Effect (call : FunctionCall) (before after : Emitter) : Prop
  | opens
      (starts : call.Starts before)
      (keeps : ¬ call.Abandons before)
      (inHeader : after.functions.phase = .header)
      (parts : after.functionParts = before.functionParts ++ [.function])
      (closed : before.functions.phase = .outside)
  | proceeds {new : List Opcode}
      (startsNone : ¬ call.Starts before)
      (keeps : ¬ call.Abandons before)
      (moves : before.functions.phase.after? new = some after.functions.phase)
      (parts : after.functionParts = before.functionParts ++ new)
      (opened : before.functions.phase ≠ .outside)
  | quiet
      (startsNone : ¬ call.Starts before)
      (keeps : ¬ call.Abandons before)
      (phase : after.functions.phase = before.functions.phase)
      (parts : after.functionParts = before.functionParts)
  | abandons
      (startsNone : ¬ call.Starts before)
      (abandons : call.Abandons before)
      (inBody : before.functions.phase = .body)
      (closed : after.functions.phase = .outside)
      (parts : after.functionParts = before.functionParts)

/-- A call has one of the effects, and the ids that were handed out stay so. -/
def Behaves (call : FunctionCall) (before after : Emitter) : Prop :=
  before.target.bound ≤ after.target.bound ∧ call.Effect before after

variable {before : Emitter}

theorem behaves_of_refused {call : FunctionCall}
    (startsNone : ¬ call.Starts before)
    (keeps : ¬ call.Abandons before) :
    call.Behaves before before :=
  ⟨Nat.le_refl _, .quiet startsNone keeps rfl rfl⟩

/-- A call that fails at a type may have declared other types before. -/
theorem behaves_of_declarations {call : FunctionCall} {limit : Nat} {target : ModuleBuilder}
    (startsNone : ¬ call.Starts before)
    (keeps : ¬ call.Abandons before)
    (reaches : ModuleBuilder.Reaches limit before.target target) :
    call.Behaves before ⟨target, before.functions⟩ :=
  ⟨reaches.grows.bound, .quiet startsNone keeps rfl reaches.functionParts⟩

/-- The start of a function fails only at its types, and is emitted behind them otherwise. -/
theorem startFunction_cases {builder : ModuleBuilder} (name : String) (signature : Signature)
    (entryPoint : Option EntryPoint)
    (positive : 0 < builder.bound) :
    (∃ fault target limit,
      (Emit.startFunction name signature entryPoint).run builder = .error fault target ∧
        ModuleBuilder.Reaches limit builder target) ∨
    ∃ returned functionType second limit, ModuleBuilder.Reaches limit builder second ∧
      (Emit.startFunction name signature entryPoint).run builder =
        .ok second.bound (second.startFunction name entryPoint returned functionType) := by
  cases typeRun : (Build.register signature.type).run builder with
  | error fault target =>
      exact .inl ⟨fault, target, _, Run.bind_eq_error.mpr (.inl typeRun),
        Build.register_fails _ typeRun⟩
  | ok functionType first =>
      have typeReaches := (Build.register_reaches _ typeRun).1
      cases returnedRun : (Build.register signature.returned).run first with
      | error fault target =>
          have fails : (Emit.startFunction name signature entryPoint).run builder =
              .error fault target :=
            (Run.bind_of_ok typeRun).trans (Run.bind_eq_error.mpr (.inl returnedRun))
          exact .inl ⟨fault, target, _, fails,
            typeReaches.append (Build.register_fails _ returnedRun)⟩
      | ok returned second =>
          have reaches := typeReaches.append (Build.register_reaches _ returnedRun).1
          exact .inr ⟨returned, functionType, second, _, reaches,
            Emit.run_startFunction name entryPoint typeRun returnedRun
              (Nat.lt_of_lt_of_le positive reaches.grows.bound)⟩

theorem behaves_createFunction (name : String) (signature : Signature)
    (entryPoint : Option EntryPoint)
    (positive : 0 < before.target.bound) :
    Behaves (createFunction name signature entryPoint) before
      (Run.final (Emit.createFunction name signature entryPoint) before) := by
  have refused : ∀ {fault after},
      (Emit.createFunction name signature entryPoint).run before = .error fault after →
        ¬ Starts before (createFunction name signature entryPoint) := by
    rintro fault after fails ⟨id, started, starts⟩
    rw [fails] at starts
    cases starts
  cases current : before.functions.current with
  | some function =>
      have fails : (Emit.createFunction name signature entryPoint).run before =
          .error (.emission (.functionStillOpen name function.name)) before := by
        unfold Emit.createFunction
        rw [Run.run_get_bind, current]
        rfl
      rw [Run.final_of_error fails]
      exact behaves_of_refused (refused fails) not_false
  | none =>
      rcases startFunction_cases name signature entryPoint positive with
        ⟨fault, target, limit, startFails, reaches⟩ |
        ⟨returned, functionType, second, limit, reaches, startOk⟩
      · have fails : (Emit.createFunction name signature entryPoint).run before =
            .error fault ⟨target, before.functions⟩ := by
          unfold Emit.createFunction
          rw [Run.run_get_bind, current]
          exact Run.bind_eq_error.mpr (.inl (Emit.run_inModule_of_error startFails))
        rw [Run.final_of_error fails]
        exact behaves_of_declarations (refused fails) not_false reaches
      · have runs := Emit.run_createFunction current startOk
        rw [Run.final_of_ok runs]
        refine ⟨?_, .opens ⟨_, _, runs⟩ not_false rfl ?_ ?_⟩
        · exact (reaches.grows.trans (second.grows_startFunction name entryPoint returned
            functionType)).bound
        · unfold Emitter.functionParts
          rw [ModuleBuilder.functionParts_startFunction, reaches.functionParts]
        · unfold FunctionBuilder.phase
          rw [current]

/-- A step that needs a state of the open function fails without it, and finds it otherwise. -/
theorem requireState_cases (state : MethodState) (step : BuildStep) (emitter : Emitter) :
    (∃ fault, (Emit.requireState state step).run emitter = .error fault emitter) ∨
      ∃ function, emitter.functions.current = some function ∧ function.state = state ∧
        (Emit.requireState state step).run emitter = .ok function emitter := by
  cases outcome : (Emit.requireState state step).run emitter with
  | ok function after =>
      obtain ⟨current, inState, rfl⟩ := Emit.requireState_eq_ok outcome
      exact .inr ⟨function, current, inState, rfl⟩
  | error fault after =>
      unfold Emit.requireState at outcome
      rw [Run.run_get_bind] at outcome
      split at outcome
      · obtain ⟨-, rfl⟩ := Run.throw_eq_error.mp outcome
        exact .inl ⟨_, rfl⟩
      · split at outcome
        · cases outcome
        · obtain ⟨-, rfl⟩ := Run.throw_eq_error.mp outcome
          exact .inl ⟨_, rfl⟩

theorem phase_of_declared {functions : FunctionBuilder} {function : OpenFunction}
    (current : functions.current = some function)
    (declared : function.state = .declared) :
    functions.phase = .header := by
  unfold FunctionBuilder.phase
  rw [current]
  simp [declared]

theorem phase_of_blockOpen {functions : FunctionBuilder} {function : OpenFunction}
    (current : functions.current = some function)
    (blockOpen : function.state = .blockOpen) :
    functions.phase = .body := by
  unfold FunctionBuilder.phase
  rw [current]
  simp [blockOpen]

/-- The binding of a local name leaves the module and the open function alone, also if no scope is
open. -/
theorem exists_final_bindLocal (name : String) (binding : Binding) (id : ResultId)
    (emitter : Emitter) :
    ∃ functions, functions.current = emitter.functions.current ∧
      Run.final (Emit.bindLocal name binding >>= fun _ => pure id) emitter =
        ⟨emitter.target, functions⟩ := by
  by_cases opened : emitter.functions.scopes = []
  · have fails : (Emit.bindLocal name binding).run emitter = .error .noActiveScope emitter := by
      unfold Emit.bindLocal
      rw [Run.run_get_bind, opened]
      rfl
    exact ⟨emitter.functions, rfl, Run.final_bind_of_error fails⟩
  · exact ⟨emitter.functions.bindLocal name binding, rfl,
      Run.final_bind_of_ok (Emit.run_bindLocal opened name binding)⟩

theorem behaves_addParameter (name : String) (type : ShaderType)
    (positive : 0 < before.target.bound) :
    Behaves (addParameter name type) before (Run.final (Emit.addParameter name type) before) := by
  unfold Emit.addParameter
  rcases requireState_cases .declared .addParameter before with
    ⟨fault, fails⟩ | ⟨function, current, declared, checks⟩
  · rw [Run.final_bind_of_error fails]
    exact behaves_of_refused not_false not_false
  · rw [Run.final_bind_of_ok checks]
    cases registers : (Build.register type).run before.target with
    | error fault target =>
        have fails : (Emit.emitParameter name type).run before.target = .error fault target :=
          Run.bind_eq_error.mpr (.inl registers)
        rw [Run.final_bind_of_error (Emit.run_inModule_of_error fails)]
        exact behaves_of_declarations not_false not_false (Build.register_fails _ registers)
    | ok typeId first =>
        have reaches := (Build.register_reaches _ registers).1
        have allocated := ModuleBuilder.isAllocated_defined
          (Nat.lt_of_lt_of_le positive reaches.grows.bound)
          (fun result => .functionParameter result typeId)
        have emits : (Emit.emitParameter name type).run before.target =
            .ok first.bound (first.withParameter name typeId) := by
          unfold Emit.emitParameter
          rw [Run.bind_of_ok registers, Run.bind_of_ok (Build.run_define _ _),
            Run.bind_of_ok (Build.run_addName allocated name)]
          rfl
        -- The parameter is emitted before its name is bound.
        rw [Run.final_bind_of_ok (Emit.run_inModule_of_ok emits)]
        obtain ⟨functions, same, bound⟩ := exists_final_bindLocal name (.value first.bound type)
          first.bound ⟨first.withParameter name typeId, before.functions⟩
        rw [bound]
        have grows : before.target.Grows (first.withParameter name typeId) :=
          reaches.grows.trans ((ModuleBuilder.Grows.defined _ _).trans (.addName _ _ _))
        have parts : Instruction.functionParts (first.withParameter name typeId).code =
            before.functionParts ++ [.functionParameter] := by
          unfold Emitter.functionParts ModuleBuilder.withParameter
          rw [ModuleBuilder.functionParts_addName, ← reaches.functionParts]
          exact Instruction.functionParts_append _ _
        have inHeader := phase_of_declared current declared
        have stays : functions.phase = .header := phase_of_declared (same.trans current) declared
        refine ⟨grows.bound, .proceeds not_false not_false ?_ parts (by rw [inHeader]; decide)⟩
        rw [inHeader, stays]
        rfl

theorem behaves_createBlock : Behaves createBlock before (Run.final Emit.createBlock before) := by
  unfold Emit.createBlock
  rcases requireState_cases .declared .openBlock before with
    ⟨fault, fails⟩ | ⟨function, current, declared, checks⟩
  · rw [Run.final_bind_of_error fails]
    exact behaves_of_refused not_false not_false
  · rw [Run.final_bind_of_ok checks,
      Run.final_bind_of_ok (Emit.run_inModule_of_ok (Build.run_define _ _)),
      Run.final_bind_of_ok (Emit.run_updateFunctions _ _), Run.final_of_ok (Run.run_pure _ _)]
    have inHeader := phase_of_declared current declared
    refine ⟨Nat.le_succ _, .proceeds not_false not_false ?_
      (Instruction.functionParts_append _ _) (by rw [inHeader]; decide)⟩
    rw [inHeader]
    rfl

theorem behaves_emitReturn (value : Option ResultId) :
    Behaves (emitReturn value) before (Run.final (Emit.emitReturn value) before) := by
  unfold Emit.emitReturn
  rcases requireState_cases .blockOpen .exit before with
    ⟨fault, fails⟩ | ⟨function, current, blockOpen, checks⟩
  · rw [Run.final_bind_of_error fails]
    exact behaves_of_refused not_false not_false
  · rw [Run.final_bind_of_ok checks,
      Run.final_bind_of_ok (Emit.run_inModule_of_ok (Build.run_emit _ _)),
      Run.final_of_ok (Emit.run_updateFunctions _ _)]
    have inBody := phase_of_blockOpen current blockOpen
    refine ⟨Nat.le_refl _, .proceeds not_false not_false ?_
      (Instruction.functionParts_append _ _) (by rw [inBody]; decide)⟩
    have stays : FunctionBuilder.phase
        { before.functions with current := some { function with terminated := true } } = .body :=
      phase_of_blockOpen rfl blockOpen
    rw [inBody, stays]
    cases value <;> rfl

/-- The end of a function in the phase that it is in. -/
theorem after?_closed (function : OpenFunction) {functions : FunctionBuilder}
    (current : functions.current = some function) :
    functions.phase.after? ((if function.state ≠ .blockOpen ∨ function.terminated then []
      else [.returnNothing]) ++ [.functionEnd]) = some .outside := by
  unfold FunctionBuilder.phase
  rw [current]
  dsimp only
  by_cases blockOpen : function.state = .blockOpen
  · rw [if_pos blockOpen]
    split <;> rfl
  · rw [if_neg blockOpen, if_pos (.inl blockOpen)]
    rfl

/-- The end of a function fails if there is no function, or if its open block lacks a return.  Then
the function is given up. -/
theorem endFunction_eq_error {after : Emitter} {fault : Diagnostic}
    (fails : Emit.endFunction.run before = .error fault after) :
    (before.functions.current = none ∧ fault = .emission .noFunctionOpen ∧ after = before) ∨
      ∃ function, before.functions.current = some function ∧ function.state = .blockOpen ∧
        fault = .missingReturn function.name .unknown ∧
        after = ⟨before.target, { before.functions with current := none }⟩ := by
  unfold Emit.endFunction at fails
  rw [Run.run_get_bind] at fails
  cases current : before.functions.current with
  | none =>
      rw [current] at fails
      obtain ⟨rfl, rfl⟩ := Run.throw_eq_error.mp fails
      exact .inl ⟨rfl, rfl, rfl⟩
  | some function =>
      simp only [current] at fails
      rw [Run.bind_of_ok (Emit.run_updateFunctions _ _)] at fails
      rcases Run.bind_eq_error.mp fails with closeFails | ⟨_, closed, -, rest⟩
      · unfold Emit.closeBlock at closeFails
        split at closeFails
        · cases closeFails
        · next unfinished =>
            split at closeFails
            · rw [Emit.run_inModule_of_ok (Build.run_emit _ _)] at closeFails
              cases closeFails
            · obtain ⟨rfl, rfl⟩ := Run.throw_eq_error.mp closeFails
              have blockOpen : function.state = .blockOpen :=
                Decidable.not_not.mp fun other => unfinished (.inl other)
              exact .inr ⟨function, rfl, blockOpen, rfl, rfl⟩
      · rw [Run.bind_of_ok (Emit.run_inModule_of_ok (Build.run_emit _ _)),
          Run.bind_of_ok (Emit.run_updateFunctions _ _)] at rest
        cases rest

theorem behaves_endFunction : Behaves endFunction before (Run.final Emit.endFunction before) := by
  cases outcome : Emit.endFunction.run before with
  | ok record after =>
      obtain ⟨function, current, closable, rfl⟩ := Emit.endFunction_eq_ok outcome
      rw [Run.final_of_ok outcome]
      have keeps : ¬ Abandons before endFunction := by
        rintro ⟨name, location, left, fails⟩
        rw [outcome] at fails
        cases fails
      have opened : before.functions.phase ≠ .outside := by
        unfold FunctionBuilder.phase
        rw [current]
        dsimp only
        split <;> decide
      have grows : before.target.Grows ((before.target.closeBlock function).append .functionEnd) :=
        (ModuleBuilder.Advances.closeBlock before.target function).grows.trans (.append _ _)
      refine ⟨grows.bound, .proceeds not_false keeps (after?_closed function current) ?_ opened⟩
      unfold Emitter.functionParts
      rw [← List.append_assoc, ← ModuleBuilder.functionParts_closeBlock]
      exact Instruction.functionParts_append _ _
  | error fault after =>
      rw [Run.final_of_error outcome]
      rcases endFunction_eq_error outcome with
        ⟨current, rfl, rfl⟩ | ⟨function, current, blockOpen, rfl, rfl⟩
      · refine behaves_of_refused not_false ?_
        rintro ⟨name, location, left, missing⟩
        rw [outcome] at missing
        cases missing
      · exact ⟨Nat.le_refl _, .abandons not_false ⟨_, _, _, outcome⟩
          (phase_of_blockOpen current blockOpen) rfl rfl⟩

/-- Every call has one of the effects. -/
theorem behaves_perform (call : FunctionCall)
    (positive : 0 < before.target.bound) :
    call.Behaves before (call.perform before) := by
  cases call with
  | createFunction name signature entryPoint =>
      exact behaves_createFunction name signature entryPoint positive
  | addParameter name type => exact behaves_addParameter name type positive
  | createBlock => exact behaves_createBlock
  | emitReturn value => exact behaves_emitReturn value
  | endFunction => exact behaves_endFunction

/-! ## What calls in order do -/

theorem performAll_append_singleton (calls : List FunctionCall) (call : FunctionCall)
    (emitter : Emitter) :
    performAll (calls ++ [call]) emitter = call.perform (performAll calls emitter) := by
  unfold performAll
  rw [List.foldl_append]
  rfl

/-- No call gives up a function. -/
def NeverAbandon (options : CompileOptions) (calls : List FunctionCall) : Prop :=
  Throughout (fun earlier call => ¬ call.Abandons (performAll earlier (.initial options))) calls

/-- No call starts a function behind a call that has given up one. -/
def NeverOverlap (options : CompileOptions) (calls : List FunctionCall) : Prop :=
  Throughout (fun earlier call => call.Starts (performAll earlier (.initial options)) →
    NeverAbandon options earlier) calls

/-- Where calls can lead: in order, in order but with a function given up, or out of order. -/
inductive Progress (options : CompileOptions) (calls : List FunctionCall) (emitter : Emitter) : Prop
  | sound
      (reached : FunctionPhase.outside.after? emitter.functionParts = some emitter.functions.phase)
      (keeps : NeverAbandon options calls)
      (separate : NeverOverlap options calls)
  | stalled
      (reached : FunctionPhase.outside.after? emitter.functionParts = some .body)
      (closed : emitter.functions.phase = .outside)
      (abandons : ¬ NeverAbandon options calls)
      (separate : NeverOverlap options calls)
  | broken
      (lost : FunctionPhase.outside.after? emitter.functionParts = none)
      (overlaps : ¬ NeverOverlap options calls)

theorem NeverAbandon.append {options : CompileOptions} {calls : List FunctionCall}
    {call : FunctionCall}
    (keeps : NeverAbandon options calls)
    (keepsLast : ¬ call.Abandons (performAll calls (.initial options))) :
    NeverAbandon options (calls ++ [call]) :=
  throughout_append_singleton.mpr ⟨keeps, keepsLast⟩

theorem NeverOverlap.append {options : CompileOptions} {calls : List FunctionCall}
    {call : FunctionCall}
    (separate : NeverOverlap options calls)
    (separateLast : call.Starts (performAll calls (.initial options)) →
      NeverAbandon options calls) :
    NeverOverlap options (calls ++ [call]) :=
  throughout_append_singleton.mpr ⟨separate, separateLast⟩

/-- One more call. -/
theorem Progress.step {options : CompileOptions} {calls : List FunctionCall} {call : FunctionCall}
    {after : Emitter}
    (progress : Progress options calls (performAll calls (.initial options)))
    (effect : call.Effect (performAll calls (.initial options)) after) :
    Progress options (calls ++ [call]) after := by
  cases progress with
  | sound reached keeps separate =>
      cases effect with
      | opens starts keepsLast inHeader parts closed =>
          refine .sound ?_ (keeps.append keepsLast) (separate.append fun _ => keeps)
          rw [parts, FunctionPhase.after?_append, reached, Option.bind_some, closed, inHeader]
          rfl
      | proceeds startsNone keepsLast moves parts opened =>
          refine .sound ?_ (keeps.append keepsLast) (separate.append fun _ => keeps)
          rw [parts, FunctionPhase.after?_append, reached, Option.bind_some, moves]
      | quiet startsNone keepsLast phase parts =>
          refine .sound ?_ (keeps.append keepsLast) (separate.append fun _ => keeps)
          rw [parts, phase, reached]
      | abandons startsNone abandonsLast inBody closed parts =>
          refine .stalled ?_ closed ?_ (separate.append fun _ => keeps)
          · rw [parts, reached, inBody]
          · intro never
            exact (throughout_append_singleton.mp never).2 abandonsLast
  | stalled reached closed abandons separate =>
      have stillAbandons : ¬ NeverAbandon options (calls ++ [call]) :=
        fun never => abandons (throughout_append_singleton.mp never).1
      cases effect with
      | opens starts keepsLast inHeader parts _ =>
          refine .broken ?_ ?_
          · rw [parts, FunctionPhase.after?_append, reached]
            rfl
          · intro never
            exact abandons ((throughout_append_singleton.mp never).2 starts)
      | proceeds startsNone keepsLast moves parts opened => exact absurd closed opened
      | quiet startsNone keepsLast phase parts =>
          refine .stalled ?_ (phase.trans closed) stillAbandons
            (separate.append fun starts => absurd starts startsNone)
          rw [parts, reached]
      | abandons startsNone abandonsLast inBody _ parts =>
          rw [closed] at inBody
          cases inBody
  | broken lost overlaps =>
      have parts : ∃ new, after.functionParts =
          (performAll calls (.initial options)).functionParts ++ new := by
        cases effect with
        | opens starts keepsLast inHeader parts closed => exact ⟨_, parts⟩
        | proceeds startsNone keepsLast moves parts opened => exact ⟨_, parts⟩
        | quiet startsNone keepsLast phase parts => exact ⟨[], by rw [parts, List.append_nil]⟩
        | abandons startsNone abandonsLast inBody closed parts =>
            exact ⟨[], by rw [parts, List.append_nil]⟩
      obtain ⟨new, parts⟩ := parts
      refine .broken ?_ fun never => overlaps (throughout_append_singleton.mp never).1
      rw [parts, FunctionPhase.after?_append, lost]
      rfl

/-- Every sequence of calls leads to one of the three, and hands out positive ids. -/
theorem progress_performAll (options : CompileOptions) (calls : List FunctionCall) :
    0 < (performAll calls (.initial options)).target.bound ∧
      Progress options calls (performAll calls (.initial options)) := by
  induction calls using List.reverseRecOn with
  | nil => exact ⟨Nat.zero_lt_one, .sound rfl (throughout_nil _) (throughout_nil _)⟩
  | append_singleton earlier call inductionHypothesis =>
      obtain ⟨positive, progress⟩ := inductionHypothesis
      obtain ⟨bound, effect⟩ := behaves_perform call positive
      rw [performAll_append_singleton]
      exact ⟨Nat.lt_of_lt_of_le positive bound, progress.step effect⟩

end FunctionCall

/-- Whatever calls a function builder receives, the functions that it emits stand one behind the
other exactly when no function is started behind one that was given up. -/
theorem FunctionCall.inFunctionOrder_iff (options : CompileOptions) (calls : List FunctionCall) :
    InFunctionOrder (performAll calls (.initial options)).functionParts ↔
      NeverOverlap options calls := by
  rw [inFunctionOrder_iff_after?]
  cases (progress_performAll options calls).2 with
  | sound reached keeps separate => exact iff_of_true ⟨_, reached⟩ separate
  | stalled reached closed abandons separate => exact iff_of_true ⟨_, reached⟩ separate
  | broken lost overlaps =>
      refine iff_of_false ?_ overlaps
      rintro ⟨phase, reached⟩
      rw [lost] at reached
      cases reached

/-- A function that returns a value is given up in its block, and another one is started behind
it. -/
def FunctionCall.interrupted : List FunctionCall :=
  [.createFunction "Get" ⟨.scalar .float, []⟩ none, .createBlock, .endFunction,
    .createFunction "Run" ⟨.void, []⟩ none]

theorem FunctionCall.interrupted_outOfOrder :
    ¬ InFunctionOrder (performAll interrupted (.initial .allNames)).functionParts := by
  have parts : (performAll interrupted (.initial .allNames)).functionParts =
      [.function, .label, .function] := by
    decide +kernel
  rw [parts, inFunctionOrder_iff_after?]
  rintro ⟨phase, reached⟩
  cases reached

end ShaderLang
