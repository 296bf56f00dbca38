import ShaderLang.Proofs.CompiledConstants
import ShaderLang.Proofs.DeclaredTypes
import ShaderLang.Proofs.FunctionLayout
import ShaderLang.Proofs.TypePreservation

/-!
# Returns with and without a value

A function that returns `void` returns nothing, and every other function returns a value.  The
second half always holds.  The first half holds unless a variable or a parameter has the type
`void`: reading it is a value of that type, and a function that returns `void` may return it.
-/

namespace ShaderLang

open Instruction

/-! ## Returns in code -/

/-- In every function of some code, the returns have a value exactly when the function returns
something other than `void`.  A function that returns `void` may have returns with a value if the
code is exempt. -/
def ReturnsByKind (exempt : Prop) (code : List Instruction) : Prop :=
  ∀ before id returned control functionType inner after,
    code = before ++ .function id returned control functionType :: (inner ++ .functionEnd :: after) →
    .functionEnd ∉ inner →
      (.typeVoid returned ∈ code → (∃ value, .returnValue value ∈ inner) → exempt) ∧
      (.typeVoid returned ∉ code → .returnNothing ∉ inner)

/-- A return suits the function that it stands in. -/
def Instruction.SuitsFunction (exempt : Prop) (before : List Instruction) : Instruction → Prop
  | returnNothing => ∀ returned, EndsInside before returned →
      definition? before returned = some (.typeVoid returned)
  | returnValue _ => ∀ returned, EndsInside before returned → ∃ declaration,
      definition? before returned = some declaration ∧ (declaration = .typeVoid returned → exempt)
  | _ => True

variable {exempt : Prop}

/-- Some code ends inside of one function only. -/
theorem Instruction.EndsInside.eq {code : List Instruction} {first second : ResultId}
    (inFirst : EndsInside code first)
    (inSecond : EndsInside code second) :
    first = second := by
  have lastBoundary : ∀ {returned : ResultId}, EndsInside code returned →
      ∃ id control functionType, (code.filter isBoundary).getLast? =
        some (.function id returned control functionType) := by
    rintro returned ⟨outer, id, control, functionType, inner, rfl, plain⟩
    have noBoundary : inner.filter isBoundary = [] := by
      rw [List.filter_eq_nil_iff]
      intro instruction member
      rw [plain instruction member]
      decide
    refine ⟨id, control, functionType, ?_⟩
    rw [List.filter_append, List.filter_cons_of_pos rfl, noBoundary, List.getLast?_concat]
  obtain ⟨_, _, _, firstLast⟩ := lastBoundary inFirst
  obtain ⟨_, _, _, secondLast⟩ := lastBoundary inSecond
  rw [firstLast] at secondLast
  cases secondLast
  rfl

/-- Code in which every return suits its function has returns by kind. -/
theorem returnsByKind_of_suits {builder : ModuleBuilder}
    (suits : Throughout (SuitsFunction exempt) builder.code)
    (wellFormed : builder.WellFormed)
    (signed : WellSignedCode builder.code) :
    ReturnsByKind exempt builder.code := by
  intro before id returned control functionType inner after split noEnd
  -- up to its first end, a function has no boundary
  have plain : ∀ instruction ∈ inner, instruction.isBoundary = false := by
    obtain ⟨signedInner, rest, same, plain, -⟩ := signed _ _ _ split
    rcases append_eq_append_cons same with ⟨others, innerEq, -⟩ | ⟨others, rfl, -⟩
    · exact absurd (by simp [innerEq]) noEnd
    · exact fun instruction member => plain instruction (List.mem_append_left _ member)
  have atReturn : ∀ instruction ∈ inner, ∃ front, front <+: builder.code ∧
      EndsInside front returned ∧ instruction.SuitsFunction exempt front := by
    intro instruction member
    obtain ⟨first, last, rfl⟩ := List.append_of_mem member
    refine ⟨before ++ .function id returned control functionType :: first, ?_, ?_, ?_⟩
    · exact ⟨instruction :: last ++ .functionEnd :: after, by simp [split]⟩
    · exact ⟨before, id, control, functionType, first, rfl,
        fun other inFirst => plain other (List.mem_append_left _ inFirst)⟩
    · exact suits _ _ (last ++ .functionEnd :: after) (by simp [split])
  constructor
  · rintro isVoid ⟨value, member⟩
    obtain ⟨front, starts, inside, suitsHere⟩ := atReturn _ member
    obtain ⟨declaration, defined, excused⟩ := suitsHere returned inside
    have declared := definition?_of_isPrefix starts defined
    have same := wellFormed.definition?_of_mem isVoid rfl
    rw [declared] at same
    exact excused (Option.some.inj same)
  · intro notVoid member
    obtain ⟨front, starts, inside, suitsHere⟩ := atReturn _ member
    exact notVoid (mem_of_definition? (definition?_of_isPrefix starts (suitsHere returned inside)))

/-! ## Steps of building -/

namespace ModuleBuilder

variable {builder before after : ModuleBuilder}

/-- Every return in the code of a builder suits its function. -/
def SuitsFunctions (exempt : Prop) (builder : ModuleBuilder) : Prop :=
  Throughout (SuitsFunction exempt) builder.code

/-- Code without returns can be added. -/
theorem SuitsFunctions.addFrame (suits : before.SuitsFunctions exempt)
    {frame : List Instruction}
    (adds : before.AddsFrame after frame)
    (noReturn : ∀ instruction ∈ frame, instruction.opcode.endsBlock = false) :
    after.SuitsFunctions exempt := by
  obtain ⟨new, code, parts, -⟩ := adds
  unfold SuitsFunctions
  rw [code]
  refine throughout_append.mpr ⟨suits, fun inner instruction rest split => ?_⟩
  have inNew : instruction ∈ new := by simp [split]
  have inFrame : instruction.isFramePart = true → instruction ∈ frame := fun isPart =>
    parts ▸ List.mem_filter.mpr ⟨inNew, isPart⟩
  cases instruction with
  | returnNothing => cases noReturn _ (inFrame rfl)
  | returnValue value => cases noReturn _ (inFrame rfl)
  | _ => trivial

theorem SuitsFunctions.addPlain (suits : before.SuitsFunctions exempt)
    (adds : before.AddsFrame after []) :
    after.SuitsFunctions exempt :=
  suits.addFrame adds (List.forall_mem_nil _)

/-- A registered type has a declaration, and only that of `void` is the declaration of `void`. -/
theorem WellFormed.exists_declaration (wellFormed : builder.WellFormed) {type : ShaderType}
    {id : ResultId}
    (registered : builder.typeId? type = some id) :
    ∃ declaration, definition? builder.code id = some declaration ∧
      (declaration = .typeVoid id → type.isVoid = true) := by
  rcases wellFormed.types _ _ registered with ⟨form, written, defined⟩ | ⟨comparison, plain⟩
  · refine ⟨form id, defined, fun isVoid => ?_⟩
    cases written with
    | scalar scalar => cases scalar <;> first | rfl | cases isVoid
    | _ => cases isVoid
  · rcases wellFormed.types _ _ plain with ⟨form, written, defined⟩ | ⟨impossible, -⟩
    · refine ⟨form id, defined, fun isVoid => ?_⟩
      cases written <;> cases isVoid
    · cases impossible

/-- A return suits a function whose type allows it. -/
theorem SuitsFunctions.appendReturn (suits : builder.SuitsFunctions exempt)
    (wellFormed : builder.WellFormed) {returned : ShaderType} {value : Option ResultId}
    (returns : builder.Returns returned)
    (absent : value = none → returned.isVoid = true)
    (present : ∀ id ∈ value, returned.isVoid = true → exempt) :
    (builder.append (Emit.returnInstruction value)).SuitsFunctions exempt := by
  obtain ⟨typeId, registered, inside⟩ := returns
  refine throughout_append_singleton.mpr ⟨suits, ?_⟩
  cases value with
  | none =>
      intro other insideOther
      rw [← inside.eq insideOther]
      rw [ShaderType.eq_of_isVoid (absent rfl)] at registered
      exact wellFormed.definition?_scalar registered
  | some id =>
      intro other insideOther
      rw [← inside.eq insideOther]
      obtain ⟨declaration, defined, isVoid⟩ := wellFormed.exists_declaration registered
      exact ⟨declaration, defined, fun same => present id rfl (isVoid same)⟩

end ModuleBuilder

/-! ## Names of type `void` -/

/-- Whether reading a bound name gives a value of type `void`. -/
def Binding.readsVoid : Binding → Bool
  | value _ type | cell _ type => type.isVoid
  | generic _ => false

/-- A name that can be read as `void` is bound only if that is exempt. -/
def FunctionBuilder.GuardsVoid (exempt : Prop) (functions : FunctionBuilder) : Prop :=
  ∀ entry ∈ functions.names.entries, entry.2.readsVoid = true → exempt

namespace FunctionBuilder.GuardsVoid

variable {functions : FunctionBuilder}

theorem pushScope (guards : functions.GuardsVoid exempt) :
    functions.pushScope.GuardsVoid exempt := by
  intro entry member
  exact guards entry (functions.names.entries_push ▸ member)

theorem bindLocal (guards : functions.GuardsVoid exempt)
    (opened : functions.scopes ≠ []) (name : String) {binding : Binding}
    (excused : binding.readsVoid = true → exempt) :
    (functions.bindLocal name binding).GuardsVoid exempt := by
  intro entry member
  rw [FunctionBuilder.names_bindLocal, NameTable.entries_bind opened] at member
  rcases List.mem_cons.mp member with rfl | earlier
  · exact excused
  · exact guards entry earlier

theorem bindMember (guards : functions.GuardsVoid exempt) (name : String) {binding : Binding}
    (excused : binding.readsVoid = true → exempt) :
    (functions.bindMember name binding).GuardsVoid exempt := by
  intro entry member
  rcases List.mem_append.mp member with inScopes | inShader
  · exact guards entry (List.mem_append_left _ inScopes)
  · rcases List.mem_cons.mp inShader with rfl | earlier
    · exact excused
    · exact guards entry (List.mem_append_right _ earlier)

end FunctionBuilder.GuardsVoid

/-! ## Expressions and statements -/

section Statements

variable {table : SymbolTable} {returned : ShaderType} {names names' : NameTable Referent}

/-- Only the read of a name can be a value of type `void`. -/
theorem Expression.Emits.exempt_of_void {functions : FunctionBuilder} {expression : Expression}
    {before after : ModuleBuilder} {id : ResultId} {type : ShaderType}
    (emits : expression.Emits table.annotations functions before id after)
    (hasType : expression.HasType table.annotations names type)
    (carries : functions.Carries before names)
    (guards : functions.GuardsVoid exempt)
    (isVoid : type.isVoid = true) :
    exempt := by
  cases emits with
  | @literal node location value _ _ _ registers =>
      cases hasType
      cases value <;> cases isVoid
  | value bound =>
      obtain ⟨referent, resolved, entry⟩ := carries.resolve?_eq_some bound
      obtain ⟨name, member⟩ := NameTable.mem_entries_of_resolve? bound
      cases entry
      cases hasType.type_eq resolved
      exact guards _ member isVoid
  | load bound registers =>
      obtain ⟨referent, resolved, entry⟩ := carries.resolve?_eq_some bound
      obtain ⟨name, member⟩ := NameTable.mem_entries_of_resolve? bound
      cases entry
      cases hasType.type_eq resolved
      exact guards _ member isVoid
  | binary leftEmits rightEmits typed selected registers =>
      cases hasType with
      | binary leftTyped rightTyped numeric annotated =>
          rw [ShaderType.eq_of_isVoid isVoid] at numeric
          cases numeric

theorem Statement.EmitsSimple.suitsFunctions {statement : Statement} {before after : Emitter}
    (emits : statement.EmitsSimple table.annotations before after)
    (typed : statement.TypedSimple table returned names names')
    (types : before.Types names)
    (returns : before.target.Returns returned)
    (excused : ∀ written ∈ statement.localTypes,
      (written.denoted table).isVoid = true → exempt)
    (guards : before.functions.GuardsVoid exempt)
    (suits : before.target.SuitsFunctions exempt) :
    after.target.SuitsFunctions exempt ∧ after.functions.GuardsVoid exempt := by
  cases emits with
  | declare annotated valueEmits registers opened =>
      cases typed with
      | declare annotated' emittable valueTyped =>
          cases annotated.symm.trans annotated'
          exact ⟨suits.addPlain (((valueEmits.addsFrame.trans (.register registers)).trans
            (.withCell _ _ _ _)).trans (.storeOptional _ _ _)),
            guards.bindLocal opened _ (excused _ List.mem_cons_self)⟩
  | assign valueEmits bound =>
      exact ⟨suits.addPlain (valueEmits.addsFrame.trans (.plain rfl rfl)), guards⟩
  | evaluate valueEmits => exact ⟨suits.addPlain valueEmits.addsFrame, guards⟩
  | exit valueEmits opened inBlock =>
      cases typed with
      | exit valueTyped absent =>
          have wellFormed := valueEmits.advances.wellFormed types.wellFormed
          have stillReturns := returns.advance valueEmits.advances
          refine ⟨(suits.addPlain valueEmits.addsFrame).appendReturn wellFormed stillReturns ?_ ?_,
            guards⟩
          · intro noValue
            cases valueEmits with
            | none => exact absent rfl
            | some valueEmits => cases noValue
          · intro id present isVoid
            cases valueEmits with
            | none => cases present
            | some valueEmits =>
                exact valueEmits.exempt_of_void (valueTyped _ rfl) types.carries guards isVoid

theorem Statement.EmitsAll.suitsFunctions {body : List Statement} {before after : Emitter}
    (emits : Statement.EmitsAll table.annotations body before after)
    (typed : Statement.TypedAll table returned names body)
    (types : before.Types names)
    (returns : before.target.Returns returned)
    (excused : ∀ written ∈ Statement.allLocalTypes body,
      (written.denoted table).isVoid = true → exempt)
    (guards : before.functions.GuardsVoid exempt)
    (suits : before.target.SuitsFunctions exempt) :
    after.target.SuitsFunctions exempt := by
  induction emits generalizing names with
  | nil => exact suits
  | stop terminated => exact suits
  | simple running emits restEmits inductionHypothesis =>
      cases typed with
      | simple statementTyped restTyped =>
          obtain ⟨nextSuits, nextGuards⟩ := emits.suitsFunctions statementTyped types returns
            (fun written member => excused written (List.mem_append_left _ member)) guards suits
          exact inductionHypothesis restTyped (emits.types statementTyped types returns)
            (returns.advance emits.advances)
            (fun written member => excused written (List.mem_append_right _ member))
            nextGuards nextSuits
      | block bodyTyped restTyped => cases emits
  | @block location body rest before inner after running bodyEmits restEmits bodyHypothesis
      restHypothesis =>
      cases typed with
      | simple statementTyped restTyped => cases statementTyped
      | block bodyTyped restTyped =>
          have innerSuits := bodyHypothesis bodyTyped types.pushScope returns
            (fun written member => excused written (List.mem_append_left _ member))
            guards.pushScope suits
          have innerTyped := bodyEmits.typed bodyTyped types.pushScope returns
          have sameNames : inner.functions.dropScope.GuardsVoid exempt := by
            unfold FunctionBuilder.GuardsVoid
            rw [bodyEmits.names_dropScope]
            exact guards
          exact restHypothesis restTyped (types.dropScope bodyEmits innerTyped)
            (returns.advance bodyEmits.advances)
            (fun written member => excused written (List.mem_append_right _ member))
            sameNames innerSuits

end Statements

/-! ## Methods -/

section Methods

variable {table : SymbolTable} {shader : Shader} {method : Method} {before after : Emitter}

theorem Method.EmitsParameters.guardsVoid {parameters : List Parameter}
    (emits : Method.EmitsParameters table.annotations parameters before after)
    (annotated : ∀ parameter ∈ parameters,
      table.annotations.type? parameter.node = some (parameter.type.denoted table))
    (excused : ∀ parameter ∈ parameters,
      ((Parameter.type parameter).denoted table).isVoid = true → exempt)
    (opened : before.functions.scopes ≠ [])
    (guards : before.functions.GuardsVoid exempt) :
    after.functions.GuardsVoid exempt := by
  induction emits with
  | nil => exact guards
  | @cons parameter rest type typeId before after first annotatedType registers restEmits
      inductionHypothesis =>
      cases annotatedType.symm.trans (annotated parameter List.mem_cons_self)
      refine inductionHypothesis
        (fun other member => annotated other (List.mem_cons_of_mem _ member))
        (fun other member => excused other (List.mem_cons_of_mem _ member))
        ((FunctionBuilder.sameOuter_bindLocal _ _ _).opened opened) ?_
      exact guards.bindLocal opened _ (excused parameter List.mem_cons_self)

/-- The body of a method keeps the function that is open, but for its state. -/
theorem Method.returned_of_emitsBody {body : Option (List Statement)}
    {started function : OpenFunction}
    (emits : Method.EmitsBody table.annotations body before after)
    (starts : before.functions.current = some started)
    (opened : after.functions.current = some function) :
    function.returned = started.returned := by
  cases emits with
  | none =>
      cases starts.symm.trans opened
      rfl
  | some isOpen statementsEmit =>
      cases starts.symm.trans isOpen
      obtain ⟨terminated, current⟩ := statementsEmit.sameFunction.current _ rfl
      cases current.symm.trans opened
      rfl

theorem Method.EmitsBody.suitsFunctions {body : Option (List Statement)} {returned : ShaderType}
    {names : NameTable Referent}
    (emits : Method.EmitsBody table.annotations body before after)
    (typed : ∀ statements ∈ body, Statement.TypedAll table returned names statements)
    (types : before.Types names)
    (returns : before.target.Returns returned)
    (excused : ∀ written ∈ body.elim [] Statement.allLocalTypes,
      (written.denoted table).isVoid = true → exempt)
    (guards : before.functions.GuardsVoid exempt)
    (suits : before.target.SuitsFunctions exempt) :
    after.target.SuitsFunctions exempt := by
  cases emits with
  | none => exact suits
  | some opened statementsEmit =>
      have labelled : (before.target.defined .label).SuitsFunctions exempt :=
        suits.addFrame (.part rfl rfl rfl) (List.forall_mem_singleton.mpr rfl)
      exact statementsEmit.suitsFunctions (typed _ rfl) (types.openBlock _)
        (returns.advance (.defined rfl rfl)) excused guards labelled

/-- The block of a function is closed without a value only if the function returns `void`. -/
theorem ModuleBuilder.SuitsFunctions.closeBlock {builder : ModuleBuilder}
    (suits : builder.SuitsFunctions exempt)
    (wellFormed : builder.WellFormed) {function : OpenFunction}
    (returns : builder.Returns function.returned)
    (closable : (function.state ≠ .blockOpen ∨ function.terminated) ∨
      function.returned.isVoid = true) :
    (builder.closeBlock function).SuitsFunctions exempt := by
  unfold ModuleBuilder.closeBlock
  split
  · exact suits
  · next isOpen =>
      change (builder.append (Emit.returnInstruction none)).SuitsFunctions exempt
      exact suits.appendReturn wellFormed returns (fun _ => closable.resolve_left isOpen) (by simp)

/-- The returns of a well-typed method suit its function. -/
theorem Method.Emits.suitsFunctions
    (emits : method.Emits table.annotations before after)
    (typed : method.Typed shader table)
    (types : before.Types ⟨[], shader.referents table⟩)
    (excused : ∀ written ∈ method.variableTypes,
      (written.denoted table).isVoid = true → exempt)
    (guards : before.functions.GuardsVoid exempt)
    (suits : before.target.SuitsFunctions exempt) :
    after.target.SuitsFunctions exempt := by
  cases emits with
  | @mk info returned parameters functionType returnedId first second function _ middle last
      checked annotated closed registersType registersReturned parametersEmit bodyEmits opened
      closable =>
      cases annotated.symm.trans typed.signature
      obtain ⟨returnedReaches, returnedRegistered⟩ := Build.register_reaches _ registersReturned
      have declared : before.target.Advances second :=
        (ModuleBuilder.Advances.register registersType).trans (.register registersReturned)
      have secondTyped := (types.typed.register registersType).register registersReturned
      obtain ⟨startTypes, startReturns⟩ := types.start declared secondTyped returnedRegistered
        method.name info.entryPoint functionType
        ⟨method.name, second.bound, method.returned.denoted table, info.entryPoint, .declared, false⟩
      obtain ⟨middleTypes, -⟩ := parametersEmit.types
        (fun parameter member => (typed.parameters parameter member).1) startTypes
      rw [List.append_nil] at middleTypes
      have middleReturns := startReturns.advance parametersEmit.advances
      -- the types, the start and the parameters of the function have no returns
      have secondSuits : second.SuitsFunctions exempt := suits.addPlain
        ((ModuleBuilder.AddsFrame.register registersType).trans (.register registersReturned))
      have startPlain : ∀ stage, ∀ instruction ∈ entryPointCode second.bound method.name stage ++
          [.function second.bound returnedId .none functionType],
          instruction.opcode.endsBlock = false := by
        intro stage
        cases stage <;> simp [entryPointCode, Instruction.opcode, Opcode.endsBlock]
      have startSuits := secondSuits.addFrame (.startFunction second method.name info.entryPoint
        returnedId functionType) (startPlain _)
      obtain ⟨written, -, parametersFrame⟩ := parametersEmit.addsFrame
      have parametersPlain : ∀ instruction ∈ FunctionFrame.parameterCode written,
          instruction.opcode.endsBlock = false := by
        intro instruction member
        obtain ⟨parameter, -, rfl⟩ := List.mem_map.mp member
        rfl
      have middleSuits := startSuits.addFrame parametersFrame parametersPlain
      have middleGuards : middle.functions.GuardsVoid exempt := parametersEmit.guardsVoid
        (fun parameter member => (typed.parameters parameter member).1)
        (fun parameter member => excused _ (List.mem_append_left _ (List.mem_map_of_mem member)))
        (List.cons_ne_nil _ _) guards.pushScope
      have bodyTyped := fun body present => (typed.body body present).1
      have lastSuits := bodyEmits.suitsFunctions bodyTyped middleTypes middleReturns
        (fun written member => excused written (List.mem_append_right _ member)) middleGuards
        middleSuits
      have sameReturned := Method.returned_of_emitsBody bodyEmits parametersEmit.current opened
      have lastReturns := middleReturns.advance bodyEmits.advances
      have closedSuits := lastSuits.closeBlock (bodyEmits.advances.wellFormed
        middleTypes.wellFormed) (sameReturned ▸ lastReturns) closable
      exact closedSuits.addFrame (.part rfl rfl rfl) (List.forall_mem_singleton.mpr rfl)

end Methods

/-! ## Shaders -/

section Shaders

variable {table : SymbolTable} {shader : Shader} {before after : Emitter}

/-- What holds of an emitter between two elements of a shader. -/
structure Emitter.SuitsShader (exempt : Prop) (emitter : Emitter) : Prop where
  suits : emitter.target.SuitsFunctions exempt
  guards : emitter.functions.GuardsVoid exempt

theorem Generic.suitsShader_of_emit {generic : Generic}
    (run : (generic.emit table.annotations).run before = .ok () after)
    (suits : before.SuitsShader exempt) :
    after.SuitsShader exempt := by
  obtain ⟨type, -, rfl⟩ := Generic.emit_eq_ok run
  exact ⟨suits.suits, suits.guards.bindMember generic.name (by simp [Binding.readsVoid])⟩

theorem Struct.suitsShader_of_emit {struct : Struct}
    (run : (struct.emit table.annotations).run before = .ok () after)
    (suits : before.SuitsShader exempt) :
    after.SuitsShader exempt := by
  have plain := (Struct.addsFrames_of_emit run).code
  obtain ⟨type, typeId, target, -, registers, rfl⟩ := Struct.emit_eq_ok run
  exact ⟨suits.suits.addPlain plain, suits.guards⟩

theorem Member.suitsShader_of_emit {member : Member}
    (run : (member.emit table.annotations).run before = .ok () after)
    (typed : member.Typed table)
    (excused : (member.type.denoted table).isVoid = true → exempt)
    (suits : before.SuitsShader exempt) :
    after.SuitsShader exempt := by
  have plain := (Member.addsFrames_of_emit run).code
  obtain ⟨type, typeId, valueId, first, second, annotated, registers, valueEmits, rfl⟩ :=
    Member.emit_eq_ok run
  cases typed.annotated.symm.trans annotated
  exact ⟨suits.suits.addPlain plain, suits.guards.bindMember member.name excused⟩

theorem Sampler.suitsShader_of_emit {sampler : Sampler}
    (run : (sampler.emit table.annotations).run before = .ok () after)
    (annotated : table.annotations.type? sampler.node = some sampler.kind.type)
    (suits : before.SuitsShader exempt) :
    after.SuitsShader exempt := by
  have plain := (Sampler.addsFrames_of_emit run).code
  obtain ⟨type, typeId, first, annotated', registers, rfl⟩ := Sampler.emit_eq_ok run
  cases annotated.symm.trans annotated'
  refine ⟨suits.suits.addPlain plain, suits.guards.bindMember sampler.name fun isVoid => ?_⟩
  unfold Binding.readsVoid at isVoid
  cases kind : sampler.kind <;> rw [kind] at isVoid <;> cases isVoid

theorem Method.suitsShader_of_emit {method : Method}
    (emits : method.Emits table.annotations before after)
    (typed : method.Typed shader table)
    (types : before.TypesShader (shader.referents table))
    (excused : ∀ written ∈ method.variableTypes,
      (written.denoted table).isVoid = true → exempt)
    (suits : before.SuitsShader exempt) :
    after.SuitsShader exempt := by
  refine ⟨emits.suitsFunctions typed types.types excused suits.guards suits.suits, ?_⟩
  have sameNames := emits.names (types.types.carries.scopes_eq_nil rfl)
  unfold FunctionBuilder.GuardsVoid
  rw [sameNames]
  exact suits.guards

/-- The returns of a well-typed shader suit their functions. -/
theorem Shader.suitsShader_of_emit
    (run : (shader.emit table.annotations).run before = .ok () after)
    (typed : shader.Typed table)
    (types : before.TypesShader [])
    (excused : ∀ written ∈ shader.variableTypes,
      (written.denoted table).isVoid = true → exempt)
    (suits : before.SuitsShader exempt) :
    after.SuitsShader exempt := by
  obtain ⟨first, second, third, fourth, generics, structs, members, samplers, methods⟩ :=
    Shader.emit_eq_ok run
  have afterGenerics : first.SuitsShader exempt :=
    Run.forM_invariant (fun _ (emitter : Emitter) => emitter.SuitsShader exempt) generics suits
      fun _ _ _ _ _ _ earlier emits => Generic.suitsShader_of_emit emits earlier
  have afterStructs : second.SuitsShader exempt :=
    Run.forM_invariant (fun _ (emitter : Emitter) => emitter.SuitsShader exempt) structs
      afterGenerics fun _ _ _ _ _ _ earlier emits => Struct.suitsShader_of_emit emits earlier
  have afterMembers : third.SuitsShader exempt := by
    refine Run.forM_invariant (fun _ (emitter : Emitter) => emitter.SuitsShader exempt) members
      afterStructs fun done member rest split _ _ earlier emits => ?_
    have inShader : member ∈ shader.members := by simp [split]
    exact Member.suitsShader_of_emit emits (typed.members member inShader)
      (excused _ (List.mem_append_left _ (List.mem_map_of_mem inShader))) earlier
  have afterSamplers : fourth.SuitsShader exempt := by
    refine Run.forM_invariant (fun _ (emitter : Emitter) => emitter.SuitsShader exempt) samplers
      afterMembers fun done sampler rest split _ _ earlier emits => ?_
    exact Sampler.suitsShader_of_emit emits (typed.samplers sampler (by simp [split])) earlier
  have both := Run.forM_invariant (fun _ (emitter : Emitter) =>
      emitter.TypesShader (shader.referents table) ∧ emitter.SuitsShader exempt) methods
    ⟨Shader.typesShader_of_variables generics structs members samplers typed types, afterSamplers⟩
    (by
      rintro done method rest split state state' ⟨stateTypes, stateSuits⟩ emits
      have inShader : method ∈ shader.methods := by simp [split]
      have methodEmits := Method.emits_of_emit emits
      have methodTyped := typed.methods method inShader
      refine ⟨Method.typesShader_of_emit methodEmits methodTyped stateTypes,
        Method.suitsShader_of_emit methodEmits methodTyped stateTypes ?_ stateSuits⟩
      exact fun written member => excused written
        (List.mem_append_right _ (List.mem_flatMap.mpr ⟨method, inShader, member⟩)))
  exact both.2

end Shaders

/-! ## Compiled modules -/

/-- In a compiled module a function that does not return `void` never returns without a value, and
one that returns `void` returns a value only if something in the shader is declared with the type
`void`. -/
theorem Shader.compile_returnsByKind {shader : Shader} {options : CompileOptions}
    {compiled : CompiledShader}
    (distinct : shader.nodes.Nodup)
    (compiles : shader.compile options = .ok compiled) :
    ReturnsByKind (∃ written ∈ shader.variableTypes, written.isVoid = true)
      compiled.shaderModule.instructions := by
  obtain ⟨clean, emitter, emits, rfl⟩ := Shader.compile_eq_ok compiles
  have typed := Shader.typed_of_clean distinct clean
  have types := Shader.typesShader_of_emit emits typed (Emitter.typesShader_initial options)
  have named : shader.analyse.1.NamesTypes :=
    shader.keepsNames_check _ SymbolTable.namesTypes_empty
  have excused : ∀ written ∈ shader.variableTypes,
      (written.denoted shader.analyse.1).isVoid = true →
        ∃ written ∈ shader.variableTypes, written.isVoid = true :=
    fun written member isVoid => ⟨written, member, named.isVoid_of_denoted isVoid⟩
  have suits := Shader.suitsShader_of_emit emits typed (Emitter.typesShader_initial options)
    excused ⟨throughout_nil _, List.forall_mem_nil _⟩
  exact returnsByKind_of_suits suits.suits types.types.wellFormed types.signed

/-- The written type `void`. -/
def TypeName.nothing : TypeName :=
  ⟨"void", none, .unknown⟩

/-- A shader with a method that returns a variable of type `void`. -/
def Shader.resetting : Shader where
  name := "Resetting"
  generics := []
  elements := [
    .method ⟨0, .unknown, .nothing, "reset", [], some [
      .declare 1 .unknown .nothing "none" none,
      .exit .unknown (some (.identifier 2 .unknown "none"))], none, none, []⟩]

theorem Shader.resetting_returnsByKind :
    Shader.resetting.nodes.Nodup ∧ ∃ compiled, Shader.resetting.compile ⟨false, false⟩ = .ok compiled ∧
      ReturnsByKind (∃ written ∈ Shader.resetting.variableTypes, written.isVoid = true)
        compiled.shaderModule.instructions := by
  have distinct : Shader.resetting.nodes.Nodup := by decide
  have succeeds : (Shader.resetting.compile ⟨false, false⟩).toOption.any (fun _ => true) = true := by
    decide +kernel
  obtain ⟨compiled, compiles, -⟩ := Shader.exists_compiled succeeds
  exact ⟨distinct, compiled, compiles, Shader.compile_returnsByKind distinct compiles⟩

/-- The method returns a value although it returns `void`. -/
theorem Shader.resetting_returnsValue :
    Shader.resetting.nodes.Nodup ∧ ∃ compiled, Shader.resetting.compile ⟨false, false⟩ = .ok compiled ∧
      ¬ ReturnsByKind False compiled.shaderModule.instructions := by
  have code : (Shader.resetting.compile ⟨false, false⟩).toOption.any (fun compiled =>
      compiled.shaderModule.instructions = [.typeVoid 1, .typeFunction 2 1 [],
        .function 3 1 .none 2, .label 4, .cell 5 1 .function, .load 6 1 5, .returnValue 6,
        .functionEnd]) = true := by
    decide +kernel
  obtain ⟨compiled, compiles, isCode⟩ := Shader.exists_compiled code
  refine ⟨by decide, compiled, compiles, fun byKind => ?_⟩
  rw [of_decide_eq_true isCode] at byKind
  have returnsNothing := byKind [.typeVoid 1, .typeFunction 2 1 []] 3 1 .none 2
    [.label 4, .cell 5 1 .function, .load 6 1 5, .returnValue 6] [] rfl (by decide)
  exact returnsNothing.1 (by decide) ⟨6, by decide⟩

end ShaderLang
