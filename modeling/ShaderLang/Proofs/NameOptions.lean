import ShaderLang.Proofs.BuilderMirrors
import ShaderLang.Proofs.EmissionRuns

/-!
# Names do not change a program

Emission with every name and emission under options go through the same steps, so a compilation
under options gives what the compilation with every name gives, less the names that the options
leave out.
-/

namespace ShaderLang

/-- What a compilation with every name gives under options: the same bound and functions, and the
code without the names that the options leave out. -/
def CompiledShader.restrict (options : CompileOptions) (compiled : CompiledShader) :
    CompiledShader where
  shaderModule :=
    { compiled.shaderModule with
      instructions := compiled.shaderModule.instructions.filter
        (Instruction.isKept options compiled.shaderModule.instructions) }
  functions := compiled.functions

/-! ## Emission -/

/-- Two emitters whose modules mirror each other, and which are in the same function. -/
inductive Emitter.Mirrors (options : CompileOptions) : Emitter → Emitter → Prop
  | mk {full part : ModuleBuilder} (functions : FunctionBuilder)
      (target : full.Mirrors options part) :
      Mirrors options ⟨full, functions⟩ ⟨part, functions⟩

namespace Emit

open Run (Agrees)

variable {options : CompileOptions} {full part : Emitter}

/-- A step of emission that ends alike in both runs. -/
abbrev Alike {α : Type} (options : CompileOptions) (step : Emit α) (full part : Emitter) : Prop :=
  Agrees (Emitter.Mirrors options) (fun _ _ => True) (step.run full) (step.run part)

variable {α β : Type}

theorem Alike.bind {first : Emit α} {next : α → Emit β}
    (firstAlike : Alike options first full part)
    (nextAlike : ∀ value full part, Emitter.Mirrors options full part →
      Alike options (next value) full part) :
    Alike options (first >>= next) full part :=
  Agrees.bind firstAlike fun value full part mirrors _ => nextAlike value full part mirrors

theorem alike_pure (mirrors : Emitter.Mirrors options full part) (value : α) :
    Alike options (pure value) full part :=
  .pure mirrors trivial

theorem alike_inModule {step : Build α} (good : α → ModuleBuilder → Prop)
    (mirrors : Emitter.Mirrors options full part)
    (stepAlike : ∀ {full part : ModuleBuilder}, full.Mirrors options part →
      Build.Alike options good step full part) :
    Alike options (inModule step) full part := by
  cases mirrors with
  | @mk full part functions target =>
      unfold Alike
      rcases (stepAlike target).outcomes with
        ⟨value, _, _, fullOk, partOk, states, -⟩ | ⟨fault, _, _, fullFails, partFails⟩
      · rw [run_inModule_of_ok fullOk, run_inModule_of_ok partOk]
        exact .ok (.mk functions states) trivial
      · rw [run_inModule_of_error fullFails, run_inModule_of_error partFails]
        exact .error

theorem alike_updateFunctions (mirrors : Emitter.Mirrors options full part)
    (change : FunctionBuilder → FunctionBuilder) :
    Alike options (updateFunctions change) full part := by
  cases mirrors with
  | mk functions target => exact .ok (.mk (change functions) target) trivial

theorem alike_bindMember (mirrors : Emitter.Mirrors options full part) (name : String)
    (binding : Binding) :
    Alike options (bindMember name binding) full part :=
  alike_updateFunctions mirrors _

theorem alike_bindLocal (mirrors : Emitter.Mirrors options full part) (name : String)
    (binding : Binding) :
    Alike options (bindLocal name binding) full part := by
  cases mirrors with
  | mk functions target =>
      unfold Alike bindLocal
      rw [Run.run_get_bind, Run.run_get_bind]
      dsimp only
      split
      · exact .error
      · exact alike_updateFunctions (.mk functions target) _

theorem alike_inScope {step : Emit α}
    (mirrors : Emitter.Mirrors options full part)
    (stepAlike : ∀ {full part : Emitter}, Emitter.Mirrors options full part →
      Alike options step full part) :
    Alike options (inScope step) full part := by
  cases mirrors with
  | @mk full part functions target =>
      rw [Alike, run_inScope, run_inScope]
      rcases (stepAlike (.mk functions.pushScope target)).outcomes with
        ⟨value, _, _, fullOk, partOk, states, -⟩ | ⟨fault, _, _, fullFails, partFails⟩
      · rw [fullOk, partOk]
        cases states with
        | mk later laterTarget => exact .ok (.mk later.dropScope laterTarget) trivial
      · rw [fullFails, partFails]
        exact .error

theorem alike_requireState (mirrors : Emitter.Mirrors options full part) (state : MethodState)
    (step : BuildStep) :
    Alike options (requireState state step) full part := by
  cases mirrors with
  | mk functions target =>
      unfold Alike requireState
      rw [Run.run_get_bind, Run.run_get_bind]
      dsimp only
      split
      · exact .error
      · split
        · exact .ok (.mk functions target) trivial
        · exact .error

/-! ### Expressions -/

theorem alike_require (mirrors : Emitter.Mirrors options full part) (annotations : Annotations)
    (node : NodeId) (thing : TypedThing) (name : String) :
    Alike options (annotations.require node thing name) full part := by
  unfold Annotations.require
  split
  · exact alike_pure mirrors _
  · exact .error

theorem alike_emitRead (mirrors : Emitter.Mirrors options full part) (name : String)
    (binding : Binding) :
    Alike options (binding.emitRead name) full part := by
  cases binding with
  | value id type => exact alike_pure mirrors id
  | cell id type =>
      refine alike_inModule (fun _ _ => True) mirrors fun target => ?_
      refine (Build.alike_register type target).bind fun typeId _ _ later _ => ?_
      exact (Build.alike_define later fun _ => rfl).imp fun _ _ _ => trivial
  | generic type => exact .error

theorem alike_emitOperation (mirrors : Emitter.Mirrors options full part)
    (annotations : Annotations) (node : NodeId) (location : Location) (operator : Operator)
    (left right : ResultId) :
    Alike options (emitOperation annotations node location operator left right) full part := by
  unfold emitOperation
  split
  · exact .error
  · next type _ =>
      split
      · exact .error
      · refine alike_inModule (fun _ _ => True) mirrors fun target => ?_
        refine (Build.alike_register type target).bind fun typeId _ _ later _ => ?_
        exact (Build.alike_define later fun _ => rfl).imp fun _ _ _ => trivial

theorem alike_expression (annotations : Annotations) (expression : Expression)
    (mirrors : Emitter.Mirrors options full part) :
    Alike options (expression.emit annotations) full part := by
  induction expression generalizing full part with
  | literal node location value =>
      exact alike_inModule _ mirrors fun target => Build.alike_registerConstant target _ _
  | identifier node location name =>
      cases mirrors with
      | mk functions target =>
          unfold Alike Expression.emit
          rw [Run.run_get_bind, Run.run_get_bind]
          dsimp only
          split
          · exact alike_emitRead (.mk functions target) name _
          · exact .error
  | stream node location name =>
      cases mirrors with
      | mk functions target =>
          unfold Alike Expression.emit
          rw [Run.run_get_bind, Run.run_get_bind]
          dsimp only
          split
          · exact alike_emitRead (.mk functions target) name _
          · exact .error
  | binary node location operator left right leftHypothesis rightHypothesis =>
      refine (leftHypothesis mirrors).bind fun leftId _ _ later => ?_
      refine (rightHypothesis later).bind fun rightId _ _ last => ?_
      exact alike_emitOperation last annotations node location operator leftId rightId

theorem alike_optional (annotations : Annotations) (value : Option Expression)
    (mirrors : Emitter.Mirrors options full part) :
    Alike options (Expression.emitOptional annotations value) full part := by
  cases value with
  | none => exact alike_pure mirrors none
  | some expression =>
      refine (alike_expression annotations expression mirrors).bind fun id _ _ later => ?_
      exact alike_pure later (some id)

/-! ### Statements -/

theorem alike_defineCell (mirrors : Emitter.Mirrors options full part) (name : String)
    (type : ShaderType) (storage : StorageClass) :
    Alike options (defineCell name type storage) full part := by
  refine alike_inModule (fun _ _ => True) mirrors fun target => ?_
  refine (Build.alike_register type target).bind fun typeId _ _ later _ => ?_
  refine (Build.alike_defineValue later (fun _ => rfl) fun _ => rfl).bind ?_
  intro cell _ _ defined isValue
  refine (Build.alike_addName defined name isValue).bind fun _ _ _ named _ => ?_
  exact .pure named trivial

theorem alike_emit (mirrors : Emitter.Mirrors options full part) (instruction : Instruction)
    (kept : ∀ code, Instruction.isKept options code instruction = true)
    (unnamed : instruction.opcode ≠ .name)
    (noType : instruction.opcode.declaresType = false) :
    Alike options (inModule (Build.emit instruction)) full part :=
  alike_inModule (fun _ _ => True) mirrors fun target =>
    (Build.alike_emit target instruction kept unnamed noType).imp fun _ _ _ => trivial

theorem alike_storeOptional (mirrors : Emitter.Mirrors options full part) (cell : ResultId)
    (value : Option ResultId) :
    Alike options (storeOptional cell value) full part := by
  cases value with
  | none => exact alike_pure mirrors ()
  | some id => exact alike_emit mirrors _ (fun _ => rfl) nofun rfl

theorem alike_assigned (target : Expression) (mirrors : Emitter.Mirrors options full part) :
    Alike options target.assigned full part := by
  have fromBinding : ∀ (name : String) (binding : Option Binding),
      Alike options (Binding.assigned name binding) full part := by
    intro name binding
    unfold Binding.assigned
    split
    · exact alike_pure mirrors _
    all_goals exact .error
  cases mirrors with
  | mk functions mirrored =>
      cases target with
      | identifier node location name => exact fromBinding name _
      | stream node location name => exact fromBinding name _
      | literal node location value => exact .error
      | binary node location operator left right => exact .error

theorem alike_declaration (mirrors : Emitter.Mirrors options full part)
    (annotations : Annotations) (node : NodeId) (name : String) (value : Option Expression) :
    Alike options (emitDeclaration annotations node name value) full part := by
  refine (alike_require mirrors annotations node .localVariable name).bind fun type _ _ typed => ?_
  refine (alike_optional annotations value typed).bind fun valueId _ _ valued => ?_
  refine (alike_defineCell valued name type .function).bind fun cell _ _ defined => ?_
  refine (alike_storeOptional defined cell valueId).bind fun _ _ _ stored => ?_
  exact alike_bindLocal stored name (.cell cell type)

theorem alike_emitReturn (mirrors : Emitter.Mirrors options full part) (value : Option ResultId) :
    Alike options (emitReturn value) full part := by
  refine (alike_requireState mirrors .blockOpen .exit).bind fun function left right checked => ?_
  have returns : Alike options (inModule (Build.emit (returnInstruction value))) left right := by
    cases value with
    | none => exact alike_emit checked _ (fun _ => rfl) nofun rfl
    | some id => exact alike_emit checked _ (fun _ => rfl) nofun rfl
  refine returns.bind fun _ _ _ emitted => ?_
  exact alike_updateFunctions emitted _

mutual

theorem alike_statement (annotations : Annotations) : ∀ (statement : Statement)
    {full part : Emitter}, Emitter.Mirrors options full part →
      Alike options (statement.emit annotations) full part
  | .declare node location written name value, _, _, mirrors =>
      alike_declaration mirrors annotations node name value
  | .assign location target value, _, _, mirrors => by
      refine (alike_expression annotations value mirrors).bind fun valueId _ _ valued => ?_
      refine (alike_assigned target valued).bind fun cell _ _ found => ?_
      exact alike_emit found _ (fun _ => rfl) nofun rfl
  | .evaluate value, _, _, mirrors => by
      refine (alike_expression annotations value mirrors).bind fun _ _ _ valued => ?_
      exact alike_pure valued ()
  | .exit location value, _, _, mirrors => by
      refine (alike_optional annotations value mirrors).bind fun valueId _ _ valued => ?_
      exact alike_emitReturn valued valueId
  | .block location body, _, _, mirrors =>
      alike_inScope mirrors fun opened => alike_statements annotations body opened

/-- Statements are emitted alike. -/
theorem alike_statements (annotations : Annotations) : ∀ (body : List Statement)
    {full part : Emitter}, Emitter.Mirrors options full part →
      Alike options (Statement.emitAll annotations body) full part
  | [], _, _, mirrors => alike_pure mirrors ()
  | statement :: rest, _, _, .mk functions target => by
      unfold Alike Statement.emitAll
      rw [Run.run_get_bind, Run.run_get_bind]
      dsimp only
      split
      · exact alike_pure (.mk functions target) ()
      · refine (alike_statement annotations statement (.mk functions target)).bind ?_
        intro _ _ _ later
        exact alike_statements annotations rest later

end

/-! ### Elements -/

theorem alike_emitEntryPoint {full part : ModuleBuilder} (mirrors : full.Mirrors options part)
    {function : ResultId} (name : String) (entryPoint : Option EntryPoint)
    (isValue : full.IsValueId function) :
    Build.Alike options (fun _ after => after.IsValueId function)
      (emitEntryPoint function name entryPoint) full part := by
  cases entryPoint with
  | none => exact .pure mirrors isValue
  | some stage =>
      have enters := Build.alike_emit mirrors
        (.entryPoint stage.executionModel function name) (fun _ => rfl) nofun rfl
      refine enters.imp fun _ after same => ?_
      rw [same]
      exact isValue.append _ rfl

theorem alike_startFunction {full part : ModuleBuilder} (mirrors : full.Mirrors options part)
    (name : String) (signature : Signature) (entryPoint : Option EntryPoint) :
    Build.Alike options (fun _ _ => True) (startFunction name signature entryPoint) full part := by
  refine (Build.alike_register signature.type mirrors).bind fun functionType _ _ typed _ => ?_
  refine (Build.alike_register signature.returned typed).bind fun returned _ _ ready _ => ?_
  refine (Build.alike_freshId ready).bind fun id _ _ fresh isFresh => ?_
  refine (alike_emitEntryPoint fresh name entryPoint isFresh).bind ?_
  intro _ left right entered isValue
  have starts := Build.alike_emit entered (.function id returned .none functionType)
    (fun _ => rfl) nofun rfl
  refine starts.bind fun _ _ _ started same => ?_
  subst same
  refine (Build.alike_addName started name (isValue.append _ rfl)).bind fun _ _ _ named _ => ?_
  exact .pure named trivial

theorem alike_createFunction (mirrors : Emitter.Mirrors options full part) (name : String)
    (signature : Signature) (entryPoint : Option EntryPoint) :
    Alike options (createFunction name signature entryPoint) full part := by
  cases mirrors with
  | mk functions target =>
      unfold Alike createFunction
      rw [Run.run_get_bind, Run.run_get_bind]
      dsimp only
      split
      · exact .error
      · have starts := alike_inModule _ (Emitter.Mirrors.mk functions target) fun mirrored =>
          alike_startFunction mirrored name signature entryPoint
        refine starts.bind fun id _ _ started => ?_
        refine (alike_updateFunctions started _).bind fun _ _ _ pushed => ?_
        refine (alike_updateFunctions pushed _).bind fun _ _ _ opened => ?_
        exact alike_pure opened id

theorem alike_parameter (annotations : Annotations) (parameter : Parameter)
    (mirrors : Emitter.Mirrors options full part) :
    Alike options (parameter.emit annotations) full part := by
  refine (alike_require mirrors annotations parameter.node .parameter parameter.name).bind ?_
  intro type left right typed
  have emits : ∀ {full part : ModuleBuilder}, full.Mirrors options part →
      Build.Alike options (fun _ _ => True) (emitParameter parameter.name type) full part := by
    intro full part target
    refine (Build.alike_register type target).bind fun typeId _ _ later _ => ?_
    refine (Build.alike_defineValue later (fun _ => rfl) fun _ => rfl).bind ?_
    intro id _ _ defined isValue
    refine (Build.alike_addName defined parameter.name isValue).bind fun _ _ _ named _ => ?_
    exact .pure named trivial
  have adds : Alike options (addParameter parameter.name type) left right := by
    refine (alike_requireState typed .declared .addParameter).bind fun _ _ _ checked => ?_
    refine (alike_inModule _ checked emits).bind fun id _ _ emitted => ?_
    refine (alike_bindLocal emitted parameter.name (.value id type)).bind fun _ _ _ bound => ?_
    exact alike_pure bound id
  refine adds.bind fun _ _ _ added => ?_
  exact alike_pure added ()

theorem alike_body (annotations : Annotations) (body : Option (List Statement))
    (mirrors : Emitter.Mirrors options full part) :
    Alike options (Method.emitBody annotations body) full part := by
  cases body with
  | none => exact alike_pure mirrors ()
  | some body =>
      have opens : Alike options createBlock full part := by
        refine (alike_requireState mirrors .declared .openBlock).bind fun function _ _ checked => ?_
        have labelDefines : ∀ id, (Instruction.label id).result? = some id := fun _ => rfl
        have labels := alike_inModule _ checked fun target =>
          Build.alike_define target labelDefines
        refine labels.bind fun label _ _ labelled => ?_
        refine (alike_updateFunctions labelled _).bind fun _ _ _ opened => ?_
        exact alike_pure opened label
      refine opens.bind fun _ _ _ opened => ?_
      exact alike_statements annotations body opened

theorem alike_closeBlock (mirrors : Emitter.Mirrors options full part) (function : OpenFunction) :
    Alike options (closeBlock function) full part := by
  unfold closeBlock
  split
  · exact alike_pure mirrors ()
  · split
    · exact alike_emit mirrors _ (fun _ => rfl) nofun rfl
    · exact .error

theorem alike_endFunction (mirrors : Emitter.Mirrors options full part) :
    Alike options endFunction full part := by
  cases mirrors with
  | mk functions target =>
      unfold Alike endFunction
      rw [Run.run_get_bind, Run.run_get_bind]
      dsimp only
      split
      · exact .error
      · next function _ =>
          refine (alike_updateFunctions (.mk functions target) _).bind fun _ _ _ left => ?_
          refine (alike_closeBlock left function).bind fun _ _ _ closed => ?_
          refine Alike.bind (alike_emit closed .functionEnd (fun _ => rfl) nofun rfl) ?_
          intro _ _ _ ended
          refine (alike_updateFunctions ended _).bind fun _ _ _ recorded => ?_
          exact alike_pure recorded _

theorem alike_method (annotations : Annotations) (method : Method)
    (mirrors : Emitter.Mirrors options full part) :
    Alike options (method.emit annotations) full part := by
  have checks : Alike options (method.checkedInfo annotations) full part := by
    unfold Method.checkedInfo
    split
    · split
      · exact alike_pure mirrors _
      · exact .error
    · exact .error
  refine checks.bind fun info left right checked => ?_
  have signs : Alike options (method.signature annotations) left right := by
    unfold Method.signature
    split
    · exact alike_pure checked _
    all_goals exact .error
  refine signs.bind fun signature _ _ signed => ?_
  refine (alike_createFunction signed method.name signature info.entryPoint).bind ?_
  intro _ _ _ created
  refine (Run.Agrees.forM created fun parameter _ _ mirrored =>
    alike_parameter annotations parameter mirrored).bind fun _ _ _ parameters _ => ?_
  refine (alike_body annotations method.body parameters).bind fun _ _ _ finished => ?_
  refine (alike_endFunction finished).bind fun _ _ _ ended => ?_
  exact alike_pure ended ()

theorem alike_generic (annotations : Annotations) (generic : Generic)
    (mirrors : Emitter.Mirrors options full part) :
    Alike options (generic.emit annotations) full part := by
  refine (alike_require mirrors annotations generic.node .generic generic.name).bind ?_
  intro type _ _ typed
  exact alike_bindMember typed generic.name (.generic type)

theorem alike_struct (annotations : Annotations) (struct : Struct)
    (mirrors : Emitter.Mirrors options full part) :
    Alike options (struct.emit annotations) full part := by
  refine (alike_require mirrors annotations struct.node .struct struct.name).bind ?_
  intro type _ _ typed
  refine (alike_inModule _ typed fun target => Build.alike_register type target).bind ?_
  intro _ _ _ registered
  exact alike_pure registered ()

theorem alike_addOptionalSemantic {full part : ModuleBuilder} (mirrors : full.Mirrors options part)
    {id : ResultId} (semantic : Option String)
    (isValue : full.IsValueId id) :
    Build.Alike options (fun _ after => after.IsValueId id) (addOptionalSemantic id semantic)
      full part := by
  cases semantic with
  | none => exact .pure mirrors isValue
  | some text => exact Build.alike_addSemantic mirrors text isValue

theorem alike_member (annotations : Annotations) (member : Member)
    (mirrors : Emitter.Mirrors options full part) :
    Alike options (member.emit annotations) full part := by
  refine (alike_require mirrors annotations member.node .member member.name).bind ?_
  intro type left right typed
  refine Alike.bind (alike_inModule (fun _ _ => True) typed fun target => ?_) ?_
  · refine (Build.alike_register type target).bind fun typeId _ _ later _ => ?_
    refine (Build.alike_defineValue later (fun _ => rfl) fun _ => rfl).bind ?_
    intro cell _ _ defined isValue
    refine (alike_addOptionalSemantic defined member.semantic isValue).bind ?_
    intro _ _ _ marked stillValue
    refine (Build.alike_addName marked member.name stillValue).bind fun _ _ _ named _ => ?_
    exact .pure named trivial
  · intro cell _ _ defined
    refine (alike_optional annotations member.value defined).bind fun valueId _ _ valued => ?_
    refine (alike_storeOptional valued cell valueId).bind fun _ _ _ stored => ?_
    exact alike_bindMember stored member.name (.cell cell type)

theorem alike_sampler (annotations : Annotations) (sampler : Sampler)
    (mirrors : Emitter.Mirrors options full part) :
    Alike options (sampler.emit annotations) full part := by
  refine (alike_require mirrors annotations sampler.node .sampler sampler.name).bind ?_
  intro type _ _ typed
  refine (alike_defineCell typed sampler.name type .uniformConstant).bind fun cell _ _ defined => ?_
  exact alike_bindMember defined sampler.name (.cell cell type)

/-- A shader is emitted alike with every name and under options. -/
theorem alike_shader (annotations : Annotations) (shader : Shader)
    (mirrors : Emitter.Mirrors options full part) :
    Alike options (shader.emit annotations) full part := by
  refine (Run.Agrees.forM mirrors fun generic _ _ mirrored =>
    alike_generic annotations generic mirrored).bind fun _ _ _ generics _ => ?_
  refine (Run.Agrees.forM generics fun struct _ _ mirrored =>
    alike_struct annotations struct mirrored).bind fun _ _ _ structs _ => ?_
  refine (Run.Agrees.forM structs fun member _ _ mirrored =>
    alike_member annotations member mirrored).bind fun _ _ _ members _ => ?_
  refine (Run.Agrees.forM members fun sampler _ _ mirrored =>
    alike_sampler annotations sampler mirrored).bind fun _ _ _ samplers _ => ?_
  exact Run.Agrees.forM samplers fun method _ _ mirrored =>
    alike_method annotations method mirrored

end Emit

/-! ## Compilation -/

/-- A compilation under options gives what the compilation with every name gives, without the names
that the options leave out. -/
theorem Shader.compile_eq_restrict (shader : Shader) (options : CompileOptions) :
    shader.compile options =
      (shader.compile .allNames).map (CompiledShader.restrict options) := by
  by_cases clean : shader.analyse.2 = []
  · have start : Emitter.Mirrors options (.initial .allNames) (.initial options) :=
      .mk .initial (ModuleBuilder.mirrors_initial options)
    rw [Shader.compile_of_clean clean, Shader.compile_of_clean clean]
    rcases (Emit.alike_shader shader.analyse.1.annotations shader start).outcomes with
      ⟨_, _, _, fullOk, partOk, states, -⟩ | ⟨fault, _, _, fullFails, partFails⟩
    · rw [fullOk, partOk]
      cases states with
      | mk functions target =>
          change Except.ok (CompiledShader.mk ⟨_, _⟩ functions.finished) = Except.ok _
          rw [target.bound, target.code]
          rfl
    · rw [fullFails, partFails]
      rfl
  · rw [Shader.compile_of_reports clean, Shader.compile_of_reports clean]
    rfl

end ShaderLang
