import ShaderLang.Proofs.EmissionProgress

/-!
# When compilation succeeds

A shader without reports is well typed, so its emission can only stop at a restriction.  The
restrictions are found by the scoping of names alone, and so the outcome of a compilation is known
without emitting anything.
-/

namespace ShaderLang

/-! ## Methods -/

/-- An emitter between two elements of a shader, with the given names of the shader bound. -/
structure Emitter.AtShader (emitter : Emitter) (referents : List (String × Referent))
    (roles : List (String × Role)) : Prop where
  closed : emitter.functions.current = none
  scopes : emitter.functions.scopes = []
  binds : emitter.functions.Binds ⟨[], referents⟩ ⟨[], roles⟩
  positive : 0 < emitter.target.bound

section Methods

variable {table : SymbolTable} {shader : Shader} {method : Method} {emitter : Emitter}

open Run

theorem Emit.meets_createFunction {signature : Signature} {referents : List (String × Referent)}
    {roles : List (String × Role)} (name : String) (entryPoint : Option EntryPoint)
    (returnedEmittable : signature.returned.isEmittable = true)
    (parametersEmittable : ∀ type ∈ signature.parameters, type.isEmittable = true)
    (atShader : emitter.AtShader referents roles) :
    Meets [] (fun _ after =>
        after.Reached .declared signature.returned ⟨[[]], referents⟩ ⟨[[]], roles⟩)
      ((Emit.createFunction name signature entryPoint).run emitter) := by
  have typeEmittable : signature.type.isEmittable = true := by
    change (signature.returned.isEmittable && ShaderType.allEmittable signature.parameters) = true
    rw [returnedEmittable, ShaderType.allEmittable_iff.mpr parametersEmittable]
    rfl
  obtain ⟨functionType, first, typeOk⟩ :=
    Build.register_succeeds signature.type emitter.target typeEmittable
  obtain ⟨returned, second, returnedOk⟩ :=
    Build.register_succeeds signature.returned first returnedEmittable
  have bound : emitter.target.bound ≤ second.bound :=
    ((ModuleBuilder.Advances.register typeOk).trans (.register returnedOk)).grows.bound
  have positive : 0 < second.bound := Nat.lt_of_lt_of_le atShader.positive bound
  have starts := Emit.run_startFunction name entryPoint typeOk returnedOk positive
  have runs := Emit.run_createFunction atShader.closed starts
  refine .of_ok runs ⟨⟨⟨_, rfl, rfl, rfl, rfl⟩, ?_⟩, ?_, ?_⟩
  · exact Nat.lt_of_lt_of_le positive
      ((ModuleBuilder.grows_withFunction second name entryPoint returned functionType).trans
        (.addName _ _ _)).bound
  · exact ⟨atShader.binds.pushScope.referents, atShader.binds.pushScope.roles⟩
  · simp [FunctionBuilder.start, FunctionBuilder.pushScope]

theorem Parameter.meets_emit {parameter : Parameter} {returned : ShaderType}
    {names : NameTable Referent} {roles : NameTable Role}
    (annotated : table.annotations.type? parameter.node = some (parameter.type.denoted table))
    (emittable : (parameter.type.denoted table).isEmittable = true)
    (reached : emitter.Reached .declared returned names roles) :
    Meets [] (fun _ after => after.Reached .declared returned
        (names.bind parameter.name ⟨.parameter, parameter.type.denoted table⟩)
        (roles.bind parameter.name .parameter))
      ((parameter.emit table.annotations).run emitter) := by
  obtain ⟨function, opened, inState, -, -⟩ := reached.block.current
  have required := Emit.run_requireState opened .addParameter
  rw [inState] at required
  obtain ⟨typeId, target, registers⟩ :=
    Build.register_succeeds (parameter.type.denoted table) emitter.target emittable
  have bound := (ModuleBuilder.Advances.register registers).grows.bound
  have named := Build.run_addName (ModuleBuilder.isAllocated_defined
    (Nat.lt_of_lt_of_le reached.block.positive bound)
    fun result => .functionParameter result typeId) parameter.name
  have emits : (Emit.emitParameter parameter.name (parameter.type.denoted table)).run
      emitter.target = .ok target.bound (target.withParameter parameter.name typeId) := by
    unfold Emit.emitParameter
    rw [bind_of_ok registers, bind_of_ok (Build.run_define _ _), bind_of_ok named]
    rfl
  have continues : emitter.Continues
      ⟨target.withParameter parameter.name typeId, emitter.functions⟩ :=
    ⟨rfl, Nat.le_trans bound (ModuleBuilder.Advances.withParameter _ _ _).grows.bound⟩
  have next := (reached.continue continues).bindLocal parameter.name
    (.value : Binding.Denotes (.value target.bound (parameter.type.denoted table)) _) rfl
  have adds : (Emit.addParameter parameter.name (parameter.type.denoted table)).run emitter =
      .ok target.bound ⟨target.withParameter parameter.name typeId,
        emitter.functions.bindLocal parameter.name
          (.value target.bound (parameter.type.denoted table))⟩ := by
    unfold Emit.addParameter
    rw [bind_of_ok required, bind_of_ok (Emit.run_inModule_of_ok emits),
      bind_of_ok (Emit.run_bindLocal (reached.continue continues).opened _ _)]
    rfl
  unfold Parameter.emit
  rw [bind_of_ok (Annotations.run_require annotated _ _ _), bind_of_ok adds]
  exact .of_ok (run_pure () _) next

theorem Method.meets_parameters {returned : ShaderType} {referents : List (String × Referent)}
    {roles : List (String × Role)}
    (typed : ∀ parameter ∈ method.parameters,
      table.annotations.type? parameter.node = some (parameter.type.denoted table) ∧
        (parameter.type.denoted table).isEmittable = true)
    (reached : emitter.Reached .declared returned ⟨[[]], referents⟩ ⟨[[]], roles⟩) :
    Meets [] (fun _ after => after.Reached .declared returned
        ⟨[method.referents table], referents⟩
        ⟨[(method.parameters.map fun parameter => (parameter.name, Role.parameter)).reverse],
          roles⟩)
      ((method.parameters.forM fun parameter => parameter.emit table.annotations).run emitter) := by
  have passes : Meets (method.parameters.flatMap fun _ => [])
      (fun _ after => after.Reached .declared returned ⟨[method.referents table], referents⟩
        ⟨[(method.parameters.map fun parameter => (parameter.name, Role.parameter)).reverse],
          roles⟩)
      ((method.parameters.forM fun parameter => parameter.emit table.annotations).run
        emitter) := by
    refine Meets.forM _ (fun done (state : Emitter) => state.Reached .declared returned
      ⟨[(done.map (Parameter.referent table)).reverse], referents⟩
      ⟨[(done.map fun parameter => (parameter.name, Role.parameter)).reverse], roles⟩) reached ?_
    intro done parameter rest split state earlier
    obtain ⟨annotated, emittable⟩ := typed parameter (by simp [split])
    refine (Parameter.meets_emit annotated emittable earlier).imp fun _ after next => ?_
    simpa [NameTable.bind, Parameter.referent] using next
  have noFaults : method.parameters.flatMap (fun _ => ([] : List EmissionFault)) = [] := by simp
  rw [noFaults] at passes
  exact passes

theorem Emit.meets_createBlock {returned : ShaderType} {names : NameTable Referent}
    {roles : NameTable Role}
    (reached : emitter.Reached .declared returned names roles) :
    Meets [] (fun _ after => after.InBody returned names roles)
      (Emit.createBlock.run emitter) := by
  obtain ⟨function, opened, inState, isReturned, running⟩ := reached.block.current
  have required := Emit.run_requireState opened .openBlock
  rw [inState] at required
  have runs : Emit.createBlock.run emitter =
      .ok emitter.target.bound
        ⟨emitter.target.defined .label, emitter.functions.openBlock function⟩ := by
    unfold Emit.createBlock
    rw [bind_of_ok required, bind_of_ok (Emit.run_inModule_of_ok (Build.run_define _ _))]
    rfl
  exact .of_ok runs ⟨⟨⟨_, rfl, rfl, isReturned, running⟩, Nat.succ_pos _⟩,
    ⟨reached.binds.referents, reached.binds.roles⟩, reached.opened⟩

/-- The open function can be ended: its block, if it has one, ends in a return or can be given
one. -/
def Emitter.Closable (emitter : Emitter) : Prop :=
  0 < emitter.target.bound ∧ ∃ function, emitter.functions.current = some function ∧
    ((function.state ≠ .blockOpen ∨ function.terminated = true) ∨ function.returned.isVoid = true)

theorem Method.meets_emitBody
    (typed : method.Typed shader table)
    (reached : emitter.Reached .declared (method.returned.denoted table)
      (method.names shader table) (method.roles shader)) :
    Meets (method.faults shader) (fun _ after => after.Closable)
      ((Method.emitBody table.annotations method.body).run emitter) := by
  unfold Method.faults
  cases present : method.body with
  | none =>
      obtain ⟨function, opened, inState, -, -⟩ := reached.block.current
      refine .ok rfl ⟨reached.block.positive, function, opened, .inl (.inl ?_)⟩
      rw [inState]
      exact MethodState.noConfusion
  | some body =>
      obtain ⟨bodyTyped, returns⟩ := typed.body body present
      refine (Emit.meets_createBlock reached).after_ok fun _ inner inBody => ?_
      refine (Statement.meets_emitAll bodyTyped inBody).imp fun _ after ended => ?_
      obtain ⟨function, opened, inState, isReturned, flag⟩ := ended.current
      refine ⟨ended.positive, function, opened, ?_⟩
      rcases returns with isVoid | ends
      · rw [isReturned]
        exact .inr isVoid
      · rw [flag, Statement.anyStops_of_endsWithReturn body ends]
        exact .inl (.inr rfl)

theorem Emit.meets_endFunction (closable : emitter.Closable) :
    Meets [] (fun _ after => after.functions.current = none ∧ after.functions.scopes = [] ∧
        0 < after.target.bound)
      (Emit.endFunction.run emitter) := by
  obtain ⟨positive, function, opened, ends⟩ := closable
  have closes : (Emit.closeBlock function).run
      ⟨emitter.target, { emitter.functions with current := none }⟩ =
      .ok () ⟨emitter.target.closeBlock function,
        { emitter.functions with current := none }⟩ := by
    unfold Emit.closeBlock ModuleBuilder.closeBlock
    by_cases finished : function.state ≠ .blockOpen ∨ function.terminated
    · rw [if_pos finished, if_pos finished]
      rfl
    · rw [if_neg finished, if_neg finished, if_pos (ends.resolve_left finished)]
      rfl
  have runs : Emit.endFunction.run emitter =
      .ok ⟨function.name, function.id, function.entryPoint, .finalized⟩
        ⟨(emitter.target.closeBlock function).append .functionEnd,
          emitter.functions.finish function⟩ := by
    unfold Emit.endFunction
    rw [run_get_bind]
    simp only [opened]
    rw [bind_of_ok (Emit.run_updateFunctions _ _), bind_of_ok closes]
    rfl
  refine .of_ok runs ⟨rfl, rfl, ?_⟩
  exact Nat.lt_of_lt_of_le positive
    ((ModuleBuilder.Advances.closeBlock emitter.target function).grows.trans (.append _ _)).bound

/-- A well-typed method is emitted, unless a reached statement of its body has a fault. -/
theorem Method.meets_emit
    (typed : method.Typed shader table)
    (atShader : emitter.AtShader (shader.referents table) shader.roles) :
    Meets (method.faults shader)
      (fun _ after => after.AtShader (shader.referents table) shader.roles)
      ((method.emit table.annotations).run emitter) := by
  have checked : (method.checkedInfo table.annotations).run emitter =
      .ok ⟨EntryPoint.ofMethodName? method.name, .typeResolved⟩ emitter := by
    unfold Method.checkedInfo
    rw [typed.info]
    rfl
  have signed : (method.signature table.annotations).run emitter =
      .ok ⟨method.returned.denoted table,
        method.parameters.map fun parameter => parameter.type.denoted table⟩ emitter := by
    unfold Method.signature
    rw [typed.signature]
    rfl
  have parametersEmittable : ∀ type ∈
      method.parameters.map (fun parameter => parameter.type.denoted table),
      type.isEmittable = true := by
    intro type member
    obtain ⟨parameter, isParameter, rfl⟩ := List.mem_map.mp member
    exact (typed.parameters parameter isParameter).2
  have whole : Meets (method.faults shader) (fun _ after =>
      after.functions.current = none ∧ after.functions.scopes = [] ∧ 0 < after.target.bound)
      ((method.emit table.annotations).run emitter) := by
    unfold Method.emit
    rw [bind_of_ok checked, bind_of_ok signed]
    refine (Emit.meets_createFunction method.name _ typed.returned parametersEmittable
      atShader).after_ok fun _ started reached => ?_
    refine (Method.meets_parameters typed.parameters reached).after_ok fun _ inside ready => ?_
    refine (Method.meets_emitBody typed ready).then_ok fun _ last closable => ?_
    exact (Emit.meets_endFunction closable).then_ok fun _ after ended =>
      .of_ok (run_pure () after) ended
  refine whole.with_run.imp ?_
  rintro _ after ⟨⟨closed, scopes, positive⟩, runs⟩
  have sameNames := (Method.emits_of_emit runs).names atShader.scopes
  refine ⟨closed, scopes, ⟨?_, ?_⟩, positive⟩
  · rw [sameNames]
    exact atShader.binds.referents
  · rw [sameNames]
    exact atShader.binds.roles

end Methods

/-! ## Other elements and shaders -/

section Elements

variable {table : SymbolTable} {shader : Shader} {emitter : Emitter}
  {referents : List (String × Referent)} {roles : List (String × Role)}

open Run

/-- A name of the shader can be bound between two elements. -/
theorem Emitter.AtShader.bindMember (atShader : emitter.AtShader referents roles) (name : String)
    {binding : Binding} {referent : Referent} {role : Role} {target : ModuleBuilder}
    (denotes : binding.Denotes referent)
    (sameRole : binding.role = role)
    (bound : emitter.target.bound ≤ target.bound) :
    Emitter.AtShader ⟨target, emitter.functions.bindMember name binding⟩
      ((name, referent) :: referents) ((name, role) :: roles) where
  closed := atShader.closed
  scopes := atShader.scopes
  binds :=
    ⟨⟨atShader.binds.referents.scopes, .cons ⟨rfl, denotes⟩ atShader.binds.referents.shader⟩,
      ⟨atShader.binds.roles.scopes, .cons ⟨rfl, sameRole⟩ atShader.binds.roles.shader⟩⟩
  positive := Nat.lt_of_lt_of_le atShader.positive bound

theorem Emitter.AtShader.continue {after : Emitter} (atShader : emitter.AtShader referents roles)
    (continues : emitter.Continues after) :
    after.AtShader referents roles where
  closed := by
    rw [continues.functions]
    exact atShader.closed
  scopes := by
    rw [continues.functions]
    exact atShader.scopes
  binds := by
    rw [continues.functions]
    exact atShader.binds
  positive := Nat.lt_of_lt_of_le atShader.positive continues.bound

theorem Generic.meets_emit {generic : Generic}
    (annotated : table.annotations.type? generic.node = some (generic.type.denoted table))
    (atShader : emitter.AtShader referents roles) :
    Meets [] (fun _ after => after.AtShader (generic.referent table :: referents)
        ((generic.name, .generic) :: roles))
      ((generic.emit table.annotations).run emitter) := by
  unfold Generic.emit
  rw [bind_of_ok (Annotations.run_require annotated _ _ _)]
  exact .of_ok (Emit.run_bindMember _ _ _)
    (atShader.bindMember generic.name .generic rfl (Nat.le_refl _))

theorem Struct.meets_emit {struct : Struct} {type : ShaderType}
    (annotated : table.annotations.type? struct.node = some type)
    (emittable : type.isEmittable = true)
    (atShader : emitter.AtShader referents roles) :
    Meets [] (fun _ after => after.AtShader referents roles)
      ((struct.emit table.annotations).run emitter) := by
  obtain ⟨typeId, target, registers⟩ := Build.register_succeeds type emitter.target emittable
  unfold Struct.emit
  rw [bind_of_ok (Annotations.run_require annotated _ _ _),
    bind_of_ok (Emit.run_inModule_of_ok registers)]
  exact .of_ok (run_pure () _) (atShader.continue
    ⟨rfl, (ModuleBuilder.Advances.register registers).grows.bound⟩)

theorem Emit.run_addOptionalSemantic {builder : ModuleBuilder} {id : ResultId}
    (allocated : builder.isAllocated id = true) (semantic : Option String) :
    (Emit.addOptionalSemantic id semantic).run builder =
      .ok () (builder.addOptionalSemantic id semantic) := by
  cases semantic with
  | none => rfl
  | some text => exact Build.run_addSemantic allocated text

theorem Member.meets_emit {member : Member}
    (typed : member.Typed table)
    (atShader : emitter.AtShader referents roles) :
    Meets [] (fun _ after => after.AtShader (member.referent table :: referents)
        ((member.name, .variable) :: roles))
      ((member.emit table.annotations).run emitter) := by
  obtain ⟨typeId, first, registers⟩ :=
    Build.register_succeeds (member.type.denoted table) emitter.target typed.emittable
  have bound := (ModuleBuilder.Advances.register registers).grows.bound
  have allocated := ModuleBuilder.isAllocated_defined (Nat.lt_of_lt_of_le atShader.positive bound)
    fun result => .cell result typeId .function
  have marked := Emit.run_addOptionalSemantic allocated member.semantic
  have stillAllocated : ((first.defined fun result => .cell result typeId .function)
      |>.addOptionalSemantic first.bound member.semantic).isAllocated first.bound = true := by
    cases member.semantic with
    | none => exact allocated
    | some text => exact allocated
  have named := Build.run_addName stillAllocated member.name
  have builds : (do
      let typeId ← Build.register (member.type.denoted table)
      let cell ← Build.define fun result => .cell result typeId .function
      Emit.addOptionalSemantic cell member.semantic
      Build.addName cell member.name
      return cell : Build ResultId).run emitter.target =
      .ok first.bound (first.withMember member.name member.semantic typeId) := by
    rw [bind_of_ok registers, bind_of_ok (Build.run_define _ _), bind_of_ok marked,
      bind_of_ok named]
    rfl
  have continues : emitter.Continues
      ⟨first.withMember member.name member.semantic typeId, emitter.functions⟩ :=
    ⟨rfl, Nat.le_trans bound (ModuleBuilder.Advances.withMember _ _ _ _).grows.bound⟩
  have valueTyped : ∀ expression ∈ member.value, expression.HasType table.annotations
      ⟨[], referents⟩ (member.type.denoted table) := by
    intro expression present
    obtain ⟨node, location, literal, rfl, sameType⟩ := typed.value expression present
    rw [← sameType]
    exact .literal
  have noReads : Expression.optionalGenericReads ⟨[], roles⟩ member.value = [] := by
    cases present : member.value with
    | none => rfl
    | some expression =>
        obtain ⟨node, location, literal, rfl, -⟩ := typed.value expression present
        rfl
  have valueMeets := Expression.meets_emitOptional valueTyped (atShader.continue continues).binds
  rw [noReads] at valueMeets
  unfold Member.emit
  rw [bind_of_ok (Annotations.run_require typed.annotated _ _ _),
    bind_of_ok (Emit.run_inModule_of_ok builds)]
  refine valueMeets.then_ok fun valueId second secondContinues => ?_
  refine (Emit.meets_storeOptional first.bound valueId second).then_ok
    fun _ third thirdContinues => ?_
  have last := atShader.continue ((continues.trans secondContinues).trans thirdContinues)
  exact .of_ok (Emit.run_bindMember _ _ _)
    (last.bindMember member.name (.cell typed.emittable) rfl (Nat.le_refl _))

theorem Sampler.meets_emit {sampler : Sampler}
    (annotated : table.annotations.type? sampler.node = some sampler.kind.type)
    (atShader : emitter.AtShader referents roles) :
    Meets [] (fun _ after => after.AtShader (sampler.referent :: referents)
        ((sampler.name, .variable) :: roles))
      ((sampler.emit table.annotations).run emitter) := by
  have emittable : sampler.kind.type.isEmittable = true := by
    cases sampler.kind <;> rfl
  unfold Sampler.emit
  rw [bind_of_ok (Annotations.run_require annotated _ _ _)]
  refine (Emit.meets_defineCell sampler.name .uniformConstant emittable
    atShader.positive).then_ok fun cell after continues => ?_
  exact .of_ok (Emit.run_bindMember _ _ _)
    ((atShader.continue continues).bindMember sampler.name (.cell emittable) rfl (Nat.le_refl _))

/-- A pass over elements without faults. -/
theorem Run.Meets.forM_faultless {α : Type} {step : α → Emit PUnit} {items : List α}
    {before : Emitter} (invariant : List α → Emitter → Prop)
    (initially : invariant [] before)
    (meets : ∀ done item rest, items = done ++ item :: rest → ∀ state, invariant done state →
      Meets [] (fun _ after => invariant (done ++ [item]) after) ((step item).run state)) :
    Meets [] (fun _ after => invariant items after) ((items.forM step).run before) := by
  have passes := Meets.forM (fun _ => []) invariant initially meets
  have noFaults : items.flatMap (fun _ => ([] : List EmissionFault)) = [] := by simp
  rw [noFaults] at passes
  exact passes

/-- A well-typed shader is emitted, unless it has a fault. -/
theorem Shader.meets_emit
    (typed : shader.Typed table)
    (atShader : emitter.AtShader [] []) :
    Meets shader.faults (fun _ after => after.AtShader (shader.referents table) shader.roles)
      ((shader.emit table.annotations).run emitter) := by
  have generics : Meets [] (fun _ (after : Emitter) => after.AtShader
      (shader.generics.map (Generic.referent table)).reverse
      (shader.generics.map fun generic => (generic.name, Role.generic)).reverse)
      ((shader.generics.forM fun generic => generic.emit table.annotations).run emitter) := by
    refine Meets.forM_faultless (fun done state => state.AtShader
      (done.map (Generic.referent table)).reverse
      (done.map fun generic => (generic.name, Role.generic)).reverse) atShader ?_
    intro done generic rest split state earlier
    have next := Generic.meets_emit (typed.generics generic (by simp [split])) earlier
    simpa using next
  unfold Shader.emit
  refine generics.after_ok fun _ first afterGenerics => ?_
  have structs : Meets [] (fun _ (after : Emitter) => after.AtShader
      (shader.generics.map (Generic.referent table)).reverse
      (shader.generics.map fun generic => (generic.name, Role.generic)).reverse)
      ((shader.structs.forM fun struct => struct.emit table.annotations).run first) := by
    refine Meets.forM_faultless (fun _ state => state.AtShader _ _) afterGenerics ?_
    intro done struct rest split state earlier
    obtain ⟨type, annotated, emittable⟩ := typed.structs struct (by simp [split])
    exact Struct.meets_emit annotated emittable earlier
  refine structs.after_ok fun _ second afterStructs => ?_
  have members : Meets [] (fun _ (after : Emitter) => after.AtShader
      ((shader.members.map (Member.referent table)).reverse ++
        (shader.generics.map (Generic.referent table)).reverse)
      ((shader.members.map fun member => (member.name, Role.variable)).reverse ++
        (shader.generics.map fun generic => (generic.name, Role.generic)).reverse))
      ((shader.members.forM fun member => member.emit table.annotations).run second) := by
    refine Meets.forM_faultless (fun done state => state.AtShader
      ((done.map (Member.referent table)).reverse ++ _)
      ((done.map fun member => (member.name, Role.variable)).reverse ++ _)) afterStructs ?_
    intro done member rest split state earlier
    have next := Member.meets_emit (typed.members member (by simp [split])) earlier
    simpa using next
  refine members.after_ok fun _ third afterMembers => ?_
  have samplers : Meets [] (fun _ (after : Emitter) =>
      after.AtShader (shader.referents table) shader.roles)
      ((shader.samplers.forM fun sampler => sampler.emit table.annotations).run third) := by
    unfold Shader.referents Shader.roles
    rw [List.reverse_append, List.reverse_append, List.reverse_append, List.reverse_append]
    refine Meets.forM_faultless (fun done state => state.AtShader
      ((done.map Sampler.referent).reverse ++ _)
      ((done.map fun sampler => (sampler.name, Role.variable)).reverse ++ _)) afterMembers ?_
    intro done sampler rest split state earlier
    have next := Sampler.meets_emit (typed.samplers sampler (by simp [split])) earlier
    simpa using next
  refine samplers.after_ok fun _ fourth afterSamplers => ?_
  refine Meets.forM (fun method => Method.faults method shader)
    (fun _ (state : Emitter) => state.AtShader (shader.referents table) shader.roles)
    afterSamplers ?_
  intro done method rest split state earlier
  exact Method.meets_emit (typed.methods method (by simp [split])) earlier

end Elements

/-! ## Compilation -/

theorem Emitter.atShader_initial (options : CompileOptions) :
    (Emitter.initial options).AtShader [] [] :=
  ⟨rfl, rfl, ⟨⟨.nil, .nil⟩, ⟨.nil, .nil⟩⟩, Nat.zero_lt_one⟩

/-- A shader that is analysed without a report compiles exactly when it has no fault.  If it does
not compile, then the only error is its first fault: the read of a generic parameter, or an
assignment to a parameter or to a generic parameter, in a statement that is reached before the first
return. -/
theorem Shader.compile_of_clean_iff {shader : Shader}
    (distinct : shader.nodes.Nodup)
    (clean : shader.analyse.2 = [])
    (options : CompileOptions) :
    ((∃ compiled, shader.compile options = .ok compiled) ↔ shader.faults = []) ∧
    ∀ errors, shader.compile options = .error errors →
      ∃ fault rest, shader.faults = fault :: rest ∧ errors = [.emission fault] ∧
        fault.IsRestriction := by
  have meets := Shader.meets_emit (Shader.typed_of_clean distinct clean)
    (Emitter.atShader_initial options)
  rw [Shader.compile_of_clean clean]
  generalize (shader.emit shader.analyse.1.annotations).run (.initial options) = outcome at meets ⊢
  cases meets with
  | ok faultless holds => exact ⟨by simp [faultless], by simp⟩
  | @error fault rest state first =>
      refine ⟨by simp [first], fun errors failed => ⟨fault, rest, first, ?_, ?_⟩⟩
      · simpa using failed.symm
      · exact Shader.isRestriction_faults (by rw [first]; exact List.mem_cons_self)

/-- A shader that is analysed without a report and breaks two restrictions: it reads its generic
parameter, and behind that it assigns to the parameter of its method.  The assignment behind the
return is not reached. -/
def Shader.unspecialized : Shader where
  name := "Unspecialized"
  generics := [⟨0, .unknown, .integer, "Count", none, none⟩]
  elements := [
    .method ⟨1, .unknown, .integer, "Repeat", [⟨2, .integer, "step", none, none⟩],
      some [
        .block .unknown [
          .declare 3 .unknown .integer "total" (some (.binary 4 .unknown .mul
            (.identifier 5 .unknown "step") (.identifier 6 .unknown "Count"))),
          .assign .unknown (.identifier 7 .unknown "step") (.identifier 8 .unknown "total"),
          .exit .unknown (some (.identifier 9 .unknown "step"))],
        .assign .unknown (.identifier 10 .unknown "Count") (.literal 11 .unknown (.int 0)),
        .exit .unknown (some (.literal 12 .unknown (.int 1)))],
      none, none, []⟩]

theorem Shader.unspecialized_outcome :
    Shader.unspecialized.nodes.Nodup ∧
    Shader.unspecialized.analyse.2 = [] ∧
    Shader.unspecialized.faults = [.genericRead "Count", .parameterAssigned "step"] ∧
    ((∃ compiled, Shader.unspecialized.compile .allNames = .ok compiled) ↔
      Shader.unspecialized.faults = []) ∧
    ∀ errors, Shader.unspecialized.compile .allNames = .error errors →
      ∃ fault rest, Shader.unspecialized.faults = fault :: rest ∧ errors = [.emission fault] ∧
        fault.IsRestriction :=
  have distinct : Shader.unspecialized.nodes.Nodup := by decide +kernel
  have clean : Shader.unspecialized.analyse.2 = [] := by decide +kernel
  ⟨distinct, clean, by decide +kernel, Shader.compile_of_clean_iff distinct clean .allNames⟩

end ShaderLang
