import ShaderLang.Proofs.EmissionTraces

/-!
# Emission stays in range

The types and constants that a module declares are those that are registered, and emission registers
what annotations, literals and bound variables give it.  If these are in range, then so is all that
is registered at the end, and the members that are named are counted in a word.
-/

namespace ShaderLang

/-! ## The code of a builder -/

namespace ModuleBuilder

variable {limit : Nat} {builder before after : ModuleBuilder} {id : ResultId}

/-- An id is that of a registered type or constant. -/
def IsRegistered (builder : ModuleBuilder) (id : ResultId) : Prop :=
  (∃ type, builder.typeId? type = some id) ∨
    ∃ scalar value, builder.constantId? scalar value = some id

theorem IsRegistered.grow (registered : before.IsRegistered id)
    (grows : before.Grows after) :
    after.IsRegistered id := by
  rcases registered with ⟨type, typed⟩ | ⟨scalar, value, known⟩
  · exact .inl ⟨type, grows.types type id typed⟩
  · exact .inr ⟨scalar, value, grows.constants scalar value id known⟩

/-- Every declared type or constant is registered, and members are counted in a word. -/
structure Accounted (builder : ModuleBuilder) : Prop where
  declarations : ∀ instruction ∈ builder.code, instruction.isDeclaration = true →
    ∀ id ∈ instruction.result?, builder.IsRegistered id
  indices : ∀ type index text, .memberName type index text ∈ builder.code → index ≤ 4294967295

theorem Accounted.extend (accounted : before.Accounted) {new : List Instruction}
    (grows : before.Grows after)
    (code : after.code = before.code ++ new)
    (declarations : ∀ instruction ∈ new, instruction.isDeclaration = true →
      ∀ id ∈ instruction.result?, after.IsRegistered id)
    (indices : ∀ type index text, .memberName type index text ∈ new → index ≤ 4294967295) :
    after.Accounted := by
  constructor
  · intro instruction member declares id defines
    rw [code] at member
    rcases List.mem_append.mp member with older | newer
    · exact (accounted.declarations instruction older declares id defines).grow grows
    · exact declarations instruction newer declares id defines
  · intro type index text member
    rw [code] at member
    rcases List.mem_append.mp member with older | newer
    · exact accounted.indices type index text older
    · exact indices type index text newer

theorem index_le_of_mem_memberNames {options : CompileOptions} {named : ShaderType}
    {type : ResultId} {index : Nat} {text : String}
    (member : .memberName type index text ∈ memberNames options id named) :
    index ≤ 4294967295 := by
  unfold memberNames at member
  split at member
  · split at member
    · obtain ⟨position, inside, same⟩ := List.mem_mapIdx.mp member
      have wrapped : position % 4294967296 = index := (Instruction.memberName.inj same).2.1
      omega
    · exact absurd member List.not_mem_nil
  · exact absurd member List.not_mem_nil

theorem Declaration.accounted (declaration : Declaration limit before after)
    (accounted : before.Accounted) :
    after.Accounted := by
  have grows := declaration.grows
  cases declaration with
  | @type type form light unregistered written =>
      refine accounted.extend grows (code_declared before type form) ?_ ?_
      · intro instruction member _ id defines
        rw [List.mem_cons, List.mem_append] at member
        rcases member with rfl | named | named
        · have sameId : before.bound = id :=
            Option.some.inj ((written.result? before.bound).symm.trans defines)
          refine .inl ⟨type, ?_⟩
          rw [typeId?_declared, if_pos rfl, sameId]
        · obtain ⟨_, _, rfl⟩ := mem_memberNames named
          cases defines
        · obtain rfl := mem_typeNames named
          cases defines
      · intro target index text member
        rw [List.mem_cons, List.mem_append] at member
        rcases member with same | named | named
        · have noResult := written.result? before.bound
          rw [← same] at noResult
          cases noResult
        · exact index_le_of_mem_memberNames named
        · cases mem_typeNames named
  | comparison light unregistered plain =>
      exact accounted.extend grows (List.append_nil _).symm (by simp) (by simp)
  | @constant scalar value type unregistered valued typed =>
      have defines := Build.result?_constantDeclaration scalar value type before.bound
      refine accounted.extend grows rfl ?_ ?_
      · intro instruction member _ id result
        rw [List.mem_singleton.mp member] at result
        have sameId : before.bound = id := Option.some.inj (defines.symm.trans result)
        refine .inr ⟨scalar, value, ?_⟩
        rw [constantId?_withConstant, if_pos rfl, sameId]
      · intro target index text member
        rw [← List.mem_singleton.mp member] at defines
        cases defines

theorem Reaches.accounted (reaches : Reaches limit before after)
    (accounted : before.Accounted) :
    after.Accounted := by
  induction reaches with
  | refl => exact accounted
  | tail _ declaration inductionHypothesis => exact declaration.accounted inductionHypothesis

/-! ## Steps that stay in range -/

/-- A builder whose registries are in range and account for its declarations. -/
structure Bounded (builder : ModuleBuilder) : Prop where
  registries : builder.InRange ShaderType.isRepresentable []
  code : builder.Accounted

theorem bounded_initial (options : CompileOptions) : (initial options).Bounded where
  registries := inRange_initial _ options
  code := ⟨List.forall_mem_nil _, by simp [initial]⟩

theorem EmissionStep.accounted {test : ShaderType → Bool} (step : EmissionStep test before after)
    (accounted : before.Accounted) :
    after.Accounted := by
  cases step with
  | register passed registers => exact (Build.register_reaches _ registers).1.accounted accounted
  | literal isExact registers =>
      exact (Build.registerConstant_reaches registers).1.accounted accounted
  | write writes =>
      obtain ⟨new, extension, labels⟩ := writes.code
      refine accounted.extend extension.grows extension.code ?_ ?_
      · intro instruction member declares id defines
        obtain ⟨labelled, -, -, label⟩ := labels instruction member declares
        cases label <;> cases defines
      · intro type index text member
        obtain ⟨labelled, -, -, label⟩ := labels _ member rfl
        cases label

theorem Bounded.step (bounded : before.Bounded)
    (step : EmissionStep ShaderType.isRepresentable before after) :
    after.Bounded where
  registries := step.inRange ShaderType.isRepresentable_suitsRegistration bounded.registries
  code := step.accounted bounded.code

end ModuleBuilder

/-! ## Shaders -/

/-- An emitter whose module is in range, and whose variables have representable types. -/
structure Emitter.Bounded (emitter : Emitter) : Prop where
  target : emitter.target.Bounded
  cells : emitter.functions.names.CellsPass ShaderType.isRepresentable

/-- A clean analysis is emitted in range. -/
theorem Shader.bounded_of_clean {shader : Shader} {options : CompileOptions} {emitter : Emitter}
    (clean : shader.analyse.2 = [])
    (run : (shader.emit shader.analyse.1.annotations).run (.initial options) = .ok () emitter) :
    emitter.Bounded := by
  have traces := Shader.traces_of_clean (ShaderType.isRepresentable_suitsAnalysis _ _) clean run
  refine ⟨?_, traces.cells⟩
  exact traces.trace.invariant ModuleBuilder.Bounded (ModuleBuilder.bounded_initial options)
    fun _ _ step bounded => bounded.step step

end ShaderLang
