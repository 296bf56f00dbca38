import ShaderLang.Proofs.BuilderInvariant

/-!
# The ids of registered types

A declaration registers one type with an id that no other type has.  The comparison sampler type is
the only exception: it takes the id of the plain one.  Code that is emitted between declarations
registers nothing, and so two registered types share an id only if they are the same type or the two
sampler types.
-/

namespace ShaderLang

/-- Whether a type is one of the two sampler types, which share one declaration. -/
def ShaderType.isSampler : ShaderType → Bool
  | .sampler | .comparisonSampler => true
  | _ => false

namespace ModuleBuilder

variable {limit : Nat} {before middle after builder : ModuleBuilder}

/-! ## Code between declarations -/

/-- The instruction that names an id, if debug names are emitted. -/
def nameCode (options : CompileOptions) (id : ResultId) (name : String) : List Instruction :=
  if options.debugNames then [.name id name] else []

@[simp]
theorem results_nameCode (options : CompileOptions) (id : ResultId) (name : String) :
    (nameCode options id name).filterMap Instruction.result? = [] := by
  unfold nameCode
  split <;> rfl

@[simp]
theorem code_addName (builder : ModuleBuilder) (id : ResultId) (name : String) :
    (builder.addName id name).code = builder.code ++ nameCode builder.options id name := by
  unfold addName nameCode
  split
  · rfl
  · exact (List.append_nil _).symm

@[simp]
theorem options_addName (builder : ModuleBuilder) (id : ResultId) (name : String) :
    (builder.addName id name).options = builder.options := by
  unfold addName
  split <;> rfl

@[simp]
theorem bound_addName (builder : ModuleBuilder) (id : ResultId) (name : String) :
    (builder.addName id name).bound = builder.bound := by
  unfold addName
  split <;> rfl

@[simp]
theorem types_addName (builder : ModuleBuilder) (id : ResultId) (name : String) :
    (builder.addName id name).types = builder.types := by
  unfold addName
  split <;> rfl

@[simp]
theorem constants_addName (builder : ModuleBuilder) (id : ResultId) (name : String) :
    (builder.addName id name).constants = builder.constants := by
  unfold addName
  split <;> rfl

/-- A builder goes on to another one with new code, and registers nothing.  The ids that the new
code defines are new and in order. -/
structure Extends (before : ModuleBuilder) (new : List Instruction) (after : ModuleBuilder) :
    Prop where
  types : after.types = before.types
  constants : after.constants = before.constants
  bound : before.bound ≤ after.bound
  code : after.code = before.code ++ new
  increasing : (new.filterMap Instruction.result?).Pairwise (· < ·)
  fresh : ∀ id ∈ new.filterMap Instruction.result?, before.bound ≤ id ∧ id < after.bound

namespace Extends

variable {new : List Instruction}

theorem typeId? (extension : before.Extends new after) (type : ShaderType) :
    after.typeId? type = before.typeId? type := by
  unfold ModuleBuilder.typeId?
  rw [extension.types]

theorem constantId? (extension : before.Extends new after) (scalar : ScalarType)
    (value : Constant) :
    after.constantId? scalar value = before.constantId? scalar value := by
  unfold ModuleBuilder.constantId?
  rw [extension.constants]

theorem grows (extension : before.Extends new after) : before.Grows after := by
  refine .of_code ?_ extension.types extension.constants extension.bound
  rw [extension.code]
  exact List.prefix_append _ _

/-- Code that defines no id. -/
theorem of_plain
    (types : after.types = before.types)
    (constants : after.constants = before.constants)
    (bound : before.bound ≤ after.bound)
    (code : after.code = before.code ++ new)
    (plain : new.filterMap Instruction.result? = []) :
    before.Extends new after := by
  refine ⟨types, constants, bound, code, ?_, ?_⟩
  · rw [plain]
    exact .nil
  · rw [plain]
    exact List.forall_mem_nil _

/-- Code that defines the next id. -/
theorem of_definition
    (types : after.types = before.types)
    (constants : after.constants = before.constants)
    (bound : after.bound = before.bound + 1)
    (code : after.code = before.code ++ new)
    (defines : new.filterMap Instruction.result? = [before.bound]) :
    before.Extends new after := by
  have below : before.bound < after.bound := by
    rw [bound]
    exact Nat.lt_succ_self _
  refine ⟨types, constants, Nat.le_of_lt below, code, ?_, ?_⟩
  · rw [defines]
    exact List.pairwise_singleton _ _
  · rw [defines]
    exact List.forall_mem_singleton.mpr ⟨Nat.le_refl _, below⟩

theorem refl (builder : ModuleBuilder) : builder.Extends [] builder :=
  of_plain rfl rfl (Nat.le_refl _) (List.append_nil _).symm rfl

theorem trans {more : List Instruction} (first : before.Extends new middle)
    (second : middle.Extends more after) :
    before.Extends (new ++ more) after where
  types := second.types.trans first.types
  constants := second.constants.trans first.constants
  bound := Nat.le_trans first.bound second.bound
  code := by rw [second.code, first.code, List.append_assoc]
  increasing := by
    rw [List.filterMap_append]
    refine List.pairwise_append.mpr ⟨first.increasing, second.increasing, ?_⟩
    intro earlier inFirst later inSecond
    exact Nat.lt_of_lt_of_le (first.fresh earlier inFirst).2 (second.fresh later inSecond).1
  fresh id defined := by
    rw [List.filterMap_append] at defined
    rcases List.mem_append.mp defined with inFirst | inSecond
    · obtain ⟨isNew, allocated⟩ := first.fresh id inFirst
      exact ⟨isNew, Nat.lt_of_lt_of_le allocated second.bound⟩
    · obtain ⟨isNew, allocated⟩ := second.fresh id inSecond
      exact ⟨Nat.le_trans first.bound isNew, allocated⟩

theorem addName (builder : ModuleBuilder) (id : ResultId) (name : String) :
    builder.Extends (nameCode builder.options id name) (builder.addName id name) :=
  of_plain (types_addName _ _ _) (constants_addName _ _ _) (Nat.le_of_eq (bound_addName _ _ _).symm)
    (code_addName _ _ _) (results_nameCode _ _ _)

theorem addSemantic (builder : ModuleBuilder) (id : ResultId) (semantic : String) :
    builder.Extends [.semantic id semantic] (builder.addSemantic id semantic) :=
  of_plain rfl rfl (Nat.le_refl _) rfl rfl

end Extends

/-! ## One id for each type -/

/-- Registered types have ids that have been handed out, and two of them share an id only if they
are sampler types, which share it always. -/
structure Identifies (builder : ModuleBuilder) : Prop where
  allocated : ∀ type id, builder.typeId? type = some id → id < builder.bound
  distinct : ∀ first second id, builder.typeId? first = some id →
    builder.typeId? second = some id →
      first = second ∨ first.isSampler = true ∧ second.isSampler = true
  comparison : ∀ id, builder.typeId? .comparisonSampler = some id →
    builder.typeId? .sampler = some id

theorem identifies_initial (options : CompileOptions) : (initial options).Identifies := by
  constructor <;> simp [initial, typeId?]

theorem Identifies.extend {new : List Instruction} (identifies : before.Identifies)
    (extension : before.Extends new after) :
    after.Identifies := by
  constructor
  · intro type id registered
    rw [extension.typeId?] at registered
    exact Nat.lt_of_lt_of_le (identifies.allocated type id registered) extension.bound
  · intro first second id firstId secondId
    rw [extension.typeId?] at firstId secondId
    exact identifies.distinct first second id firstId secondId
  · intro id registered
    rw [extension.typeId?] at registered ⊢
    exact identifies.comparison id registered

/-- Every sampler type has the id of the plain one. -/
theorem Identifies.sampler_eq (identifies : builder.Identifies) {type : ShaderType}
    {id : ResultId}
    (isSampler : type.isSampler = true)
    (registered : builder.typeId? type = some id) :
    builder.typeId? .sampler = some id := by
  cases type with
  | sampler => exact registered
  | comparisonSampler => exact identifies.comparison id registered
  | _ => cases isSampler

/-- An id that is not the one of the sampler types belongs to one type. -/
theorem Identifies.type_eq (identifies : builder.Identifies) {first second : ShaderType}
    {id : ResultId}
    (plain : builder.typeId? .sampler ≠ some id)
    (firstId : builder.typeId? first = some id)
    (secondId : builder.typeId? second = some id) :
    first = second := by
  rcases identifies.distinct first second id firstId secondId with same | ⟨isSampler, -⟩
  · exact same
  · exact absurd (identifies.sampler_eq isSampler firstId) plain

/-- The id of a type that is no sampler type belongs to that type only. -/
theorem Identifies.type_eq_of_plain (identifies : builder.Identifies) {first second : ShaderType}
    {id : ResultId}
    (plain : first.isSampler = false)
    (firstId : builder.typeId? first = some id)
    (secondId : builder.typeId? second = some id) :
    first = second := by
  rcases identifies.distinct first second id firstId secondId with same | ⟨isSampler, -⟩
  · exact same
  · rw [plain] at isSampler
    cases isSampler

theorem TypeForm.ne_comparisonSampler {type : ShaderType} {form : ResultId → Instruction}
    (written : builder.TypeForm type form) :
    type ≠ .comparisonSampler := by
  rintro rfl
  cases written with
  | image isImage sampledId => cases isImage

/-- A newly declared type has an id of its own. -/
theorem Identifies.declared (identifies : builder.Identifies) {type : ShaderType}
    {form : ResultId → Instruction}
    (unregistered : builder.typeId? type = none)
    (written : builder.TypeForm type form) :
    (builder.declared type form).Identifies := by
  have older : ∀ asked id, asked ≠ type →
      (builder.declared type form).typeId? asked = some id → builder.typeId? asked = some id := by
    intro asked id different registered
    rwa [typeId?_declared, if_neg different] at registered
  have own : ∀ id, (builder.declared type form).typeId? type = some id → id = builder.bound := by
    intro id registered
    rw [typeId?_declared, if_pos rfl] at registered
    exact (Option.some.inj registered).symm
  have notOlder : ∀ asked, builder.typeId? asked ≠ some builder.bound := by
    intro asked registered
    exact Nat.lt_irrefl _ (identifies.allocated asked _ registered)
  constructor
  · intro asked id registered
    rw [bound_declared]
    by_cases same : asked = type
    · rw [own id (same ▸ registered)]
      exact Nat.lt_succ_self _
    · exact Nat.lt_succ_of_lt (identifies.allocated asked id (older asked id same registered))
  · intro first second id firstId secondId
    by_cases isFirst : first = type
    · by_cases isSecond : second = type
      · exact .inl (isFirst.trans isSecond.symm)
      · rw [own id (isFirst ▸ firstId)] at secondId
        exact absurd (older second _ isSecond secondId) (notOlder second)
    · by_cases isSecond : second = type
      · rw [own id (isSecond ▸ secondId)] at firstId
        exact absurd (older first _ isFirst firstId) (notOlder first)
      · exact identifies.distinct first second id (older first id isFirst firstId)
          (older second id isSecond secondId)
  · intro id registered
    have earlier := older _ id written.ne_comparisonSampler.symm registered
    have plain := identifies.comparison id earlier
    rw [typeId?_declared, if_neg, plain]
    rintro rfl
    rw [unregistered] at plain
    cases plain

theorem Identifies.addComparison (identifies : builder.Identifies) {id : ResultId}
    (plain : builder.typeId? .sampler = some id) :
    (builder.addType .comparisonSampler id).Identifies := by
  have plainAfter : (builder.addType .comparisonSampler id).typeId? .sampler = some id := by
    rw [typeId?_addType, if_neg (by simp), plain]
  -- Every other type with this id is the plain sampler type.
  have sharing : ∀ asked askedId, asked ≠ .comparisonSampler → askedId = id →
      builder.typeId? asked = some askedId → asked.isSampler = true := by
    rintro asked askedId different rfl registered
    rcases identifies.distinct asked .sampler askedId registered plain with rfl | ⟨isSampler, -⟩
    · rfl
    · exact isSampler
  constructor
  · intro asked askedId registered
    rw [typeId?_addType] at registered
    split at registered
    · cases registered
      exact identifies.allocated .sampler id plain
    · exact identifies.allocated asked askedId registered
  · intro first second askedId firstId secondId
    rw [typeId?_addType] at firstId secondId
    split at firstId
    · next isFirst =>
        split at secondId
        · next isSecond => exact .inl (isFirst.trans isSecond.symm)
        · next isSecond =>
            rw [isFirst]
            exact .inr
              ⟨rfl, sharing second askedId isSecond (Option.some.inj firstId).symm secondId⟩
    · next isFirst =>
        split at secondId
        · next isSecond =>
            rw [isSecond]
            exact .inr ⟨sharing first askedId isFirst (Option.some.inj secondId).symm firstId, rfl⟩
        · exact identifies.distinct first second askedId firstId secondId
  · intro askedId registered
    rw [typeId?_addType, if_pos rfl] at registered
    rw [← registered]
    exact plainAfter

theorem Declaration.identifies (declaration : Declaration limit before after)
    (identifies : before.Identifies) :
    after.Identifies := by
  cases declaration with
  | type light unregistered written => exact identifies.declared unregistered written
  | comparison light unregistered plain => exact identifies.addComparison plain
  | constant unregistered valued typed =>
      exact ⟨fun type id registered => Nat.lt_succ_of_lt (identifies.allocated type id registered),
        identifies.distinct, identifies.comparison⟩

theorem Reaches.identifies (reaches : Reaches limit before after)
    (identifies : before.Identifies) :
    after.Identifies := by
  induction reaches with
  | refl => exact identifies
  | tail _ declaration inductionHypothesis => exact declaration.identifies inductionHypothesis

end ModuleBuilder

end ShaderLang
