import ShaderLang.Proofs.Registration

/-!
# The invariant of module builders

The ids of a builder's instructions are handed out densely, and its registries tell the truth about
its instructions: the id of a registered type or constant is defined by the instruction that
declares it.  Builders only grow, and every step of building keeps the invariant.
-/

namespace ShaderLang

/-! ## The instruction that defines an id -/

namespace Instruction

/-- The first instruction that defines an id. -/
def definition? (code : List Instruction) (id : ResultId) : Option Instruction :=
  code.find? fun instruction => instruction.result? == some id

variable {code : List Instruction} {id : ResultId} {definition : Instruction}

theorem result?_of_definition? (defined : definition? code id = some definition) :
    definition.result? = some id := by
  simpa using List.find?_some defined

theorem mem_of_definition? (defined : definition? code id = some definition) :
    definition ∈ code :=
  List.mem_of_find?_eq_some defined

theorem definition?_append (defined : definition? code id = some definition)
    (more : List Instruction) :
    definition? (code ++ more) id = some definition := by
  unfold definition? at defined ⊢
  rw [List.find?_append, defined]
  rfl

theorem definition?_of_isPrefix {whole : List Instruction}
    (starts : code <+: whole)
    (defined : definition? code id = some definition) :
    definition? whole id = some definition := by
  obtain ⟨more, rfl⟩ := starts
  exact definition?_append defined more

theorem definition?_append_new {new : Instruction}
    (fresh : ∀ instruction ∈ code, instruction.result? ≠ some id)
    (defines : new.result? = some id) :
    definition? (code ++ [new]) id = some new := by
  have earlier : code.find? (fun instruction => instruction.result? == some id) = none := by
    rw [List.find?_eq_none]
    intro instruction member
    simpa using fresh instruction member
  unfold definition?
  rw [List.find?_append, earlier]
  simp [defines]

/-- Whether an instruction declares a type or a constant or gives a name. -/
def isDeclaration : Instruction → Bool
  | name .. | memberName .. | semantic .. => true
  | typeVoid _ | typeBool _ | typeInt .. | typeFloat .. | typeVector .. | typeMatrix .. => true
  | typeArray .. | typePointer .. | typeStruct .. | typeFunction .. | typeImage .. => true
  | typeSampler _ | constant .. | constantTrue .. | constantFalse .. => true
  | _ => false

end Instruction

namespace Build

@[simp]
theorem result?_scalarDeclaration (result : ResultId) (scalar : ScalarType) :
    (scalarDeclaration result scalar).result? = some result := by
  cases scalar <;> rfl

theorem isDeclaration_scalarDeclaration (result : ResultId) (scalar : ScalarType) :
    (scalarDeclaration result scalar).isDeclaration = true := by
  cases scalar <;> rfl

@[simp]
theorem result?_constantDeclaration (scalar : ScalarType) (value : Constant)
    (type result : ResultId) :
    (constantDeclaration scalar value type result).result? = some result := by
  unfold constantDeclaration
  split
  · split <;> rfl
  · rfl

theorem isDeclaration_constantDeclaration (scalar : ScalarType) (value : Constant)
    (type result : ResultId) :
    (constantDeclaration scalar value type result).isDeclaration = true := by
  unfold constantDeclaration
  split
  · split <;> rfl
  · rfl

end Build

namespace ModuleBuilder

variable {limit : Nat} {builder before middle after : ModuleBuilder}

theorem TypeForm.result? {type : ShaderType} {form : ResultId → Instruction}
    (written : builder.TypeForm type form) (id : ResultId) :
    (form id).result? = some id := by
  cases written with
  | scalar scalar => exact Build.result?_scalarDeclaration id scalar
  | _ => rfl

theorem TypeForm.isDeclaration {type : ShaderType} {form : ResultId → Instruction}
    (written : builder.TypeForm type form) (id : ResultId) :
    (form id).isDeclaration = true := by
  cases written with
  | scalar scalar => exact Build.isDeclaration_scalarDeclaration id scalar
  | _ => rfl

/-! ## Growth -/

/-- A builder that goes on from another: instructions are added behind, and the registries keep
their entries. -/
structure Grows (before after : ModuleBuilder) : Prop where
  code : before.code <+: after.code
  types : ∀ type id, before.typeId? type = some id → after.typeId? type = some id
  constants : ∀ scalar value id,
    before.constantId? scalar value = some id → after.constantId? scalar value = some id
  bound : before.bound ≤ after.bound

namespace Grows

theorem refl (builder : ModuleBuilder) : builder.Grows builder :=
  ⟨List.prefix_refl _, fun _ _ registered => registered, fun _ _ _ registered => registered,
    Nat.le_refl _⟩

theorem trans (first : before.Grows middle) (second : middle.Grows after) :
    before.Grows after where
  code := first.code.trans second.code
  types type id registered := second.types type id (first.types type id registered)
  constants scalar value id registered :=
    second.constants scalar value id (first.constants scalar value id registered)
  bound := Nat.le_trans first.bound second.bound

/-- Instructions alone let a builder grow. -/
theorem of_code
    (code : before.code <+: after.code)
    (sameTypes : after.types = before.types)
    (sameConstants : after.constants = before.constants)
    (bound : before.bound ≤ after.bound) :
    before.Grows after where
  code := code
  types type id registered := by
    unfold typeId?
    rw [sameTypes]
    exact registered
  constants scalar value id registered := by
    unfold constantId?
    rw [sameConstants]
    exact registered
  bound := bound

theorem defined (builder : ModuleBuilder) (instruction : ResultId → Instruction) :
    builder.Grows (builder.defined instruction) :=
  of_code (List.prefix_append _ _) rfl rfl (Nat.le_succ _)

theorem append (builder : ModuleBuilder) (instruction : Instruction) :
    builder.Grows (builder.append instruction) :=
  of_code (List.prefix_append _ _) rfl rfl (Nat.le_refl _)

theorem addName (builder : ModuleBuilder) (id : ResultId) (name : String) :
    builder.Grows (builder.addName id name) := by
  unfold ModuleBuilder.addName
  split
  · exact of_code (List.prefix_append _ _) rfl rfl (Nat.le_refl _)
  · exact of_code (List.prefix_refl _) rfl rfl (Nat.le_refl _)

theorem addSemantic (builder : ModuleBuilder) (id : ResultId) (semantic : String) :
    builder.Grows (builder.addSemantic id semantic) :=
  of_code (List.prefix_append _ _) rfl rfl (Nat.le_refl _)

end Grows

/-- The name that a newly declared type gets. -/
def typeNames (options : CompileOptions) (id : ResultId) (type : ShaderType) : List Instruction :=
  if options.typeNames then [.name id type.canonicalId] else []

theorem code_declared (builder : ModuleBuilder) (type : ShaderType)
    (form : ResultId → Instruction) :
    (builder.declared type form).code =
      builder.code ++ form builder.bound ::
        (memberNames builder.options builder.bound type ++
          typeNames builder.options builder.bound type) := by
  unfold declared addDeclaredType typeNames
  change (if builder.options.typeNames then _ else _ : ModuleBuilder).code = _
  split
  · simp [append, recordName, addType, defined]
  · simp [addType, defined]

theorem bound_declared (builder : ModuleBuilder) (type : ShaderType)
    (form : ResultId → Instruction) :
    (builder.declared type form).bound = builder.bound + 1 := by
  unfold declared addDeclaredType
  split <;> rfl

theorem mem_memberNames {options : CompileOptions} {id : ResultId} {type : ShaderType}
    {instruction : Instruction}
    (member : instruction ∈ memberNames options id type) :
    ∃ index text, instruction = .memberName id index text := by
  unfold memberNames at member
  split at member
  · split at member
    · obtain ⟨index, inside, same⟩ := List.mem_mapIdx.mp member
      exact ⟨_, _, same.symm⟩
    · simp at member
  · simp at member

theorem mem_typeNames {options : CompileOptions} {id : ResultId} {type : ShaderType}
    {instruction : Instruction}
    (member : instruction ∈ typeNames options id type) :
    instruction = .name id type.canonicalId := by
  unfold typeNames at member
  split at member
  · exact List.mem_singleton.mp member
  · exact absurd member List.not_mem_nil

/-- What a declaration adds behind the instructions. -/
theorem Declaration.appends (declaration : Declaration limit before after) :
    ∃ new, after.code = before.code ++ new ∧
      ∀ instruction ∈ new, instruction.isDeclaration = true := by
  cases declaration with
  | @type type form light unregistered written =>
      refine ⟨_, code_declared before type form, ?_⟩
      intro instruction member
      rw [List.mem_cons, List.mem_append] at member
      rcases member with rfl | named | named
      · exact written.isDeclaration _
      · obtain ⟨_, _, rfl⟩ := mem_memberNames named
        rfl
      · obtain rfl := mem_typeNames named
        rfl
  | comparison light unregistered plain =>
      exact ⟨[], (List.append_nil _).symm, by simp⟩
  | @constant scalar value type unregistered valued typed =>
      refine ⟨[_], rfl, ?_⟩
      intro instruction member
      rw [List.mem_singleton.mp member]
      exact Build.isDeclaration_constantDeclaration _ _ _ _

theorem Declaration.bound_le (declaration : Declaration limit before after) :
    before.bound ≤ after.bound := by
  cases declaration with
  | @type type form light unregistered written =>
      rw [bound_declared]
      exact Nat.le_succ _
  | comparison light unregistered plain => exact Nat.le_refl _
  | constant unregistered valued typed => exact Nat.le_succ _

theorem Declaration.grows (declaration : Declaration limit before after) :
    before.Grows after where
  code := by
    obtain ⟨new, code, -⟩ := declaration.appends
    rw [code]
    exact List.prefix_append _ _
  types _ _ registered := declaration.typeId?_eq_some registered
  constants _ _ _ registered := declaration.constantId?_eq_some registered
  bound := declaration.bound_le

theorem Reaches.grows (reaches : Reaches limit before after) : before.Grows after := by
  induction reaches with
  | refl => exact .refl _
  | tail _ declaration inductionHypothesis => exact inductionHypothesis.trans declaration.grows

theorem Reaches.appends (reaches : Reaches limit before after) :
    ∃ new, after.code = before.code ++ new ∧
      ∀ instruction ∈ new, instruction.isDeclaration = true := by
  induction reaches with
  | refl => exact ⟨[], (List.append_nil _).symm, by simp⟩
  | tail _ declaration inductionHypothesis =>
      obtain ⟨first, firstCode, firstDeclares⟩ := inductionHypothesis
      obtain ⟨second, secondCode, secondDeclares⟩ := declaration.appends
      refine ⟨first ++ second, by rw [secondCode, firstCode, List.append_assoc], ?_⟩
      intro instruction member
      rcases List.mem_append.mp member with inFirst | inSecond
      · exact firstDeclares instruction inFirst
      · exact secondDeclares instruction inSecond

/-! ## The invariant -/

theorem TypeForm.grow {type : ShaderType} {form : ResultId → Instruction}
    (written : before.TypeForm type form)
    (grows : before.Grows after) :
    after.TypeForm type form := by
  cases written with
  | scalar scalar => exact .scalar scalar
  | vector componentId => exact .vector (grows.types _ _ componentId)
  | matrix columnId => exact .matrix (grows.types _ _ columnId)
  | array elementId lengthId =>
      exact .array (grows.types _ _ elementId) (grows.constants _ _ _ lengthId)
  | pointer pointeeId => exact .pointer (grows.types _ _ pointeeId)
  | struct memberIds => exact .struct (memberIds.imp fun _ _ => grows.types _ _)
  | function returnedType parameterTypes =>
      exact .function (grows.types _ _ returnedType)
        (parameterTypes.imp fun _ _ => grows.types _ _)
  | sampler => exact .sampler
  | image isImage sampledId => exact .image isImage (grows.types _ _ sampledId)

/-- The id of a type is defined by the instruction that declares the type.  The comparison sampler
type shares the id of the plain one. -/
def Declares (builder : ModuleBuilder) (type : ShaderType) (id : ResultId) : Prop :=
  (∃ form, builder.TypeForm type form ∧
    Instruction.definition? builder.code id = some (form id)) ∨
  (type = .comparisonSampler ∧ builder.typeId? .sampler = some id)

theorem Declares.grow {type : ShaderType} {id : ResultId}
    (declares : before.Declares type id)
    (grows : before.Grows after) :
    after.Declares type id := by
  rcases declares with ⟨form, written, defined⟩ | ⟨comparison, plain⟩
  · exact .inl ⟨form, written.grow grows, Instruction.definition?_of_isPrefix grows.code defined⟩
  · exact .inr ⟨comparison, grows.types _ _ plain⟩

/-- Ids are handed out densely from the first one, and the registries tell the truth. -/
structure WellFormed (builder : ModuleBuilder) : Prop where
  positive : 0 < builder.bound
  dense : builder.code.filterMap Instruction.result? = List.range' firstId (builder.bound - 1)
  types : ∀ type id, builder.typeId? type = some id → builder.Declares type id
  constants : ∀ scalar value id, builder.constantId? scalar value = some id →
    ∃ type, builder.typeId? (.scalar scalar) = some type ∧
      Instruction.definition? builder.code id =
        some (Build.constantDeclaration scalar value type id)

theorem wellFormed_initial (options : CompileOptions) : (initial options).WellFormed where
  positive := Nat.zero_lt_one
  dense := rfl
  types type id registered := by simp [initial, typeId?] at registered
  constants scalar value id registered := by simp [initial, constantId?] at registered

namespace WellFormed

/-- Every id that an instruction defines has been handed out. -/
theorem result_bounds (wellFormed : builder.WellFormed) {instruction : Instruction}
    {id : ResultId}
    (member : instruction ∈ builder.code)
    (defines : instruction.result? = some id) :
    firstId ≤ id ∧ id < builder.bound := by
  have listed : id ∈ builder.code.filterMap Instruction.result? :=
    List.mem_filterMap.mpr ⟨instruction, member, defines⟩
  rw [wellFormed.dense, List.mem_range'_1] at listed
  have positive := wellFormed.positive
  unfold firstId at listed ⊢
  unfold ResultId at *
  omega

theorem definition_bounds (wellFormed : builder.WellFormed) {definition : Instruction}
    {id : ResultId}
    (defined : Instruction.definition? builder.code id = some definition) :
    firstId ≤ id ∧ id < builder.bound :=
  wellFormed.result_bounds (Instruction.mem_of_definition? defined)
    (Instruction.result?_of_definition? defined)

/-- The next id is not defined yet. -/
theorem fresh (wellFormed : builder.WellFormed) :
    ∀ instruction ∈ builder.code, instruction.result? ≠ some builder.bound := by
  intro instruction member defines
  exact Nat.lt_irrefl _ (wellFormed.result_bounds member defines).2

theorem nodup_results (wellFormed : builder.WellFormed) :
    (builder.code.filterMap Instruction.result?).Nodup := by
  rw [wellFormed.dense]
  exact List.nodup_range'

/-- Instructions that keep the ids dense keep the invariant. -/
theorem extend (wellFormed : before.WellFormed)
    (grows : before.Grows after)
    (sameTypes : after.types = before.types)
    (sameConstants : after.constants = before.constants)
    (dense : after.code.filterMap Instruction.result? =
      List.range' firstId (after.bound - 1)) :
    after.WellFormed where
  positive := Nat.lt_of_lt_of_le wellFormed.positive grows.bound
  dense := dense
  types type id registered := by
    unfold typeId? at registered
    rw [sameTypes] at registered
    exact (wellFormed.types type id registered).grow grows
  constants scalar value id registered := by
    unfold constantId? at registered
    rw [sameConstants] at registered
    obtain ⟨type, typed, defined⟩ := wellFormed.constants scalar value id registered
    exact ⟨type, grows.types _ _ typed, Instruction.definition?_of_isPrefix grows.code defined⟩

/-- Density after one more id. -/
theorem dense_succ (wellFormed : builder.WellFormed) {new : List Instruction}
    (defines : new.filterMap Instruction.result? = [builder.bound]) :
    (builder.code ++ new).filterMap Instruction.result? =
      List.range' firstId (builder.bound + 1 - 1) := by
  have length : builder.bound + 1 - 1 = builder.bound - 1 + 1 :=
    (Nat.sub_add_cancel wellFormed.positive).symm
  have last : builder.bound = firstId + (builder.bound - 1) :=
    (Nat.add_sub_cancel' wellFormed.positive).symm
  rw [List.filterMap_append, wellFormed.dense, defines, length, List.range'_1_concat, ← last]

/-- Density after instructions that define nothing. -/
theorem dense_same (wellFormed : builder.WellFormed) {new : List Instruction}
    (defines : new.filterMap Instruction.result? = []) :
    (builder.code ++ new).filterMap Instruction.result? =
      List.range' firstId (builder.bound - 1) := by
  rw [List.filterMap_append, wellFormed.dense, defines, List.append_nil]

theorem defined (wellFormed : builder.WellFormed) {instruction : ResultId → Instruction}
    (defines : (instruction builder.bound).result? = some builder.bound) :
    (builder.defined instruction).WellFormed :=
  wellFormed.extend (.defined builder instruction) rfl rfl
    (wellFormed.dense_succ (by simp [defines]))

theorem append (wellFormed : builder.WellFormed) {instruction : Instruction}
    (defines : instruction.result? = none) :
    (builder.append instruction).WellFormed :=
  wellFormed.extend (.append builder instruction) rfl rfl
    (wellFormed.dense_same (by simp [defines]))

theorem addName (wellFormed : builder.WellFormed) (id : ResultId) (name : String) :
    (builder.addName id name).WellFormed := by
  refine wellFormed.extend (.addName builder id name) ?_ ?_ ?_
  · unfold ModuleBuilder.addName
    split <;> rfl
  · unfold ModuleBuilder.addName
    split <;> rfl
  · unfold ModuleBuilder.addName
    split
    · exact wellFormed.dense_same rfl
    · exact wellFormed.dense

theorem addSemantic (wellFormed : builder.WellFormed) (id : ResultId) (semantic : String) :
    (builder.addSemantic id semantic).WellFormed :=
  wellFormed.extend (.addSemantic builder id semantic) rfl rfl (wellFormed.dense_same rfl)

theorem definition?_defined (wellFormed : builder.WellFormed)
    {instruction : ResultId → Instruction}
    (defines : (instruction builder.bound).result? = some builder.bound) :
    Instruction.definition? (builder.defined instruction).code builder.bound =
      some (instruction builder.bound) :=
  Instruction.definition?_append_new wellFormed.fresh defines

end WellFormed

theorem results_names {options : CompileOptions} {id : ResultId} {type : ShaderType} :
    (memberNames options id type ++ typeNames options id type).filterMap Instruction.result? =
      [] := by
  rw [List.filterMap_eq_nil_iff]
  intro instruction member
  rcases List.mem_append.mp member with named | named
  · obtain ⟨_, _, rfl⟩ := mem_memberNames named
    rfl
  · obtain rfl := mem_typeNames named
    rfl

theorem definition?_declared {type : ShaderType} {form : ResultId → Instruction}
    (wellFormed : builder.WellFormed)
    (written : builder.TypeForm type form) :
    Instruction.definition? (builder.declared type form).code builder.bound =
      some (form builder.bound) := by
  have declares : (form builder.bound).result? = some builder.bound := written.result? _
  rw [code_declared, List.append_cons]
  exact Instruction.definition?_append
    (Instruction.definition?_append_new wellFormed.fresh declares) _

theorem WellFormed.declared {type : ShaderType} {form : ResultId → Instruction}
    (wellFormed : builder.WellFormed)
    (unregistered : builder.typeId? type = none)
    (written : builder.TypeForm type form) :
    (builder.declared type form).WellFormed := by
  have grows : builder.Grows (builder.declared type form) :=
    (Declaration.type (Nat.le_refl _) unregistered written).grows
  refine ⟨Nat.lt_of_lt_of_le wellFormed.positive grows.bound, ?_, ?_, ?_⟩
  · rw [code_declared, bound_declared]
    refine wellFormed.dense_succ ?_
    rw [List.filterMap_cons_some (written.result? _), results_names]
  · intro asked id registered
    rw [typeId?_declared] at registered
    split at registered
    · next same =>
        cases same
        cases registered
        exact .inl ⟨form, written.grow grows, definition?_declared wellFormed written⟩
    · exact (wellFormed.types asked id registered).grow grows
  · intro scalar value id registered
    unfold constantId? at registered
    rw [constants_declared] at registered
    obtain ⟨scalarType, typed, defined⟩ := wellFormed.constants scalar value id registered
    exact ⟨scalarType, grows.types _ _ typed,
      Instruction.definition?_of_isPrefix grows.code defined⟩

theorem WellFormed.addComparison {id : ResultId}
    (wellFormed : builder.WellFormed)
    (unregistered : builder.typeId? .comparisonSampler = none)
    (plain : builder.typeId? .sampler = some id) :
    (builder.addType .comparisonSampler id).WellFormed := by
  have grows : builder.Grows (builder.addType .comparisonSampler id) :=
    (Declaration.comparison (Nat.le_refl _) unregistered plain).grows
  refine ⟨wellFormed.positive, wellFormed.dense, ?_, ?_⟩
  · intro asked askedId registered
    rw [typeId?_addType] at registered
    split at registered
    · next same =>
        cases registered
        exact .inr ⟨same, grows.types _ _ plain⟩
    · exact (wellFormed.types asked askedId registered).grow grows
  · intro scalar value constantId registered
    obtain ⟨scalarType, typed, defined⟩ := wellFormed.constants scalar value constantId registered
    exact ⟨scalarType, grows.types _ _ typed, defined⟩

theorem WellFormed.withConstant {scalar : ScalarType} {value : Constant} {type : ResultId}
    (wellFormed : builder.WellFormed)
    (unregistered : builder.constantId? scalar value = none)
    (valued : scalar ≠ .void)
    (typed : builder.typeId? (.scalar scalar) = some type) :
    (builder.withConstant scalar value type).WellFormed := by
  have grows : builder.Grows (builder.withConstant scalar value type) :=
    (@Declaration.constant 0 _ _ _ _ unregistered valued typed).grows
  have declares := Build.result?_constantDeclaration scalar value type builder.bound
  refine ⟨Nat.lt_of_lt_of_le wellFormed.positive grows.bound, ?_, ?_, ?_⟩
  · exact (wellFormed.defined declares).dense
  · intro asked id registered
    exact (wellFormed.types asked id registered).grow grows
  · intro askedScalar asked id registered
    rw [constantId?_withConstant] at registered
    split at registered
    · next same =>
        obtain ⟨rfl, rfl⟩ := Prod.mk.inj same
        cases registered
        exact ⟨type, typed, wellFormed.definition?_defined declares⟩
    · obtain ⟨scalarType, scalarTyped, defined⟩ :=
        wellFormed.constants askedScalar asked id registered
      exact ⟨scalarType, scalarTyped, Instruction.definition?_of_isPrefix grows.code defined⟩

theorem Declaration.wellFormed (declaration : Declaration limit before after)
    (wellFormed : before.WellFormed) :
    after.WellFormed := by
  cases declaration with
  | type light unregistered written => exact wellFormed.declared unregistered written
  | comparison light unregistered plain => exact wellFormed.addComparison unregistered plain
  | constant unregistered valued typed =>
      exact wellFormed.withConstant unregistered valued typed

theorem Reaches.wellFormed (reaches : Reaches limit before after)
    (wellFormed : before.WellFormed) :
    after.WellFormed := by
  induction reaches with
  | refl => exact wellFormed
  | tail _ declaration inductionHypothesis => exact declaration.wellFormed inductionHypothesis

end ModuleBuilder

end ShaderLang
