import ShaderLang.Proofs.CanonicalIds
import ShaderLang.Proofs.DeclarationUniqueness

/-!
# The names of declared types

With type names switched on, every declared type is named by its canonical id and by nothing else:
all other names belong to ids that are defined in front of them and are not those of types.  So the
names of a compiled module tell its types apart as far as canonical ids do.
-/

namespace ShaderLang

/-- An instruction carries a name in a code. -/
def Instruction.HasName (code : List Instruction) (instruction : Instruction) (text : String) :
    Prop :=
  ∃ id, instruction.result? = some id ∧ .name id text ∈ code

namespace ModuleBuilder

variable {limit : Nat} {builder before after : ModuleBuilder} {test : ShaderType → Bool}

/-! ## Options -/

theorem options_declared (builder : ModuleBuilder) (type : ShaderType)
    (form : ResultId → Instruction) :
    (builder.declared type form).options = builder.options := by
  unfold declared addDeclaredType
  split <;> rfl

theorem Declaration.options (declaration : Declaration limit before after) :
    after.options = before.options := by
  cases declaration with
  | type light unregistered written => exact options_declared _ _ _
  | comparison light unregistered plain => rfl
  | constant unregistered valued typed => rfl

theorem Reaches.options (reaches : Reaches limit before after) :
    after.options = before.options := by
  induction reaches with
  | refl => rfl
  | tail _ declaration inductionHypothesis =>
      exact declaration.options.trans inductionHypothesis

theorem EmissionStep.options (step : EmissionStep test before after) :
    after.options = before.options := by
  cases step with
  | register passed registers => exact (Build.register_reaches _ registers).1.options
  | literal isExact registers => exact (Build.registerConstant_reaches registers).1.options
  | write writes => exact writes.options

/-! ## Names of types -/

/-- The registered types are named by their canonical ids.  The comparison sampler type goes by the
name of the plain one. -/
structure NamesTypes (builder : ModuleBuilder) : Prop where
  named : builder.options.typeNames = true → ∀ type id, builder.typeId? type = some id →
    type ≠ .comparisonSampler → .name id type.canonicalId ∈ builder.code
  only : ∀ type id text, builder.typeId? type = some id → type ≠ .comparisonSampler →
    .name id text ∈ builder.code → text = type.canonicalId
  allocated : ∀ id text, .name id text ∈ builder.code → id < builder.bound

theorem namesTypes_initial (options : CompileOptions) : (initial options).NamesTypes := by
  constructor <;> simp [initial, typeId?]

/-- Code that names new ids only, and no registered type. -/
theorem NamesTypes.extend (names : before.NamesTypes) (identifies : before.Identifies)
    {new : List Instruction}
    (sameTypes : ∀ type, type ≠ .comparisonSampler → after.typeId? type = before.typeId? type)
    (options : after.options = before.options)
    (bound : before.bound ≤ after.bound)
    (code : after.code = before.code ++ new)
    (fresh : ∀ id text, .name id text ∈ new → before.bound ≤ id ∧ id < after.bound) :
    after.NamesTypes where
  named typeNames type id registered plain := by
    rw [options] at typeNames
    rw [sameTypes type plain] at registered
    rw [code]
    exact List.mem_append_left _ (names.named typeNames type id registered plain)
  only type id text registered plain member := by
    rw [sameTypes type plain] at registered
    rw [code] at member
    rcases List.mem_append.mp member with older | newer
    · exact names.only type id text registered plain older
    · have isNew := (fresh id text newer).1
      exact absurd (identifies.allocated type id registered) (Nat.not_lt.mpr isNew)
  allocated id text member := by
    rw [code] at member
    rcases List.mem_append.mp member with older | newer
    · exact Nat.lt_of_lt_of_le (names.allocated id text older) bound
    · exact (fresh id text newer).2

/-- The only name behind the declaration of a type is that of the type. -/
theorem name_of_mem_declaration {type : ShaderType} {form : ResultId → Instruction}
    (written : builder.TypeForm type form) {options : CompileOptions} {declared id : ResultId}
    {text : String}
    (member : .name id text ∈ form declared ::
      (memberNames options declared type ++ typeNames options declared type)) :
    id = declared ∧ text = type.canonicalId := by
  rw [List.mem_cons, List.mem_append] at member
  rcases member with isDeclaration | inMembers | inTypes
  · have defines := written.result? declared
    rw [← isDeclaration] at defines
    cases defines
  · obtain ⟨_, _, impossible⟩ := mem_memberNames inMembers
    cases impossible
  · cases mem_typeNames inTypes
    exact ⟨rfl, rfl⟩

theorem NamesTypes.declared (names : builder.NamesTypes) (identifies : builder.Identifies)
    {type : ShaderType} {form : ResultId → Instruction}
    (written : builder.TypeForm type form) :
    (builder.declared type form).NamesTypes where
  named switchedOn asked id registered plain := by
    rw [options_declared] at switchedOn
    rw [typeId?_declared] at registered
    rw [code_declared]
    split at registered
    · next same =>
        cases registered
        have isName : .name builder.bound asked.canonicalId ∈
            typeNames builder.options builder.bound type := by
          unfold typeNames
          rw [if_pos switchedOn, same]
          exact List.mem_singleton_self _
        exact List.mem_append_right _ (List.mem_cons_of_mem _ (List.mem_append_right _ isName))
    · exact List.mem_append_left _ (names.named switchedOn asked id registered plain)
  only asked id text registered plain member := by
    rw [typeId?_declared] at registered
    rw [code_declared] at member
    rcases List.mem_append.mp member with older | newer
    · split at registered
      · cases registered
        exact absurd (names.allocated _ text older) (Nat.lt_irrefl _)
      · exact names.only asked id text registered plain older
    · obtain ⟨rfl, rfl⟩ := name_of_mem_declaration written newer
      split at registered
      · next same => rw [same]
      · exact absurd (identifies.allocated asked _ registered) (Nat.lt_irrefl _)
  allocated id text member := by
    rw [code_declared] at member
    rw [bound_declared]
    rcases List.mem_append.mp member with older | newer
    · exact Nat.lt_succ_of_lt (names.allocated id text older)
    · rw [(name_of_mem_declaration written newer).1]
      exact Nat.lt_succ_self _

theorem Declaration.namesTypes (declaration : Declaration limit before after)
    (names : before.NamesTypes) (identifies : before.Identifies) :
    after.NamesTypes := by
  cases declaration with
  | type light unregistered written => exact names.declared identifies written
  | comparison light unregistered plain =>
      refine names.extend identifies (fun type plainType => ?_) rfl (Nat.le_refl _)
        (List.append_nil _).symm (by simp)
      rw [typeId?_addType, if_neg plainType]
  | @constant scalar value type unregistered valued typed =>
      refine names.extend identifies (fun _ _ => rfl) rfl (Nat.le_succ _) rfl ?_
      intro id text member
      have defines := Build.result?_constantDeclaration scalar value type before.bound
      rw [← List.mem_singleton.mp member] at defines
      cases defines

theorem Reaches.namesTypes (reaches : Reaches limit before after)
    (names : before.NamesTypes) (identifies : before.Identifies) :
    after.NamesTypes := by
  induction reaches with
  | refl => exact names
  | tail reached declaration inductionHypothesis =>
      exact declaration.namesTypes inductionHypothesis (Reaches.identifies reached identifies)

theorem EmissionStep.namesTypes (step : EmissionStep test before after)
    (names : before.NamesTypes) (identifies : before.Identifies) :
    after.NamesTypes := by
  cases step with
  | register passed registers =>
      exact (Build.register_reaches _ registers).1.namesTypes names identifies
  | literal isExact registers =>
      exact (Build.registerConstant_reaches registers).1.namesTypes names identifies
  | write writes =>
      obtain ⟨new, extension, labels⟩ := writes.code
      refine names.extend identifies (fun type _ => extension.typeId? type) writes.options
        extension.bound extension.code ?_
      intro id text member
      obtain ⟨labelled, isNew, allocated, label⟩ := labels _ member rfl
      cases label
      exact ⟨isNew, allocated⟩

/-! ## Types that are declared -/

/-- A known type with a declaration is a value type or the type of a method. -/
theorem TypeForm.isValue_or_isFunction {type : ShaderType} {form : ResultId → Instruction}
    (written : builder.TypeForm type form) {table : SymbolTable} {structs : List String}
    (known : type.everywhere (table.knows structs) = true) :
    type.isValue = true ∨ type.isFunction = true := by
  have own := ShaderType.test_of_everywhere known
  cases written with
  | function returnedType parameterTypes => exact .inr rfl
  | pointer pointeeId => cases own
  | image isImage sampledId =>
      cases type with
      | buffer | texture1D | texture2D | texture3D => cases own
      | _ => cases isImage
  | _ => exact .inl rfl

theorem TypeForm.opcode_of_isFunction {type : ShaderType} {form : ResultId → Instruction}
    (written : builder.TypeForm type form) (id : ResultId)
    (isFunction : type.isFunction = true) :
    (form id).opcode = .typeFunction := by
  obtain ⟨returned, parameters, rfl⟩ := ShaderType.eq_function isFunction
  cases written with
  | function returnedType parameterTypes => rfl
  | image isImage sampledId => cases isImage

/-- A declared type has its canonical id as its only name. -/
theorem NamesTypes.exists_name (names : builder.NamesTypes) {instruction : Instruction}
    (declares : builder.DeclaresType instruction)
    (switchedOn : builder.options.typeNames = true) :
    ∃ text, instruction.HasName builder.code text ∧
      ∀ other, instruction.HasName builder.code other → other = text := by
  obtain ⟨type, form, id, registered, written, rfl⟩ := declares
  have plain := written.ne_comparisonSampler
  refine ⟨type.canonicalId,
    ⟨id, written.result? id, names.named switchedOn type id registered plain⟩, ?_⟩
  rintro other ⟨target, defines, isName⟩
  cases (written.result? id).symm.trans defines
  exact names.only type id other registered plain isName

/-- Two declared types with the same name are the same, unless one of them is the type of a method
and some struct has an underscore in its name. -/
theorem NamesTypes.eq_of_name (names : builder.NamesTypes) (wellFormed : builder.WellFormed)
    {table : SymbolTable} {structs : List String}
    (known : builder.InRange (table.knows structs) [])
    (bracketless : ∀ name ∈ structs, '[' ∉ name.toList)
    {first second : Instruction} {text : String}
    (firstMember : first ∈ builder.code)
    (secondMember : second ∈ builder.code)
    (firstDeclares : builder.DeclaresType first)
    (secondDeclares : builder.DeclaresType second)
    (firstNamed : first.HasName builder.code text)
    (secondNamed : second.HasName builder.code text) :
    first = second ∨ (first.opcode = .typeFunction ∨ second.opcode = .typeFunction) ∧
      ∃ name ∈ structs, '_' ∈ name.toList := by
  obtain ⟨type, form, id, registered, written, rfl⟩ := firstDeclares
  obtain ⟨type', form', id', registered', written', rfl⟩ := secondDeclares
  obtain ⟨target, defines, isName⟩ := firstNamed
  obtain ⟨target', defines', isName'⟩ := secondNamed
  cases (written.result? id).symm.trans defines
  cases (written'.result? id').symm.trans defines'
  have typeKnown := known.types _ (mem_of_lookup_eq_some registered)
  have typeKnown' := known.types _ (mem_of_lookup_eq_some registered')
  have sameId : type.canonicalId = type'.canonicalId :=
    (names.only type id text registered written.ne_comparisonSampler isName).symm.trans
      (names.only type' id' text registered' written'.ne_comparisonSampler isName')
  rcases SymbolTable.eq_of_canonicalId typeKnown typeKnown'
    (written.isValue_or_isFunction typeKnown) (written'.isValue_or_isFunction typeKnown')
    bracketless sameId with rfl | ⟨isFunction, underscored⟩
  · cases registered.symm.trans registered'
    have definition := wellFormed.definition?_of_mem firstMember (written.result? id)
    have definition' := wellFormed.definition?_of_mem secondMember (written'.result? id)
    exact .inl (Option.some.inj (definition.symm.trans definition'))
  · exact .inr ⟨isFunction.imp (written.opcode_of_isFunction id)
      (written'.opcode_of_isFunction id'), underscored⟩

end ModuleBuilder

/-! ## Compiled modules -/

/-- Every declared type of a code has one name, and the names tell the declared types apart, except
for those that are exempt. -/
structure TypesNamed (exempt : Instruction → Prop) (code : List Instruction) : Prop where
  named : ∀ instruction ∈ code, instruction.opcode.declaresType = true →
    ∃ text, instruction.HasName code text ∧
      ∀ other, instruction.HasName code other → other = text
  distinct : ∀ first ∈ code, ∀ second ∈ code, first.opcode.declaresType = true →
    second.opcode.declaresType = true → ¬ exempt first → ¬ exempt second →
      ∀ text, first.HasName code text → second.HasName code text → first = second

/-- With type names switched on, the names of a compiled module tell its types apart.  Where some
struct has an underscore in its name this holds of all types but those of methods. -/
theorem Shader.compile_typesNamed {shader : Shader} {options : CompileOptions}
    {compiled : CompiledShader}
    (compiles : shader.compile options = .ok compiled)
    (switchedOn : options.typeNames = true)
    (bracketless : ∀ struct ∈ shader.structs, '[' ∉ struct.name.toList) :
    TypesNamed (fun instruction => instruction.opcode = .typeFunction ∧
        ∃ struct ∈ shader.structs, '_' ∈ struct.name.toList)
      compiled.shaderModule.instructions := by
  obtain ⟨clean, emitter, emits, rfl⟩ := Shader.compile_eq_ok compiles
  have wellFormed := (Shader.settled_of_emit emits (Emitter.settled_initial options)).wellFormed
  have bounded := (Shader.bounded_of_clean clean emits).target
  have trace := (Shader.traces_of_clean (SymbolTable.knows_suitsAnalysis _ _) clean emits).trace
  have sameOptions : emitter.target.options = options :=
    trace.invariant (fun builder => builder.options = options) rfl
      fun _ _ step same => step.options.trans same
  have known := trace.invariant (ModuleBuilder.InRange _ [])
    (ModuleBuilder.inRange_initial _ options)
    fun _ _ step known => step.inRange (SymbolTable.knows_suitsRegistration _ _) known
  obtain ⟨-, names⟩ := trace.invariant (fun builder => builder.Identifies ∧ builder.NamesTypes)
    ⟨ModuleBuilder.identifies_initial options, ModuleBuilder.namesTypes_initial options⟩
    fun _ _ step ⟨identifies, names⟩ => ⟨step.identifies identifies,
      step.namesTypes names identifies⟩
  constructor
  · intro instruction member isType
    exact names.exists_name (bounded.declaresType wellFormed member isType)
      (sameOptions ▸ switchedOn)
  · intro first isFirst second isSecond firstType secondType notFirst notSecond text firstNamed
      secondNamed
    have namesBracketless : ∀ name ∈ shader.structs.map Struct.name, '[' ∉ name.toList :=
      List.forall_mem_map.mpr bracketless
    rcases names.eq_of_name wellFormed known namesBracketless isFirst isSecond
      (bounded.declaresType wellFormed isFirst firstType)
      (bounded.declaresType wellFormed isSecond secondType) firstNamed secondNamed with
      same | ⟨isFunction, name, isStruct, underscored⟩
    · exact same
    · obtain ⟨struct, declared, rfl⟩ := List.mem_map.mp isStruct
      rcases isFunction with firstFunction | secondFunction
      · exact absurd ⟨firstFunction, struct, declared, underscored⟩ notFirst
      · exact absurd ⟨secondFunction, struct, declared, underscored⟩ notSecond

/-- A shader with three structs, the last of which has the given name, and with a method that takes
that struct beside one that takes the other two. -/
def Shader.lighting (combined : String) : Shader where
  name := "Lighting"
  generics := []
  elements := [
    .struct ⟨0, .unknown, "Light", [⟨⟨"float", none, .unknown⟩, "power"⟩]⟩,
    .struct ⟨1, .unknown, "Map",
      [⟨⟨"float", some (.literal 2 .unknown (.int 4)), .unknown⟩, "texels"⟩]⟩,
    .struct ⟨3, .unknown, combined, [⟨⟨"Light", none, .unknown⟩, "source"⟩]⟩,
    .method ⟨4, .unknown, ⟨"void", none, .unknown⟩, "shade",
      [⟨5, ⟨combined, none, .unknown⟩, "baked", none, none⟩], none, none, none, []⟩,
    .method ⟨6, .unknown, ⟨"void", none, .unknown⟩, "cast",
      [⟨7, ⟨"Light", none, .unknown⟩, "light", none, none⟩,
        ⟨8, ⟨"Map", none, .unknown⟩, "map", none, none⟩], none, none, none, []⟩]

theorem Shader.lighting_typesNamed :
    ∃ compiled, (Shader.lighting "LightMap").compile .allNames = .ok compiled ∧
      (∀ instruction ∈ ([.name 5 "float[4]", .name 7 "LightMap", .name 9 "fn_LightMap_void",
          .name 12 "fn_Light_Map_void"] : List Instruction),
        instruction ∈ compiled.shaderModule.instructions) ∧
      TypesNamed (fun instruction => instruction.opcode = .typeFunction ∧
          ∃ struct ∈ (Shader.lighting "LightMap").structs, '_' ∈ struct.name.toList)
        compiled.shaderModule.instructions := by
  have holds : ((Shader.lighting "LightMap").compile .allNames).toOption.any (fun compiled =>
      ∀ instruction ∈ ([.name 5 "float[4]", .name 7 "LightMap", .name 9 "fn_LightMap_void",
          .name 12 "fn_Light_Map_void"] : List Instruction),
        instruction ∈ compiled.shaderModule.instructions) = true := by
    decide +kernel
  obtain ⟨compiled, compiles, names⟩ := Shader.exists_compiled holds
  exact ⟨compiled, compiles, of_decide_eq_true names,
    Shader.compile_typesNamed compiles rfl (by decide)⟩

/-- Whether a text is a letter or an underscore with letters, digits and underscores behind it. -/
def Text.isIdentifier (text : String) : Bool :=
  match text.toList with
  | [] => false
  | first :: rest => (first.isAlpha || first = '_') &&
      rest.all fun character => character.isAlphanum || character = '_'

/-- The types of two methods have the same name, though all structs are named by identifiers. -/
theorem Shader.lighting_sharesName :
    (∀ struct ∈ (Shader.lighting "Light_Map").structs,
      Text.isIdentifier struct.name = true) ∧
    ∃ compiled, (Shader.lighting "Light_Map").compile .allNames = .ok compiled ∧
      ¬ TypesNamed (fun _ => False) compiled.shaderModule.instructions := by
  refine ⟨by decide, ?_⟩
  have holds : ((Shader.lighting "Light_Map").compile .allNames).toOption.any (fun compiled =>
      .typeFunction 9 8 [7] ∈ compiled.shaderModule.instructions ∧
        .name 9 "fn_Light_Map_void" ∈ compiled.shaderModule.instructions ∧
        .typeFunction 12 8 [2, 6] ∈ compiled.shaderModule.instructions ∧
        .name 12 "fn_Light_Map_void" ∈ compiled.shaderModule.instructions) = true := by
    decide +kernel
  obtain ⟨compiled, compiles, declared⟩ := Shader.exists_compiled holds
  obtain ⟨shade, shadeName, cast, castName⟩ := of_decide_eq_true declared
  refine ⟨compiled, compiles, fun named => ?_⟩
  cases named.distinct _ shade _ cast rfl rfl id id "fn_Light_Map_void" ⟨9, rfl, shadeName⟩
    ⟨12, rfl, castName⟩

end ShaderLang
