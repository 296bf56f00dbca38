import ShaderLang.Proofs.CompiledConstants

/-!
# Declarations that are made once

The registries of a builder are keyed by types and by constants, and not by the instructions that
declare them.  Different keys give different instructions, with one exception: the two sampler types
share an id, so a type that holds the one directly is declared like the type that holds the other.
Struct types are told apart by their names and image types by their sizes, which their declarations
do not show.
-/

namespace ShaderLang

/-- Two instructions with the same opcode and the same operands. -/
def Instruction.Repeats (first second : Instruction) : Prop :=
  first.opcode = second.opcode ∧ first.operands = second.operands

instance (first second : Instruction) : Decidable (first.Repeats second) :=
  inferInstanceAs (Decidable (_ ∧ _))

/-- Whether an opcode declares a type by all that makes up the type. -/
def Opcode.declaresPlainType (opcode : Opcode) : Bool :=
  opcode.declaresType && opcode ≠ .typeStruct && opcode ≠ .typeImage

/-- Whether an opcode declares a constant. -/
def Opcode.declaresConstant : Opcode → Bool
  | .constant | .constantTrue | .constantFalse => true
  | _ => false

/-- No two declarations of types other than structs and images repeat each other, except for those
that are exempt, and no two declarations of constants do. -/
structure DeclaresOnce (exempt : Instruction → Prop) (code : List Instruction) : Prop where
  types : code.Pairwise fun first second =>
    first.opcode.declaresPlainType = true → ¬ exempt first → ¬ first.Repeats second
  constants : code.Pairwise fun first second =>
    first.opcode.declaresConstant = true → ¬ first.Repeats second

/-- An instruction has the sampler type of a code among its operands. -/
def Instruction.UsesSampler (code : List Instruction) (instruction : Instruction) : Prop :=
  ∃ sampler, .typeSampler sampler ∈ code ∧ .id sampler ∈ instruction.operands

/-! ## Instructions from their parts -/

theorem Instruction.Repeats.eq {first second : Instruction}
    (repeats : first.Repeats second)
    (sameResult : first.result? = second.result?) :
    first = second := by
  have firstParts := first.assemble?_parts
  rw [sameResult, repeats.1, repeats.2, second.assemble?_parts] at firstParts
  exact (Option.some.inj firstParts).symm

theorem Opcode.declaresType_of_plain {opcode : Opcode}
    (plain : opcode.declaresPlainType = true) :
    opcode.declaresType = true :=
  (Bool.and_eq_true_iff.mp (Bool.and_eq_true_iff.mp plain).1).1

theorem Instruction.isDeclaration_of_declaresType {instruction : Instruction}
    (isType : instruction.opcode.declaresType = true) :
    instruction.isDeclaration = true ∧ ∃ id, instruction.result? = some id := by
  cases instruction <;> first | exact ⟨rfl, _, rfl⟩ | cases isType

theorem Instruction.result?_of_declaresConstant {instruction : Instruction}
    (isConstant : instruction.opcode.declaresConstant = true) :
    ∃ id, instruction.result? = some id := by
  cases instruction <;> first | exact ⟨_, rfl⟩ | cases isConstant

theorem Build.scalar_eq_of_repeats {first second : ScalarType} {firstId secondId : ResultId}
    (repeats : (scalarDeclaration firstId first).Repeats (scalarDeclaration secondId second)) :
    first = second := by
  cases first <;> cases second <;>
    simp_all [Instruction.Repeats, scalarDeclaration, Instruction.opcode, Instruction.operands]

/-- Constants of one type that the type can hold are declared differently. -/
theorem Build.value_eq_of_repeats {scalar : ScalarType} {first second : Constant}
    {type firstId secondId : ResultId}
    (repeats : (constantDeclaration scalar first type firstId).Repeats
      (constantDeclaration scalar second type secondId))
    (firstHolds : scalar.Holds first)
    (secondHolds : scalar.Holds second) :
    first = second := by
  obtain ⟨sameOpcode, sameOperands⟩ := repeats
  unfold constantDeclaration at sameOpcode sameOperands
  by_cases isBool : scalar = .bool
  · subst isBool
    cases first with
    | float value => cases firstHolds
    | int value =>
        cases second with
        | float value' => cases secondHolds
        | int value' =>
            rcases firstHolds with rfl | rfl <;> rcases secondHolds with rfl | rfl <;>
              simp_all [Instruction.opcode]
  · simpa [isBool, Instruction.operands] using sameOperands

/-- The first operand of a constant is its type. -/
theorem Build.head?_constantDeclaration (scalar : ScalarType) (value : Constant)
    (type id : ResultId) :
    (constantDeclaration scalar value type id).operands.head? = some (.id type) := by
  unfold constantDeclaration
  split
  · split <;> rfl
  · rfl

/-! ## Types from their declarations -/

namespace ModuleBuilder

variable {builder : ModuleBuilder}

/-- The length of an array is determined by the id of its constant. -/
theorem WellFormed.size_eq (wellFormed : builder.WellFormed) {first second : Nat}
    {id : ResultId}
    (firstId : builder.constantId? .uint (.int first) = some id)
    (secondId : builder.constantId? .uint (.int second) = some id) :
    first = second := by
  obtain ⟨firstType, -, firstDefined⟩ := wellFormed.constants _ _ _ firstId
  obtain ⟨secondType, -, secondDefined⟩ := wellFormed.constants _ _ _ secondId
  have same := Option.some.inj (firstDefined.symm.trans secondDefined)
  have sameLiteral : (first : Int) = second :=
    Constant.int.inj (Instruction.constant.inj same).2.2
  exact Int.natCast_inj.mp sameLiteral

/-- A vector type is determined by the id of its component type and its size. -/
theorem Identifies.vector_eq (identifies : builder.Identifies) {first second : VectorType}
    {component : ResultId}
    (firstId : builder.typeId? (.scalar first.base) = some component)
    (secondId : builder.typeId? (.scalar second.base) = some component)
    (sameSize : first.size = second.size) :
    first = second := by
  have sameBase := ShaderType.scalar.inj (identifies.type_eq_of_plain rfl firstId secondId)
  cases first
  cases second
  cases sameBase
  cases sameSize
  rfl

/-- A matrix type is determined by the id of its column type and the number of columns. -/
theorem Identifies.matrix_eq (identifies : builder.Identifies) {first second : MatrixType}
    {column : ResultId}
    (firstId : builder.typeId? (.vector first.column) = some column)
    (secondId : builder.typeId? (.vector second.column) = some column)
    (sameColumns : first.columns = second.columns) :
    first = second := by
  have sameColumn := ShaderType.vector.inj (identifies.type_eq_of_plain rfl firstId secondId)
  cases first
  cases second
  cases sameColumn
  cases sameColumns
  rfl

/-- Types whose ids are not the one of the sampler types are determined by their ids. -/
theorem Identifies.types_eq (identifies : builder.Identifies) {ids : List ResultId} :
    ∀ {first second : List ShaderType},
      (∀ id ∈ ids, builder.typeId? .sampler ≠ some id) →
      List.Forall₂ (fun type id => builder.typeId? type = some id) first ids →
      List.Forall₂ (fun type id => builder.typeId? type = some id) second ids →
        first = second := by
  induction ids with
  | nil =>
      intro first second _ firstIds secondIds
      cases firstIds
      cases secondIds
      rfl
  | cons id rest inductionHypothesis =>
      intro first second plain firstIds secondIds
      obtain ⟨idPlain, restPlain⟩ := List.forall_mem_cons.mp plain
      cases firstIds with
      | cons firstId firstRest =>
          cases secondIds with
          | cons secondId secondRest =>
              rw [identifies.type_eq idPlain firstId secondId,
                inductionHypothesis restPlain firstRest secondRest]

theorem WellFormed.typeSampler_mem (wellFormed : builder.WellFormed) {id : ResultId}
    (registered : builder.typeId? .sampler = some id) :
    .typeSampler id ∈ builder.code := by
  rcases wellFormed.types .sampler id registered with ⟨form, written, defined⟩ | ⟨impossible, -⟩
  · cases written with
    | sampler => exact Instruction.mem_of_definition? defined
    | image isImage sampledId => cases isImage
  · cases impossible

/-- Types that are declared alike and that have no sampler type among their direct parts are the
same. -/
theorem TypeForm.type_eq (wellFormed : builder.WellFormed) (identifies : builder.Identifies)
    {first second : ShaderType} {firstForm secondForm : ResultId → Instruction}
    {firstId secondId : ResultId}
    (written : builder.TypeForm first firstForm)
    (written' : builder.TypeForm second secondForm)
    (repeats : (firstForm firstId).Repeats (secondForm secondId))
    (plainType : (firstForm firstId).opcode.declaresPlainType = true)
    (noSampler : ∀ id, .id id ∈ (firstForm firstId).operands →
      builder.typeId? .sampler ≠ some id) :
    first = second := by
  obtain ⟨sameOpcode, sameOperands⟩ := repeats
  -- Types of different kinds have different opcodes.  Only scalar types have several of them.
  cases written with
  | scalar scalar =>
      cases written' with
      | scalar scalar' => rw [Build.scalar_eq_of_repeats ⟨sameOpcode, sameOperands⟩]
      | _ => cases scalar <;> cases sameOpcode
  | @vector vector component componentId =>
      cases written' with
      | scalar scalar => cases scalar <;> cases sameOpcode
      | @vector vector' component' componentId' =>
          have sameParts : component = component' ∧ vector.size = vector'.size := by
            simpa [Instruction.operands] using sameOperands
          obtain ⟨rfl, sameSize⟩ := sameParts
          rw [identifies.vector_eq componentId componentId' sameSize]
      | _ => cases sameOpcode
  | @matrix matrix column columnId =>
      cases written' with
      | scalar scalar => cases scalar <;> cases sameOpcode
      | @matrix matrix' column' columnId' =>
          have sameParts : column = column' ∧ matrix.columns = matrix'.columns := by
            simpa [Instruction.operands] using sameOperands
          obtain ⟨rfl, sameColumns⟩ := sameParts
          rw [identifies.matrix_eq columnId columnId' sameColumns]
      | _ => cases sameOpcode
  | @array base size element length elementId lengthId =>
      cases written' with
      | scalar scalar => cases scalar <;> cases sameOpcode
      | @array base' size' element' length' elementId' lengthId' =>
          have sameParts : element = element' ∧ length = length' := by
            simpa [Instruction.operands] using sameOperands
          obtain ⟨rfl, rfl⟩ := sameParts
          have elementPlain := noSampler element (by simp [Instruction.operands])
          rw [identifies.type_eq elementPlain elementId elementId',
            wellFormed.size_eq lengthId lengthId']
      | _ => cases sameOpcode
  | @pointer base pointee pointeeId =>
      cases written' with
      | scalar scalar => cases scalar <;> cases sameOpcode
      | @pointer base' pointee' pointeeId' =>
          have samePointee : pointee = pointee' := by
            simpa [Instruction.operands] using sameOperands
          subst samePointee
          have pointeePlain := noSampler pointee (by simp [Instruction.operands])
          rw [identifies.type_eq pointeePlain pointeeId pointeeId']
      | _ => cases sameOpcode
  | @function returned parameters returnedId parameterIds returnedType parameterTypes =>
      cases written' with
      | scalar scalar => cases scalar <;> cases sameOpcode
      | @function returned' parameters' returnedId' parameterIds' returnedType' parameterTypes' =>
          have sameParts : returnedId = returnedId' ∧ parameterIds = parameterIds' := by
            simpa [Instruction.operands, List.map_inj_right] using sameOperands
          obtain ⟨rfl, rfl⟩ := sameParts
          have returnedPlain := noSampler returnedId (by simp [Instruction.operands])
          have parametersPlain : ∀ id ∈ parameterIds, builder.typeId? .sampler ≠ some id := by
            intro id member
            exact noSampler id (by simp [Instruction.operands, member])
          rw [identifies.type_eq returnedPlain returnedType returnedType',
            identifies.types_eq parametersPlain parameterTypes parameterTypes']
      | _ => cases sameOpcode
  | sampler =>
      cases written' with
      | scalar scalar => cases scalar <;> cases sameOpcode
      | sampler => rfl
      | _ => cases sameOpcode
  | struct memberIds => cases plainType
  | image isImage sampledId => cases plainType

/-! ## Declarations of a builder -/

/-- An instruction that declares a type declares a registered one. -/
theorem Bounded.declaresType (bounded : builder.Bounded) (wellFormed : builder.WellFormed)
    {instruction : Instruction}
    (member : instruction ∈ builder.code)
    (isType : instruction.opcode.declaresType = true) :
    builder.DeclaresType instruction := by
  obtain ⟨declares, id, defines⟩ := Instruction.isDeclaration_of_declaresType isType
  rcases wellFormed.declares_of_mem bounded.code member declares defines with
    declaresType | ⟨scalar, value, type, constantId, -, -, rfl⟩
  · exact declaresType
  · unfold Build.constantDeclaration at isType
    split at isType
    · split at isType <;> cases isType
    · cases isType

/-- An instruction that declares a constant declares a registered one. -/
theorem Bounded.declaresConstant_of_opcode (bounded : builder.Bounded)
    (wellFormed : builder.WellFormed) {instruction : Instruction}
    (member : instruction ∈ builder.code)
    (isConstant : instruction.opcode.declaresConstant = true) :
    builder.DeclaresConstant instruction := by
  cases instruction with
  | constant | constantTrue | constantFalse =>
      exact bounded.declaresConstant wellFormed member rfl rfl rfl
  | _ => cases isConstant

theorem DeclaresType.eq {first second : Instruction}
    (firstDeclares : builder.DeclaresType first)
    (secondDeclares : builder.DeclaresType second)
    (wellFormed : builder.WellFormed) (identifies : builder.Identifies)
    (repeats : first.Repeats second)
    (plainType : first.opcode.declaresPlainType = true)
    (noSampler : ¬ first.UsesSampler builder.code) :
    first = second := by
  obtain ⟨type, form, id, registered, written, rfl⟩ := firstDeclares
  obtain ⟨type', form', id', registered', written', rfl⟩ := secondDeclares
  have notSampler : ∀ part, .id part ∈ (form id).operands →
      builder.typeId? .sampler ≠ some part := by
    intro part isPart isSampler
    exact noSampler ⟨part, wellFormed.typeSampler_mem isSampler, isPart⟩
  have sameType := written.type_eq wellFormed identifies written' repeats plainType notSampler
  rw [sameType, registered'] at registered
  cases registered
  exact repeats.eq ((written.result? id).trans (written'.result? id).symm)

theorem DeclaresConstant.eq {first second : Instruction}
    (firstDeclares : builder.DeclaresConstant first)
    (secondDeclares : builder.DeclaresConstant second)
    (bounded : builder.Bounded) (identifies : builder.Identifies)
    (repeats : first.Repeats second) :
    first = second := by
  obtain ⟨scalar, value, type, id, registered, typed, rfl⟩ := firstDeclares
  obtain ⟨scalar', value', type', id', registered', typed', rfl⟩ := secondDeclares
  have sameType : type = type' := by
    have sameHead := congrArg List.head? repeats.2
    rw [Build.head?_constantDeclaration, Build.head?_constantDeclaration] at sameHead
    exact Operand.id.inj (Option.some.inj sameHead)
  subst sameType
  have sameScalar := ShaderType.scalar.inj (identifies.type_eq_of_plain rfl typed typed')
  subst sameScalar
  have sameValue := Build.value_eq_of_repeats repeats (bounded.registries.holds registered)
    (bounded.registries.holds registered')
  rw [sameValue, registered'] at registered
  cases registered
  rw [sameValue]

/-- Instructions that define an id and differ from all that they repeat are not repeated. -/
theorem WellFormed.pairwise_not_repeats (wellFormed : builder.WellFormed)
    (concerns : Instruction → Prop)
    (defines : ∀ instruction, concerns instruction → ∃ id, instruction.result? = some id)
    (same : ∀ first ∈ builder.code, ∀ second ∈ builder.code, concerns first →
      first.Repeats second → first = second) :
    builder.code.Pairwise fun first second => concerns first → ¬ first.Repeats second := by
  have distinct := List.pairwise_filterMap.mp wellFormed.nodup_results
  refine distinct.imp_of_mem fun {first second} isFirst isSecond different concerned repeats => ?_
  obtain ⟨id, defined⟩ := defines first concerned
  have sameInstruction := same first isFirst second isSecond concerned repeats
  rw [← sameInstruction] at different
  exact different id defined id defined rfl

theorem Bounded.declaresOnce (bounded : builder.Bounded) (wellFormed : builder.WellFormed)
    (identifies : builder.Identifies) :
    DeclaresOnce (Instruction.UsesSampler builder.code) builder.code where
  types := by
    have unrepeated := wellFormed.pairwise_not_repeats
      (fun instruction => instruction.opcode.declaresPlainType = true ∧
        ¬ instruction.UsesSampler builder.code)
      (fun _ concerned => (Instruction.isDeclaration_of_declaresType
        (Opcode.declaresType_of_plain concerned.1)).2) ?_
    · exact unrepeated.imp fun differs plainType noSampler => differs ⟨plainType, noSampler⟩
    · rintro first isFirst second isSecond ⟨plainType, noSampler⟩ repeats
      have plainType' : second.opcode.declaresPlainType = true := repeats.1 ▸ plainType
      have firstDeclares := bounded.declaresType wellFormed isFirst
        (Opcode.declaresType_of_plain plainType)
      have secondDeclares := bounded.declaresType wellFormed isSecond
        (Opcode.declaresType_of_plain plainType')
      exact firstDeclares.eq secondDeclares wellFormed identifies repeats plainType noSampler
  constants := by
    refine wellFormed.pairwise_not_repeats
      (fun instruction => instruction.opcode.declaresConstant = true)
      (fun _ isConstant => Instruction.result?_of_declaresConstant isConstant) ?_
    intro first isFirst second isSecond isConstant repeats
    have isConstant' : second.opcode.declaresConstant = true := repeats.1 ▸ isConstant
    have firstDeclares := bounded.declaresConstant_of_opcode wellFormed isFirst isConstant
    have secondDeclares := bounded.declaresConstant_of_opcode wellFormed isSecond isConstant'
    exact firstDeclares.eq secondDeclares bounded identifies repeats

end ModuleBuilder

/-! ## Compiled modules -/

/-- No type or constant of a compiled module is declared twice, except for struct and image types
and for types that have a sampler type as a direct part. -/
theorem Shader.compile_declaresOnce {shader : Shader} {options : CompileOptions}
    {compiled : CompiledShader}
    (compiles : shader.compile options = .ok compiled) :
    DeclaresOnce (Instruction.UsesSampler compiled.shaderModule.instructions)
      compiled.shaderModule.instructions := by
  obtain ⟨clean, emitter, emits, rfl⟩ := Shader.compile_eq_ok compiles
  have wellFormed := (Shader.settled_of_emit emits (Emitter.settled_initial options)).wellFormed
  have traces := Shader.traces_of_clean (ShaderType.isRepresentable_suitsAnalysis _ _) clean emits
  have identifies : emitter.target.Identifies :=
    traces.trace.invariant ModuleBuilder.Identifies (ModuleBuilder.identifies_initial options)
      fun _ _ step identifies => step.identifies identifies
  exact (Shader.bounded_of_clean clean emits).target.declaresOnce wellFormed identifies

/-- A shader with two methods that differ in the kind of sampler state that they take. -/
def Shader.sampling : Shader where
  name := "Sampling"
  generics := []
  elements := [
    .method ⟨0, .unknown, ⟨"void", none, .unknown⟩, "filter",
      [⟨1, ⟨"SamplerState", none, .unknown⟩, "state", none, none⟩], none, none, none, []⟩,
    .method ⟨2, .unknown, ⟨"void", none, .unknown⟩, "compare",
      [⟨3, ⟨"SamplerComparisonState", none, .unknown⟩, "state", none, none⟩], none, none, none,
      []⟩]

theorem Shader.sampling_declaresOnce :
    ∃ compiled, Shader.sampling.compile .allNames = .ok compiled ∧
      (∀ instruction ∈ ([.typeSampler 2, .typeFunction 3 1 [2], .typeFunction 6 1 [2]] :
          List Instruction), instruction ∈ compiled.shaderModule.instructions) ∧
      DeclaresOnce (Instruction.UsesSampler compiled.shaderModule.instructions)
        compiled.shaderModule.instructions := by
  have holds : (Shader.sampling.compile .allNames).toOption.any (fun compiled =>
      ∀ instruction ∈ ([.typeSampler 2, .typeFunction 3 1 [2], .typeFunction 6 1 [2]] :
          List Instruction), instruction ∈ compiled.shaderModule.instructions) = true := by
    decide +kernel
  obtain ⟨compiled, compiles, declares⟩ := Shader.exists_compiled holds
  exact ⟨compiled, compiles, of_decide_eq_true declares, Shader.compile_declaresOnce compiles⟩

/-- The types of the two methods are declared by the same operands. -/
theorem Shader.sampling_declaresTwice :
    ∃ compiled, Shader.sampling.compile .allNames = .ok compiled ∧
      ¬ DeclaresOnce (fun _ => False) compiled.shaderModule.instructions := by
  have holds : (Shader.sampling.compile .allNames).toOption.any (fun compiled =>
      ¬ compiled.shaderModule.instructions.Pairwise fun first second =>
        first.opcode.declaresPlainType = true → ¬ False → ¬ first.Repeats second) = true := by
    decide +kernel
  obtain ⟨compiled, compiles, repeated⟩ := Shader.exists_compiled holds
  exact ⟨compiled, compiles, fun once => of_decide_eq_true repeated once.types⟩

end ShaderLang
