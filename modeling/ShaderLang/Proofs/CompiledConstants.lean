import ShaderLang.Proofs.CodeTyping
import ShaderLang.Proofs.EmissionRanges
import ShaderLang.Proofs.IdScoping
import ShaderLang.Proofs.TextRoundTrip

/-!
# The constants of compiled modules

Every constant of a compiled module fits its type: signed integers lie in 32 bits, unsigned ones are
lengths of arrays and positive, floats are finite, and truth values have instructions of their own.
With ids in 32 bits every number of a compiled module fits in its word, so the text of the module is
read back as the module.
-/

namespace ShaderLang

/-! ## Constants that fit -/

/-- The value of a constant with the given id and type fits its type. -/
inductive Constant.FitsType (code : List Instruction) (result type : ResultId) : Constant → Prop
  | signed {value : Int}
      (declared : Instruction.definition? code type = some (.typeInt type 32 true))
      (least : -2147483648 ≤ value)
      (most : value ≤ 2147483647) :
      FitsType code result type (.int value)
  /-- The only unsigned constants are the lengths of arrays. -/
  | length {value : Int} {array element : ResultId}
      (declared : Instruction.definition? code type = some (.typeInt type 32 false))
      (positive : 1 ≤ value)
      (most : value ≤ 4294967295)
      (measures : .typeArray array element result ∈ code) :
      FitsType code result type (.int value)
  | float {value : Binary64}
      (declared : Instruction.definition? code type = some (.typeFloat type 32))
      (finite : value.isFinite = true) :
      FitsType code result type (.float value)

/-- The constants of a code fit their types. -/
structure ConstantsFit (code : List Instruction) : Prop where
  constants : ∀ result type value, .constant result type value ∈ code →
    value.FitsType code result type
  /-- No array is empty. -/
  lengths : ∀ result element length, .typeArray result element length ∈ code →
    ∃ type value, .constant length type (.int value) ∈ code ∧
      Instruction.definition? code type = some (.typeInt type 32 false) ∧
      1 ≤ value ∧ value ≤ 4294967295
  truths : ∀ result type, .constantTrue result type ∈ code →
    Instruction.definition? code type = some (.typeBool type)
  falsehoods : ∀ result type, .constantFalse result type ∈ code →
    Instruction.definition? code type = some (.typeBool type)

/-! ## Where declarations come from -/

namespace ModuleBuilder

open Instruction (definition?)

variable {builder : ModuleBuilder} {instruction : Instruction} {id : ResultId}

/-- Each id is defined by the only instruction that has it as its result. -/
theorem WellFormed.definition?_of_mem (wellFormed : builder.WellFormed)
    (member : instruction ∈ builder.code)
    (defines : instruction.result? = some id) :
    definition? builder.code id = some instruction := by
  cases found : definition? builder.code id with
  | none =>
      have absent := List.find?_eq_none.mp found instruction member
      simp [defines] at absent
  | some definition =>
      obtain ⟨before, after, split⟩ := List.append_of_mem member
      obtain ⟨before', after', split'⟩ :=
        List.append_of_mem (Instruction.mem_of_definition? found)
      obtain ⟨-, same, -⟩ := position_unique wellFormed.nodup_results split split' defines
        (Instruction.result?_of_definition? found)
      rw [same]

/-- An instruction declares a registered type. -/
def DeclaresType (builder : ModuleBuilder) (instruction : Instruction) : Prop :=
  ∃ type form id, builder.typeId? type = some id ∧ builder.TypeForm type form ∧
    instruction = form id

/-- An instruction declares a registered constant. -/
def DeclaresConstant (builder : ModuleBuilder) (instruction : Instruction) : Prop :=
  ∃ scalar value type id, builder.constantId? scalar value = some id ∧
    builder.typeId? (.scalar scalar) = some type ∧
    instruction = Build.constantDeclaration scalar value type id

/-- The definition of a registered type declares it or, for the comparison sampler type, the plain
one. -/
theorem WellFormed.declaresType (wellFormed : builder.WellFormed) {type : ShaderType}
    (registered : builder.typeId? type = some id)
    (defined : definition? builder.code id = some instruction) :
    builder.DeclaresType instruction := by
  rcases wellFormed.types type id registered with ⟨form, written, own⟩ | ⟨-, plain⟩
  · exact ⟨type, form, id, registered, written, Option.some.inj (defined.symm.trans own)⟩
  · rcases wellFormed.types .sampler id plain with ⟨form, written, own⟩ | ⟨impossible, -⟩
    · exact ⟨.sampler, form, id, plain, written, Option.some.inj (defined.symm.trans own)⟩
    · cases impossible

/-- Every declaration that defines an id declares a registered type or constant. -/
theorem WellFormed.declares_of_mem (wellFormed : builder.WellFormed)
    (accounted : builder.Accounted)
    (member : instruction ∈ builder.code)
    (declares : instruction.isDeclaration = true)
    (defines : instruction.result? = some id) :
    builder.DeclaresType instruction ∨ builder.DeclaresConstant instruction := by
  have defined := wellFormed.definition?_of_mem member defines
  rcases accounted.declarations instruction member declares id defines with
    ⟨type, registered⟩ | ⟨scalar, value, registered⟩
  · exact .inl (wellFormed.declaresType registered defined)
  · obtain ⟨type, typed, own⟩ := wellFormed.constants scalar value id registered
    exact .inr ⟨scalar, value, type, id, registered, typed,
      Option.some.inj (defined.symm.trans own)⟩

/-! ## The constants of a builder -/

theorem DeclaresType.valueType?_eq_none (declares : builder.DeclaresType instruction) :
    instruction.valueType? = none := by
  obtain ⟨type, form, id, -, written, rfl⟩ := declares
  cases written with
  | scalar scalar => cases scalar <;> rfl
  | _ => rfl

/-- A constant of a code is declared as a registered constant. -/
theorem Bounded.declaresConstant (bounded : builder.Bounded) (wellFormed : builder.WellFormed)
    {type : ResultId}
    (member : instruction ∈ builder.code)
    (declares : instruction.isDeclaration = true)
    (defines : instruction.result? = some id)
    (typed : instruction.valueType? = some type) :
    builder.DeclaresConstant instruction := by
  rcases wellFormed.declares_of_mem bounded.code member declares defines with isType | isConstant
  · rw [isType.valueType?_eq_none] at typed
    cases typed
  · exact isConstant

theorem InRange.holds {test : ShaderType → Bool} {pending : List Nat}
    (inRange : builder.InRange test pending) {scalar : ScalarType} {value : Constant}
    (registered : builder.constantId? scalar value = some id) :
    scalar.Holds value :=
  inRange.constants _ (mem_of_lookup_eq_some registered)

/-- An unsigned constant is the length of a declared array. -/
theorem InRange.exists_typeArray {test : ShaderType → Bool} (inRange : builder.InRange test [])
    (wellFormed : builder.WellFormed) {size : Nat}
    (registered : builder.constantId? .uint (.int size) = some id) :
    ∃ array element, .typeArray array element id ∈ builder.code := by
  rcases inRange.lengths size id (mem_of_lookup_eq_some registered) with
    waits | ⟨base, arrayId, inTypes⟩
  · exact absurd waits List.not_mem_nil
  · obtain ⟨array, arrayRegistered⟩ := exists_lookup_of_mem inTypes
    rcases wellFormed.types (.array base size) array arrayRegistered with
      ⟨form, written, defined⟩ | ⟨impossible, -⟩
    · cases written with
      | @array _ _ element length elementId lengthId =>
          cases registered.symm.trans lengthId
          exact ⟨array, element, Instruction.mem_of_definition? defined⟩
      | image isImage sampledId => cases isImage
    · cases impossible

theorem Bounded.fitsType (bounded : builder.Bounded) (wellFormed : builder.WellFormed)
    {result type : ResultId} {value : Constant}
    (member : .constant result type value ∈ builder.code) :
    value.FitsType builder.code result type := by
  obtain ⟨scalar, registered, declaredType, id, constantId, typed, same⟩ :=
    bounded.declaresConstant wellFormed member rfl rfl rfl
  have notBool : scalar ≠ .bool := by
    intro isBool
    unfold Build.constantDeclaration at same
    rw [if_pos isBool] at same
    split at same <;> cases same
  unfold Build.constantDeclaration at same
  rw [if_neg notBool] at same
  cases same
  have declared := wellFormed.definition?_scalar typed
  have holds := bounded.registries.holds constantId
  -- Only three scalar types can hold a constant that is no truth value.
  match scalar, value, holds with
  | .int, .int value, ⟨least, most⟩ => exact .signed declared least most
  | .uint, .int value, ⟨positive, most⟩ =>
      have natural : value = (value.toNat : Int) := by omega
      rw [natural] at constantId
      obtain ⟨array, element, measures⟩ :=
        bounded.registries.exists_typeArray wellFormed constantId
      exact .length declared positive most measures
  | .float, .float value, finite => exact .float declared finite
  | .bool, _, _ => exact absurd rfl notBool

theorem Bounded.length_positive (bounded : builder.Bounded) (wellFormed : builder.WellFormed)
    {result element length : ResultId}
    (member : .typeArray result element length ∈ builder.code) :
    ∃ type value, .constant length type (.int value) ∈ builder.code ∧
      definition? builder.code type = some (.typeInt type 32 false) ∧
      1 ≤ value ∧ value ≤ 4294967295 := by
  rcases wellFormed.declares_of_mem bounded.code member rfl rfl with isType | isConstant
  · obtain ⟨type, form, id, registered, written, same⟩ := isType
    cases written with
    | scalar scalar => cases scalar <;> cases same
    | @array base size _ _ elementId lengthId =>
        cases same
        obtain ⟨sizeType, typed, defined⟩ := wellFormed.constants _ _ _ lengthId
        obtain ⟨positive, most⟩ := bounded.registries.holds lengthId
        exact ⟨sizeType, size, Instruction.mem_of_definition? defined,
          wellFormed.definition?_scalar typed, positive, most⟩
    | _ => cases same
  · obtain ⟨scalar, value, type, id, -, -, same⟩ := isConstant
    unfold Build.constantDeclaration at same
    split at same
    · split at same <;> cases same
    · cases same

/-- A truth value has the type of truth values. -/
theorem Bounded.definition?_bool (bounded : builder.Bounded) (wellFormed : builder.WellFormed)
    {result type : ResultId}
    (isTruth : instruction = .constantTrue result type ∨ instruction = .constantFalse result type)
    (member : instruction ∈ builder.code) :
    definition? builder.code type = some (.typeBool type) := by
  have declares : builder.DeclaresConstant instruction := by
    rcases isTruth with rfl | rfl
    · exact bounded.declaresConstant wellFormed member rfl rfl rfl
    · exact bounded.declaresConstant wellFormed member rfl rfl rfl
  obtain ⟨scalar, value, declaredType, id, -, typed, same⟩ := declares
  unfold Build.constantDeclaration at same
  split at same
  · next isBool =>
      have sameType : declaredType = type := by
        split at same <;> rcases isTruth with rfl | rfl <;> cases same <;> rfl
      rw [isBool, sameType] at typed
      exact wellFormed.definition?_scalar typed
  · rcases isTruth with rfl | rfl <;> cases same

theorem Bounded.constantsFit (bounded : builder.Bounded) (wellFormed : builder.WellFormed) :
    ConstantsFit builder.code where
  constants _ _ _ member := bounded.fitsType wellFormed member
  lengths _ _ _ member := bounded.length_positive wellFormed member
  truths _ _ member := bounded.definition?_bool wellFormed (.inl rfl) member
  falsehoods _ _ member := bounded.definition?_bool wellFormed (.inr rfl) member

/-! ## Numbers that fit -/

/-- The numbers in the declaration of a representable type fit in a word. -/
theorem TypeForm.fitsWord {type : ShaderType} {form : ResultId → Instruction} {value : Nat}
    (written : builder.TypeForm type form)
    (representable : type.isRepresentable = true)
    (member : .number value ∈ (form id).operands) :
    FitsWord value := by
  unfold FitsWord
  cases written with
  | scalar scalar =>
      cases scalar <;> simp [Build.scalarDeclaration, Instruction.operands] at member <;> omega
  | vector componentId =>
      simp only [ShaderType.isRepresentable, decide_eq_true_eq] at representable
      simp [Instruction.operands] at member
      omega
  | matrix columnId =>
      simp only [ShaderType.isRepresentable, Bool.and_eq_true, decide_eq_true_eq] at representable
      simp [Instruction.operands] at member
      omega
  | _ => simp [Instruction.operands] at member

theorem DeclaresConstant.no_number (declares : builder.DeclaresConstant instruction)
    (value : Nat) :
    .number value ∉ instruction.operands := by
  obtain ⟨scalar, constant, type, id, -, -, rfl⟩ := declares
  unfold Build.constantDeclaration
  split
  · split <;> simp [Instruction.operands]
  · simp [Instruction.operands]

theorem Bounded.fitsWord (bounded : builder.Bounded) (wellFormed : builder.WellFormed)
    {value : Nat}
    (member : instruction ∈ builder.code)
    (isOperand : .number value ∈ instruction.operands) :
    FitsWord value := by
  by_cases declares : instruction.isDeclaration = true
  · cases defines : instruction.result? with
    | some id =>
        rcases wellFormed.declares_of_mem bounded.code member declares defines with
          ⟨type, form, typeId, registered, written, rfl⟩ | isConstant
        · have passed := bounded.registries.types _ (mem_of_lookup_eq_some registered)
          exact written.fitsWord (ShaderType.test_of_everywhere passed) isOperand
        · exact absurd isOperand (isConstant.no_number value)
    | none =>
        -- Of the declarations without an id only the names of members hold a number.
        cases instruction with
        | memberName type index text =>
            have sameIndex : value = index := by simpa [Instruction.operands] using isOperand
            rw [sameIndex]
            exact bounded.code.indices type index text member
        | name target text => simp [Instruction.operands] at isOperand
        | semantic target text => simp [Instruction.operands] at isOperand
        | _ => simp_all [Instruction.isDeclaration, Instruction.result?]
  · cases instruction <;>
      simp_all [Instruction.isDeclaration, Instruction.operands]

/-- Every id that an instruction uses has been handed out. -/
theorem lt_bound_of_operandIds (wellFormed : builder.WellFormed)
    (ordered : DefinedBeforeUse builder.code)
    (member : instruction ∈ builder.code)
    (uses : id ∈ instruction.operandIds) :
    id < builder.bound := by
  obtain ⟨before, after, split⟩ := List.append_of_mem member
  have definedFirst := ordered before instruction after split
  have definition : ∃ definition ∈ builder.code, definition.result? = some id := by
    split at definedFirst
    · next model target text =>
        obtain ⟨type, control, functionType, rest, rfl⟩ := definedFirst
        have sameId : target = id := by
          simpa [Instruction.operandIds, Instruction.operands, Operand.target?] using uses
        rw [split, ← sameId]
        exact ⟨.function target type control functionType, by simp, rfl⟩
    · obtain ⟨definition, earlier, defines⟩ := definedFirst id uses
      rw [split]
      exact ⟨definition, List.mem_append_left _ earlier, defines⟩
  obtain ⟨definition, isInstruction, defines⟩ := definition
  exact (wellFormed.result_bounds isInstruction defines).2

theorem Bounded.fits (bounded : builder.Bounded) (wellFormed : builder.WellFormed)
    (ordered : DefinedBeforeUse builder.code)
    (ids : FitsWord builder.bound)
    (member : instruction ∈ builder.code) :
    instruction.Fits := by
  have idFits : ∀ id, id < builder.bound → FitsWord id := by
    intro id below
    exact Nat.le_trans (Nat.le_of_lt below) ids
  constructor
  · intro result defines
    exact idFits result (wellFormed.result_bounds member defines).2
  · intro operand isOperand
    cases operand with
    | id target =>
        have uses : target ∈ instruction.operandIds :=
          List.mem_filterMap.mpr ⟨.id target, isOperand, rfl⟩
        exact idFits target (lt_bound_of_operandIds wellFormed ordered member uses)
    | number value => exact bounded.fitsWord wellFormed member isOperand
    | literal value =>
        have isConstant : ∃ result type, instruction = .constant result type value := by
          cases instruction <;> simp_all [Instruction.operands]
        obtain ⟨result, type, rfl⟩ := isConstant
        cases bounded.fitsType wellFormed member with
        | signed declared least most => constructor <;> omega
        | length declared positive most measures => constructor <;> omega
        | float declared finite => trivial
    | _ => trivial

theorem Bounded.hasFiniteFloat (bounded : builder.Bounded) (wellFormed : builder.WellFormed)
    (member : instruction ∈ builder.code) :
    instruction.HasFiniteFloat := by
  intro value isFloat
  have isConstant : ∃ result type, instruction = .constant result type (.float value) := by
    unfold Instruction.float? at isFloat
    split at isFloat
    · cases isFloat
      exact ⟨_, _, rfl⟩
    · cases isFloat
  obtain ⟨result, type, rfl⟩ := isConstant
  cases bounded.fitsType wellFormed member with
  | float declared finite => exact finite

end ModuleBuilder

/-! ## Compiled modules -/

/-- Every constant of a compiled module fits its type, and the module is read back from its text
if its ids fit in a word. -/
theorem Shader.compile_constantsFit {shader : Shader} {options : CompileOptions}
    {compiled : CompiledShader}
    (compiles : shader.compile options = .ok compiled) :
    ConstantsFit compiled.shaderModule.instructions ∧
      (FitsWord compiled.shaderModule.bound →
        ShaderModule.parse compiled.shaderModule.text = .ok compiled.shaderModule) := by
  obtain ⟨clean, emitter, emits, rfl⟩ := Shader.compile_eq_ok compiles
  have settled := Shader.settled_of_emit emits (Emitter.settled_initial options)
  have bounded := (Shader.bounded_of_clean clean emits).target
  have ordered : DefinedBeforeUse emitter.target.code :=
    definedBeforeUse_of_usesVisible settled.ordered.target.uses settled.lead
  refine ⟨bounded.constantsFit settled.wellFormed, fun ids => ?_⟩
  have fits : emitter.target.finish.Fits :=
    ⟨ids, fun instruction member => bounded.fits settled.wellFormed ordered ids member⟩
  exact ShaderModule.parse_text_of_hasFiniteFloats fits fun instruction member =>
    bounded.hasFiniteFloat settled.wellFormed member

/-- A shader with the least signed integer, a truth value, the least positive float and the longest
array. -/
def Shader.measuring : Shader where
  name := "Measuring"
  generics := []
  elements := [
    .member ⟨0, .unknown, .integer, "least", some (.literal 1 .unknown (.int (-2147483648))), none,
      .none, .none, []⟩,
    .member ⟨2, .unknown, ⟨"bool", none, .unknown⟩, "used",
      some (.literal 3 .unknown (.bool true)), none, .none, .none, []⟩,
    .member ⟨4, .unknown, ⟨"float", none, .unknown⟩, "scale",
      some (.literal 5 .unknown (.float ⟨false, 1, by decide⟩)), none, .none, .none, []⟩,
    .member ⟨6, .unknown, ⟨"float2", some (.literal 7 .unknown (.int 4294967295)), .unknown⟩,
      "weights", none, none, .none, .none, []⟩]

theorem Shader.measuring_constantsFit :
    ∃ compiled, Shader.measuring.compile .allNames = .ok compiled ∧
      (∀ instruction ∈ ([.constant 3 1 (.int (-2147483648)), .constantTrue 6 4,
          .constant 12 11 (.int 4294967295), .typeArray 13 10 12] : List Instruction),
        instruction ∈ compiled.shaderModule.instructions) ∧
      ConstantsFit compiled.shaderModule.instructions ∧
      ShaderModule.parse compiled.shaderModule.text = .ok compiled.shaderModule := by
  have holds : (Shader.measuring.compile .allNames).toOption.any (fun compiled =>
      FitsWord compiled.shaderModule.bound ∧
        ∀ instruction ∈ ([.constant 3 1 (.int (-2147483648)), .constantTrue 6 4,
            .constant 12 11 (.int 4294967295), .typeArray 13 10 12] : List Instruction),
          instruction ∈ compiled.shaderModule.instructions) = true := by
    decide +kernel
  cases outcome : Shader.measuring.compile .allNames with
  | error reports =>
      rw [outcome] at holds
      cases holds
  | ok compiled =>
      rw [outcome] at holds
      obtain ⟨ids, declares⟩ := of_decide_eq_true holds
      obtain ⟨constantsFit, parses⟩ := Shader.compile_constantsFit outcome
      exact ⟨compiled, rfl, declares, constantsFit, parses ids⟩

end ShaderLang
