import Mathlib.Data.List.Induction
import Mathlib.Data.List.Nodup
import ShaderLang.Proofs.FailedRegistration
import ShaderLang.Proofs.RegistryIdentity

/-!
# Registries and declarations

The type that an id stands for can be read from the code alone: from the instruction that defines
the id, and from the instructions before it for the parts of the type.  Whatever calls a module
builder has received, a registered type is read back from its id, up to what no instruction holds:
names, the sizes of images and the kind of a sampler.
-/

namespace ShaderLang

/-! ## What instructions hold of a type -/

/-- The image type with a dimensionality, and no size. -/
def Dimension.image (base : ShaderType) : Dimension → ShaderType
  | one => .texture1D base 0
  | two => .texture2D base 0 0
  | three => .texture3D base 0 0 0
  | buffer => .buffer base 0

mutual

/-- A type without the names of structs and fields, the sizes of images and the kind of samplers. -/
def ShaderType.anonymous : ShaderType → ShaderType
  | .pointer base => .pointer base.anonymous
  | .array base size => .array base.anonymous size
  | .struct _ fields => .struct "" (Field.allAnonymous fields)
  | .buffer base _ => .buffer base.anonymous 0
  | .texture1D base _ => .texture1D base.anonymous 0
  | .texture2D base _ _ => .texture2D base.anonymous 0 0
  | .texture3D base _ _ _ => .texture3D base.anonymous 0 0 0
  | .function returned parameters =>
      .function returned.anonymous (ShaderType.allAnonymous parameters)
  | .comparisonSampler => .sampler
  | .undefined name => .undefined name
  | .scalar scalar => .scalar scalar
  | .vector vector => .vector vector
  | .matrix matrix => .matrix matrix
  | .sampler => .sampler
  | .streams => .streams
  | .group kind name symbols => .group kind name symbols
  | .shader name components => .shader name components

/-- Types without what no instruction holds. -/
def ShaderType.allAnonymous : List ShaderType → List ShaderType
  | [] => []
  | type :: rest => type.anonymous :: ShaderType.allAnonymous rest

/-- A field without its name. -/
def Field.anonymous : Field → Field
  | ⟨_, type⟩ => ⟨"", type.anonymous⟩

/-- Fields without their names. -/
def Field.allAnonymous : List Field → List Field
  | [] => []
  | field :: rest => field.anonymous :: Field.allAnonymous rest

end

theorem ShaderType.anonymous_of_image? {type base : ShaderType} {dimension : Dimension}
    (isImage : type.image? = some (base, dimension)) :
    type.anonymous = dimension.image base.anonymous := by
  unfold ShaderType.image? at isImage
  split at isImage <;> cases isImage <;> rfl

/-! ## Reading types -/

/-- The integer type with a width and a signedness. -/
def ScalarType.ofInteger? : Nat → Bool → Option ScalarType
  | 32, true => some .int
  | 32, false => some .uint
  | 64, true => some .long
  | 64, false => some .ulong
  | _, _ => none

/-- The floating point type with a width. -/
def ScalarType.ofFloat? : Nat → Option ScalarType
  | 16 => some .half
  | 32 => some .float
  | 64 => some .double
  | _ => none

namespace Instruction

/-- The type that an instruction declares, from the types and constants that its operands stand
for. -/
def declaredType? (typeOf : ResultId → Option ShaderType)
    (valueOf : ResultId → Option Constant) : Instruction → Option ShaderType
  | typeVoid _ => some .void
  | typeBool _ => some (.scalar .bool)
  | typeInt _ width signed => (ScalarType.ofInteger? width signed).map .scalar
  | typeFloat _ width => (ScalarType.ofFloat? width).map .scalar
  | typeVector _ component count =>
      match typeOf component with
      | some (.scalar base) => some (.vector ⟨base, count⟩)
      | _ => none
  | typeMatrix _ column count =>
      match typeOf column with
      | some (.vector shape) => some (.matrix ⟨shape.base, shape.size, count⟩)
      | _ => none
  | typeArray _ element length =>
      match typeOf element, valueOf length with
      | some base, some (.int size) => some (.array base size.toNat)
      | _, _ => none
  | typePointer _ _ pointee => (typeOf pointee).map .pointer
  | typeStruct _ members =>
      (members.mapM typeOf).map fun types => .struct "" (types.map fun type => ⟨"", type⟩)
  | typeFunction _ returned parameters => do
      let returnedType ← typeOf returned
      let parameterTypes ← parameters.mapM typeOf
      return .function returnedType parameterTypes
  | typeImage _ sampled dimension => (typeOf sampled).map fun base => dimension.image base
  | typeSampler _ => some .sampler
  | _ => none

/-- The value of a constant instruction. -/
def value? : Instruction → Option Constant
  | constant _ _ value => some value
  | _ => none

/-- The value of the constant that an id is defined as. -/
def readConstant (code : List Instruction) (id : ResultId) : Option Constant :=
  (definition? code id).bind value?

/-- The type that an id stands for in a code that is given backwards. -/
def readTypeBackwards : List Instruction → ResultId → Option ShaderType
  | [], _ => none
  | instruction :: earlier, id =>
      if instruction.result? = some id then
        instruction.declaredType? (readTypeBackwards earlier) (readConstant earlier.reverse)
      else
        readTypeBackwards earlier id

/-- The type that an id stands for in a code: the type that the instruction with this result
declares, where the parts of the type are read from the instructions before it. -/
def readType (code : List Instruction) (id : ResultId) : Option ShaderType :=
  readTypeBackwards code.reverse id

variable {code new : List Instruction} {id : ResultId}

theorem readType_append_new {instruction : Instruction}
    (defines : instruction.result? = some id) :
    readType (code ++ [instruction]) id =
      instruction.declaredType? (readType code) (readConstant code) := by
  unfold readType
  rw [List.reverse_append, List.reverse_singleton, List.singleton_append, readTypeBackwards,
    if_pos defines, List.reverse_reverse]

theorem readType_append_other (others : id ∉ new.filterMap result?) :
    readType (code ++ new) id = readType code id := by
  induction new using List.reverseRecOn with
  | nil => rw [List.append_nil]
  | append_singleton front last inductionHypothesis =>
      rw [List.filterMap_append, List.mem_append, not_or] at others
      have notLast : last.result? ≠ some id := by
        intro defines
        apply others.2
        rw [List.filterMap_cons_some defines]
        exact List.mem_cons_self
      rw [← inductionHypothesis others.1, ← List.append_assoc]
      unfold readType
      rw [List.reverse_append, List.reverse_singleton, List.singleton_append, readTypeBackwards,
        if_neg notLast]

theorem readConstant_of_isPrefix {whole : List Instruction} {value : Constant}
    (starts : code <+: whole)
    (read : readConstant code id = some value) :
    readConstant whole id = some value := by
  obtain ⟨definition, defined, isConstant⟩ := Option.bind_eq_some_iff.mp read
  exact Option.bind_eq_some_iff.mpr
    ⟨definition, definition?_of_isPrefix starts defined, isConstant⟩

end Instruction

/-! ## Registered types are read back -/

namespace ModuleBuilder

open Instruction

variable {limit : Nat} {before after builder : ModuleBuilder}

/-- The ids of the code are in order, and what is registered is read back from the code. -/
structure ReadsBack (builder : ModuleBuilder) : Prop where
  increasing : (builder.code.filterMap result?).Pairwise (· < ·)
  below : ∀ id ∈ builder.code.filterMap result?, id < builder.bound
  types : ∀ type id, builder.typeId? type = some id →
    id ∈ builder.code.filterMap result? ∧ readType builder.code id = some type.anonymous
  constants : ∀ scalar value id, builder.constantId? scalar value = some id → scalar ≠ .bool →
    readConstant builder.code id = some value

theorem readsBack_initial (options : CompileOptions) : (initial options).ReadsBack := by
  constructor <;> simp [initial, typeId?, constantId?]

namespace ReadsBack

theorem mapM_readType (readsBack : builder.ReadsBack) {types : List ShaderType}
    {ids : List ResultId}
    (registered : List.Forall₂ (fun type id => builder.typeId? type = some id) types ids) :
    ids.mapM (readType builder.code) = some (ShaderType.allAnonymous types) := by
  induction registered with
  | nil => rfl
  | @cons type id _ _ typed _ inductionHypothesis =>
      rw [List.mapM_cons, (readsBack.types type id typed).2, inductionHypothesis]
      rfl

theorem mapM_readType_fields (readsBack : builder.ReadsBack) {fields : List Field}
    {ids : List ResultId}
    (registered : List.Forall₂ (fun field id => builder.typeId? field.type = some id) fields ids) :
    ∃ types, ids.mapM (readType builder.code) = some types ∧
      types.map (fun type => ⟨"", type⟩) = Field.allAnonymous fields := by
  induction registered with
  | nil => exact ⟨[], rfl, rfl⟩
  | @cons field id _ _ typed _ inductionHypothesis =>
      obtain ⟨types, read, same⟩ := inductionHypothesis
      refine ⟨field.type.anonymous :: types, ?_, ?_⟩
      · rw [List.mapM_cons, (readsBack.types field.type id typed).2, read]
        rfl
      · rw [List.map_cons, same]
        cases field
        rfl

/-- The instruction that declares a type is read as that type. -/
theorem declaredType? (readsBack : builder.ReadsBack) {type : ShaderType}
    {form : ResultId → Instruction}
    (written : builder.TypeForm type form) (result : ResultId) :
    (form result).declaredType? (readType builder.code) (readConstant builder.code) =
      some type.anonymous := by
  have read : ∀ {part : ShaderType} {id : ResultId}, builder.typeId? part = some id →
      readType builder.code id = some part.anonymous :=
    fun registered => (readsBack.types _ _ registered).2
  cases written with
  | scalar scalar => cases scalar <;> rfl
  | vector componentId =>
      simp only [Instruction.declaredType?, read componentId, ShaderType.anonymous]
  | matrix columnId =>
      simp only [Instruction.declaredType?, read columnId, ShaderType.anonymous, MatrixType.column]
  | array elementId lengthId =>
      have length := readsBack.constants _ _ _ lengthId (by simp)
      simp only [Instruction.declaredType?, read elementId, length, ShaderType.anonymous,
        Int.toNat_natCast]
  | pointer pointeeId =>
      simp only [Instruction.declaredType?, read pointeeId, Option.map_some, ShaderType.anonymous]
  | struct memberIds =>
      obtain ⟨types, members, same⟩ := readsBack.mapM_readType_fields memberIds
      simp only [Instruction.declaredType?, members, Option.map_some, same, ShaderType.anonymous]
  | function returnedType parameterTypes =>
      simp only [Instruction.declaredType?, read returnedType,
        readsBack.mapM_readType parameterTypes]
      rfl
  | sampler => rfl
  | image isImage sampledId =>
      simp only [Instruction.declaredType?, read sampledId, Option.map_some,
        ShaderType.anonymous_of_image? isImage]

/-- New ids in order behind the old ones keep all ids in order. -/
theorem ids_append (readsBack : before.ReadsBack) {new : List Instruction}
    (bound : before.bound ≤ after.bound)
    (increasing : (new.filterMap result?).Pairwise (· < ·))
    (fresh : ∀ id ∈ new.filterMap result?, before.bound ≤ id ∧ id < after.bound) :
    ((before.code ++ new).filterMap result?).Pairwise (· < ·) ∧
      ∀ id ∈ (before.code ++ new).filterMap result?, id < after.bound := by
  rw [List.filterMap_append]
  constructor
  · rw [List.pairwise_append]
    refine ⟨readsBack.increasing, increasing, ?_⟩
    intro older isOlder newer isNewer
    exact Nat.lt_of_lt_of_le (readsBack.below older isOlder) (fresh newer isNewer).1
  · intro id member
    rcases List.mem_append.mp member with older | newer
    · exact Nat.lt_of_lt_of_le (readsBack.below id older) bound
    · exact (fresh id newer).2

/-- What was read before is still read behind new ids. -/
theorem older_types (readsBack : before.ReadsBack) {new : List Instruction}
    (fresh : ∀ id ∈ new.filterMap result?, before.bound ≤ id)
    {type : ShaderType} {id : ResultId}
    (registered : before.typeId? type = some id) :
    id ∈ (before.code ++ new).filterMap result? ∧
      readType (before.code ++ new) id = some type.anonymous := by
  obtain ⟨member, read⟩ := readsBack.types type id registered
  constructor
  · rw [List.filterMap_append]
    exact List.mem_append_left _ member
  · rw [readType_append_other, read]
    intro newer
    exact absurd (readsBack.below id member) (Nat.not_lt_of_le (fresh id newer))

theorem extend {new : List Instruction} (readsBack : before.ReadsBack)
    (extension : before.Extends new after) :
    after.ReadsBack := by
  obtain ⟨ordered, below⟩ :=
    readsBack.ids_append extension.bound extension.increasing extension.fresh
  constructor
  · rw [extension.code]
    exact ordered
  · rw [extension.code]
    exact below
  · intro type id registered
    rw [extension.typeId?] at registered
    rw [extension.code]
    exact readsBack.older_types (fun id newer => (extension.fresh id newer).1) registered
  · intro scalar value id registered notBool
    rw [extension.constantId?] at registered
    exact readConstant_of_isPrefix extension.grows.code
      (readsBack.constants scalar value id registered notBool)

/-- One instruction that defines the next id, with names behind it. -/
theorem ids_defined (readsBack : before.ReadsBack) {instruction : Instruction}
    {names : List Instruction}
    (bound : after.bound = before.bound + 1)
    (code : after.code = before.code ++ instruction :: names)
    (defines : instruction.result? = some before.bound)
    (plain : names.filterMap result? = []) :
    (after.code.filterMap result?).Pairwise (· < ·) ∧
      (∀ id ∈ after.code.filterMap result?, id < after.bound) ∧
      ∀ id ∈ (instruction :: names).filterMap result?, before.bound ≤ id := by
  have results : (instruction :: names).filterMap result? = [before.bound] := by
    rw [List.filterMap_cons_some defines, plain]
  have fresh : ∀ id ∈ (instruction :: names).filterMap result?,
      before.bound ≤ id ∧ id < after.bound := by
    intro id member
    rw [results, List.mem_singleton] at member
    rw [member, bound]
    exact ⟨Nat.le_refl _, Nat.lt_succ_self _⟩
  have growing : before.bound ≤ after.bound := by
    rw [bound]
    exact Nat.le_succ _
  have increasing : ((instruction :: names).filterMap result?).Pairwise (· < ·) := by
    rw [results]
    exact List.pairwise_singleton _ _
  rw [code]
  obtain ⟨ordered, below⟩ := readsBack.ids_append growing increasing fresh
  exact ⟨ordered, below, fun id member => (fresh id member).1⟩

theorem declared (readsBack : builder.ReadsBack) {type : ShaderType}
    {form : ResultId → Instruction}
    (unregistered : builder.typeId? type = none)
    (written : builder.TypeForm type form) :
    (builder.declared type form).ReadsBack := by
  have grows : builder.Grows (builder.declared type form) :=
    (Declaration.type (Nat.le_refl _) unregistered written).grows
  have code := code_declared builder type form
  have defines : (form builder.bound).result? = some builder.bound := written.result? _
  obtain ⟨ordered, below, fresh⟩ :=
    readsBack.ids_defined (bound_declared builder type form) code defines results_names
  refine ⟨ordered, below, ?_, ?_⟩
  · intro asked id registered
    rw [typeId?_declared] at registered
    rw [code]
    split at registered
    · next same =>
        cases same
        cases registered
        constructor
        · rw [List.filterMap_append, List.filterMap_cons_some defines]
          exact List.mem_append_right _ List.mem_cons_self
        · rw [List.append_cons, readType_append_other, readType_append_new defines]
          · exact readsBack.declaredType? written _
          · rw [results_names]
            exact List.not_mem_nil
    · exact readsBack.older_types fresh registered
  · intro scalar value id registered notBool
    unfold constantId? at registered
    rw [constants_declared] at registered
    exact readConstant_of_isPrefix grows.code
      (readsBack.constants scalar value id registered notBool)

theorem addComparison (readsBack : builder.ReadsBack) {id : ResultId}
    (plain : builder.typeId? .sampler = some id) :
    (builder.addType .comparisonSampler id).ReadsBack := by
  refine ⟨readsBack.increasing, readsBack.below, ?_, readsBack.constants⟩
  intro asked askedId registered
  rw [typeId?_addType] at registered
  split at registered
  · next same =>
      rw [← Option.some.inj registered, same]
      exact readsBack.types .sampler id plain
  · exact readsBack.types asked askedId registered

theorem withConstant (readsBack : builder.ReadsBack) {scalar : ScalarType} {value : Constant}
    {type : ResultId}
    (grows : builder.Grows (builder.withConstant scalar value type)) :
    (builder.withConstant scalar value type).ReadsBack := by
  have defines := Build.result?_constantDeclaration scalar value type builder.bound
  have undefined : ∀ instruction ∈ builder.code, instruction.result? ≠ some builder.bound := by
    intro instruction member defined
    have listed := List.mem_filterMap.mpr ⟨instruction, member, defined⟩
    exact Nat.lt_irrefl _ (readsBack.below _ listed)
  have code : (builder.withConstant scalar value type).code =
      builder.code ++ [Build.constantDeclaration scalar value type builder.bound] := rfl
  obtain ⟨ordered, below, fresh⟩ := readsBack.ids_defined rfl code defines rfl
  refine ⟨ordered, below, fun asked id registered => readsBack.older_types fresh registered, ?_⟩
  intro askedScalar asked id registered notBool
  rw [constantId?_withConstant] at registered
  split at registered
  · next same =>
      obtain ⟨rfl, rfl⟩ := Prod.mk.inj same
      cases registered
      unfold readConstant
      rw [code, definition?_append_new undefined defines]
      unfold Build.constantDeclaration
      rw [if_neg notBool]
      rfl
  · exact readConstant_of_isPrefix grows.code
      (readsBack.constants askedScalar asked id registered notBool)

end ReadsBack

theorem Declaration.readsBack (declaration : Declaration limit before after)
    (readsBack : before.ReadsBack) :
    after.ReadsBack := by
  have grows := declaration.grows
  cases declaration with
  | type light unregistered written => exact readsBack.declared unregistered written
  | comparison light unregistered plain => exact readsBack.addComparison plain
  | constant unregistered valued typed => exact readsBack.withConstant grows

theorem Reaches.readsBack (reaches : Reaches limit before after)
    (readsBack : before.ReadsBack) :
    after.ReadsBack := by
  induction reaches with
  | refl => exact readsBack
  | tail _ declaration inductionHypothesis => exact declaration.readsBack inductionHypothesis

end ModuleBuilder

/-! ## Registering again -/

namespace Build

variable {builder : ModuleBuilder} {id : ResultId}

theorem run_registered {type : ShaderType} {declare : Build ResultId}
    (found : builder.typeId? type = some id) :
    (registered type declare).run builder = .ok id builder := by
  unfold registered
  rw [Run.run_get_bind, found]
  rfl

/-- A registered type keeps its id, and nothing is declared for it again. -/
theorem run_register {type : ShaderType}
    (found : builder.typeId? type = some id) :
    (register type).run builder = .ok id builder := by
  cases type with
  | comparisonSampler =>
      change registerComparisonSampler.run builder = _
      unfold registerComparisonSampler
      rw [Run.run_get_bind, found]
      rfl
  | _ => exact run_registered found

end Build

/-! ## Calls of a builder -/

/-- What a caller can ask of a module builder. -/
inductive BuilderCall where
  | freshId
  | register (type : ShaderType)
  | registerConstant (scalar : ScalarType) (value : Constant)
  | addName (id : ResultId) (name : String)
  | addSemantic (id : ResultId) (semantic : String)

namespace BuilderCall

open ModuleBuilder

/-- The builder after a call, whether the call succeeds or fails. -/
def perform : BuilderCall → ModuleBuilder → ModuleBuilder
  | freshId => Run.final Build.freshId
  | register type => Run.final (Build.register type)
  | registerConstant scalar value => Run.final (Build.registerConstant scalar value)
  | addName id name => Run.final (Build.addName id name)
  | addSemantic id semantic => Run.final (Build.addSemantic id semantic)

/-- The builder after calls in order. -/
def performAll (calls : List BuilderCall) (builder : ModuleBuilder) : ModuleBuilder :=
  calls.foldl (fun current call => call.perform current) builder

/-- A call that needs an id which has been handed out changes nothing if there is no such id. -/
theorem final_requireAllocated (builder : ModuleBuilder) (id : ResultId)
    (change : ModuleBuilder → ModuleBuilder) :
    Run.final (Build.requireAllocated id >>= fun _ => modify change) builder =
      if builder.isAllocated id then change builder else builder := by
  split
  · next allocated =>
      have checks := Build.run_requireAllocated allocated
      exact Run.final_of_ok ((Run.bind_of_ok checks).trans (Run.run_modify _ _))
  · next unallocated =>
      have fails : (Build.requireAllocated id).run builder =
          .error (.emission (.notAllocated id)) builder := by
        unfold Build.requireAllocated
        rw [Run.run_get_bind, if_neg unallocated]
        rfl
      exact Run.final_bind_of_error fails

theorem extends_requireAllocated {builder : ModuleBuilder} {id : ResultId}
    {change : ModuleBuilder → ModuleBuilder} {new : List Instruction}
    (extension : builder.Extends new (change builder)) :
    ∃ new', builder.Extends new'
      (Run.final (Build.requireAllocated id >>= fun _ => modify change) builder) := by
  rw [final_requireAllocated]
  split
  · exact ⟨new, extension⟩
  · exact ⟨[], .refl builder⟩

/-- A call declares types and constants, or it registers nothing. -/
theorem perform_cases (call : BuilderCall) (builder : ModuleBuilder) :
    (∃ limit, Reaches limit builder (call.perform builder)) ∨
      ∃ new, builder.Extends new (call.perform builder) := by
  cases call with
  | freshId =>
      exact .inr ⟨[], .of_plain rfl rfl (Nat.le_succ _) (List.append_nil _).symm rfl⟩
  | register type => exact .inl ⟨_, Build.register_final type builder⟩
  | registerConstant scalar value =>
      exact .inl ⟨_, Build.registerConstant_final scalar value builder⟩
  | addName id name => exact .inr (extends_requireAllocated (.addName builder id name))
  | addSemantic id semantic =>
      exact .inr (extends_requireAllocated (.addSemantic builder id semantic))

/-- What declarations and code between them keep is kept by every call. -/
theorem performAll_induction {invariant : ModuleBuilder → Prop}
    (declares : ∀ limit before after, Reaches limit before after → invariant before →
      invariant after)
    (goesOn : ∀ before new after, before.Extends new after → invariant before → invariant after)
    (calls : List BuilderCall) (builder : ModuleBuilder)
    (initially : invariant builder) :
    invariant (performAll calls builder) := by
  induction calls generalizing builder with
  | nil => exact initially
  | cons call rest inductionHypothesis =>
      apply inductionHypothesis
      rcases call.perform_cases builder with ⟨limit, reaches⟩ | ⟨new, extension⟩
      · exact declares limit _ _ reaches initially
      · exact goesOn _ new _ extension initially

theorem performAll_grows (calls : List BuilderCall) (builder : ModuleBuilder) :
    builder.Grows (performAll calls builder) :=
  performAll_induction (fun _ _ _ reaches earlier => earlier.trans reaches.grows)
    (fun _ _ _ extension earlier => earlier.trans extension.grows) calls builder (.refl builder)

end BuilderCall

/-- A builder whose registry of types agrees with its code. -/
structure ModuleBuilder.FaithfulRegistry (builder : ModuleBuilder) : Prop where
  increasing : (builder.code.filterMap Instruction.result?).Pairwise (· < ·)
  below : ∀ id ∈ builder.code.filterMap Instruction.result?, id < builder.bound
  declaredOnce : ∀ type id, builder.typeId? type = some id →
    builder.code.countP (fun instruction => instruction.result? = some id) = 1
  readBack : ∀ type id, builder.typeId? type = some id →
    Instruction.readType builder.code id = some type.anonymous
  sameId : ∀ first second firstId secondId, builder.typeId? first = some firstId →
    builder.typeId? second = some secondId →
      (firstId = secondId ↔
        first = second ∨ first.isSampler = true ∧ second.isSampler = true)
  again : ∀ type id, builder.typeId? type = some id →
    (Build.register type).run builder = .ok id builder
  recorded : ∀ type id after, (Build.register type).run builder = .ok id after →
    after.typeId? type = some id

theorem Instruction.countP_result? (code : List Instruction) (id : ResultId) :
    code.countP (fun instruction => instruction.result? = some id) =
      (code.filterMap Instruction.result?).count id := by
  induction code with
  | nil => rfl
  | cons instruction rest inductionHypothesis =>
      rw [List.countP_cons, inductionHypothesis]
      cases defines : instruction.result? with
      | none => simp [List.filterMap_cons_none defines]
      | some result =>
          rw [List.filterMap_cons_some defines, List.count_cons]
          simp

theorem ModuleBuilder.faithfulRegistry_of_readsBack {builder : ModuleBuilder}
    (readsBack : builder.ReadsBack) (identifies : builder.Identifies) :
    builder.FaithfulRegistry where
  increasing := readsBack.increasing
  below := readsBack.below
  declaredOnce type id registered := by
    have distinct : (builder.code.filterMap Instruction.result?).Nodup :=
      readsBack.increasing.imp Nat.ne_of_lt
    rw [Instruction.countP_result?]
    exact List.count_eq_one_of_mem distinct (readsBack.types type id registered).1
  readBack type id registered := (readsBack.types type id registered).2
  sameId first second firstId secondId isFirst isSecond := by
    constructor
    · rintro rfl
      exact identifies.distinct first second firstId isFirst isSecond
    · rintro (rfl | ⟨firstSampler, secondSampler⟩)
      · exact Option.some.inj (isFirst.symm.trans isSecond)
      · have firstPlain := identifies.sampler_eq firstSampler isFirst
        have secondPlain := identifies.sampler_eq secondSampler isSecond
        exact Option.some.inj (firstPlain.symm.trans secondPlain)
  again type id registered := Build.run_register registered
  recorded type id after registers := (Build.register_reaches type registers).2

/-- Whatever calls a builder has received, its code has only been added to, and its registry of
types agrees with its code: what is registered is read back from the code, keeps its id, and is put
on record as soon as it has been given an id. -/
theorem BuilderCall.performAll_faithful (options : CompileOptions)
    (earlier later : List BuilderCall) :
    (performAll earlier (.initial options)).code <+:
        (performAll (earlier ++ later) (.initial options)).code ∧
      (performAll earlier (.initial options)).FaithfulRegistry := by
  have readsBack : (performAll earlier (.initial options)).ReadsBack :=
    performAll_induction (fun _ _ _ reaches => reaches.readsBack)
      (fun _ _ _ extension readsBack => readsBack.extend extension) earlier _
      (ModuleBuilder.readsBack_initial options)
  have identifies : (performAll earlier (.initial options)).Identifies :=
    performAll_induction (fun _ _ _ reaches => reaches.identifies)
      (fun _ _ _ extension identifies => identifies.extend extension) earlier _
      (ModuleBuilder.identifies_initial options)
  refine ⟨?_, ModuleBuilder.faithfulRegistry_of_readsBack readsBack identifies⟩
  unfold performAll
  rw [List.foldl_append]
  exact (performAll_grows later _).code

/-- A registry that is not empty: a matrix type with its parts, and both kinds of sampler, after
calls of which one has failed. -/
theorem BuilderCall.matrix_faithful :
    let calls := [register (.matrix ⟨.half, 2, 3⟩), register (.array .streams 4),
      register .comparisonSampler]
    let builder := performAll calls (.initial .allNames)
    builder.typeId? (.matrix ⟨.half, 2, 3⟩) = some 3 ∧
      builder.typeId? (.vector ⟨.half, 2⟩) = some 2 ∧
      builder.typeId? .comparisonSampler = some 4 ∧
      builder.typeId? .sampler = some 4 ∧
      builder.FaithfulRegistry ∧
      ∃ after, (Build.register (.pointer (.matrix ⟨.half, 2, 3⟩))).run builder = .ok 5 after ∧
        after.typeId? (.pointer (.matrix ⟨.half, 2, 3⟩)) = some 5 := by
  intro calls builder
  have faithful : builder.FaithfulRegistry := (performAll_faithful .allNames calls []).2
  exact ⟨by decide, by decide, by decide, by decide, faithful,
    _, rfl, faithful.recorded _ _ _ rfl⟩

end ShaderLang
