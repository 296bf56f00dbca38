import ShaderLang.Proofs.Registration
import ShaderLang.Proofs.TableTypes

/-!
# The range of what is registered

A clean analysis leaves literals that are exact in their types, and types whose sizes fit in a word.
Registering such types and the constants of such literals keeps every registered constant in the
range of its type, and every unsigned constant is the length of a registered array.
-/

namespace ShaderLang

/-! ## Exact literals -/

/-- Whether every literal of an expression has an exact value in its type. -/
def Expression.isExact : Expression → Bool
  | .literal _ _ value => value.excess?.isNone
  | .identifier .. | .stream .. => true
  | .binary _ _ _ left right => left.isExact && right.isExact

mutual

/-- Whether every literal that a statement computes with has an exact value in its type. -/
def Statement.isExact : Statement → Bool
  | .declare _ _ _ _ value => value.all Expression.isExact
  | .assign _ _ value => value.isExact
  | .evaluate value => value.isExact
  | .exit _ value => value.all Expression.isExact
  | .block _ body => Statement.allExact body

/-- Whether every literal that statements compute with has an exact value in its type. -/
def Statement.allExact : List Statement → Bool
  | [] => true
  | statement :: rest => statement.isExact && Statement.allExact rest

end

/-- Every literal that a shader computes with has an exact value in its type. -/
structure Shader.HasExactLiterals (shader : Shader) : Prop where
  members : ∀ member ∈ shader.members, member.value.all Expression.isExact = true
  methods : ∀ method ∈ shader.methods, method.body.all Statement.allExact = true

section Checks

variable {before after : SymbolTable} {result : Unit}

theorem Expression.isExact_of_typing {expression : Expression} {entryPoint : Option EntryPoint}
    (clean : (expression.typing before entryPoint).reports = []) :
    expression.isExact = true := by
  induction expression with
  | literal node location value =>
      unfold Expression.typing at clean
      simpa [Expression.isExact] using clean
  | identifier node location name => rfl
  | stream node location name => rfl
  | binary node location operator left right leftHypothesis rightHypothesis =>
      unfold Expression.typing at clean
      obtain ⟨operandsClean, -⟩ := List.append_eq_nil_iff.mp clean
      obtain ⟨leftClean, rightClean⟩ := List.append_eq_nil_iff.mp operandsClean
      simp [Expression.isExact, leftHypothesis leftClean, rightHypothesis rightClean]

theorem Expression.isExact_of_check {expression : Expression} {context : BodyContext}
    {type : ShaderType}
    (passes : (expression.check context).Passes before type after) :
    expression.isExact = true :=
  Expression.isExact_of_typing (Expression.passes_check.mp passes).1

theorem isExact_of_checkInitializer {context : BodyContext} {expected : ShaderType}
    {value : Option Expression}
    (passes : (checkInitializer context expected value).Passes before result after) :
    value.all Expression.isExact = true := by
  cases value with
  | none => rfl
  | some expression =>
      obtain ⟨found, middle, checks, -⟩ := Check.passes_bind.mp passes
      exact Expression.isExact_of_check checks

theorem isExact_of_checkReturn {context : BodyContext} {location : Location}
    {value : Option Expression}
    (passes : (checkReturn context location value).Passes before result after) :
    value.all Expression.isExact = true := by
  cases value with
  | none => rfl
  | some expression =>
      obtain ⟨found, middle, checks, -⟩ := Check.passes_bind.mp passes
      exact Expression.isExact_of_check checks

mutual

theorem Statement.isExact_of_check {context : BodyContext} :
    ∀ (statement : Statement) {before after : SymbolTable} {result : Unit},
      (statement.check context).Passes before result after → statement.isExact = true
  | .declare node location written name value, before, after, result, passes => by
      obtain ⟨type, middle, -, initializes, -⟩ := Statement.passes_declare passes
      exact isExact_of_checkInitializer initializes
  | .assign location target value, before, after, result, passes => by
      obtain ⟨found, expected, middle, -, valueChecks, -, -⟩ := passes_checkAssignment passes
      exact Expression.isExact_of_check valueChecks
  | .evaluate value, before, after, result, passes => by
      obtain ⟨found, middle, checks, -⟩ := Check.passes_bind.mp passes
      exact Expression.isExact_of_check checks
  | .exit location value, before, after, result, passes => isExact_of_checkReturn passes
  | .block location body, before, after, result, passes => by
      obtain ⟨inner, checks, -⟩ := Check.passes_inFrame.mp passes
      exact Statement.allExact_of_checkAll body checks

theorem Statement.allExact_of_checkAll {context : BodyContext} :
    ∀ (body : List Statement) {before after : SymbolTable} {result : Unit},
      (Statement.checkAll context body).Passes before result after →
        Statement.allExact body = true
  | [], before, after, result, passes => rfl
  | statement :: rest, before, after, result, passes => by
      obtain ⟨_, middle, statementChecks, restChecks⟩ := Check.passes_bind.mp passes
      have statementExact := Statement.isExact_of_check statement statementChecks
      have restExact := Statement.allExact_of_checkAll rest restChecks
      simp [Statement.allExact, statementExact, restExact]

end

theorem Method.allExact_of_checkBody {method : Method}
    (passes : method.checkBody.Passes before result after) :
    method.body.all Statement.allExact = true := by
  cases present : method.body with
  | none => rfl
  | some body =>
      obtain ⟨opened, inner, -, statements, -, -⟩ := Method.passes_checkBody present passes
      exact Statement.allExact_of_checkAll body statements

theorem Shader.hasExactLiterals_of_check {shader : Shader}
    (passes : shader.check.Passes before result after) :
    shader.HasExactLiterals := by
  obtain ⟨components, declared, arguments, declares, -, bodies⟩ := Shader.passes_check passes
  obtain ⟨_, _, _, _, _, _, _, _, _, _, _, -, -, checkMembers, -, -, -, -⟩ :=
    Shader.passes_checkDeclarations declares
  constructor
  · intro member isMember
    obtain ⟨table, symbol, table', checks⟩ :=
      Check.passes_of_mem_collect checkMembers member isMember
    obtain ⟨type, middle, -, -, values, -⟩ := Member.passes_check checks
    obtain ⟨-, initializes⟩ := Member.passes_checkValue values
    exact isExact_of_checkInitializer initializes
  · intro method isMethod
    obtain ⟨table, table', checks⟩ := Check.passes_of_mem_forEach bodies method isMethod
    exact Method.allExact_of_checkBody checks

end Checks

/-! ## Ranges -/

/-- Whether a type is no placeholder, and its own sizes fit in a word.  No array is empty. -/
def ShaderType.isRepresentable : ShaderType → Bool
  | .undefined _ => false
  | .vector shape => shape.size ≤ 4294967295
  | .matrix shape => shape.rows ≤ 4294967295 && shape.columns ≤ 4294967295
  | .array _ size => 0 < size && size ≤ 4294967295
  | _ => true

theorem ShaderType.isRepresentable_suitsAnalysis (shader : Shader) (final : SymbolTable) :
    ShaderType.SuitsAnalysis shader final ShaderType.isRepresentable where
  undefined _ := rfl
  numeric := by decide
  sampler kind := by cases kind <;> rfl
  array base size _ positive bounded := by simp [isRepresentable, positive, bounded]
  struct _ _ _ _ := rfl
  function _ _ _ _ := rfl
  shader _ := rfl

/-- A test that the parts of a type pass which are registered with it, and that bounds lengths. -/
structure ShaderType.SuitsRegistration (test : ShaderType → Bool) : Prop where
  scalar : ∀ scalar, test (.scalar scalar) = true
  column : ∀ matrix, test (.matrix matrix) = true → test (.vector matrix.column) = true
  sampler : test .sampler = true
  array : ∀ base size, test (.array base size) = true → 0 < size ∧ size ≤ 4294967295

theorem ShaderType.isRepresentable_suitsRegistration :
    ShaderType.SuitsRegistration ShaderType.isRepresentable where
  scalar _ := rfl
  column _ representable := (Bool.and_eq_true_iff.mp representable).1
  sampler := rfl
  array base size representable := by simpa [isRepresentable] using representable

/-- A scalar type can hold a constant.  Truth values are zero and one, and unsigned constants are
lengths, which are positive. -/
def ScalarType.Holds : ScalarType → Constant → Prop
  | .bool, .int value => value = 0 ∨ value = 1
  | .int, .int value => -2147483648 ≤ value ∧ value ≤ 2147483647
  | .uint, .int value => 1 ≤ value ∧ value ≤ 4294967295
  | .float, .float value => value.isFinite = true
  | _, _ => False

theorem Literal.holds_constant {value : Literal} (exact' : value.excess?.isNone = true) :
    value.constant.1.Holds value.constant.2 := by
  cases value with
  | bool value =>
      cases value with
      | false => exact .inl rfl
      | true => exact .inr rfl
  | int value =>
      unfold Literal.excess? at exact'
      by_cases bounds : -2147483648 ≤ value ∧ value ≤ 2147483647
      · exact bounds
      · simp [bounds] at exact'
  | float value =>
      unfold Literal.excess? at exact'
      by_cases finite : value.isFinite = true
      · exact finite
      · simp [finite] at exact'

/-- No literal is unsigned. -/
theorem Literal.constant_ne_uint (value : Literal) : value.constant.1 ≠ .uint := by
  cases value <;> simp [Literal.constant]

/-! ## The registries -/

namespace ModuleBuilder

/-- The registered types pass a test and hold the registered constants.  An unsigned constant is the
length of a registered array, or of one whose registration is pending. -/
structure InRange (test : ShaderType → Bool) (pending : List Nat) (builder : ModuleBuilder) :
    Prop where
  types : ∀ entry ∈ builder.types, entry.1.everywhere test = true
  constants : ∀ entry ∈ builder.constants, entry.1.1.Holds entry.1.2
  lengths : ∀ (size : Nat) (id : ResultId), ((.uint, .int size), id) ∈ builder.constants →
    size ∈ pending ∨ ∃ base arrayId, (.array base size, arrayId) ∈ builder.types

theorem inRange_initial (test : ShaderType → Bool) (options : CompileOptions) :
    (initial options).InRange test [] :=
  ⟨List.forall_mem_nil _, List.forall_mem_nil _, by simp [initial]⟩

namespace InRange

variable {test : ShaderType → Bool} {pending : List Nat} {builder before after : ModuleBuilder}

theorem congr (inRange : before.InRange test pending)
    (sameTypes : after.types = before.types)
    (sameConstants : after.constants = before.constants) :
    after.InRange test pending := by
  obtain ⟨types, constants, lengths⟩ := inRange
  constructor
  · rwa [sameTypes]
  · rwa [sameConstants]
  · rwa [sameTypes, sameConstants]

/-- A registered type can serve as one of the pending arrays. -/
theorem addType {waiting : List Nat} {type : ShaderType}
    (inRange : builder.InRange test waiting)
    (passed : type.everywhere test = true)
    (served : ∀ size ∈ waiting, size ∈ pending ∨ ∃ base, type = .array base size)
    (id : ResultId) :
    (builder.addType type id).InRange test pending where
  types := List.forall_mem_cons.mpr ⟨passed, inRange.types⟩
  constants := inRange.constants
  lengths size constantId member := by
    rcases inRange.lengths size constantId member with waits | ⟨base, arrayId, registered⟩
    · rcases served size waits with stillWaits | ⟨base, rfl⟩
      · exact .inl stillWaits
      · exact .inr ⟨base, id, List.mem_cons_self⟩
    · exact .inr ⟨base, arrayId, List.mem_cons_of_mem _ registered⟩

theorem addDeclaredType {waiting : List Nat} {type : ShaderType}
    (inRange : builder.InRange test waiting)
    (passed : type.everywhere test = true)
    (served : ∀ size ∈ waiting, size ∈ pending ∨ ∃ base, type = .array base size)
    (id : ResultId) :
    (builder.addDeclaredType type id).InRange test pending := by
  have added := inRange.addType passed served id
  unfold ModuleBuilder.addDeclaredType
  split
  · exact added.congr rfl rfl
  · exact added

theorem addConstant {scalar : ScalarType} {value : Constant} {waiting : List Nat}
    (inRange : before.InRange test pending)
    (holds : scalar.Holds value)
    (waits : pending ⊆ waiting)
    (isLength : ∀ size : Nat, (scalar, value) = (.uint, .int size) → size ∈ waiting)
    (sameTypes : after.types = before.types) {id : ResultId}
    (constants : after.constants = ((scalar, value), id) :: before.constants) :
    after.InRange test waiting := by
  refine ⟨?_, ?_, ?_⟩
  · rw [sameTypes]
    exact inRange.types
  · rw [constants]
    exact List.forall_mem_cons.mpr ⟨holds, inRange.constants⟩
  · intro size other member
    rw [constants] at member
    rw [sameTypes]
    rcases List.mem_cons.mp member with same | older
    · exact .inl (isLength size (congrArg Prod.fst same).symm)
    · rcases inRange.lengths size other older with waitsAlready | registered
      · exact .inl (waits waitsAlready)
      · exact .inr registered

end InRange

end ModuleBuilder

/-! ## Registration -/

namespace Build

open ModuleBuilder

variable {test : ShaderType → Bool} {pending : List Nat} {before after : ModuleBuilder}
  {id : ResultId}

/-- A type that passes is registered behind steps that leave lengths pending of which
the type is the array. -/
theorem registered_inRange {type : ShaderType} {declare : Build ResultId} (waiting : List Nat)
    (run : (registered type declare).run before = .ok id after)
    (inRange : before.InRange test pending)
    (passed : type.everywhere test = true)
    (served : ∀ size ∈ waiting, size ∈ pending ∨ ∃ base, type = .array base size)
    (declares : ∀ result middle, declare.run before = .ok result middle →
      middle.InRange test waiting) :
    after.InRange test pending := by
  unfold registered at run
  rw [Run.run_get_bind] at run
  cases found : before.typeId? type with
  | some earlier =>
      rw [found] at run
      obtain ⟨rfl, rfl⟩ := Run.pure_eq_ok.mp run
      exact inRange
  | none =>
      rw [found] at run
      obtain ⟨result, middle, declareOk, rest⟩ := Run.bind_eq_ok.mp run
      rw [Run.bind_of_ok (Run.run_modify _ _)] at rest
      obtain ⟨rfl, rfl⟩ := Run.pure_eq_ok.mp rest
      exact (declares result middle declareOk).addDeclaredType passed served result

/-- A type whose declaration leaves no length pending. -/
theorem registered_inRange_plain {type : ShaderType} {declare : Build ResultId}
    (run : (registered type declare).run before = .ok id after)
    (inRange : before.InRange test pending)
    (passed : type.everywhere test = true)
    (declares : ∀ result middle, declare.run before = .ok result middle →
      middle.InRange test pending) :
    after.InRange test pending :=
  registered_inRange pending run inRange passed (fun _ waits => .inl waits) declares

theorem define_inRange {form : ResultId → Instruction}
    (run : (define form).run before = .ok id after)
    (inRange : before.InRange test pending) :
    after.InRange test pending := by
  rw [run_define] at run
  cases run
  exact inRange.congr rfl rfl

theorem registerScalar_inRange (suits : ShaderType.SuitsRegistration test) {scalar : ScalarType}
    (run : (registerScalar scalar).run before = .ok id after)
    (inRange : before.InRange test pending) :
    after.InRange test pending :=
  registered_inRange_plain run inRange (suits.scalar scalar) fun _ _ declareOk =>
    define_inRange declareOk inRange

/-- A type made of one other type. -/
theorem registered_inRange_behind {type : ShaderType} {component : Build ResultId}
    {form : ResultId → ResultId → Instruction}
    (run : (registered type (component >>= fun part => define (form part))).run before =
      .ok id after)
    (inRange : before.InRange test pending)
    (passed : type.everywhere test = true)
    (componentInRange : ∀ part middle, component.run before = .ok part middle →
      middle.InRange test pending) :
    after.InRange test pending := by
  refine registered_inRange_plain run inRange passed fun result middle declareOk => ?_
  obtain ⟨part, first, componentOk, defineOk⟩ := Run.bind_eq_ok.mp declareOk
  exact define_inRange defineOk (componentInRange part first componentOk)

theorem registerVector_inRange (suits : ShaderType.SuitsRegistration test) {vector : VectorType}
    (run : (registerVector vector).run before = .ok id after)
    (inRange : before.InRange test pending)
    (passed : test (.vector vector) = true) :
    after.InRange test pending :=
  registered_inRange_behind run inRange passed fun _ _ componentOk =>
    registerScalar_inRange suits componentOk inRange

theorem registerMatrix_inRange (suits : ShaderType.SuitsRegistration test) {matrix : MatrixType}
    (run : (registerMatrix matrix).run before = .ok id after)
    (inRange : before.InRange test pending)
    (passed : test (.matrix matrix) = true) :
    after.InRange test pending :=
  registered_inRange_behind run inRange passed fun _ _ columnOk =>
    registerVector_inRange suits columnOk inRange (suits.column matrix passed)

theorem registerConstant_inRange (suits : ShaderType.SuitsRegistration test)
    {scalar : ScalarType} {value : Constant} {waiting : List Nat}
    (run : (registerConstant scalar value).run before = .ok id after)
    (inRange : before.InRange test pending)
    (holds : scalar.Holds value)
    (waits : pending ⊆ waiting)
    (isLength : ∀ size : Nat, (scalar, value) = (.uint, .int size) → size ∈ waiting) :
    after.InRange test waiting := by
  unfold registerConstant at run
  rw [Run.run_get_bind] at run
  cases found : before.constantId? scalar value with
  | some earlier =>
      rw [found] at run
      obtain ⟨rfl, rfl⟩ := Run.pure_eq_ok.mp run
      refine ⟨inRange.types, inRange.constants, fun size other member => ?_⟩
      rcases inRange.lengths size other member with waitsAlready | registered
      · exact .inl (waits waitsAlready)
      · exact .inr registered
  | none =>
      simp only [found] at run
      split at run
      · exact absurd run Run.throw_ne_ok
      · obtain ⟨type, middle, scalarOk, rest⟩ := Run.bind_eq_ok.mp run
        rw [Run.bind_of_ok (run_define _ _), Run.bind_of_ok (Run.run_modify _ _)] at rest
        obtain ⟨rfl, rfl⟩ := Run.pure_eq_ok.mp rest
        exact (registerScalar_inRange suits scalarOk inRange).addConstant holds waits isLength
          rfl rfl

theorem registerSampler_inRange (suits : ShaderType.SuitsRegistration test)
    (run : registerSampler.run before = .ok id after)
    (inRange : before.InRange test pending) :
    after.InRange test pending :=
  registered_inRange_plain run inRange suits.sampler fun _ _ declareOk =>
    define_inRange declareOk inRange

theorem registerComparisonSampler_inRange (suits : ShaderType.SuitsRegistration test)
    (run : registerComparisonSampler.run before = .ok id after)
    (inRange : before.InRange test pending)
    (passed : ShaderType.comparisonSampler.everywhere test = true) :
    after.InRange test pending := by
  unfold registerComparisonSampler at run
  rw [Run.run_get_bind] at run
  cases found : before.typeId? .comparisonSampler with
  | some earlier =>
      rw [found] at run
      obtain ⟨rfl, rfl⟩ := Run.pure_eq_ok.mp run
      exact inRange
  | none =>
      rw [found] at run
      obtain ⟨plain, middle, samplerOk, rest⟩ := Run.bind_eq_ok.mp run
      rw [Run.bind_of_ok (Run.run_modify _ _)] at rest
      obtain ⟨rfl, rfl⟩ := Run.pure_eq_ok.mp rest
      have samplerInRange := registerSampler_inRange suits samplerOk inRange
      exact samplerInRange.addType passed (fun _ waits => .inl waits) plain

/-- An array leaves its length pending until it is registered itself. -/
theorem registerArray_inRange (suits : ShaderType.SuitsRegistration test) {base : ShaderType}
    {size : Nat} {component : Build ResultId}
    (run : (registered (.array base size) (component >>= fun element =>
      registerConstant .uint (.int size) >>= fun length =>
        define fun result => .typeArray result element length)).run before = .ok id after)
    (inRange : before.InRange test pending)
    (passed : (ShaderType.array base size).everywhere test = true)
    (componentInRange : ∀ part middle, component.run before = .ok part middle →
      middle.InRange test pending) :
    after.InRange test pending := by
  have sized := suits.array base size (ShaderType.test_of_everywhere passed)
  have served : ∀ other ∈ size :: pending,
      other ∈ pending ∨ ∃ element, ShaderType.array base size = .array element other := by
    intro other waits
    rcases List.mem_cons.mp waits with rfl | pendingAlready
    · exact .inr ⟨base, rfl⟩
    · exact .inl pendingAlready
  refine registered_inRange (size :: pending) run inRange passed served ?_
  intro result middle declareOk
  obtain ⟨element, first, componentOk, rest⟩ := Run.bind_eq_ok.mp declareOk
  obtain ⟨length, second, lengthOk, defineOk⟩ := Run.bind_eq_ok.mp rest
  have holds : ScalarType.uint.Holds (.int size) := by
    constructor <;> omega
  have isLength : ∀ other : Nat, (ScalarType.uint, Constant.int size) = (.uint, .int other) →
      other ∈ size :: pending := by
    intro other same
    have sameSize : (size : Int) = other := by simpa using same
    rw [← Int.natCast_inj.mp sameSize]
    exact List.mem_cons_self
  exact define_inRange defineOk (registerConstant_inRange suits lengthOk
    (componentInRange element first componentOk) holds (List.subset_cons_self _ _) isLength)

mutual

/-- Registering a type that passes keeps the registries in range. -/
theorem register_inRange (suits : ShaderType.SuitsRegistration test) :
    ∀ (type : ShaderType) {pending : List Nat} {before after : ModuleBuilder} {id : ResultId},
      (register type).run before = .ok id after → before.InRange test pending →
        type.everywhere test = true → after.InRange test pending
  | .undefined name, _, _, _, _, run, inRange, passed => by
      refine registered_inRange_plain run inRange passed fun _ _ declareOk => ?_
      exact absurd declareOk Run.throw_ne_ok
  | .scalar scalar, _, _, _, _, run, inRange, _ => registerScalar_inRange suits run inRange
  | .vector vector, _, _, _, _, run, inRange, passed =>
      registerVector_inRange suits run inRange passed
  | .matrix matrix, _, _, _, _, run, inRange, passed =>
      registerMatrix_inRange suits run inRange passed
  | .array base size, _, _, _, _, run, inRange, passed =>
      registerArray_inRange suits run inRange passed fun _ _ baseOk =>
        register_inRange suits base baseOk inRange (Bool.and_eq_true_iff.mp passed).2
  | .pointer base, _, _, _, _, run, inRange, passed =>
      registered_inRange_behind run inRange passed fun _ _ baseOk =>
        register_inRange suits base baseOk inRange (Bool.and_eq_true_iff.mp passed).2
  | .struct name fields, _, _, _, _, run, inRange, passed => by
      refine registered_inRange_plain run inRange passed fun result middle declareOk => ?_
      obtain ⟨members, first, fieldsOk, rest⟩ := Run.bind_eq_ok.mp declareOk
      rw [Run.bind_of_ok (run_define _ _)] at rest
      obtain ⟨_, named, namesOk, finished⟩ := Run.bind_eq_ok.mp rest
      obtain ⟨rfl, rfl⟩ := Run.pure_eq_ok.mp finished
      rw [emitMemberNames_eq_ok namesOk name]
      exact (registerFields_inRange suits fields fieldsOk inRange
        (Bool.and_eq_true_iff.mp passed).2).congr rfl rfl
  | .function returned parameters, _, _, _, _, run, inRange, passed => by
      refine registered_inRange_plain run inRange passed fun result middle declareOk => ?_
      obtain ⟨-, partsPassed⟩ := Bool.and_eq_true_iff.mp passed
      obtain ⟨returnedPassed, parametersPassed⟩ :=
        Bool.and_eq_true_iff.mp partsPassed
      obtain ⟨returnedId, first, returnedOk, rest⟩ := Run.bind_eq_ok.mp declareOk
      obtain ⟨parameterIds, second, parametersOk, defineOk⟩ := Run.bind_eq_ok.mp rest
      have returnedInRange := register_inRange suits returned returnedOk inRange returnedPassed
      exact define_inRange defineOk
        (registerAll_inRange suits parameters parametersOk returnedInRange parametersPassed)
  | .sampler, _, _, _, _, run, inRange, _ => registerSampler_inRange suits run inRange
  | .comparisonSampler, _, _, _, _, run, inRange, passed =>
      registerComparisonSampler_inRange suits run inRange passed
  | .buffer base size, _, _, _, _, run, inRange, passed =>
      registered_inRange_behind run inRange passed fun _ _ baseOk =>
        register_inRange suits base baseOk inRange (Bool.and_eq_true_iff.mp passed).2
  | .texture1D base size, _, _, _, _, run, inRange, passed =>
      registered_inRange_behind run inRange passed fun _ _ baseOk =>
        register_inRange suits base baseOk inRange (Bool.and_eq_true_iff.mp passed).2
  | .texture2D base width height, _, _, _, _, run, inRange, passed =>
      registered_inRange_behind run inRange passed fun _ _ baseOk =>
        register_inRange suits base baseOk inRange (Bool.and_eq_true_iff.mp passed).2
  | .texture3D base width height depth, _, _, _, _, run, inRange, passed =>
      registered_inRange_behind run inRange passed fun _ _ baseOk =>
        register_inRange suits base baseOk inRange (Bool.and_eq_true_iff.mp passed).2
  | .streams, _, _, _, _, run, inRange, passed => by
      refine registered_inRange_plain run inRange passed fun _ _ declareOk => ?_
      exact absurd declareOk Run.throw_ne_ok
  | .group kind name symbols, _, _, _, _, run, inRange, passed => by
      refine registered_inRange_plain run inRange passed fun _ _ declareOk => ?_
      exact absurd declareOk Run.throw_ne_ok
  | .shader name components, _, _, _, _, run, inRange, passed => by
      refine registered_inRange_plain run inRange passed fun _ _ declareOk => ?_
      exact absurd declareOk Run.throw_ne_ok

theorem registerAll_inRange (suits : ShaderType.SuitsRegistration test) :
    ∀ (types : List ShaderType) {pending : List Nat} {before after : ModuleBuilder}
      {ids : List ResultId},
      (registerAll types).run before = .ok ids after → before.InRange test pending →
        ShaderType.allEverywhere test types = true → after.InRange test pending
  | [], _, _, _, _, run, inRange, _ => by
      obtain ⟨-, rfl⟩ := Run.pure_eq_ok.mp run
      exact inRange
  | type :: rest, _, _, _, _, run, inRange, passed => by
      obtain ⟨typePassed, restPassed⟩ := Bool.and_eq_true_iff.mp passed
      obtain ⟨id, first, typeOk, restRun⟩ := Run.bind_eq_ok.mp run
      obtain ⟨restIds, second, restOk, finished⟩ := Run.bind_eq_ok.mp restRun
      obtain ⟨-, rfl⟩ := Run.pure_eq_ok.mp finished
      have typeInRange := register_inRange suits type typeOk inRange typePassed
      exact registerAll_inRange suits rest restOk typeInRange restPassed

theorem registerField_inRange (suits : ShaderType.SuitsRegistration test) :
    ∀ (field : Field) {pending : List Nat} {before after : ModuleBuilder} {id : ResultId},
      (registerField field).run before = .ok id after → before.InRange test pending →
        field.everywhere test = true → after.InRange test pending
  | ⟨_, type⟩, _, _, _, _, run, inRange, passed =>
      register_inRange suits type run inRange passed

theorem registerFields_inRange (suits : ShaderType.SuitsRegistration test) :
    ∀ (fields : List Field) {pending : List Nat} {before after : ModuleBuilder}
      {ids : List ResultId},
      (registerFields fields).run before = .ok ids after → before.InRange test pending →
        Field.allEverywhere test fields = true → after.InRange test pending
  | [], _, _, _, _, run, inRange, _ => by
      obtain ⟨-, rfl⟩ := Run.pure_eq_ok.mp run
      exact inRange
  | field :: rest, _, _, _, _, run, inRange, passed => by
      obtain ⟨fieldPassed, restPassed⟩ := Bool.and_eq_true_iff.mp passed
      obtain ⟨id, first, fieldOk, restRun⟩ := Run.bind_eq_ok.mp run
      obtain ⟨restIds, second, restOk, finished⟩ := Run.bind_eq_ok.mp restRun
      obtain ⟨-, rfl⟩ := Run.pure_eq_ok.mp finished
      have fieldInRange := registerField_inRange suits field fieldOk inRange fieldPassed
      exact registerFields_inRange suits rest restOk fieldInRange restPassed

end

end Build

end ShaderLang
