import Mathlib.Logic.Relation
import ShaderLang.Proofs.Lists
import ShaderLang.Proofs.Steps

/-!
# What registration does

Registering a type or a constant is a sequence of declarations.  One declaration adds one entry to a
registry, and everything that the declared type or constant is made of is registered before it.
Every fact about registration is proved for one declaration and follows for all registrations.
-/

namespace ShaderLang

/-! ## One declaration -/

/-- The sampled type and the dimensionality of an image type. -/
def ShaderType.image? : ShaderType → Option (ShaderType × Dimension)
  | .buffer base _ => some (base, .buffer)
  | .texture1D base _ => some (base, .one)
  | .texture2D base _ _ => some (base, .two)
  | .texture3D base _ _ _ => some (base, .three)
  | _ => none

namespace ModuleBuilder

/-- The instruction that declares a type, as a function of the id it is declared with.  The types
and constants that it is made of are registered. -/
inductive TypeForm (builder : ModuleBuilder) : ShaderType → (ResultId → Instruction) → Prop
  | scalar (scalar : ScalarType) :
      TypeForm builder (.scalar scalar) fun result => Build.scalarDeclaration result scalar
  | vector {vector : VectorType} {component : ResultId}
      (componentId : builder.typeId? (.scalar vector.base) = some component) :
      TypeForm builder (.vector vector) fun result => .typeVector result component vector.size
  | matrix {matrix : MatrixType} {column : ResultId}
      (columnId : builder.typeId? (.vector matrix.column) = some column) :
      TypeForm builder (.matrix matrix) fun result => .typeMatrix result column matrix.columns
  | array {base : ShaderType} {size : Nat} {element length : ResultId}
      (elementId : builder.typeId? base = some element)
      (lengthId : builder.constantId? .uint (.int size) = some length) :
      TypeForm builder (.array base size) fun result => .typeArray result element length
  | pointer {base : ShaderType} {pointee : ResultId}
      (pointeeId : builder.typeId? base = some pointee) :
      TypeForm builder (.pointer base) fun result => .typePointer result .function pointee
  | struct {name : String} {fields : List Field} {members : List ResultId}
      (memberIds : List.Forall₂ (fun field id => builder.typeId? field.type = some id)
        fields members) :
      TypeForm builder (.struct name fields) fun result => .typeStruct result members
  | function {returned : ShaderType} {parameters : List ShaderType} {returnedId : ResultId}
      {parameterIds : List ResultId}
      (returnedType : builder.typeId? returned = some returnedId)
      (parameterTypes : List.Forall₂ (fun type id => builder.typeId? type = some id)
        parameters parameterIds) :
      TypeForm builder (.function returned parameters) fun result =>
        .typeFunction result returnedId parameterIds
  | sampler : TypeForm builder .sampler .typeSampler
  | image {type base : ShaderType} {dimension : Dimension} {sampled : ResultId}
      (isImage : type.image? = some (base, dimension))
      (sampledId : builder.typeId? base = some sampled) :
      TypeForm builder type fun result => .typeImage result sampled dimension

/-- The member names that are emitted behind the declaration of a type. -/
def memberNames (options : CompileOptions) (id : ResultId) : ShaderType → List Instruction
  | .struct _ fields =>
      if options.debugNames then Build.memberNaming id fields else []
  | _ => []

/-- The builder after the declaration of a type. -/
def declared (builder : ModuleBuilder) (type : ShaderType) (form : ResultId → Instruction) :
    ModuleBuilder :=
  { builder.defined form with
    code := (builder.defined form).code ++
      memberNames builder.options builder.bound type }.addDeclaredType type builder.bound

/-- The builder after the declaration of a constant. -/
def withConstant (builder : ModuleBuilder) (scalar : ScalarType) (value : Constant)
    (type : ResultId) : ModuleBuilder :=
  { builder.defined (Build.constantDeclaration scalar value type) with
    constants := ((scalar, value), builder.bound) :: builder.constants }

end ModuleBuilder

mutual

/-- A type weighs more than every type that its declaration needs. -/
def ShaderType.weight : ShaderType → Nat
  | .undefined _ | .scalar _ | .sampler | .streams | .group .. | .shader .. => 0
  | .vector _ | .comparisonSampler => 1
  | .matrix _ => 2
  | .array base _ | .pointer base | .buffer base _ | .texture1D base _ => base.weight + 1
  | .texture2D base _ _ => base.weight + 1
  | .texture3D base _ _ _ => base.weight + 1
  | .struct _ fields => Field.totalWeight fields + 1
  | .function returned parameters => returned.weight + ShaderType.totalWeight parameters + 1

/-- The weight of types together. -/
def ShaderType.totalWeight : List ShaderType → Nat
  | [] => 0
  | type :: rest => type.weight + ShaderType.totalWeight rest

/-- The weight of the type of a field. -/
def Field.weight : Field → Nat
  | ⟨_, type⟩ => type.weight

/-- The weight of the types of fields together. -/
def Field.totalWeight : List Field → Nat
  | [] => 0
  | field :: rest => field.weight + Field.totalWeight rest

end

namespace ModuleBuilder

/-- One declaration of a type of at most the given weight, or of a constant. -/
inductive Declaration (limit : Nat) : ModuleBuilder → ModuleBuilder → Prop
  | type {builder : ModuleBuilder} {type : ShaderType} {form : ResultId → Instruction}
      (light : type.weight ≤ limit)
      (unregistered : builder.typeId? type = none)
      (written : builder.TypeForm type form) :
      Declaration limit builder (builder.declared type form)
  /-- The comparison sampler type takes the id of the plain one. -/
  | comparison {builder : ModuleBuilder} {id : ResultId}
      (light : ShaderType.comparisonSampler.weight ≤ limit)
      (unregistered : builder.typeId? .comparisonSampler = none)
      (plain : builder.typeId? .sampler = some id) :
      Declaration limit builder (builder.addType .comparisonSampler id)
  | constant {builder : ModuleBuilder} {scalar : ScalarType} {value : Constant} {type : ResultId}
      (unregistered : builder.constantId? scalar value = none)
      (valued : scalar ≠ .void)
      (typed : builder.typeId? (.scalar scalar) = some type) :
      Declaration limit builder (builder.withConstant scalar value type)

/-- Declarations of types of at most the given weight, and of constants. -/
abbrev Reaches (limit : Nat) : ModuleBuilder → ModuleBuilder → Prop :=
  Relation.ReflTransGen (Declaration limit)

theorem Declaration.weaken {limit limit' : Nat} {before after : ModuleBuilder}
    (declaration : Declaration limit before after)
    (lighter : limit ≤ limit') :
    Declaration limit' before after := by
  cases declaration with
  | type light unregistered written => exact .type (Nat.le_trans light lighter) unregistered written
  | comparison light unregistered plain =>
      exact .comparison (Nat.le_trans light lighter) unregistered plain
  | constant unregistered valued typed => exact .constant unregistered valued typed

theorem Reaches.weaken {limit limit' : Nat} {before after : ModuleBuilder}
    (reaches : Reaches limit before after)
    (lighter : limit ≤ limit') :
    Reaches limit' before after :=
  Relation.ReflTransGen.mono (fun _ _ declaration => declaration.weaken lighter) _ _ reaches

/-- Declarations one after the other weigh at most as much as both together. -/
theorem Reaches.append {limit limit' : Nat} {before middle after : ModuleBuilder}
    (first : Reaches limit before middle)
    (second : Reaches limit' middle after) :
    Reaches (limit + limit') before after :=
  (first.weaken (Nat.le_add_right limit limit')).trans
    (second.weaken (Nat.le_add_left limit' limit))

/-! ## Registries only grow -/

variable {limit : Nat} {before after : ModuleBuilder}

@[simp]
theorem types_declared (builder : ModuleBuilder) (type : ShaderType)
    (form : ResultId → Instruction) :
    (builder.declared type form).types = (type, builder.bound) :: builder.types := by
  unfold declared addDeclaredType
  split <;> rfl

@[simp]
theorem constants_declared (builder : ModuleBuilder) (type : ShaderType)
    (form : ResultId → Instruction) :
    (builder.declared type form).constants = builder.constants := by
  unfold declared addDeclaredType
  split <;> rfl

theorem typeId?_declared (builder : ModuleBuilder) (type : ShaderType)
    (form : ResultId → Instruction) (asked : ShaderType) :
    (builder.declared type form).typeId? asked =
      if asked = type then some builder.bound else builder.typeId? asked := by
  unfold typeId?
  rw [types_declared, lookup_cons_eq]

theorem typeId?_addType (builder : ModuleBuilder) (type : ShaderType) (id : ResultId)
    (asked : ShaderType) :
    (builder.addType type id).typeId? asked =
      if asked = type then some id else builder.typeId? asked :=
  lookup_cons_eq type asked id builder.types

theorem constantId?_withConstant (builder : ModuleBuilder) (scalar : ScalarType)
    (value : Constant) (type : ResultId) (askedScalar : ScalarType) (asked : Constant) :
    (builder.withConstant scalar value type).constantId? askedScalar asked =
      if (askedScalar, asked) = (scalar, value) then some builder.bound
      else builder.constantId? askedScalar asked :=
  lookup_cons_eq (scalar, value) (askedScalar, asked) builder.bound builder.constants

/-- A registered type keeps its id. -/
theorem Declaration.typeId?_eq_some (declaration : Declaration limit before after)
    {type : ShaderType} {id : ResultId}
    (registered : before.typeId? type = some id) :
    after.typeId? type = some id := by
  cases declaration with
  | @type declared form light unregistered written =>
      rw [typeId?_declared, if_neg, registered]
      rintro rfl
      simp [unregistered] at registered
  | comparison light unregistered plain =>
      rw [typeId?_addType, if_neg, registered]
      rintro rfl
      simp [unregistered] at registered
  | constant unregistered valued typed => exact registered

/-- A registered constant keeps its id. -/
theorem Declaration.constantId?_eq_some (declaration : Declaration limit before after)
    {scalar : ScalarType} {value : Constant} {id : ResultId}
    (registered : before.constantId? scalar value = some id) :
    after.constantId? scalar value = some id := by
  cases declaration with
  | @type declared form light unregistered written =>
      unfold constantId?
      rw [constants_declared]
      exact registered
  | comparison light unregistered plain => exact registered
  | constant unregistered valued typed =>
      rw [constantId?_withConstant, if_neg, registered]
      intro same
      obtain ⟨rfl, rfl⟩ := Prod.mk.inj same
      simp [unregistered] at registered

/-- A type that is heavier than everything declared is not registered by it. -/
theorem Declaration.typeId?_eq_none (declaration : Declaration limit before after)
    {type : ShaderType} (heavy : limit < type.weight)
    (unregistered : before.typeId? type = none) :
    after.typeId? type = none := by
  cases declaration with
  | @type declared form light _ written =>
      rw [typeId?_declared, if_neg, unregistered]
      rintro rfl
      omega
  | comparison light _ plain =>
      rw [typeId?_addType, if_neg, unregistered]
      rintro rfl
      omega
  | constant _ valued typed => exact unregistered

theorem Reaches.typeId?_eq_some (reaches : Reaches limit before after)
    {type : ShaderType} {id : ResultId}
    (registered : before.typeId? type = some id) :
    after.typeId? type = some id := by
  induction reaches with
  | refl => exact registered
  | tail _ declaration inductionHypothesis => exact declaration.typeId?_eq_some inductionHypothesis

theorem Reaches.typeId?_eq_none (reaches : Reaches limit before after)
    {type : ShaderType} (heavy : limit < type.weight)
    (unregistered : before.typeId? type = none) :
    after.typeId? type = none := by
  induction reaches with
  | refl => exact unregistered
  | tail _ declaration inductionHypothesis =>
      exact declaration.typeId?_eq_none heavy inductionHypothesis

end ModuleBuilder

/-! ## Registrations are declarations -/

namespace Build

open ModuleBuilder

variable {before after : ModuleBuilder} {id : ResultId}

/-- A type is registered by one declaration behind what its declaring step declares. -/
theorem registered_reaches {type : ShaderType} {declare : Build ResultId}
    (run : (registered type declare).run before = .ok id after)
    (declares : before.typeId? type = none →
      ∀ result middle, declare.run before = .ok result middle →
        ∃ builder form, Reaches type.weight before builder ∧
          builder.typeId? type = none ∧ builder.TypeForm type form ∧
          result = builder.bound ∧
          middle.addDeclaredType type result = builder.declared type form) :
    Reaches type.weight before after ∧ after.typeId? type = some id := by
  unfold registered at run
  rw [Run.run_get_bind] at run
  cases found : before.typeId? type with
  | some earlier =>
      rw [found] at run
      obtain ⟨rfl, rfl⟩ := Run.pure_eq_ok.mp run
      exact ⟨.refl, found⟩
  | none =>
      rw [found] at run
      obtain ⟨result, middle, declareOk, rest⟩ := Run.bind_eq_ok.mp run
      obtain ⟨builder, form, reaches, unregistered, written, rfl, same⟩ :=
        declares found result middle declareOk
      rw [Run.bind_of_ok (Run.run_modify _ _)] at rest
      obtain ⟨rfl, rfl⟩ := Run.pure_eq_ok.mp rest
      rw [same]
      refine ⟨reaches.tail (.type (Nat.le_refl _) unregistered written), ?_⟩
      rw [typeId?_declared, if_pos rfl]

theorem declared_eq_of_plain {builder : ModuleBuilder} {type : ShaderType}
    {form : ResultId → Instruction}
    (plain : memberNames builder.options builder.bound type = []) :
    (builder.defined form).addDeclaredType type builder.bound = builder.declared type form := by
  unfold declared
  rw [plain, List.append_nil]

/-- A type made of others is registered behind them. -/
theorem registered_composite {type : ShaderType} {declare : Build ResultId} (limit : Nat)
    (run : (registered type declare).run before = .ok id after)
    (light : limit < type.weight)
    (plain : ∀ options result, memberNames options result type = [])
    (declares : ∀ result middle, declare.run before = .ok result middle →
      ∃ builder form, Reaches limit before builder ∧ builder.TypeForm type form ∧
        result = builder.bound ∧ middle = builder.defined form) :
    Reaches type.weight before after ∧ after.typeId? type = some id := by
  refine registered_reaches run fun unregistered result middle declareOk => ?_
  obtain ⟨builder, form, reaches, written, rfl, rfl⟩ := declares result middle declareOk
  refine ⟨builder, form, reaches.weaken (Nat.le_of_lt light), ?_, written, rfl, ?_⟩
  · exact reaches.typeId?_eq_none light unregistered
  · exact declared_eq_of_plain (plain _ _)

theorem registerScalar_reaches {scalar : ScalarType}
    (run : (registerScalar scalar).run before = .ok id after) :
    Reaches 0 before after ∧ after.typeId? (.scalar scalar) = some id := by
  refine registered_reaches run fun unregistered result middle declareOk => ?_
  rw [run_define] at declareOk
  cases declareOk
  exact ⟨before, _, .refl, unregistered, .scalar scalar, rfl, declared_eq_of_plain rfl⟩

theorem constants_registerScalar {scalar : ScalarType}
    (run : (registerScalar scalar).run before = .ok id after) :
    after.constants = before.constants := by
  unfold registerScalar registered at run
  rw [Run.run_get_bind] at run
  cases found : before.typeId? (.scalar scalar) with
  | some earlier =>
      rw [found] at run
      obtain ⟨-, rfl⟩ := Run.pure_eq_ok.mp run
      rfl
  | none =>
      rw [found] at run
      dsimp only at run
      rw [Run.bind_of_ok (run_define _ _), Run.bind_of_ok (Run.run_modify _ _),
        declared_eq_of_plain rfl] at run
      obtain ⟨-, rfl⟩ := Run.pure_eq_ok.mp run
      exact constants_declared _ _ _

theorem registerVector_reaches {vector : VectorType}
    (run : (registerVector vector).run before = .ok id after) :
    Reaches 1 before after ∧ after.typeId? (.vector vector) = some id := by
  refine registered_composite 0 run Nat.zero_lt_one (fun _ _ => rfl) ?_
  intro result middle declareOk
  obtain ⟨component, builder, componentOk, defineOk⟩ := Run.bind_eq_ok.mp declareOk
  obtain ⟨reaches, componentId⟩ := registerScalar_reaches componentOk
  rw [run_define] at defineOk
  cases defineOk
  exact ⟨builder, _, reaches, .vector componentId, rfl, rfl⟩

theorem registerMatrix_reaches {matrix : MatrixType}
    (run : (registerMatrix matrix).run before = .ok id after) :
    Reaches 2 before after ∧ after.typeId? (.matrix matrix) = some id := by
  refine registered_composite 1 run Nat.one_lt_two (fun _ _ => rfl) ?_
  intro result middle declareOk
  obtain ⟨column, builder, columnOk, defineOk⟩ := Run.bind_eq_ok.mp declareOk
  obtain ⟨reaches, columnId⟩ := registerVector_reaches columnOk
  rw [run_define] at defineOk
  cases defineOk
  exact ⟨builder, _, reaches, .matrix columnId, rfl, rfl⟩

theorem registerConstant_reaches {scalar : ScalarType} {value : Constant}
    (run : (registerConstant scalar value).run before = .ok id after) :
    Reaches 0 before after ∧ after.constantId? scalar value = some id := by
  unfold registerConstant at run
  rw [Run.run_get_bind] at run
  cases found : before.constantId? scalar value with
  | some earlier =>
      rw [found] at run
      obtain ⟨rfl, rfl⟩ := Run.pure_eq_ok.mp run
      exact ⟨.refl, found⟩
  | none =>
      simp only [found] at run
      split at run
      · exact absurd run Run.throw_ne_ok
      · next valued =>
          obtain ⟨type, middle, scalarOk, rest⟩ := Run.bind_eq_ok.mp run
          obtain ⟨reaches, typed⟩ := registerScalar_reaches scalarOk
          rw [Run.bind_of_ok (run_define _ _), Run.bind_of_ok (Run.run_modify _ _)] at rest
          obtain ⟨rfl, rfl⟩ := Run.pure_eq_ok.mp rest
          have unregistered : middle.constantId? scalar value = none := by
            unfold constantId?
            rw [constants_registerScalar scalarOk]
            exact found
          refine ⟨reaches.tail (.constant unregistered valued typed), ?_⟩
          exact (constantId?_withConstant middle scalar value type scalar value).trans (if_pos rfl)

theorem registerSampler_reaches (limit : Nat)
    (run : registerSampler.run before = .ok id after) :
    Reaches limit before after ∧ after.typeId? .sampler = some id := by
  have registered := registered_reaches run fun unregistered result middle declareOk => by
    rw [run_define] at declareOk
    cases declareOk
    exact ⟨before, _, .refl, unregistered, .sampler, rfl, declared_eq_of_plain rfl⟩
  exact ⟨registered.1.weaken (Nat.zero_le limit), registered.2⟩

theorem registerComparisonSampler_reaches
    (run : registerComparisonSampler.run before = .ok id after) :
    Reaches 1 before after ∧ after.typeId? .comparisonSampler = some id := by
  unfold registerComparisonSampler at run
  rw [Run.run_get_bind] at run
  cases found : before.typeId? .comparisonSampler with
  | some earlier =>
      rw [found] at run
      obtain ⟨rfl, rfl⟩ := Run.pure_eq_ok.mp run
      exact ⟨.refl, found⟩
  | none =>
      rw [found] at run
      obtain ⟨plain, middle, samplerOk, rest⟩ := Run.bind_eq_ok.mp run
      obtain ⟨reaches, plainId⟩ := registerSampler_reaches 0 samplerOk
      rw [Run.bind_of_ok (Run.run_modify _ _)] at rest
      obtain ⟨rfl, rfl⟩ := Run.pure_eq_ok.mp rest
      have unregistered : middle.typeId? .comparisonSampler = none :=
        reaches.typeId?_eq_none Nat.zero_lt_one found
      refine ⟨(reaches.weaken (Nat.zero_le 1)).tail (.comparison (Nat.le_refl 1) unregistered
        plainId), ?_⟩
      rw [typeId?_addType, if_pos rfl]

theorem emitMemberNames_eq_ok {type : ResultId} {fields : List Field}
    (named : (emitMemberNames type fields).run before = .ok () after) (name : String) :
    after = { before with
      code := before.code ++ memberNames before.options type (.struct name fields) } := by
  unfold emitMemberNames at named
  rw [Run.run_modify] at named
  cases named
  unfold memberNames
  split
  · rfl
  · rw [List.append_nil]

/-- An image type is registered behind its sampled type. -/
theorem registerImage_reaches {type base : ShaderType} {dimension : Dimension}
    {component : Build ResultId}
    (run : (registered type (component >>= fun sampled =>
      define fun result => .typeImage result sampled dimension)).run before = .ok id after)
    (isImage : type.image? = some (base, dimension))
    (light : base.weight < type.weight)
    (reached : ∀ sampled middle, component.run before = .ok sampled middle →
      Reaches base.weight before middle ∧ middle.typeId? base = some sampled) :
    Reaches type.weight before after ∧ after.typeId? type = some id := by
  have plain : ∀ options result, memberNames options result type = [] := by
    intro options result
    cases type <;> simp_all [ShaderType.image?, memberNames]
  refine registered_composite base.weight run light plain ?_
  intro result middle declareOk
  obtain ⟨sampled, builder, componentOk, defineOk⟩ := Run.bind_eq_ok.mp declareOk
  obtain ⟨reaches, sampledId⟩ := reached sampled builder componentOk
  rw [run_define] at defineOk
  cases defineOk
  exact ⟨builder, _, reaches, .image isImage sampledId, rfl, rfl⟩

mutual

/-- Registering a type declares at most types of its weight, and gives its id. -/
theorem register_reaches : ∀ (type : ShaderType) {before after : ModuleBuilder} {id : ResultId},
    (register type).run before = .ok id after →
      Reaches type.weight before after ∧ after.typeId? type = some id
  | .undefined name, _, _, _, run => by
      refine registered_reaches run fun _ result middle declareOk => ?_
      exact absurd declareOk Run.throw_ne_ok
  | .scalar scalar, _, _, _, run => registerScalar_reaches run
  | .vector vector, _, _, _, run => registerVector_reaches run
  | .matrix matrix, _, _, _, run => registerMatrix_reaches run
  | .array base size, _, _, _, run => by
      refine registered_composite base.weight run (Nat.lt_succ_self _) (fun _ _ => rfl) ?_
      intro result middle declareOk
      obtain ⟨element, first, baseOk, rest⟩ := Run.bind_eq_ok.mp declareOk
      obtain ⟨length, builder, lengthOk, defineOk⟩ := Run.bind_eq_ok.mp rest
      obtain ⟨baseReaches, elementId⟩ := register_reaches base baseOk
      obtain ⟨lengthReaches, lengthId⟩ := registerConstant_reaches lengthOk
      rw [run_define] at defineOk
      cases defineOk
      have reaches := baseReaches.trans (lengthReaches.weaken (Nat.zero_le _))
      exact ⟨builder, _, reaches,
        .array (lengthReaches.typeId?_eq_some elementId) lengthId, rfl, rfl⟩
  | .pointer base, _, _, _, run => by
      refine registered_composite base.weight run (Nat.lt_succ_self _) (fun _ _ => rfl) ?_
      intro result middle declareOk
      obtain ⟨pointee, builder, baseOk, defineOk⟩ := Run.bind_eq_ok.mp declareOk
      obtain ⟨reaches, pointeeId⟩ := register_reaches base baseOk
      rw [run_define] at defineOk
      cases defineOk
      exact ⟨builder, _, reaches, .pointer pointeeId, rfl, rfl⟩
  | .struct name fields, _, _, _, run => by
      refine registered_reaches run fun unregistered result middle declareOk => ?_
      obtain ⟨members, builder, fieldsOk, rest⟩ := Run.bind_eq_ok.mp declareOk
      obtain ⟨reaches, memberIds⟩ := registerFields_reaches fields fieldsOk
      rw [Run.bind_of_ok (run_define _ _)] at rest
      obtain ⟨_, named, namesOk, finished⟩ := Run.bind_eq_ok.mp rest
      obtain ⟨rfl, rfl⟩ := Run.pure_eq_ok.mp finished
      have names := emitMemberNames_eq_ok namesOk name
      have light : Field.totalWeight fields < (ShaderType.struct name fields).weight :=
        Nat.lt_succ_self _
      refine ⟨builder, fun result => .typeStruct result members,
        reaches.weaken (Nat.le_of_lt light), reaches.typeId?_eq_none light unregistered,
        .struct memberIds, rfl, ?_⟩
      rw [names]
      rfl
  | .function returned parameters, _, _, _, run => by
      refine registered_composite (returned.weight + ShaderType.totalWeight parameters) run
        (Nat.lt_succ_self _) (fun _ _ => rfl) ?_
      intro result middle declareOk
      obtain ⟨returnedId, first, returnedOk, rest⟩ := Run.bind_eq_ok.mp declareOk
      obtain ⟨parameterIds, builder, parametersOk, defineOk⟩ := Run.bind_eq_ok.mp rest
      obtain ⟨returnedReaches, returnedType⟩ := register_reaches returned returnedOk
      obtain ⟨parametersReach, parameterTypes⟩ := registerAll_reaches parameters parametersOk
      rw [run_define] at defineOk
      cases defineOk
      exact ⟨builder, _, returnedReaches.append parametersReach,
        .function (parametersReach.typeId?_eq_some returnedType) parameterTypes, rfl, rfl⟩
  | .sampler, _, _, _, run => registerSampler_reaches 0 run
  | .comparisonSampler, _, _, _, run => registerComparisonSampler_reaches run
  | .buffer base size, _, _, _, run =>
      registerImage_reaches run rfl (Nat.lt_succ_self _) fun _ _ => register_reaches base
  | .texture1D base size, _, _, _, run =>
      registerImage_reaches run rfl (Nat.lt_succ_self _) fun _ _ => register_reaches base
  | .texture2D base width height, _, _, _, run =>
      registerImage_reaches run rfl (Nat.lt_succ_self _) fun _ _ => register_reaches base
  | .texture3D base width height depth, _, _, _, run =>
      registerImage_reaches run rfl (Nat.lt_succ_self _) fun _ _ => register_reaches base
  | .streams, _, _, _, run => by
      refine registered_reaches run fun _ result middle declareOk => ?_
      exact absurd declareOk Run.throw_ne_ok
  | .group kind name symbols, _, _, _, run => by
      refine registered_reaches run fun _ result middle declareOk => ?_
      exact absurd declareOk Run.throw_ne_ok
  | .shader name components, _, _, _, run => by
      refine registered_reaches run fun _ result middle declareOk => ?_
      exact absurd declareOk Run.throw_ne_ok

/-- Registering types gives their ids in order. -/
theorem registerAll_reaches :
    ∀ (types : List ShaderType) {before after : ModuleBuilder} {ids : List ResultId},
      (registerAll types).run before = .ok ids after →
        Reaches (ShaderType.totalWeight types) before after ∧
          List.Forall₂ (fun type id => after.typeId? type = some id) types ids
  | [], _, _, _, run => by
      obtain ⟨rfl, rfl⟩ := Run.pure_eq_ok.mp run
      exact ⟨.refl, .nil⟩
  | type :: rest, _, _, _, run => by
      obtain ⟨id, first, typeOk, restRun⟩ := Run.bind_eq_ok.mp run
      obtain ⟨restIds, second, restOk, finished⟩ := Run.bind_eq_ok.mp restRun
      obtain ⟨rfl, rfl⟩ := Run.pure_eq_ok.mp finished
      obtain ⟨typeReaches, typeId⟩ := register_reaches type typeOk
      obtain ⟨restReaches, restTypes⟩ := registerAll_reaches rest restOk
      exact ⟨typeReaches.append restReaches,
        .cons (restReaches.typeId?_eq_some typeId) restTypes⟩

/-- Registering a field gives the id of its type. -/
theorem registerField_reaches :
    ∀ (field : Field) {before after : ModuleBuilder} {id : ResultId},
      (registerField field).run before = .ok id after →
        Reaches field.weight before after ∧ after.typeId? field.type = some id
  | ⟨_, type⟩, _, _, _, run => register_reaches type run

/-- Registering fields gives the ids of their types in order. -/
theorem registerFields_reaches :
    ∀ (fields : List Field) {before after : ModuleBuilder} {ids : List ResultId},
      (registerFields fields).run before = .ok ids after →
        Reaches (Field.totalWeight fields) before after ∧
          List.Forall₂ (fun field id => after.typeId? field.type = some id) fields ids
  | [], _, _, _, run => by
      obtain ⟨rfl, rfl⟩ := Run.pure_eq_ok.mp run
      exact ⟨.refl, .nil⟩
  | field :: rest, _, _, _, run => by
      obtain ⟨id, first, fieldOk, restRun⟩ := Run.bind_eq_ok.mp run
      obtain ⟨restIds, second, restOk, finished⟩ := Run.bind_eq_ok.mp restRun
      obtain ⟨rfl, rfl⟩ := Run.pure_eq_ok.mp finished
      obtain ⟨fieldReaches, fieldId⟩ := registerField_reaches field fieldOk
      obtain ⟨restReaches, restFields⟩ := registerFields_reaches rest restOk
      exact ⟨fieldReaches.append restReaches,
        .cons (restReaches.typeId?_eq_some fieldId) restFields⟩

end

end Build

/-! ## Types that can be registered -/

mutual

/-- Whether a type and all its parts have an instruction form. -/
def ShaderType.isEmittable : ShaderType → Bool
  | .undefined _ | .streams | .group .. | .shader .. => false
  | .scalar _ | .vector _ | .matrix _ | .sampler | .comparisonSampler => true
  | .array base _ | .pointer base | .buffer base _ | .texture1D base _ => base.isEmittable
  | .texture2D base _ _ => base.isEmittable
  | .texture3D base _ _ _ => base.isEmittable
  | .struct _ fields => Field.allEmittable fields
  | .function returned parameters =>
      returned.isEmittable && ShaderType.allEmittable parameters

/-- Whether all types have an instruction form. -/
def ShaderType.allEmittable : List ShaderType → Bool
  | [] => true
  | type :: rest => type.isEmittable && ShaderType.allEmittable rest

/-- Whether the type of a field has an instruction form. -/
def Field.isEmittable : Field → Bool
  | ⟨_, type⟩ => type.isEmittable

/-- Whether the types of all fields have an instruction form. -/
def Field.allEmittable : List Field → Bool
  | [] => true
  | field :: rest => field.isEmittable && Field.allEmittable rest

end

theorem ShaderType.allEmittable_iff {types : List ShaderType} :
    ShaderType.allEmittable types = true ↔ ∀ type ∈ types, type.isEmittable = true := by
  induction types with
  | nil => simp [ShaderType.allEmittable]
  | cons type rest inductionHypothesis => simp [ShaderType.allEmittable, inductionHypothesis]

theorem Field.allEmittable_iff {fields : List Field} :
    Field.allEmittable fields = true ↔ ∀ field ∈ fields, field.type.isEmittable = true := by
  induction fields with
  | nil => simp [Field.allEmittable]
  | cons field rest inductionHypothesis =>
      have ownType : field.isEmittable = field.type.isEmittable := by
        cases field
        rfl
      simp [Field.allEmittable, ownType, inductionHypothesis]

namespace Build

theorem registered_succeeds {type : ShaderType} {declare : Build ResultId}
    {before : ModuleBuilder}
    (declares : ∃ id after, declare.run before = .ok id after) :
    ∃ id after, (registered type declare).run before = .ok id after := by
  unfold registered
  rw [Run.run_get_bind]
  cases found : before.typeId? type with
  | some earlier => exact ⟨earlier, before, rfl⟩
  | none =>
      obtain ⟨id, middle, declareOk⟩ := declares
      refine ⟨id, middle.addDeclaredType type id, ?_⟩
      dsimp only
      rw [Run.bind_of_ok declareOk, Run.bind_of_ok (Run.run_modify _ _)]
      rfl

/-- A type whose component can be registered can be registered. -/
theorem registered_succeeds_behind {type : ShaderType} {α : Type} {component : Build α}
    {form : α → ResultId → Instruction} {before : ModuleBuilder}
    (componentSucceeds : ∃ part after, component.run before = .ok part after) :
    ∃ id after, (registered type (component >>= fun part => define (form part))).run before =
      .ok id after := by
  obtain ⟨part, middle, componentOk⟩ := componentSucceeds
  refine registered_succeeds ⟨middle.bound, middle.defined (form part), ?_⟩
  rw [Run.bind_of_ok componentOk]
  exact run_define _ _

theorem registerScalar_succeeds (scalar : ScalarType) (before : ModuleBuilder) :
    ∃ id after, (registerScalar scalar).run before = .ok id after :=
  registered_succeeds ⟨_, _, run_define _ _⟩

theorem registerVector_succeeds (vector : VectorType) (before : ModuleBuilder) :
    ∃ id after, (registerVector vector).run before = .ok id after :=
  registered_succeeds_behind (registerScalar_succeeds vector.base before)

theorem registerMatrix_succeeds (matrix : MatrixType) (before : ModuleBuilder) :
    ∃ id after, (registerMatrix matrix).run before = .ok id after :=
  registered_succeeds_behind (registerVector_succeeds matrix.column before)

theorem registerConstant_succeeds {scalar : ScalarType} (valued : scalar ≠ .void)
    (value : Constant) (before : ModuleBuilder) :
    ∃ id after, (registerConstant scalar value).run before = .ok id after := by
  unfold registerConstant
  rw [Run.run_get_bind]
  cases found : before.constantId? scalar value with
  | some earlier => exact ⟨earlier, before, rfl⟩
  | none =>
      obtain ⟨type, middle, scalarOk⟩ := registerScalar_succeeds scalar before
      refine ⟨middle.bound, middle.withConstant scalar value type, ?_⟩
      dsimp only
      rw [if_neg valued, Run.bind_of_ok scalarOk, Run.bind_of_ok (run_define _ _),
        Run.bind_of_ok (Run.run_modify _ _)]
      rfl

theorem registerSampler_succeeds (before : ModuleBuilder) :
    ∃ id after, registerSampler.run before = .ok id after :=
  registered_succeeds ⟨_, _, run_define _ _⟩

theorem registerComparisonSampler_succeeds (before : ModuleBuilder) :
    ∃ id after, registerComparisonSampler.run before = .ok id after := by
  unfold registerComparisonSampler
  rw [Run.run_get_bind]
  cases found : before.typeId? .comparisonSampler with
  | some earlier => exact ⟨earlier, before, rfl⟩
  | none =>
      obtain ⟨id, middle, samplerOk⟩ := registerSampler_succeeds before
      refine ⟨id, middle.addType .comparisonSampler id, ?_⟩
      dsimp only
      rw [Run.bind_of_ok samplerOk, Run.bind_of_ok (Run.run_modify _ _)]
      rfl

mutual

/-- Every type with an instruction form can be registered. -/
theorem register_succeeds : ∀ (type : ShaderType) (before : ModuleBuilder),
    type.isEmittable = true → ∃ id after, (register type).run before = .ok id after
  | .undefined _, _, emittable | .streams, _, emittable => by
      simp [ShaderType.isEmittable] at emittable
  | .group .., _, emittable | .shader .., _, emittable => by
      simp [ShaderType.isEmittable] at emittable
  | .scalar scalar, before, _ => registerScalar_succeeds scalar before
  | .vector vector, before, _ => registerVector_succeeds vector before
  | .matrix matrix, before, _ => registerMatrix_succeeds matrix before
  | .sampler, before, _ => registerSampler_succeeds before
  | .comparisonSampler, before, _ => registerComparisonSampler_succeeds before
  | .array base size, before, emittable => by
      obtain ⟨element, first, baseOk⟩ := register_succeeds base before emittable
      obtain ⟨length, second, lengthOk⟩ :=
        registerConstant_succeeds (by decide : ScalarType.uint ≠ .void) (.int size) first
      exact registered_succeeds ⟨second.bound, _,
        (Run.bind_of_ok baseOk).trans ((Run.bind_of_ok lengthOk).trans (run_define _ _))⟩
  | .pointer base, before, emittable =>
      registered_succeeds_behind (register_succeeds base before emittable)
  | .buffer base _, before, emittable | .texture1D base _, before, emittable =>
      registered_succeeds_behind (register_succeeds base before emittable)
  | .texture2D base _ _, before, emittable =>
      registered_succeeds_behind (register_succeeds base before emittable)
  | .texture3D base _ _ _, before, emittable =>
      registered_succeeds_behind (register_succeeds base before emittable)
  | .struct name fields, before, emittable => by
      obtain ⟨members, middle, fieldsOk⟩ := registerFields_succeeds fields before emittable
      exact registered_succeeds ⟨middle.bound, _,
        (Run.bind_of_ok fieldsOk).trans ((Run.bind_of_ok (run_define _ _)).trans
          (Run.bind_of_ok (Run.run_modify _ _)))⟩
  | .function returned parameters, before, emittable => by
      obtain ⟨returnedEmittable, parametersEmittable⟩ :
          returned.isEmittable = true ∧ ShaderType.allEmittable parameters = true := by
        simpa [ShaderType.isEmittable] using emittable
      obtain ⟨returnedId, first, returnedOk⟩ := register_succeeds returned before returnedEmittable
      obtain ⟨parameterIds, second, parametersOk⟩ :=
        registerAll_succeeds parameters first parametersEmittable
      exact registered_succeeds ⟨second.bound, _,
        (Run.bind_of_ok returnedOk).trans ((Run.bind_of_ok parametersOk).trans (run_define _ _))⟩

theorem registerAll_succeeds : ∀ (types : List ShaderType) (before : ModuleBuilder),
    ShaderType.allEmittable types = true →
      ∃ ids after, (registerAll types).run before = .ok ids after
  | [], before, _ => ⟨[], before, rfl⟩
  | type :: rest, before, emittable => by
      obtain ⟨typeEmittable, restEmittable⟩ :
          type.isEmittable = true ∧ ShaderType.allEmittable rest = true := by
        simpa [ShaderType.allEmittable] using emittable
      obtain ⟨id, first, typeOk⟩ := register_succeeds type before typeEmittable
      obtain ⟨ids, second, restOk⟩ := registerAll_succeeds rest first restEmittable
      refine ⟨id :: ids, second, ?_⟩
      unfold registerAll
      rw [Run.bind_of_ok typeOk, Run.bind_of_ok restOk]
      rfl

theorem registerField_succeeds : ∀ (field : Field) (before : ModuleBuilder),
    field.isEmittable = true → ∃ id after, (registerField field).run before = .ok id after
  | ⟨_, type⟩, before, emittable => register_succeeds type before emittable

theorem registerFields_succeeds : ∀ (fields : List Field) (before : ModuleBuilder),
    Field.allEmittable fields = true →
      ∃ ids after, (registerFields fields).run before = .ok ids after
  | [], before, _ => ⟨[], before, rfl⟩
  | field :: rest, before, emittable => by
      obtain ⟨fieldEmittable, restEmittable⟩ :
          field.isEmittable = true ∧ Field.allEmittable rest = true := by
        simpa [Field.allEmittable] using emittable
      obtain ⟨id, first, fieldOk⟩ := registerField_succeeds field before fieldEmittable
      obtain ⟨ids, second, restOk⟩ := registerFields_succeeds rest first restEmittable
      refine ⟨id :: ids, second, ?_⟩
      unfold registerFields
      rw [Run.bind_of_ok fieldOk, Run.bind_of_ok restOk]
      rfl

end

end Build

end ShaderLang
