import ShaderLang.Proofs.RegistryFidelity

/-!
# Types that cannot be registered

A type can be registered exactly when each of its parts has an instruction form.  Otherwise the first
part without one, in order of declaration, decides the fault.  The parts in front of it stay
registered, and since no registry ever holds a type with such a part, the registration fails in the
same way again and adds nothing more.
-/

namespace ShaderLang

/-! ## The parts of a type -/

mutual

/-- A type and everything it is made of, at any depth, in order of declaration. -/
def ShaderType.parts : ShaderType → List ShaderType
  | .array base size => .array base size :: base.parts
  | .pointer base => .pointer base :: base.parts
  | .buffer base size => .buffer base size :: base.parts
  | .texture1D base size => .texture1D base size :: base.parts
  | .texture2D base width height => .texture2D base width height :: base.parts
  | .texture3D base width height depth => .texture3D base width height depth :: base.parts
  | .struct name fields => .struct name fields :: Field.allParts fields
  | .function returned parameters =>
      .function returned parameters :: (returned.parts ++ ShaderType.allParts parameters)
  | .undefined name => [.undefined name]
  | .scalar scalar => [.scalar scalar]
  | .vector vector => [.vector vector]
  | .matrix matrix => [.matrix matrix]
  | .sampler => [.sampler]
  | .comparisonSampler => [.comparisonSampler]
  | .streams => [.streams]
  | .group kind name symbols => [.group kind name symbols]
  | .shader name components => [.shader name components]

/-- The parts of types in order. -/
def ShaderType.allParts : List ShaderType → List ShaderType
  | [] => []
  | type :: rest => type.parts ++ ShaderType.allParts rest

/-- The parts of the type of a field. -/
def Field.parts : Field → List ShaderType
  | ⟨_, type⟩ => type.parts

/-- The parts of the types of fields in order. -/
def Field.allParts : List Field → List ShaderType
  | [] => []
  | field :: rest => field.parts ++ Field.allParts rest

end

namespace ShaderType

/-- Whether a type has no instruction form, whatever it is made of. -/
def lacksForm : ShaderType → Bool
  | .undefined _ | .streams | .group .. | .shader .. => true
  | _ => false

/-- The report about a type without an instruction form. -/
def refusal : ShaderType → Diagnostic
  | .undefined name => .unresolvedType name .unknown
  | type => .emission (.noInstructionForm type)

/-- The report about the first of some types that has no instruction form. -/
def firstRefusal? (types : List ShaderType) : Option Diagnostic :=
  (types.find? lacksForm).map refusal

theorem firstRefusal?_append (front back : List ShaderType) :
    firstRefusal? (front ++ back) = (firstRefusal? front).or (firstRefusal? back) := by
  unfold firstRefusal?
  rw [List.find?_append]
  cases front.find? lacksForm <;> rfl

theorem firstRefusal?_cons {type : ShaderType} (rest : List ShaderType)
    (formed : type.lacksForm = false) :
    firstRefusal? (type :: rest) = firstRefusal? rest := by
  unfold firstRefusal?
  rw [List.find?_cons_of_neg (by simp [formed])]

theorem firstRefusal?_eq_none {types : List ShaderType} :
    firstRefusal? types = none ↔ ∀ type ∈ types, type.lacksForm = false := by
  simp [firstRefusal?]

end ShaderType

mutual

/-- A type is emittable when none of its parts lacks an instruction form. -/
theorem ShaderType.isEmittable_iff : ∀ type : ShaderType,
    type.isEmittable = true ↔ ∀ part ∈ type.parts, part.lacksForm = false
  | .array base _ | .pointer base | .buffer base _ | .texture1D base _ => by
      rw [ShaderType.isEmittable, base.isEmittable_iff]
      simp [ShaderType.parts, ShaderType.lacksForm]
  | .texture2D base _ _ => by
      rw [ShaderType.isEmittable, base.isEmittable_iff]
      simp [ShaderType.parts, ShaderType.lacksForm]
  | .texture3D base _ _ _ => by
      rw [ShaderType.isEmittable, base.isEmittable_iff]
      simp [ShaderType.parts, ShaderType.lacksForm]
  | .struct _ fields => by
      rw [ShaderType.isEmittable, Field.allEmittable_iff_allParts fields]
      simp [ShaderType.parts, ShaderType.lacksForm]
  | .function returned parameters => by
      rw [ShaderType.isEmittable, Bool.and_eq_true, returned.isEmittable_iff,
        ShaderType.allEmittable_iff_allParts parameters]
      simp [ShaderType.parts, ShaderType.lacksForm, or_imp, forall_and]
  | .undefined _ | .streams | .group .. | .shader .. => by
      simp [ShaderType.isEmittable, ShaderType.parts, ShaderType.lacksForm]
  | .scalar _ | .vector _ | .matrix _ => by
      simp [ShaderType.isEmittable, ShaderType.parts, ShaderType.lacksForm]
  | .sampler | .comparisonSampler => by
      simp [ShaderType.isEmittable, ShaderType.parts, ShaderType.lacksForm]

theorem ShaderType.allEmittable_iff_allParts : ∀ types : List ShaderType,
    ShaderType.allEmittable types = true ↔
      ∀ part ∈ ShaderType.allParts types, part.lacksForm = false
  | [] => by simp [ShaderType.allEmittable, ShaderType.allParts]
  | type :: rest => by
      rw [ShaderType.allEmittable, Bool.and_eq_true, type.isEmittable_iff,
        ShaderType.allEmittable_iff_allParts rest]
      simp [ShaderType.allParts, or_imp, forall_and]

theorem Field.isEmittable_iff_parts : ∀ field : Field,
    field.isEmittable = true ↔ ∀ part ∈ field.parts, part.lacksForm = false
  | ⟨_, type⟩ => type.isEmittable_iff

theorem Field.allEmittable_iff_allParts : ∀ fields : List Field,
    Field.allEmittable fields = true ↔ ∀ part ∈ Field.allParts fields, part.lacksForm = false
  | [] => by simp [Field.allEmittable, Field.allParts]
  | field :: rest => by
      rw [Field.allEmittable, Bool.and_eq_true, Field.isEmittable_iff_parts field,
        Field.allEmittable_iff_allParts rest]
      simp [Field.allParts, or_imp, forall_and]

end

/-! ## Registries hold emittable types -/

namespace ModuleBuilder

variable {limit : Nat} {before after builder : ModuleBuilder}

/-- Whether every registered type is emittable. -/
def HoldsEmittable (builder : ModuleBuilder) : Prop :=
  ∀ type id, builder.typeId? type = some id → type.isEmittable = true

/-- Whether a builder has registered what another one has registered. -/
def Covers (earlier later : ModuleBuilder) : Prop :=
  ∀ type id, earlier.typeId? type = some id → later.typeId? type = some id

theorem HoldsEmittable.typeId?_eq_none (holds : builder.HoldsEmittable) {type : ShaderType}
    (refused : ¬ type.isEmittable = true) :
    builder.typeId? type = none := by
  cases found : builder.typeId? type with
  | none => rfl
  | some id => exact absurd (holds type id found) refused

/-- A type with a declaration is made of emittable types. -/
theorem HoldsEmittable.of_typeForm (holds : builder.HoldsEmittable) {type : ShaderType}
    {form : ResultId → Instruction}
    (written : builder.TypeForm type form) :
    type.isEmittable = true := by
  cases written with
  | scalar | vector | matrix | sampler => rfl
  | @array base _ _ _ elementId lengthId => exact holds base _ elementId
  | @pointer base _ pointeeId => exact holds base _ pointeeId
  | struct memberIds =>
      refine Field.allEmittable_iff.mpr fun field member => ?_
      obtain ⟨id, -, registered⟩ := exists_left_of_forall₂ memberIds.flip member
      exact holds _ _ registered
  | function returnedType parameterTypes =>
      have parametersEmittable : ShaderType.allEmittable _ = true :=
        ShaderType.allEmittable_iff.mpr fun type member => by
          obtain ⟨id, -, registered⟩ := exists_left_of_forall₂ parameterTypes.flip member
          exact holds _ _ registered
      rw [ShaderType.isEmittable, holds _ _ returnedType, parametersEmittable]
      rfl
  | image isImage sampledId =>
      have sampledEmittable := holds _ _ sampledId
      unfold ShaderType.image? at isImage
      split at isImage <;> cases isImage <;> exact sampledEmittable

theorem HoldsEmittable.declaration (holds : before.HoldsEmittable)
    (declaration : Declaration limit before after) :
    after.HoldsEmittable := by
  intro asked id registered
  cases declaration with
  | type light unregistered written =>
      rw [typeId?_declared] at registered
      split at registered
      · next same => exact same ▸ holds.of_typeForm written
      · exact holds asked id registered
  | comparison light unregistered plain =>
      rw [typeId?_addType] at registered
      split at registered
      · next same => exact same ▸ rfl
      · exact holds asked id registered
  | constant unregistered valued typed => exact holds asked id registered

theorem HoldsEmittable.reaches (holds : before.HoldsEmittable)
    (reaches : Reaches limit before after) :
    after.HoldsEmittable := by
  induction reaches with
  | refl => exact holds
  | tail _ declaration inductionHypothesis => exact inductionHypothesis.declaration declaration

theorem Covers.refl (builder : ModuleBuilder) : builder.Covers builder :=
  fun _ _ registered => registered

theorem Reaches.covers (reaches : Reaches limit before after) : before.Covers after :=
  fun _ _ registered => reaches.typeId?_eq_some registered

end ModuleBuilder

theorem BuilderCall.performAll_holdsEmittable (options : CompileOptions)
    (calls : List BuilderCall) :
    (performAll calls (.initial options)).HoldsEmittable := by
  refine performAll_induction (fun _ _ _ reaches holds => holds.reaches reaches) ?_ calls _ ?_
  · intro before new after extension holds type id registered
    rw [extension.typeId?] at registered
    exact holds type id registered
  · intro type id registered
    simp [ModuleBuilder.initial, ModuleBuilder.typeId?] at registered

/-! ## Faults -/

namespace Build

open ModuleBuilder

variable {before after later : ModuleBuilder} {fault : Diagnostic} {type base : ShaderType}

/-- What a failed pass over some types leaves: the fault is that of the first part without an
instruction form, and wherever all is registered that the pass has registered, another pass fails in
the same way and changes nothing. -/
structure FailsAgain {α : Type} (pass : Build α) (parts : List ShaderType) (fault : Diagnostic)
    (after : ModuleBuilder) : Prop where
  cause : ShaderType.firstRefusal? parts = some fault
  again : ∀ later, later.HoldsEmittable → after.Covers later →
    pass.run later = .error fault later

theorem registered_fails {declare : Build ResultId}
    (unregistered : before.typeId? type = none)
    (fails : declare.run before = .error fault after) :
    (registered type declare).run before = .error fault after := by
  unfold registered
  rw [Run.run_get_bind, unregistered]
  exact Run.bind_eq_error.mpr (.inl fails)

/-- A registered type is emittable, wherever only emittable types are registered. -/
theorem isEmittable_of_register (holds : before.HoldsEmittable) {id : ResultId}
    (registers : (register type).run before = .ok id after) :
    type.isEmittable = true := by
  obtain ⟨reaches, registered⟩ := register_reaches type registers
  exact holds.reaches reaches type id registered

/-- A type without an instruction form is refused itself. -/
theorem failsAgain_of_lacksForm
    (unfolds : register type = registered type (throw type.refusal))
    (parts : type.parts = [type])
    (lacksForm : type.lacksForm = true)
    (fails : (register type).run before = .error fault after) :
    FailsAgain (register type) type.parts fault after := by
  have refused : ¬ type.isEmittable = true := by
    rw [type.isEmittable_iff, parts]
    simp [lacksForm]
  rw [unfolds] at fails ⊢
  obtain ⟨rfl, -⟩ := Run.throw_eq_error.mp (registered_eq_error fails)
  constructor
  · simp [ShaderType.firstRefusal?, parts, lacksForm]
  · intro later holds _
    exact registered_fails (holds.typeId?_eq_none refused) (Run.run_throw _ later)

/-- A type fails as its declaration does. -/
theorem FailsAgain.registered {declare : Build ResultId} {parts : List ShaderType}
    (declareFails : FailsAgain declare parts fault after)
    (formed : type.lacksForm = false)
    (isParts : type.parts = type :: parts) :
    FailsAgain (registered type declare) type.parts fault after := by
  have cause : ShaderType.firstRefusal? type.parts = some fault := by
    rw [isParts, ShaderType.firstRefusal?_cons parts formed]
    exact declareFails.cause
  refine ⟨cause, fun later holds covers => ?_⟩
  have refused : ¬ type.isEmittable = true := by
    rw [type.isEmittable_iff, ← ShaderType.firstRefusal?_eq_none, cause]
    simp
  exact registered_fails (holds.typeId?_eq_none refused) (declareFails.again later holds covers)

/-- A sequence of passes fails with its first one. -/
theorem FailsAgain.bind {α β : Type} {pass : Build α} {next : α → Build β}
    {parts : List ShaderType} (passFails : FailsAgain pass parts fault after) :
    FailsAgain (pass >>= next) parts fault after :=
  ⟨passFails.cause, fun later holds covers =>
    Run.bind_eq_error.mpr (.inl (passFails.again later holds covers))⟩

/-- The parts behind the first one without an instruction form do not matter. -/
theorem FailsAgain.extend {α : Type} {pass : Build α} {front : List ShaderType}
    (passFails : FailsAgain pass front fault after) (back : List ShaderType) :
    FailsAgain pass (front ++ back) fault after := by
  refine ⟨?_, passFails.again⟩
  rw [ShaderType.firstRefusal?_append, passFails.cause]
  rfl

/-- A sequence of passes fails with its second one, where the type of the first one stays
registered. -/
theorem FailsAgain.second {β : Type} {next : ResultId → Build β} {id : ResultId}
    {middle : ModuleBuilder} {back : List ShaderType}
    (holds : before.HoldsEmittable)
    (registers : (register type).run before = .ok id middle)
    (covers : middle.Covers after)
    (nextFails : FailsAgain (next id) back fault after) :
    FailsAgain (register type >>= next) (type.parts ++ back) fault after := by
  have formed := type.isEmittable_iff.mp (isEmittable_of_register holds registers)
  constructor
  · rw [ShaderType.firstRefusal?_append, ShaderType.firstRefusal?_eq_none.mpr formed]
    exact nextFails.cause
  · intro later laterHolds laterCovers
    have found := laterCovers type id (covers type id (register_reaches type registers).2)
    rw [Run.bind_of_ok (run_register found)]
    exact nextFails.again later laterHolds laterCovers

/-- The registration of a type made of one other type fails as that of the other does. -/
theorem FailsAgain.composite {next : ResultId → Build ResultId}
    (baseFails : FailsAgain (register base) base.parts fault after)
    (formed : type.lacksForm = false)
    (isParts : type.parts = type :: base.parts) :
    FailsAgain (Build.registered type (register base >>= next)) type.parts fault after :=
  baseFails.bind.registered formed isParts

mutual

/-- A registration that fails is stopped by the first part without an instruction form, and fails
again. -/
theorem register_failsAgain : ∀ (type : ShaderType) {before after : ModuleBuilder}
    {fault : Diagnostic}, before.HoldsEmittable →
      (register type).run before = .error fault after →
        FailsAgain (register type) type.parts fault after
  | .undefined name, _, _, _, _, fails => failsAgain_of_lacksForm rfl rfl rfl fails
  | .streams, _, _, _, _, fails => failsAgain_of_lacksForm rfl rfl rfl fails
  | .group kind name symbols, _, _, _, _, fails => failsAgain_of_lacksForm rfl rfl rfl fails
  | .shader name components, _, _, _, _, fails => failsAgain_of_lacksForm rfl rfl rfl fails
  | .scalar scalar, before, _, _, _, fails =>
      absurd fails (ne_error_of_succeeds (registerScalar_succeeds scalar before))
  | .vector vector, before, _, _, _, fails =>
      absurd fails (ne_error_of_succeeds (registerVector_succeeds vector before))
  | .matrix matrix, before, _, _, _, fails =>
      absurd fails (ne_error_of_succeeds (registerMatrix_succeeds matrix before))
  | .sampler, before, _, _, _, fails =>
      absurd fails (ne_error_of_succeeds (registerSampler_succeeds before))
  | .comparisonSampler, before, _, _, _, fails =>
      absurd fails (ne_error_of_succeeds (registerComparisonSampler_succeeds before))
  | .array base size, _, _, _, holds, fails => by
      rcases Run.bind_eq_error.mp (registered_eq_error fails) with
        baseFails | ⟨element, middle, -, rest⟩
      · exact (register_failsAgain base holds baseFails).composite rfl rfl
      · have lengthSucceeds := registerConstant_succeeds (by decide : ScalarType.uint ≠ .void)
          (.int size) middle
        rcases Run.bind_eq_error.mp rest with lengthFails | ⟨_, _, -, defineFails⟩
        · exact absurd lengthFails (ne_error_of_succeeds lengthSucceeds)
        · exact absurd defineFails (ne_error_of_succeeds ⟨_, _, run_define _ _⟩)
  | .pointer base, _, _, _, holds, fails =>
      (register_failsAgain base holds (registered_eq_error_behind fails)).composite rfl rfl
  | .buffer base size, _, _, _, holds, fails =>
      (register_failsAgain base holds (registered_eq_error_behind fails)).composite rfl rfl
  | .texture1D base size, _, _, _, holds, fails =>
      (register_failsAgain base holds (registered_eq_error_behind fails)).composite rfl rfl
  | .texture2D base width height, _, _, _, holds, fails =>
      (register_failsAgain base holds (registered_eq_error_behind fails)).composite rfl rfl
  | .texture3D base width height depth, _, _, _, holds, fails =>
      (register_failsAgain base holds (registered_eq_error_behind fails)).composite rfl rfl
  | .struct name fields, _, _, _, holds, fails => by
      rcases Run.bind_eq_error.mp (registered_eq_error fails) with
        fieldsFail | ⟨members, middle, -, rest⟩
      · exact (registerFields_failsAgain fields holds fieldsFail).bind.registered rfl rfl
      · exact absurd rest (ne_error_of_succeeds ⟨middle.bound, _,
          (Run.bind_of_ok (run_define _ _)).trans (Run.bind_of_ok (Run.run_modify _ _))⟩)
  | .function returned parameters, _, _, _, holds, fails => by
      rcases Run.bind_eq_error.mp (registered_eq_error fails) with
        returnedFails | ⟨returnedId, middle, returnedOk, rest⟩
      · exact ((register_failsAgain returned holds returnedFails).bind.extend _).registered rfl rfl
      · have middleHolds := holds.reaches (register_reaches returned returnedOk).1
        rcases Run.bind_eq_error.mp rest with parametersFail | ⟨_, _, -, defineFails⟩
        · have covers := (registerAll_fails parameters parametersFail).covers
          have again := registerAll_failsAgain parameters middleHolds parametersFail
          exact (FailsAgain.second holds returnedOk covers again.bind).registered rfl rfl
        · exact absurd defineFails (ne_error_of_succeeds ⟨_, _, run_define _ _⟩)

theorem registerAll_failsAgain : ∀ (types : List ShaderType) {before after : ModuleBuilder}
    {fault : Diagnostic}, before.HoldsEmittable →
      (registerAll types).run before = .error fault after →
        FailsAgain (registerAll types) (ShaderType.allParts types) fault after
  | [], before, _, _, _, fails => absurd fails (ne_error_of_succeeds ⟨[], before, rfl⟩)
  | type :: rest, _, _, _, holds, fails => by
      rcases Run.bind_eq_error.mp fails with typeFails | ⟨id, middle, typeOk, restRun⟩
      · exact (register_failsAgain type holds typeFails).bind.extend _
      · have middleHolds := holds.reaches (register_reaches type typeOk).1
        rcases Run.bind_eq_error.mp restRun with restFails | ⟨_, _, -, finished⟩
        · have covers := (registerAll_fails rest restFails).covers
          have again := registerAll_failsAgain rest middleHolds restFails
          exact FailsAgain.second holds typeOk covers again.bind
        · exact absurd finished (ne_error_of_succeeds ⟨_, _, rfl⟩)

theorem registerField_failsAgain : ∀ (field : Field) {before after : ModuleBuilder}
    {fault : Diagnostic}, before.HoldsEmittable →
      (registerField field).run before = .error fault after →
        FailsAgain (registerField field) field.parts fault after
  | ⟨_, type⟩, _, _, _, holds, fails => register_failsAgain type holds fails

theorem registerFields_failsAgain : ∀ (fields : List Field) {before after : ModuleBuilder}
    {fault : Diagnostic}, before.HoldsEmittable →
      (registerFields fields).run before = .error fault after →
        FailsAgain (registerFields fields) (Field.allParts fields) fault after
  | [], before, _, _, _, fails => absurd fails (ne_error_of_succeeds ⟨[], before, rfl⟩)
  | ⟨name, type⟩ :: rest, _, _, _, holds, fails => by
      rcases Run.bind_eq_error.mp fails with fieldFails | ⟨id, middle, fieldOk, restRun⟩
      · exact (registerField_failsAgain ⟨name, type⟩ holds fieldFails).bind.extend _
      · have typeOk : (register type).run _ = .ok id middle := fieldOk
        have middleHolds := holds.reaches (register_reaches type typeOk).1
        rcases Run.bind_eq_error.mp restRun with restFails | ⟨_, _, -, finished⟩
        · have covers := (registerFields_fails rest restFails).covers
          have again := registerFields_failsAgain rest middleHolds restFails
          exact FailsAgain.second holds typeOk covers again.bind
        · exact absurd finished (ne_error_of_succeeds ⟨_, _, rfl⟩)

end

end Build

/-- What a builder does about a type that it cannot register because of one of its parts: the fault
names the first part without an instruction form, nothing that has this part is registered, what was
registered keeps its id, and the same call fails in the same way and changes nothing more. -/
structure ModuleBuilder.Refuses (before : ModuleBuilder) (type part : ShaderType)
    (fault : Diagnostic) (after : ModuleBuilder) : Prop where
  first : type.parts.find? ShaderType.lacksForm = some part
  cause : fault = part.refusal
  unregistered : ∀ whole, part ∈ whole.parts → after.typeId? whole = none
  kept : ∀ known id, before.typeId? known = some id → after.typeId? known = some id
  again : (Build.register type).run after = .error fault after

theorem ModuleBuilder.HoldsEmittable.refuses {before after : ModuleBuilder} {type : ShaderType}
    {fault : Diagnostic} (holds : before.HoldsEmittable)
    (fails : (Build.register type).run before = .error fault after) :
    ∃ part, before.Refuses type part fault after := by
  have reaches := Build.register_fails type fails
  have afterHolds := holds.reaches reaches
  have failsAgain := Build.register_failsAgain type holds fails
  obtain ⟨part, first, cause⟩ := Option.map_eq_some_iff.mp failsAgain.cause
  refine ⟨part, first, cause.symm, ?_, reaches.covers, ?_⟩
  · intro whole inside
    apply afterHolds.typeId?_eq_none
    rw [whole.isEmittable_iff]
    intro formed
    have lacksForm := List.find?_some first
    rw [formed part inside] at lacksForm
    cases lacksForm
  · exact failsAgain.again after afterHolds (.refl after)

/-- Whatever calls a builder has received, it registers a type exactly when all parts of the type
have instruction forms, and refuses it for the first part without one otherwise. -/
theorem BuilderCall.performAll_register_iff (options : CompileOptions) (calls : List BuilderCall)
    (type : ShaderType) :
    ((∃ id after,
        (Build.register type).run (performAll calls (.initial options)) = .ok id after) ↔
      ∀ part ∈ type.parts, part.lacksForm = false) ∧
    ∀ fault after,
      (Build.register type).run (performAll calls (.initial options)) = .error fault after →
        ∃ part, (performAll calls (.initial options)).Refuses type part fault after := by
  have holds := performAll_holdsEmittable options calls
  refine ⟨?_, fun fault after fails => holds.refuses fails⟩
  rw [← type.isEmittable_iff]
  constructor
  · rintro ⟨id, after, registers⟩
    exact Build.isEmittable_of_register holds registers
  · intro emittable
    exact Build.register_succeeds type _ emittable

/-- A type with three parts that have no instruction form, of which the first is not found. -/
def ShaderType.broken : ShaderType :=
  .struct "Broken" [⟨"weights", .array (.scalar .float) 2⟩,
    ⟨"blend", .pointer (.function .void [.scalar .int, .undefined "Missing", .streams])⟩,
    ⟨"rest", .shader "Rest" []⟩]

theorem BuilderCall.broken_refused :
    ∃ after, (Build.register .broken).run (performAll
        [.register (.scalar .int), .register .broken, .freshId] (.initial .allNames)) =
          .error (.unresolvedType "Missing" .unknown) after ∧
      after.typeId? (.array (.scalar .float) 2) ≠ none ∧ after.typeId? .broken = none ∧
      (Build.register .broken).run after = .error (.unresolvedType "Missing" .unknown) after := by
  obtain ⟨part, refuses⟩ := (performAll_register_iff .allNames
    [.register (.scalar .int), .register .broken, .freshId] .broken).2 _ _ rfl
  refine ⟨_, rfl, by decide, ?_, refuses.again⟩
  exact refuses.unregistered .broken (List.mem_of_find?_eq_some refuses.first)

end ShaderLang
