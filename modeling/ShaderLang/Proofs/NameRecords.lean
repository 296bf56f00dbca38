import ShaderLang.Proofs.RegistryFidelity
import ShaderLang.Proofs.TypeNaming

/-!
# The names that a builder records

Options decide what is named, and nothing else: whatever calls a builder receives, and whether they
succeed or fail, it goes through the same ids, registries and semantics, and emits the same code
between the names.  The names on record are another matter.  A name that a caller gives to an id is
recorded in any case, but that of a declared type only with type names switched on.
-/

namespace ShaderLang

/-- Whether an instruction does nothing but give a name. -/
def Instruction.isNaming : Instruction → Bool
  | name .. | memberName .. => true
  | _ => false

/-- A builder without its options and everything that it has named. -/
def ModuleBuilder.withoutNames (builder : ModuleBuilder) : ModuleBuilder :=
  { builder with
    options := .allNames
    code := builder.code.filter fun instruction => !instruction.isNaming
    names := [] }

/-! ## Steps that see no names -/

/-- An outcome with its final state seen through a view. -/
def Run.seen {ε σ τ α : Type} (view : σ → τ) : EStateM.Result ε σ α → EStateM.Result ε τ α
  | .ok value after => .ok value (view after)
  | .error fault after => .error fault (view after)

/-- Outcomes that look the same through a view are of one kind, with the same value or fault. -/
theorem Run.cases_of_seen_eq {ε σ τ α : Type} {view : σ → τ}
    {first second : EStateM.Result ε σ α}
    (same : Run.seen view first = Run.seen view second) :
    (∃ value left right, first = .ok value left ∧ second = .ok value right ∧
      view left = view right) ∨
    ∃ fault left right, first = .error fault left ∧ second = .error fault right ∧
      view left = view right := by
  cases first with
  | ok value left =>
      cases second with
      | ok value' right =>
          obtain ⟨rfl, sameView⟩ := EStateM.Result.ok.inj same
          exact .inl ⟨_, _, _, rfl, rfl, sameView⟩
      | error fault right => cases same
  | error fault left =>
      cases second with
      | ok value right => cases same
      | error fault' right =>
          obtain ⟨rfl, sameView⟩ := EStateM.Result.error.inj same
          exact .inr ⟨_, _, _, rfl, rfl, sameView⟩

namespace ModuleBuilder

variable {before after left right : ModuleBuilder}

theorem bound_eq_of_withoutNames (same : left.withoutNames = right.withoutNames) :
    left.bound = right.bound := by
  have sameBounds := congrArg ModuleBuilder.bound same
  exact sameBounds

theorem withoutNames_addDeclaredType (builder : ModuleBuilder) (type : ShaderType)
    (id : ResultId) :
    (builder.addDeclaredType type id).withoutNames = builder.withoutNames.addType type id := by
  unfold addDeclaredType withoutNames
  split
  · simp [append, recordName, addType, Instruction.isNaming]
  · rfl

theorem withoutNames_addName (builder : ModuleBuilder) (id : ResultId) (name : String) :
    (builder.addName id name).withoutNames = builder.withoutNames := by
  unfold addName withoutNames
  split
  · simp [append, recordName, Instruction.isNaming]
  · rfl

theorem withoutNames_addSemantic (builder : ModuleBuilder) (id : ResultId) (semantic : String) :
    (builder.addSemantic id semantic).withoutNames =
      builder.withoutNames.addSemantic id semantic := by
  simp [addSemantic, withoutNames, append, Instruction.isNaming]

theorem withoutNames_append_naming (builder : ModuleBuilder) {names : List Instruction}
    (naming : ∀ instruction ∈ names, instruction.isNaming = true) :
    { builder with code := builder.code ++ names }.withoutNames = builder.withoutNames := by
  have dropped : names.filter (fun instruction => !instruction.isNaming) = [] :=
    List.filter_eq_nil_iff.mpr fun instruction member => by simp [naming instruction member]
  simp [withoutNames, dropped]

end ModuleBuilder

namespace Build

open ModuleBuilder

variable {α β : Type}

/-- A step that sees no names: builders that are the same without their names go on to such
builders, with one value or one fault. -/
def Oblivious (step : Build α) : Prop :=
  ∀ left right : ModuleBuilder, left.withoutNames = right.withoutNames →
    Run.seen withoutNames (step.run left) = Run.seen withoutNames (step.run right)

theorem oblivious_pure (value : α) : Oblivious (pure value) :=
  fun _ _ same => congrArg (EStateM.Result.ok value) same

theorem oblivious_throw (fault : Diagnostic) : Oblivious (throw fault : Build α) :=
  fun _ _ same => congrArg (EStateM.Result.error fault) same

theorem Oblivious.bind {first : Build α} {next : α → Build β}
    (firstOblivious : Oblivious first)
    (nextOblivious : ∀ value, Oblivious (next value)) :
    Oblivious (first >>= next) := by
  intro left right same
  rw [EStateM.run_bind, EStateM.run_bind]
  rcases Run.cases_of_seen_eq (firstOblivious left right same) with
    ⟨value, leftAfter, rightAfter, leftRun, rightRun, sameAfter⟩ |
    ⟨fault, leftAfter, rightAfter, leftRun, rightRun, sameAfter⟩
  · rw [leftRun, rightRun]
    exact nextOblivious value leftAfter rightAfter sameAfter
  · rw [leftRun, rightRun]
    exact congrArg (EStateM.Result.error fault) sameAfter

/-- A change that is one of the builder without its names. -/
theorem oblivious_modify {change : ModuleBuilder → ModuleBuilder}
    (changeUnnamed : ModuleBuilder → ModuleBuilder)
    (commutes : ∀ builder, (change builder).withoutNames = changeUnnamed builder.withoutNames) :
    Oblivious (modify change) := by
  intro left right same
  rw [Run.run_modify, Run.run_modify]
  refine congrArg (EStateM.Result.ok PUnit.unit) ?_
  rw [commutes, commutes, same]

/-- A step that is chosen by what is not a name. -/
theorem oblivious_choose {step : ModuleBuilder → Build α}
    (unnamed : ∀ builder, step builder.withoutNames = step builder)
    (each : ∀ builder, Oblivious (step builder)) :
    Oblivious (get >>= step) := by
  intro left right same
  have sameStep : step left = step right := by
    rw [← unnamed left, same, unnamed right]
  rw [Run.run_get_bind, Run.run_get_bind, sameStep]
  exact each right left right same

theorem oblivious_freshId : Oblivious freshId := by
  intro left right same
  have sameBound := bound_eq_of_withoutNames same
  change EStateM.Result.ok left.bound { left.withoutNames with bound := left.bound + 1 } =
    EStateM.Result.ok right.bound { right.withoutNames with bound := right.bound + 1 }
  rw [same, sameBound]

theorem oblivious_define (form : ResultId → Instruction) : Oblivious (define form) := by
  refine oblivious_freshId.bind fun result => Oblivious.bind ?_ fun _ => oblivious_pure result
  refine oblivious_modify (fun builder =>
    { builder with
      code := builder.code ++
        [form result].filter fun instruction => !instruction.isNaming }) fun builder => ?_
  simp only [append, withoutNames, List.filter_append]

/-! ### Registration -/

theorem oblivious_registered (type : ShaderType) {declare : Build ResultId}
    (declares : Oblivious declare) :
    Oblivious (registered type declare) := by
  refine oblivious_choose (fun _ => rfl) fun builder => ?_
  cases builder.typeId? type with
  | some id => exact oblivious_pure id
  | none =>
      refine declares.bind fun id => Oblivious.bind ?_ fun _ => oblivious_pure id
      exact oblivious_modify (fun builder => builder.addType type id)
        fun builder => withoutNames_addDeclaredType builder type id

theorem oblivious_registerScalar (scalar : ScalarType) : Oblivious (registerScalar scalar) :=
  oblivious_registered _ (oblivious_define _)

theorem oblivious_registerVector (vector : VectorType) : Oblivious (registerVector vector) :=
  oblivious_registered _ ((oblivious_registerScalar vector.base).bind fun _ => oblivious_define _)

theorem oblivious_registerMatrix (matrix : MatrixType) : Oblivious (registerMatrix matrix) :=
  oblivious_registered _ ((oblivious_registerVector matrix.column).bind fun _ => oblivious_define _)

theorem oblivious_registerSampler : Oblivious registerSampler :=
  oblivious_registered _ (oblivious_define _)

theorem oblivious_registerComparisonSampler : Oblivious registerComparisonSampler := by
  refine oblivious_choose (fun _ => rfl) fun builder => ?_
  cases builder.typeId? .comparisonSampler with
  | some id => exact oblivious_pure id
  | none =>
      refine oblivious_registerSampler.bind fun id => Oblivious.bind ?_ fun _ => oblivious_pure id
      exact oblivious_modify (fun builder => builder.addType .comparisonSampler id) fun _ => rfl

theorem oblivious_registerConstant (scalar : ScalarType) (value : Constant) :
    Oblivious (registerConstant scalar value) := by
  refine oblivious_choose (fun _ => rfl) fun builder => ?_
  cases builder.constantId? scalar value with
  | some id => exact oblivious_pure id
  | none =>
      dsimp only
      split
      · exact oblivious_throw _
      · refine (oblivious_registerScalar scalar).bind fun type => ?_
        refine (oblivious_define _).bind fun id => Oblivious.bind ?_ fun _ => oblivious_pure id
        exact oblivious_modify (fun builder =>
          { builder with constants := ((scalar, value), id) :: builder.constants }) fun _ => rfl

theorem oblivious_emitMemberNames (type : ResultId) (fields : List Field) :
    Oblivious (emitMemberNames type fields) := by
  refine oblivious_modify id fun builder => ?_
  split
  · apply withoutNames_append_naming
    intro instruction member
    obtain ⟨index, inside, rfl⟩ := List.mem_mapIdx.mp member
    rfl
  · rfl

mutual

theorem oblivious_register : ∀ type : ShaderType, Oblivious (register type)
  | .scalar scalar => oblivious_registerScalar scalar
  | .vector vector => oblivious_registerVector vector
  | .matrix matrix => oblivious_registerMatrix matrix
  | .sampler => oblivious_registerSampler
  | .comparisonSampler => oblivious_registerComparisonSampler
  | .array base size =>
      oblivious_registered _ ((oblivious_register base).bind fun _ =>
        (oblivious_registerConstant .uint (.int size)).bind fun _ => oblivious_define _)
  | .struct _ fields =>
      oblivious_registered _ ((oblivious_registerFields fields).bind fun _ =>
        (oblivious_define _).bind fun result =>
          (oblivious_emitMemberNames result fields).bind fun _ => oblivious_pure result)
  | .function returned parameters =>
      oblivious_registered _ ((oblivious_register returned).bind fun _ =>
        (oblivious_registerAll parameters).bind fun _ => oblivious_define _)
  | .pointer base | .buffer base _ | .texture1D base _ =>
      oblivious_registered _ ((oblivious_register base).bind fun _ => oblivious_define _)
  | .texture2D base _ _ =>
      oblivious_registered _ ((oblivious_register base).bind fun _ => oblivious_define _)
  | .texture3D base _ _ _ =>
      oblivious_registered _ ((oblivious_register base).bind fun _ => oblivious_define _)
  | .undefined _ | .streams => oblivious_registered _ (oblivious_throw _)
  | .group .. | .shader .. => oblivious_registered _ (oblivious_throw _)

theorem oblivious_registerAll : ∀ types : List ShaderType, Oblivious (registerAll types)
  | [] => oblivious_pure []
  | type :: rest =>
      (oblivious_register type).bind fun id =>
        (oblivious_registerAll rest).bind fun ids => oblivious_pure (id :: ids)

theorem oblivious_registerField : ∀ field : Field, Oblivious (registerField field)
  | ⟨_, type⟩ => oblivious_register type

theorem oblivious_registerFields : ∀ fields : List Field, Oblivious (registerFields fields)
  | [] => oblivious_pure []
  | field :: rest =>
      (oblivious_registerField field).bind fun id =>
        (oblivious_registerFields rest).bind fun ids => oblivious_pure (id :: ids)

end

/-! ### Names and semantics -/

theorem oblivious_requireAllocated (id : ResultId) : Oblivious (requireAllocated id) := by
  refine oblivious_choose (fun _ => rfl) fun builder => ?_
  split
  · exact oblivious_pure ()
  · exact oblivious_throw _

theorem oblivious_addName (target : ResultId) (name : String) :
    Oblivious (addName target name) :=
  (oblivious_requireAllocated target).bind fun _ =>
    oblivious_modify id fun builder => withoutNames_addName builder target name

theorem oblivious_addSemantic (target : ResultId) (semantic : String) :
    Oblivious (addSemantic target semantic) :=
  (oblivious_requireAllocated target).bind fun _ =>
    oblivious_modify (fun builder => builder.addSemantic target semantic)
      fun builder => withoutNames_addSemantic builder target semantic

theorem Oblivious.final {step : Build α} (oblivious : Oblivious step)
    {left right : ModuleBuilder}
    (same : left.withoutNames = right.withoutNames) :
    (Run.final step left).withoutNames = (Run.final step right).withoutNames := by
  rcases Run.cases_of_seen_eq (oblivious left right same) with
    ⟨value, leftAfter, rightAfter, leftRun, rightRun, sameAfter⟩ |
    ⟨fault, leftAfter, rightAfter, leftRun, rightRun, sameAfter⟩
  · rw [Run.final_of_ok leftRun, Run.final_of_ok rightRun, sameAfter]
  · rw [Run.final_of_error leftRun, Run.final_of_error rightRun, sameAfter]

end Build

namespace BuilderCall

open ModuleBuilder

variable {left right builder : ModuleBuilder}

theorem perform_withoutNames (call : BuilderCall)
    (same : left.withoutNames = right.withoutNames) :
    (call.perform left).withoutNames = (call.perform right).withoutNames := by
  cases call with
  | freshId => exact Build.oblivious_freshId.final same
  | register type => exact (Build.oblivious_register type).final same
  | registerConstant scalar value =>
      exact (Build.oblivious_registerConstant scalar value).final same
  | addName id name => exact (Build.oblivious_addName id name).final same
  | addSemantic id semantic => exact (Build.oblivious_addSemantic id semantic).final same

theorem performAll_withoutNames (calls : List BuilderCall)
    (same : left.withoutNames = right.withoutNames) :
    (performAll calls left).withoutNames = (performAll calls right).withoutNames := by
  induction calls generalizing left right with
  | nil => exact same
  | cons call rest inductionHypothesis =>
      exact inductionHypothesis (call.perform_withoutNames same)

/-! ## Names on record -/

/-- The name that a call gives to an id that has been handed out. -/
def givenName (builder : ModuleBuilder) : BuilderCall → List (ResultId × String)
  | addName id name => if builder.isAllocated id then [(id, name)] else []
  | _ => []

/-- The names that calls give to ids that have been handed out, the latest first. -/
def givenNames : List BuilderCall → ModuleBuilder → List (ResultId × String)
  | [], _ => []
  | call :: rest, builder => givenNames rest (call.perform builder) ++ call.givenName builder

theorem givenNames_eq (calls : List BuilderCall)
    (same : left.withoutNames = right.withoutNames) :
    givenNames calls left = givenNames calls right := by
  induction calls generalizing left right with
  | nil => rfl
  | cons call rest inductionHypothesis =>
      have sameName : call.givenName left = call.givenName right := by
        have sameBound := bound_eq_of_withoutNames same
        cases call <;> simp [givenName, isAllocated, sameBound]
      rw [givenNames, givenNames, sameName, inductionHypothesis (call.perform_withoutNames same)]

end BuilderCall

namespace ModuleBuilder

variable {limit : Nat} {before after builder : ModuleBuilder}
  {given : List (ResultId × String)}

/-- A text is the canonical id of the type that is declared with an id.  The comparison sampler type
takes the id of the plain one, and declares nothing. -/
def NamesType (builder : ModuleBuilder) (id : ResultId) (text : String) : Prop :=
  ∃ type, type ≠ .comparisonSampler ∧ builder.typeId? type = some id ∧ text = type.canonicalId

/-- The names on record are the given ones and, with type names switched on, those of the types
whose ids have no given name. -/
structure Records (given : List (ResultId × String)) (builder : ModuleBuilder) : Prop where
  name : ∀ id text, builder.nameOf? id = some text ↔
    given.lookup id = some text ∨
      given.lookup id = none ∧ builder.options.typeNames = true ∧ builder.NamesType id text
  allocated : ∀ id, given.lookup id ≠ none → id < builder.bound

theorem records_initial (options : CompileOptions) : (initial options).Records [] := by
  constructor
  · simp [initial, nameOf?, NamesType, typeId?]
  · simp

theorem NamesType.below {id : ResultId} {text : String}
    (names : builder.NamesType id text)
    (identifies : builder.Identifies) :
    id < builder.bound := by
  obtain ⟨type, -, registered, -⟩ := names
  exact identifies.allocated type id registered

/-- An id that has not been handed out has no name. -/
theorem Records.nameOf?_bound (records : builder.Records given)
    (identifies : builder.Identifies) :
    given.lookup builder.bound = none ∧ builder.nameOf? builder.bound = none := by
  have notGiven : given.lookup builder.bound = none := by
    by_contra isGiven
    exact Nat.lt_irrefl _ (records.allocated _ isGiven)
  refine ⟨notGiven, Option.eq_none_iff_forall_ne_some.mpr fun text named => ?_⟩
  rcases (records.name _ _).mp named with isGiven | ⟨-, -, names⟩
  · rw [notGiven] at isGiven
    cases isGiven
  · exact Nat.lt_irrefl _ (names.below identifies)

/-- Steps that name nothing keep the names on record. -/
theorem Records.keep (records : before.Records given)
    (options : after.options = before.options)
    (names : after.names = before.names)
    (types : ∀ type, type ≠ .comparisonSampler → after.typeId? type = before.typeId? type)
    (bound : before.bound ≤ after.bound) :
    after.Records given where
  name id text := by
    have sameTypes : after.NamesType id text ↔ before.NamesType id text := by
      refine exists_congr fun type => and_congr_right fun plain => ?_
      rw [types type plain]
    have sameName : after.nameOf? id = before.nameOf? id := by
      unfold nameOf?
      rw [names]
    rw [sameName, options, sameTypes]
    exact records.name id text
  allocated id isGiven := Nat.lt_of_lt_of_le (records.allocated id isGiven) bound

theorem names_declared (builder : ModuleBuilder) (type : ShaderType)
    (form : ResultId → Instruction) :
    (builder.declared type form).names =
      if builder.options.typeNames then (builder.bound, type.canonicalId) :: builder.names
      else builder.names := by
  unfold declared addDeclaredType
  change (if builder.options.typeNames then _ else _ : ModuleBuilder).names = _
  split <;> rfl

theorem namesType_declared {type : ShaderType} {form : ResultId → Instruction}
    (identifies : builder.Identifies)
    (unregistered : builder.typeId? type = none)
    (written : builder.TypeForm type form) (id : ResultId) (text : String) :
    (builder.declared type form).NamesType id text ↔
      if id = builder.bound then text = type.canonicalId else builder.NamesType id text := by
  constructor
  · rintro ⟨asked, plain, registered, rfl⟩
    rw [typeId?_declared] at registered
    split at registered
    · next same =>
        cases registered
        rw [if_pos rfl, same]
    · rw [if_neg (Nat.ne_of_lt (identifies.allocated asked id registered))]
      exact ⟨asked, plain, registered, rfl⟩
  · intro names
    split at names
    · next isNew =>
        refine ⟨type, written.ne_comparisonSampler, ?_, names⟩
        rw [typeId?_declared, if_pos rfl, isNew]
    · obtain ⟨asked, plain, registered, sameText⟩ := names
      refine ⟨asked, plain, ?_, sameText⟩
      rw [typeId?_declared, if_neg, registered]
      rintro rfl
      rw [unregistered] at registered
      cases registered

theorem nameOf?_declared (builder : ModuleBuilder) (type : ShaderType)
    (form : ResultId → Instruction) (id : ResultId) :
    (builder.declared type form).nameOf? id =
      if id = builder.bound ∧ builder.options.typeNames = true then some type.canonicalId
      else builder.nameOf? id := by
  unfold nameOf?
  rw [names_declared]
  by_cases switchedOn : builder.options.typeNames = true
  · simp only [switchedOn, if_true, lookup_cons_eq, and_true]
  · simp only [switchedOn, and_false, if_false, Bool.false_eq_true]

/-- The type is the only thing that names its id. -/
theorem Records.declared (records : builder.Records given) (identifies : builder.Identifies)
    {type : ShaderType} {form : ResultId → Instruction}
    (unregistered : builder.typeId? type = none)
    (written : builder.TypeForm type form) :
    (builder.declared type form).Records given where
  name id text := by
    obtain ⟨notGiven, unnamed⟩ := records.nameOf?_bound identifies
    rw [namesType_declared identifies unregistered written, nameOf?_declared, options_declared]
    by_cases isNew : id = builder.bound
    · subst isNew
      simp only [notGiven, unnamed, true_and, reduceCtorEq, false_or, if_true]
      cases builder.options.typeNames <;> simp [eq_comm]
    · simp only [isNew, false_and, if_false]
      exact records.name id text
  allocated id isGiven := by
    rw [bound_declared]
    exact Nat.lt_succ_of_lt (records.allocated id isGiven)

theorem Declaration.records (declaration : Declaration limit before after)
    (records : before.Records given)
    (identifies : before.Identifies) :
    after.Records given := by
  cases declaration with
  | type light unregistered written => exact records.declared identifies unregistered written
  | comparison light unregistered plain =>
      refine records.keep rfl rfl (fun type different => ?_) (Nat.le_refl _)
      rw [typeId?_addType, if_neg different]
  | constant unregistered valued typed =>
      exact records.keep rfl rfl (fun _ _ => rfl) (Nat.le_succ _)

theorem Reaches.records (reaches : Reaches limit before after)
    (records : before.Records given)
    (identifies : before.Identifies) :
    after.Records given := by
  induction reaches with
  | refl => exact records
  | tail reaches declaration inductionHypothesis =>
      exact declaration.records inductionHypothesis (Reaches.identifies reaches identifies)

/-- A given name takes the place of the name before. -/
theorem Records.addName (records : builder.Records given) {id : ResultId}
    (allocated : builder.isAllocated id = true) (name : String) :
    (builder.addName id name).Records ((id, name) :: given) where
  name asked text := by
    have names : (builder.addName id name).names = (id, name) :: builder.names := by
      unfold ModuleBuilder.addName
      split <;> rfl
    have sameTypes : (builder.addName id name).NamesType asked text ↔
        builder.NamesType asked text := by
      unfold NamesType typeId?
      rw [types_addName]
    rw [options_addName, sameTypes]
    unfold nameOf?
    rw [names, lookup_cons_eq, lookup_cons_eq]
    split
    · simp
    · exact records.name asked text
  allocated asked isGiven := by
    rw [bound_addName]
    rw [lookup_cons_eq] at isGiven
    split at isGiven
    · next same =>
        rw [same]
        simpa using (Bool.and_eq_true_iff.mp allocated).2
    · exact records.allocated asked isGiven

theorem Identifies.exists_namesType (identifies : builder.Identifies) {type : ShaderType}
    {id : ResultId}
    (registered : builder.typeId? type = some id) :
    ∃ text, builder.NamesType id text := by
  by_cases isComparison : type = .comparisonSampler
  · subst isComparison
    exact ⟨_, .sampler, nofun, identifies.comparison id registered, rfl⟩
  · exact ⟨_, type, isComparison, registered, rfl⟩

theorem namesType_of_withoutNames {left right : ModuleBuilder}
    (same : left.withoutNames = right.withoutNames) (id : ResultId) (text : String) :
    left.NamesType id text ↔ right.NamesType id text := by
  have sameTypes : ∀ type, left.typeId? type = right.typeId? type := by
    intro type
    have sameId := congrArg (fun builder => builder.typeId? type) same
    exact sameId
  simp only [NamesType, sameTypes]

/-- Builders that are the same without their names, and have been given the same ones, record the
same name for an id, unless one of them names types, the other does not, and the id is that of a
type without a given name. -/
theorem Records.nameOf?_eq_iff {left right : ModuleBuilder}
    (first : left.Records given)
    (second : right.Records given)
    (identifies : left.Identifies)
    (same : left.withoutNames = right.withoutNames) (id : ResultId) :
    left.nameOf? id = right.nameOf? id ↔
      left.options.typeNames = right.options.typeNames ∨ given.lookup id ≠ none ∨
        ∀ type, left.typeId? type ≠ some id := by
  cases isGiven : given.lookup id with
  | some name =>
      have leftName := (first.name id name).mpr (.inl isGiven)
      have rightName := (second.name id name).mpr (.inl isGiven)
      simp [leftName, rightName]
  | none =>
      have leftName : ∀ text, left.nameOf? id = some text ↔
          left.options.typeNames = true ∧ left.NamesType id text := by
        simp [first.name, isGiven]
      have rightName : ∀ text, right.nameOf? id = some text ↔
          right.options.typeNames = true ∧ left.NamesType id text := by
        simp [second.name, isGiven, namesType_of_withoutNames same]
      constructor
      · intro sameName
        by_contra! differs
        obtain ⟨sameOptions, -, type, registered⟩ := differs
        obtain ⟨text, names⟩ := identifies.exists_namesType registered
        apply sameOptions
        have leftNamed := leftName text
        rw [sameName, rightName] at leftNamed
        simpa [names] using leftNamed.symm
      · rintro (sameOptions | impossible | noType)
        · ext text
          rw [leftName, rightName, sameOptions]
        · exact absurd rfl impossible
        · have unnamed : ∀ text, ¬ left.NamesType id text := by
            rintro text ⟨type, -, registered, -⟩
            exact noType type registered
          ext text
          simp [leftName, rightName, unnamed]

end ModuleBuilder

namespace BuilderCall

open ModuleBuilder

variable {builder : ModuleBuilder} {given : List (ResultId × String)}

theorem perform_addName (id : ResultId) (name : String) (builder : ModuleBuilder) :
    (addName id name).perform builder =
      if builder.isAllocated id then builder.addName id name else builder :=
  final_requireAllocated builder id fun current => current.addName id name

theorem perform_addSemantic (id : ResultId) (semantic : String) (builder : ModuleBuilder) :
    (addSemantic id semantic).perform builder =
      if builder.isAllocated id then builder.addSemantic id semantic else builder :=
  final_requireAllocated builder id fun current => current.addSemantic id semantic

theorem options_perform (call : BuilderCall) (builder : ModuleBuilder) :
    (call.perform builder).options = builder.options := by
  cases call with
  | freshId => rfl
  | register type => exact (Build.register_final type builder).options
  | registerConstant scalar value =>
      exact (Build.registerConstant_final scalar value builder).options
  | addName id name =>
      rw [perform_addName]
      split
      · exact options_addName builder id name
      · rfl
  | addSemantic id semantic =>
      rw [perform_addSemantic]
      split <;> rfl

theorem identifies_perform (call : BuilderCall) (identifies : builder.Identifies) :
    (call.perform builder).Identifies := by
  rcases call.perform_cases builder with ⟨limit, reaches⟩ | ⟨new, extension⟩
  · exact reaches.identifies identifies
  · exact identifies.extend extension

theorem records_perform (call : BuilderCall)
    (records : builder.Records given)
    (identifies : builder.Identifies) :
    (call.perform builder).Records (call.givenName builder ++ given) := by
  cases call with
  | freshId => exact records.keep rfl rfl (fun _ _ => rfl) (Nat.le_succ _)
  | register type => exact (Build.register_final type builder).records records identifies
  | registerConstant scalar value =>
      exact (Build.registerConstant_final scalar value builder).records records identifies
  | addName id name =>
      rw [perform_addName, givenName]
      split
      · next allocated => exact records.addName allocated name
      · exact records
  | addSemantic id semantic =>
      rw [perform_addSemantic]
      split
      · exact records.keep rfl rfl (fun _ _ => rfl) (Nat.le_refl _)
      · exact records

/-- After calls, the names on record are those that were given and those of types. -/
theorem performAll_records (calls : List BuilderCall)
    (records : builder.Records given)
    (identifies : builder.Identifies) :
    (performAll calls builder).Records (givenNames calls builder ++ given) ∧
      (performAll calls builder).Identifies ∧
      (performAll calls builder).options = builder.options := by
  induction calls generalizing builder given with
  | nil => exact ⟨records, identifies, rfl⟩
  | cons call rest inductionHypothesis =>
      rw [givenNames, List.append_assoc, ← call.options_perform builder]
      exact inductionHypothesis (call.records_perform records identifies)
        (call.identifies_perform identifies)

/-- Whatever calls a builder has received, its options matter for nothing but names.  The name of an
id is the last one that was given to it, and else, only with type names switched on, the canonical
id of the type that it declares.  So two builders record the same name for an id, unless the types
are named by one of them only and the id is that of a type without a given name. -/
theorem performAll_names (calls : List BuilderCall) (first second : CompileOptions)
    (id : ResultId) :
    (performAll calls (.initial first)).withoutNames =
        (performAll calls (.initial second)).withoutNames ∧
      (performAll calls (.initial first)).semanticOf? id =
        (performAll calls (.initial second)).semanticOf? id ∧
      (∀ text, (performAll calls (.initial first)).nameOf? id = some text ↔
        (givenNames calls (.initial first)).lookup id = some text ∨
          (givenNames calls (.initial first)).lookup id = none ∧ first.typeNames = true ∧
            (performAll calls (.initial first)).NamesType id text) ∧
      ((performAll calls (.initial first)).nameOf? id =
          (performAll calls (.initial second)).nameOf? id ↔
        first.typeNames = second.typeNames ∨
          (givenNames calls (.initial first)).lookup id ≠ none ∨
            ∀ type, (performAll calls (.initial first)).typeId? type ≠ some id) := by
  have start : (initial first).withoutNames = (initial second).withoutNames := rfl
  have same := performAll_withoutNames calls start
  have sameSemantic := congrArg (fun builder => builder.semanticOf? id) same
  obtain ⟨firstRecords, identifies, firstOptions⟩ :=
    performAll_records calls (records_initial first) (identifies_initial first)
  obtain ⟨secondRecords, -, secondOptions⟩ :=
    performAll_records calls (records_initial second) (identifies_initial second)
  rw [List.append_nil] at firstRecords secondRecords
  rw [← givenNames_eq calls start] at secondRecords
  refine ⟨same, sameSemantic, fun text => ?_, ?_⟩
  · rw [firstRecords.name id text, firstOptions]
    rfl
  · rw [firstRecords.nameOf?_eq_iff secondRecords identifies same id, firstOptions, secondOptions]
    rfl

/-- With type names switched off, the name of a declared type is not on record. -/
theorem float_notRecorded :
    (performAll [.register (.scalar .float)] (.initial ⟨true, false⟩)).nameOf? 1 ≠
      (performAll [.register (.scalar .float)] (.initial .allNames)).nameOf? 1 := by
  decide

end BuilderCall

end ShaderLang
