import ShaderLang.Proofs.Steps

/-!
# Builders that mirror each other

The options of a compilation decide which names are emitted.  Two builders, one with every name and
one under options, go through the same steps: they hand out the same ids and fail alike, and the
code of the second is that of the first without the names that the options leave out.
-/

namespace ShaderLang

/-! ## Code without names -/

namespace Instruction

/-- Whether code declares a type with an id. -/
def declaresType (code : List Instruction) (id : ResultId) : Bool :=
  code.any fun instruction => instruction.opcode.declaresType && instruction.result? = some id

/-- Whether an instruction of a code is emitted under options.  The name of a type is a type name,
every other name is a debug name. -/
def isKept (options : CompileOptions) (code : List Instruction) : Instruction → Bool
  | name target _ => if declaresType code target then options.typeNames else options.debugNames
  | memberName .. => options.debugNames
  | _ => true

theorem declaresType_append (front back : List Instruction) (id : ResultId) :
    declaresType (front ++ back) id = (declaresType front id || declaresType back id) :=
  List.any_append

theorem declaresType_singleton (instruction : Instruction) (id : ResultId) :
    declaresType [instruction] id =
      (instruction.opcode.declaresType && instruction.result? = some id) :=
  Bool.or_false _

theorem isKept_of_result? {instruction : Instruction} {result : ResultId}
    (defines : instruction.result? = some result)
    (options : CompileOptions) (code : List Instruction) :
    isKept options code instruction = true := by
  cases instruction <;> first | rfl | cases defines

end Instruction

/-! ## Runs that agree -/

namespace Run

variable {ε σ α β : Type}

/-- Two outcomes are alike: both runs succeed with one value in related states, or both fail with
one fault. -/
inductive Agrees (related : σ → σ → Prop) (good : α → σ → Prop) :
    EStateM.Result ε σ α → EStateM.Result ε σ α → Prop
  | ok {value : α} {left right : σ}
      (states : related left right)
      (holds : good value left) :
      Agrees related good (.ok value left) (.ok value right)
  | error {fault : ε} {left right : σ} :
      Agrees related good (.error fault left) (.error fault right)

variable {related : σ → σ → Prop} {left right : σ}

theorem Agrees.imp {good better : α → σ → Prop} {first second : EStateM.Result ε σ α}
    (agrees : Agrees related good first second)
    (weaker : ∀ value state, good value state → better value state) :
    Agrees related better first second := by
  cases agrees with
  | ok states holds => exact .ok states (weaker _ _ holds)
  | error => exact .error

theorem Agrees.outcomes {good : α → σ → Prop} {first second : EStateM.Result ε σ α}
    (agrees : Agrees related good first second) :
    (∃ value left right, first = .ok value left ∧ second = .ok value right ∧
      related left right ∧ good value left) ∨
    ∃ fault left right, first = .error fault left ∧ second = .error fault right := by
  cases agrees with
  | ok states holds => exact .inl ⟨_, _, _, rfl, rfl, states, holds⟩
  | error => exact .inr ⟨_, _, _, rfl, rfl⟩

/-- Sequences of steps that agree agree. -/
theorem Agrees.bind {good : α → σ → Prop} {better : β → σ → Prop} {first : EStateM ε σ α}
    {next : α → EStateM ε σ β}
    (firstAgrees : Agrees related good (first.run left) (first.run right))
    (nextAgrees : ∀ value left right, related left right → good value left →
      Agrees related better ((next value).run left) ((next value).run right)) :
    Agrees related better ((first >>= next).run left) ((first >>= next).run right) := by
  rw [EStateM.run_bind, EStateM.run_bind]
  rcases firstAgrees.outcomes with
    ⟨value, leftAfter, rightAfter, leftOk, rightOk, states, holds⟩ |
      ⟨fault, _, _, leftFails, rightFails⟩
  · rw [leftOk, rightOk]
    exact nextAgrees value leftAfter rightAfter states holds
  · rw [leftFails, rightFails]
    exact .error

theorem Agrees.pure {good : α → σ → Prop} {value : α}
    (states : related left right)
    (holds : good value left) :
    Agrees related good ((pure value : EStateM ε σ α).run left)
      ((pure value : EStateM ε σ α).run right) :=
  .ok states holds

/-- Items that agree one by one agree together. -/
theorem Agrees.forM {step : α → EStateM ε σ PUnit} {items : List α}
    (states : related left right)
    (each : ∀ item left right, related left right →
      Agrees related (fun _ _ => True) ((step item).run left) ((step item).run right)) :
    Agrees related (fun _ _ => True) ((items.forM step).run left)
      ((items.forM step).run right) := by
  induction items generalizing left right with
  | nil =>
      rw [run_forM_nil, run_forM_nil]
      exact .ok states trivial
  | cons item rest inductionHypothesis =>
      rw [forM_cons]
      exact (each item left right states).bind fun _ _ _ later _ => inductionHypothesis later

end Run

/-! ## Builders that mirror each other -/

namespace ModuleBuilder

/-- A builder under options mirrors one that emits every name.  Names are given to ids that have
been handed out, and so is the id of every declared type. -/
structure Mirrors (options : CompileOptions) (full part : ModuleBuilder) : Prop where
  allNames : full.options = .allNames
  restricted : part.options = options
  bound : part.bound = full.bound
  types : part.types = full.types
  constants : part.constants = full.constants
  code : part.code = full.code.filter (Instruction.isKept options full.code)
  targets : ∀ target text, .name target text ∈ full.code → target < full.bound
  declared : ∀ id, Instruction.declaresType full.code id = true → id < full.bound

variable {options : CompileOptions} {full part full' part' : ModuleBuilder}

theorem mirrors_initial (options : CompileOptions) :
    Mirrors options (initial .allNames) (initial options) where
  allNames := rfl
  restricted := rfl
  bound := rfl
  types := rfl
  constants := rfl
  code := rfl
  targets _ _ member := absurd member List.not_mem_nil
  declared id isDeclared := by cases isDeclared

namespace Mirrors

theorem declaresType_bound (mirrors : Mirrors options full part) :
    Instruction.declaresType full.code full.bound = false :=
  Bool.eq_false_iff.mpr fun isDeclared => Nat.lt_irrefl _ (mirrors.declared _ isDeclared)

/-- Builders go on mirroring each other when the new names have targets, and the new types have
ids, that are handed out. -/
theorem extend (mirrors : Mirrors options full part) (new : List Instruction)
    (allNames : full'.options = full.options)
    (sameOptions : part'.options = part.options)
    (grows : full.bound ≤ full'.bound)
    (bound : part'.bound = full'.bound)
    (types : part'.types = full'.types)
    (constants : part'.constants = full'.constants)
    (fullCode : full'.code = full.code ++ new)
    (partCode : part'.code = part.code ++ new.filter (Instruction.isKept options full'.code))
    (targets : ∀ target text, .name target text ∈ new → target < full'.bound)
    (fresh : ∀ id, Instruction.declaresType new id = true → full.bound ≤ id ∧ id < full'.bound) :
    Mirrors options full' part' := by
  -- the names in front of the new code keep their kind, since no new type takes an old id
  have sameKept : full.code.filter (Instruction.isKept options full'.code) =
      full.code.filter (Instruction.isKept options full.code) := by
    refine List.filter_congr fun instruction member => ?_
    cases instruction with
    | name target text =>
        have below := mirrors.targets target text member
        have notNew : Instruction.declaresType new target = false := by
          refine Bool.eq_false_iff.mpr fun isNew => ?_
          have above := (fresh target isNew).1
          exact Nat.not_lt.mpr above below
        simp only [Instruction.isKept, fullCode, Instruction.declaresType_append, notNew,
          Bool.or_false]
    | _ => rfl
  refine ⟨allNames.trans mirrors.allNames, sameOptions.trans mirrors.restricted, bound, types,
    constants, ?_, ?_, ?_⟩
  · rw [partCode, mirrors.code, ← sameKept, ← List.filter_append, ← fullCode]
  · intro target text member
    rw [fullCode] at member
    rcases List.mem_append.mp member with older | newer
    · exact Nat.lt_of_lt_of_le (mirrors.targets target text older) grows
    · exact targets target text newer
  · intro id isDeclared
    rw [fullCode, Instruction.declaresType_append] at isDeclared
    rcases Bool.or_eq_true _ _ ▸ isDeclared with older | newer
    · exact Nat.lt_of_lt_of_le (mirrors.declared id older) grows
    · exact (fresh id newer).2

/-- Builders that differ in other ways than in code and bound. -/
theorem update (mirrors : Mirrors options full part)
    (allNames : full'.options = full.options)
    (sameOptions : part'.options = part.options)
    (fullBound : full'.bound = full.bound)
    (partBound : part'.bound = part.bound)
    (types : part'.types = full'.types)
    (constants : part'.constants = full'.constants)
    (fullCode : full'.code = full.code)
    (partCode : part'.code = part.code) :
    Mirrors options full' part' := by
  refine mirrors.extend [] allNames sameOptions (Nat.le_of_eq fullBound.symm) ?_ types
    constants (fullCode.trans (List.append_nil _).symm) (partCode.trans (List.append_nil _).symm)
    ?_ ?_
  · rw [partBound, fullBound, mirrors.bound]
  · exact fun _ _ member => absurd member List.not_mem_nil
  · intro id isDeclared
    cases isDeclared

theorem defined (mirrors : Mirrors options full part) {form : ResultId → Instruction}
    (defines : ∀ id, (form id).result? = some id) :
    Mirrors options (full.defined form) (part.defined form) := by
  have kept := Instruction.isKept_of_result? (defines full.bound) options
    (full.defined form).code
  refine mirrors.extend [form full.bound] rfl rfl (Nat.le_succ _)
    (congrArg Nat.succ mirrors.bound) mirrors.types mirrors.constants rfl ?_ ?_ ?_
  · change part.code ++ [form part.bound] = _
    rw [mirrors.bound, List.filter_cons_of_pos kept, List.filter_nil]
  · intro target text member
    have noResult := defines full.bound
    rw [← List.mem_singleton.mp member] at noResult
    cases noResult
  · intro id isDeclared
    have same : full.bound = id := by
      rw [Instruction.declaresType_singleton, defines full.bound] at isDeclared
      simpa using (Bool.and_eq_true_iff.mp isDeclared).2
    rw [← same]
    exact ⟨Nat.le_refl _, Nat.lt_succ_self _⟩

theorem append (mirrors : Mirrors options full part) (instruction : Instruction)
    (kept : ∀ code, Instruction.isKept options code instruction = true)
    (unnamed : instruction.opcode ≠ .name)
    (noType : instruction.opcode.declaresType = false) :
    Mirrors options (full.append instruction) (part.append instruction) := by
  refine mirrors.extend [instruction] rfl rfl (Nat.le_refl _) mirrors.bound mirrors.types
    mirrors.constants rfl ?_ ?_ ?_
  · rw [List.filter_cons_of_pos (kept _), List.filter_nil]
    rfl
  · intro target text member
    rw [← List.mem_singleton.mp member] at unnamed
    exact absurd rfl unnamed
  · intro id isDeclared
    rw [Instruction.declaresType_singleton, noType] at isDeclared
    cases isDeclared

/-- A name is emitted as the kind of its target asks. -/
theorem name (mirrors : Mirrors options full part) {id : ResultId} {text : String} (emitted : Bool)
    (allNames : full'.options = full.options)
    (sameOptions : part'.options = part.options)
    (fullBound : full'.bound = full.bound)
    (partBound : part'.bound = part.bound)
    (types : part'.types = full'.types)
    (constants : part'.constants = full'.constants)
    (fullCode : full'.code = full.code ++ [.name id text])
    (partCode : part'.code = part.code ++ if emitted then [.name id text] else [])
    (below : id < full.bound)
    (kind : emitted =
      if Instruction.declaresType full.code id then options.typeNames else options.debugNames) :
    Mirrors options full' part' := by
  have sameKind : Instruction.isKept options full'.code (.name id text) = emitted := by
    rw [kind, fullCode]
    simp only [Instruction.isKept, Instruction.declaresType_append,
      Instruction.declaresType_singleton, Instruction.opcode, Opcode.declaresType, Bool.false_and,
      Bool.or_false]
  refine mirrors.extend [.name id text] allNames sameOptions (Nat.le_of_eq fullBound.symm) ?_ types
    constants fullCode ?_ ?_ ?_
  · rw [partBound, fullBound, mirrors.bound]
  · rw [partCode, List.filter_cons, sameKind, List.filter_nil]
  · intro target other member
    cases List.mem_singleton.mp member
    rw [fullBound]
    exact below
  · intro other isDeclared
    cases isDeclared

/-- The name of an id that is no type is a debug name. -/
theorem addName (mirrors : Mirrors options full part) {id : ResultId} (text : String)
    (below : id < full.bound)
    (noType : Instruction.declaresType full.code id = false) :
    Mirrors options (full.addName id text) (part.addName id text) := by
  have fullNames : full.addName id text =
      (full.recordName id text).append (.name id text) := by
    unfold ModuleBuilder.addName
    rw [mirrors.allNames]
    rfl
  have partNames : part.addName id text = { part.recordName id text with
      code := part.code ++ if options.debugNames then [.name id text] else [] } := by
    unfold ModuleBuilder.addName
    rw [mirrors.restricted]
    split
    · rfl
    · rw [List.append_nil]
      rfl
  rw [fullNames, partNames]
  refine mirrors.name options.debugNames rfl rfl rfl rfl mirrors.types
    mirrors.constants rfl rfl below ?_
  rw [noType]
  rfl

/-- The name of a type is a type name. -/
theorem addDeclaredType (mirrors : Mirrors options full part) {id : ResultId} (type : ShaderType)
    (below : id < full.bound)
    (isType : Instruction.declaresType full.code id = true) :
    Mirrors options (full.addDeclaredType type id) (part.addDeclaredType type id) := by
  have sameTypes : (type, id) :: part.types = (type, id) :: full.types :=
    congrArg _ mirrors.types
  have kind : options.typeNames = if Instruction.declaresType full.code id then
      options.typeNames else options.debugNames := by
    rw [isType]
    rfl
  have fullNames : full.addDeclaredType type id =
      ((full.addType type id).recordName id type.canonicalId).append
        (.name id type.canonicalId) := by
    unfold ModuleBuilder.addDeclaredType
    rw [mirrors.allNames]
    rfl
  rw [fullNames]
  unfold ModuleBuilder.addDeclaredType
  rw [mirrors.restricted]
  cases emitted : options.typeNames with
  | true =>
      exact mirrors.name true rfl rfl rfl rfl sameTypes mirrors.constants rfl rfl
        below (emitted.symm.trans kind)
  | false =>
      exact mirrors.name false rfl rfl rfl rfl sameTypes mirrors.constants rfl
        (List.append_nil _).symm below (emitted.symm.trans kind)

/-- The names of members are debug names. -/
theorem memberNames (mirrors : Mirrors options full part) {names : List Instruction}
    (isMemberName : ∀ instruction ∈ names, instruction.opcode = .memberName) :
    Mirrors options { full with code := full.code ++ names }
      { part with code := part.code ++ if options.debugNames then names else [] } := by
  have sameKind : ∀ code, ∀ instruction ∈ names,
      Instruction.isKept options code instruction = options.debugNames := by
    intro code instruction member
    have opcode := isMemberName instruction member
    cases instruction <;> first | rfl | cases opcode
  refine mirrors.extend names rfl rfl (Nat.le_refl _) mirrors.bound mirrors.types
    mirrors.constants rfl ?_ ?_ ?_
  · rw [List.filter_congr (sameKind _)]
    cases options.debugNames with
    | true => exact congrArg _ (List.filter_eq_self.mpr fun _ _ => rfl).symm
    | false => exact congrArg _ (List.filter_eq_nil_iff.mpr fun _ _ => Bool.false_ne_true).symm
  · intro target text member
    cases isMemberName _ member
  · intro id isDeclared
    obtain ⟨instruction, member, declares⟩ := List.any_eq_true.mp isDeclared
    rw [isMemberName instruction member] at declares
    cases declares

end Mirrors

/-- An id that has been handed out and is that of a type. -/
structure IsTypeId (builder : ModuleBuilder) (id : ResultId) : Prop where
  below : id < builder.bound
  isType : Instruction.declaresType builder.code id = true

/-- An id that has been handed out and is not that of a type. -/
structure IsValueId (builder : ModuleBuilder) (id : ResultId) : Prop where
  below : id < builder.bound
  noType : Instruction.declaresType builder.code id = false

theorem IsValueId.append {builder : ModuleBuilder} {id : ResultId}
    (isValue : builder.IsValueId id) (instruction : Instruction)
    (noType : instruction.opcode.declaresType = false) :
    (builder.append instruction).IsValueId id := by
  refine ⟨isValue.below, ?_⟩
  change Instruction.declaresType (builder.code ++ [instruction]) id = false
  rw [Instruction.declaresType_append, isValue.noType, Instruction.declaresType_singleton, noType]
  rfl

end ModuleBuilder

/-! ## Building -/

namespace Build

open ModuleBuilder (Mirrors)
open Run (Agrees)

variable {options : CompileOptions} {full part : ModuleBuilder}

/-- A step of building that ends alike in both runs. -/
abbrev Alike {α : Type} (options : CompileOptions) (good : α → ModuleBuilder → Prop)
    (step : Build α) (full part : ModuleBuilder) : Prop :=
  Agrees (Mirrors options) good (step.run full) (step.run part)

theorem alike_emit (mirrors : Mirrors options full part) (instruction : Instruction)
    (kept : ∀ code, Instruction.isKept options code instruction = true)
    (unnamed : instruction.opcode ≠ .name)
    (noType : instruction.opcode.declaresType = false) :
    Alike options (fun _ after => after = full.append instruction) (emit instruction) full part :=
  .ok (mirrors.append instruction kept unnamed noType) rfl

theorem alike_define (mirrors : Mirrors options full part) {form : ResultId → Instruction}
    (defines : ∀ id, (form id).result? = some id) :
    Alike options (fun id after => id < after.bound ∧
      Instruction.declaresType after.code id = (form id).opcode.declaresType)
      (define form) full part := by
  have notYet := mirrors.declaresType_bound
  unfold Alike
  rw [run_define, run_define, mirrors.bound]
  refine .ok (mirrors.defined defines) ⟨Nat.lt_succ_self _, ?_⟩
  change Instruction.declaresType (full.code ++ [form full.bound]) full.bound = _
  rw [Instruction.declaresType_append, notYet, Instruction.declaresType_singleton,
    defines full.bound]
  simp

theorem alike_freshId (mirrors : Mirrors options full part) :
    Alike options (fun id after => after.IsValueId id) freshId full part := by
  have notYet := mirrors.declaresType_bound
  have later : Mirrors options { full with bound := full.bound + 1 }
      { part with bound := part.bound + 1 } := by
    refine mirrors.extend [] rfl rfl (Nat.le_succ _) (congrArg Nat.succ mirrors.bound)
      mirrors.types mirrors.constants (List.append_nil _).symm (List.append_nil _).symm ?_ ?_
    · exact fun _ _ member => absurd member List.not_mem_nil
    · intro id isDeclared
      cases isDeclared
  have fullRun : freshId.run full = .ok full.bound { full with bound := full.bound + 1 } := rfl
  have partRun : freshId.run part = .ok full.bound { part with bound := part.bound + 1 } := by
    rw [← mirrors.bound]
    rfl
  unfold Alike
  rw [fullRun, partRun]
  exact .ok later ⟨Nat.lt_succ_self _, notYet⟩

theorem alike_defineType (mirrors : Mirrors options full part) {form : ResultId → Instruction}
    (defines : ∀ id, (form id).result? = some id)
    (isType : ∀ id, (form id).opcode.declaresType = true) :
    Alike options (fun id after => after.IsTypeId id) (define form) full part :=
  (alike_define mirrors defines).imp fun id _ holds => ⟨holds.1, holds.2.trans (isType id)⟩

theorem alike_defineValue (mirrors : Mirrors options full part) {form : ResultId → Instruction}
    (defines : ∀ id, (form id).result? = some id)
    (noType : ∀ id, (form id).opcode.declaresType = false) :
    Alike options (fun id after => after.IsValueId id) (define form) full part :=
  (alike_define mirrors defines).imp fun id _ holds => ⟨holds.1, holds.2.trans (noType id)⟩

theorem alike_requireAllocated (mirrors : Mirrors options full part) (id : ResultId) :
    Alike options (fun _ after => after = full) (requireAllocated id) full part := by
  have same : part.isAllocated id = full.isAllocated id := by
    unfold ModuleBuilder.isAllocated
    rw [mirrors.bound]
  unfold Alike requireAllocated
  rw [Run.run_get_bind, Run.run_get_bind, same]
  split
  · exact .pure mirrors rfl
  · exact .error

theorem alike_addName (mirrors : Mirrors options full part) {id : ResultId} (text : String)
    (isValue : full.IsValueId id) :
    Alike options (fun _ _ => True) (addName id text) full part := by
  refine (alike_requireAllocated mirrors id).bind fun _ left right later same => ?_
  subst same
  exact .ok (later.addName text isValue.below isValue.noType) trivial

theorem alike_addSemantic (mirrors : Mirrors options full part) {id : ResultId} (text : String)
    (isValue : full.IsValueId id) :
    Alike options (fun _ after => after.IsValueId id) (addSemantic id text) full part := by
  refine (alike_requireAllocated mirrors id).bind fun _ left right later same => ?_
  subst same
  have marked := later.append (.semantic id text) (fun _ => rfl) nofun rfl
  refine .ok (marked.update rfl rfl rfl rfl marked.types marked.constants rfl rfl) ?_
  have appended := isValue.append (.semantic id text) rfl
  exact ⟨appended.below, appended.noType⟩

/-! ### Registration -/

theorem alike_registered {type : ShaderType} {declare : Build ResultId}
    (mirrors : Mirrors options full part)
    (declares : Alike options (fun id after => after.IsTypeId id) declare full part) :
    Alike options (fun _ _ => True) (registered type declare) full part := by
  unfold Alike registered
  rw [Run.run_get_bind, Run.run_get_bind]
  have sameId : part.typeId? type = full.typeId? type := by
    unfold ModuleBuilder.typeId?
    rw [mirrors.types]
  rw [sameId]
  cases full.typeId? type with
  | some id => exact .pure mirrors trivial
  | none =>
      refine declares.bind fun id full part later isType => ?_
      rw [Run.bind_of_ok (Run.run_modify _ _), Run.bind_of_ok (Run.run_modify _ _)]
      exact .pure (later.addDeclaredType type isType.below isType.isType) trivial

theorem alike_registerScalar (mirrors : Mirrors options full part) (scalar : ScalarType) :
    Alike options (fun _ _ => True) (registerScalar scalar) full part := by
  refine alike_registered mirrors (alike_defineType mirrors ?_ ?_)
  all_goals intro id; cases scalar <;> rfl

/-- A type made of others is registered alike if these are. -/
theorem alike_composite {α : Type} {type : ShaderType} {components : Build α}
    {form : α → ResultId → Instruction}
    (mirrors : Mirrors options full part)
    (componentsAlike : Alike options (fun _ _ => True) components full part)
    (defines : ∀ value id, (form value id).result? = some id)
    (isType : ∀ value id, (form value id).opcode.declaresType = true) :
    Alike options (fun _ _ => True)
      (registered type (components >>= fun value => define (form value))) full part :=
  alike_registered mirrors (componentsAlike.bind fun value _ _ later _ =>
    alike_defineType later (defines value) (isType value))

theorem alike_registerVector (mirrors : Mirrors options full part) (vector : VectorType) :
    Alike options (fun _ _ => True) (registerVector vector) full part :=
  alike_composite mirrors (alike_registerScalar mirrors vector.base) (fun _ _ => rfl) fun _ _ => rfl

theorem alike_registerMatrix (mirrors : Mirrors options full part) (matrix : MatrixType) :
    Alike options (fun _ _ => True) (registerMatrix matrix) full part :=
  alike_composite mirrors (alike_registerVector mirrors matrix.column) (fun _ _ => rfl)
    fun _ _ => rfl

theorem alike_registerConstant (mirrors : Mirrors options full part) (scalar : ScalarType)
    (value : Constant) :
    Alike options (fun _ _ => True) (registerConstant scalar value) full part := by
  have sameId : part.constantId? scalar value = full.constantId? scalar value := by
    unfold ModuleBuilder.constantId?
    rw [mirrors.constants]
  unfold Alike registerConstant
  rw [Run.run_get_bind, Run.run_get_bind, sameId]
  cases full.constantId? scalar value with
  | some id => exact .pure mirrors trivial
  | none =>
      dsimp only
      split
      · exact .error
      · refine (alike_registerScalar mirrors scalar).bind fun type left right later _ => ?_
        have defines : ∀ id, (constantDeclaration scalar value type id).result? = some id := by
          intro id
          unfold constantDeclaration
          split
          · split <;> rfl
          · rfl
        refine (alike_define later defines).bind fun id left right last _ => ?_
        rw [Run.bind_of_ok (Run.run_modify _ _), Run.bind_of_ok (Run.run_modify _ _)]
        refine .pure (last.update rfl rfl rfl rfl last.types ?_ rfl rfl) trivial
        exact congrArg (((scalar, value), id) :: ·) last.constants

theorem alike_registerSampler (mirrors : Mirrors options full part) :
    Alike options (fun _ _ => True) registerSampler full part :=
  alike_registered mirrors (alike_defineType mirrors (fun _ => rfl) fun _ => rfl)

theorem alike_registerComparisonSampler (mirrors : Mirrors options full part) :
    Alike options (fun _ _ => True) registerComparisonSampler full part := by
  have sameId : part.typeId? .comparisonSampler = full.typeId? .comparisonSampler := by
    unfold ModuleBuilder.typeId?
    rw [mirrors.types]
  unfold Alike registerComparisonSampler
  rw [Run.run_get_bind, Run.run_get_bind, sameId]
  cases full.typeId? .comparisonSampler with
  | some id => exact .pure mirrors trivial
  | none =>
      refine (alike_registerSampler mirrors).bind fun id left right later _ => ?_
      rw [Run.bind_of_ok (Run.run_modify _ _), Run.bind_of_ok (Run.run_modify _ _)]
      refine .pure (later.update rfl rfl rfl rfl ?_ later.constants rfl rfl) trivial
      exact congrArg ((.comparisonSampler, id) :: ·) later.types

theorem alike_emitMemberNames (mirrors : Mirrors options full part) {id : ResultId}
    (fields : List Field)
    (isType : full.IsTypeId id) :
    Alike options (fun _ after => after.IsTypeId id) (emitMemberNames id fields) full part := by
  have isMemberName : ∀ instruction ∈ memberNaming id fields,
      instruction.opcode = .memberName := by
    intro instruction member
    obtain ⟨index, _, rfl⟩ := List.mem_mapIdx.mp member
    rfl
  have fullRun : (emitMemberNames id fields).run full =
      .ok () { full with code := full.code ++ memberNaming id fields } := by
    unfold emitMemberNames
    rw [Run.run_modify, mirrors.allNames]
    rfl
  have partRun : (emitMemberNames id fields).run part =
      .ok () { part with
        code := part.code ++ if options.debugNames then memberNaming id fields else [] } := by
    unfold emitMemberNames
    rw [Run.run_modify, mirrors.restricted]
    split
    · rfl
    · rw [List.append_nil, ← mirrors.restricted]
  unfold Alike
  rw [fullRun, partRun]
  refine .ok (mirrors.memberNames isMemberName) ⟨isType.below, ?_⟩
  rw [Instruction.declaresType_append, isType.isType, Bool.true_or]

mutual

/-- Types are registered alike. -/
theorem alike_register : ∀ (type : ShaderType) {full part : ModuleBuilder},
    Mirrors options full part → Alike options (fun _ _ => True) (register type) full part
  | .undefined name, _, _, mirrors => alike_registered mirrors .error
  | .scalar scalar, _, _, mirrors => alike_registerScalar mirrors scalar
  | .vector vector, _, _, mirrors => alike_registerVector mirrors vector
  | .matrix matrix, _, _, mirrors => alike_registerMatrix mirrors matrix
  | .array base size, _, _, mirrors => by
      refine alike_registered mirrors ((alike_register base mirrors).bind ?_)
      intro element _ _ later _
      refine (alike_registerConstant later .uint (.int size)).bind fun length _ _ last _ => ?_
      exact alike_defineType last (fun _ => rfl) fun _ => rfl
  | .pointer base, _, _, mirrors =>
      alike_composite mirrors (alike_register base mirrors) (fun _ _ => rfl) fun _ _ => rfl
  | .struct name fields, _, _, mirrors => by
      refine alike_registered mirrors ((alike_registerFields fields mirrors).bind ?_)
      intro members _ _ later _
      refine (alike_defineType later (fun _ => rfl) fun _ => rfl).bind fun id _ _ last isType => ?_
      refine (alike_emitMemberNames last fields isType).bind fun _ _ _ named stillType => ?_
      exact .pure named stillType
  | .function returned parameters, _, _, mirrors => by
      refine alike_registered mirrors ((alike_register returned mirrors).bind ?_)
      intro returnedId _ _ later _
      refine (alike_registerAll parameters later).bind fun parameterIds _ _ last _ => ?_
      exact alike_defineType last (fun _ => rfl) fun _ => rfl
  | .sampler, _, _, mirrors => alike_registerSampler mirrors
  | .comparisonSampler, _, _, mirrors => alike_registerComparisonSampler mirrors
  | .buffer base size, _, _, mirrors =>
      alike_composite mirrors (alike_register base mirrors) (fun _ _ => rfl) fun _ _ => rfl
  | .texture1D base size, _, _, mirrors =>
      alike_composite mirrors (alike_register base mirrors) (fun _ _ => rfl) fun _ _ => rfl
  | .texture2D base width height, _, _, mirrors =>
      alike_composite mirrors (alike_register base mirrors) (fun _ _ => rfl) fun _ _ => rfl
  | .texture3D base width height depth, _, _, mirrors =>
      alike_composite mirrors (alike_register base mirrors) (fun _ _ => rfl) fun _ _ => rfl
  | .streams, _, _, mirrors => alike_registered mirrors .error
  | .group kind name symbols, _, _, mirrors => alike_registered mirrors .error
  | .shader name components, _, _, mirrors => alike_registered mirrors .error

theorem alike_registerAll : ∀ (types : List ShaderType) {full part : ModuleBuilder},
    Mirrors options full part → Alike options (fun _ _ => True) (registerAll types) full part
  | [], _, _, mirrors => .pure mirrors trivial
  | type :: rest, _, _, mirrors => by
      refine (alike_register type mirrors).bind fun id _ _ later _ => ?_
      refine (alike_registerAll rest later).bind fun ids _ _ last _ => ?_
      exact .pure last trivial

theorem alike_registerField : ∀ (field : Field) {full part : ModuleBuilder},
    Mirrors options full part → Alike options (fun _ _ => True) (registerField field) full part
  | ⟨_, type⟩, _, _, mirrors => alike_register type mirrors

theorem alike_registerFields : ∀ (fields : List Field) {full part : ModuleBuilder},
    Mirrors options full part → Alike options (fun _ _ => True) (registerFields fields) full part
  | [], _, _, mirrors => .pure mirrors trivial
  | field :: rest, _, _, mirrors => by
      refine (alike_registerField field mirrors).bind fun id _ _ later _ => ?_
      refine (alike_registerFields rest later).bind fun ids _ _ last _ => ?_
      exact .pure last trivial

end

end Build

end ShaderLang
