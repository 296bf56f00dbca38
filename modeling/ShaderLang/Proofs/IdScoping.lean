import ShaderLang.Proofs.Visibility

/-!
# The ids of compiled modules

Emission uses visible ids only: types and constants are shared by the whole module, the variables of
a shader are declared outside of functions, and the scopes of a function are cleared at its end.  So
the ids of a compiled module are dense, defined before use and local to their functions.
-/

namespace ShaderLang

/-! ## Builders that use visible ids -/

namespace ModuleBuilder

variable {limit : Nat} {builder before after : ModuleBuilder}

/-- What is visible behind the instructions of a builder. -/
def visible (builder : ModuleBuilder) : Visibility :=
  .behind builder.code

/-- The instructions of a builder use visible ids, and what is registered is shared. -/
structure Ordered (builder : ModuleBuilder) : Prop where
  uses : UsesVisible builder.code
  types : ∀ type id, builder.typeId? type = some id → id ∈ builder.visible.shared
  constants : ∀ scalar value id,
    builder.constantId? scalar value = some id → id ∈ builder.visible.shared

theorem ordered_initial (options : CompileOptions) : (initial options).Ordered where
  uses := throughout_nil _
  types type id registered := by simp [initial, typeId?] at registered
  constants scalar value id registered := by simp [initial, constantId?] at registered

theorem Advances.visible (advances : before.Advances after) :
    before.visible.Extends after.visible := by
  obtain ⟨new, code, plain⟩ := advances.code
  unfold ModuleBuilder.visible
  rw [code]
  exact Visibility.extends_behind before.code plain

namespace Ordered

/-- Instructions that use visible ids keep a builder ordered. -/
theorem extend (ordered : before.Ordered)
    (reaches : before.visible.Extends after.visible)
    (sameTypes : after.types = before.types)
    (sameConstants : after.constants = before.constants)
    (uses : UsesVisible after.code) :
    after.Ordered where
  uses := uses
  types type id registered := by
    unfold typeId? at registered
    rw [sameTypes] at registered
    exact reaches.shared (ordered.types type id registered)
  constants scalar value id registered := by
    unfold constantId? at registered
    rw [sameConstants] at registered
    exact reaches.shared (ordered.constants scalar value id registered)

theorem uses_append (ordered : builder.Ordered) {instruction : Instruction}
    (operands : ∀ id ∈ instruction.operandIds, builder.visible.Sees id) :
    UsesVisible (builder.code ++ [instruction]) :=
  throughout_append_singleton.mpr ⟨ordered.uses, .inr operands⟩

theorem defined (ordered : builder.Ordered) {instruction : ResultId → Instruction}
    (defines : (instruction builder.bound).result? = some builder.bound)
    (plain : (instruction builder.bound).isBoundary = false)
    (operands : ∀ id ∈ (instruction builder.bound).operandIds, builder.visible.Sees id) :
    (builder.defined instruction).Ordered :=
  ordered.extend (Advances.defined defines plain).visible rfl rfl (ordered.uses_append operands)

theorem append (ordered : builder.Ordered) {instruction : Instruction}
    (defines : instruction.result? = none)
    (plain : instruction.isBoundary = false)
    (operands : ∀ id ∈ instruction.operandIds, builder.visible.Sees id) :
    (builder.append instruction).Ordered :=
  ordered.extend (Advances.append defines plain).visible rfl rfl (ordered.uses_append operands)

theorem addName (ordered : builder.Ordered) {id : ResultId} (sees : builder.visible.Sees id)
    (name : String) :
    (builder.addName id name).Ordered := by
  refine ordered.extend (Advances.addName builder id name).visible ?_ ?_ ?_
  · unfold ModuleBuilder.addName
    split <;> rfl
  · unfold ModuleBuilder.addName
    split <;> rfl
  · unfold ModuleBuilder.addName
    split
    · refine ordered.uses_append fun operand member => ?_
      rw [List.mem_singleton.mp member]
      exact sees
    · exact ordered.uses

theorem addOptionalSemantic (ordered : builder.Ordered) {id : ResultId}
    (sees : builder.visible.Sees id) (semantic : Option String) :
    (builder.addOptionalSemantic id semantic).Ordered := by
  cases semantic with
  | none => exact ordered
  | some text =>
      refine ordered.extend (Advances.addOptionalSemantic builder id (some text)).visible rfl rfl
        (ordered.uses_append fun operand member => ?_)
      rw [List.mem_singleton.mp member]
      exact sees

end Ordered

/-- An id is visible behind the instruction that defines it. -/
theorem sees_defined {instruction : ResultId → Instruction}
    (defines : (instruction builder.bound).result? = some builder.bound) :
    (builder.defined instruction).visible.Sees builder.bound := by
  unfold visible ModuleBuilder.defined
  rw [Visibility.behind_append_singleton]
  exact Visibility.sees_after defines

/-- Outside of functions, and for declarations, the defined id is shared. -/
theorem shared_defined {instruction : ResultId → Instruction}
    (defines : (instruction builder.bound).result? = some builder.bound)
    (shares : builder.visible.inside = false ∨ (instruction builder.bound).isLocal = false) :
    builder.bound ∈ (builder.defined instruction).visible.shared := by
  unfold visible ModuleBuilder.defined
  rw [Visibility.behind_append_singleton]
  exact Visibility.shared_after defines shares

/-! ## Registration -/

/-- The declaration of a type uses registered ids only. -/
theorem TypeForm.operands {type : ShaderType} {form : ResultId → Instruction} {result : ResultId}
    (written : builder.TypeForm type form)
    (ordered : builder.Ordered) :
    ∀ id ∈ (form result).operandIds, id ∈ builder.visible.shared := by
  intro id member
  unfold Instruction.operandIds at member
  cases written with
  | scalar scalar => cases scalar <;> simp [Build.scalarDeclaration, Instruction.operands,
      Operand.target?] at member
  | vector componentId =>
      simp only [Instruction.operands, Operand.target?, List.filterMap_cons, List.filterMap_nil,
        List.mem_singleton] at member
      exact member ▸ ordered.types _ _ componentId
  | matrix columnId =>
      simp only [Instruction.operands, Operand.target?, List.filterMap_cons, List.filterMap_nil,
        List.mem_singleton] at member
      exact member ▸ ordered.types _ _ columnId
  | array elementId lengthId =>
      simp only [Instruction.operands, Operand.target?, List.filterMap_cons, List.filterMap_nil,
        List.mem_cons, List.not_mem_nil, or_false] at member
      rcases member with rfl | rfl
      · exact ordered.types _ _ elementId
      · exact ordered.constants _ _ _ lengthId
  | pointer pointeeId =>
      simp only [Instruction.operands, Operand.target?, List.filterMap_cons, List.filterMap_nil,
        List.mem_singleton] at member
      exact member ▸ ordered.types _ _ pointeeId
  | struct memberIds =>
      simp only [Instruction.operands, List.filterMap_map] at member
      obtain ⟨operand, inMembers, same⟩ := List.mem_filterMap.mp member
      cases same
      obtain ⟨field, -, registered⟩ := exists_left_of_forall₂ memberIds inMembers
      exact ordered.types _ _ registered
  | function returnedType parameterTypes =>
      simp only [Instruction.operands, List.filterMap_cons, List.filterMap_map, Operand.target?,
        List.mem_cons] at member
      rcases member with rfl | inParameters
      · exact ordered.types _ _ returnedType
      · obtain ⟨operand, inIds, same⟩ := List.mem_filterMap.mp inParameters
        cases same
        obtain ⟨type, -, registered⟩ := exists_left_of_forall₂ parameterTypes inIds
        exact ordered.types _ _ registered
  | sampler => simp [Instruction.operands] at member
  | image isImage sampledId =>
      simp only [Instruction.operands, Operand.target?, List.filterMap_cons, List.filterMap_nil,
        List.mem_singleton] at member
      exact member ▸ ordered.types _ _ sampledId

theorem isLocal_of_isDeclaration {instruction : Instruction}
    (declares : instruction.isDeclaration = true) :
    instruction.isLocal = false := by
  cases instruction <;> simp_all [Instruction.isDeclaration, Instruction.isLocal]

theorem visible_declared (builder : ModuleBuilder) (type : ShaderType)
    (form : ResultId → Instruction) :
    (builder.defined form).visible.Extends (builder.declared type form).visible := by
  unfold visible
  rw [code_declared, List.append_cons]
  refine Visibility.extends_behind _ fun instruction member => ?_
  rcases List.mem_append.mp member with named | named
  · obtain ⟨_, _, rfl⟩ := mem_memberNames named
    rfl
  · obtain rfl := mem_typeNames named
    rfl

/-- The names behind the declaration of a type name the declared id. -/
theorem Ordered.uses_declared (ordered : builder.Ordered) {type : ShaderType}
    {form : ResultId → Instruction}
    (written : builder.TypeForm type form) :
    UsesVisible (builder.declared type form).code := by
  have declaredUses : UsesVisible (builder.code ++ [form builder.bound]) :=
    ordered.uses_append fun id member => .inl (written.operands ordered id member)
  have declaredSeen : (Visibility.behind (builder.code ++ [form builder.bound])).Sees
      builder.bound :=
    sees_defined (written.result? _)
  rw [code_declared, List.append_cons]
  refine throughout_append.mpr ⟨declaredUses, fun inner item rest split => .inr ?_⟩
  have names : ∀ instruction ∈ inner ++ item :: rest,
      instruction.isBoundary = false ∧ instruction.operandIds = [builder.bound] := by
    intro instruction member
    rw [← split] at member
    rcases List.mem_append.mp member with named | named
    · obtain ⟨_, _, rfl⟩ := mem_memberNames named
      exact ⟨rfl, rfl⟩
    · obtain rfl := mem_typeNames named
      exact ⟨rfl, rfl⟩
  intro id member
  rw [(names item (by simp)).2, List.mem_singleton] at member
  rw [member]
  refine (Visibility.extends_behind _ fun instruction inside => ?_).sees declaredSeen
  exact (names instruction (List.mem_append_left _ inside)).1

theorem Declaration.ordered (declaration : Declaration limit before after)
    (ordered : before.Ordered) :
    after.Ordered := by
  have reaches : before.visible.Extends after.visible :=
    (Advances.of_reaches (.single declaration)).visible
  cases declaration with
  | @type type form light unregistered written =>
      have shared : before.bound ∈ (before.declared type form).visible.shared :=
        (visible_declared before type form).shared (shared_defined (written.result? _)
          (.inr (isLocal_of_isDeclaration (written.isDeclaration _))))
      refine ⟨ordered.uses_declared written, fun asked id registered => ?_,
        fun scalar value id registered => ?_⟩
      · rw [typeId?_declared] at registered
        split at registered
        · cases registered
          exact shared
        · exact reaches.shared (ordered.types asked id registered)
      · unfold constantId? at registered
        rw [constants_declared] at registered
        exact reaches.shared (ordered.constants scalar value id registered)
  | comparison light unregistered plain =>
      refine ⟨ordered.uses, fun asked id registered => ?_, ordered.constants⟩
      rw [typeId?_addType] at registered
      split at registered
      · cases registered
        exact ordered.types _ _ plain
      · exact ordered.types asked id registered
  | @constant scalar value type unregistered valued typed =>
      have declares := Build.isDeclaration_constantDeclaration scalar value type before.bound
      refine ⟨ordered.uses_append fun id member => .inl ?_,
        fun asked id registered => reaches.shared (ordered.types asked id registered),
        fun askedScalar asked id registered => ?_⟩
      · have same : id = type := by
          unfold Build.constantDeclaration at member
          split at member
          · split at member <;> exact List.mem_singleton.mp member
          · exact List.mem_singleton.mp member
        rw [same]
        exact ordered.types _ _ typed
      · rw [constantId?_withConstant] at registered
        split at registered
        · cases registered
          exact shared_defined (Build.result?_constantDeclaration _ _ _ _)
            (.inr (isLocal_of_isDeclaration declares))
        · exact reaches.shared (ordered.constants askedScalar asked id registered)

theorem Reaches.ordered (reaches : Reaches limit before after)
    (ordered : before.Ordered) :
    after.Ordered := by
  induction reaches with
  | refl => exact ordered
  | tail _ declaration inductionHypothesis => exact declaration.ordered inductionHypothesis

theorem Ordered.register (ordered : before.Ordered) {type : ShaderType} {id : ResultId}
    (registers : (Build.register type).run before = .ok id after) :
    after.Ordered ∧ id ∈ after.visible.shared := by
  obtain ⟨reaches, registered⟩ := Build.register_reaches type registers
  have kept := reaches.ordered ordered
  exact ⟨kept, kept.types type id registered⟩

theorem Ordered.registerConstant (ordered : before.Ordered) {scalar : ScalarType}
    {value : Constant} {id : ResultId}
    (registers : (Build.registerConstant scalar value).run before = .ok id after) :
    after.Ordered ∧ id ∈ after.visible.shared := by
  obtain ⟨reaches, registered⟩ := Build.registerConstant_reaches registers
  have kept := reaches.ordered ordered
  exact ⟨kept, kept.constants scalar value id registered⟩

end ModuleBuilder

/-! ## Expressions and statements -/

/-- The id that a binding holds, if it holds one. -/
def Binding.id? : Binding → Option ResultId
  | value id _ | cell id _ => some id
  | generic _ => none

/-- The ids of the bound names are visible, and those of the shader are shared. -/
structure FunctionBuilder.Visible (functions : FunctionBuilder) (visibility : Visibility) :
    Prop where
  locals : ∀ scope ∈ functions.scopes, ∀ entry ∈ scope, ∀ id,
    entry.2.id? = some id → visibility.Sees id
  members : ∀ entry ∈ functions.members, ∀ id, entry.2.id? = some id → id ∈ visibility.shared

namespace FunctionBuilder.Visible

variable {functions : FunctionBuilder} {visibility later : Visibility}

theorem mono (names : functions.Visible visibility)
    (shared : visibility.shared ⊆ later.shared)
    (own : visibility.own ⊆ later.own) :
    functions.Visible later where
  locals scope inScopes entry member id holds :=
    (names.locals scope inScopes entry member id holds).imp (fun seen => shared seen)
      (fun seen => own seen)
  members entry member id holds := shared (names.members entry member id holds)

theorem extend (names : functions.Visible visibility) (reaches : visibility.Extends later) :
    functions.Visible later :=
  names.mono reaches.shared reaches.own

theorem sees (names : functions.Visible visibility) {expression : Expression} {binding : Binding}
    {id : ResultId}
    (bound : expression.resolve? functions.names = some binding)
    (holds : binding.id? = some id) :
    visibility.Sees id := by
  obtain ⟨name, member⟩ := NameTable.mem_entries_of_resolve? bound
  rcases List.mem_append.mp member with inScopes | inMembers
  · obtain ⟨scope, isScope, inScope⟩ := List.mem_flatten.mp inScopes
    exact names.locals scope isScope _ inScope id holds
  · exact .inl (names.members _ inMembers id holds)

theorem pushScope (names : functions.Visible visibility) :
    functions.pushScope.Visible visibility := by
  refine ⟨fun scope inScopes entry member => ?_, names.members⟩
  rcases List.mem_cons.mp inScopes with rfl | outer
  · simp at member
  · exact names.locals scope outer entry member

theorem dropScope (names : functions.Visible visibility) :
    functions.dropScope.Visible visibility :=
  ⟨fun scope inScopes => names.locals scope (List.mem_of_mem_tail inScopes), names.members⟩

theorem bindLocal (names : functions.Visible visibility) (name : String) {binding : Binding}
    (sees : ∀ id, binding.id? = some id → visibility.Sees id) :
    (functions.bindLocal name binding).Visible visibility := by
  refine ⟨fun scope inScopes entry member id holds => ?_, names.members⟩
  have earlier := names.locals
  unfold FunctionBuilder.bindLocal at inScopes
  cases scopes : functions.scopes with
  | nil => simp [scopes] at inScopes
  | cons first rest =>
      rw [scopes] at earlier
      simp only [scopes, List.mem_cons] at inScopes
      rcases inScopes with rfl | outer
      · rcases List.mem_cons.mp member with rfl | older
        · exact sees id holds
        · exact earlier first List.mem_cons_self entry older id holds
      · exact earlier scope (List.mem_cons_of_mem _ outer) entry member id holds

theorem bindMember (names : functions.Visible visibility) (name : String) {binding : Binding}
    (shared : ∀ id, binding.id? = some id → id ∈ visibility.shared) :
    (functions.bindMember name binding).Visible visibility := by
  refine ⟨names.locals, fun entry member id holds => ?_⟩
  rcases List.mem_cons.mp member with rfl | older
  · exact shared id holds
  · exact names.members entry older id holds

end FunctionBuilder.Visible

/-- An emitter that uses visible ids and has visible ids bound. -/
structure Emitter.Ordered (emitter : Emitter) : Prop where
  target : emitter.target.Ordered
  names : emitter.functions.Visible emitter.target.visible

section Runs

variable {annotations : Annotations} {functions : FunctionBuilder}

/-- The value of an expression is visible behind its code. -/
theorem Expression.Emits.ordered {expression : Expression} {id : ResultId}
    {before after : ModuleBuilder}
    (emits : expression.Emits annotations functions before id after)
    (ordered : before.Ordered)
    (names : functions.Visible before.visible) :
    after.Ordered ∧ after.visible.Sees id := by
  induction emits with
  | literal registers =>
      obtain ⟨kept, shared⟩ := ordered.registerConstant registers
      exact ⟨kept, .inl shared⟩
  | value bound => exact ⟨ordered, names.sees bound rfl⟩
  | load bound registers =>
      obtain ⟨kept, typeShared⟩ := ordered.register registers
      have cellSeen := (ModuleBuilder.Advances.register registers).visible.sees
        (names.sees bound rfl)
      refine ⟨kept.defined rfl rfl ?_, ModuleBuilder.sees_defined rfl⟩
      exact List.forall_mem_cons.mpr ⟨.inl typeShared, List.forall_mem_singleton.mpr cellSeen⟩
  | binary leftEmits rightEmits typed selected registers leftHypothesis rightHypothesis =>
      obtain ⟨leftOrdered, leftSeen⟩ := leftHypothesis ordered names
      obtain ⟨rightOrdered, rightSeen⟩ :=
        rightHypothesis leftOrdered (names.extend leftEmits.advances.visible)
      obtain ⟨kept, typeShared⟩ := rightOrdered.register registers
      have typeReaches := (ModuleBuilder.Advances.register registers).visible
      refine ⟨kept.defined rfl rfl ?_, ModuleBuilder.sees_defined rfl⟩
      exact List.forall_mem_cons.mpr ⟨.inl typeShared, List.forall_mem_cons.mpr
        ⟨(rightEmits.advances.visible.trans typeReaches).sees leftSeen,
          List.forall_mem_singleton.mpr (typeReaches.sees rightSeen)⟩⟩

theorem Expression.EmitsOptional.ordered {value : Option Expression} {result : Option ResultId}
    {before after : ModuleBuilder}
    (emits : Expression.EmitsOptional annotations functions value before result after)
    (ordered : before.Ordered)
    (names : functions.Visible before.visible) :
    after.Ordered ∧ ∀ id ∈ result, after.visible.Sees id := by
  cases emits with
  | none => exact ⟨ordered, by simp⟩
  | some emits =>
      obtain ⟨kept, seen⟩ := emits.ordered ordered names
      refine ⟨kept, fun id same => ?_⟩
      cases same
      exact seen

namespace ModuleBuilder.Ordered

variable {builder : ModuleBuilder} {typeId : ResultId}

theorem withCell (ordered : builder.Ordered) (typeShared : typeId ∈ builder.visible.shared)
    (name : String) (storage : StorageClass) :
    (builder.withCell name typeId storage).Ordered :=
  (ordered.defined rfl rfl (List.forall_mem_singleton.mpr (.inl typeShared))).addName
    (sees_defined rfl) name

theorem withMember (ordered : builder.Ordered) (typeShared : typeId ∈ builder.visible.shared)
    (name : String) (semantic : Option String) :
    (builder.withMember name semantic typeId).Ordered :=
  ((ordered.defined rfl rfl (List.forall_mem_singleton.mpr (.inl typeShared))).addOptionalSemantic
    (sees_defined rfl) semantic).addName
      ((Advances.addOptionalSemantic _ _ _).visible.sees (sees_defined rfl)) name

theorem withParameter (ordered : builder.Ordered) (typeShared : typeId ∈ builder.visible.shared)
    (name : String) :
    (builder.withParameter name typeId).Ordered :=
  (ordered.defined rfl rfl (List.forall_mem_singleton.mpr (.inl typeShared))).addName
    (sees_defined rfl) name

theorem storeOptional (ordered : builder.Ordered) {cell : ResultId} {value : Option ResultId}
    (cellSeen : builder.visible.Sees cell)
    (valueSeen : ∀ id ∈ value, builder.visible.Sees id) :
    (builder.storeOptional cell value).Ordered := by
  cases value with
  | none => exact ordered
  | some id =>
      exact ordered.append rfl rfl
        (List.forall_mem_cons.mpr ⟨cellSeen, List.forall_mem_singleton.mpr (valueSeen id rfl)⟩)

theorem closeBlock (ordered : builder.Ordered) (function : OpenFunction) :
    (builder.closeBlock function).Ordered := by
  unfold ModuleBuilder.closeBlock
  split
  · exact ordered
  · exact ordered.append rfl rfl (by simp [Instruction.operandIds, Instruction.operands])

end ModuleBuilder.Ordered

theorem Statement.EmitsSimple.ordered {statement : Statement} {before after : Emitter}
    (emits : statement.EmitsSimple annotations before after)
    (ordered : before.Ordered) :
    after.Ordered := by
  have reaches := emits.advances.visible
  cases emits with
  | @declare _ _ _ name _ valueId typeId _ _ first second typed valueEmits registers opened =>
      obtain ⟨valueOrdered, valueSeen⟩ := valueEmits.ordered ordered.target ordered.names
      obtain ⟨kept, typeShared⟩ := valueOrdered.register registers
      have cellReaches := (ModuleBuilder.Advances.withCell second name typeId .function).visible
      have cellSeen : (second.withCell name typeId .function).visible.Sees second.bound :=
        (ModuleBuilder.Advances.addName _ _ _).visible.sees (ModuleBuilder.sees_defined rfl)
      have typeReaches := (ModuleBuilder.Advances.register registers).visible
      refine ⟨(kept.withCell typeShared name .function).storeOptional cellSeen fun id same => ?_,
        (ordered.names.extend reaches).bindLocal name fun id holds => ?_⟩
      · exact (typeReaches.trans cellReaches).sees (valueSeen id same)
      · cases holds
        exact (ModuleBuilder.Advances.storeOptional _ _ _).visible.sees cellSeen
  | assign valueEmits bound =>
      obtain ⟨valueOrdered, valueSeen⟩ := valueEmits.ordered ordered.target ordered.names
      have cellSeen := valueEmits.advances.visible.sees (ordered.names.sees bound rfl)
      refine ⟨valueOrdered.append rfl rfl ?_, ordered.names.extend reaches⟩
      exact List.forall_mem_cons.mpr ⟨cellSeen, List.forall_mem_singleton.mpr valueSeen⟩
  | evaluate valueEmits =>
      obtain ⟨valueOrdered, -⟩ := valueEmits.ordered ordered.target ordered.names
      exact ⟨valueOrdered, ordered.names.extend reaches⟩
  | @exit _ _ valueId _ _ _ valueEmits opened inBlock =>
      obtain ⟨valueOrdered, valueSeen⟩ := valueEmits.ordered ordered.target ordered.names
      have names := ordered.names.extend reaches
      refine ⟨?_, names.locals, names.members⟩
      cases valueId with
      | none =>
          exact valueOrdered.append rfl rfl (List.forall_mem_nil _)
      | some id =>
          exact valueOrdered.append rfl rfl (List.forall_mem_singleton.mpr (valueSeen id rfl))

theorem Statement.EmitsAll.ordered {body : List Statement} {before after : Emitter}
    (emits : Statement.EmitsAll annotations body before after)
    (ordered : before.Ordered) :
    after.Ordered := by
  induction emits with
  | nil => exact ordered
  | stop terminated => exact ordered
  | simple running emits restEmits inductionHypothesis =>
      exact inductionHypothesis (emits.ordered ordered)
  | block running bodyEmits restEmits bodyHypothesis restHypothesis =>
      have inner := bodyHypothesis ⟨ordered.target, ordered.names.pushScope⟩
      exact restHypothesis ⟨inner.target, inner.names.dropScope⟩

theorem Method.EmitsParameters.ordered {parameters : List Parameter} {before after : Emitter}
    (emits : Method.EmitsParameters annotations parameters before after)
    (ordered : before.Ordered) :
    after.Ordered := by
  induction emits with
  | nil => exact ordered
  | @cons parameter rest type typeId before after first typed registers restEmits
      inductionHypothesis =>
      obtain ⟨kept, typeShared⟩ := ordered.target.register registers
      have reaches := ((ModuleBuilder.Advances.register registers).trans
        (.withParameter _ parameter.name typeId)).visible
      refine inductionHypothesis ⟨kept.withParameter typeShared parameter.name,
        (ordered.names.extend reaches).bindLocal _ fun id holds => ?_⟩
      cases holds
      exact (ModuleBuilder.Advances.addName _ _ _).visible.sees (ModuleBuilder.sees_defined rfl)

theorem Method.EmitsBody.ordered {body : Option (List Statement)} {before after : Emitter}
    (emits : Method.EmitsBody annotations body before after)
    (ordered : before.Ordered) :
    after.Ordered := by
  cases emits with
  | none => exact ordered
  | some opened statementsEmit =>
      have labelled : (before.target.defined .label).Ordered :=
        ordered.target.defined rfl rfl (List.forall_mem_nil _)
      have reaches : before.target.Advances (before.target.defined .label) := .defined rfl rfl
      have names := ordered.names.extend reaches.visible
      exact statementsEmit.ordered ⟨labelled, names.locals, names.members⟩

end Runs

/-! ## Methods and other elements -/

namespace ModuleBuilder

variable {builder : ModuleBuilder} {name : String} {entryPoint : Option EntryPoint}
  {returned functionType : ResultId}

theorem visible_withFunction :
    (builder.withFunction name entryPoint returned functionType).visible =
      ⟨true, builder.bound :: builder.visible.shared, builder.visible.own⟩ := by
  unfold visible withFunction Visibility.behind
  cases entryPoint with
  | none => rw [List.foldl_append]; rfl
  | some stage => rw [List.foldl_append]; rfl

theorem visible_functionEnd :
    (builder.append .functionEnd).visible = ⟨false, builder.visible.shared, []⟩ := by
  unfold visible append
  rw [Visibility.behind_append_singleton]
  rfl

theorem Ordered.withFunction (ordered : builder.Ordered)
    (returnedShared : returned ∈ builder.visible.shared)
    (typeShared : functionType ∈ builder.visible.shared) :
    (builder.withFunction name entryPoint returned functionType).Ordered := by
  have operands : ∀ id ∈ [returned, functionType], builder.visible.Sees id :=
    List.forall_mem_cons.mpr ⟨.inl returnedShared, List.forall_mem_singleton.mpr (.inl typeShared)⟩
  refine ⟨?_, fun type id registered => ?_, fun scalar value id registered => ?_⟩
  · cases entryPoint with
    | none => exact ordered.uses_append operands
    | some stage =>
        change UsesVisible (builder.code ++ [_, _])
        rw [List.append_cons]
        refine throughout_append_singleton.mpr
          ⟨throughout_append_singleton.mpr ⟨ordered.uses, .inl rfl⟩, .inr ?_⟩
        rw [Visibility.behind_append_singleton]
        exact operands
  · rw [visible_withFunction]
    exact List.mem_cons_of_mem _ (ordered.types type id registered)
  · rw [visible_withFunction]
    exact List.mem_cons_of_mem _ (ordered.constants scalar value id registered)

theorem Ordered.functionEnd (ordered : builder.Ordered) :
    (builder.append .functionEnd).Ordered where
  uses := ordered.uses_append (List.forall_mem_nil _)
  types type id registered := by
    rw [visible_functionEnd]
    exact ordered.types type id registered
  constants scalar value id registered := by
    rw [visible_functionEnd]
    exact ordered.constants scalar value id registered

end ModuleBuilder

/-- What holds of an emitter between two elements of a shader. -/
structure Emitter.Settled (emitter : Emitter) : Prop where
  ordered : emitter.Ordered
  wellFormed : emitter.target.WellFormed
  lead : EntryPointsLead emitter.target.code
  outside : emitter.target.visible.inside = false

theorem Emitter.settled_initial (options : CompileOptions) :
    (Emitter.initial options).Settled where
  ordered := ⟨ModuleBuilder.ordered_initial options, by simp [Emitter.initial,
    FunctionBuilder.initial], by simp [Emitter.initial, FunctionBuilder.initial]⟩
  wellFormed := ModuleBuilder.wellFormed_initial options
  lead := EntryPointsLead.of_plain (List.forall_mem_nil _)
  outside := rfl

section Elements

variable {annotations : Annotations} {before after : Emitter}

/-- Declarations outside of functions leave an emitter settled. -/
theorem Emitter.Settled.advance (settled : before.Settled)
    (advances : before.target.Advances after.target)
    (ordered : after.Ordered) :
    after.Settled := by
  obtain ⟨new, code, plain⟩ := advances.code
  refine ⟨ordered, advances.wellFormed settled.wellFormed, ?_, ?_⟩
  · rw [code]
    exact settled.lead.append (.of_plain plain)
  · rw [advances.visible.inside]
    exact settled.outside

theorem Method.Emits.settled {method : Method} (emits : method.Emits annotations before after)
    (settled : before.Settled) :
    after.Settled := by
  obtain ⟨-, keeps, declarations, entryPoint, functionId, returnedType, typeId, inner, code,
    declarationsPlain, innerPlain⟩ := emits.adds
  have lead : EntryPointsLead after.target.code := by
    rw [code]
    refine settled.lead.append (EntryPointsLead.append (.of_plain declarationsPlain) ?_)
    exact .function method.name entryPoint innerPlain
  refine ⟨?_, keeps settled.wellFormed, lead, ?_⟩
  · cases emits with
    | @mk info returned parameters functionType returnedId first second function _ middle last
        checked typed closed registersType registersReturned parametersEmit bodyEmits opened
        closable =>
        obtain ⟨typeOrdered, typeShared⟩ := settled.ordered.target.register registersType
        obtain ⟨returnedOrdered, returnedShared⟩ := typeOrdered.register registersReturned
        have typeReaches := (ModuleBuilder.Advances.register registersType).visible
        have returnedReaches := (ModuleBuilder.Advances.register registersReturned).visible
        have functionOrdered : (second.withFunction method.name info.entryPoint returnedId
            functionType).Ordered :=
          returnedOrdered.withFunction returnedShared (returnedReaches.shared typeShared)
        have functionSeen : (second.withFunction method.name info.entryPoint returnedId
            functionType).visible.Sees second.bound := by
          rw [ModuleBuilder.visible_withFunction]
          exact .inl List.mem_cons_self
        have outerNames := settled.ordered.names.extend (typeReaches.trans returnedReaches)
        have functionNames : before.functions.Visible (second.startFunction method.name
            info.entryPoint returnedId functionType).visible := by
          refine FunctionBuilder.Visible.extend ?_ (ModuleBuilder.Advances.addName _ _ _).visible
          rw [ModuleBuilder.visible_withFunction]
          exact outerNames.mono (List.subset_cons_self _ _) (List.Subset.refl _)
        have started := functionNames.pushScope
        have finished := bodyEmits.ordered (parametersEmit.ordered
          ⟨functionOrdered.addName functionSeen method.name, started.locals, started.members⟩)
        have closedNames := finished.names.extend
          (ModuleBuilder.Advances.closeBlock last.target function).visible
        refine ⟨(finished.target.closeBlock function).functionEnd, fun scope member => ?_, ?_⟩
        · exact absurd member List.not_mem_nil
        · rw [ModuleBuilder.visible_functionEnd]
          exact closedNames.members
  · cases emits with
    | mk => rw [ModuleBuilder.visible_functionEnd]

theorem Generic.settled_of_emit {generic : Generic}
    (run : (generic.emit annotations).run before = .ok () after)
    (settled : before.Settled) :
    after.Settled := by
  obtain ⟨type, -, rfl⟩ := Generic.emit_eq_ok run
  refine ⟨⟨settled.ordered.target, settled.ordered.names.bindMember _ fun id holds => ?_⟩,
    settled.wellFormed, settled.lead, settled.outside⟩
  cases holds

theorem Struct.settled_of_emit {struct : Struct}
    (run : (struct.emit annotations).run before = .ok () after)
    (settled : before.Settled) :
    after.Settled := by
  have advances := Struct.advances_of_emit run
  obtain ⟨type, typeId, target, -, registers, rfl⟩ := Struct.emit_eq_ok run
  exact settled.advance advances ⟨(settled.ordered.target.register registers).1,
    settled.ordered.names.extend advances.visible⟩

theorem Member.settled_of_emit {member : Member}
    (run : (member.emit annotations).run before = .ok () after)
    (settled : before.Settled) :
    after.Settled := by
  have advances := Member.advances_of_emit run
  obtain ⟨type, typeId, valueId, first, second, -, registers, valueEmits, rfl⟩ :=
    Member.emit_eq_ok run
  refine settled.advance advances ?_
  obtain ⟨kept, typeShared⟩ := settled.ordered.target.register registers
  have typeReaches := (ModuleBuilder.Advances.register registers).visible
  have cellReaches := (ModuleBuilder.Advances.withMember first member.name member.semantic
    typeId).visible
  have outside : first.visible.inside = false := typeReaches.inside.trans settled.outside
  have named := (ModuleBuilder.Advances.addOptionalSemantic
    (first.defined fun result => .cell result typeId .function) first.bound member.semantic).trans
      (.addName _ first.bound member.name)
  have cellShared : first.bound ∈
      (first.withMember member.name member.semantic typeId).visible.shared :=
    named.visible.shared (ModuleBuilder.shared_defined rfl (.inl outside))
  obtain ⟨valueOrdered, valueSeen⟩ := valueEmits.ordered
    (kept.withMember typeShared member.name member.semantic)
    (settled.ordered.names.extend (typeReaches.trans cellReaches))
  have cellKept := valueEmits.advances.visible.shared cellShared
  refine ⟨valueOrdered.storeOptional (.inl cellKept) valueSeen,
    (settled.ordered.names.extend advances.visible).bindMember _ fun id holds => ?_⟩
  cases holds
  exact (ModuleBuilder.Advances.storeOptional _ _ _).visible.shared cellKept

theorem Sampler.settled_of_emit {sampler : Sampler}
    (run : (sampler.emit annotations).run before = .ok () after)
    (settled : before.Settled) :
    after.Settled := by
  have advances := Sampler.advances_of_emit run
  obtain ⟨type, typeId, first, -, registers, rfl⟩ := Sampler.emit_eq_ok run
  refine settled.advance advances ?_
  obtain ⟨kept, typeShared⟩ := settled.ordered.target.register registers
  have typeReaches := (ModuleBuilder.Advances.register registers).visible
  have outside : first.visible.inside = false := typeReaches.inside.trans settled.outside
  refine ⟨kept.withCell typeShared sampler.name .uniformConstant,
    (settled.ordered.names.extend advances.visible).bindMember _ fun id holds => ?_⟩
  cases holds
  exact (ModuleBuilder.Advances.addName _ _ _).visible.shared
    (ModuleBuilder.shared_defined rfl (.inl outside))

theorem Shader.settled_of_emit {shader : Shader}
    (run : (shader.emit annotations).run before = .ok () after)
    (settled : before.Settled) :
    after.Settled := by
  obtain ⟨first, second, third, fourth, generics, structs, members, samplers, methods⟩ :=
    Shader.emit_eq_ok run
  have afterGenerics : first.Settled :=
    Run.forM_invariant (fun _ emitter => emitter.Settled) generics settled
      fun _ _ _ _ _ _ earlier emits => Generic.settled_of_emit emits earlier
  have afterStructs : second.Settled :=
    Run.forM_invariant (fun _ emitter => emitter.Settled) structs afterGenerics
      fun _ _ _ _ _ _ earlier emits => Struct.settled_of_emit emits earlier
  have afterMembers : third.Settled :=
    Run.forM_invariant (fun _ emitter => emitter.Settled) members afterStructs
      fun _ _ _ _ _ _ earlier emits => Member.settled_of_emit emits earlier
  have afterSamplers : fourth.Settled :=
    Run.forM_invariant (fun _ emitter => emitter.Settled) samplers afterMembers
      fun _ _ _ _ _ _ earlier emits => Sampler.settled_of_emit emits earlier
  exact Run.forM_invariant (fun _ emitter => emitter.Settled) methods afterSamplers
    fun _ _ _ _ _ _ earlier emits => (Method.emits_of_emit emits).settled earlier

end Elements

/-! ## Compiled modules -/

/-- The ids of a compiled module are dense, defined before use and local to their functions. -/
theorem Shader.compile_idDiscipline {shader : Shader} {options : CompileOptions}
    {compiled : CompiledShader}
    (compiles : shader.compile options = .ok compiled) :
    0 < compiled.shaderModule.bound ∧
    compiled.shaderModule.resultIds = List.range' 1 (compiled.shaderModule.bound - 1) ∧
    DefinedBeforeUse compiled.shaderModule.instructions ∧
    FunctionLocal compiled.shaderModule.instructions := by
  obtain ⟨-, emitter, emits, rfl⟩ := Shader.compile_eq_ok compiles
  have settled := Shader.settled_of_emit emits (Emitter.settled_initial options)
  have uses := settled.ordered.target.uses
  exact ⟨settled.wellFormed.positive, settled.wellFormed.dense,
    definedBeforeUse_of_usesVisible uses settled.lead,
    functionLocal_of_usesVisible uses settled.lead settled.wellFormed.nodup_results⟩

theorem Shader.scaling_idDiscipline :
    ∃ compiled, Shader.scaling.compile .allNames = .ok compiled ∧
      0 < compiled.shaderModule.bound ∧
      compiled.shaderModule.resultIds = List.range' 1 (compiled.shaderModule.bound - 1) ∧
      DefinedBeforeUse compiled.shaderModule.instructions ∧
      FunctionLocal compiled.shaderModule.instructions := by
  obtain ⟨compiled, compiles⟩ := Shader.scaling_compiles
  exact ⟨compiled, compiles, Shader.compile_idDiscipline compiles⟩

end ShaderLang
