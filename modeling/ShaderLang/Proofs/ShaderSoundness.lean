import ShaderLang.Proofs.AnalysisSoundness

/-!
# The declarations of a cleanly analysed shader

The frame of a shader shows its generic parameters and its variables, each name once, after the
declarations have been checked.  With the soundness of bodies this makes a shader without reports
well typed.
-/

namespace ShaderLang

/-! ## The frame of a shader -/

/-- A symbol table between the declarations of a shader: its only frame shows the given names. -/
structure SymbolTable.Declared (names : List (String × Referent)) (table : SymbolTable) :
    Prop where
  frame : ∃ frame, table.frames = [frame] ∧ frame.Shows names
  distinct : (names.map Prod.fst).Nodup
  types : table.DeclaresEmittable
  emittable : ∀ entry ∈ names, entry.2.type.isEmittable = true

namespace SymbolTable.Declared

variable {names : List (String × Referent)} {before after : SymbolTable} {symbol : Symbol}
  {result : Unit}

theorem congr (declared : before.Declared names)
    (sameFrames : after.frames = before.frames)
    (sameTypes : after.declaredTypes = before.declaredTypes) :
    after.Declared names where
  frame := by
    rw [sameFrames]
    exact declared.frame
  distinct := declared.distinct
  types name type known := by
    unfold SymbolTable.declaredType? at known
    rw [sameTypes] at known
    exact declared.types name type known
  emittable := declared.emittable

theorem declareType (declared : before.Declared names) {type : ShaderType}
    (emittable : type.isEmittable = true) (name : String) :
    (before.declareType name type).Declared names where
  frame := by
    obtain ⟨frame, frames, shows⟩ := declared.frame
    refine ⟨frame, ?_, shows⟩
    unfold SymbolTable.declareType
    split <;> exact frames
  distinct := declared.distinct
  types := declared.types.declareType emittable name
  emittable := declared.emittable

/-- A variable or generic parameter whose name is new is shown behind its declaration. -/
theorem declareUnique (declared : before.Declared names) {location : Location}
    {referent : Referent}
    (passes : (Check.declareUnique symbol location).Passes before result after)
    (isBinding : symbol.kind = .binding)
    (sameType : referent.type = symbol.type)
    (emittable : symbol.type.isEmittable = true) :
    after.Declared ((symbol.name, referent) :: names) := by
  obtain ⟨first, rest, beforeFrames, absent, rfl⟩ := Check.passes_declareUnique.mp passes
  obtain ⟨frame, frames, shows⟩ := declared.frame
  rw [frames] at beforeFrames
  obtain ⟨rfl, rfl⟩ := List.cons.inj beforeFrames
  refine ⟨⟨_, rfl, shows.add_unique isBinding absent sameType⟩, ?_, declared.types, ?_⟩
  · rw [List.map_cons, List.nodup_cons]
    refine ⟨fun taken => ?_, declared.distinct⟩
    obtain ⟨⟨name, earlier⟩, member, rfl⟩ := List.mem_map.mp taken
    rw [isBinding] at absent
    have notShown := shows.lookup_eq_none absent
    have shown := lookup_eq_some_of_mem declared.distinct member
    rw [notShown] at shown
    cases shown
  · intro entry member
    rcases List.mem_cons.mp member with rfl | earlier
    · rw [sameType]
      exact emittable
    · exact declared.emittable entry earlier

/-- The declaration of something else does not change what is shown. -/
theorem declare_other (declared : before.Declared names)
    (passes : (Check.declare symbol).Passes before result after)
    (other : symbol.kind ≠ .binding) :
    after.Declared names := by
  obtain ⟨first, rest, beforeFrames, rfl⟩ := Check.passes_declare.mp passes
  obtain ⟨frame, frames, shows⟩ := declared.frame
  rw [frames] at beforeFrames
  obtain ⟨rfl, rfl⟩ := List.cons.inj beforeFrames
  exact ⟨⟨_, rfl, shows.add_other other⟩, declared.distinct, declared.types, declared.emittable⟩

theorem declareUnique_other (declared : before.Declared names) {location : Location}
    (passes : (Check.declareUnique symbol location).Passes before result after)
    (other : symbol.kind ≠ .binding) :
    after.Declared names := by
  obtain ⟨first, rest, frames, -, changed⟩ := Check.passes_declareUnique.mp passes
  exact declared.declare_other
    (Check.passes_declare.mpr ⟨first, rest, frames, changed⟩ : (Check.declare symbol).Passes _ () _)
    other

end SymbolTable.Declared

/-! ## Declarations -/

section Declarations

variable {last before after : SymbolTable} {names : List (String × Referent)}
  {nodes : List NodeId} {symbol : Symbol}

theorem Generic.sound_check {generic : Generic}
    (passes : generic.check.Passes before symbol after)
    (declared : before.Declared names)
    (leads : SymbolTable.Leads nodes after last)
    (isFinal : last.Final) :
    after.Declared (generic.referent last :: names) ∧ symbol.storage = .generic ∧
      last.annotations.type? generic.node = some (generic.type.denoted last) := by
  have whole := (Generic.leads_check passes).trans leads
  obtain ⟨type, resolved, rfl, declares⟩ := Generic.passes_check passes
  have emittable := declared.types.resolve resolved
  have denoted := TypeName.denoted_of_resolve (whole.resolve resolved)
  subst denoted
  have annotated : (before.annotate generic.node (generic.type.denoted last)).Declared names :=
    declared.congr rfl rfl
  refine ⟨annotated.declareUnique declares rfl rfl emittable, rfl, isFinal.type? ?_⟩
  exact leads.mem_types ((Check.leads_declareUnique declares).mem_types List.mem_cons_self)

theorem Struct.sound_check {struct : Struct}
    (passes : struct.check.Passes before symbol after)
    (declared : before.Declared names)
    (leads : SymbolTable.Leads nodes after last)
    (isFinal : last.Final) :
    after.Declared names ∧ symbol.kind = .struct ∧
      ∃ type, last.annotations.type? struct.node = some type ∧ type.isEmittable = true := by
  obtain ⟨fields, resolved, rfl, -, declares⟩ := Struct.passes_check passes
  have emittable : (ShaderType.struct struct.name fields).isEmittable = true := by
    refine Field.allEmittable_iff.mpr fun field member => ?_
    obtain ⟨written, fieldResolved⟩ := resolved field member
    exact declared.types.resolve fieldResolved
  have annotated : (before.annotate struct.node (.struct struct.name fields)).Declared names :=
    declared.congr rfl rfl
  refine ⟨(annotated.declareType emittable struct.name).declare_other declares (by simp), rfl, _,
    isFinal.type? (leads.mem_types ?_), emittable⟩
  exact (Check.leads_declare declares).mem_types
    ((SymbolTable.Leads.declareType _ _ _).mem_types List.mem_cons_self)

theorem Member.sound_check {member : Member}
    (passes : member.check.Passes before symbol after)
    (declared : before.Declared names)
    (leads : SymbolTable.Leads nodes after last)
    (isFinal : last.Final) :
    after.Declared (member.referent last :: names) ∧
      symbol = ⟨member.name, .binding, member.symbolStorage, member.type.denoted last⟩ ∧
      member.Typed last := by
  have whole := (Member.leads_check passes).trans leads
  obtain ⟨type, middle, resolved, rfl, values, declares⟩ := Member.passes_check passes
  have emittable := declared.types.resolve resolved
  have denoted := TypeName.denoted_of_resolve (whole.resolve resolved)
  subst denoted
  obtain ⟨literals, initializes⟩ := Member.passes_checkValue values
  -- A literal is the only expression whose type does not depend on any name.
  have valueTyped : ∀ expression ∈ member.value, ∃ node location literal,
      expression = .literal node location literal ∧ literal.type = member.type.denoted last := by
    intro expression present
    obtain ⟨node, location, literal, rfl⟩ := literals expression present
    rw [Option.mem_def.mp present] at initializes
    obtain ⟨found, _, checks, reports⟩ := Check.passes_bind.mp initializes
    obtain ⟨matching, rfl⟩ := Check.passes_report.mp reports
    obtain ⟨-, rfl, -⟩ := Expression.passes_check.mp checks
    exact ⟨node, location, literal, rfl,
      (eq_of_mismatchReports emittable literal.isEmittable_type matching).symm⟩
  have sameOuter : middle.frames = before.frames ∧
      middle.declaredTypes = before.declaredTypes := by
    cases value : member.value with
    | none =>
        rw [value] at initializes
        obtain ⟨-, rfl⟩ := Check.passes_pure.mp initializes
        exact ⟨rfl, rfl⟩
    | some expression =>
        rw [value] at initializes
        obtain ⟨found, _, checks, reports⟩ := Check.passes_bind.mp initializes
        obtain ⟨-, rfl⟩ := Check.passes_report.mp reports
        obtain ⟨-, -, rfl⟩ := Expression.passes_check.mp checks
        obtain ⟨sameFrames, -, sameTypes⟩ := before.annotateAll_same
          (expression.typing before BodyContext.shaderLevel.entryPoint).notes
        exact ⟨sameFrames, sameTypes⟩
  have annotated : (middle.annotate member.node (member.type.denoted last)).Declared names :=
    declared.congr sameOuter.1 sameOuter.2
  refine ⟨annotated.declareUnique declares rfl rfl emittable, rfl,
    isFinal.type? (leads.mem_types ?_), emittable, valueTyped⟩
  exact (Check.leads_declareUnique declares).mem_types List.mem_cons_self

theorem Sampler.sound_check {sampler : Sampler}
    (passes : sampler.check.Passes before symbol after)
    (declared : before.Declared names)
    (leads : SymbolTable.Leads nodes after last)
    (isFinal : last.Final) :
    after.Declared (sampler.referent :: names) ∧ symbol.storage = .uniform ∧
      last.annotations.type? sampler.node = some sampler.kind.type := by
  obtain ⟨rfl, declares⟩ := Sampler.passes_check passes
  have emittable : sampler.kind.type.isEmittable = true := by
    cases sampler.kind <;> rfl
  have annotated : (before.annotate sampler.node sampler.kind.type).Declared names :=
    declared.congr rfl rfl
  refine ⟨annotated.declareUnique declares rfl rfl emittable, rfl, isFinal.type? ?_⟩
  exact leads.mem_types ((Check.leads_declareUnique declares).mem_types List.mem_cons_self)

theorem Composition.sound_check {composition : Composition}
    (passes : composition.check.Passes before symbol after)
    (declared : before.Declared names) :
    after.Declared names ∧ symbol.kind = .composition := by
  obtain ⟨rfl, declares⟩ := Composition.passes_check passes
  have annotated : (before.annotate composition.node (.shader composition.mixin [])).Declared
      names :=
    declared.congr rfl rfl
  exact ⟨annotated.declareUnique_other declares (by simp), rfl⟩

/-- What the declaration of a method writes down about the method. -/
structure Method.Noted (method : Method) (last table : SymbolTable) : Prop where
  signature : (method.node, .function (method.returned.denoted last)
    (method.parameters.map fun parameter => parameter.type.denoted last)) ∈
      table.annotations.types
  info : (method.node, ⟨EntryPoint.ofMethodName? method.name, .typeResolved⟩) ∈
    table.annotations.methods
  returned : (method.returned.denoted last).isEmittable = true
  parameters : ∀ parameter ∈ method.parameters,
    (parameter.node, parameter.type.denoted last) ∈ table.annotations.types ∧
      (parameter.type.denoted last).isEmittable = true

theorem Method.Noted.lead {method : Method} (noted : method.Noted last before)
    (leads : SymbolTable.Leads nodes before after) :
    method.Noted last after where
  signature := leads.mem_types noted.signature
  info := leads.mem_methods noted.info
  returned := noted.returned
  parameters parameter member :=
    ⟨leads.mem_types (noted.parameters parameter member).1, (noted.parameters parameter member).2⟩

theorem Parameter.sound_check {parameter : Parameter} {type : ShaderType}
    (passes : parameter.check.Passes before type after)
    (declared : before.Declared names)
    (leads : SymbolTable.Leads nodes after last) :
    after.Declared names ∧ type = parameter.type.denoted last ∧ type.isEmittable = true ∧
      (parameter.node, type) ∈ after.annotations.types := by
  have whole := (Parameter.leads_check passes).trans leads
  obtain ⟨resolved, middle, added, rfl⟩ := Parameter.passes_check passes
  obtain ⟨overloads, rfl⟩ := SymbolTable.addParameter_eq_ok added
  have emittable := declared.types.resolve resolved
  have defined := ShaderType.isUndefined_of_isEmittable emittable
  have typeDeclared : (if type.isUndefined then before
      else before.declareType type.text type).Declared names := by
    rw [defined]
    exact declared.declareType emittable type.text
  exact ⟨typeDeclared.congr rfl rfl, (TypeName.denoted_of_resolve (whole.resolve resolved)).symm,
    emittable, List.mem_cons_self⟩

theorem Method.sound_parameters {parameters : List Parameter} {types : List ShaderType}
    (passes : (Check.collect Parameter.check parameters).Passes before types after)
    (declared : before.Declared names)
    (leads : SymbolTable.Leads nodes after last) :
    after.Declared names ∧
      types = parameters.map (fun parameter => parameter.type.denoted last) ∧
      ∀ parameter ∈ parameters,
        (parameter.node, parameter.type.denoted last) ∈ after.annotations.types ∧
          (parameter.type.denoted last).isEmittable = true := by
  refine Check.collect_invariant (fun done found table => table.Declared names ∧
    found = done.map (fun parameter => parameter.type.denoted last) ∧
    ∀ parameter ∈ done, (parameter.node, parameter.type.denoted last) ∈ table.annotations.types ∧
      (parameter.type.denoted last).isEmittable = true) passes ⟨declared, rfl, by simp⟩ ?_
  rintro done parameter rest - found table type table' others ⟨earlier, rfl, noted⟩ checks remaining
  have restLeads := (Check.leads_collect (fun parameter => [parameter.node]) remaining
    fun _ _ _ _ _ => Parameter.leads_check).trans leads
  obtain ⟨afterDeclared, rfl, emittable, newest⟩ := Parameter.sound_check checks earlier restLeads
  refine ⟨afterDeclared, by simp, fun other member => ?_⟩
  rcases List.mem_append.mp member with older | same
  · obtain ⟨known, knownEmittable⟩ := noted other older
    exact ⟨(Parameter.leads_check checks).mem_types known, knownEmittable⟩
  · rw [List.mem_singleton.mp same]
    exact ⟨newest, emittable⟩

theorem Method.sound_declare {method : Method}
    (passes : method.declare.Passes before symbol after)
    (declared : before.Declared names)
    (leads : SymbolTable.Leads nodes after last) :
    after.Declared names ∧ symbol.kind = .method ∧ method.Noted last after := by
  have whole := (Method.leads_declare passes).trans leads
  obtain ⟨returned, types, middle, completed, resolved, collects, completes, rfl, declares⟩ :=
    Method.passes_declare passes
  obtain ⟨overloads, rfl⟩ := SymbolTable.completeFunction_eq_ok completes
  have emittable := declared.types.resolve resolved
  have denoted := TypeName.denoted_of_resolve (whole.resolve resolved)
  subst denoted
  have registered : (before.registerFunction method.name).Declared names := declared.congr rfl rfl
  have declareLeads := Check.leads_declare declares
  have completesLead : SymbolTable.Leads [] middle
      { middle with overloads := overloads, registering := false } :=
    .of_same rfl rfl rfl
  have middleLeads := (completesLead.trans
    (SymbolTable.Leads.annotateMethod _ method.node _ _)).trans declareLeads
  obtain ⟨middleDeclared, rfl, noted⟩ :=
    Method.sound_parameters collects registered (middleLeads.trans leads)
  have completedDeclared : ((({ middle with overloads := overloads, registering := false } :
      SymbolTable).annotate method.node (.function (method.returned.denoted last)
        (method.parameters.map fun parameter => parameter.type.denoted last))).annotateMethod
          method.node ⟨EntryPoint.ofMethodName? method.name, .typeResolved⟩).Declared names :=
    middleDeclared.congr rfl rfl
  refine ⟨completedDeclared.declare_other declares (by simp), rfl, ?_⟩
  exact {
    signature := declareLeads.mem_types List.mem_cons_self
    info := declareLeads.mem_methods List.mem_cons_self
    returned := emittable
    parameters := fun parameter member =>
      ⟨middleLeads.mem_types (noted parameter member).1, (noted parameter member).2⟩ }

/-! ## All declarations -/

/-- A pass over declarations shows the names that each of them adds, and finds what each of them
finds.  What is true at the end of the pass may be used of every declaration. -/
theorem Check.sound_collect {α : Type} {check : α → Check Symbol} {items : List α}
    {symbols : List Symbol}
    (passes : (Check.collect check items).Passes before symbols after)
    (declared : before.Declared names) (visited : α → List NodeId)
    (added : α → List (String × Referent)) (fact : α → Symbol → Prop)
    (visits : ∀ item value table table', (check item).Passes table value table' →
      SymbolTable.Leads (visited item) table table')
    (sound : ∀ item value table table' shown nodes, (check item).Passes table value table' →
      table.Declared shown → SymbolTable.Leads nodes table' after →
      table'.Declared (added item ++ shown) ∧ fact item value) :
    after.Declared (items.reverse.flatMap added ++ names) ∧
      (∀ symbol ∈ symbols, ∃ item ∈ items, fact item symbol) ∧
      ∀ item ∈ items, ∃ symbol, fact item symbol := by
  refine Check.collect_invariant (fun done found table =>
    table.Declared (done.reverse.flatMap added ++ names) ∧
    (∀ symbol ∈ found, ∃ item ∈ done, fact item symbol) ∧
    ∀ item ∈ done, ∃ symbol, fact item symbol) passes ⟨declared, by simp, by simp⟩ ?_
  rintro done item rest - found table value table' others ⟨shown, facts, complete⟩ checks remaining
  have restLeads := Check.leads_collect visited remaining fun item _ => visits item
  obtain ⟨nowShown, newest⟩ := sound item value table table' _ _ checks shown restLeads
  refine ⟨by simpa using nowShown, fun symbol member => ?_, fun other member => ?_⟩
  · rcases List.mem_append.mp member with older | same
    · obtain ⟨origin, inDone, known⟩ := facts symbol older
      exact ⟨origin, List.mem_append_left _ inDone, known⟩
    · rw [List.mem_singleton.mp same]
      exact ⟨item, by simp, newest⟩
  · rcases List.mem_append.mp member with older | same
    · exact complete other older
    · rw [List.mem_singleton.mp same]
      exact ⟨value, newest⟩

/-- What the declarations of a shader leave behind. -/
structure Shader.Declared (shader : Shader) (last table : SymbolTable)
    (components : List Symbol) : Prop where
  shown : table.Declared (shader.referents last)
  generics : ∀ generic ∈ shader.generics,
    last.annotations.type? generic.node = some (generic.type.denoted last)
  structs : ∀ struct ∈ shader.structs, ∃ type,
    last.annotations.type? struct.node = some type ∧ type.isEmittable = true
  members : ∀ member ∈ shader.members, member.Typed last
  samplers : ∀ sampler ∈ shader.samplers,
    last.annotations.type? sampler.node = some sampler.kind.type
  methods : ∀ method ∈ shader.methods, method.Noted last table
  /-- What is passed between stages is a member. -/
  streams : ∀ symbol ∈ components, symbol.kind = .binding → symbol.storage = .stream →
    ∃ member ∈ shader.members,
      symbol = ⟨member.name, .binding, member.symbolStorage, member.type.denoted last⟩

theorem Shader.declared_of_check {shader : Shader} {components : List Symbol}
    (passes : shader.checkDeclarations.Passes before components after)
    (declared : before.Declared [])
    (leads : SymbolTable.Leads nodes after last)
    (isFinal : last.Final) :
    shader.Declared last after components := by
  obtain ⟨generics, structs, members, samplers, compositions, methods, first, second, third, fourth,
    fifth, genericsPass, structsPass, membersPass, samplersPass, compositionsPass, methodsPass,
    rfl⟩ := Shader.passes_checkDeclarations passes
  -- facts are about the last table, so each pass needs to know that those behind it lead there
  have fifthLeads := (Check.leads_collect _ methodsPass
    fun _ _ _ _ _ => Method.leads_declare).trans leads
  have fourthLeads := (Check.leads_collect _ compositionsPass
    fun _ _ _ _ _ => Composition.leads_check).trans fifthLeads
  have thirdLeads := (Check.leads_collect _ samplersPass
    fun _ _ _ _ _ => Sampler.leads_check).trans fourthLeads
  have secondLeads := (Check.leads_collect _ membersPass
    fun _ _ _ _ _ => Member.leads_check).trans thirdLeads
  have firstLeads := (Check.leads_collect _ structsPass
    fun _ _ _ _ _ => Struct.leads_check).trans secondLeads
  obtain ⟨shownGenerics, genericSymbols, genericFacts⟩ := Check.sound_collect genericsPass declared
    (fun generic => [generic.node]) (fun generic => [generic.referent last])
    (fun generic symbol => symbol.storage = .generic ∧
      last.annotations.type? generic.node = some (generic.type.denoted last))
    (fun _ _ _ _ => Generic.leads_check)
    fun _ _ _ _ _ _ checks shown rest =>
      Generic.sound_check checks shown (rest.trans firstLeads) isFinal
  obtain ⟨shownStructs, structSymbols, structFacts⟩ := Check.sound_collect structsPass shownGenerics
    (fun struct => [struct.node]) (fun _ => [])
    (fun struct symbol => symbol.kind = .struct ∧ ∃ type,
      last.annotations.type? struct.node = some type ∧ type.isEmittable = true)
    (fun _ _ _ _ => Struct.leads_check)
    fun _ _ _ _ _ _ checks shown rest =>
      Struct.sound_check checks shown (rest.trans secondLeads) isFinal
  obtain ⟨shownMembers, memberSymbols, memberFacts⟩ := Check.sound_collect membersPass shownStructs
    Member.visited (fun member => [member.referent last])
    (fun member symbol =>
      symbol = ⟨member.name, .binding, member.symbolStorage, member.type.denoted last⟩ ∧
        member.Typed last)
    (fun _ _ _ _ => Member.leads_check)
    fun _ _ _ _ _ _ checks shown rest =>
      Member.sound_check checks shown (rest.trans thirdLeads) isFinal
  obtain ⟨shownSamplers, samplerSymbols, samplerFacts⟩ := Check.sound_collect samplersPass
    shownMembers (fun sampler => [sampler.node]) (fun sampler => [sampler.referent])
    (fun sampler symbol => symbol.storage = .uniform ∧
      last.annotations.type? sampler.node = some sampler.kind.type)
    (fun _ _ _ _ => Sampler.leads_check)
    fun _ _ _ _ _ _ checks shown rest =>
      Sampler.sound_check checks shown (rest.trans fourthLeads) isFinal
  obtain ⟨shownCompositions, compositionSymbols, -⟩ := Check.sound_collect compositionsPass
    shownSamplers (fun composition => [composition.node]) (fun _ => [])
    (fun _ symbol => symbol.kind = .composition)
    (fun _ _ _ _ => Composition.leads_check)
    fun _ _ _ _ _ _ checks shown _ => Composition.sound_check checks shown
  obtain ⟨shownMethods, methodSymbols, methodFacts⟩ := Check.sound_collect methodsPass
    shownCompositions Method.visited (fun _ => [])
    (fun method symbol => symbol.kind = .method ∧ method.Noted last after)
    (fun _ _ _ _ => Method.leads_declare)
    fun _ _ _ _ _ _ checks shown rest => by
      obtain ⟨nowShown, isMethod, noted⟩ := Method.sound_declare checks shown (rest.trans leads)
      exact ⟨nowShown, isMethod, noted.lead rest⟩
  refine ⟨?_, fun generic member => (genericFacts generic member).choose_spec.2,
    fun struct member => (structFacts struct member).choose_spec.2,
    fun member isMember => (memberFacts member isMember).choose_spec.2,
    fun sampler member => (samplerFacts sampler member).choose_spec.2,
    fun method member => (methodFacts method member).choose_spec.2, ?_⟩
  · have noNames : ∀ {α : Type} (items : List α),
        items.flatMap (fun _ => ([] : List (String × Referent))) = [] := by
      intro α items
      simp
    unfold Shader.referents
    simpa [noNames, ← List.map_eq_flatMap] using shownMethods
  · intro symbol member isBinding isStream
    -- of all components only those of members are bindings with the storage of streams
    simp only [List.mem_append, or_assoc] at member
    rcases member with inGenerics | inStructs | inMembers | inSamplers | inCompositions | inMethods
    · obtain ⟨_, _, isGeneric, -⟩ := genericSymbols symbol inGenerics
      rw [isGeneric] at isStream
      cases isStream
    · obtain ⟨_, _, isStruct, -⟩ := structSymbols symbol inStructs
      rw [isStruct] at isBinding
      cases isBinding
    · obtain ⟨origin, inShader, same, -⟩ := memberSymbols symbol inMembers
      exact ⟨origin, inShader, same⟩
    · obtain ⟨_, _, isUniform, -⟩ := samplerSymbols symbol inSamplers
      rw [isUniform] at isStream
      cases isStream
    · obtain ⟨_, _, isComposition⟩ := compositionSymbols symbol inCompositions
      rw [isComposition] at isBinding
      cases isBinding
    · obtain ⟨_, _, isMethod, -⟩ := methodSymbols symbol inMethods
      rw [isMethod] at isBinding
      cases isBinding

end Declarations

/-! ## Bodies -/

section Bodies

variable {last before after : SymbolTable} {nodes : List NodeId} {shader : Shader}
  {method : Method}

/-- The parameters of a method are shown when its body is checked. -/
theorem Method.shows_parameters {opened : SymbolTable} {result : Unit}
    (binds : (Check.forEach Parameter.bind method.parameters).Passes before.push result opened)
    (shows : before.Shows ⟨[], shader.referents last⟩)
    (noted : method.Noted last before)
    (isFinal : before.Final) :
    opened.Shows (method.names shader last) ∧ before.push.SameOuter opened := by
  have general : opened.annotations = before.annotations ∧
      opened.Shows ⟨[(method.parameters.map (Parameter.referent last)).reverse],
        shader.referents last⟩ ∧ before.push.SameOuter opened := by
    refine Check.forEach_invariant (fun done table => table.annotations = before.annotations ∧
      table.Shows ⟨[(done.map (Parameter.referent last)).reverse], shader.referents last⟩ ∧
      before.push.SameOuter table) binds ⟨rfl, shows.push, .refl _⟩ ?_
    rintro done parameter rest split table table' ⟨same, shown, outer⟩ checks -
    obtain ⟨known, emittable⟩ := noted.parameters parameter (by simp [split])
    have declares := Parameter.passes_bind checks
    rw [same, isFinal.type? known, Option.getD_some] at declares
    have nowShown : table'.Shows (NameTable.bind
        ⟨[(done.map (Parameter.referent last)).reverse], shader.referents last⟩ parameter.name
        ⟨.parameter, parameter.type.denoted last⟩) :=
      shown.declare (by simp) rfl emittable declares
    obtain ⟨frame, others, -, rfl⟩ := Check.passes_declare.mp declares
    refine ⟨same, ?_, outer.trans (Check.sameOuter_declare declares)⟩
    simpa [NameTable.bind, Parameter.referent] using nowShown
  exact general.2

theorem Method.annotatedReturn_eq (noted : method.Noted last before) (isFinal : before.Final) :
    method.annotatedReturn before = method.returned.denoted last := by
  unfold Method.annotatedReturn
  rw [isFinal.type? noted.signature]

/-- A body that can end without a return belongs to a method without a value. -/
theorem Method.returns_of_missingReturnReports {returned : ShaderType} {body : List Statement}
    (emittable : returned.isEmittable = true)
    (complete : method.missingReturnReports returned body = []) :
    returned.isVoid = true ∨ Statement.endsWithReturn body = true := by
  unfold Method.missingReturnReports at complete
  rw [ShaderType.isUndefined_of_isEmittable emittable, Bool.or_false] at complete
  split at complete
  · next ends => simpa using ends
  · cases complete

theorem Method.typed_of_checkBody {result : Unit}
    (passes : method.checkBody.Passes before result after)
    (shows : before.Shows ⟨[], shader.referents last⟩)
    (noted : method.Noted last before)
    (leads : SymbolTable.Leads nodes after last)
    (isFinal : last.Final) :
    after.Shows ⟨[], shader.referents last⟩ ∧ method.Typed shader last := by
  have whole := (Method.leads_checkBody passes).trans leads
  have lastNoted := noted.lead whole
  have typed : ∀ bodyTyped, method.Typed shader last := fun bodyTyped => {
    info := isFinal.method? lastNoted.info
    signature := isFinal.type? lastNoted.signature
    returned := noted.returned
    parameters := fun parameter member =>
      ⟨isFinal.type? (lastNoted.parameters parameter member).1,
        (lastNoted.parameters parameter member).2⟩
    body := bodyTyped }
  cases present : method.body with
  | none =>
      unfold Method.checkBody at passes
      rw [present] at passes
      obtain ⟨-, rfl⟩ := Check.passes_pure.mp passes
      exact ⟨shows, typed (by simp [present])⟩
  | some body =>
      obtain ⟨opened, inner, binds, statements, complete, rfl⟩ :=
        Method.passes_checkBody present passes
      have beforeFinal := whole.isFinal isFinal
      obtain ⟨openedShows, parametersOuter⟩ :=
        Method.shows_parameters binds shows noted beforeFinal
      have returned : (method.context before).returned = method.returned.denoted last :=
        Method.annotatedReturn_eq noted beforeFinal
      have closes : SymbolTable.Leads [] inner inner.dropFrame := .of_same rfl rfl rfl
      obtain ⟨bodyTyped, bodyOuter⟩ := Statement.typedAll_of_checkAll
        (by rw [returned]; exact noted.returned) isFinal body statements openedShows
        (by simp [Method.names]) (closes.trans leads)
      have outer := parametersOuter.trans bodyOuter
      have sameFrames : inner.dropFrame.frames = before.frames := outer.frames
      refine ⟨shows.congr sameFrames outer.shader outer.types, typed fun other same => ?_⟩
      obtain rfl : body = other := by simpa [present] using same
      rw [returned] at bodyTyped complete
      exact ⟨bodyTyped, Method.returns_of_missingReturnReports noted.returned complete⟩

/-- After its declarations a shader shows its names, and what is passed between stages is a
variable. -/
theorem Shader.Declared.shows {components : List Symbol}
    (declared : shader.Declared last before components)
    (name : String) :
    (before.setShader ⟨name, components⟩).Shows ⟨[], shader.referents last⟩ where
  frames := by
    obtain ⟨frame, frames, shows⟩ := declared.shown.frame
    exact ⟨[], frame, frames, .nil, shows⟩
  streams := by
    intro asked symbol found isStream
    have component : Symbol.find? components asked .binding = some symbol := found
    have matching := List.find?_some component
    simp only [Bool.and_eq_true, beq_iff_eq] at matching
    obtain ⟨member, inShader, rfl⟩ := declared.streams symbol
      (List.mem_of_find?_eq_some component) matching.2 isStream
    refine lookup_eq_some_of_mem declared.shown.distinct ?_
    rw [← matching.1]
    unfold Shader.referents
    rw [List.mem_reverse, List.mem_append, List.mem_append]
    exact .inl (.inr (List.mem_map.mpr ⟨member, inShader, rfl⟩))
  types := declared.shown.types
  emittable := by
    intro entry member
    exact declared.shown.emittable entry (by simpa [NameTable.entries] using member)

end Bodies

/-! ## Shaders -/

/-- A shader that is analysed without a report is well typed. -/
theorem Shader.typed_of_clean {shader : Shader}
    (distinct : shader.nodes.Nodup)
    (clean : shader.analyse.2 = []) :
    shader.Typed shader.analyse.1 := by
  have passes : shader.check.Passes .empty () shader.analyse.1 := Check.passes_of_reports clean
  generalize shader.analyse.1 = last at passes
  have isFinal := Shader.isFinal_of_check passes distinct
  obtain ⟨components, declared, arguments, declares, attributes, bodies⟩ :=
    Shader.passes_check passes
  have bodiesLead := Check.leads_forEach _ bodies fun _ _ _ _ => Method.leads_checkBody
  have argumentsLead := (Check.leads_forEach _ attributes
    fun _ _ _ _ => Shader.leads_checkArgument).trans bodiesLead
  have named : SymbolTable.Leads [] declared (declared.setShader ⟨shader.name, components⟩) :=
    .of_same rfl rfl rfl
  have start : SymbolTable.empty.push.Declared [] := by
    refine ⟨⟨.empty, rfl, fun _ => rfl⟩, List.nodup_nil, ?_, List.forall_mem_nil _⟩
    intro name type known
    simp [SymbolTable.declaredType?, SymbolTable.push, SymbolTable.empty] at known
  have found : shader.Declared last declared components :=
    Shader.declared_of_check declares start (named.trans argumentsLead) isFinal
  -- Attributes only add annotations.
  have afterArguments : arguments.Shows ⟨[], shader.referents last⟩ ∧
      ∀ method ∈ shader.methods, method.Noted last arguments := by
    refine Check.forEach_invariant (fun _ table => table.Shows ⟨[], shader.referents last⟩ ∧
      ∀ method ∈ shader.methods, method.Noted last table) attributes
      ⟨found.shows shader.name, fun method member => (found.methods method member).lead named⟩ ?_
    rintro done argument rest - table table' ⟨shows, noted⟩ checks -
    have leads := Shader.leads_checkArgument checks
    obtain ⟨type, middle, checked, finished⟩ := Check.passes_bind.mp checks
    obtain ⟨-, rfl⟩ := Check.passes_pure.mp finished
    obtain ⟨-, -, rfl⟩ := Expression.passes_check.mp checked
    obtain ⟨sameFrames, sameShader, sameTypes⟩ := table.annotateAll_same
      (argument.typing table BodyContext.shaderLevel.entryPoint).notes
    exact ⟨shows.congr sameFrames sameShader sameTypes,
      fun method member => (noted method member).lead leads⟩
  have afterBodies : last.Shows ⟨[], shader.referents last⟩ ∧
      (∀ method ∈ shader.methods, method.Noted last last) ∧
      ∀ method ∈ shader.methods, method.Typed shader last := by
    refine Check.forEach_invariant (fun done table => table.Shows ⟨[], shader.referents last⟩ ∧
      (∀ method ∈ shader.methods, method.Noted last table) ∧
      ∀ method ∈ done, method.Typed shader last) bodies
      ⟨afterArguments.1, afterArguments.2, by simp⟩ ?_
    rintro done method rest split table table' ⟨shows, noted, typed⟩ checks remaining
    have inShader : method ∈ shader.methods := by simp [split]
    have restLeads := Check.leads_forEach _ remaining fun _ _ _ _ => Method.leads_checkBody
    obtain ⟨nowShows, methodTyped⟩ :=
      Method.typed_of_checkBody checks shows (noted method inShader) restLeads isFinal
    refine ⟨nowShows, fun other member => (noted other member).lead
      (Method.leads_checkBody checks), fun other member => ?_⟩
    rcases List.mem_append.mp member with older | same
    · exact typed other older
    · rw [List.mem_singleton.mp same]
      exact methodTyped
  exact ⟨found.generics, found.structs, found.members, found.samplers, afterBodies.2.2⟩

end ShaderLang
