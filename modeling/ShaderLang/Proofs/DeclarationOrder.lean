import Mathlib.Data.List.Nodup
import ShaderLang.Proofs.EmissionReads
import ShaderLang.Proofs.EmissionRuns
import ShaderLang.Proofs.TableAgreement

/-!
# The order of declarations

A shader may declare its elements in any order, as long as its structs keep theirs: a reordered
shader is reported on if and only if the shader is, and otherwise analysis finds the same types.  If
the elements of each kind keep their order, then both compile to the same module.
-/

namespace ShaderLang

/-! ## Reordered shaders -/

/-- The types that are written in the members and the methods of a shader. -/
def Shader.writtenTypes (shader : Shader) : List TypeName :=
  shader.variableTypes ++ shader.methods.map Method.returned

/-- A shader with the same elements in another order.  The structs keep their order. -/
structure Shader.Reorders (shader reordered : Shader) : Prop where
  name : reordered.name = shader.name
  generics : reordered.generics = shader.generics
  elements : shader.elements.Perm reordered.elements
  structs : reordered.structs = shader.structs

/-- A shader with the same elements in another order.  The elements of each kind keep their
order. -/
structure Shader.Interleaves (shader reordered : Shader) : Prop extends
    shader.Reorders reordered where
  members : reordered.members = shader.members
  samplers : reordered.samplers = shader.samplers
  compositions : reordered.compositions = shader.compositions
  methods : reordered.methods = shader.methods

/-- Declares an element. -/
def Element.declare : Element → Check Symbol
  | member element => element.check
  | method element => element.declare
  | struct element => element.check
  | sampler element => element.check
  | composition element => element.check

/-- The elements of a shader that are declared behind the structs, kind by kind. -/
def Shader.declared (shader : Shader) : List Element :=
  shader.members.map .member ++ shader.samplers.map .sampler ++
    shader.compositions.map .composition ++ shader.methods.map .method

namespace Shader.Reorders

variable {shader reordered : Shader}

theorem symm (reorders : shader.Reorders reordered) : reordered.Reorders shader where
  name := reorders.name.symm
  generics := reorders.generics.symm
  elements := reorders.elements.symm
  structs := reorders.structs.symm

theorem members_perm (reorders : shader.Reorders reordered) :
    shader.members.Perm reordered.members :=
  reorders.elements.filterMap _

theorem methods_perm (reorders : shader.Reorders reordered) :
    shader.methods.Perm reordered.methods :=
  reorders.elements.filterMap _

theorem declared_perm (reorders : shader.Reorders reordered) :
    shader.declared.Perm reordered.declared :=
  (((reorders.members_perm.map _).append ((reorders.elements.filterMap _).map _)).append
    ((reorders.elements.filterMap _).map _)).append (reorders.methods_perm.map _)

theorem attributeArguments_perm (reorders : shader.Reorders reordered) :
    shader.attributeArguments.Perm reordered.attributeArguments :=
  reorders.elements.flatMap_right _

theorem writtenTypes_perm (reorders : shader.Reorders reordered) :
    shader.writtenTypes.Perm reordered.writtenTypes :=
  ((reorders.members_perm.map _).append (reorders.methods_perm.flatMap_right _)).append
    (reorders.methods_perm.map _)

theorem nodes_perm (reorders : shader.Reorders reordered) :
    shader.nodes.Perm reordered.nodes := by
  unfold Shader.nodes
  rw [reorders.generics]
  exact (reorders.elements.flatMap_right _).append_left _

end Shader.Reorders

/-! ## The phases of a check -/

namespace Check

variable {α β γ : Type}

theorem collect_append (check : α → Check β) (front back : List α) :
    collect check (front ++ back) = do
      let values ← collect check front
      let others ← collect check back
      return values ++ others := by
  induction front with
  | nil => simp [collect]
  | cons item rest inductionHypothesis => simp [collect, inductionHypothesis]

theorem collect_map (check : β → Check γ) (change : α → β) (items : List α) :
    collect check (items.map change) = collect (fun item => check (change item)) items := by
  induction items with
  | nil => rfl
  | cons item rest inductionHypothesis => simp [collect, inductionHypothesis]

/-- Each check of a pass leaves a frame open. -/
theorem opened_of_collect {check : α → Check β} {items : List α} {values : List β}
    {before after : SymbolTable}
    (passes : (collect check items).Passes before values after)
    (opens : ∀ item table value table', (check item).Passes table value table' →
      table'.frames ≠ [])
    (opened : before.frames ≠ []) :
    after.frames ≠ [] := by
  apply collect_invariant (fun _ _ table => table.frames ≠ []) passes opened
  intro done item rest _ found table value table' others _ checks _
  exact opens item table value table' checks

end Check

namespace Shader

variable {shader reordered : Shader} {before after opened : SymbolTable}

theorem checkDeclarations_eq (shader : Shader) :
    shader.checkDeclarations = do
      let generics ← Check.collect Generic.check shader.generics
      let structs ← Check.collect Struct.check shader.structs
      let others ← Check.collect Element.declare shader.declared
      return generics ++ structs ++ others := by
  unfold checkDeclarations declared
  simp [Check.collect_append, Check.collect_map, Element.declare]

theorem ready_of_collect {generics structs : List Symbol} {first : SymbolTable}
    (genericsPass : (Check.collect Generic.check shader.generics).Passes before.push generics first)
    (structsPass : (Check.collect Struct.check shader.structs).Passes first structs opened)
    (named : before.NamesTypes) :
    opened.Ready where
  opened := by
    have genericsOpen : first.frames ≠ [] := by
      refine Check.opened_of_collect genericsPass ?_ (List.cons_ne_nil _ _)
      intro generic table symbol table' checks
      obtain ⟨type, -, -, declares⟩ := Generic.passes_check checks
      obtain ⟨frame, rest, -, -, rfl⟩ := Check.passes_declareUnique.mp declares
      exact List.cons_ne_nil _ _
    refine Check.opened_of_collect structsPass ?_ genericsOpen
    intro struct table symbol table' checks
    obtain ⟨fields, -, -, -, declares⟩ := Struct.passes_check checks
    obtain ⟨frame, rest, -, rfl⟩ := Check.passes_declare.mp declares
    exact List.cons_ne_nil _ _
  named := by
    have genericsNamed := (Check.keeps_collect Generic.keepsNames_check).of_passes genericsPass
      (named.congr rfl)
    exact (Check.keeps_collect Struct.keepsNames_check).of_passes structsPass genericsNamed

/-- The written types of a method are among those of its shader. -/
theorem plain_of_method (plain : ∀ written ∈ shader.writtenTypes, isPlainName written.name = true)
    {method : Method} (member : method ∈ shader.methods) :
    isPlainName method.returned.name = true ∧
      ∀ written ∈ method.variableTypes, isPlainName written.name = true := by
  constructor
  · exact plain _ (List.mem_append_right _ (List.mem_map_of_mem member))
  · intro written inMethod
    exact plain written (List.mem_append_left _ (List.mem_append_right _
      (List.mem_flatMap_of_mem member inMethod)))

theorem isDeclaration_declare (plain : ∀ written ∈ shader.writtenTypes,
      isPlainName written.name = true) :
    ∀ element ∈ shader.declared, element.declare.IsDeclaration := by
  intro element member
  unfold declared at member
  simp only [List.mem_append, List.mem_map] at member
  obtain ((⟨declared, present, rfl⟩ | ⟨sampler, -, rfl⟩) | ⟨composition, -, rfl⟩) |
    ⟨method, present, rfl⟩ := member
  · exact Member.isDeclaration_check (plain _ (List.mem_append_left _ (List.mem_append_left _
      (List.mem_map_of_mem present))))
  · exact sampler.isDeclaration_check
  · exact composition.isDeclaration_check
  · obtain ⟨returnsPlain, variablesPlain⟩ := plain_of_method plain present
    exact Method.isDeclaration_declare returnsPlain fun parameter inMethod =>
      variablesPlain _ (List.mem_append_left _ (List.mem_map_of_mem inMethod))

end Shader

/-! ## What two runs agree on -/

/-- New entries with distinct keys can be added in any order. -/
theorem lookup_append_perm {β : Type} {new new' opened before : List (NodeId × β)}
    {nodes more : List NodeId} (same : new.Perm new')
    (added : ∃ all, new ++ opened = all ++ before ∧ (all.map Prod.fst).Subperm nodes)
    (earlier : ∃ old, opened = old ++ before ∧ (old.map Prod.fst).Subperm more)
    (distinct : nodes.Nodup) (node : NodeId) :
    (new ++ opened).lookup node = (new' ++ opened).lookup node := by
  obtain ⟨all, allEq, within⟩ := added
  obtain ⟨old, openedEq, -⟩ := earlier
  have once : (new.map Prod.fst).Nodup := by
    rw [openedEq, ← List.append_assoc] at allEq
    rw [← List.append_cancel_right allEq, List.map_append] at within
    exact (List.nodup_append.mp (nodup_of_subperm within distinct)).1
  rw [List.lookup_append, List.lookup_append, lookup_perm same once]

/-- Annotations that give every node the same type and every method the same state. -/
structure Annotations.Agree (first second : Annotations) : Prop where
  types : ∀ node, first.type? node = second.type? node
  methods : ∀ node, first.method? node = second.method? node

theorem Annotations.Agree.agreeOn {first second : Annotations} (agree : first.Agree second)
    {nodes : List NodeId} :
    first.AgreeOn nodes second :=
  ⟨fun node _ => agree.types node, agree.methods⟩

namespace SymbolTable

variable {before opened first second : SymbolTable} {nodes more : List NodeId}
  {declarations reordered : List Declaration} {notes notes' : List (NodeId × ShaderType)}

/-- Reordered declarations leave the same annotations. -/
theorem Adds.agree (adds : Adds declarations opened first) (adds' : Adds reordered opened second)
    (same : declarations.Perm reordered)
    (leads : Leads nodes before first)
    (distinct : nodes.Nodup)
    (earlier : Leads more before opened) :
    first.annotations.Agree second.annotations where
  types node := by
    obtain ⟨new, since, fresh⟩ := adds.types
    obtain ⟨new', since', fresh'⟩ := adds'.types
    have added := leads.types
    unfold Annotations.type?
    rw [since] at added ⊢
    rw [since']
    exact lookup_append_perm ((fresh.trans (same.flatMap_right _)).trans fresh'.symm) added
      earlier.types distinct node
  methods node := by
    obtain ⟨new, since, fresh⟩ := adds.methods
    obtain ⟨new', since', fresh'⟩ := adds'.methods
    have added := leads.methods
    unfold Annotations.method?
    rw [since] at added ⊢
    rw [since']
    exact lookup_append_perm ((fresh.trans (same.flatMap_right _)).trans fresh'.symm) added
      earlier.methods distinct node

/-- Reordered declarations leave tables that agree on all that attributes and bodies read. -/
theorem Adds.agreeOn (adds : Adds declarations opened first) (adds' : Adds reordered opened second)
    (same : declarations.Perm reordered)
    (admits : opened.Admits declarations)
    (agree : first.annotations.Agree second.annotations)
    (name : String) (front : List Symbol) (nodes : List NodeId) :
    AgreeOn nodes
      (first.setShader ⟨name, front ++ declarations.map Declaration.symbol⟩)
      (second.setShader ⟨name, front ++ reordered.map Declaration.symbol⟩) := by
  have notMethod : SymbolKind.binding ≠ .method := nofun
  have found : ∀ asked, Symbol.find? (declarations.map Declaration.symbol) asked .binding =
      Symbol.find? (reordered.map Declaration.symbol) asked .binding := fun asked =>
    Symbol.find?_perm (same.map _) (List.pairwise_map.mpr admits.apart) notMethod
  refine ⟨fun asked => ?_, adds.alike.trans adds'.alike.symm, fun asked => ?_, agree.methods,
    fun node _ => agree.types node⟩
  · change first.lookup? asked .binding = second.lookup? asked .binding
    rw [lookup?_eq_or, lookup?_eq_or, adds.outer, adds'.outer, adds.found _ _ notMethod,
      adds'.found _ _ notMethod, found]
  · change Symbol.find? _ asked .binding = Symbol.find? _ asked .binding
    rw [Symbol.find?_append, Symbol.find?_append, found]

/-- Types of distinct nodes can be noted in any order. -/
theorem agree_noted (agree : first.annotations.Agree second.annotations)
    (same : notes.Perm notes')
    (leads : Leads nodes first (first.noted notes))
    (distinct : nodes.Nodup) :
    (first.noted notes).annotations.Agree (second.noted notes').annotations where
  types node := by
    have once := nodup_of_subperm leads.keys_noted distinct
    rw [type?_noted, type?_noted, agree.types, lookup_perm same once]
  methods := agree.methods

theorem AgreeOn.noted_perm (agree : AgreeOn more first second)
    (annotations : (first.noted notes).annotations.Agree (second.noted notes').annotations) :
    AgreeOn more (first.noted notes) (second.noted notes') where
  names := agree.names
  written := agree.written
  streams := agree.streams
  methods := agree.methods
  types node _ := annotations.types node

end SymbolTable

/-! ## Checks of reordered shaders -/

namespace Shader

variable {shader reordered : Shader} {before after opened : SymbolTable}

/-- The nodes that are annotated by the headings of methods. -/
def headings (shader : Shader) : List NodeId :=
  shader.methods.flatMap Method.visited

theorem independent_arguments (distinct : shader.visited.Nodup) :
    Check.Independent checkArgument shader.attributeArguments shader.headings := by
  apply Check.independent_of_leads Expression.nodes
  · exact fun argument _ => transfers_checkArgument argument _
  · exact fun _ _ _ _ => Shader.leads_checkArgument
  · have apart := List.disjoint_of_nodup_append distinct.of_append_left
    exact fun node heading => apart (List.mem_append_right _ heading)

theorem independent_bodies (distinct : shader.visited.Nodup)
    (plain : ∀ written ∈ shader.writtenTypes, isPlainName written.name = true) :
    Check.Independent Method.checkBody shader.methods shader.headings := by
  apply Check.independent_of_leads Method.bodyNodes
  · intro method member
    apply Method.transfers_checkBody _ (plain_of_method plain member).2
    exact fun node heading => List.mem_flatMap_of_mem member heading
  · exact fun _ _ _ _ => Method.leads_checkBody
  · have apart := List.disjoint_of_nodup_append distinct
    exact fun node heading => apart (List.mem_append_left _ (List.mem_append_right _ heading))

namespace Reorders

/-- The declarations of a shader can be made in another order, and show the same. -/
theorem passes_checkDeclarations (reorders : shader.Reorders reordered)
    (distinct : shader.visitedDeclarations.Nodup)
    (plain : ∀ written ∈ shader.writtenTypes, isPlainName written.name = true)
    (named : before.NamesTypes)
    {components : List Symbol} {declared : SymbolTable}
    (passes : shader.checkDeclarations.Passes before.push components declared) :
    ∃ components' declared', reordered.checkDeclarations.Passes before.push components' declared' ∧
      (declared.setShader ⟨shader.name, components⟩).annotations.Agree
        (declared'.setShader ⟨reordered.name, components'⟩).annotations ∧
      ∀ nodes, SymbolTable.AgreeOn nodes (declared.setShader ⟨shader.name, components⟩)
        (declared'.setShader ⟨reordered.name, components'⟩) := by
  have leads := Shader.leads_checkDeclarations passes
  rw [checkDeclarations_eq] at passes
  obtain ⟨generics, first, genericsPass, rest⟩ := Check.passes_bind.mp passes
  obtain ⟨structs, opened, structsPass, rest⟩ := Check.passes_bind.mp rest
  obtain ⟨others, _, othersPass, finished⟩ := Check.passes_bind.mp rest
  obtain ⟨rfl, rfl⟩ := Check.passes_pure.mp finished
  have earlier := (Check.leads_collect _ genericsPass fun _ _ _ _ _ =>
    Generic.leads_check).trans (Check.leads_collect _ structsPass fun _ _ _ _ _ =>
      Struct.leads_check)
  obtain ⟨declarations, declarations', declared', same, admits, rfl, othersPass', adds, adds'⟩ :=
    Check.collect_perm (isDeclaration_declare plain) othersPass
      (ready_of_collect genericsPass structsPass named) reorders.declared_perm
  have agree := adds.agree adds' same leads distinct earlier
  refine ⟨generics ++ structs ++ declarations'.map Declaration.symbol, declared', ?_,
    ⟨agree.types, agree.methods⟩, ?_⟩
  · rw [checkDeclarations_eq, reorders.generics, reorders.structs]
    exact Check.passes_bind.mpr ⟨generics, first, genericsPass, Check.passes_bind.mpr
      ⟨structs, opened, structsPass, Check.passes_bind.mpr
        ⟨_, declared', othersPass', Check.passes_pure.mpr ⟨rfl, rfl⟩⟩⟩⟩
  · intro nodes
    rw [reorders.name]
    exact adds.agreeOn adds' same admits agree shader.name _ nodes

/-- A shader that passes can be reordered. -/
theorem passes_check (reorders : shader.Reorders reordered)
    (distinct : shader.nodes.Nodup)
    (plain : ∀ written ∈ shader.writtenTypes, isPlainName written.name = true)
    (named : before.NamesTypes)
    (passes : shader.check.Passes before () after) :
    ∃ after', reordered.check.Passes before () after' ∧
      after.annotations.Agree after'.annotations := by
  have visitedOnce := nodup_of_subperm shader.visited_subperm distinct
  have declaredOnce := visitedOnce.of_append_left
  obtain ⟨components, declared, arguments, declares, argumentsPass, bodiesPass⟩ :=
    Shader.passes_check passes
  -- Each phase passes on the table that the other run has reached, as the two tables agree on all
  -- that the phase reads, and it leaves them with the same types of nodes.
  obtain ⟨components', declared', declares', agree, agreeOn⟩ :=
    reorders.passes_checkDeclarations declaredOnce.of_append_left plain named declares
  obtain ⟨notes, notes', sameNotes, rfl, argumentsPass'⟩ :=
    (independent_arguments visitedOnce).forEach_perm (agreeOn _) argumentsPass
      reorders.attributeArguments_perm
  have argumentsLead := Check.leads_forEach _ argumentsPass
    fun _ _ _ _ => Shader.leads_checkArgument
  have argumentsAgree := SymbolTable.agree_noted agree sameNotes argumentsLead
    declaredOnce.of_append_right
  obtain ⟨more, more', sameMore, rfl, bodiesPass'⟩ :=
    (independent_bodies visitedOnce plain).forEach_perm ((agreeOn _).noted_perm argumentsAgree)
      bodiesPass reorders.methods_perm
  have bodiesLead := Check.leads_forEach _ bodiesPass fun _ _ _ _ => Method.leads_checkBody
  refine ⟨_, ?_, SymbolTable.agree_noted argumentsAgree sameMore bodiesLead
    visitedOnce.of_append_right⟩
  refine Check.passes_bind.mpr ⟨(), _, Check.passes_update.mpr rfl, ?_⟩
  refine Check.passes_bind.mpr ⟨components', declared', declares', ?_⟩
  refine Check.passes_bind.mpr ⟨(), _, Check.passes_update.mpr rfl, ?_⟩
  exact Check.passes_bind.mpr ⟨(), _, argumentsPass', bodiesPass'⟩

end Reorders

end Shader

/-! ## Emission of reordered shaders -/

/-- Emission visits the elements of a shader kind by kind. -/
theorem Shader.Interleaves.emit_eq {shader reordered : Shader}
    (interleaves : shader.Interleaves reordered) (annotations : Annotations) :
    reordered.emit annotations = shader.emit annotations := by
  unfold Shader.emit
  rw [interleaves.generics, interleaves.structs, interleaves.members, interleaves.samplers,
    interleaves.methods]

/-! ## The theorem -/

namespace Shader

variable {shader reordered : Shader}

theorem Reorders.clean_of_clean (reorders : shader.Reorders reordered)
    (distinct : shader.nodes.Nodup)
    (plain : ∀ written ∈ shader.writtenTypes, isPlainName written.name = true)
    {before : SymbolTable} (named : before.NamesTypes)
    (clean : (shader.check before).reports = []) :
    (reordered.check before).reports = [] ∧
      (shader.check before).table.annotations.Agree (reordered.check before).table.annotations := by
  obtain ⟨after, passes, agree⟩ :=
    reorders.passes_check distinct plain named (Check.passes_of_reports clean)
  rw [passes]
  exact ⟨rfl, agree⟩

theorem Reorders.clean_iff (reorders : shader.Reorders reordered)
    (distinct : shader.nodes.Nodup)
    (plain : ∀ written ∈ shader.writtenTypes, isPlainName written.name = true)
    {before : SymbolTable} (named : before.NamesTypes) :
    (shader.check before).reports = [] ↔ (reordered.check before).reports = [] := by
  constructor
  · exact fun clean => (reorders.clean_of_clean distinct plain named clean).1
  · have distinct' := reorders.nodes_perm.nodup_iff.mp distinct
    have plain' : ∀ written ∈ reordered.writtenTypes, isPlainName written.name = true :=
      fun written member => plain written (reorders.writtenTypes_perm.mem_iff.mpr member)
    exact fun clean => (reorders.symm.clean_of_clean distinct' plain' named clean).1

theorem Interleaves.compile_eq_ok_of (interleaves : shader.Interleaves reordered)
    (agree : shader.analyse.2 = [] →
      shader.analyse.1.annotations.Agree reordered.analyse.1.annotations)
    (same : shader.analyse.2 = [] ↔ reordered.analyse.2 = [])
    (options : CompileOptions) (compiled : CompiledShader) :
    shader.compile options = .ok compiled ↔ reordered.compile options = .ok compiled := by
  by_cases clean : shader.analyse.2 = []
  · rw [Shader.compile_of_clean clean, Shader.compile_of_clean (same.mp clean),
      interleaves.emit_eq, Shader.emit_congr (agree clean).agreeOn]
  · rw [Shader.compile_of_reports clean,
      Shader.compile_of_reports fun clean' => clean (same.mpr clean')]
    exact iff_of_false nofun nofun

/-- The order in which a shader declares its elements does not matter, apart from its structs,
whatever shaders have been checked before it.  The names of written types must not contain a
bracket or a brace, which no name of letters, digits and underscores does. -/
theorem check_orderIndependent (earlier : List Shader)
    (distinct : shader.nodes.Nodup)
    (plain : ∀ written ∈ shader.writtenTypes, isPlainName written.name = true)
    (reorders : shader.Reorders reordered) :
    let before := (Check.forEach Shader.check earlier .empty).table
    ((shader.check before).reports = [] ↔ (reordered.check before).reports = []) ∧
    ((shader.check before).reports = [] → ∀ node,
      (shader.check before).table.annotations.type? node =
        (reordered.check before).table.annotations.type? node) ∧
    (shader.Interleaves reordered → ∀ options compiled,
      shader.compile options = .ok compiled ↔ reordered.compile options = .ok compiled) := by
  intro before
  have named : before.NamesTypes := Shader.namesTypes_of_forEach earlier
  refine ⟨reorders.clean_iff distinct plain named, fun clean => ?_, fun interleaves => ?_⟩
  · exact (reorders.clean_of_clean distinct plain named clean).2.types
  · refine interleaves.compile_eq_ok_of (fun clean => ?_)
      (reorders.clean_iff distinct plain SymbolTable.namesTypes_empty)
    exact (reorders.clean_of_clean distinct plain SymbolTable.namesTypes_empty clean).2

/-- A shader with two overloads, the first of which reads a member that may be declared later, and
with an attribute that reads another member. -/
def blending (arrange : List Element → List Element) : Shader where
  name := "Blending"
  generics := []
  elements := arrange [
    .method ⟨0, .unknown, .integer, "mix", [⟨1, .integer, "left", none, none⟩],
      some [.exit .unknown (some (.binary 2 .unknown .mul (.identifier 3 .unknown "left")
        (.identifier 4 .unknown "weight")))], none, none, []⟩,
    .sampler ⟨5, .unknown, .plain, "texels", [], []⟩,
    .method ⟨6, .unknown, ⟨"void", none, .unknown⟩, "mix",
      [⟨7, ⟨"Layer", none, .unknown⟩, "layer", none, none⟩], none, none, none, []⟩,
    .struct ⟨8, .unknown, "Layer", [⟨.integer, "depth"⟩]⟩,
    .member ⟨9, .unknown, .integer, "weight", none, none, .none, .none,
      [⟨"Below", [.identifier 10 .unknown "limit"]⟩]⟩,
    .member ⟨11, .unknown, .integer, "limit", some (.literal 12 .unknown (.int 8)), none, .none,
      .none, []⟩]

/-- The elements in the opposite order, behind another shader, and the methods behind the
members. -/
theorem blending_orderIndependent :
    (blending id).nodes.Nodup ∧
    (∀ written ∈ (blending id).writtenTypes, isPlainName written.name = true) ∧
    (∃ after, (blending List.reverse).check
        (Check.forEach Shader.check [scaling] .empty).table = ⟨(), after, []⟩ ∧
      ∀ node, ((blending id).check
        (Check.forEach Shader.check [scaling] .empty).table).table.annotations.type? node =
          after.annotations.type? node) ∧
    ∃ compiled, (blending id).compile .allNames = .ok compiled ∧
      (blending fun elements => elements.drop 3 ++ elements.take 3).compile .allNames =
        .ok compiled := by
  have distinct : (blending id).nodes.Nodup := by decide
  have plain : ∀ written ∈ (blending id).writtenTypes, isPlainName written.name = true := by decide
  refine ⟨distinct, plain, ?_, ?_⟩
  · have reorders : (blending id).Reorders (blending List.reverse) :=
      ⟨rfl, rfl, (List.reverse_perm _).symm, rfl⟩
    obtain ⟨sameReports, sameTypes, -⟩ :=
      check_orderIndependent [scaling] distinct plain reorders
    have clean : ((blending id).check
        (Check.forEach Shader.check [scaling] .empty).table).reports = [] := by
      decide +kernel
    exact ⟨_, Check.passes_of_reports (sameReports.mp clean), sameTypes clean⟩
  · have rotates : ((blending id).elements.take 3 ++ (blending id).elements.drop 3).Perm
        ((blending id).elements.drop 3 ++ (blending id).elements.take 3) :=
      List.perm_append_comm
    have interleaves : (blending id).Interleaves
        (blending fun elements => elements.drop 3 ++ elements.take 3) :=
      ⟨⟨rfl, rfl, rotates, rfl⟩, rfl, rfl, rfl, rfl⟩
    obtain ⟨-, -, sameModules⟩ :=
      check_orderIndependent [] distinct plain interleaves.toReorders
    have compiles : ((blending id).compile .allNames).toOption.any (fun _ => true) = true := by
      decide +kernel
    obtain ⟨compiled, compilesTo, -⟩ := Shader.exists_compiled compiles
    exact ⟨compiled, compilesTo, (sameModules interleaves _ compiled).mp compilesTo⟩

end Shader

end ShaderLang
