import ShaderLang.Proofs.DeclarationOrder
import ShaderLang.Proofs.LocalChecks

/-!
# Bodies are checked independently

A check of a shader reports on its declarations, then on the arguments of its attributes, and then
on one body after the other.  All bodies are checked against one symbol table, but no body changes
what another one reads.  So the reports on a body stay the same if the other bodies and the
attributes are taken out of the shader.
-/

namespace ShaderLang

variable {α : Type}

/-! ## The phases of a check -/

namespace Shader

/-- Opens a frame and declares the elements of a shader: all that is checked in front of attributes
and bodies. -/
def declare (shader : Shader) : Check Unit := do
  Check.update SymbolTable.push
  let components ← shader.checkDeclarations
  Check.update fun table => table.setShader ⟨shader.name, components⟩

theorem check_eq (shader : Shader) :
    shader.check = (do
      shader.declare
      Check.forEach checkArgument shader.attributeArguments
      Check.forEach Method.checkBody shader.methods) := by
  unfold check declare
  simp

end Shader

/-! ## What declarations do not look at -/

/-- The method without its attributes and its body. -/
def Method.bare (method : Method) : Method :=
  { method with attributes := [], body := none }

/-- The element without its attributes and its body. -/
def Element.bare : Element → Element
  | member element => .member { element with attributes := [] }
  | method element => .method element.bare
  | struct element => .struct element
  | sampler element => .sampler { element with attributes := [] }
  | composition element => .composition { element with attributes := [] }

namespace Shader

/-- The shader with each element changed. -/
def mapElements (change : Element → Element) (shader : Shader) : Shader :=
  { shader with elements := shader.elements.map change }

/-- The elements of one kind in a shader whose elements are changed. -/
theorem filterMap_changed {select : Element → Option α} {change : Element → Element}
    {changed : α → α} (kept : ∀ element, select (change element) = (select element).map changed)
    (elements : List Element) :
    (elements.map change).filterMap select = (elements.filterMap select).map changed := by
  rw [List.filterMap_map, List.map_filterMap]
  exact List.filterMap_congr fun element _ => kept element

theorem checkDeclarations_bare (shader : Shader) :
    (shader.mapElements Element.bare).checkDeclarations = shader.checkDeclarations := by
  have structs : (shader.mapElements Element.bare).structs = shader.structs.map id :=
    filterMap_changed (fun element => by cases element <;> rfl) shader.elements
  have members : (shader.mapElements Element.bare).members =
      shader.members.map fun member => { member with attributes := [] } :=
    filterMap_changed (fun element => by cases element <;> rfl) shader.elements
  have samplers : (shader.mapElements Element.bare).samplers =
      shader.samplers.map fun sampler => { sampler with attributes := [] } :=
    filterMap_changed (fun element => by cases element <;> rfl) shader.elements
  have compositions : (shader.mapElements Element.bare).compositions =
      shader.compositions.map fun composition => { composition with attributes := [] } :=
    filterMap_changed (fun element => by cases element <;> rfl) shader.elements
  have methods : (shader.mapElements Element.bare).methods = shader.methods.map Method.bare :=
    filterMap_changed (fun element => by cases element <;> rfl) shader.elements
  unfold checkDeclarations
  rw [structs, members, samplers, compositions, methods, Check.collect_map, Check.collect_map,
    Check.collect_map, Check.collect_map, Check.collect_map]
  rfl

/-- Shaders that differ in attributes and bodies only have the same declarations. -/
theorem declare_mapElements {change : Element → Element}
    (kept : ∀ element, (change element).bare = element.bare) (shader : Shader) :
    (shader.mapElements change).declare = shader.declare := by
  have same : (shader.mapElements change).mapElements Element.bare =
      shader.mapElements Element.bare := by
    unfold mapElements
    simp [kept]
  unfold declare
  rw [← checkDeclarations_bare (shader.mapElements change), same, checkDeclarations_bare]
  rfl

end Shader

/-! ## Passes of independent checks -/

namespace Check

variable {check : α → Check Unit} {items : List α} {reads : NodeId → Prop} {writes : List NodeId}
  {base table : SymbolTable}

/-- The reports of each check of a pass, item by item. -/
def reportsOfEach (check : α → Check Unit) : List α → SymbolTable → List (List Diagnostic)
  | [], _ => []
  | item :: rest, table =>
      (check item table).reports :: reportsOfEach check rest (check item table).table

theorem reports_forEach (check : α → Check Unit) (items : List α) (table : SymbolTable) :
    (forEach check items table).reports = (reportsOfEach check items table).flatten := by
  induction items generalizing table with
  | nil => rfl
  | cons item rest inductionHypothesis =>
      unfold forEach reportsOfEach
      rw [bind_apply, List.flatten_cons, inductionHypothesis]

/-- A check that adds types of nodes which are not read reports what it reports on an earlier table,
and so do the checks behind it. -/
theorem OnlyNotes.alike {check : Check Unit} (onlyNotes : check.OnlyNotes reads writes)
    (unread : ∀ node ∈ writes, ¬reads node)
    (alike : base.Alike reads table) :
    (check table).reports = (check base).reports ∧ base.Alike reads (check table).table := by
  obtain ⟨notes, reports, within, -, onBase, onTable⟩ := onlyNotes base table alike
  rw [onBase, onTable]
  exact ⟨rfl, alike.noted_right fun note noted => unread _ (within note noted)⟩

theorem alike_forEach (each : ∀ item ∈ items, (check item).OnlyNotes reads writes)
    (unread : ∀ node ∈ writes, ¬reads node)
    (alike : base.Alike reads table) :
    base.Alike reads (forEach check items table).table := by
  induction items generalizing table with
  | nil => exact alike
  | cons item rest inductionHypothesis =>
      obtain ⟨itemOnly, restOnly⟩ := List.forall_mem_cons.mp each
      exact inductionHypothesis restOnly (itemOnly.alike unread alike).2

/-- Each check of a pass reports what it reports on the table that the pass starts with. -/
theorem reportsOfEach_eq_map (each : ∀ item ∈ items, (check item).OnlyNotes reads writes)
    (unread : ∀ node ∈ writes, ¬reads node)
    (alike : base.Alike reads table) :
    reportsOfEach check items table = items.map fun item => (check item base).reports := by
  induction items generalizing table with
  | nil => rfl
  | cons item rest inductionHypothesis =>
      obtain ⟨itemOnly, restOnly⟩ := List.forall_mem_cons.mp each
      obtain ⟨sameReports, alikeAfter⟩ := itemOnly.alike unread alike
      unfold reportsOfEach
      rw [List.map_cons, sameReports, inductionHypothesis restOnly alikeAfter]

end Check

/-! ## Shaders with one body -/

/-- The method without attributes, and without its body unless it has the given node. -/
def Method.isolate (node : NodeId) (method : Method) : Method :=
  { method with attributes := [], body := if method.node = node then method.body else none }

/-- The element without attributes, and without its body unless it has the given node. -/
def Element.isolate (node : NodeId) : Element → Element
  | method element => .method (element.isolate node)
  | other => other.bare

namespace Shader

/-- The shader without attributes and without all bodies but that of the method with the given
node. -/
def isolate (shader : Shader) (node : NodeId) : Shader :=
  shader.mapElements (Element.isolate node)

/-- The reports on each body, method by method, in the course of a check. -/
def bodyReports (shader : Shader) (table : SymbolTable) : List (List Diagnostic) :=
  let declared := (shader.declare table).table
  Check.reportsOfEach Method.checkBody shader.methods
    (Check.forEach checkArgument shader.attributeArguments declared).table

variable {shader : Shader}

theorem declare_isolate (shader : Shader) (node : NodeId) :
    (shader.isolate node).declare = shader.declare :=
  declare_mapElements (fun element => by cases element <;> rfl) shader

theorem methods_isolate (shader : Shader) (node : NodeId) :
    (shader.isolate node).methods = shader.methods.map (Method.isolate node) :=
  filterMap_changed (fun element => by cases element <;> rfl) shader.elements

theorem attributeArguments_isolate (shader : Shader) (node : NodeId) :
    (shader.isolate node).attributeArguments = [] := by
  unfold attributeArguments isolate mapElements
  rw [List.flatMap_eq_nil_iff]
  intro element member
  obtain ⟨original, -, rfl⟩ := List.mem_map.mp member
  cases original <;> rfl

theorem nodes_isolate_subperm (shader : Shader) (node : NodeId) :
    (shader.isolate node).nodes.Subperm shader.nodes := by
  unfold nodes isolate mapElements
  rw [List.flatMap_map]
  refine List.Subperm.append (List.Subperm.refl _) (flatMap_subperm fun element _ => ?_)
  have bare : ∀ own : List NodeId, ∀ attributes : List Attribute,
      (own ++ Attribute.allNodes []).Subperm (own ++ Attribute.allNodes attributes) :=
    fun own attributes => List.Subperm.append (List.Subperm.refl _) (List.nil_subperm)
  cases element with
  | method element =>
      refine List.Subperm.append ?_ List.nil_subperm
      refine (List.subperm_cons _).mpr (List.Subperm.append (List.Subperm.refl _) ?_)
      unfold Method.bodyNodes Method.isolate
      dsimp only
      split
      · exact List.Subperm.refl _
      · exact List.nil_subperm
  | struct element => exact List.Subperm.refl _
  | member element | sampler element | composition element => exact bare _ _

theorem unread_arguments (distinct : shader.visited.Nodup) :
    ∀ node ∈ shader.attributeArguments.flatMap Expression.nodes, ¬node ∈ shader.headings := by
  intro node annotated heading
  exact List.disjoint_of_nodup_append distinct.of_append_left
    (List.mem_append_right _ heading) annotated

theorem unread_bodies (distinct : shader.visited.Nodup) :
    ∀ node ∈ shader.methods.flatMap Method.bodyNodes, ¬node ∈ shader.headings := by
  intro node annotated heading
  exact List.disjoint_of_nodup_append distinct
    (List.mem_append_left _ (List.mem_append_right _ heading)) annotated

theorem onlyNotes_arguments (reads : NodeId → Prop) :
    ∀ argument ∈ shader.attributeArguments, (checkArgument argument).OnlyNotes reads
      (shader.attributeArguments.flatMap Expression.nodes) :=
  fun _ member => onlyNotes_checkArgument fun _ own => List.mem_flatMap_of_mem member own

theorem onlyNotes_bodies :
    ∀ method ∈ shader.methods, method.checkBody.OnlyNotes (· ∈ shader.headings)
      (shader.methods.flatMap Method.bodyNodes) :=
  fun _ member => Method.onlyNotes_checkBody
    (fun _ heading => List.mem_flatMap_of_mem member heading)
    fun _ own => List.mem_flatMap_of_mem member own

/-- An argument of an attribute is typed as if it were the only one. -/
theorem reports_arguments (shader : Shader) (table : SymbolTable) :
    (Check.forEach checkArgument shader.attributeArguments table).reports =
      shader.attributeArguments.flatMap fun argument => (argument.typing table none).reports := by
  have onItsOwn : ∀ argument, (checkArgument argument table).reports =
      (argument.typing table none).reports := fun argument => List.append_nil _
  rw [Check.reports_forEach, Check.reportsOfEach_eq_map (onlyNotes_arguments fun _ => False)
    (fun _ _ => not_false) (.refl table), List.flatMap_def]
  simp only [onItsOwn]

/-- A body is checked as if it were the only one, and there were no attributes. -/
theorem bodyReports_eq (distinct : shader.nodes.Nodup) (table : SymbolTable) :
    shader.bodyReports table =
      shader.methods.map fun method => (method.checkBody (shader.declare table).table).reports := by
  have visitedOnce := nodup_of_subperm shader.visited_subperm distinct
  exact Check.reportsOfEach_eq_map onlyNotes_bodies (unread_bodies visitedOnce)
    (Check.alike_forEach (onlyNotes_arguments _) (unread_arguments visitedOnce) (.refl _))

theorem check_reports (shader : Shader) (table : SymbolTable) :
    (shader.check table).reports =
      (shader.declare table).reports ++
        (shader.attributeArguments.flatMap fun argument =>
          (argument.typing (shader.declare table).table none).reports) ++
        (shader.bodyReports table).flatten := by
  rw [check_eq, Check.bind_apply, Check.bind_apply, reports_arguments, Check.reports_forEach,
    List.append_assoc]
  rfl

theorem nodup_methods (distinct : shader.nodes.Nodup) :
    (shader.methods.map Method.node).Nodup := by
  have visitedOnce := nodup_of_subperm shader.visited_subperm distinct
  have headingsOnce : shader.headings.Nodup :=
    visitedOnce.of_append_left.of_append_left.of_append_right
  refine nodup_of_subperm ?_ headingsOnce
  rw [List.map_eq_flatMap]
  exact flatMap_subperm fun method _ => (List.sublist_append_right _ _).subperm

theorem checkBody_isolate (method : Method) :
    (method.isolate method.node).checkBody = method.checkBody := by
  unfold Method.checkBody Method.isolate
  rw [if_pos rfl]
  rfl

/-- Without the other bodies, only one method has reports on its body. -/
theorem flatten_bodyReports_isolate (distinct : shader.nodes.Nodup) (table : SymbolTable)
    {method : Method} (member : method ∈ shader.methods) :
    ((shader.isolate method.node).bodyReports table).flatten =
      (method.checkBody (shader.declare table).table).reports := by
  have isolatedOnce := nodup_of_subperm (shader.nodes_isolate_subperm method.node) distinct
  rw [bodyReports_eq isolatedOnce, declare_isolate, methods_isolate, List.map_map,
    ← List.flatMap_def, Function.comp_def]
  obtain ⟨before, after, split⟩ := List.append_of_mem member
  have once := nodup_methods distinct
  rw [split, List.map_append, List.map_cons, List.nodup_middle, List.nodup_cons] at once
  have silent : ∀ other ∈ before ++ after,
      ((other.isolate method.node).checkBody (shader.declare table).table).reports = [] := by
    intro other present
    have different : other.node ≠ method.node := by
      intro same
      refine once.1 ?_
      rw [← same, ← List.map_append]
      exact List.mem_map_of_mem present
    unfold Method.checkBody Method.isolate
    rw [if_neg different]
    rfl
  obtain ⟨beforeSilent, afterSilent⟩ := List.forall_mem_append.mp silent
  rw [split, List.flatMap_append, List.flatMap_cons, List.flatMap_eq_nil_iff.mpr beforeSilent,
    List.flatMap_eq_nil_iff.mpr afterSilent, List.nil_append, List.append_nil]
  rw [checkBody_isolate]

/-- A check reports on the declarations, then on the arguments of attributes, then on each body.
What it reports on a body is also all that it reports, apart from the declarations, if every other
body and all attributes are taken out of the shader. -/
theorem check_reportsByBody (distinct : shader.nodes.Nodup) (table : SymbolTable) :
    (shader.check table).reports =
      (shader.declare table).reports ++
        (shader.attributeArguments.flatMap fun argument =>
          (argument.typing (shader.declare table).table none).reports) ++
        (shader.bodyReports table).flatten ∧
    (shader.bodyReports table).length = shader.methods.length ∧
    ∀ (index : Nat) (method : Method), shader.methods[index]? = some method → ∃ reports,
      (shader.bodyReports table)[index]? = some reports ∧
      ((shader.isolate method.node).bodyReports table)[index]? = some reports ∧
      ((shader.isolate method.node).check table).reports =
        (shader.declare table).reports ++ reports := by
  refine ⟨shader.check_reports table, ?_, fun index method found => ?_⟩
  · rw [bodyReports_eq distinct, List.length_map]
  · have isolatedOnce := nodup_of_subperm (shader.nodes_isolate_subperm method.node) distinct
    refine ⟨(method.checkBody (shader.declare table).table).reports, ?_, ?_, ?_⟩
    · rw [bodyReports_eq distinct, List.getElem?_map, found, Option.map_some]
    · rw [bodyReports_eq isolatedOnce, declare_isolate, methods_isolate, List.map_map,
        List.getElem?_map, found, Option.map_some, Function.comp_apply, checkBody_isolate]
    · rw [check_reports, declare_isolate, attributeArguments_isolate,
        flatten_bodyReports_isolate distinct table (List.mem_of_getElem? found),
        List.flatMap_nil, List.append_nil]

/-- A shader with faults in an attribute and in two bodies.  The second body uses the names of the
first one. -/
def faulty : Shader where
  name := "Faulty"
  generics := []
  elements := [
    .member ⟨0, .unknown, ⟨"colour", none, .unknown⟩, "tint", none, none, .none, .none,
      [⟨"Range", [.identifier 1 .unknown "sum"]⟩]⟩,
    .method ⟨2, .unknown, .integer, "first", [⟨3, .integer, "step", none, none⟩],
      some [
        .block .unknown [.declare 4 .unknown .integer "sum" (some (.identifier 5 .unknown "step"))],
        .assign .unknown (.identifier 6 .unknown "sum") (.identifier 7 .unknown "tint")],
      none, none, []⟩,
    .method ⟨8, .unknown, .integer, "second", [],
      some [
        .declare 9 .unknown ⟨"bool", none, .unknown⟩ "step" (some (.identifier 10 .unknown "sum")),
        .exit .unknown (some (.identifier 11 .unknown "step"))],
      none, none, []⟩]

theorem faulty_reportsByBody :
    faulty.nodes.Nodup ∧
    (faulty.check .empty).reports =
      [.unresolvedType "colour" .unknown, .undefinedVariable "sum" .unknown,
        .undefinedVariable "sum" .unknown, .missingReturn "first" .unknown,
        .undefinedVariable "sum" .unknown,
        .typeMismatch (.scalar .int) (.scalar .bool) .unknown] ∧
    ∃ reports, (faulty.bodyReports .empty)[1]? = some reports ∧
      ((faulty.isolate 8).bodyReports .empty)[1]? = some reports ∧
      ((faulty.isolate 8).check .empty).reports = (faulty.declare .empty).reports ++ reports := by
  have distinct : faulty.nodes.Nodup := by decide
  obtain ⟨method, found, atNode⟩ :
      ∃ method, faulty.methods[1]? = some method ∧ method.node = 8 := ⟨_, rfl, rfl⟩
  have isolated := (check_reportsByBody distinct .empty).2.2 1 method found
  rw [atNode] at isolated
  exact ⟨distinct, by decide +kernel, isolated⟩

end Shader

end ShaderLang
