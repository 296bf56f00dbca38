import ShaderLang.Proofs.BodyIndependence
import ShaderLang.Proofs.BodySimulation
import ShaderLang.Proofs.EmissionProgress

/-!
# Dead code

Statements behind a return are checked and annotated, but nothing is emitted for them.  So they can
be taken out of a shader: if there is no report about the shader, then there is none without them,
and it compiles to the same module.
-/

namespace ShaderLang

variable {α : Type}

/-! ## Shaders without dead code -/

namespace Statement

mutual

/-- The statement without what is never reached inside of it. -/
def prune : Statement → Statement
  | block location body => .block location (pruneAll body)
  | other => other

/-- The statements that are reached: those up to the first one that stops. -/
def pruneAll : List Statement → List Statement
  | [] => []
  | statement :: rest =>
      if statement.stops then [statement.prune] else statement :: pruneAll rest

end

mutual

/-- The ids in what is never reached inside of a statement. -/
def deadNodes : Statement → List NodeId
  | block _ body => allDeadNodes body
  | _ => []

/-- The ids in the statements that are never reached. -/
def allDeadNodes : List Statement → List NodeId
  | [] => []
  | statement :: rest =>
      if statement.stops then statement.deadNodes ++ allNodes rest else allDeadNodes rest

end

end Statement

/-- The method without dead code. -/
def Method.prune (method : Method) : Method :=
  { method with body := method.body.map Statement.pruneAll }

/-- The ids in the dead code of a method. -/
def Method.deadNodes (method : Method) : List NodeId :=
  method.body.elim [] Statement.allDeadNodes

/-- The element without dead code. -/
def Element.prune : Element → Element
  | method element => .method element.prune
  | other => other

/-- The ids in the dead code of an element. -/
def Element.deadNodes : Element → List NodeId
  | method element => element.deadNodes
  | _ => []

/-- The shader without dead code. -/
def Shader.prune (shader : Shader) : Shader :=
  shader.mapElements Element.prune

/-- The ids in the dead code of a shader. -/
def Shader.deadNodes (shader : Shader) : List NodeId :=
  shader.elements.flatMap Element.deadNodes

/-! ## What is left and what is dropped -/

namespace Statement

mutual

theorem returns_prune : ∀ {statement : Statement}, statement.stops = true →
    statement.prune.returns = true
  | .exit .., _ => rfl
  | .block .., stopped => endsWithReturn_pruneAll stopped
  | .declare .., stopped | .assign .., stopped | .evaluate .., stopped => by cases stopped

/-- Without dead code, statements that stop end in a return. -/
theorem endsWithReturn_pruneAll : ∀ {body : List Statement}, anyStops body = true →
    endsWithReturn (pruneAll body) = true
  | [], stopped => by cases stopped
  | statement :: rest, stopped => by
      unfold pruneAll
      cases stops : statement.stops with
      | true => exact returns_prune stops
      | false =>
          unfold anyStops at stopped
          rw [stops, Bool.false_or] at stopped
          have ends := endsWithReturn_pruneAll stopped
          rw [if_neg Bool.false_ne_true, endsWithReturn]
          split
          · next isEmpty =>
              rw [List.isEmpty_iff.mp isEmpty] at ends
              cases ends
          · exact ends

end

mutual

theorem nodes_perm : ∀ statement : Statement,
    statement.nodes.Perm (statement.prune.nodes ++ statement.deadNodes)
  | .block _ body => allNodes_perm body
  | .declare .. | .assign .. | .evaluate .. | .exit .. => .of_eq (List.append_nil _).symm

theorem allNodes_perm : ∀ body : List Statement,
    (allNodes body).Perm (allNodes (pruneAll body) ++ allDeadNodes body)
  | [] => .refl _
  | statement :: rest => by
      unfold pruneAll allDeadNodes
      split
      · have kept : (allNodes [statement.prune]) = statement.prune.nodes := List.append_nil _
        rw [kept, ← List.append_assoc]
        exact (nodes_perm statement).append_right _
      · rw [allNodes, allNodes, List.append_assoc]
        exact (allNodes_perm rest).append_left _

end

end Statement

namespace Shader

theorem methods_prune (shader : Shader) :
    shader.prune.methods = shader.methods.map Method.prune :=
  filterMap_changed (fun element => by cases element <;> rfl) shader.elements

theorem declare_prune (shader : Shader) : shader.prune.declare = shader.declare :=
  declare_mapElements (fun element => by cases element <;> rfl) shader

theorem attributeArguments_prune (shader : Shader) :
    shader.prune.attributeArguments = shader.attributeArguments := by
  unfold attributeArguments prune mapElements
  rw [List.flatMap_map]
  exact List.flatMap_congr fun element _ => by cases element <;> rfl

theorem nodes_perm_prune (shader : Shader) :
    shader.nodes.Perm (shader.prune.nodes ++ shader.deadNodes) := by
  have ofElement : ∀ element : Element,
      element.nodes.Perm (element.prune.nodes ++ element.deadNodes) := by
    intro element
    cases element with
    | method method =>
        have inBody : method.bodyNodes.Perm (method.prune.bodyNodes ++ method.deadNodes) := by
          unfold Method.bodyNodes Method.deadNodes Method.prune
          cases method.body with
          | none => exact .refl _
          | some body => exact Statement.allNodes_perm body
        rw [List.perm_iff_count] at inBody ⊢
        intro node
        have counted := inBody node
        simp only [Element.nodes, Element.ownNodes, Element.prune, Element.deadNodes,
          Element.attributes, Method.prune, List.count_append, List.count_cons] at counted ⊢
        omega
    | member element | struct element | sampler element | composition element =>
        exact .of_eq (List.append_nil _).symm
  unfold nodes deadNodes prune mapElements
  rw [List.flatMap_map, List.append_assoc]
  refine List.Perm.append_left _ ?_
  refine List.Perm.trans ?_ (List.flatMap_append_perm _ _ _).symm
  exact List.Perm.flatMap_left _ fun element _ => ofElement element

end Shader

/-! ## Checks of dead code -/

namespace Effect

theorem Within.mono {effect : Effect α} {part whole : List NodeId} (within : effect.Within part)
    (subset : part ⊆ whole) :
    effect.Within whole :=
  ⟨fun note noted => subset (within.notes note noted), within.reports⟩

/-- The effect of a check in a frame of its own, inside of another frame. -/
def closed (effect : Effect Unit) (frame : Frame) : Effect Unit :=
  ⟨(), frame, effect.notes, effect.reports⟩

theorem andThen_assoc (first second third : Effect Unit) :
    (first.andThen second).andThen third = first.andThen (second.andThen third) := by
  simp [andThen]

end Effect

namespace Check

variable {full part check : Check Unit} {dropped more : List NodeId}

/-- Inside of a frame, the first check does what the second one does, and then something that leaves
types of the dropped nodes. -/
def Cuts (full part : Check Unit) (dropped : List NodeId) : Prop :=
  ∀ table frame outer, table.frames = frame :: outer → ∃ kept lost : Effect Unit,
    lost.Within dropped ∧ part table = kept.on table outer ∧
      full table = (kept.andThen lost).on table outer

/-- Inside of a frame, a check with an effect. -/
theorem Confined.effect {writes : List NodeId} (confined : check.Confined (fun _ => True) writes)
    {table : SymbolTable} {frame : Frame} {outer : List Frame}
    (opened : table.frames = frame :: outer) :
    ∃ effect : Effect Unit, effect.Within writes ∧ check table = effect.on table outer := by
  obtain ⟨effect, within, same, -⟩ := confined table table frame outer (.refl table) opened
  exact ⟨effect, within, same⟩

theorem on_then {first second : Check Unit} {effect : Effect Unit} {table : SymbolTable}
    {outer : List Frame} {later : Effect Unit}
    (firstDoes : first table = effect.on table outer)
    (secondDoes : second (table.framed (effect.frame :: outer) effect.notes) =
      later.on (table.framed (effect.frame :: outer) effect.notes) outer) :
    (first >>= fun _ => second) table = (effect.andThen later).on table outer := by
  rw [bind_apply, firstDoes]
  unfold Effect.on at secondDoes ⊢
  rw [secondDoes, SymbolTable.framed_framed]
  rfl

theorem Confined.cuts {writes : List NodeId} (confined : check.Confined (fun _ => True) writes) :
    check.Cuts check [] := by
  intro table frame outer opened
  obtain ⟨effect, -, does⟩ := confined.effect opened
  refine ⟨effect, ⟨(), effect.frame, [], []⟩, ⟨List.forall_mem_nil _, List.forall_mem_nil _⟩, does,
    ?_⟩
  rw [does]
  simp [Effect.andThen]

theorem Confined.bind_cuts {writes : List NodeId}
    (confined : check.Confined (fun _ => True) writes)
    (cuts : full.Cuts part dropped) :
    (check >>= fun _ => full).Cuts (check >>= fun _ => part) dropped := by
  intro table frame outer opened
  obtain ⟨effect, -, does⟩ := confined.effect opened
  obtain ⟨kept, lost, within, partDoes, fullDoes⟩ :=
    cuts (table.framed (effect.frame :: outer) effect.notes) effect.frame outer rfl
  refine ⟨effect.andThen kept, lost, within, on_then does partDoes, ?_⟩
  rw [Effect.andThen_assoc]
  exact on_then does fullDoes

theorem Cuts.bind_dropped (cuts : full.Cuts part dropped)
    (confined : check.Confined (fun _ => True) more) :
    (full >>= fun _ => check).Cuts part (dropped ++ more) := by
  intro table frame outer opened
  obtain ⟨kept, lost, within, partDoes, fullDoes⟩ := cuts table frame outer opened
  have behind : (table.framed (lost.frame :: outer) (lost.notes ++ kept.notes)).frames =
      lost.frame :: outer := rfl
  obtain ⟨effect, effectWithin, does⟩ := confined.effect behind
  refine ⟨kept, lost.andThen effect, (within.mono (List.subset_append_left _ _)).andThen
    (effectWithin.mono (List.subset_append_right _ _)), partDoes, ?_⟩
  rw [← Effect.andThen_assoc]
  exact on_then fullDoes does

theorem inFrame_of_on {effect : Effect Unit} {table : SymbolTable} {frame : Frame}
    {outer : List Frame} (opened : table.frames = frame :: outer)
    (does : check table.push = effect.on table.push table.frames) :
    inFrame check table = (effect.closed frame).on table outer := by
  unfold inFrame Effect.on Effect.closed SymbolTable.framed
  rw [does, ← opened]
  rfl

theorem inFrame_report {effect : Effect Unit} {table : SymbolTable}
    (does : check table.push = effect.on table.push table.frames)
    (diagnostics : List Diagnostic) :
    inFrame (check >>= fun _ => report diagnostics) table =
      ⟨(), table.noted effect.notes, effect.reports ++ diagnostics⟩ := by
  unfold inFrame
  rw [bind_apply, does]
  rfl

theorem Cuts.inFrame (cuts : full.Cuts part dropped) :
    (inFrame full).Cuts (inFrame part) dropped := by
  intro table frame outer opened
  obtain ⟨kept, lost, within, partDoes, fullDoes⟩ := cuts table.push .empty table.frames rfl
  exact ⟨kept.closed frame, lost.closed frame, ⟨within.notes, within.reports⟩,
    inFrame_of_on opened partDoes, inFrame_of_on opened fullDoes⟩

end Check

mutual

theorem Statement.cuts_check (context : BodyContext) : ∀ statement : Statement,
    (statement.check context).Cuts (statement.prune.check context) statement.deadNodes
  | .block _ body => (Statement.cuts_checkAll context body).inFrame
  | .declare .. | .assign .. | .evaluate .. | .exit .. =>
      (Statement.confined_check context _ (List.Subset.refl _)).cuts

theorem Statement.cuts_checkAll (context : BodyContext) : ∀ body : List Statement,
    (Statement.checkAll context body).Cuts (Statement.checkAll context (Statement.pruneAll body))
      (Statement.allDeadNodes body)
  | [] => (Check.confined_pure () : Check.Confined _ _ []).cuts
  | statement :: rest => by
      unfold Statement.pruneAll Statement.allDeadNodes
      cases stops : statement.stops with
      | true =>
          have restConfined : (Statement.checkAll context rest).Confined (fun _ => True) _ :=
            Statement.confined_checkAll context rest (List.Subset.refl _)
          have onlyFirst : Statement.checkAll context [statement.prune] =
              statement.prune.check context := bind_pure_unit
          rw [if_pos rfl, if_pos rfl, onlyFirst]
          exact (Statement.cuts_check context statement).bind_dropped restConfined
      | false =>
          have confined : (statement.check context).Confined (fun _ => True) _ :=
            Statement.confined_check context statement (List.Subset.refl _)
          rw [if_neg Bool.false_ne_true, if_neg Bool.false_ne_true]
          exact confined.bind_cuts (Statement.cuts_checkAll context rest)

end

theorem Method.missingReturnReports_prune {method : Method} {returned : ShaderType}
    {body : List Statement}
    (clean : method.missingReturnReports returned body = []) :
    method.prune.missingReturnReports returned (Statement.pruneAll body) = [] := by
  unfold Method.missingReturnReports at clean ⊢
  split at clean
  · next ends =>
      refine if_pos ?_
      rw [Bool.or_eq_true] at ends ⊢
      exact ends.imp_right fun returns =>
        Statement.endsWithReturn_pruneAll (Statement.anyStops_of_endsWithReturn body returns)
  · cases clean

/-- If the first check has no report, then the second one has none either, and it leaves what the
first one does but for types of the dropped nodes. -/
def Check.Trims (full part : Check Unit) (dropped : List NodeId) : Prop :=
  ∀ table, (full table).reports = [] → (part table).reports = [] ∧
    ∃ notes, (∀ note ∈ notes, note.1 ∈ dropped) ∧
      (full table).table = (part table).table.noted notes

theorem Method.trims_checkBody (method : Method) :
    method.checkBody.Trims method.prune.checkBody method.deadNodes := by
  intro table clean
  cases present : method.body with
  | none =>
      have unchanged : method.prune = method := by
        unfold Method.prune
        rw [present, Option.map_none, ← present]
      rw [unchanged]
      exact ⟨clean, [], List.forall_mem_nil _, rfl⟩
  | some body =>
      have prunedBody : method.prune.body = some (Statement.pruneAll body) :=
        congrArg (Option.map Statement.pruneAll) present
      have dead : method.deadNodes = Statement.allDeadNodes body := by
        unfold Method.deadNodes
        rw [present]
        rfl
      have parameters : (Check.forEach Parameter.bind method.parameters).Confined
          (fun _ => True) [] :=
        Check.confined_forEach fun parameter _ => Parameter.confined_bind trivial
      obtain ⟨kept, lost, within, partDoes, fullDoes⟩ :=
        (parameters.bind_cuts (Statement.cuts_checkAll (method.context table) body))
          table.push .empty table.frames rfl
      have full : method.checkBody table = ⟨(), table.noted (lost.notes ++ kept.notes),
          (kept.reports ++ lost.reports) ++
            method.missingReturnReports (method.context table).returned body⟩ := by
        rw [Method.checkBody_of_body present, Method.checkInside, ← bind_assoc]
        exact Check.inFrame_report fullDoes _
      have part : method.prune.checkBody table = ⟨(), table.noted kept.notes,
          kept.reports ++ method.prune.missingReturnReports (method.context table).returned
            (Statement.pruneAll body)⟩ := by
        rw [Method.checkBody_of_body prunedBody, Method.checkInside, ← bind_assoc]
        exact Check.inFrame_report partDoes _
      rw [full, List.append_eq_nil_iff, List.append_eq_nil_iff] at clean
      obtain ⟨⟨keptClean, -⟩, returns⟩ := clean
      rw [full, part, dead, keptClean, Method.missingReturnReports_prune returns]
      exact ⟨rfl, lost.notes, within.notes, (SymbolTable.noted_noted _ _ _).symm⟩

namespace Check

variable {full part : α → Check Unit} {items : List α} {reads : NodeId → Prop}
  {dropped writes : List NodeId}

theorem forEach_map {β : Type} (check : β → Check Unit) (change : α → β) (items : List α) :
    forEach check (items.map change) = forEach (fun item => check (change item)) items := by
  induction items with
  | nil => rfl
  | cons item rest inductionHypothesis => simp [forEach, inductionHypothesis]

/-- A pass of trimmed checks, side by side with the pass of the full ones. -/
theorem alike_forEach_trims (trims : ∀ item ∈ items, (full item).Trims (part item) dropped)
    (only : ∀ item ∈ items, (part item).OnlyNotes reads writes)
    (unread : ∀ node ∈ dropped, ¬reads node)
    {table table' : SymbolTable} (alike : table'.Alike reads table)
    (clean : (forEach full items table).reports = []) :
    (forEach part items table').reports = [] ∧
      (forEach part items table').table.Alike reads (forEach full items table).table := by
  induction items generalizing table table' with
  | nil => exact ⟨rfl, alike⟩
  | cons item rest inductionHypothesis =>
      obtain ⟨itemTrims, restTrims⟩ := List.forall_mem_cons.mp trims
      obtain ⟨itemOnly, restOnly⟩ := List.forall_mem_cons.mp only
      unfold forEach at clean ⊢
      rw [bind_apply] at clean ⊢
      obtain ⟨itemClean, restClean⟩ := List.append_eq_nil_iff.mp clean
      obtain ⟨partClean, lost, within, trimmed⟩ := itemTrims table itemClean
      obtain ⟨notes, reports, -, -, onPart, onFull⟩ := itemOnly table' table alike
      rw [onFull] at partClean trimmed
      have alikeAfter : (part item table').table.Alike reads (full item table).table := by
        rw [onPart, trimmed]
        exact (alike.noted notes).noted_right fun note noted => unread _ (within note noted)
      obtain ⟨partRestClean, alikeLast⟩ :=
        inductionHypothesis restTrims restOnly alikeAfter restClean
      have partItemClean : (part item table').reports = [] := by
        rw [onPart]
        exact partClean
      exact ⟨List.append_eq_nil_iff.mpr ⟨partItemClean, partRestClean⟩, alikeLast⟩

end Check

namespace Shader

variable {shader : Shader}

theorem unread_deadNodes (distinct : shader.nodes.Nodup) :
    ∀ node ∈ shader.deadNodes, ¬node ∈ shader.prune.nodes := by
  intro node dead alive
  have parted := shader.nodes_perm_prune.nodup_iff.mp distinct
  exact List.disjoint_of_nodup_append parted alive dead

/-- A body without dead code reads nodes that are left. -/
theorem onlyNotes_prunedBodies : ∀ method ∈ shader.methods,
    method.prune.checkBody.OnlyNotes (· ∈ shader.prune.nodes)
      (shader.methods.flatMap fun method => method.prune.bodyNodes) := by
  intro method member
  refine Method.onlyNotes_checkBody (fun node visited => ?_)
    fun _ own => List.mem_flatMap_of_mem member own
  have present : method.prune ∈ shader.prune.methods := by
    rw [methods_prune]
    exact List.mem_map_of_mem member
  refine shader.prune.visited_subperm.subset ?_
  exact List.mem_append_left _ (List.mem_append_left _ (List.mem_append_right _
    (List.mem_flatMap_of_mem present visited)))

theorem trims_bodies : ∀ method ∈ shader.methods,
    method.checkBody.Trims method.prune.checkBody shader.deadNodes := by
  intro method selected table clean
  have member := mem_elements .method
    (fun element _ found => by cases element <;> cases found; rfl) selected
  obtain ⟨partClean, notes, within, same⟩ := method.trims_checkBody table clean
  exact ⟨partClean, notes, fun note noted => List.mem_flatMap_of_mem member (within note noted),
    same⟩

/-- Without its dead code, a shader without reports has none, and the same is found out about what
is left. -/
theorem alike_check_prune (distinct : shader.nodes.Nodup) {table : SymbolTable}
    (clean : (shader.check table).reports = []) :
    (shader.prune.check table).reports = [] ∧
      (shader.prune.check table).table.Alike (· ∈ shader.prune.nodes)
        (shader.check table).table := by
  rw [check_eq, Check.bind_apply, Check.bind_apply] at clean
  obtain ⟨declareClean, restClean⟩ := List.append_eq_nil_iff.mp clean
  obtain ⟨argumentsClean, bodiesClean⟩ := List.append_eq_nil_iff.mp restClean
  -- The declarations and the attributes are the same, so the bodies start with the same table.
  obtain ⟨partClean, alike⟩ := Check.alike_forEach_trims trims_bodies onlyNotes_prunedBodies
    (unread_deadNodes distinct) (.refl _) bodiesClean
  rw [check_eq, check_eq, declare_prune, attributeArguments_prune, methods_prune,
    Check.forEach_map]
  refine ⟨?_, alike⟩
  rw [Check.bind_apply, Check.bind_apply, declareClean, argumentsClean, partClean]
  rfl

end Shader

/-! ## Emission of dead code -/

section Emission

variable {annotations : Annotations} {before after : Emitter}

/-- Behind statements that stop, the block ends in a return. -/
theorem Statement.EmitsAll.isTerminated {body : List Statement}
    (emits : Statement.EmitsAll annotations body before after)
    (stopped : Statement.anyStops body = true) :
    after.functions.isTerminated = true := by
  induction emits with
  | nil => cases stopped
  | stop terminated => exact terminated
  | @simple statement rest before middle after running emits restEmits inductionHypothesis =>
      rcases (Bool.or_eq_true _ _).mp stopped with stops | restStops
      · cases emits with
        | exit valueEmits opened inBlock =>
            rw [restEmits.eq_of_terminated rfl]
            rfl
        | declare | assign | evaluate => cases stops
      · exact inductionHypothesis restStops
  | @block location body rest before inner after running bodyEmits restEmits bodyHypothesis
      restHypothesis =>
      rcases (Bool.or_eq_true _ _).mp stopped with stops | restStops
      · have terminated := bodyHypothesis stops
        rw [restEmits.eq_of_terminated terminated]
        exact terminated
      · exact restHypothesis restStops

theorem Statement.isTerminated_of_emit {statement : Statement}
    (run : (statement.emit annotations).run before = .ok () after)
    (stopped : statement.stops = true) :
    after.functions.isTerminated = true := by
  rcases Statement.emits_of_emit statement run with
    emits | ⟨location, body, inner, rfl, bodyEmits, rfl⟩
  · cases emits with
    | exit valueEmits opened inBlock => rfl
    | declare | assign | evaluate => cases stopped
  · exact bodyEmits.isTerminated stopped

mutual

theorem Statement.emit_prune : ∀ statement : Statement,
    statement.prune.emit annotations = statement.emit annotations
  | .block _ body => congrArg Emit.inScope (Statement.emitAll_pruneAll body)
  | .declare .. | .assign .. | .evaluate .. | .exit .. => rfl

/-- Nothing is emitted for dead code. -/
theorem Statement.emitAll_pruneAll : ∀ body : List Statement,
    Statement.emitAll annotations (Statement.pruneAll body) = Statement.emitAll annotations body
  | [] => rfl
  | statement :: rest => by
      unfold Statement.pruneAll
      split
      · next stops =>
          funext emitter
          change (Statement.emitAll annotations [statement.prune]).run emitter =
            (Statement.emitAll annotations (statement :: rest)).run emitter
          cases running : emitter.functions.isTerminated with
          | true =>
              rw [Statement.run_emitAll_of_terminated running,
                Statement.run_emitAll_of_terminated running]
          | false =>
              rw [Statement.run_emitAll_cons running, Statement.run_emitAll_cons running,
                Statement.emit_prune statement, EStateM.run_bind, EStateM.run_bind]
              cases outcome : (statement.emit annotations).run emitter with
              | error diagnostic after => rfl
              | ok _ after =>
                  have terminated := Statement.isTerminated_of_emit outcome stops
                  dsimp only
                  rw [Statement.run_emitAll_of_terminated terminated,
                    Statement.run_emitAll_of_terminated terminated]
      · unfold Statement.emitAll
        rw [Statement.emitAll_pruneAll rest]

end

theorem Method.emit_prune (method : Method) :
    method.prune.emit annotations = method.emit annotations := by
  have sameBody : Method.emitBody annotations method.prune.body =
      Method.emitBody annotations method.body := by
    unfold Method.prune Method.emitBody
    cases method.body with
    | none => rfl
    | some body =>
        dsimp only [Option.map_some]
        rw [Statement.emitAll_pruneAll]
  unfold Method.emit
  rw [sameBody]
  rfl

theorem Shader.emit_prune (shader : Shader) :
    shader.prune.emit annotations = shader.emit annotations := by
  have structs : shader.prune.structs = shader.structs.map id :=
    Shader.filterMap_changed (fun element => by cases element <;> rfl) shader.elements
  have members : shader.prune.members = shader.members.map id :=
    Shader.filterMap_changed (fun element => by cases element <;> rfl) shader.elements
  have samplers : shader.prune.samplers = shader.samplers.map id :=
    Shader.filterMap_changed (fun element => by cases element <;> rfl) shader.elements
  have methods : (shader.prune.methods.forM fun method => method.emit annotations) =
      shader.methods.forM fun method => method.emit annotations := by
    rw [Shader.methods_prune]
    exact List.forM_map.trans (Run.forM_congr fun method _ => method.emit_prune)
  unfold Shader.emit
  rw [structs, members, samplers, methods, List.map_id, List.map_id, List.map_id]
  rfl

end Emission

namespace Shader

variable {shader : Shader}

/-- If there is no report about a shader, then there is none about the shader without its dead code,
and both compile to the same module or fail in the same way. -/
theorem prune_isUnnoticed (distinct : shader.nodes.Nodup) :
    (∀ before : SymbolTable, (shader.check before).reports = [] →
      (shader.prune.check before).reports = []) ∧
    (shader.analyse.2 = [] → ∀ options,
      shader.prune.compile options = shader.compile options) := by
  refine ⟨fun before clean => (alike_check_prune distinct clean).1, fun clean options => ?_⟩
  obtain ⟨pruneClean, alike⟩ := alike_check_prune distinct clean
  have agree : shader.prune.analyse.1.annotations.AgreeOn shader.prune.nodes
      shader.analyse.1.annotations :=
    ⟨alike.types, fun node => congrArg (List.lookup node) alike.methods⟩
  rw [compile_of_clean clean, compile_of_clean pruneClean, Shader.emit_congr agree,
    Shader.emit_prune]

/-- A shader whose body returns inside of two blocks.  What stands behind is of the right type. -/
def overrun : Shader where
  name := "Overrun"
  generics := []
  elements := [
    .method ⟨0, .unknown, .integer, "halve", [⟨1, .integer, "step", none, none⟩],
      some [
        .declare 2 .unknown .integer "half" (some (.binary 3 .unknown .div
          (.identifier 4 .unknown "step") (.literal 5 .unknown (.int 2)))),
        .block .unknown [
          .evaluate (.identifier 6 .unknown "half"),
          .block .unknown [
            .exit .unknown (some (.identifier 7 .unknown "half")),
            .assign .unknown (.identifier 8 .unknown "half") (.identifier 9 .unknown "step")],
          .evaluate (.identifier 10 .unknown "step")],
        .declare 11 .unknown .integer "late" none,
        .exit .unknown (some (.identifier 12 .unknown "late"))],
      none, none, []⟩]

theorem overrun_prune_isUnnoticed :
    overrun.nodes.Nodup ∧ overrun.prune.nodes = [0, 1, 2, 3, 4, 5, 6, 7] ∧
    (overrun.prune.check .empty).reports = [] ∧
    ∃ compiled, overrun.compile .allNames = .ok compiled ∧
      overrun.prune.compile .allNames = .ok compiled := by
  have distinct : overrun.nodes.Nodup := by decide
  have clean : overrun.analyse.2 = [] := by decide +kernel
  have compiles : (overrun.compile .allNames).toOption.any (fun _ => true) = true := by
    decide +kernel
  obtain ⟨compiled, compilesTo, -⟩ := exists_compiled compiles
  obtain ⟨pruneClean, sameCompiled⟩ := prune_isUnnoticed distinct
  refine ⟨distinct, by decide, pruneClean .empty clean, compiled, compilesTo, ?_⟩
  rw [sameCompiled clean, compilesTo]

end Shader

end ShaderLang
