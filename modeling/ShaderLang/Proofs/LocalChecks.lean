import ShaderLang.Proofs.TableAgreement

/-!
# What bodies and attributes can do to the symbol table

The arguments of attributes and the bodies of methods are checked one after the other against the
same symbol table, and checking goes on after a report.  Whatever is reported, a check inside of a
body changes the innermost frame and adds types of its own nodes, and that is all it does.  What it
finds and reports depends on no type of a node that it does not read.
-/

namespace ShaderLang

variable {α β : Type}

/-- Whether a diagnostic tells of a step that analysis or emission must not take, and not of the
shader. -/
def Diagnostic.isInternal : Diagnostic → Bool
  | invalidSignature .. | scopeUnderflow | noActiveScope | emission _ => true
  | _ => false

namespace SymbolTable

/-- Two tables that differ at most in the overloads and in the types of nodes that are not read. -/
structure Alike (reads : NodeId → Prop) (first second : SymbolTable) : Prop where
  frames : first.frames = second.frames
  declaredTypes : first.declaredTypes = second.declaredTypes
  shader : first.annotations.shader = second.annotations.shader
  methods : first.annotations.methods = second.annotations.methods
  types : ∀ node, reads node → first.annotations.type? node = second.annotations.type? node

/-- The table with other frames and with more types of nodes. -/
def framed (table : SymbolTable) (frames : List Frame) (notes : List (NodeId × ShaderType)) :
    SymbolTable :=
  { table.noted notes with frames := frames }

variable {first second : SymbolTable} {reads : NodeId → Prop} {frames outer : List Frame}
  {frame : Frame} {notes : List (NodeId × ShaderType)}

theorem framed_self {table : SymbolTable} (opened : table.frames = frames) :
    table.framed frames [] = table := by
  subst opened
  rfl

theorem framed_framed (table : SymbolTable) (frames frames' : List Frame)
    (notes more : List (NodeId × ShaderType)) :
    (table.framed frames notes).framed frames' more = table.framed frames' (more ++ notes) := by
  unfold framed noted
  simp

namespace Alike

theorem refl (table : SymbolTable) : Alike reads table table :=
  ⟨rfl, rfl, rfl, rfl, fun _ _ => rfl⟩

theorem framed (alike : Alike reads first second) (frames : List Frame)
    (notes : List (NodeId × ShaderType)) :
    Alike reads (first.framed frames notes) (second.framed frames notes) where
  frames := rfl
  declaredTypes := alike.declaredTypes
  shader := alike.shader
  methods := alike.methods
  types node read := by
    change (first.noted notes).annotations.type? node = (second.noted notes).annotations.type? node
    rw [type?_noted, type?_noted, alike.types node read]

theorem noted (alike : Alike reads first second) (notes : List (NodeId × ShaderType)) :
    Alike reads (first.noted notes) (second.noted notes) := by
  have framed := alike.framed first.frames notes
  exact ⟨alike.frames, framed.declaredTypes, framed.shader, framed.methods, framed.types⟩

theorem noted_right (alike : Alike reads first second)
    (unread : ∀ note ∈ notes, ¬reads note.1) :
    Alike reads first (second.noted notes) where
  frames := alike.frames
  declaredTypes := alike.declaredTypes
  shader := alike.shader
  methods := alike.methods
  types node read := by
    rw [type?_noted_of_not_mem, alike.types node read]
    rintro note noted rfl
    exact unread note noted read

theorem agreeOn (alike : Alike reads first second) (nodes : List NodeId)
    (read : ∀ node ∈ nodes, reads node) :
    AgreeOn nodes first second where
  names name := by
    unfold lookup?
    rw [alike.frames]
  written name _ := by
    unfold resolveType? declaredType?
    rw [alike.declaredTypes]
  streams name := by rw [alike.shader]
  methods node := by
    unfold Annotations.method?
    rw [alike.methods]
  types node member := alike.types node (read node member)

theorem resolve_eq (alike : Alike reads first second) (written : TypeName) :
    written.resolve first = written.resolve second := by
  unfold TypeName.resolve resolveType? declaredType?
  rw [alike.declaredTypes]

end Alike

end SymbolTable

/-! ## Reports about the shader -/

/-- Whether a diagnostic is one that the check of a written type, of an expression or of a statement
reports. -/
def Diagnostic.isLocal : Diagnostic → Bool
  | nonConstantInitializer .. | redeclaration .. => false
  | diagnostic => !diagnostic.isInternal

theorem Diagnostic.not_internal_of_isLocal {diagnostic : Diagnostic}
    (isLocal : diagnostic.isLocal = true) :
    diagnostic.isInternal = false := by
  cases diagnostic <;> first | rfl | cases isLocal

theorem mismatchReports_isLocal (expected found : ShaderType) (location : Location) :
    ∀ report ∈ mismatchReports expected found location, report.isLocal = true := by
  unfold mismatchReports
  split
  · exact List.forall_mem_nil _
  · split
    · exact List.forall_mem_nil _
    · exact List.forall_mem_singleton.mpr rfl

theorem TypeName.resolve_isLocal {written : TypeName} {table : SymbolTable}
    {diagnostic : Diagnostic}
    (failed : written.resolve table = .error diagnostic) :
    diagnostic.isLocal = true := by
  unfold TypeName.resolve at failed
  split at failed
  · cases failed
    rfl
  · split at failed
    · cases failed
    · split at failed
      · cases failed
      · cases failed
        rfl

theorem operationType_isLocal (operator : Operator) (left right : ShaderType)
    (location rightLocation : Location) :
    ∀ report ∈ (operationType operator left right location rightLocation).2,
      report.isLocal = true := by
  unfold operationType
  split
  · exact List.forall_mem_nil _
  · split
    · exact List.forall_mem_singleton.mpr rfl
    · split
      · exact List.forall_mem_singleton.mpr rfl
      · exact List.forall_mem_nil _

theorem Expression.typing_isLocal (table : SymbolTable) (entryPoint : Option EntryPoint)
    (expression : Expression) :
    ∀ report ∈ (expression.typing table entryPoint).reports, report.isLocal = true := by
  induction expression with
  | literal node location value =>
      intro report member
      obtain ⟨text, -, rfl⟩ := List.mem_map.mp member
      rfl
  | identifier node location name =>
      unfold Expression.typing identifierType
      split
      · exact List.forall_mem_nil _
      · exact List.forall_mem_singleton.mpr rfl
  | stream node location name =>
      unfold Expression.typing streamType
      split
      · exact List.forall_mem_singleton.mpr rfl
      · dsimp only
        split
        · exact List.forall_mem_nil _
        · exact List.forall_mem_singleton.mpr rfl
  | binary node location operator left right leftHypothesis rightHypothesis =>
      exact List.forall_mem_append.mpr ⟨List.forall_mem_append.mpr
        ⟨leftHypothesis, rightHypothesis⟩, operationType_isLocal _ _ _ _ _⟩

theorem Method.missingReturnReports_isLocal (method : Method) (returned : ShaderType)
    (body : List Statement) :
    ∀ report ∈ method.missingReturnReports returned body, report.isLocal = true := by
  unfold Method.missingReturnReports
  split
  · exact List.forall_mem_nil _
  · exact List.forall_mem_singleton.mpr rfl

theorem mismatchReports_not_internal (expected found : ShaderType) (location : Location) :
    ∀ report ∈ mismatchReports expected found location, report.isInternal = false :=
  fun report member =>
    Diagnostic.not_internal_of_isLocal (mismatchReports_isLocal _ _ _ report member)

theorem Expression.typing_not_internal (table : SymbolTable) (entryPoint : Option EntryPoint)
    (expression : Expression) :
    ∀ report ∈ (expression.typing table entryPoint).reports, report.isInternal = false :=
  fun report member =>
    Diagnostic.not_internal_of_isLocal (expression.typing_isLocal _ _ report member)

/-! ## Checks inside of a frame -/

/-- What a check inside of a frame does: it finds a value, leaves the innermost frame, adds types of
nodes, the latest first, and reports. -/
structure Effect (α : Type) where
  value : α
  frame : Frame
  notes : List (NodeId × ShaderType)
  reports : List Diagnostic

namespace Effect

/-- The outcome of an effect on a table with some outer frames. -/
def on (effect : Effect α) (table : SymbolTable) (outer : List Frame) : Checked α :=
  ⟨effect.value, table.framed (effect.frame :: outer) effect.notes, effect.reports⟩

/-- One effect behind the other. -/
def andThen (earlier : Effect α) (later : Effect β) : Effect β :=
  ⟨later.value, later.frame, later.notes ++ earlier.notes, earlier.reports ++ later.reports⟩

/-- An effect adds types of some nodes only, and reports on the shader only. -/
structure Within (effect : Effect α) (writes : List NodeId) : Prop where
  notes : ∀ note ∈ effect.notes, note.1 ∈ writes
  reports : ∀ report ∈ effect.reports, report.isInternal = false

theorem Within.andThen {earlier : Effect α} {later : Effect β} {writes : List NodeId}
    (first : earlier.Within writes) (second : later.Within writes) :
    (earlier.andThen later).Within writes where
  notes := List.forall_mem_append.mpr ⟨second.notes, first.notes⟩
  reports := List.forall_mem_append.mpr ⟨first.reports, second.reports⟩

end Effect

namespace Check

variable {reads : NodeId → Prop} {writes : List NodeId}

/-- Inside of a frame, a check has the same effect on every two tables that are alike in what it
reads, and adds types of the given nodes only. -/
def Confined (check : Check α) (reads : NodeId → Prop) (writes : List NodeId) : Prop :=
  ∀ first second frame outer, first.Alike reads second → first.frames = frame :: outer →
    ∃ effect : Effect α, effect.Within writes ∧
      check first = effect.on first outer ∧ check second = effect.on second outer

/-- A check that leaves the frame as it is and adds no types. -/
theorem confined_of_same {check : Check α}
    (same : ∀ first second : SymbolTable, first.Alike reads second → ∃ value reports,
      (∀ report ∈ reports, report.isInternal = false) ∧
        check first = ⟨value, first, reports⟩ ∧ check second = ⟨value, second, reports⟩) :
    check.Confined reads writes := by
  intro first second frame outer alike opened
  obtain ⟨value, reports, notInternal, onFirst, onSecond⟩ := same first second alike
  refine ⟨⟨value, frame, [], reports⟩, ⟨List.forall_mem_nil _, notInternal⟩, ?_, ?_⟩
  · unfold Effect.on
    rw [onFirst, SymbolTable.framed_self opened]
  · unfold Effect.on
    rw [onSecond, SymbolTable.framed_self (alike.frames ▸ opened)]

theorem confined_pure (value : α) : (pure value : Check α).Confined reads writes :=
  confined_of_same fun _ _ _ => ⟨value, [], List.forall_mem_nil _, rfl, rfl⟩

theorem confined_report {diagnostics : List Diagnostic}
    (notInternal : ∀ report ∈ diagnostics, report.isInternal = false) :
    (report diagnostics).Confined reads writes :=
  confined_of_same fun _ _ _ => ⟨(), diagnostics, notInternal, rfl, rfl⟩

theorem confined_read {view : SymbolTable → α}
    (same : ∀ first second : SymbolTable, first.Alike reads second → view first = view second) :
    (read view).Confined reads writes := by
  refine confined_of_same fun first second alike => ⟨view first, [], List.forall_mem_nil _, rfl, ?_⟩
  rw [same first second alike]
  rfl

theorem confined_resolve (written : TypeName) : (resolve written).Confined reads writes := by
  refine confined_of_same fun first second alike => ?_
  unfold resolve
  rw [← alike.resolve_eq written]
  cases resolved : written.resolve first with
  | ok type => exact ⟨type, [], List.forall_mem_nil _, rfl, rfl⟩
  | error diagnostic =>
      have notInternal := Diagnostic.not_internal_of_isLocal (TypeName.resolve_isLocal resolved)
      exact ⟨_, [diagnostic], List.forall_mem_singleton.mpr notInternal, rfl, rfl⟩

theorem Confined.bind {check : Check α} {next : α → Check β}
    (confined : check.Confined reads writes)
    (nextConfined : ∀ value, (next value).Confined reads writes) :
    (check >>= next).Confined reads writes := by
  intro first second frame outer alike opened
  obtain ⟨earlier, earlierWithin, onFirst, onSecond⟩ :=
    confined first second frame outer alike opened
  obtain ⟨later, laterWithin, thenFirst, thenSecond⟩ := nextConfined earlier.value _ _ earlier.frame
    outer (alike.framed (earlier.frame :: outer) earlier.notes) rfl
  refine ⟨earlier.andThen later, earlierWithin.andThen laterWithin, ?_, ?_⟩
  · rw [bind_apply, onFirst]
    unfold Effect.on at thenFirst ⊢
    rw [thenFirst, SymbolTable.framed_framed]
    rfl
  · rw [bind_apply, onSecond]
    unfold Effect.on at thenSecond ⊢
    rw [thenSecond, SymbolTable.framed_framed]
    rfl

theorem confined_annotate {node : NodeId} (written : node ∈ writes) (type : ShaderType) :
    (annotate node type).Confined reads writes := by
  intro first second frame outer alike opened
  refine ⟨⟨(), frame, [(node, type)], []⟩,
    ⟨List.forall_mem_singleton.mpr written, List.forall_mem_nil _⟩, ?_, ?_⟩
  · unfold Effect.on SymbolTable.framed
    rw [← opened]
    rfl
  · unfold Effect.on SymbolTable.framed
    rw [← opened, alike.frames]
    rfl

theorem declare_eq {table : SymbolTable} {frame : Frame} {outer : List Frame}
    (opened : table.frames = frame :: outer) (symbol : Symbol) :
    declare symbol table = ⟨(), table.framed (frame.add symbol :: outer) [], []⟩ := by
  unfold declare attempt SymbolTable.declare
  simp only [opened]
  rfl

theorem confined_declare (symbol : Symbol) : (declare symbol).Confined reads writes := by
  intro first second frame outer alike opened
  exact ⟨⟨(), frame.add symbol, [], []⟩, ⟨List.forall_mem_nil _, List.forall_mem_nil _⟩,
    declare_eq opened symbol, declare_eq (alike.frames ▸ opened) symbol⟩

theorem confined_forEach {check : α → Check Unit} {items : List α}
    (each : ∀ item ∈ items, (check item).Confined reads writes) :
    (forEach check items).Confined reads writes := by
  induction items with
  | nil => exact confined_pure ()
  | cons item rest inductionHypothesis =>
      obtain ⟨itemConfined, restConfined⟩ := List.forall_mem_cons.mp each
      exact itemConfined.bind fun _ => inductionHypothesis restConfined

/-! ## Checks that leave types of nodes only -/

/-- A check has the same reports on every two tables that are alike in what it reads, and all it
does to them is to add the same types of the given nodes. -/
def OnlyNotes (check : Check Unit) (reads : NodeId → Prop) (writes : List NodeId) : Prop :=
  ∀ first second : SymbolTable, first.Alike reads second → ∃ notes reports,
    (∀ note ∈ notes, note.1 ∈ writes) ∧ (∀ report ∈ reports, report.isInternal = false) ∧
      check first = ⟨(), first.noted notes, reports⟩ ∧
      check second = ⟨(), second.noted notes, reports⟩

theorem onlyNotes_pure : (pure () : Check Unit).OnlyNotes reads writes :=
  fun _ _ _ => ⟨[], [], List.forall_mem_nil _, List.forall_mem_nil _, rfl, rfl⟩

/-- The frame of a body is closed again, so nothing of it is left. -/
theorem Confined.inFrame {check : Check Unit} (confined : check.Confined reads writes) :
    (inFrame check).OnlyNotes reads writes := by
  intro first second alike
  have pushed : first.push.Alike reads second.push :=
    ⟨congrArg (Frame.empty :: ·) alike.frames, alike.declaredTypes, alike.shader, alike.methods,
      alike.types⟩
  obtain ⟨effect, within, onFirst, onSecond⟩ := confined _ _ .empty first.frames pushed rfl
  refine ⟨effect.notes, effect.reports, within.notes, within.reports, ?_, ?_⟩
  · unfold Check.inFrame
    rw [onFirst]
    rfl
  · unfold Check.inFrame
    rw [onSecond]
    unfold Effect.on SymbolTable.framed SymbolTable.dropFrame
    dsimp only
    rw [List.tail_cons, alike.frames]
    rfl

theorem OnlyNotes.confined {check : Check Unit} (onlyNotes : check.OnlyNotes reads writes) :
    check.Confined reads writes := by
  intro first second frame outer alike opened
  obtain ⟨notes, reports, within, notInternal, onFirst, onSecond⟩ := onlyNotes first second alike
  refine ⟨⟨(), frame, notes, reports⟩, ⟨within, notInternal⟩, ?_, ?_⟩
  · unfold Effect.on SymbolTable.framed
    rw [onFirst, ← opened]
    rfl
  · unfold Effect.on SymbolTable.framed
    rw [onSecond, ← opened, alike.frames]
    rfl

theorem OnlyNotes.noted {check : Check Unit} (onlyNotes : check.OnlyNotes reads writes)
    (table : SymbolTable) :
    ∃ notes, (∀ note ∈ notes, note.1 ∈ writes) ∧ (check table).table = table.noted notes ∧
      ∀ report ∈ (check table).reports, report.isInternal = false := by
  obtain ⟨notes, reports, within, notInternal, same, -⟩ := onlyNotes table table (.refl table)
  rw [same]
  exact ⟨notes, within, rfl, notInternal⟩

end Check

/-! ## Expressions, statements and bodies -/

section Bodies

variable {reads : NodeId → Prop} {writes : List NodeId}

theorem Expression.mem_nodes_of_notes {expression : Expression} {table : SymbolTable}
    {entryPoint : Option EntryPoint} {note : NodeId × ShaderType}
    (noted : note ∈ (expression.typing table entryPoint).notes) :
    note.1 ∈ expression.nodes :=
  (expression.notes_perm table entryPoint).mem_iff.mp (List.mem_map_of_mem noted)

theorem Expression.check_noted (expression : Expression) (context : BodyContext)
    (table : SymbolTable) :
    expression.check context table =
      ⟨(expression.typing table context.entryPoint).type,
        table.noted (expression.typing table context.entryPoint).notes.reverse,
        (expression.typing table context.entryPoint).reports⟩ := by
  rw [← SymbolTable.annotateAll_eq_noted]
  rfl

theorem Expression.confined_check (expression : Expression) (context : BodyContext)
    (own : expression.nodes ⊆ writes) :
    (expression.check context).Confined reads writes := by
  intro first second frame outer alike opened
  have same := expression.typing_congr (alike.agreeOn [] (List.forall_mem_nil _))
    context.entryPoint
  refine ⟨⟨(expression.typing first context.entryPoint).type, frame,
    (expression.typing first context.entryPoint).notes.reverse,
    (expression.typing first context.entryPoint).reports⟩, ⟨?_, ?_⟩, ?_, ?_⟩
  · intro note noted
    exact own (Expression.mem_nodes_of_notes (List.mem_reverse.mp noted))
  · exact expression.typing_not_internal first context.entryPoint
  · rw [expression.check_noted context first]
    unfold Effect.on SymbolTable.framed
    rw [← opened]
    rfl
  · rw [expression.check_noted context second, ← same]
    unfold Effect.on SymbolTable.framed
    rw [← opened, alike.frames]
    rfl

theorem confined_checkInitializer (context : BodyContext) (expected : ShaderType)
    {value : Option Expression} (own : Expression.optionalNodes value ⊆ writes) :
    (checkInitializer context expected value).Confined reads writes := by
  cases value with
  | none => exact Check.confined_pure ()
  | some expression =>
      exact (expression.confined_check context own).bind fun _ =>
        Check.confined_report (mismatchReports_not_internal _ _ _)

mutual

theorem Statement.confined_check (context : BodyContext) : ∀ statement : Statement,
    statement.nodes ⊆ writes → (statement.check context).Confined reads writes
  | .declare node _ written _ value, own => by
      obtain ⟨nodeOwn, own⟩ := List.cons_subset.mp own
      have valueOwn := (List.append_subset.mp own).2
      exact (Check.confined_resolve written).bind fun type =>
        (confined_checkInitializer context type valueOwn).bind fun _ =>
          (Check.confined_annotate nodeOwn type).bind fun _ => Check.confined_declare _
  | .assign _ target value, own => by
      obtain ⟨targetOwn, valueOwn⟩ := List.append_subset.mp own
      refine (value.confined_check context valueOwn).bind fun found => ?_
      split
      · exact (target.confined_check context targetOwn).bind fun _ =>
          Check.confined_report (mismatchReports_not_internal _ _ _)
      · exact Check.confined_report (List.forall_mem_singleton.mpr rfl)
  | .evaluate value, own =>
      (value.confined_check context own).bind fun _ => Check.confined_pure ()
  | .exit _ none, _ => Check.confined_report (mismatchReports_not_internal _ _ _)
  | .exit _ (some value), own =>
      (value.confined_check context own).bind fun _ =>
        Check.confined_report (mismatchReports_not_internal _ _ _)
  | .block _ body, own => (Statement.confined_checkAll context body own).inFrame.confined

theorem Statement.confined_checkAll (context : BodyContext) : ∀ body : List Statement,
    Statement.allNodes body ⊆ writes → (Statement.checkAll context body).Confined reads writes
  | [], _ => Check.confined_pure ()
  | statement :: rest, own => by
      obtain ⟨statementOwn, restOwn⟩ := List.append_subset.mp own
      exact (Statement.confined_check context statement statementOwn).bind fun _ =>
        Statement.confined_checkAll context rest restOwn

end

theorem Parameter.confined_bind {parameter : Parameter} (read : reads parameter.node) :
    parameter.bind.Confined reads writes := by
  refine Check.Confined.bind (Check.confined_read fun first second alike => ?_) fun type =>
    Check.confined_declare _
  rw [alike.types _ read]

theorem Shader.onlyNotes_checkArgument {argument : Expression} (own : argument.nodes ⊆ writes) :
    (Shader.checkArgument argument).OnlyNotes reads writes := by
  intro first second alike
  have same := argument.typing_congr (alike.agreeOn [] (List.forall_mem_nil _)) none
  refine ⟨(argument.typing first none).notes.reverse, (argument.typing first none).reports, ?_,
    argument.typing_not_internal first none, ?_, ?_⟩
  · intro note noted
    exact own (Expression.mem_nodes_of_notes (List.mem_reverse.mp noted))
  · unfold Shader.checkArgument
    rw [Check.bind_apply, argument.check_noted .shaderLevel first]
    simp [BodyContext.shaderLevel]
  · unfold Shader.checkArgument
    rw [Check.bind_apply, argument.check_noted .shaderLevel second, same]
    simp [BodyContext.shaderLevel]

/-- The check of a body in the frame that is opened for it. -/
def Method.checkInside (method : Method) (body : List Statement) (context : BodyContext) :
    Check Unit := do
  Check.forEach Parameter.bind method.parameters
  Statement.checkAll context body
  Check.report (method.missingReturnReports context.returned body)

theorem Method.checkBody_of_body {method : Method} {body : List Statement}
    (present : method.body = some body) (table : SymbolTable) :
    method.checkBody table =
      Check.inFrame (method.checkInside body (method.context table)) table := by
  unfold Method.checkBody
  rw [present]
  rfl

theorem Method.confined_checkInside {method : Method} {body : List Statement}
    (read : ∀ parameter ∈ method.parameters, reads parameter.node)
    (own : Statement.allNodes body ⊆ writes) (context : BodyContext) :
    (method.checkInside body context).Confined reads writes :=
  (Check.confined_forEach fun parameter member =>
    Parameter.confined_bind (read parameter member)).bind fun _ =>
      (Statement.confined_checkAll context body own).bind fun _ =>
        Check.confined_report fun report member => Diagnostic.not_internal_of_isLocal
          (method.missingReturnReports_isLocal _ _ report member)

/-- A body reads the types of its method and of the parameters. -/
theorem Method.onlyNotes_checkBody {method : Method} (read : ∀ node ∈ method.visited, reads node)
    (own : method.bodyNodes ⊆ writes) :
    method.checkBody.OnlyNotes reads writes := by
  intro first second alike
  cases present : method.body with
  | none =>
      unfold Method.checkBody
      rw [present]
      exact Check.onlyNotes_pure first second alike
  | some body =>
      have nodeRead : method.node ∈ method.visited := by simp [Method.visited]
      have parametersRead : ∀ parameter ∈ method.parameters, reads parameter.node :=
        fun parameter member => read _ (List.mem_append_left _ (List.mem_map_of_mem member))
      have bodyOwn : Statement.allNodes body ⊆ writes := by
        simpa [Method.bodyNodes, present] using own
      rw [Method.checkBody_of_body present, Method.checkBody_of_body present,
        ← Method.context_congr (alike.agreeOn _ read) nodeRead]
      exact (Method.confined_checkInside parametersRead bodyOwn _).inFrame first second alike

end Bodies

end ShaderLang
