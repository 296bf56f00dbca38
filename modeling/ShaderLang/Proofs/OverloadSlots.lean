import ShaderLang.Proofs.ShaderFrame

/-!
# The overloads of methods

Checking a method opens a slot for an overload, fills it while the parameters are checked, and
closes it, whatever is reported on the way.  Nothing else touches the overloads.  So the slots are
those of the methods in order, and a method is reported as repeated exactly when an earlier slot of
its name has the signature of its own.
-/

namespace ShaderLang

variable {α β : Type}

/-! ## Slots -/

/-- The symbols of parameters, with the types that they have in order. -/
def Parameter.symbolsIn (table : SymbolTable) (parameters : List Parameter) : List Symbol :=
  parameters.zipWith (fun parameter type => ⟨parameter.name, .binding, .function, type⟩)
    (Parameter.typesIn table parameters)

/-- The overload of a method, complete with its signature. -/
def Method.overload (table : SymbolTable) (method : Method) : Overload where
  parameters := Parameter.symbolsIn table method.parameters
  signature := some ⟨method.returned.denoted table, Parameter.typesIn table method.parameters⟩

/-- The methods with their overloads, in order. -/
def Method.overloadSlots : SymbolTable → List Method → List (Method × Overload)
  | _, [] => []
  | table, method :: rest =>
      (method, method.overload table) :: overloadSlots (table.withMethod method) rest

/-- The table behind a shader, as far as declared types go. -/
def SymbolTable.withShader (table : SymbolTable) (shader : Shader) : SymbolTable :=
  shader.methods.foldl withMethod (shader.typed table)

/-- The methods of shaders with their overloads, in order. -/
def Shader.overloadSlots : SymbolTable → List Shader → List (Method × Overload)
  | _, [] => []
  | table, shader :: rest =>
      Method.overloadSlots (shader.typed table) shader.methods ++
        overloadSlots (table.withShader shader) rest

/-- The report about a method, if an earlier slot of its name has its signature. -/
def Method.repeatReport (earlier : List (Method × Overload)) (slot : Method × Overload) :
    List Diagnostic :=
  if ∃ other ∈ earlier, other.1.name = slot.1.name ∧ other.2.signature = slot.2.signature then
    [.redeclaration .method slot.1.name slot.1.location]
  else
    []

/-- The reports about methods behind earlier ones, in order. -/
def Method.repeatReports (earlier : List (Method × Overload)) :
    List (Method × Overload) → List Diagnostic
  | [] => []
  | slot :: rest => repeatReport earlier slot ++ repeatReports (earlier ++ [slot]) rest

/-- Whether a report is about a method that repeats an earlier one. -/
def Diagnostic.isMethodRepeat : Diagnostic → Bool
  | redeclaration .method .. => true
  | _ => false

theorem Diagnostic.not_methodRepeat_of_isLocal {diagnostic : Diagnostic}
    (isLocal : diagnostic.isLocal = true) :
    diagnostic.isMethodRepeat = false := by
  cases diagnostic <;> first | rfl | cases isLocal

theorem Method.repeatReports_append (earlier front back : List (Method × Overload)) :
    Method.repeatReports earlier (front ++ back) =
      Method.repeatReports earlier front ++ Method.repeatReports (earlier ++ front) back := by
  induction front generalizing earlier with
  | nil => rw [List.nil_append, List.append_nil, Method.repeatReports, List.nil_append]
  | cons slot rest inductionHypothesis =>
      rw [List.cons_append, Method.repeatReports, Method.repeatReports, inductionHypothesis,
        List.append_assoc, List.append_assoc, List.singleton_append]

theorem Method.overloadSlots_fst (table : SymbolTable) (methods : List Method) :
    (Method.overloadSlots table methods).map Prod.fst = methods := by
  induction methods generalizing table with
  | nil => rfl
  | cons method rest inductionHypothesis =>
      rw [Method.overloadSlots, List.map_cons, inductionHypothesis]

theorem Shader.overloadSlots_fst (table : SymbolTable) (shaders : List Shader) :
    (Shader.overloadSlots table shaders).map Prod.fst = shaders.flatMap Shader.methods := by
  induction shaders generalizing table with
  | nil => rfl
  | cons shader rest inductionHypothesis =>
      rw [Shader.overloadSlots, List.map_append, Method.overloadSlots_fst, inductionHypothesis,
        List.flatMap_cons]

theorem Method.overload_of_mem {table : SymbolTable} {methods : List Method}
    {slot : Method × Overload}
    (member : slot ∈ Method.overloadSlots table methods) :
    ∃ types : SymbolTable, slot.2 = slot.1.overload types := by
  induction methods generalizing table with
  | nil => cases member
  | cons method rest inductionHypothesis =>
      rcases List.mem_cons.mp member with rfl | later
      · exact ⟨table, rfl⟩
      · exact inductionHypothesis later

theorem Shader.overload_of_mem {table : SymbolTable} {shaders : List Shader}
    {slot : Method × Overload}
    (member : slot ∈ Shader.overloadSlots table shaders) :
    ∃ types : SymbolTable, slot.2 = slot.1.overload types := by
  induction shaders generalizing table with
  | nil => cases member
  | cons shader rest inductionHypothesis =>
      rcases List.mem_append.mp member with own | later
      · exact Method.overload_of_mem own
      · exact inductionHypothesis later

theorem Parameter.symbolsIn_cons (table : SymbolTable) (parameter : Parameter)
    (rest : List Parameter) :
    Parameter.symbolsIn table (parameter :: rest) =
      ⟨parameter.name, .binding, .function, parameter.type.denoted table⟩ ::
        Parameter.symbolsIn (table.withParameter parameter) rest :=
  rfl

/-- The symbols of parameters have the names of the parameters, and the types that a signature has
them with. -/
theorem Parameter.parts_symbolsIn (table : SymbolTable) (parameters : List Parameter) :
    (Parameter.symbolsIn table parameters).map Symbol.name = parameters.map Parameter.name ∧
      (Parameter.symbolsIn table parameters).map Symbol.type =
        Parameter.typesIn table parameters := by
  induction parameters generalizing table with
  | nil => exact ⟨rfl, rfl⟩
  | cons parameter rest inductionHypothesis =>
      obtain ⟨names, types⟩ := inductionHypothesis (table.withParameter parameter)
      rw [Parameter.symbolsIn_cons]
      exact ⟨congrArg (parameter.name :: ·) names,
        congrArg (parameter.type.denoted table :: ·) types⟩

/-- An overload of a method, whose parameters stand in order and have the types of its signature. -/
structure Overload.IsOf (overload : Overload) (method : Method) : Prop where
  names : overload.parameters.map Symbol.name = method.parameters.map Parameter.name
  signature : ∃ returned, overload.signature =
    some ⟨returned, overload.parameters.map Symbol.type⟩

theorem Method.overload_isOf (table : SymbolTable) (method : Method) :
    (method.overload table).IsOf method where
  names := (Parameter.parts_symbolsIn table method.parameters).1
  signature := by
    obtain ⟨-, types⟩ := Parameter.parts_symbolsIn table method.parameters
    refine ⟨method.returned.denoted table, ?_⟩
    unfold Method.overload
    rw [types]

/-! ## Checks that leave the overloads alone -/

/-- An outcome with the overloads of the table before, and without a report about a repeated
method. -/
structure Checked.Spares (checked : Checked α) (before : SymbolTable) : Prop where
  overloads : checked.table.overloads = before.overloads
  registering : checked.table.registering = before.registering
  reports : ∀ report ∈ checked.reports, report.isMethodRepeat = false

namespace Check

/-- A check that neither touches an overload nor reports a repeated method. -/
def Quiet (check : Check α) : Prop :=
  ∀ table : SymbolTable, (check table).Spares table

theorem quiet_pure (value : α) : (pure value : Check α).Quiet :=
  fun _ => ⟨rfl, rfl, List.forall_mem_nil _⟩

theorem Quiet.bind {check : Check α} {next : α → Check β}
    (quiet : check.Quiet)
    (nextQuiet : ∀ value, (next value).Quiet) :
    (check >>= next).Quiet := by
  intro table
  have first := quiet table
  have second := nextQuiet (check table).value (check table).table
  exact ⟨second.overloads.trans first.overloads, second.registering.trans first.registering,
    List.forall_mem_append.mpr ⟨first.reports, second.reports⟩⟩

theorem quiet_read (view : SymbolTable → α) : (read view).Quiet :=
  fun _ => ⟨rfl, rfl, List.forall_mem_nil _⟩

theorem quiet_report {diagnostics : List Diagnostic}
    (notRepeat : ∀ report ∈ diagnostics, report.isMethodRepeat = false) :
    (report diagnostics).Quiet :=
  fun _ => ⟨rfl, rfl, notRepeat⟩

theorem quiet_report_isLocal {diagnostics : List Diagnostic}
    (isLocal : ∀ report ∈ diagnostics, report.isLocal = true) :
    (report diagnostics).Quiet :=
  quiet_report fun report member => Diagnostic.not_methodRepeat_of_isLocal (isLocal report member)

theorem quiet_update {change : SymbolTable → SymbolTable}
    (kept : ∀ table, (change table).overloads = table.overloads ∧
      (change table).registering = table.registering) :
    (update change).Quiet :=
  fun table => ⟨(kept table).1, (kept table).2, List.forall_mem_nil _⟩

theorem quiet_annotate (node : NodeId) (type : ShaderType) : (annotate node type).Quiet :=
  quiet_update fun _ => ⟨rfl, rfl⟩

theorem quiet_declare (symbol : Symbol) : (declare symbol).Quiet := by
  intro table
  cases opened : table.frames with
  | nil =>
      unfold declare attempt SymbolTable.declare
      simp only [opened]
      exact ⟨rfl, rfl, List.forall_mem_singleton.mpr rfl⟩
  | cons frame outer =>
      rw [declare_eq opened]
      exact ⟨rfl, rfl, List.forall_mem_nil _⟩

theorem quiet_declareUnique {symbol : Symbol} (notMethod : symbol.kind ≠ .method)
    (location : Location) :
    (declareUnique symbol location).Quiet := by
  refine (quiet_read _).bind fun earlier => ?_
  cases earlier with
  | none => exact quiet_declare symbol
  | some other =>
      refine quiet_report (List.forall_mem_singleton.mpr ?_)
      cases kind : symbol.kind <;> first | rfl | exact absurd kind notMethod

theorem quiet_resolve (written : TypeName) : (resolve written).Quiet := by
  intro table
  unfold resolve
  cases resolved : written.resolve table with
  | ok type => exact ⟨rfl, rfl, List.forall_mem_nil _⟩
  | error diagnostic =>
      have isLocal := TypeName.resolve_isLocal resolved
      exact ⟨rfl, rfl,
        List.forall_mem_singleton.mpr (Diagnostic.not_methodRepeat_of_isLocal isLocal)⟩

theorem quiet_collect {check : α → Check β} (each : ∀ item, (check item).Quiet) :
    ∀ items : List α, (collect check items).Quiet
  | [] => quiet_pure []
  | item :: rest =>
      (each item).bind fun value =>
        (quiet_collect each rest).bind fun values => quiet_pure (value :: values)

theorem quiet_forEach {check : α → Check Unit} (each : ∀ item, (check item).Quiet) :
    ∀ items : List α, (forEach check items).Quiet
  | [] => quiet_pure ()
  | item :: rest => (each item).bind fun _ => quiet_forEach each rest

theorem Quiet.inFrame {check : Check α} (quiet : check.Quiet) : (inFrame check).Quiet :=
  fun table => ⟨(quiet table.push).overloads, (quiet table.push).registering,
    (quiet table.push).reports⟩

end Check

theorem Expression.quiet_check (expression : Expression) (context : BodyContext) :
    (expression.check context).Quiet := by
  intro table
  rw [expression.check_noted context table]
  exact ⟨rfl, rfl, fun report member =>
    Diagnostic.not_methodRepeat_of_isLocal (expression.typing_isLocal _ _ report member)⟩

theorem quiet_checkInitializer (context : BodyContext) (expected : ShaderType) :
    ∀ value : Option Expression, (checkInitializer context expected value).Quiet
  | none => Check.quiet_pure ()
  | some value =>
      (value.quiet_check context).bind fun _ =>
        Check.quiet_report_isLocal (mismatchReports_isLocal _ _ _)

mutual

theorem Statement.quiet_check (context : BodyContext) :
    ∀ statement : Statement, (statement.check context).Quiet
  | .declare _ _ written _ value =>
      (Check.quiet_resolve written).bind fun type =>
        (quiet_checkInitializer context type value).bind fun _ =>
          (Check.quiet_annotate _ _).bind fun _ => Check.quiet_declare _
  | .assign _ target value => by
      refine (value.quiet_check context).bind fun found => ?_
      split
      · exact (target.quiet_check context).bind fun _ =>
          Check.quiet_report_isLocal (mismatchReports_isLocal _ _ _)
      · exact Check.quiet_report (List.forall_mem_singleton.mpr rfl)
  | .evaluate value => (value.quiet_check context).bind fun _ => Check.quiet_pure ()
  | .exit _ none => Check.quiet_report_isLocal (mismatchReports_isLocal _ _ _)
  | .exit _ (some value) =>
      (value.quiet_check context).bind fun _ =>
        Check.quiet_report_isLocal (mismatchReports_isLocal _ _ _)
  | .block _ body => (Statement.quiet_checkAll context body).inFrame

theorem Statement.quiet_checkAll (context : BodyContext) :
    ∀ body : List Statement, (Statement.checkAll context body).Quiet
  | [] => Check.quiet_pure ()
  | statement :: rest =>
      (Statement.quiet_check context statement).bind fun _ =>
        Statement.quiet_checkAll context rest

end

theorem Method.quiet_checkBody (method : Method) : method.checkBody.Quiet := by
  unfold Method.checkBody
  cases method.body with
  | none => exact Check.quiet_pure ()
  | some body =>
      have binds (parameter : Parameter) : parameter.bind.Quiet :=
        (Check.quiet_read _).bind fun _ => Check.quiet_declare _
      exact (Check.quiet_read _).bind fun context =>
        ((Check.quiet_forEach binds _).bind fun _ =>
          (Statement.quiet_checkAll context body).bind fun _ =>
            Check.quiet_report_isLocal (method.missingReturnReports_isLocal _ _)).inFrame

theorem Shader.quiet_checkArgument (argument : Expression) :
    (Shader.checkArgument argument).Quiet :=
  (argument.quiet_check _).bind fun _ => Check.quiet_pure ()

theorem Generic.quiet_check (generic : Generic) : generic.check.Quiet :=
  (Check.quiet_resolve _).bind fun _ => (Check.quiet_annotate _ _).bind fun _ =>
    (Check.quiet_declareUnique (by simp) _).bind fun _ => Check.quiet_pure _

theorem SymbolTable.overloads_declareType (table : SymbolTable) (name : String)
    (type : ShaderType) :
    (table.declareType name type).overloads = table.overloads ∧
      (table.declareType name type).registering = table.registering := by
  unfold declareType
  split <;> exact ⟨rfl, rfl⟩

theorem Struct.quiet_check (struct : Struct) : struct.check.Quiet := by
  have resolves (field : StructField) : field.check.Quiet :=
    (Check.quiet_resolve _).bind fun _ => Check.quiet_pure _
  refine (Check.quiet_collect resolves _).bind fun fields =>
    (Check.quiet_annotate _ _).bind fun _ => (Check.quiet_read _).bind fun earlier => ?_
  cases earlier with
  | some type =>
      exact (Check.quiet_report (List.forall_mem_singleton.mpr rfl)).bind fun _ =>
        Check.quiet_pure _
  | none =>
      exact (Check.quiet_update fun table => table.overloads_declareType _ _).bind fun _ =>
        (Check.quiet_declare _).bind fun _ => Check.quiet_pure _

theorem Method.quiet_settle (method : Method) (symbol : Symbol) :
    (method.settle symbol).Quiet := by
  refine (Check.quiet_annotate _ _).bind fun _ => Check.Quiet.bind ?_ fun _ =>
    (Check.quiet_declare _).bind fun _ => Check.quiet_pure _
  exact Check.quiet_update fun _ => ⟨rfl, rfl⟩

theorem Member.quiet_check (member : Member) : member.check.Quiet := by
  have checksValue (expected : ShaderType) : (member.checkValue expected).Quiet := by
    unfold Member.checkValue
    split
    · exact Check.quiet_pure ()
    · split
      · exact quiet_checkInitializer _ _ _
      · exact Check.quiet_report (List.forall_mem_singleton.mpr rfl)
  exact (Check.quiet_resolve _).bind fun type => (checksValue type).bind fun _ =>
    (Check.quiet_annotate _ _).bind fun _ =>
      (Check.quiet_declareUnique (by simp) _).bind fun _ => Check.quiet_pure _

theorem Sampler.quiet_check (sampler : Sampler) : sampler.check.Quiet :=
  (Check.quiet_annotate _ _).bind fun _ =>
    (Check.quiet_declareUnique (by simp) _).bind fun _ => Check.quiet_pure _

theorem Composition.quiet_check (composition : Composition) : composition.check.Quiet :=
  (Check.quiet_annotate _ _).bind fun _ =>
    (Check.quiet_declareUnique (by simp) _).bind fun _ => Check.quiet_pure _

/-! ## From ledger to ledger -/

/-- A stage of the declarations with the overloads that are on record, the latest first. -/
structure Ledger where
  stage : Stage
  overloads : List (String × Overload)

/-- A table at the stage of a ledger, with exactly its overloads. -/
structure SymbolTable.Keeps (table : SymbolTable) (ledger : Ledger) : Prop where
  isAt : table.IsAt ledger.stage
  overloads : table.overloads = ledger.overloads
  registering : table.registering = ledger.stage.registering

namespace Check

variable {before middle after ledger : Ledger}

/-- From every table that keeps one ledger, a check finds the given value, leaves a table that keeps
another ledger, and reports these repeated methods. -/
def Enters (check : Check α) (before : Ledger) (value : α) (after : Ledger)
    (repeats : List Diagnostic) : Prop :=
  ∀ table : SymbolTable, table.Keeps before → (check table).value = value ∧
    (check table).table.Keeps after ∧
      (check table).reports.filter Diagnostic.isMethodRepeat = repeats

/-- A quiet check leaves the overloads of the ledger. -/
theorem Reaches.enters {check : Check α} {value : α} {start final : Stage}
    (reaches : check.Reaches start value final)
    (quiet : check.Quiet)
    (sameState : final.registering = start.registering)
    (overloads : List (String × Overload)) :
    check.Enters ⟨start, overloads⟩ value ⟨final, overloads⟩ [] := by
  intro table keeps
  obtain ⟨found, isAt, -⟩ := reaches table keeps.isAt
  have spares := quiet table
  refine ⟨found, ⟨isAt, spares.overloads.trans keeps.overloads,
    (spares.registering.trans keeps.registering).trans sameState.symm⟩, ?_⟩
  refine List.filter_eq_nil_iff.mpr fun report member => ?_
  simp [spares.reports report member]

theorem Enters.bind {check : Check α} {next : α → Check β} {value : α} {result : β}
    {repeats more : List Diagnostic}
    (first : check.Enters before value middle repeats)
    (second : (next value).Enters middle result after more) :
    (check >>= next).Enters before result after (repeats ++ more) := by
  intro table keeps
  obtain ⟨rfl, keepsMiddle, firstReports⟩ := first table keeps
  obtain ⟨found, keepsAfter, secondReports⟩ := second _ keepsMiddle
  refine ⟨found, keepsAfter, ?_⟩
  rw [bind_apply, List.filter_append, firstReports, secondReports]

theorem Enters.andThen {check : Check α} {next : α → Check β} {value : α} {result : β}
    {repeats : List Diagnostic}
    (first : check.Enters before value middle [])
    (second : (next value).Enters middle result after repeats) :
    (check >>= next).Enters before result after repeats :=
  first.bind second

/-- A quiet check in front of another one. -/
theorem Reaches.thenEnters {check : Check α} {next : α → Check β} {value : α} {result : β}
    {start final : Stage} {overloads : List (String × Overload)} {repeats : List Diagnostic}
    (reaches : check.Reaches start value final)
    (quiet : check.Quiet)
    (sameState : final.registering = start.registering)
    (second : (next value).Enters ⟨final, overloads⟩ result after repeats) :
    (check >>= next).Enters ⟨start, overloads⟩ result after repeats :=
  (reaches.enters quiet sameState overloads).andThen second

theorem enters_pure (value : α) : (pure value : Check α).Enters ledger value ledger [] :=
  fun _ keeps => ⟨rfl, keeps, rfl⟩

theorem Enters.collect_cons {check : α → Check β} {item : α} {rest : List α} {value : β}
    {values : List β} {repeats more : List Diagnostic}
    (first : (check item).Enters before value middle repeats)
    (others : (collect check rest).Enters middle values after more) :
    (collect check (item :: rest)).Enters before (value :: values) after (repeats ++ more) := by
  have whole : (collect check (item :: rest)).Enters before (value :: values) after
      (repeats ++ (more ++ [])) :=
    first.bind (others.bind (enters_pure _))
  rwa [List.append_nil] at whole

theorem enters_read {view : SymbolTable → α} {next : α → Check β} {result : β}
    {repeats : List Diagnostic}
    (each : ∀ table : SymbolTable, table.Keeps before →
      (next (view table)).Enters before result after repeats) :
    (read view >>= next).Enters before result after repeats :=
  fun table keeps => each table keeps table keeps

theorem enters_update {change : SymbolTable → SymbolTable}
    (changed : ∀ table : SymbolTable, table.Keeps before → (change table).Keeps after) :
    (update change).Enters before () after [] :=
  fun table keeps => ⟨rfl, changed table keeps, rfl⟩

theorem enters_attempt {change : SymbolTable → Except Diagnostic SymbolTable}
    (changed : ∀ table : SymbolTable, table.Keeps before →
      ∃ table', change table = .ok table' ∧ table'.Keeps after) :
    (attempt change).Enters before () after [] := by
  intro table keeps
  obtain ⟨table', succeeds, keepsAfter⟩ := changed table keeps
  unfold attempt
  rw [succeeds]
  exact ⟨rfl, keepsAfter, rfl⟩

theorem enters_report (diagnostics : List Diagnostic) :
    (report diagnostics).Enters ledger () ledger
      (diagnostics.filter Diagnostic.isMethodRepeat) :=
  fun _ keeps => ⟨rfl, keeps, rfl⟩

end Check

/-! ## Filling a slot -/

section Filling

variable {frame : Frame} {outer frames : List Frame} {types : SymbolTable} {name : String}
  {filled : List Symbol} {earlier : List (String × Overload)}

/-- A parameter is added to the open slot. -/
theorem Parameter.enters_check (parameter : Parameter) :
    parameter.check.Enters ⟨⟨frames, types, true⟩, (name, ⟨filled, none⟩) :: earlier⟩
      (parameter.type.denoted types)
      ⟨⟨frames, types.withParameter parameter, true⟩,
        (name, ⟨filled ++ [⟨parameter.name, .binding, .function, parameter.type.denoted types⟩],
          none⟩) :: earlier⟩ [] := by
  have declares : (Check.update fun table => if (parameter.type.denoted types).isUndefined then
      table else table.declareType (parameter.type.denoted types).text
        (parameter.type.denoted types)).Quiet := by
    refine Check.quiet_update fun table => ?_
    split
    · exact ⟨rfl, rfl⟩
    · exact table.overloads_declareType _ _
  refine (Check.reaches_resolve parameter.type).thenEnters (Check.quiet_resolve _) rfl <|
    parameter.reaches_declareType.thenEnters declares rfl <|
      (Check.enters_attempt fun table keeps => ?_).andThen <|
        (Check.reaches_annotate _ _).thenEnters (Check.quiet_annotate _ _) rfl
          (Check.enters_pure _)
  unfold SymbolTable.addParameter
  rw [keeps.registering, keeps.overloads]
  exact ⟨_, rfl,
    ⟨keeps.isAt.frames, keeps.isAt.declaredTypes, fun _ => ⟨rfl, List.cons_ne_nil _ _⟩⟩, rfl, rfl⟩

/-- Parameters are added to the open slot, in order. -/
theorem Parameter.enters_checkAll (parameters : List Parameter) :
    (Check.collect Parameter.check parameters).Enters
      ⟨⟨frames, types, true⟩, (name, ⟨filled, none⟩) :: earlier⟩
      (Parameter.typesIn types parameters)
      ⟨⟨frames, parameters.foldl SymbolTable.withParameter types, true⟩,
        (name, ⟨filled ++ Parameter.symbolsIn types parameters, none⟩) :: earlier⟩ [] := by
  induction parameters generalizing types filled with
  | nil =>
      rw [Parameter.symbolsIn, List.zipWith_nil_left, List.append_nil]
      exact Check.enters_pure []
  | cons parameter rest inductionHypothesis =>
      rw [Parameter.symbolsIn_cons, List.append_cons]
      exact parameter.enters_check.collect_cons inductionHypothesis

/-- The overloads of slots, the latest first. -/
def Method.overloads (slots : List (Method × Overload)) : List (String × Overload) :=
  (slots.map fun slot => (slot.1.name, slot.2)).reverse

theorem Method.overloads_append (front back : List (Method × Overload)) :
    Method.overloads (front ++ back) = Method.overloads back ++ Method.overloads front := by
  unfold Method.overloads
  rw [List.map_append, List.reverse_append]

theorem SymbolTable.overloadsOf_eq {table : SymbolTable} {slots : List (Method × Overload)}
    (same : table.overloads = Method.overloads slots) (name : String) :
    table.overloadsOf name = (slots.filter fun slot => slot.1.name == name).map Prod.snd := by
  unfold overloadsOf
  rw [same, Method.overloads, List.reverse_reverse, List.filter_map, List.map_map]
  rfl

/-- A signature is repeated exactly when an earlier slot of the name has it. -/
theorem SymbolTable.repeats_iff {table : SymbolTable} {slots : List (Method × Overload)}
    (same : table.overloads = Method.overloads slots) (name : String) (signature : Signature) :
    ((table.overloadsOf name).any fun overload => overload.signature = some signature) = true ↔
      ∃ other ∈ slots, other.1.name = name ∧ other.2.signature = some signature := by
  rw [table.overloadsOf_eq same]
  simp

/-- A method is complete when its check ends, whatever is reported. -/
theorem Method.enters_declare (method : Method) (slots : List (Method × Overload)) :
    method.declare.Enters ⟨⟨frame :: outer, types, false⟩, Method.overloads slots⟩
      (method.symbol types)
      ⟨⟨frame.add (method.symbol types) :: outer, types.withMethod method, false⟩,
        Method.overloads (slots ++ [(method, method.overload types)])⟩
      (Method.repeatReport slots (method, method.overload types)) := by
  refine Check.enters_read fun start startKeeps => ?_
  have registers : (Check.update fun table => table.registerFunction method.name).Enters
      ⟨⟨frame :: outer, types, false⟩, Method.overloads slots⟩ ()
      ⟨⟨frame :: outer, types, true⟩, (method.name, ⟨[], none⟩) :: Method.overloads slots⟩ [] :=
    Check.enters_update fun table keeps =>
      ⟨⟨keeps.isAt.frames, keeps.isAt.declaredTypes, fun _ => ⟨rfl, List.cons_ne_nil _ _⟩⟩,
        congrArg (_ :: ·) keeps.overloads, rfl⟩
  have completes (parameters : List Symbol) (signature : Signature) :
      (Check.attempt fun table => table.completeFunction signature).Enters
        ⟨⟨frame :: outer, types.withMethod method, true⟩,
          (method.name, ⟨parameters, none⟩) :: Method.overloads slots⟩ ()
        ⟨⟨frame :: outer, types.withMethod method, false⟩,
          (method.name, ⟨parameters, some signature⟩) :: Method.overloads slots⟩ [] := by
    refine Check.enters_attempt fun table keeps => ?_
    unfold SymbolTable.completeFunction
    rw [keeps.registering, keeps.overloads]
    exact ⟨_, rfl, ⟨keeps.isAt.frames, keeps.isAt.declaredTypes, nofun⟩, rfl, rfl⟩
  have finishes (signature : Signature) :
      (Check.attempt (fun table => table.completeFunction signature) >>= fun _ =>
        method.settle (method.symbol types)).Enters
          ⟨⟨frame :: outer, types.withMethod method, true⟩,
            (method.name, ⟨Parameter.symbolsIn types method.parameters, none⟩) ::
              Method.overloads slots⟩ (method.symbol types)
          ⟨⟨frame.add (method.symbol types) :: outer, types.withMethod method, false⟩,
            (method.name, ⟨Parameter.symbolsIn types method.parameters, some signature⟩) ::
              Method.overloads slots⟩ [] :=
    (completes _ signature).andThen
      ((method.reaches_settle (method.symbol types)).enters (method.quiet_settle _) rfl _)
  rw [Method.overloads_append]
  refine registers.andThen <|
    (Check.reaches_resolve method.returned).thenEnters (Check.quiet_resolve _) rfl <|
      (Parameter.enters_checkAll method.parameters).andThen ?_
  have repeats := SymbolTable.repeats_iff startKeeps.overloads method.name
    ⟨method.returned.denoted types, Parameter.typesIn types method.parameters⟩
  dsimp only
  unfold Method.repeatReport Method.overload
  split
  · next isRepeated =>
      rw [if_pos (repeats.mp isRepeated)]
      exact (Check.enters_report _).bind (finishes _)
  · next isNew =>
      rw [if_neg (isNew ∘ repeats.mpr)]
      exact finishes _

/-- Methods are completed in order. -/
theorem Method.enters_declareAll (methods : List Method) (slots : List (Method × Overload)) :
    (Check.collect Method.declare methods).Enters
      ⟨⟨frame :: outer, types, false⟩, Method.overloads slots⟩ (Method.symbols types methods)
      ⟨⟨(Method.symbols types methods).foldl Frame.add frame :: outer,
        methods.foldl SymbolTable.withMethod types, false⟩,
        Method.overloads (slots ++ Method.overloadSlots types methods)⟩
      (Method.repeatReports slots (Method.overloadSlots types methods)) := by
  induction methods generalizing frame types slots with
  | nil =>
      rw [Method.overloadSlots, List.append_nil]
      exact Check.enters_pure []
  | cons method rest inductionHypothesis =>
      rw [Method.overloadSlots, Method.repeatReports, List.append_cons]
      exact (method.enters_declare slots).collect_cons (inductionHypothesis _)

theorem Shader.enters_checkDeclarations (shader : Shader) (slots : List (Method × Overload)) :
    ∃ components, shader.checkDeclarations.Enters
      ⟨⟨.empty :: outer, types, false⟩, Method.overloads slots⟩ components
      ⟨⟨shader.frame types :: outer, types.withShader shader, false⟩,
        Method.overloads (slots ++ Method.overloadSlots (shader.typed types) shader.methods)⟩
      (Method.repeatReports slots (Method.overloadSlots (shader.typed types) shader.methods)) := by
  obtain ⟨structs, structsReach⟩ := Struct.reaches_checkAll
    ((shader.generics.map (Generic.symbol types)).foldl Frame.addUnique .empty) types shader.structs
  refine ⟨shader.generics.map (Generic.symbol types) ++ structs ++
    shader.members.map (Member.symbol (shader.typed types)) ++
    shader.samplers.map Sampler.symbol ++ shader.compositions.map Composition.symbol ++
    shader.methodSymbols types, ?_⟩
  refine (Check.reaches_collect_unique fun generic _ => generic.reaches_check).thenEnters
      (Check.quiet_collect Generic.quiet_check _) rfl <|
    structsReach.thenEnters (Check.quiet_collect Struct.quiet_check _) rfl <|
      (Check.reaches_collect_unique fun member _ => member.reaches_check).thenEnters
        (Check.quiet_collect Member.quiet_check _) rfl <|
        (Check.reaches_collect_unique fun sampler _ => sampler.reaches_check).thenEnters
          (Check.quiet_collect Sampler.quiet_check _) rfl <|
          (Check.reaches_collect_unique fun composition _ => composition.reaches_check).thenEnters
            (Check.quiet_collect Composition.quiet_check _) rfl ?_
  unfold Shader.frame Shader.instanceSymbols
  simp only [List.foldl_append]
  rw [← List.append_nil (Method.repeatReports _ _)]
  exact (Method.enters_declareAll _ _).bind (Check.enters_pure _)

/-- A check of a shader completes the methods of the shader, in order. -/
theorem Shader.enters_check (shader : Shader) (slots : List (Method × Overload)) :
    shader.check.Enters ⟨⟨frames, types, false⟩, Method.overloads slots⟩ ()
      ⟨⟨shader.frame types :: frames, types.withShader shader, false⟩,
        Method.overloads (slots ++ Method.overloadSlots (shader.typed types) shader.methods)⟩
      (Method.repeatReports slots (Method.overloadSlots (shader.typed types) shader.methods)) := by
  obtain ⟨components, declarations⟩ := shader.enters_checkDeclarations slots
  have opens : (Check.update SymbolTable.push).Reaches ⟨frames, types, false⟩ ()
      ⟨.empty :: frames, types, false⟩ :=
    Check.reaches_update fun table isAt =>
      ⟨congrArg (Frame.empty :: ·) isAt.frames, isAt.declaredTypes, nofun⟩
  have names (stage : Stage) (symbol : ShaderSymbol) :
      (Check.update fun table => table.setShader symbol).Reaches stage () stage :=
    Check.reaches_update fun table isAt => ⟨isAt.frames, isAt.declaredTypes, isAt.registering⟩
  have bodies (stage : Stage) :
      (Check.forEach Method.checkBody shader.methods).Reaches stage () stage :=
    Check.reaches_forEach fun method _ =>
      (Method.onlyNotes_checkBody (fun _ _ => trivial) (List.Subset.refl _)).reaches
  have arguments (stage : Stage) :
      (Check.forEach Shader.checkArgument shader.attributeArguments).Reaches stage () stage :=
    Check.reaches_forEach fun argument _ =>
      (Shader.onlyNotes_checkArgument (List.Subset.refl _)).reaches
  refine opens.thenEnters (Check.quiet_update fun _ => ⟨rfl, rfl⟩) rfl ?_
  rw [← List.append_nil (Method.repeatReports _ _)]
  refine declarations.bind <| (names _ _).thenEnters (Check.quiet_update fun _ => ⟨rfl, rfl⟩) rfl <|
    (arguments _).thenEnters (Check.quiet_forEach Shader.quiet_checkArgument _) rfl <|
      (bodies _).enters (Check.quiet_forEach Method.quiet_checkBody _) rfl _

theorem Shader.enters_checkAll (shaders : List Shader) (slots : List (Method × Overload)) :
    ∃ final : Stage, final.registering = false ∧
      (Check.forEach Shader.check shaders).Enters
        ⟨⟨frames, types, false⟩, Method.overloads slots⟩ ()
        ⟨final, Method.overloads (slots ++ Shader.overloadSlots types shaders)⟩
        (Method.repeatReports slots (Shader.overloadSlots types shaders)) := by
  induction shaders generalizing frames types slots with
  | nil =>
      refine ⟨⟨frames, types, false⟩, rfl, ?_⟩
      rw [Shader.overloadSlots, List.append_nil]
      exact Check.enters_pure ()
  | cons shader rest inductionHypothesis =>
      obtain ⟨final, closed, others⟩ := inductionHypothesis
        (slots ++ Method.overloadSlots (shader.typed types) shader.methods)
      refine ⟨final, closed, ?_⟩
      rw [Shader.overloadSlots, Method.repeatReports_append, ← List.append_assoc]
      exact (shader.enters_check slots).bind others

end Filling

/-- Whatever is reported while shaders are checked one after the other, the overloads are those of
their methods in order, each with the symbols of its parameters and its signature, no overload is
left open, and a method is reported as repeated exactly when an earlier overload of its name has its
signature. -/
theorem Shader.checkAll_mirrorsMethods (shaders : List Shader) :
    let checked := Check.forEach Shader.check shaders .empty
    let slots := Shader.overloadSlots .empty shaders
    slots.map Prod.fst = shaders.flatMap Shader.methods ∧
      (∀ slot ∈ slots, slot.2.IsOf slot.1) ∧
      (∀ name, checked.table.overloadsOf name =
        (slots.filter fun slot => slot.1.name == name).map Prod.snd) ∧
      checked.table.currentOverload? = none ∧
      checked.reports.filter Diagnostic.isMethodRepeat = Method.repeatReports [] slots := by
  intro checked slots
  obtain ⟨final, closed, enters⟩ := Shader.enters_checkAll shaders []
  have start : SymbolTable.empty.Keeps ⟨⟨[], .empty, false⟩, Method.overloads []⟩ :=
    ⟨⟨rfl, rfl, nofun⟩, rfl, rfl⟩
  obtain ⟨-, keeps, repeats⟩ := enters SymbolTable.empty start
  refine ⟨Shader.overloadSlots_fst _ _, fun slot member => ?_,
    SymbolTable.overloadsOf_eq keeps.overloads, ?_, repeats⟩
  · obtain ⟨types, isOverload⟩ := Shader.overload_of_mem member
    rw [isOverload]
    exact slot.1.overload_isOf types
  · unfold SymbolTable.currentOverload?
    rw [keeps.registering, closed]
    rfl

example : (Check.forEach Shader.check [.crowded, .crowded] .empty).reports.filter
    Diagnostic.isMethodRepeat =
      [.redeclaration .method "mix" .unknown, .redeclaration .method "mix" .unknown] := by
  decide +kernel

end ShaderLang
