import ShaderLang.Proofs.FrameContents
import ShaderLang.Proofs.LocalChecks

/-!
# The frame of a shader

Checking a shader adds one frame to the stack, whatever is reported.  In it stand the symbols of the
declarations: of variables, sampler states and compositions the first one of its name, of structs
those whose name was not a type yet, and of methods the last one of its name.  Nothing that is
declared in a body is left.
-/

namespace ShaderLang

variable {α β : Type}

/-! ## The symbols of declarations -/

/-- The symbol of a generic parameter. -/
def Generic.symbol (table : SymbolTable) (generic : Generic) : Symbol :=
  ⟨generic.name, .binding, .generic, generic.type.denoted table⟩

/-- The type of a struct. -/
def Struct.type (table : SymbolTable) (struct : Struct) : ShaderType :=
  .struct struct.name (struct.fields.map fun field => ⟨field.name, field.type.denoted table⟩)

/-- The symbol of a struct. -/
def Struct.symbol (table : SymbolTable) (struct : Struct) : Symbol :=
  ⟨struct.name, .struct, .none, struct.type table⟩

/-- The symbol of a member. -/
def Member.symbol (table : SymbolTable) (member : Member) : Symbol :=
  ⟨member.name, .binding, member.symbolStorage, member.type.denoted table⟩

/-- The symbol of a sampler state. -/
def Sampler.symbol (sampler : Sampler) : Symbol :=
  ⟨sampler.name, .binding, .uniform, sampler.kind.type⟩

/-- The symbol of a composition. -/
def Composition.symbol (composition : Composition) : Symbol :=
  ⟨composition.name, .composition, .none, .shader composition.mixin []⟩

namespace SymbolTable

/-- The table behind a struct: its type is declared, unless its name is a type already. -/
def withStruct (table : SymbolTable) (struct : Struct) : SymbolTable :=
  if (table.resolveType? struct.name).isSome then
    table
  else
    table.declareType struct.name (struct.type table)

/-- The table behind a parameter: its type is declared under its description. -/
def withParameter (table : SymbolTable) (parameter : Parameter) : SymbolTable :=
  let type := parameter.type.denoted table
  if type.isUndefined then table else table.declareType type.text type

/-- The table behind a method. -/
def withMethod (table : SymbolTable) (method : Method) : SymbolTable :=
  method.parameters.foldl withParameter table

end SymbolTable

/-- The types of parameters, each of which declares its type for the ones behind it. -/
def Parameter.typesIn : SymbolTable → List Parameter → List ShaderType
  | _, [] => []
  | table, parameter :: rest =>
      parameter.type.denoted table :: typesIn (table.withParameter parameter) rest

/-- The symbol of a method. -/
def Method.symbol (table : SymbolTable) (method : Method) : Symbol :=
  ⟨method.name, .method, .none,
    .function (method.returned.denoted table) (Parameter.typesIn table method.parameters)⟩

/-- The symbols of those structs whose names are not types yet when their turn comes. -/
def Struct.newSymbols : SymbolTable → List Struct → List Symbol
  | _, [] => []
  | table, struct :: rest =>
      if (table.resolveType? struct.name).isSome then
        newSymbols (table.withStruct struct) rest
      else
        struct.symbol table :: newSymbols (table.withStruct struct) rest

/-- The symbols of methods. -/
def Method.symbols : SymbolTable → List Method → List Symbol
  | _, [] => []
  | table, method :: rest => method.symbol table :: symbols (table.withMethod method) rest

namespace Shader

/-- The table behind the structs of a shader. -/
def typed (shader : Shader) (table : SymbolTable) : SymbolTable :=
  shader.structs.foldl SymbolTable.withStruct table

/-- The symbols of members, sampler states and compositions, in that order. -/
def instanceSymbols (shader : Shader) (table : SymbolTable) : List Symbol :=
  shader.members.map (Member.symbol (shader.typed table)) ++ shader.samplers.map Sampler.symbol ++
    shader.compositions.map Composition.symbol

/-- The symbols of methods, in order. -/
def methodSymbols (shader : Shader) (table : SymbolTable) : List Symbol :=
  Method.symbols (shader.typed table) shader.methods

/-- What the frame of a shader has to hold. -/
inductive Exposes (shader : Shader) (table : SymbolTable) : Symbol → Prop
  | first {symbol : Symbol}
      (found : Symbol.find? (shader.generics.map (Generic.symbol table) ++
        shader.instanceSymbols table) symbol.name symbol.kind = some symbol) :
      Exposes shader table symbol
  | struct {symbol : Symbol}
      (declared : symbol ∈ Struct.newSymbols table shader.structs) :
      Exposes shader table symbol
  | method {symbol : Symbol}
      (last : Symbol.find? (shader.methodSymbols table).reverse symbol.name symbol.kind =
        some symbol) :
      Exposes shader table symbol

/-- The frame that declaring the symbols of a shader one after the other gives. -/
def frame (shader : Shader) (table : SymbolTable) : Frame :=
  let generics := (shader.generics.map (Generic.symbol table)).foldl Frame.addUnique .empty
  let structs := (Struct.newSymbols table shader.structs).foldl Frame.add generics
  let instances := (shader.instanceSymbols table).foldl Frame.addUnique structs
  (shader.methodSymbols table).foldl Frame.add instances

end Shader

/-! ## From stage to stage -/

/-- What declarations read and change of a symbol table.  Of the table with the types only the
declared types count. -/
structure Stage where
  frames : List Frame
  types : SymbolTable
  registering : Bool

/-- A table with the frames and the declared types of a stage, in which an overload is being
registered if the stage says so. -/
structure SymbolTable.IsAt (table : SymbolTable) (stage : Stage) : Prop where
  frames : table.frames = stage.frames
  declaredTypes : table.declaredTypes = stage.types.declaredTypes
  registering : stage.registering = true → table.registering = true ∧ table.overloads ≠ []

namespace SymbolTable.IsAt

variable {table : SymbolTable} {stage : Stage}

theorem noted (isAt : table.IsAt stage) (notes : List (NodeId × ShaderType)) :
    (table.noted notes).IsAt stage :=
  ⟨isAt.frames, isAt.declaredTypes, isAt.registering⟩

theorem resolveType?_eq (isAt : table.IsAt stage) (name : String) :
    table.resolveType? name = stage.types.resolveType? name := by
  unfold resolveType? declaredType?
  rw [isAt.declaredTypes]

theorem resolve_eq (isAt : table.IsAt stage) (written : TypeName) :
    written.resolve table = written.resolve stage.types := by
  unfold TypeName.resolve
  rw [isAt.resolveType?_eq]

end SymbolTable.IsAt

namespace Check

variable {stage before middle after : Stage}

/-- From every table at one stage, a check finds the given value, leaves a table at another stage,
and reports on the shader only. -/
def Reaches (check : Check α) (before : Stage) (value : α) (after : Stage) : Prop :=
  ∀ table : SymbolTable, table.IsAt before → (check table).value = value ∧
    (check table).table.IsAt after ∧ ∀ report ∈ (check table).reports, report.isInternal = false

theorem reaches_pure (value : α) : (pure value : Check α).Reaches stage value stage :=
  fun _ isAt => ⟨rfl, isAt, List.forall_mem_nil _⟩

theorem Reaches.bind {check : Check α} {next : α → Check β} {value : α} {result : β}
    (first : check.Reaches before value middle)
    (second : (next value).Reaches middle result after) :
    (check >>= next).Reaches before result after := by
  intro table isAt
  obtain ⟨rfl, isAtMiddle, firstReports⟩ := first table isAt
  obtain ⟨found, isAtAfter, secondReports⟩ := second _ isAtMiddle
  exact ⟨found, isAtAfter, List.forall_mem_append.mpr ⟨firstReports, secondReports⟩⟩

theorem Reaches.andThen {check : Check α} {next : Check β} {value : α} {result : β}
    (first : check.Reaches before value middle)
    (second : next.Reaches middle result after) :
    (check >>= fun _ => next).Reaches before result after :=
  first.bind second

/-- What is read may be anything. -/
theorem reaches_read {view : SymbolTable → α} {next : α → Check β} {result : β}
    (each : ∀ table : SymbolTable, table.IsAt before →
      (next (view table)).Reaches before result after) :
    (read view >>= next).Reaches before result after :=
  fun table isAt => each table isAt table isAt

theorem reaches_report {diagnostics : List Diagnostic}
    (notInternal : ∀ report ∈ diagnostics, report.isInternal = false) :
    (report diagnostics).Reaches stage () stage :=
  fun _ isAt => ⟨rfl, isAt, notInternal⟩

theorem reaches_update {change : SymbolTable → SymbolTable}
    (changed : ∀ table : SymbolTable, table.IsAt before → (change table).IsAt after) :
    (update change).Reaches before () after :=
  fun table isAt => ⟨rfl, changed table isAt, List.forall_mem_nil _⟩

theorem reaches_attempt {change : SymbolTable → Except Diagnostic SymbolTable}
    (changed : ∀ table : SymbolTable, table.IsAt before →
      ∃ table', change table = .ok table' ∧ table'.IsAt after) :
    (attempt change).Reaches before () after := by
  intro table isAt
  obtain ⟨table', succeeds, isAtAfter⟩ := changed table isAt
  unfold attempt
  rw [succeeds]
  exact ⟨rfl, isAtAfter, List.forall_mem_nil _⟩

theorem reaches_annotate (node : NodeId) (type : ShaderType) :
    (annotate node type).Reaches stage () stage :=
  reaches_update fun _ isAt => isAt.noted [(node, type)]

theorem reaches_resolve (written : TypeName) :
    (resolve written).Reaches stage (written.denoted stage.types) stage := by
  intro table isAt
  unfold TypeName.denoted resolve
  rw [isAt.resolve_eq]
  cases resolved : written.resolve stage.types with
  | ok type => exact ⟨rfl, isAt, List.forall_mem_nil _⟩
  | error diagnostic =>
      have notInternal := Diagnostic.not_internal_of_isLocal (TypeName.resolve_isLocal resolved)
      exact ⟨rfl, isAt, List.forall_mem_singleton.mpr notInternal⟩

/-- A check that adds types of nodes stays at its stage. -/
theorem OnlyNotes.reaches {check : Check Unit} {writes : List NodeId}
    (onlyNotes : check.OnlyNotes (fun _ => True) writes) :
    check.Reaches stage () stage := by
  intro table isAt
  obtain ⟨notes, -, same, notInternal⟩ := onlyNotes.noted table
  rw [same]
  exact ⟨rfl, isAt.noted notes, notInternal⟩

theorem reaches_forEach {check : α → Check Unit} {items : List α}
    (each : ∀ item ∈ items, (check item).Reaches stage () stage) :
    (forEach check items).Reaches stage () stage := by
  induction items with
  | nil => exact reaches_pure ()
  | cons item rest inductionHypothesis =>
      obtain ⟨itemReaches, restReaches⟩ := List.forall_mem_cons.mp each
      exact itemReaches.bind (inductionHypothesis restReaches)

theorem Reaches.collect_cons {check : α → Check β} {item : α} {rest : List α} {value : β}
    {values : List β}
    (first : (check item).Reaches before value middle)
    (others : (collect check rest).Reaches middle values after) :
    (collect check (item :: rest)).Reaches before (value :: values) after :=
  first.bind (others.bind (reaches_pure _))

/-! ## Declaring symbols -/

section Declaring

variable {frame : Frame} {outer : List Frame} {types : SymbolTable} {registering : Bool}

theorem reaches_declare (symbol : Symbol) :
    (declare symbol).Reaches ⟨frame :: outer, types, registering⟩ ()
      ⟨frame.add symbol :: outer, types, registering⟩ := by
  refine reaches_attempt fun table isAt => ?_
  unfold SymbolTable.declare
  rw [isAt.frames]
  exact ⟨_, rfl, rfl, isAt.declaredTypes, isAt.registering⟩

theorem reaches_declareUnique (symbol : Symbol) (location : Location) :
    (declareUnique symbol location).Reaches ⟨frame :: outer, types, registering⟩ ()
      ⟨frame.addUnique symbol :: outer, types, registering⟩ := by
  refine reaches_read fun table isAt => ?_
  have here : table.currentFrame? = some frame := by
    unfold SymbolTable.currentFrame?
    rw [isAt.frames]
    rfl
  rw [here, Option.bind_some]
  unfold Frame.addUnique
  cases frame.find? symbol.name symbol.kind with
  | some earlier => exact reaches_report (List.forall_mem_singleton.mpr rfl)
  | none => exact reaches_declare symbol

theorem reaches_declareType (name : String) (type : ShaderType) {frames : List Frame} :
    (update fun table => table.declareType name type).Reaches ⟨frames, types, registering⟩ ()
      ⟨frames, types.declareType name type, registering⟩ := by
  refine reaches_update fun table isAt => ?_
  unfold SymbolTable.declareType SymbolTable.declaredType?
  rw [isAt.declaredTypes]
  split
  · exact isAt
  · exact ⟨isAt.frames, rfl, isAt.registering⟩

/-- A pass of declarations that keep the first of rivals. -/
theorem reaches_collect_unique {check : α → Check Symbol} {symbol : α → Symbol} {items : List α}
    (each : ∀ item frame, (check item).Reaches ⟨frame :: outer, types, registering⟩ (symbol item)
      ⟨frame.addUnique (symbol item) :: outer, types, registering⟩) :
    (collect check items).Reaches ⟨frame :: outer, types, registering⟩ (items.map symbol)
      ⟨(items.map symbol).foldl Frame.addUnique frame :: outer, types, registering⟩ := by
  induction items generalizing frame with
  | nil => exact reaches_pure []
  | cons item rest inductionHypothesis => exact (each item frame).collect_cons inductionHypothesis

end Declaring

end Check

/-! ## The declarations of a shader -/

section Declarations

variable {frame : Frame} {outer frames : List Frame} {types : SymbolTable} {registering : Bool}
  {stage : Stage}

theorem Generic.reaches_check (generic : Generic) :
    generic.check.Reaches ⟨frame :: outer, types, registering⟩ (generic.symbol types)
      ⟨frame.addUnique (generic.symbol types) :: outer, types, registering⟩ :=
  (Check.reaches_resolve generic.type).bind <| (Check.reaches_annotate _ _).bind <|
    (Check.reaches_declareUnique (generic.symbol types) _).bind <| Check.reaches_pure _

theorem reaches_checkInitializer (context : BodyContext) (expected : ShaderType)
    (value : Expression) :
    (checkInitializer context expected (some value)).Reaches stage () stage := by
  intro table isAt
  have checked := value.check_noted context table
  unfold checkInitializer
  dsimp only
  rw [Check.bind_apply, checked]
  exact ⟨rfl, isAt.noted _, List.forall_mem_append.mpr
    ⟨value.typing_not_internal _ _, mismatchReports_not_internal _ _ _⟩⟩

theorem Member.reaches_checkValue (member : Member) (expected : ShaderType) :
    (member.checkValue expected).Reaches stage () stage := by
  unfold Member.checkValue
  split
  · exact Check.reaches_pure ()
  · split
    · exact reaches_checkInitializer _ _ _
    · exact Check.reaches_report (List.forall_mem_singleton.mpr rfl)

theorem Member.reaches_check (member : Member) :
    member.check.Reaches ⟨frame :: outer, types, registering⟩ (member.symbol types)
      ⟨frame.addUnique (member.symbol types) :: outer, types, registering⟩ :=
  (Check.reaches_resolve member.type).bind <| (member.reaches_checkValue _).bind <|
    (Check.reaches_annotate _ _).bind <|
      (Check.reaches_declareUnique (member.symbol types) _).bind <| Check.reaches_pure _

theorem Sampler.reaches_check (sampler : Sampler) :
    sampler.check.Reaches ⟨frame :: outer, types, registering⟩ sampler.symbol
      ⟨frame.addUnique sampler.symbol :: outer, types, registering⟩ :=
  (Check.reaches_annotate _ _).bind <|
    (Check.reaches_declareUnique sampler.symbol _).bind <| Check.reaches_pure _

theorem Composition.reaches_check (composition : Composition) :
    composition.check.Reaches ⟨frame :: outer, types, registering⟩ composition.symbol
      ⟨frame.addUnique composition.symbol :: outer, types, registering⟩ :=
  (Check.reaches_annotate _ _).bind <|
    (Check.reaches_declareUnique composition.symbol _).bind <| Check.reaches_pure _

theorem StructField.reaches_checkAll (fields : List StructField) :
    (Check.collect StructField.check fields).Reaches stage
      (fields.map fun field => ⟨field.name, field.type.denoted stage.types⟩) stage := by
  induction fields with
  | nil => exact Check.reaches_pure []
  | cons field rest inductionHypothesis =>
      have first : field.check.Reaches stage ⟨field.name, field.type.denoted stage.types⟩ stage :=
        (Check.reaches_resolve field.type).bind (Check.reaches_pure _)
      exact first.collect_cons inductionHypothesis

theorem Struct.reaches_check (struct : Struct) :
    struct.check.Reaches ⟨frame :: outer, types, registering⟩ (struct.symbol types)
      ⟨(Struct.newSymbols types [struct]).foldl Frame.add frame :: outer,
        types.withStruct struct, registering⟩ := by
  refine (StructField.reaches_checkAll struct.fields).bind ?_
  refine (Check.reaches_annotate _ _).bind (Check.reaches_read fun table isAt => ?_)
  rw [isAt.resolveType?_eq]
  unfold SymbolTable.withStruct Struct.newSymbols
  cases types.resolveType? struct.name with
  | some earlier =>
      exact (Check.reaches_report (List.forall_mem_singleton.mpr rfl)).bind (Check.reaches_pure _)
  | none =>
      exact (Check.reaches_declareType struct.name (struct.type types)).bind <|
        (Check.reaches_declare (struct.symbol types)).bind (Check.reaches_pure _)

theorem Struct.newSymbols_cons (types : SymbolTable) (struct : Struct) (rest : List Struct) :
    Struct.newSymbols types (struct :: rest) =
      Struct.newSymbols types [struct] ++ Struct.newSymbols (types.withStruct struct) rest := by
  simp only [Struct.newSymbols]
  split <;> rfl

theorem Struct.reaches_checkAll (frame : Frame) (types : SymbolTable) (structs : List Struct) :
    ∃ symbols, (Check.collect Struct.check structs).Reaches
      ⟨frame :: outer, types, registering⟩ symbols
      ⟨(Struct.newSymbols types structs).foldl Frame.add frame :: outer,
        structs.foldl SymbolTable.withStruct types, registering⟩ := by
  induction structs generalizing frame types with
  | nil => exact ⟨[], Check.reaches_pure []⟩
  | cons struct rest inductionHypothesis =>
      obtain ⟨symbols, others⟩ := inductionHypothesis
        ((Struct.newSymbols types [struct]).foldl Frame.add frame) (types.withStruct struct)
      refine ⟨struct.symbol types :: symbols, ?_⟩
      rw [Struct.newSymbols_cons, List.foldl_append]
      exact struct.reaches_check.collect_cons others

theorem Parameter.reaches_declareType (parameter : Parameter) :
    (Check.update fun table => if (parameter.type.denoted types).isUndefined then table
      else table.declareType (parameter.type.denoted types).text
        (parameter.type.denoted types)).Reaches ⟨frames, types, registering⟩ ()
          ⟨frames, types.withParameter parameter, registering⟩ := by
  cases placeholder : (parameter.type.denoted types).isUndefined with
  | true =>
      simp only [SymbolTable.withParameter, placeholder, if_true]
      exact Check.reaches_update fun _ isAt => isAt
  | false =>
      simp only [SymbolTable.withParameter, placeholder, Bool.false_eq_true, if_false]
      exact Check.reaches_declareType _ _

theorem Parameter.reaches_check (parameter : Parameter) :
    parameter.check.Reaches ⟨frames, types, true⟩ (parameter.type.denoted types)
      ⟨frames, types.withParameter parameter, true⟩ := by
  refine (Check.reaches_resolve parameter.type).bind <| parameter.reaches_declareType.bind <|
    (Check.reaches_attempt fun table isAt => ?_).bind <|
      (Check.reaches_annotate _ _).bind (Check.reaches_pure _)
  obtain ⟨registering, opened⟩ := isAt.registering rfl
  obtain ⟨⟨name, overload⟩, rest, overloads⟩ := List.exists_cons_of_ne_nil opened
  unfold SymbolTable.addParameter
  rw [registering, overloads]
  exact ⟨_, rfl, isAt.frames, isAt.declaredTypes, fun _ => ⟨rfl, List.cons_ne_nil _ _⟩⟩

theorem Parameter.reaches_checkAll (types : SymbolTable) (parameters : List Parameter) :
    (Check.collect Parameter.check parameters).Reaches ⟨frames, types, true⟩
      (Parameter.typesIn types parameters)
      ⟨frames, parameters.foldl SymbolTable.withParameter types, true⟩ := by
  induction parameters generalizing types with
  | nil => exact Check.reaches_pure []
  | cons parameter rest inductionHypothesis =>
      exact parameter.reaches_check.collect_cons (inductionHypothesis _)

/-- What is left of the check of a method when its signature is complete. -/
def Method.settle (method : Method) (symbol : Symbol) : Check Symbol := do
  Check.annotate method.node symbol.type
  Check.update fun table =>
    table.annotateMethod method.node ⟨EntryPoint.ofMethodName? method.name, .typeResolved⟩
  Check.declare symbol
  return symbol

theorem Method.reaches_settle (method : Method) (symbol : Symbol) :
    (method.settle symbol).Reaches ⟨frame :: outer, types, registering⟩ symbol
      ⟨frame.add symbol :: outer, types, registering⟩ := by
  have annotates : (Check.update fun table => table.annotateMethod method.node
      ⟨EntryPoint.ofMethodName? method.name, .typeResolved⟩).Reaches
        ⟨frame :: outer, types, registering⟩ () ⟨frame :: outer, types, registering⟩ :=
    Check.reaches_update fun table isAt => ⟨isAt.frames, isAt.declaredTypes, isAt.registering⟩
  exact (Check.reaches_annotate method.node symbol.type).andThen <|
    annotates.andThen <| (Check.reaches_declare symbol).andThen <| Check.reaches_pure symbol

theorem Method.reaches_declare (method : Method) :
    method.declare.Reaches ⟨frame :: outer, types, registering⟩ (method.symbol types)
      ⟨frame.add (method.symbol types) :: outer, types.withMethod method, false⟩ := by
  refine Check.reaches_read fun _ _ => ?_
  have registers : (Check.update fun table => table.registerFunction method.name).Reaches
      ⟨frame :: outer, types, registering⟩ () ⟨frame :: outer, types, true⟩ :=
    Check.reaches_update fun table isAt =>
      ⟨isAt.frames, isAt.declaredTypes, fun _ => ⟨rfl, List.cons_ne_nil _ _⟩⟩
  have completes (signature : Signature) :
      (Check.attempt fun table => table.completeFunction signature).Reaches
        ⟨frame :: outer, types.withMethod method, true⟩ ()
        ⟨frame :: outer, types.withMethod method, false⟩ := by
    refine Check.reaches_attempt fun table isAt => ?_
    obtain ⟨registering, opened⟩ := isAt.registering rfl
    obtain ⟨⟨name, overload⟩, rest, overloads⟩ := List.exists_cons_of_ne_nil opened
    unfold SymbolTable.completeFunction
    rw [registering, overloads]
    exact ⟨_, rfl, isAt.frames, isAt.declaredTypes, nofun⟩
  refine registers.bind ((Check.reaches_resolve method.returned).bind
    ((Parameter.reaches_checkAll types method.parameters).bind ?_))
  have finishes :=
    (completes ⟨method.returned.denoted types, Parameter.typesIn types method.parameters⟩).andThen
      (method.reaches_settle (method.symbol types))
  dsimp only
  split
  · exact (Check.reaches_report (List.forall_mem_singleton.mpr rfl)).andThen finishes
  · exact finishes

theorem Method.reaches_declareAll (frame : Frame) (types : SymbolTable) (methods : List Method) :
    (Check.collect Method.declare methods).Reaches ⟨frame :: outer, types, false⟩
      (Method.symbols types methods)
      ⟨(Method.symbols types methods).foldl Frame.add frame :: outer,
        methods.foldl SymbolTable.withMethod types, false⟩ := by
  induction methods generalizing frame types with
  | nil => exact Check.reaches_pure []
  | cons method rest inductionHypothesis =>
      exact method.reaches_declare.collect_cons (inductionHypothesis _ _)

theorem Shader.reaches_checkDeclarations (shader : Shader) (types : SymbolTable) :
    ∃ components, shader.checkDeclarations.Reaches ⟨.empty :: outer, types, false⟩ components
      ⟨shader.frame types :: outer,
        shader.methods.foldl SymbolTable.withMethod (shader.typed types), false⟩ := by
  obtain ⟨structs, structsReach⟩ := Struct.reaches_checkAll
    ((shader.generics.map (Generic.symbol types)).foldl Frame.addUnique .empty) types shader.structs
  refine ⟨shader.generics.map (Generic.symbol types) ++ structs ++
    shader.members.map (Member.symbol (shader.typed types)) ++
    shader.samplers.map Sampler.symbol ++ shader.compositions.map Composition.symbol ++
    shader.methodSymbols types, ?_⟩
  refine (Check.reaches_collect_unique fun generic _ => generic.reaches_check).bind <|
    structsReach.bind <|
      (Check.reaches_collect_unique fun member _ => member.reaches_check).bind <|
        (Check.reaches_collect_unique fun sampler _ => sampler.reaches_check).bind <|
          (Check.reaches_collect_unique fun composition _ => composition.reaches_check).bind ?_
  unfold Shader.frame Shader.instanceSymbols
  simp only [List.foldl_append]
  exact (Method.reaches_declareAll _ _ _).bind (Check.reaches_pure _)

/-- A check of a shader opens one frame, and leaves it with the symbols of its declarations. -/
theorem Shader.reaches_check (shader : Shader) (types : SymbolTable) :
    shader.check.Reaches ⟨frames, types, false⟩ ()
      ⟨shader.frame types :: frames,
        shader.methods.foldl SymbolTable.withMethod (shader.typed types), false⟩ := by
  obtain ⟨components, declarations⟩ := shader.reaches_checkDeclarations types
  refine (Check.reaches_update fun table isAt => ?_).bind (declarations.bind
    ((Check.reaches_update fun table isAt => ?_).bind (.bind (Check.reaches_forEach ?_)
      (Check.reaches_forEach ?_))))
  · exact ⟨congrArg (Frame.empty :: ·) isAt.frames, isAt.declaredTypes, nofun⟩
  · exact ⟨isAt.frames, isAt.declaredTypes, nofun⟩
  · exact fun argument _ => (Shader.onlyNotes_checkArgument (List.Subset.refl _)).reaches
  · exact fun method _ =>
      (Method.onlyNotes_checkBody (fun _ _ => trivial) (List.Subset.refl _)).reaches

end Declarations

/-! ## What the frame holds -/

theorem SymbolTable.resolveType?_eq_none_iff {table : SymbolTable} {name : String} :
    table.resolveType? name = none ↔ ShaderType.resolveNumeric? name = none ∧
      ShaderType.resolveObject? name = none ∧ table.declaredType? name = none := by
  unfold resolveType?
  rw [Option.or_eq_none_iff, Option.or_eq_none_iff]

theorem SymbolTable.resolveType?_withStruct {table : SymbolTable} {struct : Struct} {name : String}
    (unresolved : (table.withStruct struct).resolveType? name = none) :
    table.resolveType? name = none ∧ name ≠ struct.name := by
  unfold withStruct at unresolved
  split at unresolved
  · next resolved =>
      refine ⟨unresolved, ?_⟩
      rintro rfl
      rw [unresolved] at resolved
      cases resolved
  · next new =>
      have free := Option.not_isSome_iff_eq_none.mp new
      unfold declareType at unresolved
      rw [if_neg (by simp [(resolveType?_eq_none_iff.mp free).2.2]), resolveType?_eq_none_iff]
        at unresolved
      obtain ⟨notNumeric, notObject, notDeclared⟩ := unresolved
      have absent : ((struct.name, struct.type table) :: table.declaredTypes).lookup name = none :=
        notDeclared
      rw [lookup_cons_eq] at absent
      split at absent
      · cases absent
      · next different =>
          exact ⟨resolveType?_eq_none_iff.mpr ⟨notNumeric, notObject, absent⟩, different⟩

/-- The names of new structs are no types. -/
theorem Struct.unresolved_of_newSymbols {table : SymbolTable} {structs : List Struct}
    {symbol : Symbol}
    (new : symbol ∈ Struct.newSymbols table structs) :
    table.resolveType? symbol.name = none := by
  induction structs generalizing table with
  | nil => cases new
  | cons struct rest inductionHypothesis =>
      unfold Struct.newSymbols at new
      split at new
      · exact (SymbolTable.resolveType?_withStruct (inductionHypothesis new)).1
      · next unresolved =>
          rcases List.mem_cons.mp new with rfl | later
          · exact Option.not_isSome_iff_eq_none.mp unresolved
          · exact (SymbolTable.resolveType?_withStruct (inductionHypothesis later)).1

theorem Struct.apart_newSymbols (table : SymbolTable) (structs : List Struct) :
    (Struct.newSymbols table structs).Pairwise fun first second => ¬first.Rivals second := by
  induction structs generalizing table with
  | nil => exact .nil
  | cons struct rest inductionHypothesis =>
      unfold Struct.newSymbols
      split
      · exact inductionHypothesis _
      · refine List.pairwise_cons.mpr ⟨fun other later rivals => ?_, inductionHypothesis _⟩
        have unresolved := Struct.unresolved_of_newSymbols later
        exact (SymbolTable.resolveType?_withStruct unresolved).2 rivals.1.symm

theorem Struct.plain_newSymbols (table : SymbolTable) (structs : List Struct) :
    ∀ symbol ∈ Struct.newSymbols table structs, symbol.kind = .struct ∧ symbol.storage = .none := by
  induction structs generalizing table with
  | nil => exact List.forall_mem_nil _
  | cons struct rest inductionHypothesis =>
      unfold Struct.newSymbols
      split
      · exact inductionHypothesis _
      · exact List.forall_mem_cons.mpr ⟨⟨rfl, rfl⟩, inductionHypothesis _⟩

theorem Method.plain_symbols (table : SymbolTable) (methods : List Method) :
    ∀ symbol ∈ Method.symbols table methods, symbol.kind = .method ∧ symbol.storage = .none := by
  induction methods generalizing table with
  | nil => exact List.forall_mem_nil _
  | cons method rest inductionHypothesis =>
      exact List.forall_mem_cons.mpr ⟨⟨rfl, rfl⟩, inductionHypothesis _⟩

theorem Member.symbolStorage_ne_function (member : Member) : member.symbolStorage ≠ .function := by
  unfold Member.symbolStorage
  split <;> exact nofun

theorem Symbol.find?_eq_none_of_kind {symbols : List Symbol} {name : String} {kind : SymbolKind}
    (other : ∀ symbol ∈ symbols, symbol.kind ≠ kind) :
    Symbol.find? symbols name kind = none := by
  refine List.find?_eq_none.mpr fun symbol member => ?_
  simp [other symbol member]

namespace Shader

variable {shader : Shader} {table : SymbolTable} {symbol : Symbol}

theorem generic_of_mem (member : symbol ∈ shader.generics.map (Generic.symbol table)) :
    symbol.kind = .binding ∧ symbol.storage = .generic := by
  obtain ⟨generic, -, rfl⟩ := List.mem_map.mp member
  exact ⟨rfl, rfl⟩

theorem instance_of_mem (member : symbol ∈ shader.instanceSymbols table) :
    (symbol.kind = .binding ∨ symbol.kind = .composition ∧ symbol.storage = .none) ∧
      symbol.storage ≠ .function := by
  rcases List.mem_append.mp member with earlier | composed
  · rcases List.mem_append.mp earlier with declared | sampled
    · obtain ⟨declaration, -, rfl⟩ := List.mem_map.mp declared
      exact ⟨.inl rfl, declaration.symbolStorage_ne_function⟩
    · obtain ⟨sampler, -, rfl⟩ := List.mem_map.mp sampled
      exact ⟨.inl rfl, nofun⟩
  · obtain ⟨composition, -, rfl⟩ := List.mem_map.mp composed
    exact ⟨.inr ⟨rfl, rfl⟩, nofun⟩

/-- The frame of a shader is tidy, and the lists that it is made from tell what is found in it. -/
theorem tidy_frame (shader : Shader) (table : SymbolTable) :
    (shader.frame table).Tidy ∧ ∀ name kind, (shader.frame table).find? name kind =
      (Symbol.find? (shader.methodSymbols table).reverse name kind).or
        (((Symbol.find? (Struct.newSymbols table shader.structs).reverse name kind).or
          (Symbol.find? (shader.generics.map (Generic.symbol table)) name kind)).or
            (Symbol.find? (shader.instanceSymbols table) name kind)) := by
  have generics : ((shader.generics.map (Generic.symbol table)).foldl Frame.addUnique
      .empty).Tidy :=
    Frame.tidy_empty.foldl_addUnique fun symbol member notVariable =>
      absurd (generic_of_mem member).1 notVariable
  have structsPlain : ∀ symbol ∈ Struct.newSymbols table shader.structs,
      symbol.kind ≠ .binding ∧ symbol.storage = .none := by
    intro symbol member
    obtain ⟨isStruct, noStorage⟩ := Struct.plain_newSymbols table shader.structs symbol member
    exact ⟨by rw [isStruct]; exact nofun, noStorage⟩
  have structs := generics.foldl_add structsPlain
  have instancesPlain : ∀ symbol ∈ shader.instanceSymbols table,
      symbol.kind ≠ .binding → symbol.storage = .none :=
    fun symbol member notVariable => ((instance_of_mem member).1.resolve_left notVariable).2
  have instances := structs.foldl_addUnique instancesPlain
  have methodsPlain : ∀ symbol ∈ shader.methodSymbols table,
      symbol.kind ≠ .binding ∧ symbol.storage = .none := by
    intro symbol member
    obtain ⟨isMethod, noStorage⟩ := Method.plain_symbols _ _ symbol member
    exact ⟨by rw [isMethod]; exact nofun, noStorage⟩
  refine ⟨instances.foldl_add methodsPlain, fun name kind => ?_⟩
  unfold frame
  dsimp only
  rw [instances.find?_foldl_add methodsPlain, Frame.find?_foldl_addUnique,
    generics.find?_foldl_add structsPlain, Frame.find?_foldl_addUnique]
  rfl

theorem find?_methodSymbols_eq_none {name : String} {kind : SymbolKind} (other : kind ≠ .method) :
    Symbol.find? (shader.methodSymbols table).reverse name kind = none := by
  refine Symbol.find?_eq_none_of_kind fun method member same => other ?_
  rw [← same]
  exact (Method.plain_symbols _ _ method (List.mem_reverse.mp member)).1

theorem find?_newSymbols_eq_none {name : String} {kind : SymbolKind} (other : kind ≠ .struct) :
    Symbol.find? (Struct.newSymbols table shader.structs).reverse name kind = none := by
  refine Symbol.find?_eq_none_of_kind fun struct member same => other ?_
  rw [← same]
  exact (Struct.plain_newSymbols _ _ struct (List.mem_reverse.mp member)).1

/-- New structs have no rivals, so it does not matter which one is the last. -/
theorem find?_newSymbols (new : symbol ∈ Struct.newSymbols table shader.structs) :
    Symbol.find? (Struct.newSymbols table shader.structs).reverse symbol.name symbol.kind =
      some symbol := by
  have apart : (Struct.newSymbols table shader.structs).reverse.Pairwise
      fun first second => ¬first.Rivals second :=
    List.pairwise_reverse.mpr ((Struct.apart_newSymbols table shader.structs).imp
      fun apart rivals => apart ⟨rivals.1.symm, rivals.2.symm⟩)
  exact (Symbol.mem_iff_find? apart).mp (List.mem_reverse.mpr new)

/-- The frame of a shader holds what it has to hold. -/
theorem mem_frame_iff (shader : Shader) (table : SymbolTable) (symbol : Symbol) :
    symbol ∈ (shader.frame table).symbols ↔ shader.Exposes table symbol := by
  obtain ⟨tidy, finds⟩ := shader.tidy_frame table
  rw [Symbol.mem_iff_find? tidy.apart]
  change (shader.frame table).find? symbol.name symbol.kind = some symbol ↔ _
  rw [finds]
  constructor
  · intro found
    rcases Option.or_eq_some_iff.mp found with last | ⟨-, found⟩
    · exact .method last
    rcases Option.or_eq_some_iff.mp found with found | ⟨hidden, found⟩
    · rcases Option.or_eq_some_iff.mp found with struct | ⟨-, first⟩
      · exact .struct (List.mem_reverse.mp (List.mem_of_find?_eq_some struct))
      · exact .first (by rw [Symbol.find?_append, first, Option.some_or])
    · have noGeneric := (Option.or_eq_none_iff.mp hidden).2
      exact .first (by rw [Symbol.find?_append, noGeneric, Option.none_or, found])
  · rintro (first | struct | last)
    · have kinds : symbol.kind = .binding ∨ symbol.kind = .composition := by
        rcases List.mem_append.mp (List.mem_of_find?_eq_some first) with isGeneric | isInstance
        · exact .inl (generic_of_mem isGeneric).1
        · exact (instance_of_mem isInstance).1.imp_right And.left
      have notMethod : symbol.kind ≠ .method := by rcases kinds with same | same <;> simp [same]
      have notStruct : symbol.kind ≠ .struct := by rcases kinds with same | same <;> simp [same]
      rw [find?_methodSymbols_eq_none notMethod, find?_newSymbols_eq_none notStruct,
        Option.none_or, Option.none_or, ← Symbol.find?_append, first]
    · have notMethod : symbol.kind ≠ .method := by
        rw [(Struct.plain_newSymbols _ _ symbol struct).1]
        exact nofun
      rw [find?_methodSymbols_eq_none notMethod, find?_newSymbols struct, Option.none_or,
        Option.some_or, Option.some_or]
    · rw [last, Option.some_or]

theorem Exposes.storage_ne_function (exposed : shader.Exposes table symbol) :
    symbol.storage ≠ .function := by
  rcases exposed with first | struct | last
  · rcases List.mem_append.mp (List.mem_of_find?_eq_some first) with isGeneric | isInstance
    · rw [(generic_of_mem isGeneric).2]
      exact nofun
    · exact (instance_of_mem isInstance).2
  · rw [(Struct.plain_newSymbols _ _ symbol struct).2]
    exact nofun
  · have member := List.mem_reverse.mp (List.mem_of_find?_eq_some last)
    rw [(Method.plain_symbols _ _ symbol member).2]
    exact nofun

/-- Checking a shader on any symbol table, whatever it reports, leaves the frames as they were below
one new frame.  It holds exactly what the shader exposes, with one symbol of each name and kind, and
neither a parameter nor a local variable.  Nothing that is reported tells of a wrong step of the
check itself. -/
theorem check_addsOneFrame (shader : Shader) (table : SymbolTable) :
    let checked := shader.check table
    ∃ frame : Frame, checked.table.frames = frame :: table.frames ∧
      (∀ symbol, symbol ∈ frame.symbols ↔ shader.Exposes table symbol) ∧
      (frame.symbols.Pairwise fun first second => ¬first.Rivals second) ∧
      (∀ symbol ∈ frame.symbols, symbol.storage ≠ .function) ∧
      ∀ report ∈ checked.reports, report.isInternal = false := by
  intro checked
  have initially : table.IsAt ⟨table.frames, table, false⟩ := ⟨rfl, rfl, nofun⟩
  obtain ⟨-, isAt, notInternal⟩ := shader.reaches_check table table initially
  refine ⟨shader.frame table, isAt.frames, shader.mem_frame_iff table,
    (shader.tidy_frame table).1.apart, fun symbol member => ?_, notInternal⟩
  exact ((shader.mem_frame_iff table symbol).mp member).storage_ne_function

/-- A shader in which variables, structs and methods have rivals, and a body has a local
variable. -/
def crowded : Shader where
  name := "Crowded"
  generics := [⟨0, .unknown, ⟨"int", none, .unknown⟩, "tint", none, none⟩]
  elements := [
    .method ⟨1, .unknown, ⟨"int", none, .unknown⟩, "mix",
      [⟨2, ⟨"int", none, .unknown⟩, "left", none, none⟩],
      some [.declare 3 .unknown ⟨"int", none, .unknown⟩ "sum" none], none, none, []⟩,
    .method ⟨4, .unknown, ⟨"void", none, .unknown⟩, "mix", [], none, none, none, []⟩,
    .member ⟨5, .unknown, ⟨"bool", none, .unknown⟩, "tint", none, none, .stream, .none, []⟩,
    .struct ⟨6, .unknown, "Layer", [⟨⟨"int", none, .unknown⟩, "depth"⟩]⟩,
    .struct ⟨7, .unknown, "Layer", []⟩,
    .sampler ⟨8, .unknown, .plain, "tint", [], []⟩]

example : (crowded.check .empty).table.frames = [⟨[
    ⟨"Layer", .struct, .none, .struct "Layer" [⟨"depth", .scalar .int⟩]⟩,
    ⟨"mix", .method, .none, .function .void []⟩,
    ⟨"tint", .binding, .generic, .scalar .int⟩]⟩] := by
  decide +kernel

end Shader

end ShaderLang
