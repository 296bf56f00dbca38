import ShaderLang.Proofs.AnalysisSoundness

/-!
# The types of a symbol table

Analysis takes types from the names of the language, and makes arrays, structs, functions and the
types of compositions of them.  A test that accepts these ways of making types, and refuses
placeholders, is passed by every type that a symbol table holds as long as nothing is reported: by
the symbols of the frames, the declared types, the overloads, the annotations and the components of
the shader.
-/

namespace ShaderLang

/-! ## The parts of a type -/

mutual

/-- Whether a type and all its parts pass a test. -/
def ShaderType.everywhere (test : ShaderType → Bool) : ShaderType → Bool
  | .undefined name => test (.undefined name)
  | .scalar scalar => test (.scalar scalar)
  | .vector vector => test (.vector vector)
  | .matrix matrix => test (.matrix matrix)
  | .sampler => test .sampler
  | .comparisonSampler => test .comparisonSampler
  | .streams => test .streams
  | .pointer base => test (.pointer base) && base.everywhere test
  | .array base size => test (.array base size) && base.everywhere test
  | .buffer base size => test (.buffer base size) && base.everywhere test
  | .texture1D base size => test (.texture1D base size) && base.everywhere test
  | .texture2D base width height => test (.texture2D base width height) && base.everywhere test
  | .texture3D base width height depth =>
      test (.texture3D base width height depth) && base.everywhere test
  | .struct name fields => test (.struct name fields) && Field.allEverywhere test fields
  | .function returned parameters =>
      test (.function returned parameters) &&
        (returned.everywhere test && ShaderType.allEverywhere test parameters)
  | .group kind name symbols =>
      test (.group kind name symbols) && Symbol.allEverywhere test symbols
  | .shader name components =>
      test (.shader name components) && Symbol.allEverywhere test components

/-- Whether types and all their parts pass a test. -/
def ShaderType.allEverywhere (test : ShaderType → Bool) : List ShaderType → Bool
  | [] => true
  | type :: rest => type.everywhere test && ShaderType.allEverywhere test rest

/-- Whether the type of a field and all its parts pass a test. -/
def Field.everywhere (test : ShaderType → Bool) : Field → Bool
  | ⟨_, type⟩ => type.everywhere test

/-- Whether the types of fields and all their parts pass a test. -/
def Field.allEverywhere (test : ShaderType → Bool) : List Field → Bool
  | [] => true
  | field :: rest => field.everywhere test && Field.allEverywhere test rest

/-- Whether the type of a symbol and all its parts pass a test. -/
def Symbol.everywhere (test : ShaderType → Bool) : Symbol → Bool
  | ⟨_, _, _, type⟩ => type.everywhere test

/-- Whether the types of symbols and all their parts pass a test. -/
def Symbol.allEverywhere (test : ShaderType → Bool) : List Symbol → Bool
  | [] => true
  | symbol :: rest => symbol.everywhere test && Symbol.allEverywhere test rest

end

variable {test : ShaderType → Bool} {shader : Shader} {final : SymbolTable}

theorem ShaderType.allEverywhere_iff {types : List ShaderType} :
    ShaderType.allEverywhere test types = true ↔
      ∀ type ∈ types, type.everywhere test = true := by
  induction types with
  | nil => simp [ShaderType.allEverywhere]
  | cons type rest inductionHypothesis => simp [ShaderType.allEverywhere, inductionHypothesis]

theorem Field.allEverywhere_iff {fields : List Field} :
    Field.allEverywhere test fields = true ↔
      ∀ field ∈ fields, field.type.everywhere test = true := by
  induction fields with
  | nil => simp [Field.allEverywhere]
  | cons field rest inductionHypothesis =>
      have ownType : field.everywhere test = field.type.everywhere test := by
        cases field
        rfl
      simp [Field.allEverywhere, ownType, inductionHypothesis]

theorem ShaderType.test_of_everywhere {type : ShaderType}
    (passed : type.everywhere test = true) :
    test type = true := by
  cases type <;> simp_all [ShaderType.everywhere]

/-! ## Types with a name -/

theorem mem_nameableSizes_of_nameableSize? {text : List Char} {size : Nat}
    (read : nameableSize? text = some size) :
    size ∈ nameableSizes := by
  unfold nameableSize? at read
  split at read
  · split at read
    · next digit nameable =>
        cases read
        exact nameable.2
    · cases read
  · cases read

theorem VectorType.mem_nameable_of_ofName? {text : String} {vector : VectorType}
    (read : VectorType.ofName? text = some vector) :
    vector ∈ VectorType.nameable := by
  obtain ⟨base, isBase, parsed⟩ := List.exists_of_findSome?_eq_some read
  obtain ⟨rest, -, sized⟩ := Option.bind_eq_some_iff.mp parsed
  obtain ⟨size, isSize, made⟩ := Option.bind_eq_some_iff.mp sized
  cases made
  have nameable := mem_nameableSizes_of_nameableSize? isSize
  exact List.mem_flatMap.mpr ⟨base, isBase, List.mem_map.mpr ⟨size, nameable, rfl⟩⟩

theorem MatrixType.mem_nameable_of_ofName? {text : String} {matrix : MatrixType}
    (read : MatrixType.ofName? text = some matrix) :
    matrix ∈ MatrixType.nameable := by
  obtain ⟨base, isBase, parsed⟩ := List.exists_of_findSome?_eq_some read
  obtain ⟨rest, -, split⟩ := Option.bind_eq_some_iff.mp parsed
  cases columnText : rest.dropWhile (· ≠ 'x') with
  | nil =>
      rw [columnText] at split
      cases split
  | cons mark digits =>
      rw [columnText] at split
      obtain ⟨rows, isRows, sized⟩ := Option.bind_eq_some_iff.mp split
      obtain ⟨columns, isColumns, made⟩ := Option.bind_eq_some_iff.mp sized
      cases made
      have rowsNameable := mem_nameableSizes_of_nameableSize? isRows
      have columnsNameable := mem_nameableSizes_of_nameableSize? isColumns
      exact List.mem_flatMap.mpr ⟨base, isBase, List.mem_flatMap.mpr
        ⟨rows, rowsNameable, List.mem_map.mpr ⟨columns, columnsNameable, rfl⟩⟩⟩

namespace ShaderType

theorem mem_numericTypes_of_resolveNumeric? {name : String} {type : ShaderType}
    (resolved : resolveNumeric? name = some type) :
    type ∈ numericTypes := by
  unfold resolveNumeric? at resolved
  unfold numericTypes
  rcases Option.or_eq_some_iff.mp resolved with isScalar | ⟨-, rest⟩
  · obtain ⟨scalar, named, rfl⟩ := Option.map_eq_some_iff.mp isScalar
    have valued : scalar ∈ ScalarType.valued := List.mem_of_find?_eq_some named
    simp [valued]
  · rcases Option.or_eq_some_iff.mp rest with isVector | ⟨-, rest⟩
    · obtain ⟨vector, named, rfl⟩ := Option.map_eq_some_iff.mp isVector
      have nameable := VectorType.mem_nameable_of_ofName? named
      simp [nameable]
    · rcases Option.or_eq_some_iff.mp rest with isMatrix | ⟨-, rest⟩
      · obtain ⟨matrix, named, rfl⟩ := Option.map_eq_some_iff.mp isMatrix
        have nameable := MatrixType.mem_nameable_of_ofName? named
        simp [nameable]
      · split at rest
        · cases rest
          simp
        · cases rest

/-- Whether values can have a type.  Methods and compositions have types that are none of these. -/
def isValue : ShaderType → Bool
  | scalar _ | vector _ | matrix _ | array .. | struct .. | sampler | comparisonSampler => true
  | _ => false

theorem isValue_of_mem_numericTypes {type : ShaderType} (numeric : type ∈ numericTypes) :
    type.isValue = true := by
  cases type <;> first | rfl | simp [numericTypes, void] at numeric

theorem isValue_of_resolveObject? {name : String} {type : ShaderType}
    (resolved : resolveObject? name = some type) :
    type.isValue = true := by
  unfold resolveObject? at resolved
  split at resolved
  · cases resolved
    rfl
  · split at resolved
    · cases resolved
      rfl
    · cases resolved

/-- A numeric type has no part but itself. -/
theorem everywhere_of_mem_numericTypes {type : ShaderType}
    (numeric : type ∈ numericTypes) :
    type.everywhere test = test type := by
  cases type <;> first | rfl | simp [numericTypes, void] at numeric

/-- A test that accepts what the analysis of a shader makes types of, and refuses placeholders.  The
name of a struct stands for it in the table that the analysis ends with. -/
structure SuitsAnalysis (shader : Shader) (final : SymbolTable) (test : ShaderType → Bool) :
    Prop where
  undefined : ∀ name, test (.undefined name) = false
  numeric : ∀ type ∈ numericTypes, test type = true
  sampler : ∀ kind : SamplerKind, test kind.type = true
  array : ∀ base size, base.isValue = true → 0 < size → size ≤ 4294967295 →
    test (.array base size) = true
  struct : ∀ struct ∈ shader.structs, ∀ fields,
    final.resolveType? struct.name = some (.struct struct.name fields) →
      test (.struct struct.name fields) = true
  function : ∀ returned parameters, returned.isValue = true →
    (∀ type ∈ parameters, type.isValue = true) → test (.function returned parameters) = true
  shader : ∀ name, test (.shader name []) = true

namespace SuitsAnalysis

theorem isUndefined_eq_false (suits : SuitsAnalysis shader final test) {type : ShaderType}
    (passed : type.everywhere test = true) :
    type.isUndefined = false := by
  cases type with
  | undefined name =>
      have accepted := test_of_everywhere passed
      rw [suits.undefined name] at accepted
      cases accepted
  | _ => rfl

theorem everywhere_numeric (suits : SuitsAnalysis shader final test) {type : ShaderType}
    (numeric : type ∈ numericTypes) :
    type.everywhere test = true := by
  rw [everywhere_of_mem_numericTypes numeric]
  exact suits.numeric type numeric

theorem everywhere_samplerKind (suits : SuitsAnalysis shader final test) (kind : SamplerKind) :
    kind.type.everywhere test = true := by
  have accepted := suits.sampler kind
  cases kind <;> exact accepted

theorem everywhere_object (suits : SuitsAnalysis shader final test) {name : String}
    {type : ShaderType}
    (resolved : resolveObject? name = some type) :
    type.everywhere test = true := by
  unfold resolveObject? at resolved
  split at resolved
  · cases resolved
    exact suits.everywhere_samplerKind .plain
  · split at resolved
    · cases resolved
      exact suits.everywhere_samplerKind .comparison
    · cases resolved

theorem everywhere_array (suits : SuitsAnalysis shader final test) {base : ShaderType} {size : Nat}
    (passed : base.everywhere test = true)
    (value : base.isValue = true)
    (positive : 0 < size)
    (bounded : size ≤ 4294967295) :
    (ShaderType.array base size).everywhere test = true := by
  have accepted := suits.array base size value positive bounded
  simp [everywhere, accepted, passed]

theorem everywhere_struct (suits : SuitsAnalysis shader final test) {struct : Struct}
    {fields : List Field}
    (declared : struct ∈ shader.structs)
    (resolved : final.resolveType? struct.name = some (.struct struct.name fields))
    (passed : ∀ field ∈ fields, field.type.everywhere test = true) :
    (ShaderType.struct struct.name fields).everywhere test = true := by
  have accepted := suits.struct struct declared fields resolved
  simp [everywhere, accepted, Field.allEverywhere_iff.mpr passed]

theorem everywhere_function (suits : SuitsAnalysis shader final test) {returned : ShaderType}
    {parameters : List ShaderType}
    (returnedPassed : returned.everywhere test = true)
    (returnedValue : returned.isValue = true)
    (parametersPassed : ∀ type ∈ parameters, type.everywhere test = true ∧ type.isValue = true) :
    (ShaderType.function returned parameters).everywhere test = true := by
  have accepted := suits.function returned parameters returnedValue
    fun type member => (parametersPassed type member).2
  have parts := allEverywhere_iff.mpr fun type member => (parametersPassed type member).1
  simp [everywhere, accepted, returnedPassed, parts]

theorem everywhere_shader (suits : SuitsAnalysis shader final test) (name : String) :
    (ShaderType.shader name []).everywhere test = true := by
  have accepted := suits.shader name
  simp [everywhere, accepted, Symbol.allEverywhere]

end SuitsAnalysis

end ShaderType

theorem Expression.arraySize?_bounds {size : Expression} {count : Nat}
    (read : size.arraySize? = some count) :
    0 < count ∧ count ≤ 4294967295 := by
  unfold Expression.arraySize? at read
  split at read
  · split at read
    · next value bounds =>
        cases read
        omega
    · cases read
  · cases read

theorem Literal.type_mem_numericTypes (value : Literal) :
    value.type ∈ ShaderType.numericTypes := by
  cases value <;>
    simp [Literal.type, ShaderType.numericTypes, ScalarType.valued]

/-! ## Every type of a table -/

/-- Every type that a symbol table holds passes a test, with all its parts. -/
structure SymbolTable.TypesPass (test : ShaderType → Bool) (table : SymbolTable) : Prop where
  symbols : ∀ frame ∈ table.frames, ∀ symbol ∈ frame.symbols,
    symbol.type.everywhere test = true
  declared : ∀ entry ∈ table.declaredTypes,
    entry.2.everywhere test = true ∧ entry.2.isValue = true
  parameters : ∀ entry ∈ table.overloads, ∀ parameter ∈ entry.2.parameters,
    parameter.type.everywhere test = true
  signatures : ∀ entry ∈ table.overloads, ∀ signature ∈ entry.2.signature,
    signature.type.everywhere test = true
  annotations : ∀ entry ∈ table.annotations.types, entry.2.everywhere test = true
  components : ∀ shader ∈ table.annotations.shader, ∀ symbol ∈ shader.components,
    symbol.type.everywhere test = true

namespace SymbolTable.TypesPass

variable {table : SymbolTable} {type : ShaderType}

theorem empty : SymbolTable.empty.TypesPass test := by
  constructor <;> simp [SymbolTable.empty, Annotations.empty]

theorem push (passed : table.TypesPass test) : table.push.TypesPass test where
  symbols frame isFrame symbol member := by
    rcases List.mem_cons.mp isFrame with rfl | outer
    · exact absurd member List.not_mem_nil
    · exact passed.symbols frame outer symbol member
  declared := passed.declared
  parameters := passed.parameters
  signatures := passed.signatures
  annotations := passed.annotations
  components := passed.components

theorem dropFrame (passed : table.TypesPass test) : table.dropFrame.TypesPass test where
  symbols frame isFrame := passed.symbols frame (List.mem_of_mem_tail isFrame)
  declared := passed.declared
  parameters := passed.parameters
  signatures := passed.signatures
  annotations := passed.annotations
  components := passed.components

theorem annotate (passed : table.TypesPass test) (node : NodeId)
    (typePassed : type.everywhere test = true) :
    (table.annotate node type).TypesPass test where
  symbols := passed.symbols
  declared := passed.declared
  parameters := passed.parameters
  signatures := passed.signatures
  annotations := List.forall_mem_cons.mpr ⟨typePassed, passed.annotations⟩
  components := passed.components

theorem annotateAll (passed : table.TypesPass test) {notes : List (NodeId × ShaderType)}
    (notesPassed : ∀ note ∈ notes, note.2.everywhere test = true) :
    (table.annotateAll notes).TypesPass test := by
  induction notes generalizing table with
  | nil => exact passed
  | cons note rest inductionHypothesis =>
      obtain ⟨notePassed, restPassed⟩ := List.forall_mem_cons.mp notesPassed
      exact inductionHypothesis (passed.annotate note.1 notePassed) restPassed

theorem declareType (passed : table.TypesPass test) (name : String)
    (typePassed : type.everywhere test = true)
    (value : type.isValue = true) :
    (table.declareType name type).TypesPass test := by
  unfold SymbolTable.declareType
  split
  · exact passed
  · exact {
      symbols := passed.symbols
      declared := List.forall_mem_cons.mpr ⟨⟨typePassed, value⟩, passed.declared⟩
      parameters := passed.parameters
      signatures := passed.signatures
      annotations := passed.annotations
      components := passed.components }

theorem setShader (passed : table.TypesPass test) (name : String) {components : List Symbol}
    (componentsPassed : ∀ symbol ∈ components, symbol.type.everywhere test = true) :
    (table.setShader ⟨name, components⟩).TypesPass test where
  symbols := passed.symbols
  declared := passed.declared
  parameters := passed.parameters
  signatures := passed.signatures
  annotations := passed.annotations
  components shader same := by
    cases same
    exact componentsPassed

theorem registerFunction (passed : table.TypesPass test) (name : String) :
    (table.registerFunction name).TypesPass test where
  symbols := passed.symbols
  declared := passed.declared
  parameters := List.forall_mem_cons.mpr ⟨List.forall_mem_nil _, passed.parameters⟩
  signatures := List.forall_mem_cons.mpr ⟨by simp, passed.signatures⟩
  annotations := passed.annotations
  components := passed.components

theorem addParameter (passed : table.TypesPass test) {parameter : Symbol} {changed : SymbolTable}
    (added : table.addParameter parameter = .ok changed)
    (typePassed : parameter.type.everywhere test = true) :
    changed.TypesPass test := by
  unfold SymbolTable.addParameter at added
  split at added
  · next name overload rest _ overloads =>
      have parameters := passed.parameters
      have signatures := passed.signatures
      rw [overloads] at parameters signatures
      obtain ⟨ownParameters, otherParameters⟩ := List.forall_mem_cons.mp parameters
      cases added
      refine ⟨passed.symbols, passed.declared, ?_, ?_, passed.annotations, passed.components⟩
      · refine List.forall_mem_cons.mpr ⟨fun symbol member => ?_, otherParameters⟩
        rcases List.mem_append.mp member with older | newest
        · exact ownParameters symbol older
        · rw [List.mem_singleton.mp newest]
          exact typePassed
      · exact List.forall_mem_cons.mpr (List.forall_mem_cons.mp signatures)
  · cases added

theorem completeFunction (passed : table.TypesPass test) {signature : Signature}
    {changed : SymbolTable}
    (completed : table.completeFunction signature = .ok changed)
    (typePassed : signature.type.everywhere test = true) :
    changed.TypesPass test := by
  unfold SymbolTable.completeFunction at completed
  split at completed
  · next name overload rest _ overloads =>
      have parameters := passed.parameters
      have signatures := passed.signatures
      rw [overloads] at parameters signatures
      obtain ⟨-, otherSignatures⟩ := List.forall_mem_cons.mp signatures
      cases completed
      refine ⟨passed.symbols, passed.declared, ?_, ?_, passed.annotations, passed.components⟩
      · exact List.forall_mem_cons.mpr (List.forall_mem_cons.mp parameters)
      · refine List.forall_mem_cons.mpr ⟨fun other same => ?_, otherSignatures⟩
        cases same
        exact typePassed
  · cases completed

variable {before after : SymbolTable} {result : Unit} {symbol : Symbol}

theorem declare (passed : before.TypesPass test)
    (passes : (Check.declare symbol).Passes before result after)
    (typePassed : symbol.type.everywhere test = true) :
    after.TypesPass test := by
  obtain ⟨frame, rest, frames, rfl⟩ := Check.passes_declare.mp passes
  have symbols := passed.symbols
  rw [frames] at symbols
  obtain ⟨ownSymbols, outerSymbols⟩ := List.forall_mem_cons.mp symbols
  refine ⟨List.forall_mem_cons.mpr ⟨fun other member => ?_, outerSymbols⟩, passed.declared,
    passed.parameters, passed.signatures, passed.annotations, passed.components⟩
  rcases Frame.mem_insertOrdered member with rfl | older
  · exact typePassed
  · exact ownSymbols other older

theorem declareUnique (passed : before.TypesPass test) {location : Location}
    (passes : (Check.declareUnique symbol location).Passes before result after)
    (typePassed : symbol.type.everywhere test = true) :
    after.TypesPass test := by
  obtain ⟨frame, rest, frames, -, changed⟩ := Check.passes_declareUnique.mp passes
  have declares : (Check.declare symbol).Passes before () after :=
    Check.passes_declare.mpr ⟨frame, rest, frames, changed⟩
  exact passed.declare declares typePassed

/-! ## What is read from a table -/

theorem lookup? (passed : table.TypesPass test) {name : String} {kind : SymbolKind}
    (found : table.lookup? name kind = some symbol) :
    symbol.type.everywhere test = true := by
  obtain ⟨frame, isFrame, inFrame⟩ := List.exists_of_findSome?_eq_some found
  exact passed.symbols frame isFrame symbol (List.mem_of_find?_eq_some inFrame)

theorem type? (passed : table.TypesPass test) {node : NodeId}
    (noted : table.annotations.type? node = some type) :
    type.everywhere test = true :=
  passed.annotations _ (mem_of_lookup_eq_some noted)

theorem resolveType? (passed : table.TypesPass test)
    (suits : ShaderType.SuitsAnalysis shader final test) {name : String}
    (known : table.resolveType? name = some type) :
    type.everywhere test = true ∧ type.isValue = true := by
  unfold SymbolTable.resolveType? at known
  rcases Option.or_eq_some_iff.mp known with numeric | ⟨-, rest⟩
  · have isNumeric := ShaderType.mem_numericTypes_of_resolveNumeric? numeric
    exact ⟨suits.everywhere_numeric isNumeric, ShaderType.isValue_of_mem_numericTypes isNumeric⟩
  · rcases Option.or_eq_some_iff.mp rest with object | ⟨-, declared⟩
    · exact ⟨suits.everywhere_object object, ShaderType.isValue_of_resolveObject? object⟩
    · exact passed.declared _ (mem_of_lookup_eq_some declared)

theorem resolve (passed : table.TypesPass test)
    (suits : ShaderType.SuitsAnalysis shader final test) {written : TypeName}
    (resolved : written.resolve table = .ok type) :
    type.everywhere test = true ∧ type.isValue = true := by
  unfold TypeName.resolve at resolved
  cases known : table.resolveType? written.name with
  | none => simp [known] at resolved
  | some base =>
      obtain ⟨basePassed, baseValue⟩ := passed.resolveType? suits known
      simp only [known] at resolved
      split at resolved
      · cases resolved
        exact ⟨basePassed, baseValue⟩
      · split at resolved
        · next count read =>
            obtain ⟨positive, bounded⟩ := Expression.arraySize?_bounds read
            cases resolved
            exact ⟨suits.everywhere_array basePassed baseValue positive bounded, rfl⟩
        · cases resolved

end SymbolTable.TypesPass

/-! ## Expressions -/

section Checks

variable {before after : SymbolTable} {result : Unit}

theorem Expression.typesPass_typing (suits : ShaderType.SuitsAnalysis shader final test)
    (passed : before.TypesPass test) (entryPoint : Option EntryPoint) (expression : Expression)
    (clean : (expression.typing before entryPoint).reports = []) :
    (expression.typing before entryPoint).type.everywhere test = true ∧
      ∀ note ∈ (expression.typing before entryPoint).notes, note.2.everywhere test = true := by
  induction expression with
  | literal node location value =>
      have literalPassed := suits.everywhere_numeric value.type_mem_numericTypes
      exact ⟨literalPassed, List.forall_mem_singleton.mpr literalPassed⟩
  | identifier node location name =>
      have namePassed : (identifierType before name location).1.everywhere test = true := by
        unfold Expression.typing identifierType at clean
        unfold identifierType
        cases found : before.lookup? name .binding with
        | none =>
            rw [found] at clean
            cases clean
        | some symbol => exact passed.lookup? found
      exact ⟨namePassed, List.forall_mem_singleton.mpr namePassed⟩
  | stream node location name =>
      have memberPassed :
          (streamType before entryPoint name location).1.everywhere test = true := by
        unfold Expression.typing streamType at clean
        unfold streamType
        cases entryPoint with
        | none => cases clean
        | some stage =>
            dsimp only at clean ⊢
            split at clean
            · next symbol found =>
                obtain ⟨component, -⟩ := Option.filter_eq_some_iff.mp found
                obtain ⟨shader, isShader, inShader⟩ := Option.bind_eq_some_iff.mp component
                exact passed.components shader isShader symbol
                  (List.mem_of_find?_eq_some inShader)
            · cases clean
      exact ⟨memberPassed, List.forall_mem_singleton.mpr memberPassed⟩
  | binary node location operator left right leftHypothesis rightHypothesis =>
      unfold Expression.typing at clean ⊢
      dsimp only at clean ⊢
      obtain ⟨operandsClean, operationClean⟩ := List.append_eq_nil_iff.mp clean
      obtain ⟨leftClean, rightClean⟩ := List.append_eq_nil_iff.mp operandsClean
      obtain ⟨leftPassed, leftNotes⟩ := leftHypothesis leftClean
      obtain ⟨rightPassed, rightNotes⟩ := rightHypothesis rightClean
      obtain ⟨-, -, sameType⟩ := operationType_eq (suits.isUndefined_eq_false leftPassed)
        (suits.isUndefined_eq_false rightPassed) operationClean
      rw [sameType]
      refine ⟨leftPassed, fun note member => ?_⟩
      rcases List.mem_append.mp member with operands | own
      · rcases List.mem_append.mp operands with ofLeft | ofRight
        · exact leftNotes note ofLeft
        · exact rightNotes note ofRight
      · rw [List.mem_singleton.mp own]
        exact leftPassed

theorem Expression.typesPass_check (suits : ShaderType.SuitsAnalysis shader final test)
    {expression : Expression} {context : BodyContext} {type : ShaderType}
    (passes : (expression.check context).Passes before type after)
    (passed : before.TypesPass test) :
    after.TypesPass test := by
  obtain ⟨clean, -, rfl⟩ := Expression.passes_check.mp passes
  exact passed.annotateAll
    (Expression.typesPass_typing suits passed context.entryPoint expression clean).2

/-! ## Statements -/

theorem typesPass_checkInitializer (suits : ShaderType.SuitsAnalysis shader final test)
    {context : BodyContext} {expected : ShaderType} {value : Option Expression}
    (passes : (checkInitializer context expected value).Passes before result after)
    (passed : before.TypesPass test) :
    after.TypesPass test := by
  cases value with
  | none =>
      obtain ⟨-, rfl⟩ := Check.passes_pure.mp passes
      exact passed
  | some expression =>
      obtain ⟨found, middle, checks, reports⟩ := Check.passes_bind.mp passes
      obtain ⟨-, rfl⟩ := Check.passes_report.mp reports
      exact Expression.typesPass_check suits checks passed

theorem typesPass_checkReturn (suits : ShaderType.SuitsAnalysis shader final test)
    {context : BodyContext} {location : Location} {value : Option Expression}
    (passes : (checkReturn context location value).Passes before result after)
    (passed : before.TypesPass test) :
    after.TypesPass test := by
  cases value with
  | none =>
      obtain ⟨-, rfl⟩ := Check.passes_report.mp passes
      exact passed
  | some expression =>
      obtain ⟨found, middle, checks, reports⟩ := Check.passes_bind.mp passes
      obtain ⟨-, rfl⟩ := Check.passes_report.mp reports
      exact Expression.typesPass_check suits checks passed

mutual

theorem Statement.typesPass_check (suits : ShaderType.SuitsAnalysis shader final test)
    {context : BodyContext} :
    ∀ (statement : Statement) {before after : SymbolTable} {result : Unit},
      (statement.check context).Passes before result after →
        before.TypesPass test → after.TypesPass test
  | .declare node location written name value, before, after, result, passes, passed => by
      obtain ⟨type, middle, resolved, initializes, declares⟩ := Statement.passes_declare passes
      have typePassed := (passed.resolve suits resolved).1
      have initialized := typesPass_checkInitializer suits initializes passed
      exact (initialized.annotate node typePassed).declare declares typePassed
  | .assign location target value, before, after, result, passes, passed => by
      obtain ⟨found, expected, middle, -, valueChecks, targetChecks, -⟩ :=
        passes_checkAssignment passes
      have valuePassed := Expression.typesPass_check suits valueChecks passed
      exact Expression.typesPass_check suits targetChecks valuePassed
  | .evaluate value, before, after, result, passes, passed => by
      obtain ⟨found, middle, checks, finished⟩ := Check.passes_bind.mp passes
      obtain ⟨-, rfl⟩ := Check.passes_pure.mp finished
      exact Expression.typesPass_check suits checks passed
  | .exit location value, before, after, result, passes, passed =>
      typesPass_checkReturn suits passes passed
  | .block location body, before, after, result, passes, passed => by
      obtain ⟨inner, checks, rfl⟩ := Check.passes_inFrame.mp passes
      exact (Statement.typesPass_checkAll suits body checks passed.push).dropFrame

theorem Statement.typesPass_checkAll (suits : ShaderType.SuitsAnalysis shader final test)
    {context : BodyContext} :
    ∀ (body : List Statement) {before after : SymbolTable} {result : Unit},
      (Statement.checkAll context body).Passes before result after →
        before.TypesPass test → after.TypesPass test
  | [], before, after, result, passes, passed => by
      obtain ⟨-, rfl⟩ := Check.passes_pure.mp passes
      exact passed
  | statement :: rest, before, after, result, passes, passed => by
      obtain ⟨_, middle, statementChecks, restChecks⟩ := Check.passes_bind.mp passes
      have statementPassed := Statement.typesPass_check suits statement statementChecks passed
      exact Statement.typesPass_checkAll suits rest restChecks statementPassed

end

/-! ## Declarations -/

theorem Check.typesPass_collect {α β : Type} {check : α → Check β} {items : List α}
    {values : List β} (good : β → Prop)
    (passes : (Check.collect check items).Passes before values after)
    (passed : before.TypesPass test)
    (kept : ∀ item ∈ items, ∀ value table table' rest others,
      (check item).Passes table value table' →
      (Check.collect check rest).Passes table' others after →
        table.TypesPass test → table'.TypesPass test ∧ good value) :
    after.TypesPass test ∧ ∀ value ∈ values, good value := by
  refine Check.collect_invariant (fun _ found table =>
    table.TypesPass test ∧ ∀ value ∈ found, good value) passes ⟨passed, by simp⟩ ?_
  rintro done item rest split found table value table' others ⟨earlier, allGood⟩ checks remaining
  have isItem : item ∈ items := by
    rw [split]
    exact List.mem_append_right _ List.mem_cons_self
  obtain ⟨later, isGood⟩ := kept item isItem value table table' rest others checks remaining earlier
  refine ⟨later, fun other member => ?_⟩
  rcases List.mem_append.mp member with older | newest
  · exact allGood other older
  · rw [List.mem_singleton.mp newest]
    exact isGood

theorem Check.typesPass_collectSymbols {α : Type} {check : α → Check Symbol} {items : List α}
    {symbols : List Symbol}
    (passes : (Check.collect check items).Passes before symbols after)
    (passed : before.TypesPass test)
    (kept : ∀ item ∈ items, ∀ symbol table table' rest others,
      (check item).Passes table symbol table' →
      (Check.collect check rest).Passes table' others after →
        table.TypesPass test → table'.TypesPass test ∧ symbol.type.everywhere test = true) :
    after.TypesPass test ∧ ∀ symbol ∈ symbols, symbol.type.everywhere test = true :=
  Check.typesPass_collect _ passes passed kept

variable {symbol : Symbol}

theorem Generic.typesPass_check (suits : ShaderType.SuitsAnalysis shader final test)
    {generic : Generic}
    (passes : generic.check.Passes before symbol after)
    (passed : before.TypesPass test) :
    after.TypesPass test ∧ symbol.type.everywhere test = true := by
  obtain ⟨type, resolved, rfl, declares⟩ := Generic.passes_check passes
  obtain ⟨typePassed, -⟩ := passed.resolve suits resolved
  exact ⟨(passed.annotate generic.node typePassed).declareUnique declares typePassed, typePassed⟩

/-- A struct that is declared without a report is what its name stands for from then on. -/
theorem Struct.resolveType?_of_check {struct : Struct} {nodes : List NodeId}
    (passes : struct.check.Passes before symbol after)
    (leads : SymbolTable.Leads nodes after final) :
    final.resolveType? struct.name = some symbol.type := by
  obtain ⟨fields, -, rfl, unresolved, declares⟩ := Struct.passes_check passes
  unfold SymbolTable.resolveType? at unresolved ⊢
  obtain ⟨notNumeric, rest⟩ := Option.or_eq_none_iff.mp unresolved
  obtain ⟨notObject, undeclared⟩ := Option.or_eq_none_iff.mp rest
  rw [notNumeric, notObject, Option.none_or, Option.none_or]
  have annotated : (before.annotate struct.node (.struct struct.name fields)).declaredType?
      struct.name = none := undeclared
  refine leads.declared _ _ ((Check.leads_declare declares).declared _ _ ?_)
  unfold SymbolTable.declareType
  rw [annotated]
  exact List.lookup_cons_self

theorem Struct.typesPass_check (suits : ShaderType.SuitsAnalysis shader final test)
    {struct : Struct} {nodes : List NodeId}
    (declared : struct ∈ shader.structs)
    (leads : SymbolTable.Leads nodes after final)
    (passes : struct.check.Passes before symbol after)
    (passed : before.TypesPass test) :
    after.TypesPass test ∧ symbol.type.everywhere test = true := by
  have known := Struct.resolveType?_of_check passes leads
  obtain ⟨fields, resolved, rfl, -, declares⟩ := Struct.passes_check passes
  have fieldsPassed : ∀ field ∈ fields, field.type.everywhere test = true := by
    intro field member
    obtain ⟨written, fieldResolved⟩ := resolved field member
    exact (passed.resolve suits fieldResolved).1
  have typePassed := suits.everywhere_struct declared known fieldsPassed
  exact ⟨((passed.annotate struct.node typePassed).declareType struct.name typePassed rfl).declare
    declares typePassed, typePassed⟩

theorem Member.typesPass_check (suits : ShaderType.SuitsAnalysis shader final test)
    {member : Member}
    (passes : member.check.Passes before symbol after)
    (passed : before.TypesPass test) :
    after.TypesPass test ∧ symbol.type.everywhere test = true := by
  obtain ⟨type, middle, resolved, rfl, values, declares⟩ := Member.passes_check passes
  obtain ⟨-, initializes⟩ := Member.passes_checkValue values
  obtain ⟨typePassed, -⟩ := passed.resolve suits resolved
  have initialized := typesPass_checkInitializer suits initializes passed
  exact ⟨(initialized.annotate member.node typePassed).declareUnique declares typePassed,
    typePassed⟩

theorem Sampler.typesPass_check (suits : ShaderType.SuitsAnalysis shader final test)
    {sampler : Sampler}
    (passes : sampler.check.Passes before symbol after)
    (passed : before.TypesPass test) :
    after.TypesPass test ∧ symbol.type.everywhere test = true := by
  obtain ⟨rfl, declares⟩ := Sampler.passes_check passes
  have typePassed := suits.everywhere_samplerKind sampler.kind
  exact ⟨(passed.annotate sampler.node typePassed).declareUnique declares typePassed, typePassed⟩

theorem Composition.typesPass_check (suits : ShaderType.SuitsAnalysis shader final test)
    {composition : Composition}
    (passes : composition.check.Passes before symbol after)
    (passed : before.TypesPass test) :
    after.TypesPass test ∧ symbol.type.everywhere test = true := by
  obtain ⟨rfl, declares⟩ := Composition.passes_check passes
  have typePassed := suits.everywhere_shader composition.mixin
  exact ⟨(passed.annotate composition.node typePassed).declareUnique declares typePassed,
    typePassed⟩

theorem Parameter.typesPass_check (suits : ShaderType.SuitsAnalysis shader final test)
    {parameter : Parameter} {type : ShaderType}
    (passes : parameter.check.Passes before type after)
    (passed : before.TypesPass test) :
    after.TypesPass test ∧ type.everywhere test = true ∧ type.isValue = true := by
  obtain ⟨resolved, middle, added, rfl⟩ := Parameter.passes_check passes
  obtain ⟨typePassed, value⟩ := passed.resolve suits resolved
  rw [suits.isUndefined_eq_false typePassed] at added
  have declared := passed.declareType type.text typePassed value
  exact ⟨(declared.addParameter added typePassed).annotate parameter.node typePassed, typePassed,
    value⟩

theorem Method.typesPass_declare (suits : ShaderType.SuitsAnalysis shader final test)
    {method : Method}
    (passes : method.declare.Passes before symbol after)
    (passed : before.TypesPass test) :
    after.TypesPass test ∧ symbol.type.everywhere test = true := by
  obtain ⟨returned, parameters, middle, completed, resolved, collects, completes, rfl, declares⟩ :=
    Method.passes_declare passes
  obtain ⟨returnedPassed, returnedValue⟩ := passed.resolve suits resolved
  obtain ⟨middlePassed, parametersPassed⟩ := Check.typesPass_collect
    (fun type => type.everywhere test = true ∧ type.isValue = true) collects
    (passed.registerFunction method.name)
    fun _ _ _ _ _ _ _ checks _ earlier => Parameter.typesPass_check suits checks earlier
  have typePassed := suits.everywhere_function returnedPassed returnedValue parametersPassed
  have annotated := (middlePassed.completeFunction completes typePassed).annotate method.node
    typePassed
  have described : ((completed.annotate method.node (.function returned parameters)).annotateMethod
      method.node ⟨EntryPoint.ofMethodName? method.name, .typeResolved⟩).TypesPass test :=
    ⟨annotated.symbols, annotated.declared, annotated.parameters, annotated.signatures,
      annotated.annotations, annotated.components⟩
  exact ⟨described.declare declares typePassed, typePassed⟩

/-! ## Bodies -/

/-- Every parameter of a method is annotated. -/
def Method.ParametersNoted (method : Method) (table : SymbolTable) : Prop :=
  ∀ parameter ∈ method.parameters, ∃ type, (parameter.node, type) ∈ table.annotations.types

theorem Method.ParametersNoted.lead {method : Method} {nodes : List NodeId}
    (noted : method.ParametersNoted before)
    (leads : SymbolTable.Leads nodes before after) :
    method.ParametersNoted after := by
  intro parameter member
  obtain ⟨type, known⟩ := noted parameter member
  exact ⟨type, leads.mem_types known⟩

theorem Method.parametersNoted_of_declare {method : Method}
    (passes : method.declare.Passes before symbol after) :
    method.ParametersNoted after := by
  obtain ⟨returned, parameters, middle, completed, -, collects, completes, -, declares⟩ :=
    Method.passes_declare passes
  have noted : method.ParametersNoted middle := by
    refine Check.collect_invariant (fun done _ table => ∀ parameter ∈ done, ∃ type,
      (parameter.node, type) ∈ table.annotations.types) collects (List.forall_mem_nil _) ?_
    intro done parameter rest _ found table type table' others earlier checks _ other member
    rcases List.mem_append.mp member with older | newest
    · obtain ⟨known, isNoted⟩ := earlier other older
      exact ⟨known, (Parameter.leads_check checks).mem_types isNoted⟩
    · obtain ⟨-, last, -, rfl⟩ := Parameter.passes_check checks
      rw [List.mem_singleton.mp newest]
      exact ⟨type, List.mem_cons_self⟩
  obtain ⟨overloads, rfl⟩ := SymbolTable.completeFunction_eq_ok completes
  have completesLead : SymbolTable.Leads [] middle
      { middle with overloads := overloads, registering := false } :=
    .of_same rfl rfl rfl
  exact noted.lead ((completesLead.trans
    (SymbolTable.Leads.annotateMethod _ method.node _ _)).trans (Check.leads_declare declares))

theorem Parameter.typesPass_bind {parameter : Parameter} {type : ShaderType}
    (passes : parameter.bind.Passes before result after)
    (noted : (parameter.node, type) ∈ before.annotations.types)
    (passed : before.TypesPass test) :
    after.TypesPass test := by
  have declares := Parameter.passes_bind passes
  obtain ⟨found, known⟩ := exists_lookup_of_mem noted
  have foundPassed := passed.type? known
  unfold Annotations.type? at declares
  rw [known] at declares
  exact passed.declare declares foundPassed

theorem Method.typesPass_checkBody (suits : ShaderType.SuitsAnalysis shader final test)
    {method : Method}
    (passes : method.checkBody.Passes before result after)
    (noted : method.ParametersNoted before)
    (passed : before.TypesPass test) :
    after.TypesPass test := by
  cases present : method.body with
  | none =>
      unfold Method.checkBody at passes
      rw [present] at passes
      obtain ⟨-, rfl⟩ := Check.passes_pure.mp passes
      exact passed
  | some body =>
      obtain ⟨opened, inner, binds, statements, -, rfl⟩ := Method.passes_checkBody present passes
      obtain ⟨openedPassed, -⟩ : opened.TypesPass test ∧ method.ParametersNoted opened := by
        refine Check.forEach_invariant (fun _ table =>
          table.TypesPass test ∧ method.ParametersNoted table) binds ⟨passed.push, noted⟩ ?_
        rintro done parameter rest split table table' ⟨earlier, stillNoted⟩ checks -
        have isParameter : parameter ∈ method.parameters := by
          rw [split]
          exact List.mem_append_right _ List.mem_cons_self
        obtain ⟨type, known⟩ := stillNoted parameter isParameter
        exact ⟨Parameter.typesPass_bind checks known earlier,
          stillNoted.lead (Check.leads_declare (Parameter.passes_bind checks))⟩
      exact (Statement.typesPass_checkAll suits body statements openedPassed).dropFrame

/-! ## Shaders -/

theorem Shader.typesPass_checkDeclarations (suits : ShaderType.SuitsAnalysis shader final test)
    {components : List Symbol} {nodes : List NodeId}
    (leads : SymbolTable.Leads nodes after final)
    (passes : shader.checkDeclarations.Passes before components after)
    (passed : before.TypesPass test) :
    after.TypesPass test ∧ (∀ symbol ∈ components, symbol.type.everywhere test = true) ∧
      ∀ method ∈ shader.methods, method.ParametersNoted after := by
  obtain ⟨generics, structs, members, samplers, compositions, methods, first, second, third,
    fourth, fifth, checkGenerics, checkStructs, checkMembers, checkSamplers, checkCompositions,
    checkMethods, rfl⟩ := Shader.passes_checkDeclarations passes
  have membersLead := Check.leads_collect _ checkMembers fun _ _ _ _ _ => Member.leads_check
  have samplersLead := Check.leads_collect _ checkSamplers fun _ _ _ _ _ => Sampler.leads_check
  have compositionsLead :=
    Check.leads_collect _ checkCompositions fun _ _ _ _ _ => Composition.leads_check
  have methodsLead := Check.leads_collect _ checkMethods fun _ _ _ _ _ => Method.leads_declare
  have structsLead :=
    (((membersLead.trans samplersLead).trans compositionsLead).trans methodsLead).trans leads
  obtain ⟨afterGenerics, genericsPassed⟩ := Check.typesPass_collectSymbols checkGenerics passed
    fun _ _ _ _ _ _ _ checks _ earlier => Generic.typesPass_check suits checks earlier
  obtain ⟨afterStructs, structsPassed⟩ := Check.typesPass_collectSymbols checkStructs afterGenerics
    fun struct declared _ _ _ _ _ checks remaining earlier =>
      Struct.typesPass_check suits declared
        ((Check.leads_collect _ remaining fun _ _ _ _ _ => Struct.leads_check).trans structsLead)
        checks earlier
  obtain ⟨afterMembers, membersPassed⟩ := Check.typesPass_collectSymbols checkMembers afterStructs
    fun _ _ _ _ _ _ _ checks _ earlier => Member.typesPass_check suits checks earlier
  obtain ⟨afterSamplers, samplersPassed⟩ := Check.typesPass_collectSymbols checkSamplers afterMembers
    fun _ _ _ _ _ _ _ checks _ earlier => Sampler.typesPass_check suits checks earlier
  obtain ⟨afterCompositions, compositionsPassed⟩ := Check.typesPass_collectSymbols
    checkCompositions afterSamplers
    fun _ _ _ _ _ _ _ checks _ earlier => Composition.typesPass_check suits checks earlier
  obtain ⟨afterMethods, methodsPassed⟩ := Check.typesPass_collectSymbols checkMethods
    afterCompositions
    fun _ _ _ _ _ _ _ checks _ earlier => Method.typesPass_declare suits checks earlier
  have noted : ∀ method ∈ shader.methods, method.ParametersNoted after := by
    refine Check.collect_invariant (fun done _ table => ∀ method ∈ done,
      method.ParametersNoted table) checkMethods (by simp) ?_
    intro done method rest _ found table value table' others earlier checks _ other member
    rcases List.mem_append.mp member with older | newest
    · exact (earlier other older).lead (Method.leads_declare checks)
    · rw [List.mem_singleton.mp newest]
      exact Method.parametersNoted_of_declare checks
  refine ⟨afterMethods, ?_, noted⟩
  intro symbol member
  simp only [List.mem_append, or_assoc] at member
  rcases member with inGenerics | inStructs | inMembers | inSamplers | inCompositions | inMethods
  · exact genericsPassed symbol inGenerics
  · exact structsPassed symbol inStructs
  · exact membersPassed symbol inMembers
  · exact samplersPassed symbol inSamplers
  · exact compositionsPassed symbol inCompositions
  · exact methodsPassed symbol inMethods

/-- A shader that is checked without a report leaves types that pass the test, if it starts with
such types. -/
theorem Shader.typesPass_check (suits : ShaderType.SuitsAnalysis shader after test)
    (passes : shader.check.Passes before result after)
    (passed : before.TypesPass test) :
    after.TypesPass test := by
  obtain ⟨components, declared, arguments, declares, attributes, bodies⟩ :=
    Shader.passes_check passes
  have named : SymbolTable.Leads [] declared (declared.setShader ⟨shader.name, components⟩) :=
    .of_same rfl rfl rfl
  have argumentsLead := named.trans
    (Check.leads_forEach _ attributes fun _ _ _ _ => Shader.leads_checkArgument)
  have bodiesLead := Check.leads_forEach _ bodies fun _ _ _ _ => Method.leads_checkBody
  obtain ⟨declaredPassed, componentsPassed, noted⟩ :=
    Shader.typesPass_checkDeclarations suits (argumentsLead.trans bodiesLead) declares passed.push
  have argumentsPassed : arguments.TypesPass test := by
    refine Check.forEach_invariant (fun _ table => table.TypesPass test) attributes
      (declaredPassed.setShader shader.name componentsPassed) ?_
    intro done argument rest _ table table' earlier checks _
    obtain ⟨type, middle, argumentChecks, finished⟩ := Check.passes_bind.mp checks
    obtain ⟨-, rfl⟩ := Check.passes_pure.mp finished
    exact Expression.typesPass_check suits argumentChecks earlier
  have stillNoted : ∀ method ∈ shader.methods, method.ParametersNoted arguments :=
    fun method member => (noted method member).lead argumentsLead
  have kept : after.TypesPass test ∧ ∀ method ∈ shader.methods, method.ParametersNoted after := by
    refine Check.forEach_invariant (fun _ table => table.TypesPass test ∧
      ∀ method ∈ shader.methods, method.ParametersNoted table) bodies
      ⟨argumentsPassed, stillNoted⟩ ?_
    rintro done method rest split table table' ⟨earlier, earlierNoted⟩ checks -
    have isMethod : method ∈ shader.methods := by
      rw [split]
      exact List.mem_append_right _ List.mem_cons_self
    exact ⟨Method.typesPass_checkBody suits checks (earlierNoted method isMethod) earlier,
      fun other member => (earlierNoted other member).lead (Method.leads_checkBody checks)⟩
  exact kept.1

end Checks

end ShaderLang
