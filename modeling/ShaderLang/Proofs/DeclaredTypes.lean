import ShaderLang.Proofs.AnalysisSoundness
import ShaderLang.Proofs.NumericNames

/-!
# The names of declared types

A type is declared by a struct, under the name of the struct, or by a parameter, under its own
description.  Every check keeps this, whether it reports something or not, so it holds after any
shaders have been checked.  It tells what a written type can denote: only `void` denotes the type
without values, and a parameter never changes what a name without brackets denotes.
-/

namespace ShaderLang

/-! ## Properties that checks keep -/

namespace Check

variable {α β : Type} {holds : SymbolTable → Prop}

/-- A check keeps a property of symbol tables, whatever it reports. -/
def Keeps (check : Check α) (holds : SymbolTable → Prop) : Prop :=
  ∀ table, holds table → holds (check table).table

theorem Keeps.of_passes {check : Check α} {before after : SymbolTable} {value : α}
    (keeps : check.Keeps holds)
    (passes : check.Passes before value after)
    (held : holds before) :
    holds after := by
  have kept := keeps before held
  rw [passes] at kept
  exact kept

theorem keeps_pure (value : α) : (pure value : Check α).Keeps holds :=
  fun _ before => before

theorem Keeps.bind {check : Check α} {next : α → Check β}
    (first : check.Keeps holds)
    (second : ∀ value, (next value).Keeps holds) :
    (check >>= next).Keeps holds :=
  fun table before => second _ _ (first table before)

theorem keeps_report (diagnostics : List Diagnostic) : (report diagnostics).Keeps holds :=
  fun _ before => before

theorem keeps_read (view : SymbolTable → α) : (read view).Keeps holds :=
  fun _ before => before

theorem keeps_update {change : SymbolTable → SymbolTable}
    (kept : ∀ table, holds table → holds (change table)) :
    (update change).Keeps holds :=
  kept

theorem keeps_attempt {change : SymbolTable → Except Diagnostic SymbolTable}
    (kept : ∀ table changed, change table = .ok changed → holds table → holds changed) :
    (attempt change).Keeps holds := by
  intro table before
  unfold attempt
  cases outcome : change table with
  | ok changed => exact kept table changed outcome before
  | error diagnostic => exact before

theorem keeps_resolve (written : TypeName) : (resolve written).Keeps holds := by
  intro table before
  unfold resolve
  split <;> exact before

theorem keeps_collect {check : α → Check β} {items : List α}
    (each : ∀ item, (check item).Keeps holds) :
    (collect check items).Keeps holds := by
  induction items with
  | nil => exact keeps_pure []
  | cons item rest inductionHypothesis =>
      exact (each item).bind fun _ => inductionHypothesis.bind fun _ => keeps_pure _

theorem keeps_forEach {check : α → Check Unit} {items : List α}
    (each : ∀ item, (check item).Keeps holds) :
    (forEach check items).Keeps holds := by
  induction items with
  | nil => exact keeps_pure ()
  | cons item rest inductionHypothesis => exact (each item).bind fun _ => inductionHypothesis

end Check

/-! ## How types are declared -/

/-- A declared type is a struct under its own name, or has its description as its name. -/
def SymbolTable.NamesTypes (table : SymbolTable) : Prop :=
  ∀ name type, table.declaredType? name = some type →
    (∃ fields, type = .struct name fields) ∨ name = type.text

namespace SymbolTable

variable {table changed : SymbolTable}

theorem namesTypes_empty : SymbolTable.empty.NamesTypes := by
  intro name type declared
  cases declared

theorem NamesTypes.congr (named : table.NamesTypes)
    (same : changed.declaredTypes = table.declaredTypes) :
    changed.NamesTypes := by
  intro name type declared
  unfold declaredType? at declared
  rw [same] at declared
  exact named name type declared

theorem NamesTypes.declareType (named : table.NamesTypes) {name : String} {type : ShaderType}
    (isNamed : (∃ fields, type = .struct name fields) ∨ name = type.text) :
    (table.declareType name type).NamesTypes := by
  intro asked found declared
  unfold SymbolTable.declareType at declared
  split at declared
  · exact named asked found declared
  · unfold declaredType? at declared
    rw [lookup_cons_eq] at declared
    split at declared
    · next same =>
        cases declared
        rw [same]
        exact isNamed
    · exact named asked found declared

theorem declaredTypes_declare {symbol : Symbol} (declares : table.declare symbol = .ok changed) :
    changed.declaredTypes = table.declaredTypes := by
  unfold declare at declares
  split at declares
  · cases declares
  · cases declares
    rfl

end SymbolTable

section Checks

open Check (Keeps)

variable {α : Type}

theorem Check.keepsNames_annotate (node : NodeId) (type : ShaderType) :
    (Check.annotate node type).Keeps SymbolTable.NamesTypes :=
  keeps_update fun _ named => named.congr rfl

theorem Check.keepsNames_declare (symbol : Symbol) :
    (Check.declare symbol).Keeps SymbolTable.NamesTypes :=
  keeps_attempt fun _ _ declares named => named.congr (SymbolTable.declaredTypes_declare declares)

theorem Check.keepsNames_declareUnique (symbol : Symbol) (location : Location) :
    (Check.declareUnique symbol location).Keeps SymbolTable.NamesTypes := by
  refine (keeps_read _).bind fun earlier => ?_
  split
  · exact keeps_report _
  · exact keepsNames_declare symbol

theorem Check.keepsNames_inFrame {check : Check α} (kept : check.Keeps SymbolTable.NamesTypes) :
    (Check.inFrame check).Keeps SymbolTable.NamesTypes :=
  fun table named => (kept table.push (named.congr rfl)).congr rfl

theorem Expression.keepsNames_check (expression : Expression) (context : BodyContext) :
    (expression.check context).Keeps SymbolTable.NamesTypes := by
  intro table named
  exact named.congr (table.annotateAll_same _).2.2

theorem keepsNames_checkInitializer (context : BodyContext) (expected : ShaderType)
    (value : Option Expression) :
    (checkInitializer context expected value).Keeps SymbolTable.NamesTypes := by
  cases value with
  | none => exact Check.keeps_pure ()
  | some expression =>
      exact (expression.keepsNames_check context).bind fun _ => Check.keeps_report _

mutual

theorem Statement.keepsNames_check (context : BodyContext) : ∀ statement : Statement,
    (statement.check context).Keeps SymbolTable.NamesTypes
  | .declare node _ written _ value =>
      (Check.keeps_resolve written).bind fun type =>
        (keepsNames_checkInitializer context type value).bind fun _ =>
          (Check.keepsNames_annotate node type).bind fun _ => Check.keepsNames_declare _
  | .assign _ target value => by
      refine (value.keepsNames_check context).bind fun found => ?_
      split
      · exact (target.keepsNames_check context).bind fun _ => Check.keeps_report _
      · exact Check.keeps_report _
  | .evaluate value => (value.keepsNames_check context).bind fun _ => Check.keeps_pure ()
  | .exit _ none => Check.keeps_report _
  | .exit _ (some value) => (value.keepsNames_check context).bind fun _ => Check.keeps_report _
  | .block _ body => Check.keepsNames_inFrame (Statement.keepsNames_checkAll context body)

theorem Statement.keepsNames_checkAll (context : BodyContext) : ∀ body : List Statement,
    (Statement.checkAll context body).Keeps SymbolTable.NamesTypes
  | [] => Check.keeps_pure ()
  | statement :: rest => (Statement.keepsNames_check context statement).bind fun _ =>
      Statement.keepsNames_checkAll context rest

end

theorem Generic.keepsNames_check (generic : Generic) :
    generic.check.Keeps SymbolTable.NamesTypes :=
  (Check.keeps_resolve generic.type).bind fun _ => (Check.keepsNames_annotate _ _).bind fun _ =>
    (Check.keepsNames_declareUnique _ _).bind fun _ => Check.keeps_pure _

theorem Struct.keepsNames_check (struct : Struct) :
    struct.check.Keeps SymbolTable.NamesTypes := by
  have fieldKept : ∀ field : StructField, field.check.Keeps SymbolTable.NamesTypes := fun field =>
    (Check.keeps_resolve field.type).bind fun _ => Check.keeps_pure _
  refine (Check.keeps_collect fieldKept).bind fun fields => ?_
  refine (Check.keepsNames_annotate _ _).bind fun _ => (Check.keeps_read _).bind fun earlier => ?_
  split
  · exact (Check.keeps_report _).bind fun _ => Check.keeps_pure _
  · refine Keeps.bind (Check.keeps_update fun _ named => named.declareType (.inl ⟨fields, rfl⟩)) ?_
    exact fun _ => (Check.keepsNames_declare _).bind fun _ => Check.keeps_pure _

theorem Member.keepsNames_check (member : Member) :
    member.check.Keeps SymbolTable.NamesTypes := by
  have valueKept : ∀ type, (member.checkValue type).Keeps SymbolTable.NamesTypes := by
    intro type
    unfold Member.checkValue
    split
    · exact Check.keeps_pure ()
    · split
      · exact keepsNames_checkInitializer _ _ _
      · exact Check.keeps_report _
  exact (Check.keeps_resolve member.type).bind fun type => (valueKept type).bind fun _ =>
    (Check.keepsNames_annotate _ _).bind fun _ => (Check.keepsNames_declareUnique _ _).bind fun _ =>
      Check.keeps_pure _

theorem Sampler.keepsNames_check (sampler : Sampler) :
    sampler.check.Keeps SymbolTable.NamesTypes :=
  (Check.keepsNames_annotate _ _).bind fun _ => (Check.keepsNames_declareUnique _ _).bind fun _ =>
    Check.keeps_pure _

theorem Composition.keepsNames_check (composition : Composition) :
    composition.check.Keeps SymbolTable.NamesTypes :=
  (Check.keepsNames_annotate _ _).bind fun _ => (Check.keepsNames_declareUnique _ _).bind fun _ =>
    Check.keeps_pure _

theorem Parameter.keepsNames_check (parameter : Parameter) :
    parameter.check.Keeps SymbolTable.NamesTypes := by
  refine (Check.keeps_resolve parameter.type).bind fun type => Keeps.bind ?_ fun _ =>
    Keeps.bind ?_ fun _ => (Check.keepsNames_annotate _ _).bind fun _ => Check.keeps_pure _
  · refine Check.keeps_update fun table named => ?_
    split
    · exact named
    · exact named.declareType (.inr rfl)
  · refine Check.keeps_attempt fun table changed added named => ?_
    unfold SymbolTable.addParameter at added
    split at added
    · cases added
      exact named.congr rfl
    · cases added

theorem Method.keepsNames_declare (method : Method) :
    method.declare.Keeps SymbolTable.NamesTypes := by
  have completes : ∀ signature, (Check.attempt fun table =>
      table.completeFunction signature).Keeps SymbolTable.NamesTypes := by
    refine fun signature => Check.keeps_attempt fun table changed completed named => ?_
    unfold SymbolTable.completeFunction at completed
    split at completed
    · cases completed
      exact named.congr rfl
    · cases completed
  refine (Check.keeps_read _).bind fun earlier => Keeps.bind
    (Check.keeps_update fun _ named => named.congr rfl) fun _ =>
      (Check.keeps_resolve method.returned).bind fun returned =>
        (Check.keeps_collect Parameter.keepsNames_check).bind fun parameters => ?_
  have finishes : ∀ signature, Keeps (do
      Check.attempt fun table => table.completeFunction signature
      Check.annotate method.node signature.type
      Check.update fun table => table.annotateMethod method.node
        ⟨EntryPoint.ofMethodName? method.name, .typeResolved⟩
      let symbol : Symbol := ⟨method.name, .method, .none, signature.type⟩
      Check.declare symbol
      return symbol) SymbolTable.NamesTypes := fun signature =>
    (completes signature).bind fun _ => (Check.keepsNames_annotate _ _).bind fun _ =>
      Keeps.bind (Check.keeps_update fun _ named => named.congr rfl) fun _ =>
        (Check.keepsNames_declare _).bind fun _ => Check.keeps_pure _
  dsimp only
  split
  · exact (Check.keeps_report _).bind fun _ => finishes ⟨returned, parameters⟩
  · exact finishes ⟨returned, parameters⟩

theorem Method.keepsNames_checkBody (method : Method) :
    method.checkBody.Keeps SymbolTable.NamesTypes := by
  unfold Method.checkBody
  split
  · exact Check.keeps_pure ()
  · next body present =>
      have bound : ∀ parameter : Parameter, parameter.bind.Keeps SymbolTable.NamesTypes :=
        fun parameter => (Check.keeps_read _).bind fun _ => Check.keepsNames_declare _
      exact (Check.keeps_read _).bind fun context => Check.keepsNames_inFrame
        ((Check.keeps_forEach bound).bind fun _ =>
          (Statement.keepsNames_checkAll context body).bind fun _ => Check.keeps_report _)

theorem Shader.keepsNames_checkDeclarations (shader : Shader) :
    shader.checkDeclarations.Keeps SymbolTable.NamesTypes :=
  (Check.keeps_collect Generic.keepsNames_check).bind fun _ =>
    (Check.keeps_collect Struct.keepsNames_check).bind fun _ =>
      (Check.keeps_collect Member.keepsNames_check).bind fun _ =>
        (Check.keeps_collect Sampler.keepsNames_check).bind fun _ =>
          (Check.keeps_collect Composition.keepsNames_check).bind fun _ =>
            (Check.keeps_collect Method.keepsNames_declare).bind fun _ => Check.keeps_pure _

theorem Shader.keepsNames_check (shader : Shader) :
    shader.check.Keeps SymbolTable.NamesTypes := by
  have argumentKept : ∀ argument, (Shader.checkArgument argument).Keeps SymbolTable.NamesTypes :=
    fun argument => (argument.keepsNames_check _).bind fun _ => Check.keeps_pure ()
  exact Keeps.bind (Check.keeps_update fun _ named => named.congr rfl) fun _ =>
    shader.keepsNames_checkDeclarations.bind fun _ =>
      Keeps.bind (Check.keeps_update fun _ named => named.congr rfl) fun _ =>
        (Check.keeps_forEach argumentKept).bind fun _ =>
          Check.keeps_forEach Method.keepsNames_checkBody

/-- After any shaders have been checked, every declared type has its name. -/
theorem Shader.namesTypes_of_forEach (shaders : List Shader) :
    (Check.forEach Shader.check shaders .empty).table.NamesTypes :=
  Check.keeps_forEach Shader.keepsNames_check _ SymbolTable.namesTypes_empty

end Checks

/-! ## Types of variables -/

mutual

/-- The types that the variables of a statement are declared with. -/
def Statement.localTypes : Statement → List TypeName
  | .declare _ _ written _ _ => [written]
  | .block _ body => Statement.allLocalTypes body
  | .assign .. | .evaluate _ | .exit .. => []

/-- The types that the variables of statements are declared with. -/
def Statement.allLocalTypes : List Statement → List TypeName
  | [] => []
  | statement :: rest => statement.localTypes ++ Statement.allLocalTypes rest

end

/-- The types that the parameters and the variables of a method are declared with. -/
def Method.variableTypes (method : Method) : List TypeName :=
  method.parameters.map Parameter.type ++ method.body.elim [] Statement.allLocalTypes

/-- The types that the members, the parameters and the local variables of a shader are declared
with. -/
def Shader.variableTypes (shader : Shader) : List TypeName :=
  shader.members.map Member.type ++ shader.methods.flatMap Method.variableTypes

/-! ## What written types denote -/

/-- Whether a written type is the name of the type without values. -/
def TypeName.isVoid (written : TypeName) : Bool :=
  written.name == "void" && written.size.isNone

theorem ShaderType.eq_of_isVoid {type : ShaderType} (isVoid : type.isVoid = true) :
    type = .void := by
  unfold ShaderType.isVoid at isVoid
  split at isVoid
  · rfl
  · cases isVoid

/-- A written type denotes what its name denotes, or an array of it. -/
theorem TypeName.resolve_eq_ok {written : TypeName} {table : SymbolTable} {type : ShaderType}
    (resolved : written.resolve table = .ok type) :
    ∃ base, table.resolveType? written.name = some base ∧
      ((written.size = none ∧ type = base) ∨ ∃ count, type = .array base count) := by
  unfold TypeName.resolve at resolved
  split at resolved
  · cases resolved
  · next base found =>
      refine ⟨base, found, ?_⟩
      split at resolved
      · next noSize =>
          cases resolved
          exact .inl ⟨noSize, rfl⟩
      · split at resolved
        · next count _ =>
            cases resolved
            exact .inr ⟨count, rfl⟩
        · cases resolved

theorem SymbolTable.resolveType?_eq_some {table : SymbolTable} {name : String} {type : ShaderType}
    (found : table.resolveType? name = some type) :
    ShaderType.resolveNumeric? name = some type ∨ ShaderType.resolveObject? name = some type ∨
      table.declaredType? name = some type := by
  rcases Option.or_eq_some_iff.mp found with numeric | ⟨-, rest⟩
  · exact .inl numeric
  · rcases Option.or_eq_some_iff.mp rest with object | ⟨-, declared⟩
    · exact .inr (.inl object)
    · exact .inr (.inr declared)

theorem ShaderType.eq_of_resolveObject? {name : String} {type : ShaderType}
    (resolved : ShaderType.resolveObject? name = some type) :
    type = .sampler ∨ type = .comparisonSampler := by
  unfold ShaderType.resolveObject? at resolved
  split at resolved
  · cases resolved
    exact .inl rfl
  · split at resolved
    · cases resolved
      exact .inr rfl
    · cases resolved

/-- Whether a name has no bracket and no brace, as the description of an array or a struct has. -/
def isPlainName (name : String) : Bool :=
  name.toList.all fun character => character != '[' && character != '\x7b'

theorem isPlainName_array (base : ShaderType) (size : Nat) :
    isPlainName (ShaderType.array base size).text = false := by
  unfold isPlainName ShaderType.text
  simp [String.toList_append]

theorem isPlainName_struct (name : String) (fields : List Field) :
    isPlainName (ShaderType.struct name fields).text = false := by
  unfold isPlainName ShaderType.text
  simp [String.toList_append]

namespace SymbolTable.NamesTypes

variable {table : SymbolTable}

/-- Only `void` denotes the type without values. -/
theorem isVoid_of_denoted (named : table.NamesTypes) {written : TypeName}
    (isVoid : (written.denoted table).isVoid = true) :
    written.isVoid = true := by
  have denotes := ShaderType.eq_of_isVoid isVoid
  unfold TypeName.denoted Check.resolve at denotes
  cases resolved : written.resolve table with
  | error diagnostic =>
      rw [resolved] at denotes
      cases denotes
  | ok type =>
      rw [resolved] at denotes
      dsimp only at denotes
      subst denotes
      obtain ⟨base, found, ⟨noSize, rfl⟩ | ⟨count, isArray⟩⟩ := TypeName.resolve_eq_ok resolved
      · have isName : written.name = "void" := by
          rcases SymbolTable.resolveType?_eq_some found with numeric | object | declared
          · exact (ShaderType.text_of_resolveNumeric? numeric).symm
          · rcases ShaderType.eq_of_resolveObject? object with same | same <;> cases same
          · rcases named _ _ declared with ⟨fields, isStruct⟩ | isText
            · cases isStruct
            · exact isText
        simp [TypeName.isVoid, isName, noSize]
      · cases isArray

/-- The type of a parameter is declared under a description that has a bracket or a brace, or under
a name that denotes it already. -/
theorem resolveType?_declareType (named : table.NamesTypes) {written : TypeName}
    {type : ShaderType} {asked : String}
    (resolved : written.resolve table = .ok type)
    (plain : isPlainName asked = true) :
    (table.declareType type.text type).resolveType? asked = table.resolveType? asked := by
  unfold SymbolTable.declareType
  split
  · rfl
  · next untaken =>
      unfold SymbolTable.resolveType? SymbolTable.declaredType?
      rw [lookup_cons_eq]
      by_cases same : asked = type.text
      · obtain ⟨base, found, ⟨-, rfl⟩ | ⟨count, rfl⟩⟩ := TypeName.resolve_eq_ok resolved
        · rcases SymbolTable.resolveType?_eq_some found with numeric | object | declared
          · have isNumeric := ShaderType.mem_numericTypes_of_resolveNumeric? numeric
            rw [same, ShaderType.resolveNumeric?_text isNumeric]
            rfl
          · rcases ShaderType.eq_of_resolveObject? object with rfl | rfl <;> rw [same] <;> rfl
          · rcases named _ _ declared with ⟨fields, rfl⟩ | isText
            · rw [same, isPlainName_struct] at plain
              cases plain
            · rw [isText] at declared
              exact absurd (Option.isSome_of_eq_some declared) untaken
        · rw [same, isPlainName_array] at plain
          cases plain
      · rw [if_neg same]

end SymbolTable.NamesTypes

end ShaderLang
