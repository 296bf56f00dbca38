import ShaderLang.Proofs.IdReading
import ShaderLang.Proofs.NumericNames
import ShaderLang.Proofs.RegistryRanges

/-!
# Canonical ids of types

The canonical id of a value type is its name, or for an array the id of its elements with the length
in brackets behind it.  Names are resolved by the table that the analysis ends with, so the id of a
value type determines it.  A function type is written as the ids of its parts with underscores
between them: it is determined by its id as long as no struct has an underscore in its name.
-/

namespace ShaderLang

/-! ## Known types -/

/-- Whether a type is the type of a method. -/
def ShaderType.isFunction : ShaderType → Bool
  | .function .. => true
  | _ => false

theorem ShaderType.eq_function {type : ShaderType} (isFunction : type.isFunction = true) :
    ∃ returned parameters, type = .function returned parameters := by
  cases type with
  | function returned parameters => exact ⟨returned, parameters, rfl⟩
  | _ => cases isFunction

namespace SymbolTable

/-- Whether a table knows a type by the name or the parts that it is written with.  Structs are
those that are declared under the given names. -/
def knows (table : SymbolTable) (structs : List String) : ShaderType → Bool
  | .scalar _ | .sampler | .comparisonSampler | .shader .. => true
  | .vector shape => shape ∈ VectorType.nameable
  | .matrix shape => shape ∈ MatrixType.nameable
  | .array base size => base.isValue && 0 < size && size ≤ 4294967295
  | .struct name fields => name ∈ structs && table.resolveType? name = some (.struct name fields)
  | .function returned parameters => returned.isValue && parameters.all ShaderType.isValue
  | _ => false

theorem knows_suitsRegistration (table : SymbolTable) (structs : List String) :
    ShaderType.SuitsRegistration (table.knows structs) where
  scalar _ := rfl
  column matrix known := by
    have columns : ∀ matrix ∈ MatrixType.nameable, matrix.column ∈ VectorType.nameable := by decide
    simpa [knows] using columns matrix (by simpa [knows] using known)
  sampler := rfl
  array base size known := by
    simp only [knows, Bool.and_eq_true, decide_eq_true_eq] at known
    exact ⟨known.1.2, known.2⟩

theorem knows_suitsAnalysis (shader : Shader) (final : SymbolTable) :
    ShaderType.SuitsAnalysis shader final (final.knows (shader.structs.map Struct.name)) where
  undefined _ := rfl
  numeric type numeric := by
    cases type <;> simp_all [ShaderType.numericTypes, ShaderType.void, knows]
  sampler kind := by cases kind <;> rfl
  array base size value positive bounded := by simp [knows, value, positive, bounded]
  struct struct declared fields resolved := by
    have named : struct.name ∈ shader.structs.map Struct.name := List.mem_map_of_mem declared
    simp [knows, named, resolved]
  function returned parameters value values := by simpa [knows, value] using values
  shader _ := rfl

/-! ## Value types -/

/-- A type is written as a name that the table resolves to it, or as an array of such types.  Names
have letters and digits and what the names of structs have. -/
inductive Spells (table : SymbolTable) (structs : List String) : ShaderType → Prop
  | name {type : ShaderType}
      (resolves : table.resolveType? type.canonicalId = some type)
      (characters : ∀ character ∈ type.canonicalId.toList,
        character.isAlphanum = true ∨ ∃ name ∈ structs, character ∈ name.toList) :
      Spells table structs type
  | array {base : ShaderType} {size : Nat}
      (element : Spells table structs base) :
      Spells table structs (.array base size)

variable {table : SymbolTable} {structs : List String} {first second : ShaderType}

/-- The names of the language have letters and digits only. -/
theorem Spells.builtin {type : ShaderType}
    (resolves : table.resolveType? type.canonicalId = some type)
    (characters : type.canonicalId.toList.all Char.isAlphanum = true) :
    table.Spells structs type :=
  .name resolves fun character member =>
    .inl (List.all_eq_true.mp characters character member)

theorem resolveType?_of_numeric {name : String} {type : ShaderType}
    (resolves : ShaderType.resolveNumeric? name = some type) :
    table.resolveType? name = some type := by
  unfold resolveType?
  rw [resolves, Option.some_or]

theorem spells_scalar (scalar : ScalarType) : table.Spells structs (.scalar scalar) := by
  cases scalar <;> exact .builtin (resolveType?_of_numeric (by decide)) (by decide)

theorem spells_vector {vector : VectorType} (nameable : vector ∈ VectorType.nameable) :
    table.Spells structs (.vector vector) := by
  have numeric : .vector vector ∈ ShaderType.numericTypes := by
    simp [ShaderType.numericTypes, nameable]
  have characters : ∀ vector ∈ VectorType.nameable,
      (ShaderType.vector vector).canonicalId.toList.all Char.isAlphanum = true := by
    decide +kernel
  exact .builtin (resolveType?_of_numeric (ShaderType.resolveNumeric?_text numeric))
    (characters vector nameable)

theorem spells_matrix {matrix : MatrixType} (nameable : matrix ∈ MatrixType.nameable) :
    table.Spells structs (.matrix matrix) := by
  have numeric : .matrix matrix ∈ ShaderType.numericTypes := by
    simp [ShaderType.numericTypes, nameable]
  have characters : ∀ matrix ∈ MatrixType.nameable,
      (ShaderType.matrix matrix).canonicalId.toList.all Char.isAlphanum = true := by
    decide +kernel
  exact .builtin (resolveType?_of_numeric (ShaderType.resolveNumeric?_text numeric))
    (characters matrix nameable)

/-- Every known value type is spelled. -/
theorem spells_of_knows : ∀ (type : ShaderType), type.isValue = true →
    type.everywhere (table.knows structs) = true → table.Spells structs type
  | .scalar scalar, _, _ => spells_scalar scalar
  | .vector vector, _, known => spells_vector (by simpa [ShaderType.everywhere, knows] using known)
  | .matrix matrix, _, known => spells_matrix (by simpa [ShaderType.everywhere, knows] using known)
  | .sampler, _, _ => .builtin rfl (by decide)
  | .comparisonSampler, _, _ => .builtin rfl (by decide)
  | .array base size, _, known => by
      obtain ⟨own, parts⟩ := Bool.and_eq_true_iff.mp known
      simp only [knows, Bool.and_eq_true] at own
      exact .array (spells_of_knows base own.1.1 parts)
  | .struct name fields, _, known => by
      have own := ShaderType.test_of_everywhere known
      simp only [knows, Bool.and_eq_true, decide_eq_true_eq] at own
      exact .name own.2 fun character member => .inr ⟨name, own.1, member⟩

/-! ## Ids of value types -/

/-- The id of an array holds a bracket, and the name of a value type holds none. -/
theorem bracket_notMem_name {type : ShaderType}
    (bracketless : ∀ name ∈ structs, '[' ∉ name.toList)
    (characters : ∀ character ∈ type.canonicalId.toList,
      character.isAlphanum = true ∨ ∃ name ∈ structs, character ∈ name.toList) :
    '[' ∉ type.canonicalId.toList := by
  intro member
  rcases characters '[' member with alphanumeric | ⟨name, isStruct, inName⟩
  · exact absurd alphanumeric (by decide)
  · exact bracketless name isStruct inName

/-- The id of a value type determines it. -/
theorem Spells.eq (firstSpelled : table.Spells structs first)
    (secondSpelled : table.Spells structs second)
    (bracketless : ∀ name ∈ structs, '[' ∉ name.toList)
    (same : first.canonicalId = second.canonicalId) :
    first = second := by
  induction firstSpelled generalizing second with
  | @name first resolves characters =>
      cases secondSpelled with
      | name resolves' characters' =>
          rw [same, resolves'] at resolves
          exact (Option.some.inj resolves).symm
      | @array base size element =>
          have noBracket := bracket_notMem_name bracketless characters
          rw [same, ShaderType.toList_canonicalId_array] at noBracket
          exact absurd (List.mem_append_right _ List.mem_cons_self) noBracket
  | @array base size element inductionHypothesis =>
      cases secondSpelled with
      | name resolves characters =>
          have noBracket := bracket_notMem_name bracketless characters
          rw [← same, ShaderType.toList_canonicalId_array] at noBracket
          exact absurd (List.mem_append_right _ List.mem_cons_self) noBracket
      | @array base' size' element' =>
          obtain ⟨sameBase, rfl⟩ := ShaderType.eq_of_canonicalId_array same
          rw [inductionHypothesis element' sameBase]

/-- The id of a value type has an underscore only if the name of a struct has one. -/
theorem Spells.underscore_notMem {type : ShaderType} (spelled : table.Spells structs type)
    (underscoreless : ∀ name ∈ structs, '_' ∉ name.toList) :
    '_' ∉ type.canonicalId.toList := by
  induction spelled with
  | name resolves characters =>
      intro member
      rcases characters '_' member with alphanumeric | ⟨name, isStruct, inName⟩
      · exact absurd alphanumeric (by decide)
      · exact underscoreless name isStruct inName
  | @array base size element inductionHypothesis =>
      exact ShaderType.underscore_notMem_array size inductionHypothesis

/-! ## Ids of function types -/

/-- The parts of a known function type are spelled. -/
theorem spells_parts {returned : ShaderType} {parameters : List ShaderType}
    (known : (ShaderType.function returned parameters).everywhere (table.knows structs) = true) :
    table.Spells structs returned ∧ ∀ type ∈ parameters, table.Spells structs type := by
  obtain ⟨own, parts⟩ := Bool.and_eq_true_iff.mp known
  obtain ⟨returnedKnown, parametersKnown⟩ := Bool.and_eq_true_iff.mp parts
  obtain ⟨returnedValue, values⟩ := Bool.and_eq_true_iff.mp own
  refine ⟨spells_of_knows returned returnedValue returnedKnown, fun type member => ?_⟩
  exact spells_of_knows type (List.all_eq_true.mp values type member)
    (ShaderType.allEverywhere_iff.mp parametersKnown type member)

/-- A known type that is of value or of a method is spelled, or made of spelled types. -/
theorem signs_of_knows {type : ShaderType}
    (known : type.everywhere (table.knows structs) = true)
    (form : type.isValue = true ∨ type.isFunction = true) :
    ShaderType.Signs (table.Spells structs) type := by
  rcases form with value | function
  · exact .part (spells_of_knows type value known)
  · obtain ⟨returned, parameters, rfl⟩ := ShaderType.eq_function function
    obtain ⟨returnedSpelled, spelled⟩ := spells_parts known
    exact .function returnedSpelled spelled

/-- Known types with the same id are the same if no struct has an underscore in its name. -/
theorem eq_of_underscoreless
    (firstKnown : first.everywhere (table.knows structs) = true)
    (secondKnown : second.everywhere (table.knows structs) = true)
    (firstForm : first.isValue = true ∨ first.isFunction = true)
    (secondForm : second.isValue = true ∨ second.isFunction = true)
    (bracketless : ∀ name ∈ structs, '[' ∉ name.toList)
    (underscoreless : ∀ name ∈ structs, '_' ∉ name.toList)
    (same : first.canonicalId = second.canonicalId) :
    first = second := by
  have readsOff : ShaderType.ReadsOff (table.Spells structs) :=
    ShaderType.readsOff_of_underscoreless
      (fun _ spelled => spelled.underscore_notMem underscoreless)
      (fun _ _ spelled spelled' sameId => spelled.eq spelled' bracketless sameId)
  exact readsOff.eq_of_canonicalId
    (fun _ _ _ spelled =>
      ShaderType.ne_function_of_underscoreless (spelled.underscore_notMem underscoreless))
    (signs_of_knows firstKnown firstForm) (signs_of_knows secondKnown secondForm) same

/-- Known types with the same id are the same, unless one of them is a function type and some struct
has an underscore in its name. -/
theorem eq_of_canonicalId
    (firstKnown : first.everywhere (table.knows structs) = true)
    (secondKnown : second.everywhere (table.knows structs) = true)
    (firstForm : first.isValue = true ∨ first.isFunction = true)
    (secondForm : second.isValue = true ∨ second.isFunction = true)
    (bracketless : ∀ name ∈ structs, '[' ∉ name.toList)
    (same : first.canonicalId = second.canonicalId) :
    first = second ∨ (first.isFunction = true ∨ second.isFunction = true) ∧
      ∃ name ∈ structs, '_' ∈ name.toList := by
  by_cases underscored : ∃ name ∈ structs, '_' ∈ name.toList
  · rcases firstForm with firstValue | firstFunction
    · rcases secondForm with secondValue | secondFunction
      · exact .inl ((spells_of_knows first firstValue firstKnown).eq
          (spells_of_knows second secondValue secondKnown) bracketless same)
      · exact .inr ⟨.inr secondFunction, underscored⟩
    · exact .inr ⟨.inl firstFunction, underscored⟩
  · refine .inl (eq_of_underscoreless firstKnown secondKnown firstForm secondForm bracketless ?_
      same)
    exact fun name isStruct inName => underscored ⟨name, isStruct, inName⟩

end SymbolTable

end ShaderLang
