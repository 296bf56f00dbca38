import ShaderLang.Proofs.TableTypes

/-!
# The names of numeric types

A numeric type is named by a scalar, or by a scalar with one size or two sizes behind it.  Such a
name is resolved without any declaration, and resolving is exact: a name resolves to a type only if
it is the description of that type, letter by letter.  So there is one spelling for each numeric
type, and no declaration can give its name to another type.
-/

namespace ShaderLang

/-! ## Names are read as they are written -/

/-- A size is read from its one digit only. -/
theorem eq_of_nameableSize? {text : List Char} {size : Nat}
    (read : nameableSize? text = some size) :
    text = (toString size).toList := by
  unfold nameableSize? at read
  split at read
  · next digit =>
      split at read
      · next nameable =>
          obtain ⟨isDigit, isSize⟩ := nameable
          cases read
          have value : Text.digitsValue [digit] = digit.toNat - '0'.toNat := by
            simp [Text.digitsValue, Nat.ofDigitChars]
          rw [value] at isSize ⊢
          have code : digit = '2' ∨ digit = '3' ∨ digit = '4' := by
            simp only [nameableSizes, List.mem_cons, List.not_mem_nil, or_false] at isSize
            simp only [← Char.toNat_inj]
            have zero : '0'.toNat = 48 := rfl
            have two : '2'.toNat = 50 := rfl
            have three : '3'.toNat = 51 := rfl
            have four : '4'.toNat = 52 := rfl
            omega
          rcases code with rfl | rfl | rfl <;> rfl
      · cases read
  · cases read

theorem ScalarType.name_of_ofName? {text : String} {scalar : ScalarType}
    (read : ScalarType.ofName? text = some scalar) :
    scalar.name = text := by
  simpa using List.find?_some read

theorem VectorType.toList_text (base : ScalarType) {size : Nat} {digits : List Char}
    (written : (toString size).toList = digits) :
    (VectorType.text ⟨base, size⟩).toList = base.name.toList ++ digits := by
  rw [← written]
  exact String.toList_append

theorem MatrixType.toList_text (base : ScalarType) {rows columns : Nat}
    {rowDigits columnDigits : List Char}
    (rowsWritten : (toString rows).toList = rowDigits)
    (columnsWritten : (toString columns).toList = columnDigits) :
    (MatrixType.text ⟨base, rows, columns⟩).toList =
      base.name.toList ++ (rowDigits ++ 'x' :: columnDigits) := by
  rw [← rowsWritten, ← columnsWritten]
  simp [MatrixType.text]

theorem VectorType.text_of_ofName? {name : String} {vector : VectorType}
    (read : VectorType.ofName? name = some vector) :
    vector.text = name := by
  obtain ⟨base, -, parsed⟩ := List.exists_of_findSome?_eq_some read
  obtain ⟨rest, behind, sized⟩ := Option.bind_eq_some_iff.mp parsed
  obtain ⟨size, isSize, made⟩ := Option.bind_eq_some_iff.mp sized
  cases made
  have split := List.isPrefixOf?_eq_some_iff_append_eq.mp behind
  exact String.toList_inj.mp ((toList_text base (eq_of_nameableSize? isSize).symm).trans split)

theorem MatrixType.text_of_ofName? {name : String} {matrix : MatrixType}
    (read : MatrixType.ofName? name = some matrix) :
    matrix.text = name := by
  obtain ⟨base, -, parsed⟩ := List.exists_of_findSome?_eq_some read
  obtain ⟨rest, behind, split⟩ := Option.bind_eq_some_iff.mp parsed
  have whole := List.takeWhile_append_dropWhile (p := (· ≠ 'x')) (l := rest)
  cases columnText : rest.dropWhile (· ≠ 'x') with
  | nil =>
      rw [columnText] at split
      cases split
  | cons mark digits =>
      have isMark : mark = 'x' := by
        have stops := List.head?_dropWhile_not (· ≠ 'x') rest
        rw [columnText] at stops
        simpa using stops
      rw [columnText] at split whole
      obtain ⟨rows, isRows, sized⟩ := Option.bind_eq_some_iff.mp split
      obtain ⟨columns, isColumns, made⟩ := Option.bind_eq_some_iff.mp sized
      cases made
      have written := toList_text base (eq_of_nameableSize? isRows).symm
        (eq_of_nameableSize? isColumns).symm
      rw [isMark] at whole
      rw [whole, List.isPrefixOf?_eq_some_iff_append_eq.mp behind] at written
      exact String.toList_inj.mp written

namespace ShaderType

theorem text_of_resolveNumeric? {name : String} {type : ShaderType}
    (resolved : resolveNumeric? name = some type) :
    type.text = name := by
  unfold resolveNumeric? at resolved
  rcases Option.or_eq_some_iff.mp resolved with isScalar | ⟨-, rest⟩
  · obtain ⟨scalar, named, rfl⟩ := Option.map_eq_some_iff.mp isScalar
    exact ScalarType.name_of_ofName? named
  · rcases Option.or_eq_some_iff.mp rest with isVector | ⟨-, rest⟩
    · obtain ⟨vector, named, rfl⟩ := Option.map_eq_some_iff.mp isVector
      exact VectorType.text_of_ofName? named
    · rcases Option.or_eq_some_iff.mp rest with isMatrix | ⟨-, rest⟩
      · obtain ⟨matrix, named, rfl⟩ := Option.map_eq_some_iff.mp isMatrix
        exact MatrixType.text_of_ofName? named
      · split at rest
        · next isVoid =>
            cases rest
            exact isVoid.symm
        · cases rest

/-- Every numeric type is resolved by its description: no name of another one is in the way. -/
theorem resolveNumeric?_text {type : ShaderType}
    (numeric : type ∈ numericTypes) :
    resolveNumeric? type.text = some type := by
  revert numeric
  revert type
  decide +kernel

/-! ## How the names are spelled -/

/-- The digits that a size in a name can be. -/
def sizeDigits : List Char :=
  ['2', '3', '4']

/-- A text is spelled as the name of a numeric type: `void`, a scalar, a scalar with one size behind
it, or a floating point scalar with two sizes and an `x` between them. -/
def SpellsNumeric (text : List Char) : Prop :=
  text = "void".toList ∨ ∃ base ∈ ScalarType.valued,
    text = base.name.toList ∨
      (∃ size ∈ sizeDigits, text = base.name.toList ++ [size]) ∨
      base.isFloat = true ∧ ∃ rows ∈ sizeDigits, ∃ columns ∈ sizeDigits,
        text = base.name.toList ++ [rows, 'x', columns]

theorem exists_size_of_digit {digit : Char} (isDigit : digit ∈ sizeDigits) :
    ∃ size ∈ nameableSizes, (toString size).toList = [digit] := by
  simp only [sizeDigits, List.mem_cons, List.not_mem_nil, or_false] at isDigit
  rcases isDigit with rfl | rfl | rfl
  · exact ⟨2, by decide, rfl⟩
  · exact ⟨3, by decide, rfl⟩
  · exact ⟨4, by decide, rfl⟩

theorem exists_digit_of_size {size : Nat} (nameable : size ∈ nameableSizes) :
    ∃ digit ∈ sizeDigits, (toString size).toList = [digit] := by
  simp only [nameableSizes, List.mem_cons, List.not_mem_nil, or_false] at nameable
  rcases nameable with rfl | rfl | rfl
  · exact ⟨'2', by decide, rfl⟩
  · exact ⟨'3', by decide, rfl⟩
  · exact ⟨'4', by decide, rfl⟩

theorem mem_bases_iff {base : ScalarType} :
    base ∈ MatrixType.bases ↔ base ∈ ScalarType.valued ∧ base.isFloat = true := by
  cases base <;> decide

theorem exists_numericType_of_spells {text : List Char} (spelled : SpellsNumeric text) :
    ∃ type ∈ numericTypes, type.text.toList = text := by
  unfold numericTypes
  rcases spelled with rfl | ⟨base, valued, rfl | ⟨digit, isDigit, rfl⟩ |
    ⟨isFloat, rowDigit, isRow, columnDigit, isColumn, rfl⟩⟩
  · exact ⟨.void, List.mem_append_right _ (List.mem_singleton_self _), rfl⟩
  · exact ⟨.scalar base, by simp [valued], rfl⟩
  · obtain ⟨size, nameable, written⟩ := exists_size_of_digit isDigit
    have isVector : ⟨base, size⟩ ∈ VectorType.nameable :=
      List.mem_flatMap.mpr ⟨base, valued, List.mem_map.mpr ⟨size, nameable, rfl⟩⟩
    exact ⟨.vector ⟨base, size⟩, by simp [isVector], VectorType.toList_text base written⟩
  · obtain ⟨rows, rowsNameable, rowsWritten⟩ := exists_size_of_digit isRow
    obtain ⟨columns, columnsNameable, columnsWritten⟩ := exists_size_of_digit isColumn
    have isMatrix : ⟨base, rows, columns⟩ ∈ MatrixType.nameable :=
      List.mem_flatMap.mpr ⟨base, mem_bases_iff.mpr ⟨valued, isFloat⟩, List.mem_flatMap.mpr
        ⟨rows, rowsNameable, List.mem_map.mpr ⟨columns, columnsNameable, rfl⟩⟩⟩
    exact ⟨.matrix ⟨base, rows, columns⟩, by simp [isMatrix],
      MatrixType.toList_text base rowsWritten columnsWritten⟩

theorem spellsNumeric_text {type : ShaderType} (numeric : type ∈ numericTypes) :
    SpellsNumeric type.text.toList := by
  unfold numericTypes at numeric
  simp only [List.mem_append, List.mem_map, List.mem_singleton] at numeric
  rcases numeric with ((⟨base, valued, rfl⟩ | ⟨vector, nameable, rfl⟩) |
    ⟨matrix, nameable, rfl⟩) | rfl
  · exact .inr ⟨base, valued, .inl rfl⟩
  · obtain ⟨base, valued, made⟩ := List.mem_flatMap.mp nameable
    obtain ⟨size, isSize, rfl⟩ := List.mem_map.mp made
    obtain ⟨digit, isDigit, written⟩ := exists_digit_of_size isSize
    exact .inr ⟨base, valued, .inr (.inl ⟨digit, isDigit, VectorType.toList_text base written⟩)⟩
  · obtain ⟨base, isBase, made⟩ := List.mem_flatMap.mp nameable
    obtain ⟨rows, isRows, others⟩ := List.mem_flatMap.mp made
    obtain ⟨columns, isColumns, rfl⟩ := List.mem_map.mp others
    obtain ⟨valued, isFloat⟩ := mem_bases_iff.mp isBase
    obtain ⟨rowDigit, isRow, rowsWritten⟩ := exists_digit_of_size isRows
    obtain ⟨columnDigit, isColumn, columnsWritten⟩ := exists_digit_of_size isColumns
    exact .inr ⟨base, valued, .inr (.inr ⟨isFloat, rowDigit, isRow, columnDigit, isColumn,
      MatrixType.toList_text base rowsWritten columnsWritten⟩)⟩
  · exact .inl rfl

/-- A name resolves to a numeric type exactly if it is the description of that type.  The names that
resolve are those that are spelled as the name of a numeric type, and in every symbol table, whatever
is declared there, such a name denotes the numeric type. -/
theorem numericNames_exact (name : String) (type : ShaderType) :
    (resolveNumeric? name = some type ↔ type ∈ numericTypes ∧ type.text = name) ∧
      ((resolveNumeric? name).isSome = true ↔ SpellsNumeric name.toList) ∧
      (resolveNumeric? name = some type →
        ∀ table : SymbolTable, table.resolveType? name = some type) := by
  refine ⟨⟨fun resolved => ?_, ?_⟩, ⟨fun resolves => ?_, fun spelled => ?_⟩,
    fun resolved table => ?_⟩
  · exact ⟨mem_numericTypes_of_resolveNumeric? resolved, text_of_resolveNumeric? resolved⟩
  · rintro ⟨numeric, rfl⟩
    exact resolveNumeric?_text numeric
  · obtain ⟨found, resolved⟩ := Option.isSome_iff_exists.mp resolves
    rw [← text_of_resolveNumeric? resolved]
    exact spellsNumeric_text (mem_numericTypes_of_resolveNumeric? resolved)
  · obtain ⟨found, numeric, described⟩ := exists_numericType_of_spells spelled
    rw [← String.toList_inj.mp described, resolveNumeric?_text numeric]
    rfl
  · unfold SymbolTable.resolveType?
    rw [resolved, Option.some_or]

/-- A struct cannot take the name of a vector type. -/
theorem float4_denotesVector :
    resolveNumeric? "float4" = some (.vector ⟨.float, 4⟩) ∧
      (SymbolTable.empty.declareType "float4" (.struct "float4" [])).resolveType? "float4" =
        some (.vector ⟨.float, 4⟩) :=
  have resolved : resolveNumeric? "float4" = some (.vector ⟨.float, 4⟩) := by decide
  ⟨resolved, (numericNames_exact _ _).2.2 resolved _⟩

end ShaderType

end ShaderLang
