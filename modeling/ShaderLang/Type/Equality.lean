import ShaderLang.Type.Basic

/-!
# Equality of types

Types are compared by structure.  The comparison is decided by recursion on the first type, and it
is lawful: it holds exactly of equal types.
-/

namespace ShaderLang

/-! ## The comparison -/

mutual

/-- Whether two types have the same structure. -/
def ShaderType.same : ShaderType → ShaderType → Bool
  | .undefined name, .undefined name' => name == name'
  | .pointer base, .pointer base' => base.same base'
  | .scalar element, .scalar element' => element == element'
  | .vector shape, .vector shape' => shape == shape'
  | .matrix shape, .matrix shape' => shape == shape'
  | .array base size, .array base' size' => base.same base' && size == size'
  | .struct name fields, .struct name' fields' => name == name' && Field.sameAll fields fields'
  | .buffer base size, .buffer base' size' => base.same base' && size == size'
  | .texture1D base size, .texture1D base' size' => base.same base' && size == size'
  | .texture2D base width height, .texture2D base' width' height' =>
      base.same base' && width == width' && height == height'
  | .texture3D base width height depth, .texture3D base' width' height' depth' =>
      base.same base' && width == width' && height == height' && depth == depth'
  | .function returned parameters, .function returned' parameters' =>
      returned.same returned' && ShaderType.sameAll parameters parameters'
  | .sampler, .sampler => true
  | .comparisonSampler, .comparisonSampler => true
  | .streams, .streams => true
  | .group kind name symbols, .group kind' name' symbols' =>
      kind == kind' && name == name' && Symbol.sameAll symbols symbols'
  | .shader name components, .shader name' components' =>
      name == name' && Symbol.sameAll components components'
  | _, _ => false
termination_by structural first => first

/-- Whether two lists of types have the same structure. -/
def ShaderType.sameAll : List ShaderType → List ShaderType → Bool
  | [], [] => true
  | type :: rest, type' :: rest' => type.same type' && ShaderType.sameAll rest rest'
  | _, _ => false
termination_by structural first => first

/-- Whether two fields have the same structure. -/
def Field.same : Field → Field → Bool
  | ⟨name, type⟩, ⟨name', type'⟩ => name == name' && type.same type'
termination_by structural first => first

/-- Whether two lists of fields have the same structure. -/
def Field.sameAll : List Field → List Field → Bool
  | [], [] => true
  | field :: rest, field' :: rest' => field.same field' && Field.sameAll rest rest'
  | _, _ => false
termination_by structural first => first

/-- Whether two symbols have the same structure. -/
def Symbol.same : Symbol → Symbol → Bool
  | ⟨name, kind, storage, type⟩, ⟨name', kind', storage', type'⟩ =>
      name == name' && kind == kind' && storage == storage' && type.same type'
termination_by structural first => first

/-- Whether two lists of symbols have the same structure. -/
def Symbol.sameAll : List Symbol → List Symbol → Bool
  | [], [] => true
  | symbol :: rest, symbol' :: rest' => symbol.same symbol' && Symbol.sameAll rest rest'
  | _, _ => false
termination_by structural first => first

end

/-! ## The comparison is lawful -/

mutual

theorem ShaderType.eq_of_same : ∀ {first second : ShaderType}, first.same second → first = second
  | .undefined _, second, h => by
      cases second <;> simp_all [ShaderType.same]
  | .pointer base, second, h => by
      cases second <;> simp_all [ShaderType.same]
      exact ShaderType.eq_of_same h
  | .scalar _, second, h => by
      cases second <;> simp_all [ShaderType.same]
  | .vector _, second, h => by
      cases second <;> simp_all [ShaderType.same]
  | .matrix _, second, h => by
      cases second <;> simp_all [ShaderType.same]
  | .array base _, second, h => by
      cases second <;> simp_all [ShaderType.same]
      exact ShaderType.eq_of_same h.1
  | .struct _ fields, second, h => by
      cases second <;> simp_all [ShaderType.same]
      exact Field.eq_of_sameAll h.2
  | .buffer base _, second, h => by
      cases second <;> simp_all [ShaderType.same]
      exact ShaderType.eq_of_same h.1
  | .texture1D base _, second, h => by
      cases second <;> simp_all [ShaderType.same]
      exact ShaderType.eq_of_same h.1
  | .texture2D base _ _, second, h => by
      cases second <;> simp_all [ShaderType.same]
      exact ShaderType.eq_of_same h.1.1
  | .texture3D base _ _ _, second, h => by
      cases second <;> simp_all [ShaderType.same]
      exact ShaderType.eq_of_same h.1.1.1
  | .function returned parameters, second, h => by
      cases second <;> simp_all [ShaderType.same]
      exact ⟨ShaderType.eq_of_same h.1, ShaderType.eq_of_sameAll h.2⟩
  | .sampler, second, h => by
      cases second <;> simp_all [ShaderType.same]
  | .comparisonSampler, second, h => by
      cases second <;> simp_all [ShaderType.same]
  | .streams, second, h => by
      cases second <;> simp_all [ShaderType.same]
  | .group _ _ symbols, second, h => by
      cases second <;> simp_all [ShaderType.same]
      exact Symbol.eq_of_sameAll h.2
  | .shader _ components, second, h => by
      cases second <;> simp_all [ShaderType.same]
      exact Symbol.eq_of_sameAll h.2

theorem ShaderType.eq_of_sameAll :
    ∀ {first second : List ShaderType}, ShaderType.sameAll first second → first = second
  | [], second, h => by
      cases second <;> simp_all [ShaderType.sameAll]
  | type :: rest, second, h => by
      cases second <;> simp_all [ShaderType.sameAll]
      exact ⟨ShaderType.eq_of_same h.1, ShaderType.eq_of_sameAll h.2⟩

theorem Field.eq_of_same : ∀ {first second : Field}, first.same second → first = second
  | ⟨_, type⟩, ⟨_, _⟩, h => by
      simp_all [Field.same]
      exact ShaderType.eq_of_same h.2

theorem Field.eq_of_sameAll :
    ∀ {first second : List Field}, Field.sameAll first second → first = second
  | [], second, h => by
      cases second <;> simp_all [Field.sameAll]
  | field :: rest, second, h => by
      cases second <;> simp_all [Field.sameAll]
      exact ⟨Field.eq_of_same h.1, Field.eq_of_sameAll h.2⟩

theorem Symbol.eq_of_same : ∀ {first second : Symbol}, first.same second → first = second
  | ⟨_, _, _, type⟩, ⟨_, _, _, _⟩, h => by
      simp_all [Symbol.same]
      exact ShaderType.eq_of_same h.2

theorem Symbol.eq_of_sameAll :
    ∀ {first second : List Symbol}, Symbol.sameAll first second → first = second
  | [], second, h => by
      cases second <;> simp_all [Symbol.sameAll]
  | symbol :: rest, second, h => by
      cases second <;> simp_all [Symbol.sameAll]
      exact ⟨Symbol.eq_of_same h.1, Symbol.eq_of_sameAll h.2⟩

end

mutual

theorem ShaderType.same_self : ∀ type : ShaderType, type.same type
  | .undefined _ | .scalar _ | .vector _ | .matrix _ => by simp [ShaderType.same]
  | .sampler | .comparisonSampler | .streams => by simp [ShaderType.same]
  | .pointer base => by simp [ShaderType.same, ShaderType.same_self base]
  | .array base _ | .buffer base _ | .texture1D base _ => by
      simp [ShaderType.same, ShaderType.same_self base]
  | .texture2D base _ _ => by simp [ShaderType.same, ShaderType.same_self base]
  | .texture3D base _ _ _ => by simp [ShaderType.same, ShaderType.same_self base]
  | .struct _ fields => by simp [ShaderType.same, Field.sameAll_self fields]
  | .function returned parameters => by
      simp [ShaderType.same, ShaderType.same_self returned, ShaderType.sameAll_self parameters]
  | .group _ _ symbols => by simp [ShaderType.same, Symbol.sameAll_self symbols]
  | .shader _ components => by simp [ShaderType.same, Symbol.sameAll_self components]

theorem ShaderType.sameAll_self : ∀ types : List ShaderType, ShaderType.sameAll types types
  | [] => by simp [ShaderType.sameAll]
  | type :: rest => by
      simp [ShaderType.sameAll, ShaderType.same_self type, ShaderType.sameAll_self rest]

theorem Field.same_self : ∀ field : Field, field.same field
  | ⟨_, type⟩ => by simp [Field.same, ShaderType.same_self type]

theorem Field.sameAll_self : ∀ fields : List Field, Field.sameAll fields fields
  | [] => by simp [Field.sameAll]
  | field :: rest => by simp [Field.sameAll, Field.same_self field, Field.sameAll_self rest]

theorem Symbol.same_self : ∀ symbol : Symbol, symbol.same symbol
  | ⟨_, _, _, type⟩ => by simp [Symbol.same, ShaderType.same_self type]

theorem Symbol.sameAll_self : ∀ symbols : List Symbol, Symbol.sameAll symbols symbols
  | [] => by simp [Symbol.sameAll]
  | symbol :: rest => by simp [Symbol.sameAll, Symbol.same_self symbol, Symbol.sameAll_self rest]

end

/-! ## Decidable equality -/

instance : DecidableEq ShaderType := fun first second =>
  if same : first.same second then
    isTrue (ShaderType.eq_of_same same)
  else
    isFalse fun equal => same (equal ▸ first.same_self)

instance : DecidableEq Field := fun first second =>
  if same : first.same second then
    isTrue (Field.eq_of_same same)
  else
    isFalse fun equal => same (equal ▸ first.same_self)

instance : DecidableEq Symbol := fun first second =>
  if same : first.same second then
    isTrue (Symbol.eq_of_same same)
  else
    isFalse fun equal => same (equal ▸ first.same_self)

end ShaderLang
