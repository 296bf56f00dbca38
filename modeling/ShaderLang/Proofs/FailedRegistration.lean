import ShaderLang.Proofs.Registration

/-!
# Registrations that fail

A registration fails at the first part of a type that has no instruction form.  What was declared in
front of that part stays declared, so a registration is a sequence of declarations whether it
succeeds or fails.
-/

namespace ShaderLang

namespace Build

open ModuleBuilder

variable {before after : ModuleBuilder} {fault : Diagnostic}

theorem ne_error_of_succeeds {α : Type} {step : Build α}
    (succeeds : ∃ value middle, step.run before = .ok value middle) :
    step.run before ≠ .error fault after := by
  obtain ⟨value, middle, stepOk⟩ := succeeds
  rw [stepOk]
  simp

/-- A registration fails only where its declaring step does. -/
theorem registered_eq_error {type : ShaderType} {declare : Build ResultId}
    (fails : (registered type declare).run before = .error fault after) :
    declare.run before = .error fault after := by
  unfold registered at fails
  rw [Run.run_get_bind] at fails
  cases found : before.typeId? type with
  | some earlier =>
      rw [found] at fails
      exact absurd fails (ne_error_of_succeeds ⟨earlier, before, rfl⟩)
  | none =>
      rw [found] at fails
      rcases Run.bind_eq_error.mp fails with declareFails | ⟨result, middle, -, rest⟩
      · exact declareFails
      · exact absurd rest (ne_error_of_succeeds ⟨result, _, rfl⟩)

/-- The registration of a type made of one other type fails only where that of the other does. -/
theorem registered_eq_error_behind {type : ShaderType} {α : Type} {component : Build α}
    {form : α → ResultId → Instruction}
    (fails : (registered type (component >>= fun part => define (form part))).run before =
      .error fault after) :
    component.run before = .error fault after := by
  rcases Run.bind_eq_error.mp (registered_eq_error fails) with componentFails | ⟨_, _, -, rest⟩
  · exact componentFails
  · exact absurd rest (ne_error_of_succeeds ⟨_, _, run_define _ _⟩)

theorem registered_throw {type : ShaderType} {limit : Nat} {diagnostic : Diagnostic}
    (fails : (registered type (throw diagnostic)).run before = .error fault after) :
    Reaches limit before after := by
  obtain ⟨-, rfl⟩ := Run.throw_eq_error.mp (registered_eq_error fails)
  exact .refl

/-- Only a constant without a value fails to be registered, and nothing is declared for it. -/
theorem registerConstant_eq_error {scalar : ScalarType} {value : Constant}
    (fails : (registerConstant scalar value).run before = .error fault after) :
    after = before := by
  by_cases valued : scalar = .void
  · unfold registerConstant at fails
    rw [Run.run_get_bind] at fails
    cases found : before.constantId? scalar value with
    | some earlier =>
        rw [found] at fails
        exact absurd fails (ne_error_of_succeeds ⟨earlier, before, rfl⟩)
    | none =>
        simp only [found, if_pos valued] at fails
        exact (Run.throw_eq_error.mp fails).2.symm
  · exact absurd fails (ne_error_of_succeeds (registerConstant_succeeds valued value before))

mutual

/-- A type that cannot be registered leaves declarations of at most its weight. -/
theorem register_fails : ∀ (type : ShaderType) {before after : ModuleBuilder} {fault : Diagnostic},
    (register type).run before = .error fault after → Reaches type.weight before after
  | .undefined name, _, _, _, fails => registered_throw fails
  | .scalar scalar, before, _, _, fails =>
      absurd fails (ne_error_of_succeeds (registerScalar_succeeds scalar before))
  | .vector vector, before, _, _, fails =>
      absurd fails (ne_error_of_succeeds (registerVector_succeeds vector before))
  | .matrix matrix, before, _, _, fails =>
      absurd fails (ne_error_of_succeeds (registerMatrix_succeeds matrix before))
  | .array base size, _, _, _, fails => by
      have lighter : base.weight ≤ (ShaderType.array base size).weight := Nat.le_succ _
      rcases Run.bind_eq_error.mp (registered_eq_error fails) with
        baseFails | ⟨element, middle, baseOk, rest⟩
      · exact (register_fails base baseFails).weaken lighter
      · have baseReaches := (register_reaches base baseOk).1.weaken lighter
        rcases Run.bind_eq_error.mp rest with lengthFails | ⟨_, _, -, defineFails⟩
        · rw [registerConstant_eq_error lengthFails]
          exact baseReaches
        · exact absurd defineFails (ne_error_of_succeeds ⟨_, _, run_define _ _⟩)
  | .pointer base, _, _, _, fails =>
      (register_fails base (registered_eq_error_behind fails)).weaken (Nat.le_succ _)
  | .struct name fields, _, _, _, fails => by
      rcases Run.bind_eq_error.mp (registered_eq_error fails) with
        fieldsFail | ⟨members, middle, -, rest⟩
      · exact (registerFields_fails fields fieldsFail).weaken (Nat.le_succ _)
      · exact absurd rest (ne_error_of_succeeds ⟨middle.bound, _,
          (Run.bind_of_ok (run_define _ _)).trans (Run.bind_of_ok (Run.run_modify _ _))⟩)
  | .function returned parameters, _, _, _, fails => by
      have lighter : returned.weight + ShaderType.totalWeight parameters ≤
          (ShaderType.function returned parameters).weight :=
        Nat.le_succ _
      rcases Run.bind_eq_error.mp (registered_eq_error fails) with
        returnedFails | ⟨returnedId, middle, returnedOk, rest⟩
      · exact (register_fails returned returnedFails).weaken
          (Nat.le_trans (Nat.le_add_right _ _) lighter)
      · rcases Run.bind_eq_error.mp rest with parametersFail | ⟨_, _, -, defineFails⟩
        · exact ((register_reaches returned returnedOk).1.append
            (registerAll_fails parameters parametersFail)).weaken lighter
        · exact absurd defineFails (ne_error_of_succeeds ⟨_, _, run_define _ _⟩)
  | .sampler, before, _, _, fails =>
      absurd fails (ne_error_of_succeeds (registerSampler_succeeds before))
  | .comparisonSampler, before, _, _, fails =>
      absurd fails (ne_error_of_succeeds (registerComparisonSampler_succeeds before))
  | .buffer base size, _, _, _, fails =>
      (register_fails base (registered_eq_error_behind fails)).weaken (Nat.le_succ _)
  | .texture1D base size, _, _, _, fails =>
      (register_fails base (registered_eq_error_behind fails)).weaken (Nat.le_succ _)
  | .texture2D base width height, _, _, _, fails =>
      (register_fails base (registered_eq_error_behind fails)).weaken (Nat.le_succ _)
  | .texture3D base width height depth, _, _, _, fails =>
      (register_fails base (registered_eq_error_behind fails)).weaken (Nat.le_succ _)
  | .streams, _, _, _, fails => registered_throw fails
  | .group kind name symbols, _, _, _, fails => registered_throw fails
  | .shader name components, _, _, _, fails => registered_throw fails

theorem registerAll_fails :
    ∀ (types : List ShaderType) {before after : ModuleBuilder} {fault : Diagnostic},
      (registerAll types).run before = .error fault after →
        Reaches (ShaderType.totalWeight types) before after
  | [], before, _, _, fails => absurd fails (ne_error_of_succeeds ⟨[], before, rfl⟩)
  | type :: rest, _, _, _, fails => by
      rcases Run.bind_eq_error.mp fails with typeFails | ⟨id, middle, typeOk, restRun⟩
      · exact (register_fails type typeFails).weaken (Nat.le_add_right _ _)
      · rcases Run.bind_eq_error.mp restRun with restFails | ⟨_, _, -, finished⟩
        · exact (register_reaches type typeOk).1.append (registerAll_fails rest restFails)
        · exact absurd finished (ne_error_of_succeeds ⟨_, _, rfl⟩)

theorem registerField_fails :
    ∀ (field : Field) {before after : ModuleBuilder} {fault : Diagnostic},
      (registerField field).run before = .error fault after → Reaches field.weight before after
  | ⟨_, type⟩, _, _, _, fails => register_fails type fails

theorem registerFields_fails :
    ∀ (fields : List Field) {before after : ModuleBuilder} {fault : Diagnostic},
      (registerFields fields).run before = .error fault after →
        Reaches (Field.totalWeight fields) before after
  | [], before, _, _, fails => absurd fails (ne_error_of_succeeds ⟨[], before, rfl⟩)
  | field :: rest, _, _, _, fails => by
      rcases Run.bind_eq_error.mp fails with fieldFails | ⟨id, middle, fieldOk, restRun⟩
      · exact (registerField_fails field fieldFails).weaken (Nat.le_add_right _ _)
      · rcases Run.bind_eq_error.mp restRun with restFails | ⟨_, _, -, finished⟩
        · exact (registerField_reaches field fieldOk).1.append
            (registerFields_fails rest restFails)
        · exact absurd finished (ne_error_of_succeeds ⟨_, _, rfl⟩)

end

/-! ## Registrations that may fail -/

/-- The registration of a type is a sequence of declarations, whether it succeeds or fails. -/
theorem register_final (type : ShaderType) (before : ModuleBuilder) :
    Reaches type.weight before (Run.final (register type) before) := by
  cases outcome : (register type).run before with
  | ok id after =>
      rw [Run.final_of_ok outcome]
      exact (register_reaches type outcome).1
  | error diagnostic after =>
      rw [Run.final_of_error outcome]
      exact register_fails type outcome

/-- So is the registration of a constant. -/
theorem registerConstant_final (scalar : ScalarType) (value : Constant) (before : ModuleBuilder) :
    Reaches 0 before (Run.final (registerConstant scalar value) before) := by
  cases outcome : (registerConstant scalar value).run before with
  | ok id after =>
      rw [Run.final_of_ok outcome]
      exact (registerConstant_reaches outcome).1
  | error diagnostic after =>
      rw [Run.final_of_error outcome, registerConstant_eq_error outcome]

end Build

end ShaderLang
