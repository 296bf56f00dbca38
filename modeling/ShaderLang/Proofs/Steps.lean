import ShaderLang.Compile

/-!
# Steps that succeed or fail

Emission is written in steps that can fail.  A sequence of steps succeeds exactly when its steps do,
it fails where one of them does, and each primitive step has an equation that says what it does to
the builder.  The rest of the
theory takes emission apart with these equations and never looks inside the steps again.
-/

namespace ShaderLang

/-! ## Sequences -/

namespace Run

variable {ε σ α β : Type}

/-- A sequence succeeds exactly when both of its parts do. -/
theorem bind_eq_ok {first : EStateM ε σ α} {next : α → EStateM ε σ β}
    {before after : σ} {result : β} :
    (first >>= next).run before = .ok result after ↔
      ∃ value middle, first.run before = .ok value middle ∧
        (next value).run middle = .ok result after := by
  rw [EStateM.run_bind]
  cases outcome : first.run before with
  | ok value middle =>
      constructor
      · intro nextOk
        exact ⟨value, middle, rfl, nextOk⟩
      · rintro ⟨_, _, same, nextOk⟩
        cases same
        exact nextOk
  | error fault middle => simp

/-- A sequence goes on where its first part ended. -/
theorem bind_of_ok {first : EStateM ε σ α} {next : α → EStateM ε σ β}
    {before middle : σ} {value : α}
    (firstOk : first.run before = .ok value middle) :
    (first >>= next).run before = (next value).run middle := by
  rw [EStateM.run_bind, firstOk]

/-- A sequence fails exactly when its first part fails, or its second part behind the first. -/
theorem bind_eq_error {first : EStateM ε σ α} {next : α → EStateM ε σ β}
    {before after : σ} {fault : ε} :
    (first >>= next).run before = .error fault after ↔
      first.run before = .error fault after ∨
        ∃ value middle, first.run before = .ok value middle ∧
          (next value).run middle = .error fault after := by
  rw [EStateM.run_bind]
  cases outcome : first.run before with
  | ok value middle =>
      constructor
      · intro nextFails
        exact .inr ⟨value, middle, rfl, nextFails⟩
      · rintro (impossible | ⟨_, _, same, nextFails⟩)
        · cases impossible
        · cases same
          exact nextFails
  | error diagnostic middle => simp

/-- The state that a step leaves, whether it succeeds or fails. -/
def final (step : EStateM ε σ α) (before : σ) : σ :=
  match step.run before with
  | .ok _ after => after
  | .error _ after => after

theorem final_of_ok {step : EStateM ε σ α} {before after : σ} {value : α}
    (stepOk : step.run before = .ok value after) :
    final step before = after := by
  unfold final
  rw [stepOk]

theorem final_of_error {step : EStateM ε σ α} {before after : σ} {fault : ε}
    (stepFails : step.run before = .error fault after) :
    final step before = after := by
  unfold final
  rw [stepFails]

theorem final_bind_of_ok {first : EStateM ε σ α} {next : α → EStateM ε σ β}
    {before middle : σ} {value : α}
    (firstOk : first.run before = .ok value middle) :
    final (first >>= next) before = final (next value) middle := by
  unfold final
  rw [bind_of_ok firstOk]

theorem final_bind_of_error {first : EStateM ε σ α} {next : α → EStateM ε σ β}
    {before after : σ} {fault : ε}
    (firstFails : first.run before = .error fault after) :
    final (first >>= next) before = after :=
  final_of_error (bind_eq_error.mpr (.inl firstFails))

@[simp]
theorem pure_eq_ok {value result : α} {before after : σ} :
    (pure value : EStateM ε σ α).run before = .ok result after ↔
      value = result ∧ before = after := by
  change EStateM.Result.ok value before = _ ↔ _
  simp

theorem run_pure (value : α) (state : σ) :
    (pure value : EStateM ε σ α).run state = .ok value state :=
  rfl

theorem run_get_bind (next : σ → EStateM ε σ β) (state : σ) :
    ((get : EStateM ε σ σ) >>= next).run state = (next state).run state :=
  rfl

theorem run_throw (fault : ε) (state : σ) :
    (throw fault : EStateM ε σ α).run state = .error fault state :=
  rfl

@[simp]
theorem throw_ne_ok {fault : ε} {before after : σ} {result : α} :
    (throw fault : EStateM ε σ α).run before ≠ .ok result after := by
  rw [run_throw]
  simp

@[simp]
theorem throw_eq_error {fault fault' : ε} {before after : σ} :
    (throw fault : EStateM ε σ α).run before = .error fault' after ↔
      fault = fault' ∧ before = after := by
  rw [run_throw]
  simp

theorem run_modify (change : σ → σ) (state : σ) :
    (modify change : EStateM ε σ PUnit).run state = .ok () (change state) :=
  rfl

/-! ## Passes over lists -/

theorem run_forM_nil (step : α → EStateM ε σ PUnit) (state : σ) :
    (([] : List α).forM step).run state = .ok () state :=
  rfl

theorem forM_cons (step : α → EStateM ε σ PUnit) (item : α) (rest : List α) :
    (item :: rest).forM step = (step item >>= fun _ => rest.forM step) :=
  rfl

/-- What holds at first, and is kept by each step for the items done so far, holds at the end. -/
theorem forM_invariant {step : α → EStateM ε σ PUnit} {items : List α}
    {before after : σ} (invariant : List α → σ → Prop)
    (runs : (items.forM step).run before = .ok () after)
    (initially : invariant [] before)
    (kept : ∀ done item rest, items = done ++ item :: rest →
      ∀ state state', invariant done state → (step item).run state = .ok () state' →
        invariant (done ++ [item]) state') :
    invariant items after := by
  suffices general : ∀ rest done state, items = done ++ rest → invariant done state →
      (rest.forM step).run state = .ok () after → invariant items after from
    general items [] before rfl initially runs
  intro rest
  induction rest with
  | nil =>
      intro done state split holds finished
      rw [run_forM_nil] at finished
      cases finished
      rw [split, List.append_nil]
      exact holds
  | cons item rest inductionHypothesis =>
      intro done state split holds remaining
      rw [forM_cons] at remaining
      obtain ⟨_, middle, itemOk, restOk⟩ := bind_eq_ok.mp remaining
      have itemKept := kept done item rest split state middle holds itemOk
      exact inductionHypothesis (done ++ [item]) middle (by simp [split]) itemKept restOk

end Run

/-! ## Steps of building a module -/

namespace ModuleBuilder

/-- The builder after the instruction that defines the next id. -/
def defined (builder : ModuleBuilder) (instruction : ResultId → Instruction) : ModuleBuilder :=
  { builder with
    bound := builder.bound + 1
    code := builder.code ++ [instruction builder.bound] }

theorem isAllocated_of_lt {builder : ModuleBuilder} {id : ResultId}
    (positive : 0 < id)
    (below : id < builder.bound) :
    builder.isAllocated id = true := by
  unfold isAllocated
  rw [Bool.and_eq_true, decide_eq_true_iff, decide_eq_true_iff]
  exact ⟨positive, below⟩

theorem isAllocated_defined {builder : ModuleBuilder} (positive : 0 < builder.bound)
    (instruction : ResultId → Instruction) :
    (builder.defined instruction).isAllocated builder.bound = true :=
  isAllocated_of_lt positive (Nat.lt_succ_self _)

end ModuleBuilder

namespace Build

theorem run_define (instruction : ResultId → Instruction) (builder : ModuleBuilder) :
    (define instruction).run builder = .ok builder.bound (builder.defined instruction) :=
  rfl

theorem run_emit (instruction : Instruction) (builder : ModuleBuilder) :
    (emit instruction).run builder = .ok () (builder.append instruction) :=
  rfl

theorem run_requireAllocated {builder : ModuleBuilder} {id : ResultId}
    (allocated : builder.isAllocated id = true) :
    (requireAllocated id).run builder = .ok () builder := by
  unfold requireAllocated
  rw [Run.run_get_bind, if_pos allocated]
  exact Run.run_pure () builder

theorem requireAllocated_eq_ok {before after : ModuleBuilder} {id : ResultId}
    (checked : (requireAllocated id).run before = .ok () after) :
    before = after := by
  unfold requireAllocated at checked
  rw [Run.run_get_bind] at checked
  split at checked
  · exact (Run.pure_eq_ok.mp checked).2
  · exact absurd checked Run.throw_ne_ok

theorem run_addName {builder : ModuleBuilder} {id : ResultId}
    (allocated : builder.isAllocated id = true) (name : String) :
    (addName id name).run builder = .ok () (builder.addName id name) := by
  unfold addName
  rw [Run.bind_of_ok (run_requireAllocated allocated)]
  exact Run.run_modify _ builder

theorem addName_eq_ok {before after : ModuleBuilder} {id : ResultId} {name : String}
    (named : (addName id name).run before = .ok () after) :
    after = before.addName id name := by
  unfold addName at named
  obtain ⟨_, middle, checked, changed⟩ := Run.bind_eq_ok.mp named
  rw [Run.run_modify] at changed
  cases changed
  rw [requireAllocated_eq_ok checked]

theorem run_addSemantic {builder : ModuleBuilder} {id : ResultId}
    (allocated : builder.isAllocated id = true) (semantic : String) :
    (addSemantic id semantic).run builder = .ok () (builder.addSemantic id semantic) := by
  unfold addSemantic
  rw [Run.bind_of_ok (run_requireAllocated allocated)]
  exact Run.run_modify _ builder

theorem addSemantic_eq_ok {before after : ModuleBuilder} {id : ResultId} {semantic : String}
    (marked : (addSemantic id semantic).run before = .ok () after) :
    after = before.addSemantic id semantic := by
  unfold addSemantic at marked
  obtain ⟨_, middle, checked, changed⟩ := Run.bind_eq_ok.mp marked
  rw [Run.run_modify] at changed
  cases changed
  rw [requireAllocated_eq_ok checked]

end Build

/-! ## Steps of emission -/

namespace Emit

variable {α : Type}

theorem run_inModule_of_ok {step : Build α} {emitter : Emitter} {value : α}
    {target : ModuleBuilder} (stepOk : step.run emitter.target = .ok value target) :
    (inModule step).run emitter = .ok value ⟨target, emitter.functions⟩ := by
  unfold EStateM.run at stepOk ⊢
  unfold inModule
  rw [stepOk]

theorem run_inModule_of_error {step : Build α} {emitter : Emitter} {fault : Diagnostic}
    {target : ModuleBuilder} (stepFails : step.run emitter.target = .error fault target) :
    (inModule step).run emitter = .error fault ⟨target, emitter.functions⟩ := by
  unfold EStateM.run at stepFails ⊢
  unfold inModule
  rw [stepFails]

theorem inModule_eq_ok {step : Build α} {before after : Emitter} {value : α}
    (stepOk : (inModule step).run before = .ok value after) :
    ∃ target, step.run before.target = .ok value target ∧
      after = ⟨target, before.functions⟩ := by
  unfold EStateM.run inModule at stepOk
  unfold EStateM.run
  cases outcome : step before.target with
  | ok result target =>
      rw [outcome] at stepOk
      cases stepOk
      exact ⟨target, rfl, rfl⟩
  | error diagnostic target =>
      rw [outcome] at stepOk
      cases stepOk

theorem run_updateFunctions (change : FunctionBuilder → FunctionBuilder) (emitter : Emitter) :
    (updateFunctions change).run emitter =
      .ok () ⟨emitter.target, change emitter.functions⟩ :=
  rfl

theorem run_bindMember (name : String) (binding : Binding) (emitter : Emitter) :
    (bindMember name binding).run emitter =
      .ok () ⟨emitter.target, emitter.functions.bindMember name binding⟩ :=
  rfl

end Emit

/-- The builder with a name bound in its innermost scope. -/
def FunctionBuilder.bindLocal (builder : FunctionBuilder) (name : String) (binding : Binding) :
    FunctionBuilder :=
  { builder with
    scopes :=
      match builder.scopes with
      | [] => []
      | scope :: rest => ((name, binding) :: scope) :: rest }

namespace Emit

theorem run_bindLocal {emitter : Emitter} (opened : emitter.functions.scopes ≠ [])
    (name : String) (binding : Binding) :
    (bindLocal name binding).run emitter =
      .ok () ⟨emitter.target, emitter.functions.bindLocal name binding⟩ := by
  unfold bindLocal
  rw [Run.run_get_bind]
  cases scopes : emitter.functions.scopes with
  | nil => exact absurd scopes opened
  | cons scope rest =>
      rw [run_updateFunctions, FunctionBuilder.bindLocal, scopes]

theorem bindLocal_eq_ok {before after : Emitter} {name : String} {binding : Binding}
    (bound : (bindLocal name binding).run before = .ok () after) :
    before.functions.scopes ≠ [] ∧
      after = ⟨before.target, before.functions.bindLocal name binding⟩ := by
  by_cases opened : before.functions.scopes = []
  · unfold bindLocal at bound
    rw [Run.run_get_bind, opened] at bound
    exact absurd bound Run.throw_ne_ok
  · rw [run_bindLocal opened] at bound
    cases bound
    exact ⟨opened, rfl⟩

theorem run_requireState {emitter : Emitter} {function : OpenFunction}
    (opened : emitter.functions.current = some function) (step : BuildStep) :
    (requireState function.state step).run emitter = .ok function emitter := by
  unfold requireState
  rw [Run.run_get_bind, opened]
  exact congrArg (fun branch : Emit OpenFunction => branch.run emitter) (if_pos rfl)

theorem requireState_eq_ok {before after : Emitter} {state : MethodState} {step : BuildStep}
    {function : OpenFunction}
    (checked : (requireState state step).run before = .ok function after) :
    before.functions.current = some function ∧ function.state = state ∧ after = before := by
  unfold requireState at checked
  rw [Run.run_get_bind] at checked
  cases current : before.functions.current with
  | none =>
      rw [current] at checked
      exact absurd checked Run.throw_ne_ok
  | some openFunction =>
      simp only [current] at checked
      split at checked
      · next same =>
          obtain ⟨rfl, rfl⟩ := Run.pure_eq_ok.mp checked
          exact ⟨rfl, same, rfl⟩
      · exact absurd checked Run.throw_ne_ok

theorem run_inScope {α : Type} (step : Emit α) (emitter : Emitter) :
    (inScope step).run emitter =
      match step.run ⟨emitter.target, emitter.functions.pushScope⟩ with
      | .ok value inner => .ok value ⟨inner.target, inner.functions.dropScope⟩
      | .error diagnostic inner => .error diagnostic ⟨inner.target, inner.functions.dropScope⟩ :=
  rfl

theorem inScope_eq_ok {α : Type} {step : Emit α} {before after : Emitter} {value : α}
    (stepOk : (inScope step).run before = .ok value after) :
    ∃ inner, step.run ⟨before.target, before.functions.pushScope⟩ = .ok value inner ∧
      after = ⟨inner.target, inner.functions.dropScope⟩ := by
  rw [run_inScope] at stepOk
  cases outcome : step.run ⟨before.target, before.functions.pushScope⟩ with
  | ok result inner =>
      rw [outcome] at stepOk
      cases stepOk
      exact ⟨inner, rfl, rfl⟩
  | error diagnostic inner =>
      rw [outcome] at stepOk
      cases stepOk

end Emit

end ShaderLang
