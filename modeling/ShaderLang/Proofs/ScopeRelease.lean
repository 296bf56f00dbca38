import ShaderLang.Proofs.Lists
import ShaderLang.Proofs.Steps

/-!
# Scopes are released

Emission leaves blocks through every statement in them that can fail.  A block releases its own scope
on each of these ways and nothing in it touches a scope further out, so behind a block all scopes are
as they were.  Of the other statements only a declaration changes a scope: the innermost one, in the
declared name alone, and only if it succeeds.
-/

namespace ShaderLang

/-! ## What a step leaves alone -/

/-- Two function builders with the same scopes, bindings of the shader and emitted functions. -/
structure FunctionBuilder.SameBindings (before after : FunctionBuilder) : Prop where
  scopes : after.scopes = before.scopes
  members : after.members = before.members
  finished : after.finished = before.finished

/-- Two function builders that differ at most in their innermost scope and in their open function. -/
structure FunctionBuilder.SameBelow (before after : FunctionBuilder) : Prop where
  scopes : after.scopes.tail = before.scopes.tail
  members : after.members = before.members
  finished : after.finished = before.finished

/-- The second builder binds one more name in its innermost scope, in place of an earlier binding
of the name there. -/
structure FunctionBuilder.BindsOne (name : String) (before after : FunctionBuilder) : Prop where
  scopes : ∃ cell type scope extended outer,
    before.scopes = scope :: outer ∧ after.scopes = extended :: outer ∧
      ∀ asked, extended.lookup asked =
        if asked = name then some (.cell cell type) else scope.lookup asked
  members : after.members = before.members
  finished : after.finished = before.finished

namespace FunctionBuilder

variable {name : String} {first second third : FunctionBuilder}

theorem SameBindings.refl (functions : FunctionBuilder) : functions.SameBindings functions :=
  ⟨rfl, rfl, rfl⟩

theorem SameBindings.trans
    (front : first.SameBindings second)
    (back : second.SameBindings third) :
    first.SameBindings third where
  scopes := back.scopes.trans front.scopes
  members := back.members.trans front.members
  finished := back.finished.trans front.finished

theorem SameBindings.below (same : first.SameBindings second) : first.SameBelow second where
  scopes := congrArg List.tail same.scopes
  members := same.members
  finished := same.finished

theorem SameBelow.trans
    (front : first.SameBelow second)
    (back : second.SameBelow third) :
    first.SameBelow third where
  scopes := back.scopes.trans front.scopes
  members := back.members.trans front.members
  finished := back.finished.trans front.finished

theorem BindsOne.below (binds : first.BindsOne name second) : first.SameBelow second where
  scopes := by
    obtain ⟨cell, type, scope, extended, outer, isScope, isExtended, -⟩ := binds.scopes
    simp [isScope, isExtended]
  members := binds.members
  finished := binds.finished

theorem SameBindings.then_bindsOne
    (front : first.SameBindings second)
    (back : second.BindsOne name third) :
    first.BindsOne name third where
  scopes := by
    rw [← front.scopes]
    exact back.scopes
  members := back.members.trans front.members
  finished := back.finished.trans front.finished

end FunctionBuilder

namespace Emit

open FunctionBuilder

variable {α β : Type} {name : String} {step : Emit α} {next : α → Emit β}

/-- Whether the function builders in front of a step and behind it are related, whether the step
succeeds or fails. -/
def Relates (relation : FunctionBuilder → FunctionBuilder → Prop) (step : Emit α) : Prop :=
  ∀ before : Emitter, relation before.functions (Run.final step before).functions

/-- Whether a step keeps all bindings, whether it succeeds or fails. -/
abbrev Keeps (step : Emit α) : Prop :=
  step.Relates SameBindings

/-- Whether a step keeps everything but the innermost scope, whether it succeeds or fails. -/
abbrev KeepsBelow (step : Emit α) : Prop :=
  step.Relates SameBelow

/-- Whether a step binds a name in the innermost scope if it succeeds, and keeps all bindings if it
fails. -/
def Declares (name : String) (step : Emit α) : Prop :=
  ∀ before : Emitter,
    (∃ fault after, step.run before = .error fault after ∧
      before.functions.SameBindings after.functions) ∨
    ∃ value after, step.run before = .ok value after ∧
      before.functions.BindsOne name after.functions

section Relations

variable {relation : FunctionBuilder → FunctionBuilder → Prop} {before after : Emitter}

theorem Relates.of_ok (relates : step.Relates relation) {value : α}
    (succeeds : step.run before = .ok value after) :
    relation before.functions after.functions := by
  have holds := relates before
  rwa [Run.final_of_ok succeeds] at holds

theorem Relates.of_error (relates : step.Relates relation) {fault : Diagnostic}
    (fails : step.run before = .error fault after) :
    relation before.functions after.functions := by
  have holds := relates before
  rwa [Run.final_of_error fails] at holds

theorem Relates.bind
    (transitive : ∀ {first second third}, relation first second → relation second third →
      relation first third)
    (first : step.Relates relation)
    (second : ∀ value, (next value).Relates relation) :
    (step >>= next).Relates relation := by
  intro before
  cases outcome : step.run before with
  | ok value middle =>
      rw [Run.final_bind_of_ok outcome]
      exact transitive (first.of_ok outcome) (second value middle)
  | error fault middle =>
      rw [Run.final_bind_of_error outcome]
      exact first.of_error outcome

theorem relates_get_bind {next : Emitter → Emit β}
    (second : ∀ state, (next state).Relates relation) :
    (get >>= next).Relates relation :=
  fun before => second before before

end Relations

theorem keeps_pure (value : α) : Keeps (pure value) :=
  fun before => .refl before.functions

theorem keeps_throw (fault : Diagnostic) : Keeps (throw fault : Emit α) :=
  fun before => .refl before.functions

theorem Keeps.bind
    (first : step.Keeps)
    (second : ∀ value, (next value).Keeps) :
    (step >>= next).Keeps :=
  Relates.bind SameBindings.trans first second

theorem KeepsBelow.bind
    (first : step.KeepsBelow)
    (second : ∀ value, (next value).KeepsBelow) :
    (step >>= next).KeepsBelow :=
  Relates.bind SameBelow.trans first second

theorem Keeps.below (keeps : step.Keeps) : step.KeepsBelow :=
  fun before => (keeps before).below

theorem Declares.below (declares : step.Declares name) : step.KeepsBelow := by
  intro before
  rcases declares before with ⟨fault, after, fails, same⟩ | ⟨value, after, succeeds, binds⟩
  · rw [Run.final_of_error fails]
    exact same.below
  · rw [Run.final_of_ok succeeds]
    exact binds.below

/-- A step in front of a declaration keeps what the declaration keeps. -/
theorem Keeps.bind_declares
    (first : step.Keeps)
    (second : ∀ value, (next value).Declares name) :
    (step >>= next).Declares name := by
  intro before
  cases outcome : step.run before with
  | error fault middle =>
      exact .inl ⟨fault, middle, Run.bind_eq_error.mpr (.inl outcome), first.of_error outcome⟩
  | ok value middle =>
      have front : before.functions.SameBindings middle.functions := first.of_ok outcome
      rw [Run.bind_of_ok outcome]
      rcases second value middle with ⟨fault, after, fails, same⟩ | ⟨result, after, succeeds, binds⟩
      · exact .inl ⟨fault, after, fails, front.trans same⟩
      · exact .inr ⟨result, after, succeeds, front.then_bindsOne binds⟩

/-! ## Steps that keep all bindings -/

theorem keeps_inModule (step : Build α) : (inModule step).Keeps := by
  intro before
  cases outcome : step.run before.target with
  | ok value target =>
      rw [Run.final_of_ok (run_inModule_of_ok outcome)]
      exact .refl before.functions
  | error fault target =>
      rw [Run.final_of_error (run_inModule_of_error outcome)]
      exact .refl before.functions

theorem keeps_requireState (state : MethodState) (step : BuildStep) :
    (requireState state step).Keeps := by
  refine relates_get_bind fun emitter => ?_
  cases emitter.functions.current with
  | none => exact keeps_throw _
  | some function =>
      by_cases inState : function.state = state
      · simpa only [inState, if_true] using keeps_pure function
      · simpa only [inState, if_false] using keeps_throw _

theorem keeps_emitReturn (value : Option ResultId) : (emitReturn value).Keeps := by
  refine (keeps_requireState _ _).bind fun function => ?_
  refine (keeps_inModule _).bind fun _ => ?_
  exact fun before => ⟨rfl, rfl, rfl⟩

theorem keeps_defineCell (name : String) (type : ShaderType) (storage : StorageClass) :
    (defineCell name type storage).Keeps :=
  keeps_inModule _

theorem keeps_storeOptional (cell : ResultId) (value : Option ResultId) :
    (storeOptional cell value).Keeps := by
  cases value with
  | none => exact keeps_pure ()
  | some stored => exact keeps_inModule (Build.emit (.store cell stored))

end Emit

theorem Annotations.keeps_require (annotations : Annotations) (node : NodeId)
    (thing : TypedThing) (name : String) :
    (annotations.require node thing name).Keeps := by
  unfold Annotations.require
  cases annotations.type? node with
  | none => exact Emit.keeps_throw _
  | some type => exact Emit.keeps_pure type

theorem Binding.keeps_emitRead (name : String) (binding : Binding) :
    (binding.emitRead name).Keeps := by
  cases binding with
  | value id type => exact Emit.keeps_pure id
  | cell id type => exact Emit.keeps_inModule _
  | generic type => exact Emit.keeps_throw _

theorem keeps_emitOperation (annotations : Annotations) (node : NodeId) (location : Location)
    (operator : Operator) (left right : ResultId) :
    (emitOperation annotations node location operator left right).Keeps := by
  unfold emitOperation
  cases annotations.type? node with
  | none => exact Emit.keeps_throw _
  | some type =>
      dsimp only
      cases type.element?.bind operator.arithmetic? with
      | none => exact Emit.keeps_throw _
      | some operation => exact Emit.keeps_inModule _

/-- An expression reads bindings and makes none. -/
theorem Expression.keeps_emit (annotations : Annotations) (expression : Expression) :
    (expression.emit annotations).Keeps := by
  induction expression with
  | literal node location value => exact Emit.keeps_inModule _
  | identifier node location name =>
      refine Emit.relates_get_bind fun emitter => ?_
      cases emitter.functions.lookup? name with
      | none => exact Emit.keeps_throw _
      | some binding => exact binding.keeps_emitRead name
  | stream node location name =>
      refine Emit.relates_get_bind fun emitter => ?_
      cases emitter.functions.member? name with
      | none => exact Emit.keeps_throw _
      | some binding => exact binding.keeps_emitRead name
  | binary node location operator left right leftKeeps rightKeeps =>
      refine leftKeeps.bind fun leftId => rightKeeps.bind fun rightId => ?_
      exact keeps_emitOperation annotations node location operator leftId rightId

theorem Expression.keeps_emitOptional (annotations : Annotations) (value : Option Expression) :
    (Expression.emitOptional annotations value).Keeps := by
  cases value with
  | none => exact Emit.keeps_pure none
  | some expression =>
      exact (expression.keeps_emit annotations).bind fun id => Emit.keeps_pure (some id)

theorem Binding.keeps_assigned (name : String) (binding : Option Binding) :
    (Binding.assigned name binding).Keeps := by
  rcases binding with _ | binding
  · exact Emit.keeps_throw _
  · cases binding with
    | cell id type => exact Emit.keeps_pure id
    | value id type => exact Emit.keeps_throw _
    | generic type => exact Emit.keeps_throw _

theorem Expression.keeps_assigned (target : Expression) : target.assigned.Keeps := by
  cases target with
  | identifier node location name =>
      exact Emit.relates_get_bind fun emitter => Binding.keeps_assigned name _
  | stream node location name =>
      exact Emit.relates_get_bind fun emitter => Binding.keeps_assigned name _
  | literal node location value => exact Emit.keeps_throw _
  | binary node location operator left right => exact Emit.keeps_throw _

/-! ## Declarations -/

/-- A binding is added to the innermost scope, or there is none and nothing changes. -/
theorem Emit.declares_bindLocal (name : String) (cell : ResultId) (type : ShaderType) :
    (Emit.bindLocal name (.cell cell type)).Declares name := by
  intro before
  cases opened : before.functions.scopes with
  | nil =>
      refine .inl ⟨.noActiveScope, before, ?_, .refl before.functions⟩
      unfold Emit.bindLocal
      rw [Run.run_get_bind, opened]
      rfl
  | cons scope outer =>
      have notEmpty : before.functions.scopes ≠ [] := by simp [opened]
      refine .inr ⟨(), _, Emit.run_bindLocal notEmpty name _, ?_, rfl, rfl⟩
      refine ⟨cell, type, scope, (name, .cell cell type) :: scope, outer, opened, ?_, ?_⟩
      · simp [FunctionBuilder.bindLocal, opened]
      · intro asked
        exact lookup_cons_eq name asked _ scope

theorem declares_emitDeclaration (annotations : Annotations) (node : NodeId) (name : String)
    (value : Option Expression) :
    (emitDeclaration annotations node name value).Declares name := by
  refine (annotations.keeps_require node .localVariable name).bind_declares fun type => ?_
  refine (Expression.keeps_emitOptional annotations value).bind_declares fun valueId => ?_
  refine (Emit.keeps_defineCell name type .function).bind_declares fun cell => ?_
  refine (Emit.keeps_storeOptional cell valueId).bind_declares fun _ => ?_
  exact Emit.declares_bindLocal name cell type

/-! ## Statements -/

/-- What is done in a scope of its own keeps all bindings if it keeps those further out. -/
theorem Emit.KeepsBelow.inScope {α : Type} {step : Emit α} (keeps : step.KeepsBelow) :
    (Emit.inScope step).Keeps := by
  intro before
  have inner := keeps ⟨before.target, before.functions.pushScope⟩
  have released : (Run.final (Emit.inScope step) before).functions =
      (Run.final step ⟨before.target, before.functions.pushScope⟩).functions.dropScope := by
    unfold Run.final
    rw [Emit.run_inScope]
    cases step.run ⟨before.target, before.functions.pushScope⟩ <;> rfl
  rw [released]
  exact ⟨inner.scopes, inner.members, inner.finished⟩

namespace Statement

/-- The name that a statement declares. -/
def declared? : Statement → Option String
  | .declare _ _ _ name _ => some name
  | _ => none

/-- A statement that declares a name binds it or fails. -/
theorem declares_emit (annotations : Annotations) {statement : Statement} {name : String}
    (isDeclared : statement.declared? = some name) :
    (statement.emit annotations).Declares name := by
  cases statement with
  | declare node location written declared value =>
      obtain rfl : declared = name := by simpa [declared?] using isDeclared
      exact declares_emitDeclaration annotations node declared value
  | _ => simp [declared?] at isDeclared

mutual

/-- A statement that declares nothing keeps all bindings. -/
theorem keeps_emit (annotations : Annotations) :
    ∀ statement : Statement, statement.declared? = none → (statement.emit annotations).Keeps
  | .declare .., undeclared => by simp [declared?] at undeclared
  | .assign _ target value, _ =>
      (value.keeps_emit annotations).bind fun _ =>
        target.keeps_assigned.bind fun _ => Emit.keeps_inModule _
  | .evaluate value, _ => (value.keeps_emit annotations).bind fun _ => Emit.keeps_pure ()
  | .exit _ value, _ =>
      (Expression.keeps_emitOptional annotations value).bind fun valueId =>
        Emit.keeps_emitReturn valueId
  | .block _ body, _ => (keepsBelow_emitAll annotations body).inScope

/-- Statements one behind the other change the innermost scope only. -/
theorem keepsBelow_emitAll (annotations : Annotations) :
    ∀ body : List Statement, (emitAll annotations body).KeepsBelow
  | [] => (Emit.keeps_pure ()).below
  | statement :: rest => by
      have keepsFirst : (statement.emit annotations).KeepsBelow := by
        cases isDeclared : statement.declared? with
        | none => exact (keeps_emit annotations statement isDeclared).below
        | some name => exact (declares_emit annotations isDeclared).below
      refine Emit.relates_get_bind fun emitter => ?_
      by_cases terminated : emitter.functions.isTerminated = true
      · rw [if_pos terminated]
        exact (Emit.keeps_pure ()).below
      · rw [if_neg terminated]
        exact keepsFirst.bind fun _ => keepsBelow_emitAll annotations rest

end

/-- Behind a statement the scopes, the bindings of the shader and the emitted functions are those in
front of it, whether the statement is emitted or fails, at whatever depth; but a declaration that is
emitted binds its name in the innermost scope. -/
theorem emit_releasesScopes (annotations : Annotations) (statement : Statement)
    (before : Emitter) :
    (statement.declared? = none →
      before.functions.SameBindings
        (Run.final (statement.emit annotations) before).functions) ∧
    ∀ name, statement.declared? = some name →
      (∃ fault after, (statement.emit annotations).run before = .error fault after ∧
        before.functions.SameBindings after.functions) ∨
      ∃ after, (statement.emit annotations).run before = .ok () after ∧
        before.functions.BindsOne name after.functions := by
  constructor
  · intro undeclared
    exact keeps_emit annotations statement undeclared before
  · intro name isDeclared
    rcases declares_emit annotations isDeclared before with
      failed | ⟨⟨⟩, after, succeeds, binds⟩
    · exact .inl failed
    · exact .inr ⟨after, succeeds, binds⟩

/-- A declaration of a name that is bound further out. -/
def shadowing : Statement :=
  .declare 0 .unknown ⟨"float", none, .unknown⟩ "light" none

/-- Two blocks inside each other that both bind the name, of which the inner one fails. -/
def failing : Statement :=
  .block .unknown [shadowing, .block .unknown
    [shadowing, .assign .unknown (.identifier 1 .unknown "dark") (.identifier 2 .unknown "light")]]

/-- What both are emitted with: the name is bound already in the only scope. -/
def lit : Emitter :=
  ⟨.initial .allNames, ⟨none, [], [[("light", .generic .void)]], []⟩⟩

theorem failing_releasesScopes :
    (∃ fault after, (failing.emit ⟨[(0, .void)], [], none⟩).run lit = .error fault after ∧
      lit.functions.SameBindings after.functions) ∧
    ∃ after, (shadowing.emit ⟨[(0, .void)], [], none⟩).run lit = .ok () after ∧
      lit.functions.BindsOne "light" after.functions := by
  constructor
  · refine ⟨.emission (.notBound "dark"), _, rfl, ?_⟩
    exact (emit_releasesScopes ⟨[(0, .void)], [], none⟩ failing lit).1 rfl
  · rcases (emit_releasesScopes ⟨[(0, .void)], [], none⟩ shadowing lit).2 "light" rfl with
      ⟨fault, after, fails, -⟩ | succeeds
    · cases fails
    · exact succeeds

end Statement

end ShaderLang
