import ShaderLang.Proofs.Lists
import ShaderLang.Source.Expression

/-!
# Tables of names

Analysis, emission and the meaning of a body each attach something to the names that are visible at
a point of a shader: a type, an id, a value.  All of them scope names in the same way, by a stack of
local scopes in front of the names of the shader.
-/

namespace ShaderLang

/-- Something for each name: the local scopes, the innermost first, and the names of the shader.
Within a scope the latest entry of a name counts. -/
structure NameTable (α : Type) where
  scopes : List (List (String × α))
  shader : List (String × α)

variable {α β : Type}

namespace NameTable

/-- What a name stands for: the innermost local entry, or else that of the shader. -/
def lookup? (names : NameTable α) (name : String) : Option α :=
  (names.scopes.findSome? fun scope => scope.lookup name).or (names.shader.lookup name)

/-- Opens a scope. -/
def push (names : NameTable α) : NameTable α :=
  { names with scopes := [] :: names.scopes }

/-- Adds an entry to the innermost scope, if one is open. -/
def bind (names : NameTable α) (name : String) (entry : α) : NameTable α :=
  { names with
    scopes :=
      match names.scopes with
      | [] => []
      | scope :: rest => ((name, entry) :: scope) :: rest }

/-- Every entry of a table, the hidden ones included. -/
def entries (names : NameTable α) : List (String × α) :=
  names.scopes.flatten ++ names.shader

end NameTable

/-- What an expression that names something stands for.  A stream access skips the local scopes. -/
def Expression.resolve? (names : NameTable α) : Expression → Option α
  | .identifier _ _ name => names.lookup? name
  | .stream _ _ name => names.shader.lookup name
  | .literal .. | .binary .. => none

namespace NameTable

theorem mem_entries_of_lookup? {names : NameTable α} {name : String} {entry : α}
    (found : names.lookup? name = some entry) :
    (name, entry) ∈ names.entries := by
  unfold lookup? at found
  unfold entries
  rcases Option.or_eq_some_iff.mp found with inScope | ⟨-, inShader⟩
  · obtain ⟨scope, member, inside⟩ := List.exists_of_findSome?_eq_some inScope
    exact List.mem_append_left _
      (List.mem_flatten.mpr ⟨scope, member, mem_of_lookup_eq_some inside⟩)
  · exact List.mem_append_right _ (mem_of_lookup_eq_some inShader)

theorem mem_entries_of_resolve? {names : NameTable α} {expression : Expression} {entry : α}
    (found : expression.resolve? names = some entry) :
    ∃ name, (name, entry) ∈ names.entries := by
  cases expression with
  | identifier node location name => exact ⟨name, mem_entries_of_lookup? found⟩
  | stream node location name =>
      exact ⟨name, List.mem_append_right _ (mem_of_lookup_eq_some found)⟩
  | literal node location value => simp [Expression.resolve?] at found
  | binary node location operator left right => simp [Expression.resolve?] at found

@[simp]
theorem entries_push (names : NameTable α) : names.push.entries = names.entries := by
  simp [push, entries]

theorem entries_bind {names : NameTable α} (opened : names.scopes ≠ []) (name : String)
    (entry : α) :
    (names.bind name entry).entries = (name, entry) :: names.entries := by
  unfold bind entries
  cases scopes : names.scopes with
  | nil => exact absurd scopes opened
  | cons scope rest => simp

/-! ## Tables that agree -/

/-- Two entries of one name whose contents are related. -/
def SameName (related : α → β → Prop) (left : String × α) (right : String × β) : Prop :=
  left.1 = right.1 ∧ related left.2 right.2

/-- Two tables with the same names in the same scopes, whose entries are related one by one. -/
structure Agrees (related : α → β → Prop) (left : NameTable α) (right : NameTable β) : Prop where
  scopes : List.Forall₂ (List.Forall₂ (SameName related)) left.scopes right.scopes
  shader : List.Forall₂ (SameName related) left.shader right.shader

theorem lookup_related {related : α → β → Prop} {left : List (String × α)}
    {right : List (String × β)}
    (same : List.Forall₂ (SameName related) left right) (name : String) :
    Option.Rel related (left.lookup name) (right.lookup name) := by
  induction same with
  | nil => exact .none
  | @cons first second leftRest rightRest head tail inductionHypothesis =>
      obtain ⟨key, entry⟩ := first
      obtain ⟨otherKey, otherEntry⟩ := second
      obtain ⟨rfl, entriesRelated⟩ := head
      rw [lookup_cons_eq, lookup_cons_eq]
      split
      · exact .some entriesRelated
      · exact inductionHypothesis

theorem findSome?_related {related : α → β → Prop} {left : List (List (String × α))}
    {right : List (List (String × β))}
    (same : List.Forall₂ (List.Forall₂ (SameName related)) left right) (name : String) :
    Option.Rel related (left.findSome? fun scope => scope.lookup name)
      (right.findSome? fun scope => scope.lookup name) := by
  induction same with
  | nil => exact .none
  | @cons leftScope rightScope leftRest rightRest head tail inductionHypothesis =>
      have heads := lookup_related head name
      rw [List.findSome?_cons, List.findSome?_cons]
      generalize leftScope.lookup name = leftFound at heads ⊢
      generalize rightScope.lookup name = rightFound at heads ⊢
      cases heads with
      | some entriesRelated => exact .some entriesRelated
      | none => exact inductionHypothesis

namespace Agrees

variable {related : α → β → Prop} {left : NameTable α} {right : NameTable β}

/-- Tables that agree resolve every name alike. -/
theorem lookup? (agrees : Agrees related left right) (name : String) :
    Option.Rel related (left.lookup? name) (right.lookup? name) := by
  have locals := findSome?_related agrees.scopes name
  unfold NameTable.lookup?
  generalize (left.scopes.findSome? fun scope => scope.lookup name) = leftFound at locals ⊢
  generalize (right.scopes.findSome? fun scope => scope.lookup name) = rightFound at locals ⊢
  cases locals with
  | some entriesRelated => exact .some entriesRelated
  | none => exact lookup_related agrees.shader name

theorem resolve? (agrees : Agrees related left right) (expression : Expression) :
    Option.Rel related (expression.resolve? left) (expression.resolve? right) := by
  cases expression with
  | identifier node location name => exact agrees.lookup? name
  | stream node location name => exact lookup_related agrees.shader name
  | literal node location value => exact .none
  | binary node location operator leftOperand rightOperand => exact .none

/-- What an expression stands for in one table has its counterpart in the other. -/
theorem resolve?_eq_some (agrees : Agrees related left right) {expression : Expression}
    {counterpart : β} (found : expression.resolve? right = some counterpart) :
    ∃ entry, expression.resolve? left = some entry ∧ related entry counterpart := by
  have resolved := agrees.resolve? expression
  rw [found] at resolved
  generalize expression.resolve? left = other at resolved ⊢
  cases resolved with
  | some entriesRelated => exact ⟨_, rfl, entriesRelated⟩

theorem scopes_eq_nil (agrees : Agrees related left right) (outside : left.scopes = []) :
    right.scopes = [] := by
  have same := agrees.scopes
  rw [outside] at same
  exact List.forall₂_nil_left_iff.mp same

theorem push (agrees : Agrees related left right) : Agrees related left.push right.push :=
  ⟨.cons .nil agrees.scopes, agrees.shader⟩

theorem bind (agrees : Agrees related left right) (name : String) {entry : α} {counterpart : β}
    (entriesRelated : related entry counterpart) :
    Agrees related (left.bind name entry) (right.bind name counterpart) := by
  obtain ⟨leftScopes, leftShader⟩ := left
  obtain ⟨rightScopes, rightShader⟩ := right
  obtain ⟨scopes, shader⟩ := agrees
  refine ⟨?_, shader⟩
  cases scopes with
  | nil => exact .nil
  | cons head tail => exact .cons (.cons ⟨rfl, entriesRelated⟩ head) tail

theorem imp {related' : α → β → Prop} (agrees : Agrees related left right)
    (weaker : ∀ entry counterpart, related entry counterpart → related' entry counterpart) :
    Agrees related' left right :=
  ⟨agrees.scopes.imp fun _ _ scope => scope.imp fun _ _ same => ⟨same.1, weaker _ _ same.2⟩,
    agrees.shader.imp fun _ _ same => ⟨same.1, weaker _ _ same.2⟩⟩

end Agrees

end NameTable

end ShaderLang
