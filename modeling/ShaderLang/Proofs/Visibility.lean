import Mathlib.Data.List.Induction
import ShaderLang.Proofs.EmissionGrowth

/-!
# Which ids an instruction can use

At each point of a module some ids are shared by the whole module, and others belong to the function
that is open.  If every instruction uses visible ids only, then ids are defined before they are
used, and no function uses what another one defines for itself.
-/

namespace ShaderLang

/-- The id that an operand is, if it is one. -/
def Operand.target? : Operand → Option ResultId
  | id target => some target
  | _ => none

namespace Instruction

/-- The ids among the operands of an instruction. -/
def operandIds (instruction : Instruction) : List ResultId :=
  instruction.operands.filterMap Operand.target?

/-- Whether the id that an instruction defines belongs to the function it stands in. -/
def isLocal : Instruction → Bool
  | functionParameter .. | label _ | cell .. | load .. | arithmetic .. => true
  | _ => false

end Instruction

/-! ## Order and locality of ids -/

/-- Every id operand is defined by an earlier instruction.  Only an entry point names the function
that starts right behind it. -/
def DefinedBeforeUse (code : List Instruction) : Prop :=
  ∀ before instruction after, code = before ++ instruction :: after →
    match instruction with
    | .entryPoint _ target _ => ∃ type control functionType rest,
        after = .function target type control functionType :: rest
    | _ => ∀ id ∈ instruction.operandIds, ∃ definition ∈ before, definition.result? = some id

/-- The instructions of one function, from its start to its end. -/
def IsFunctionSegment (segment : List Instruction) : Prop :=
  ∃ id type control functionType inner,
    segment = .function id type control functionType :: (inner ++ [.functionEnd]) ∧
      .functionEnd ∉ inner

/-- What a function defines for itself is not used outside of it. -/
def FunctionLocal (code : List Instruction) : Prop :=
  ∀ before segment after, code = before ++ segment ++ after → IsFunctionSegment segment →
    ∀ definition ∈ segment, definition.isLocal = true → ∀ id, definition.result? = some id →
      ∀ user ∈ before ++ after, id ∉ user.operandIds

/-! ## Visible ids -/

/-- The ids that can be used at a point of a module. -/
structure Visibility where
  /-- Whether the point lies inside a function. -/
  inside : Bool
  /-- The ids that the whole module shares. -/
  shared : List ResultId
  /-- The ids that belong to the open function. -/
  own : List ResultId

namespace Visibility

/-- Whether an id can be used. -/
def Sees (visibility : Visibility) (id : ResultId) : Prop :=
  id ∈ visibility.shared ∨ id ∈ visibility.own

/-- What is visible behind one more instruction. -/
def after (visibility : Visibility) (instruction : Instruction) : Visibility :=
  match instruction with
  | .function result .. => { visibility with inside := true, shared := result :: visibility.shared }
  | .functionEnd => { visibility with inside := false, own := [] }
  | _ =>
      match instruction.result? with
      | none => visibility
      | some result =>
          if visibility.inside && instruction.isLocal then
            { visibility with own := result :: visibility.own }
          else
            { visibility with shared := result :: visibility.shared }

/-- What is visible behind a list of instructions. -/
def behind (code : List Instruction) : Visibility :=
  code.foldl after ⟨false, [], []⟩

theorem behind_append_singleton (code : List Instruction) (instruction : Instruction) :
    behind (code ++ [instruction]) = (behind code).after instruction := by
  unfold behind
  rw [List.foldl_append]
  rfl

/-- The ids behind one instruction are those in front of it and the one it defines. -/
theorem after_cases {visibility : Visibility} {instruction : Instruction} {id : ResultId} :
    (id ∈ (visibility.after instruction).shared →
      id ∈ visibility.shared ∨ instruction.result? = some id ∧
        (visibility.inside = false ∨ instruction.isLocal = false)) ∧
    (id ∈ (visibility.after instruction).own →
      instruction ≠ .functionEnd ∧
        (id ∈ visibility.own ∨ instruction.result? = some id)) := by
  unfold after
  split
  · refine ⟨fun member => ?_, fun member => ⟨by simp, .inl member⟩⟩
    rcases List.mem_cons.mp member with rfl | earlier
    · exact .inr ⟨rfl, .inr rfl⟩
    · exact .inl earlier
  · exact ⟨fun member => .inl member, fun member => absurd member List.not_mem_nil⟩
  · next notFunction notEnd =>
      split
      · exact ⟨fun member => .inl member, fun member => ⟨notEnd, .inl member⟩⟩
      · next result defines =>
          split
          · refine ⟨fun member => .inl member, fun member => ⟨notEnd, ?_⟩⟩
            rcases List.mem_cons.mp member with rfl | earlier
            · exact .inr defines
            · exact .inl earlier
          · next notOwn =>
              refine ⟨fun member => ?_, fun member => ⟨notEnd, .inl member⟩⟩
              rcases List.mem_cons.mp member with rfl | earlier
              · refine .inr ⟨defines, ?_⟩
                simpa [Bool.and_eq_true, ← Bool.not_eq_true, imp_iff_not_or] using notOwn
              · exact .inl earlier

/-- A shared id is defined outside of functions or by an instruction that shares its id. -/
theorem exists_definition_of_shared {code : List Instruction} {id : ResultId}
    (member : id ∈ (behind code).shared) :
    ∃ before instruction after, code = before ++ instruction :: after ∧
      instruction.result? = some id ∧
      ((behind before).inside = false ∨ instruction.isLocal = false) := by
  induction code using List.reverseRecOn with
  | nil => simp [behind] at member
  | append_singleton front last inductionHypothesis =>
      rw [behind_append_singleton] at member
      rcases after_cases.1 member with earlier | ⟨defines, sharedHere⟩
      · obtain ⟨before, instruction, after, rfl, rest⟩ := inductionHypothesis earlier
        exact ⟨before, instruction, after ++ [last], by simp, rest⟩
      · exact ⟨front, last, [], rfl, defines, sharedHere⟩

/-- An id of the open function is defined since the last end of a function. -/
theorem exists_definition_of_own {code : List Instruction} {id : ResultId}
    (member : id ∈ (behind code).own) :
    ∃ before instruction after, code = before ++ instruction :: after ∧
      instruction.result? = some id ∧ .functionEnd ∉ after := by
  induction code using List.reverseRecOn with
  | nil => simp [behind] at member
  | append_singleton front last inductionHypothesis =>
      rw [behind_append_singleton] at member
      obtain ⟨notEnd, earlier | defines⟩ := after_cases.2 member
      · obtain ⟨before, instruction, after, rfl, defines, open'⟩ := inductionHypothesis earlier
        refine ⟨before, instruction, after ++ [last], by simp, defines, ?_⟩
        simp only [List.mem_append, List.mem_singleton, not_or]
        exact ⟨open', fun same => notEnd same.symm⟩
      · exact ⟨front, last, [], rfl, defines, List.not_mem_nil⟩

theorem exists_definition_of_sees {code : List Instruction} {id : ResultId}
    (sees : (behind code).Sees id) :
    ∃ definition ∈ code, definition.result? = some id := by
  rcases sees with shared | own
  · obtain ⟨before, instruction, after, rfl, defines, -⟩ := exists_definition_of_shared shared
    exact ⟨instruction, by simp, defines⟩
  · obtain ⟨before, instruction, after, rfl, defines, -⟩ := exists_definition_of_own own
    exact ⟨instruction, by simp, defines⟩

/-! ## Stretches of code inside or outside of functions -/

/-- Everything visible at one point is visible at another one of the same function. -/
structure Extends (earlier later : Visibility) : Prop where
  inside : later.inside = earlier.inside
  shared : earlier.shared ⊆ later.shared
  own : earlier.own ⊆ later.own

theorem Extends.refl (visibility : Visibility) : visibility.Extends visibility :=
  ⟨rfl, List.Subset.refl _, List.Subset.refl _⟩

theorem Extends.trans {first second third : Visibility}
    (front : first.Extends second)
    (back : second.Extends third) :
    first.Extends third :=
  ⟨back.inside.trans front.inside, List.Subset.trans front.shared back.shared,
    List.Subset.trans front.own back.own⟩

theorem Extends.sees {earlier later : Visibility} {id : ResultId}
    (reaches : earlier.Extends later)
    (sees : earlier.Sees id) :
    later.Sees id := by
  rcases sees with shared | own
  · exact .inl (reaches.shared shared)
  · exact .inr (reaches.own own)

theorem extends_after {instruction : Instruction} (visibility : Visibility)
    (plain : instruction.isBoundary = false) :
    visibility.Extends (visibility.after instruction) := by
  unfold after
  split
  · simp [Instruction.isBoundary] at plain
  · simp [Instruction.isBoundary] at plain
  · split
    · exact .refl visibility
    · split
      · exact ⟨rfl, List.Subset.refl _, List.subset_cons_self _ _⟩
      · exact ⟨rfl, List.subset_cons_self _ _, List.Subset.refl _⟩

theorem extends_behind (code : List Instruction) {new : List Instruction}
    (plain : ∀ instruction ∈ new, instruction.isBoundary = false) :
    (behind code).Extends (behind (code ++ new)) := by
  induction new using List.reverseRecOn with
  | nil => rw [List.append_nil]; exact .refl _
  | append_singleton front last inductionHypothesis =>
      rw [← List.append_assoc, behind_append_singleton]
      refine (inductionHypothesis fun instruction member => ?_).trans
        (extends_after _ (plain last (by simp)))
      exact plain instruction (List.mem_append_left _ member)

/-- An instruction makes the id it defines visible. -/
theorem sees_after {visibility : Visibility} {instruction : Instruction} {id : ResultId}
    (defines : instruction.result? = some id) :
    (visibility.after instruction).Sees id := by
  unfold after
  split
  · cases defines
    exact .inl List.mem_cons_self
  · cases defines
  · rw [defines]
    dsimp only
    split
    · exact .inr List.mem_cons_self
    · exact .inl List.mem_cons_self

/-- Outside of functions every id is shared, and inside of them the ids that are not local. -/
theorem shared_after {visibility : Visibility} {instruction : Instruction} {id : ResultId}
    (defines : instruction.result? = some id)
    (shares : visibility.inside = false ∨ instruction.isLocal = false) :
    id ∈ (visibility.after instruction).shared := by
  unfold after
  split
  · cases defines
    exact List.mem_cons_self
  · cases defines
  · rw [defines]
    dsimp only
    rw [if_neg]
    · exact List.mem_cons_self
    · rcases shares with outside | shared <;> simp [*]

/-- Behind the start of a function everything lies inside until a function ends. -/
theorem inside_behind {front inner : List Instruction} {id type functionType : ResultId}
    {control : FunctionControl}
    (opened : .functionEnd ∉ inner) :
    (behind (front ++ .function id type control functionType :: inner)).inside = true := by
  induction inner using List.reverseRecOn with
  | nil => rw [behind_append_singleton]; rfl
  | append_singleton inner last inductionHypothesis =>
      rw [List.mem_append, not_or, List.mem_singleton] at opened
      have earlier := inductionHypothesis opened.1
      rw [← List.cons_append, ← List.append_assoc, behind_append_singleton]
      generalize behind (front ++ .function id type control functionType :: inner) = visibility
        at earlier ⊢
      unfold after
      split
      · rfl
      · exact absurd rfl opened.2
      · split
        · exact earlier
        · split
          · exact earlier
          · exact earlier

end Visibility

/-! ## From visibility to order and locality -/

/-- Every entry point stands right in front of the function it names. -/
def EntryPointsLead (code : List Instruction) : Prop :=
  ∀ before model target text after, code = before ++ .entryPoint model target text :: after →
    ∃ type control functionType rest, after = .function target type control functionType :: rest

/-- Instructions use visible ids only.  Entry points come before what they name. -/
def UsesVisible (code : List Instruction) : Prop :=
  Throughout (fun before instruction =>
    instruction.opcode = .entryPoint ∨
      ∀ id ∈ instruction.operandIds, (Visibility.behind before).Sees id) code

theorem Instruction.eq_entryPoint {instruction : Instruction}
    (isEntryPoint : instruction.opcode = .entryPoint) :
    ∃ model target text, instruction = .entryPoint model target text := by
  cases instruction with
  | entryPoint model target text => exact ⟨model, target, text, rfl⟩
  | _ => simp [Instruction.opcode] at isEntryPoint

variable {code : List Instruction}

theorem EntryPointsLead.append {more : List Instruction}
    (front : EntryPointsLead code)
    (back : EntryPointsLead more) :
    EntryPointsLead (code ++ more) := by
  intro before model target text after split
  rcases append_eq_append_cons split with ⟨rest, codeEq, rfl⟩ | ⟨inner, -, moreEq⟩
  · obtain ⟨type, control, functionType, others, rfl⟩ := front _ _ _ _ _ codeEq
    exact ⟨type, control, functionType, others ++ more, rfl⟩
  · exact back _ _ _ _ _ moreEq

theorem EntryPointsLead.of_plain
    (plain : ∀ instruction ∈ code, instruction.isBoundary = false) :
    EntryPointsLead code := by
  intro before model target text after split
  have boundary := plain (.entryPoint model target text) (by simp [split])
  simp [Instruction.isBoundary] at boundary

theorem EntryPointsLead.function {inner : List Instruction} {id returned functionType : ResultId}
    (name : String) (entryPoint : Option EntryPoint)
    (plain : ∀ instruction ∈ inner, instruction.isBoundary = false) :
    EntryPointsLead (entryPointCode id name entryPoint ++
      .uncontrolled id returned functionType :: (inner ++ [.functionEnd])) := by
  have body : EntryPointsLead
      (.uncontrolled id returned functionType :: (inner ++ [.functionEnd])) := by
    intro before model target text after split
    have member : Instruction.entryPoint model target text ∈
        .uncontrolled id returned functionType :: (inner ++ [.functionEnd]) := by
      rw [split]
      simp
    rcases List.mem_cons.mp member with starts | later
    · cases starts
    · rcases List.mem_append.mp later with inside | ends
      · have boundary := plain _ inside
        simp [Instruction.isBoundary] at boundary
      · simp at ends
  cases entryPoint with
  | none => exact body
  | some stage =>
      intro before model target text after split
      cases before with
      | nil =>
          obtain ⟨same, rfl⟩ := List.cons.inj split
          cases same
          exact ⟨returned, .none, functionType, _, rfl⟩
      | cons first rest => exact body _ _ _ _ _ (List.cons.inj split).2

theorem definedBeforeUse_of_usesVisible
    (uses : UsesVisible code)
    (lead : EntryPointsLead code) :
    DefinedBeforeUse code := by
  intro before instruction after split
  have visible := uses before instruction after split
  split
  · exact lead before _ _ _ after split
  · next notEntryPoint =>
      intro id member
      refine Visibility.exists_definition_of_sees ((visible.resolve_left ?_) id member)
      intro isEntryPoint
      obtain ⟨model, target, text, same⟩ := Instruction.eq_entryPoint isEntryPoint
      exact notEntryPoint model target text same

/-- Where a function segment stands, a local definition of it stands inside. -/
theorem inside_of_segment {segment : List Instruction} {definition : Instruction}
    (before : List Instruction)
    (isSegment : IsFunctionSegment segment)
    (member : definition ∈ segment)
    (isLocal : definition.isLocal = true) :
    ∃ front back, before ++ segment = front ++ definition :: back ∧
      before.length < front.length ∧ .functionEnd ∈ back ∧
      (Visibility.behind front).inside = true := by
  obtain ⟨id, type, control, functionType, inner, rfl, noEnd⟩ := isSegment
  have inInner : definition ∈ inner := by
    rcases List.mem_cons.mp member with rfl | later
    · simp [Instruction.isLocal] at isLocal
    · rcases List.mem_append.mp later with inside | ends
      · exact inside
      · rw [List.mem_singleton.mp ends] at isLocal
        simp [Instruction.isLocal] at isLocal
  obtain ⟨first, last, rfl⟩ := List.append_of_mem inInner
  refine ⟨before ++ .function id type control functionType :: first, last ++ [.functionEnd],
    by simp, by simp, by simp, ?_⟩
  exact Visibility.inside_behind fun ends => noEnd (by simp [ends])

theorem functionLocal_of_usesVisible
    (uses : UsesVisible code)
    (lead : EntryPointsLead code)
    (distinct : (code.filterMap Instruction.result?).Nodup) :
    FunctionLocal code := by
  intro before segment after split isSegment definition member isLocal id defines user outside used
  obtain ⟨front, back, splitSegment, later, ends, inside⟩ :=
    inside_of_segment before isSegment member isLocal
  have splitDefinition : code = front ++ definition :: (back ++ after) := by
    rw [split, splitSegment, List.append_assoc, List.cons_append]
  -- The only definition of the id is the one inside the segment.
  have unique : ∀ {first last : List Instruction} {other : Instruction},
      code = first ++ other :: last → other.result? = some id →
      first = front ∧ other = definition ∧ last = back ++ after :=
    fun splitOther otherDefines =>
      position_unique distinct splitOther splitDefinition otherDefines defines
  obtain ⟨ahead, behind, splitUser, place⟩ : ∃ ahead behind, code = ahead ++ user :: behind ∧
      ((∃ rest, before = ahead ++ user :: rest) ∨ ∃ rest, ahead = before ++ segment ++ rest) := by
    rcases List.mem_append.mp outside with inFront | inBack
    · obtain ⟨first, last, rfl⟩ := List.append_of_mem inFront
      exact ⟨first, last ++ (segment ++ after), by simp [split], .inl ⟨last, rfl⟩⟩
    · obtain ⟨first, last, rfl⟩ := List.append_of_mem inBack
      exact ⟨before ++ segment ++ first, last, by simp [split], .inr ⟨first, rfl⟩⟩
  rcases uses ahead user behind splitUser with isEntryPoint | visible
  · -- An entry point names a function, whose id is not local.
    obtain ⟨model, target, text, rfl⟩ := Instruction.eq_entryPoint isEntryPoint
    obtain ⟨type, control, functionType, rest, rfl⟩ := lead _ _ _ _ _ splitUser
    have same : target = id := by
      simpa [Instruction.operandIds, Instruction.operands, Operand.target?] using used
    subst same
    have splitFunction : code = (ahead ++ [.entryPoint model target text]) ++
        .function target type control functionType :: rest := by
      rw [splitUser, List.append_cons]
    obtain ⟨-, same, -⟩ := unique splitFunction rfl
    rw [← same] at isLocal
    simp [Instruction.isLocal] at isLocal
  · rcases visible id used with shared | own
    · obtain ⟨first, other, last, rfl, otherDefines, shares⟩ :=
        Visibility.exists_definition_of_shared shared
      obtain ⟨rfl, rfl, -⟩ := unique (by rw [splitUser, List.append_assoc]; rfl) otherDefines
      rcases shares with notInside | notLocal
      · rw [inside] at notInside
        cases notInside
      · rw [isLocal] at notLocal
        cases notLocal
    · obtain ⟨first, other, last, rfl, otherDefines, noEnd⟩ :=
        Visibility.exists_definition_of_own own
      obtain ⟨rfl, rfl, lastEq⟩ := unique (by rw [splitUser, List.append_assoc]; rfl) otherDefines
      rcases place with ⟨rest, rfl⟩ | ⟨rest, aheadEq⟩
      · simp only [List.length_append, List.length_cons] at later
        omega
      · -- Between the definition and a use behind the segment the function ends.
        rw [splitSegment, List.append_assoc, List.append_cancel_left_eq, List.cons_append,
          List.cons.injEq] at aheadEq
        apply noEnd
        rw [aheadEq.2]
        exact List.mem_append_left _ ends

end ShaderLang
