import ShaderLang.Proofs.LiteralText
import ShaderLang.Type.Text

/-!
# Reading canonical ids

A canonical id is written without separators that appear nowhere else, so it is read from where a
mark is known to be missing: an array from its end, and a function type from its front, one part
after the other.
-/

namespace ShaderLang

/-! ## Splitting a text at a mark -/

/-- A text that starts with a part without a mark is split there. -/
theorem eq_of_append_mark {α : Type} {mark : α} {front front' back back' : List α}
    (absent : mark ∉ front)
    (absent' : mark ∉ front')
    (same : front ++ mark :: back = front' ++ mark :: back') :
    front = front' ∧ back = back' := by
  induction front generalizing front' with
  | nil =>
      cases front' with
      | nil => exact ⟨rfl, (List.cons.inj same).2⟩
      | cons first rest =>
          have isFirst : mark = first := (List.cons.inj same).1
          exact absurd (isFirst ▸ List.mem_cons_self) absent'
  | cons first rest inductionHypothesis =>
      cases front' with
      | nil =>
          have isFirst : first = mark := (List.cons.inj same).1
          exact absurd (isFirst ▸ List.mem_cons_self) absent
      | cons first' rest' =>
          obtain ⟨sameFirst, sameRest⟩ := List.cons.inj same
          obtain ⟨sameFront, sameBack⟩ := inductionHypothesis
            (fun member => absent (List.mem_cons_of_mem _ member))
            (fun member => absent' (List.mem_cons_of_mem _ member)) sameRest
          exact ⟨by rw [sameFirst, sameFront], sameBack⟩

/-- A text that ends with a part without a mark is split there. -/
theorem eq_of_mark_append {α : Type} {mark : α} {front front' back back' : List α}
    (absent : mark ∉ back)
    (absent' : mark ∉ back')
    (same : front ++ mark :: back = front' ++ mark :: back') :
    front = front' ∧ back = back' := by
  have reversed :
      back.reverse ++ mark :: front.reverse = back'.reverse ++ mark :: front'.reverse := by
    simpa using congrArg List.reverse same
  obtain ⟨sameBack, sameFront⟩ := eq_of_append_mark (by simpa using absent)
    (by simpa using absent') reversed
  exact ⟨List.reverse_inj.mp sameFront, List.reverse_inj.mp sameBack⟩

namespace ShaderType

/-! ## Ids of arrays -/

theorem toList_canonicalId_array (base : ShaderType) (size : Nat) :
    (array base size).canonicalId.toList =
      base.canonicalId.toList ++ '[' :: (Text.digits size ++ [']']) := by
  change (base.canonicalId ++ "[" ++ toString size ++ "]").toList = _
  simp [Text.digits]

theorem notMem_size {mark : Char} (noDigit : mark.isDigit = false) (notLast : mark ≠ ']')
    (size : Nat) :
    mark ∉ Text.digits size ++ [']'] := by
  intro member
  rcases List.mem_append.mp member with inDigits | isLast
  · exact Text.notMem_digits noDigit size inDigits
  · exact notLast (List.mem_singleton.mp isLast)

/-- The id of an array determines its length and the id of its elements. -/
theorem eq_of_canonicalId_array {base base' : ShaderType} {size size' : Nat}
    (same : (array base size).canonicalId = (array base' size').canonicalId) :
    base.canonicalId = base'.canonicalId ∧ size = size' := by
  have sameText := congrArg String.toList same
  rw [toList_canonicalId_array, toList_canonicalId_array] at sameText
  obtain ⟨sameBase, sameSize⟩ := eq_of_mark_append (notMem_size rfl (by decide) size)
    (notMem_size rfl (by decide) size') sameText
  exact ⟨String.toList_inj.mp sameBase, Text.digits_injective (List.append_cancel_right sameSize)⟩

/-- The id of an array has an underscore only if that of its elements has one. -/
theorem underscore_notMem_array {base : ShaderType} (size : Nat)
    (underscoreless : '_' ∉ base.canonicalId.toList) :
    '_' ∉ (array base size).canonicalId.toList := by
  rw [toList_canonicalId_array]
  intro member
  rcases List.mem_append.mp member with inBase | behind
  · exact underscoreless inBase
  · exact notMem_size rfl (by decide) size
      ((List.mem_cons.mp behind).resolve_left (by decide))

/-! ## Ids of function types -/

theorem toList_canonicalIds_nil (returned : ShaderType) :
    (canonicalIds [] ++ returned.canonicalId).toList = returned.canonicalId.toList := by
  change ("" ++ returned.canonicalId).toList = _
  simp

theorem toList_canonicalIds_cons (type : ShaderType) (rest : List ShaderType)
    (returned : ShaderType) :
    (canonicalIds (type :: rest) ++ returned.canonicalId).toList =
      type.canonicalId.toList ++ '_' :: (canonicalIds rest ++ returned.canonicalId).toList := by
  change (type.canonicalId ++ "_" ++ canonicalIds rest ++ returned.canonicalId).toList = _
  simp

theorem toList_canonicalId_function (returned : ShaderType) (parameters : List ShaderType) :
    (function returned parameters).canonicalId.toList =
      ['f', 'n'] ++ '_' :: (canonicalIds parameters ++ returned.canonicalId).toList := by
  change ("fn_" ++ canonicalIds parameters ++ returned.canonicalId).toList = _
  simp

/-- An id without an underscore is not that of a function type. -/
theorem ne_function_of_underscoreless {type returned : ShaderType} {parameters : List ShaderType}
    (underscoreless : '_' ∉ type.canonicalId.toList) :
    type.canonicalId ≠ (function returned parameters).canonicalId := by
  intro same
  rw [same, toList_canonicalId_function] at underscoreless
  exact underscoreless (List.mem_append_right _ List.mem_cons_self)

/-- The types of a family are read off the front of every text that goes on with an underscore, or
not at all, behind their ids. -/
def ReadsOff (family : ShaderType → Prop) : Prop :=
  ∀ ⦃first second : ShaderType⦄ ⦃rest rest' : List Char⦄, family first → family second →
    Text.Ends (· != '_') rest → Text.Ends (· != '_') rest' →
      first.canonicalId.toList ++ rest = second.canonicalId.toList ++ rest' →
        first = second ∧ rest = rest'

variable {family : ShaderType → Prop}

/-- Types that their ids determine are read off if no id has an underscore. -/
theorem readsOff_of_underscoreless
    (underscoreless : ∀ type, family type → '_' ∉ type.canonicalId.toList)
    (determined : ∀ first second, family first → family second →
      first.canonicalId = second.canonicalId → first = second) :
    ReadsOff family := by
  intro first second rest rest' inFamily inFamily' ends ends' same
  have isFront (type : ShaderType) (member : family type) :
      ∀ character ∈ type.canonicalId.toList, (character != '_') = true := by
    intro character inId
    refine bne_iff_ne.mpr ?_
    rintro rfl
    exact underscoreless type member inId
  have sameId := congrArg (List.takeWhile (· != '_')) same
  have sameRest := congrArg (List.dropWhile (· != '_')) same
  rw [Text.takeWhile_append_of_ends (isFront first inFamily) ends,
    Text.takeWhile_append_of_ends (isFront second inFamily') ends', String.toList_inj] at sameId
  rw [Text.dropWhile_append_of_ends _ (isFront first inFamily) ends,
    Text.dropWhile_append_of_ends _ (isFront second inFamily') ends'] at sameRest
  exact ⟨determined first second inFamily inFamily' sameId, sameRest⟩

/-- The parts of a function type are determined by their ids if they are read off. -/
theorem ReadsOff.parts_eq (readsOff : ReadsOff family)
    {returned returned' : ShaderType} {parameters parameters' : List ShaderType}
    (inFamily : family returned)
    (inFamily' : family returned')
    (members : ∀ type ∈ parameters, family type)
    (members' : ∀ type ∈ parameters', family type)
    (same : (canonicalIds parameters ++ returned.canonicalId).toList =
      (canonicalIds parameters' ++ returned'.canonicalId).toList) :
    parameters = parameters' ∧ returned = returned' := by
  have nothing : Text.Ends (· != '_') [] := Text.ends_nil _
  have underscore (rest : List Char) : Text.Ends (· != '_') ('_' :: rest) :=
    Text.ends_cons rest rfl
  induction parameters generalizing parameters' with
  | nil =>
      rw [toList_canonicalIds_nil, ← List.append_nil returned.canonicalId.toList] at same
      cases parameters' with
      | nil =>
          rw [toList_canonicalIds_nil, ← List.append_nil returned'.canonicalId.toList] at same
          exact ⟨rfl, (readsOff inFamily inFamily' nothing nothing same).1⟩
      | cons type' rest' =>
          rw [toList_canonicalIds_cons] at same
          have isMember := members' type' List.mem_cons_self
          exact absurd (readsOff inFamily isMember nothing (underscore _) same).2 nofun
  | cons type rest inductionHypothesis =>
      obtain ⟨isMember, restMembers⟩ := List.forall_mem_cons.mp members
      rw [toList_canonicalIds_cons] at same
      cases parameters' with
      | nil =>
          rw [toList_canonicalIds_nil, ← List.append_nil returned'.canonicalId.toList] at same
          exact absurd (readsOff isMember inFamily' (underscore _) nothing same).2 nofun
      | cons type' rest' =>
          obtain ⟨isMember', restMembers'⟩ := List.forall_mem_cons.mp members'
          rw [toList_canonicalIds_cons] at same
          obtain ⟨rfl, sameRest⟩ := readsOff isMember isMember' (underscore _) (underscore _) same
          obtain ⟨rfl, sameReturned⟩ :=
            inductionHypothesis restMembers restMembers' (List.cons.inj sameRest).2
          exact ⟨rfl, sameReturned⟩

/-- A type of a family, or the type of a function that takes and returns types of it. -/
inductive Signs (family : ShaderType → Prop) : ShaderType → Prop
  | part {type : ShaderType}
      (inFamily : family type) :
      Signs family type
  | function {returned : ShaderType} {parameters : List ShaderType}
      (inFamily : family returned)
      (members : ∀ type ∈ parameters, family type) :
      Signs family (.function returned parameters)

/-- If the types of a family are read off, their ids and those of functions on them determine the
types, as long as no type of the family has the id of a function type. -/
theorem ReadsOff.eq_of_canonicalId (readsOff : ReadsOff family)
    (apart : ∀ type returned parameters, family type →
      type.canonicalId ≠ (function returned parameters).canonicalId)
    {first second : ShaderType}
    (firstSigns : Signs family first)
    (secondSigns : Signs family second)
    (same : first.canonicalId = second.canonicalId) :
    first = second := by
  cases firstSigns with
  | part inFamily =>
      cases secondSigns with
      | part inFamily' =>
          have sameText := congrArg (String.toList · ++ []) same
          exact (readsOff inFamily inFamily' (Text.ends_nil _) (Text.ends_nil _) sameText).1
      | function _ _ => exact absurd same (apart _ _ _ inFamily)
  | function inFamily members =>
      cases secondSigns with
      | part inFamily' => exact absurd same.symm (apart _ _ _ inFamily')
      | function inFamily' members' =>
          have sameText := congrArg String.toList same
          rw [toList_canonicalId_function, toList_canonicalId_function] at sameText
          obtain ⟨rfl, rfl⟩ := readsOff.parts_eq inFamily inFamily' members members'
            (List.cons.inj (List.append_cancel_left sameText)).2
          rfl

end ShaderType

end ShaderLang
