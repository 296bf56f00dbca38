/-!
# Finite vocabularies

A vocabulary is a finite type whose values are written as pairwise distinct words.  Reading a
word back is a search through the list of values, and the two laws below say that this search
inverts the writing exactly.
-/

namespace ShaderLang

/-- A finite type whose values are written as pairwise distinct words. -/
class Vocabulary (α : Type) where
  /-- Every value, in a fixed order. -/
  values : List α
  /-- The word a value is written as. -/
  word : α → String
  mem_values : ∀ value : α, value ∈ values
  nodup_words : (values.map word).Nodup

namespace Vocabulary

variable {α : Type} [Vocabulary α]

/-- The value written as `text`, if there is one. -/
def ofWord? (text : String) : Option α :=
  (values : List α).find? fun value => word value == text

private theorem eq_of_word_eq_of_nodup {values : List α} {first second : α}
    (distinct : (values.map word).Nodup)
    (firstMem : first ∈ values)
    (secondMem : second ∈ values)
    (sameWord : word first = word second) :
    first = second := by
  induction values with
  | nil => simp at firstMem
  | cons head tail inductionHypothesis =>
      simp only [List.map_cons, List.nodup_cons, List.mem_map, not_exists, not_and] at distinct
      rcases List.mem_cons.mp firstMem with rfl | firstTail
      · rcases List.mem_cons.mp secondMem with rfl | secondTail
        · rfl
        · exact absurd sameWord.symm (distinct.1 second secondTail)
      · rcases List.mem_cons.mp secondMem with rfl | secondTail
        · exact absurd sameWord (distinct.1 first firstTail)
        · exact inductionHypothesis distinct.2 firstTail secondTail

/-- Different values are written as different words. -/
theorem word_injective {first second : α} (sameWord : word first = word second) :
    first = second :=
  eq_of_word_eq_of_nodup nodup_words (mem_values first) (mem_values second) sameWord

/-- A text reads as a value exactly when it is the value's word. -/
theorem ofWord?_eq_some_iff {text : String} {value : α} :
    ofWord? text = some value ↔ word value = text := by
  constructor
  · intro found
    simpa using List.find?_some found
  · rintro rfl
    cases found : (ofWord? (word value) : Option α) with
    | none =>
        have missing := List.find?_eq_none.mp found value (mem_values value)
        simp at missing
    | some other =>
        have sameWord : word other = word value := by
          simpa using List.find?_some found
        rw [word_injective sameWord]

/-- Every value is read back from its own word. -/
@[simp]
theorem ofWord?_word (value : α) : ofWord? (word value) = some value :=
  ofWord?_eq_some_iff.mpr rfl

end Vocabulary

end ShaderLang
