import Mathlib.Data.List.Forall2

/-!
# Association lists and streams

Facts about lists that the theory of emission uses: searching association lists, and properties of
an element in the light of the elements before it.
-/

namespace ShaderLang

variable {α β γ δ : Type}

/-! ## Searching association lists -/

section Lookup

variable [BEq α] [LawfulBEq α] [DecidableEq α]

theorem lookup_cons_eq (key asked : α) (value : β) (entries : List (α × β)) :
    List.lookup asked ((key, value) :: entries) =
      if asked = key then some value else List.lookup asked entries := by
  rw [List.lookup_cons]
  by_cases same : asked = key
  · simp [same]
  · rw [beq_eq_false_iff_ne.mpr same, if_neg same]

theorem mem_of_lookup_eq_some {key : α} {value : β} {entries : List (α × β)}
    (found : entries.lookup key = some value) :
    (key, value) ∈ entries := by
  induction entries with
  | nil => simp at found
  | cons entry rest inductionHypothesis =>
      obtain ⟨first, content⟩ := entry
      rw [lookup_cons_eq] at found
      by_cases same : key = first
      · rw [if_pos same, Option.some.injEq] at found
        rw [same, found]
        exact List.mem_cons_self
      · rw [if_neg same] at found
        exact List.mem_cons_of_mem _ (inductionHypothesis found)

omit [DecidableEq α] in
/-- A key that has an entry has a first one. -/
theorem exists_lookup_of_mem {key : α} {value : β} {entries : List (α × β)}
    (member : (key, value) ∈ entries) :
    ∃ found, entries.lookup key = some found := by
  cases first : entries.lookup key with
  | some found => exact ⟨found, rfl⟩
  | none =>
      have absent := List.lookup_eq_none_iff.mp first (key, value) member
      simp at absent

theorem lookup_eq_some_of_mem {key : α} {value : β} {entries : List (α × β)}
    (distinct : (entries.map Prod.fst).Nodup)
    (member : (key, value) ∈ entries) :
    entries.lookup key = some value := by
  induction entries with
  | nil => simp at member
  | cons entry rest inductionHypothesis =>
      obtain ⟨first, content⟩ := entry
      rw [List.map_cons, List.nodup_cons] at distinct
      rw [lookup_cons_eq]
      rcases List.mem_cons.mp member with same | later
      · obtain ⟨rfl, rfl⟩ := Prod.mk.inj same
        exact if_pos rfl
      · have different : key ≠ first := by
          intro equal
          apply distinct.1
          rw [← equal]
          exact List.mem_map.mpr ⟨(key, value), later, rfl⟩
        rw [if_neg different]
        exact inductionHypothesis distinct.2 later

/-- Entries with distinct keys are found in any order. -/
theorem lookup_perm {entries reordered : List (α × β)}
    (same : entries.Perm reordered)
    (distinct : (entries.map Prod.fst).Nodup) (key : α) :
    entries.lookup key = reordered.lookup key := by
  cases found : entries.lookup key with
  | none =>
      rw [List.lookup_eq_none_iff] at found
      exact (List.lookup_eq_none_iff.mpr fun entry member =>
        found entry (same.mem_iff.mpr member)).symm
  | some value =>
      have member := same.mem_iff.mp (mem_of_lookup_eq_some found)
      exact (lookup_eq_some_of_mem ((same.map Prod.fst).nodup_iff.mp distinct) member).symm

end Lookup

/-! ## Lists that correspond -/

theorem exists_left_of_forall₂ {related : α → β → Prop} {left : List α} {right : List β} {item : β}
    (corresponds : List.Forall₂ related left right)
    (member : item ∈ right) :
    ∃ counterpart ∈ left, related counterpart item := by
  induction corresponds with
  | nil => simp at member
  | cons head tail inductionHypothesis =>
      rcases List.mem_cons.mp member with rfl | later
      · exact ⟨_, List.mem_cons_self, head⟩
      · obtain ⟨counterpart, inLeft, holds⟩ := inductionHypothesis later
        exact ⟨counterpart, List.mem_cons_of_mem _ inLeft, holds⟩

theorem getElem?_of_forall₂ {related : α → β → Prop} {left : List α} {right : List β} {index : Nat}
    {item : α}
    (corresponds : List.Forall₂ related left right)
    (found : left[index]? = some item) :
    ∃ counterpart, right[index]? = some counterpart ∧ related item counterpart := by
  induction corresponds generalizing index with
  | nil => simp at found
  | @cons head counterpart leftRest rightRest holds tail inductionHypothesis =>
      cases index with
      | zero =>
          cases found
          exact ⟨counterpart, rfl, holds⟩
      | succ earlier => exact inductionHypothesis found

theorem getElem?_of_isPrefix {front items : List α} {index : Nat} {item : α}
    (starts : front <+: items)
    (found : front[index]? = some item) :
    items[index]? = some item := by
  obtain ⟨rest, rfl⟩ := starts
  rw [List.getElem?_append_left (List.getElem?_eq_some_iff.mp found).1]
  exact found

/-! ## Properties in the light of what came before -/

/-- Every element has a property that may depend on the elements before it. -/
def Throughout (property : List α → α → Prop) (items : List α) : Prop :=
  ∀ before item after, items = before ++ item :: after → property before item

theorem throughout_nil (property : List α → α → Prop) : Throughout property [] := by
  intro before item after split
  simp at split

/-- An element of two lists together stands in the first or in the second. -/
theorem append_eq_append_cons {front back before after : List α} {item : α}
    (split : front ++ back = before ++ item :: after) :
    (∃ rest, front = before ++ item :: rest ∧ after = rest ++ back) ∨
      ∃ inner, before = front ++ inner ∧ back = inner ++ item :: after := by
  rcases List.append_eq_append_iff.mp split with ⟨inner, beforeEq, backEq⟩ | ⟨rest, frontEq, tailEq⟩
  · exact .inr ⟨inner, beforeEq, backEq⟩
  · cases rest with
    | nil =>
        refine .inr ⟨[], ?_, ?_⟩
        · simpa using frontEq.symm
        · simpa using tailEq.symm
    | cons first others =>
        rw [List.cons_append, List.cons.injEq] at tailEq
        obtain ⟨rfl, rfl⟩ := tailEq
        exact .inl ⟨others, frontEq, rfl⟩

theorem throughout_append {property : List α → α → Prop} {front back : List α} :
    Throughout property (front ++ back) ↔
      Throughout property front ∧
        ∀ inner item after, back = inner ++ item :: after → property (front ++ inner) item := by
  constructor
  · intro whole
    refine ⟨fun before item after split => ?_, fun inner item after split => ?_⟩
    · exact whole before item (after ++ back) (by simp [split])
    · exact whole (front ++ inner) item after (by simp [split])
  · rintro ⟨inFront, inBack⟩ before item after split
    rcases append_eq_append_cons split with ⟨rest, frontEq, -⟩ | ⟨inner, rfl, backEq⟩
    · exact inFront before item rest frontEq
    · exact inBack inner item after backEq

theorem throughout_append_singleton {property : List α → α → Prop} {front : List α} {last : α} :
    Throughout property (front ++ [last]) ↔ Throughout property front ∧ property front last := by
  rw [throughout_append]
  constructor
  · rintro ⟨inFront, inBack⟩
    exact ⟨inFront, by simpa using inBack [] last [] rfl⟩
  · rintro ⟨inFront, atLast⟩
    refine ⟨inFront, fun inner item after split => ?_⟩
    cases inner with
    | nil =>
        simp only [List.nil_append, List.cons.injEq] at split
        rw [List.append_nil, ← split.1]
        exact atLast
    | cons first rest => simp at split

/-- What one element holds cannot be held by another one, if all are different. -/
theorem position_unique {key : α → Option β} {items : List α} {value : β}
    (distinct : (items.filterMap key).Nodup)
    {before before' after after' : List α} {item item' : α}
    (split : items = before ++ item :: after)
    (split' : items = before' ++ item' :: after')
    (holds : key item = some value)
    (holds' : key item' = some value) :
    before = before' ∧ item = item' ∧ after = after' := by
  have notEarlier : ∀ {first first' last last' : List α} {x y : α},
      items = first ++ x :: last → items = first' ++ y :: last' →
      key x = some value → key y = some value → first.length < first'.length → False := by
    intro first first' last last' x y splitFirst splitSecond xHolds yHolds shorter
    rw [splitFirst] at splitSecond
    rcases append_eq_append_cons splitSecond with ⟨rest, frontEq, -⟩ | ⟨inner, innerEq, lastEq⟩
    · have longer := congrArg List.length frontEq
      simp only [List.length_append, List.length_cons] at longer
      omega
    · cases inner with
      | nil =>
          have equal := congrArg List.length innerEq
          simp only [List.append_nil] at equal
          omega
      | cons head others =>
          rw [List.cons_append, List.cons.injEq] at lastEq
          obtain ⟨rfl, rfl⟩ := lastEq
          rw [splitFirst, List.filterMap_append, List.filterMap_cons_some xHolds,
            List.filterMap_append, List.filterMap_cons_some yHolds] at distinct
          have tailDistinct := (List.nodup_append.mp distinct).2.1
          exact (List.nodup_cons.mp tailDistinct).1 (by simp)
  have sameLength : before.length = before'.length := by
    rcases Nat.lt_trichotomy before.length before'.length with shorter | equal | longer
    · exact (notEarlier split split' holds holds' shorter).elim
    · exact equal
    · exact (notEarlier split' split holds' holds longer).elim
  have parts := List.append_inj (split.symm.trans split') sameLength
  obtain ⟨sameItem, sameAfter⟩ := List.cons.inj parts.2
  exact ⟨parts.1, sameItem, sameAfter⟩

end ShaderLang
