import Mathlib.Data.List.Basic
import Mathlib.Data.List.TakeWhile

/-!
# Name-value pairs in a text

Texts of `name=value` fields between separators, over any alphabet and without
any encoding: the first assignment mark of a field ends its name, and a field
without one spells no pair.  A list of plain pairs is read back from the text
it renders to (`pairs_render`); a value written as it is spells a pair of its
own name and whatever follows its first separator (`pairs_field`).
-/

namespace Lib

namespace Query

variable {α : Type*}

/-- The two marks that give a text its structure. -/
structure Marks (α : Type*) where
  separator : α
  assignment : α
  separator_ne : separator ≠ assignment

section

variable [DecidableEq α] (marks : Marks α)

/-- The name and the value of a field. -/
def splitField (field : List α) : Option (List α × List α) :=
  match field.dropWhile (· ≠ marks.assignment) with
  | [] => none
  | _ :: value => some (field.takeWhile (· ≠ marks.assignment), value)

/-- The pairs a text spells. -/
def pairs (text : List α) : List (List α × List α) :=
  (text.splitOn marks.separator).filterMap (splitField marks)

/-- The pairs a value spells after its first separator. -/
def pairsAfter (value : List α) : List (List α × List α) :=
  (value.splitOn marks.separator).tail.filterMap (splitField marks)

end

section

variable (marks : Marks α)

/-- A pair as a field. -/
def field (pair : List α × List α) : List α := pair.1 ++ marks.assignment :: pair.2

/-- A list of pairs as a text. -/
def render (list : List (List α × List α)) : List α :=
  [marks.separator].intercalate (list.map (field marks))

/-- A name without marks. -/
structure PlainName (name : List α) : Prop where
  separator : marks.separator ∉ name
  assignment : marks.assignment ∉ name

/-- A pair that a field can hold. -/
structure PlainPair (pair : List α × List α) : Prop where
  name : PlainName marks pair.1
  value : marks.separator ∉ pair.2

end

/-! ## cutting at a mark -/

variable {marks : Marks α}

theorem notMem_field {name : List α} (hname : PlainName marks name) {value : List α}
    (hvalue : marks.separator ∉ value) : marks.separator ∉ field marks (name, value) := by
  rw [field, List.mem_append, List.mem_cons]
  simp [hname.separator, hvalue, marks.separator_ne]

variable [DecidableEq α]

theorem takeWhile_ne_append_cons {mark : α} {before : List α} (h : mark ∉ before)
    (after : List α) : (before ++ mark :: after).takeWhile (· ≠ mark) = before := by
  have hall : ∀ a ∈ before, decide (a ≠ mark) = true := by
    intro a ha
    exact decide_eq_true fun heq => h (heq ▸ ha)
  rw [List.takeWhile_append_of_pos hall]
  simp

theorem dropWhile_ne_append_cons {mark : α} {before : List α} (h : mark ∉ before)
    (after : List α) : (before ++ mark :: after).dropWhile (· ≠ mark) = mark :: after := by
  have hall : ∀ a ∈ before, decide (a ≠ mark) = true := by
    intro a ha
    exact decide_eq_true fun heq => h (heq ▸ ha)
  rw [List.dropWhile_append_of_pos hall]
  simp

theorem splitField_field {name : List α} (h : marks.assignment ∉ name) (value : List α) :
    splitField marks (field marks (name, value)) = some (name, value) := by
  rw [splitField, field, dropWhile_ne_append_cons h, takeWhile_ne_append_cons h]

/-! ## reading a text -/

/-- The pairs of a rendered list are that list. -/
theorem pairs_render {list : List (List α × List α)} (h : ∀ pair ∈ list, PlainPair marks pair) :
    pairs marks (render marks list) = list := by
  cases list with
  | nil => rfl
  | cons pair list =>
      have hsep : ∀ text ∈ (pair :: list).map (field marks), marks.separator ∉ text := by
        intro text htext
        obtain ⟨pair', hmem, hfield⟩ := List.mem_map.1 htext
        rw [← hfield]
        exact notMem_field (h pair' hmem).name (h pair' hmem).value
      have hsplit : ∀ pair' ∈ pair :: list,
          splitField marks (field marks pair') = some pair' :=
        fun pair' hmem => splitField_field (h pair' hmem).name.assignment pair'.2
      have hpairs : (pair :: list).filterMap (splitField marks ∘ field marks) =
          (pair :: list).filterMap some := List.filterMap_congr hsplit
      rw [pairs, render, List.splitOn_intercalate _ hsep (by simp), List.filterMap_map, hpairs,
        List.filterMap_some]

/-- A value written as it is under a plain name: up to its first separator it
is the value of that name, and from there on it spells pairs of its own. -/
theorem pairs_field {name : List α} (hname : PlainName marks name) (value : List α) :
    pairs marks (field marks (name, value)) =
      (name, value.takeWhile (· ≠ marks.separator)) :: pairsAfter marks value := by
  by_cases hvalue : marks.separator ∈ value
  · obtain ⟨before, after, heq, hbefore⟩ := List.eq_append_cons_of_mem hvalue
    have htext : field marks (name, value) =
        field marks (name, before) ++ marks.separator :: after := by
      rw [heq, field, field, List.append_assoc, List.cons_append]
    rw [pairs, htext, List.splitOn_append_cons_self_of_not_mem (notMem_field hname hbefore),
      List.filterMap_cons_some (splitField_field hname.assignment before), pairsAfter, heq,
      List.splitOn_append_cons_self_of_not_mem hbefore, takeWhile_ne_append_cons hbefore,
      List.tail_cons]
  · have hall : ∀ a ∈ value, decide (a ≠ marks.separator) = true := by
      intro a ha
      exact decide_eq_true fun heq => hvalue (heq ▸ ha)
    rw [pairs, List.splitOn_eq_singleton (notMem_field hname hvalue),
      List.filterMap_cons_some (splitField_field hname.assignment value), pairsAfter,
      List.splitOn_eq_singleton hvalue, List.takeWhile_eq_self_iff.2 hall]
    rfl

/-- A value without a separator spells nothing of its own. -/
theorem pairsAfter_of_notMem {value : List α} (h : marks.separator ∉ value) :
    pairsAfter marks value = [] := by
  rw [pairsAfter, List.splitOn_eq_singleton h]
  rfl

end Query

end Lib
