import LinearStore.Text.Basic
import Mathlib.Algebra.GroupWithZero.Nat
import Mathlib.Algebra.Order.BigOperators.Group.List
import Mathlib.Algebra.Order.Group.Nat

set_option autoImplicit false

namespace LinearStore.Text

def IsLine (text : String) : Prop := '\n' ∉ text.toList

instance (text : String) : Decidable (IsLine text) :=
  inferInstanceAs (Decidable ('\n' ∉ text.toList))

def breaks (text : String) : Nat := text.toList.count '\n'

def ended (lines : List String) : String := String.join (lines.map (· ++ "\n"))

structure Lines (text : String) (lines : List String) : Prop where
  eq_ended : text = ended lines
  unbroken : ∀ line ∈ lines, IsLine line

theorem breaks_eq_zero_iff {text : String} : breaks text = 0 ↔ IsLine text :=
  List.count_eq_zero

@[simp] theorem is_line_append {first second : String} :
    IsLine (first ++ second) ↔ IsLine first ∧ IsLine second := by
  simp only [IsLine, String.toList_append, List.mem_append, not_or]

theorem ended_cons (line : String) (lines : List String) :
    ended (line :: lines) = line ++ "\n" ++ ended lines := by
  simp only [ended, List.map_cons, String.join_cons]

theorem ended_append (first second : List String) :
    ended (first ++ second) = ended first ++ ended second := by
  simp only [ended, List.map_append, String.join_append]

theorem breaks_append (first second : String) :
    breaks (first ++ second) = breaks first + breaks second := by
  simp only [breaks, String.toList_append, List.count_append]

theorem breaks_ended (lines : List String) :
    breaks (ended lines) = lines.length + (lines.map breaks).sum := by
  induction lines with
  | nil => rfl
  | cons line rest ih =>
      have ends : breaks "\n" = 1 := by decide
      rw [ended_cons, breaks_append, breaks_append, ends, ih, List.length_cons, List.map_cons,
        List.sum_cons]
      omega

theorem Lines.length_eq {text : String} {lines : List String} (read : Lines text lines) :
    lines.length = breaks text := by
  have none : (lines.map breaks).sum = 0 := by
    refine List.sum_eq_zero fun count member => ?_
    obtain ⟨line, inside, rfl⟩ := List.mem_map.mp member
    exact breaks_eq_zero_iff.mpr (read.unbroken line inside)
  rw [read.eq_ended, breaks_ended, none, Nat.add_zero]

theorem lines_ended_iff (shown told : List String) :
    (∃ other : List String, other.length = told.length ∧
        Lines (ended (shown ++ told)) (shown ++ other)) ↔
      ∀ line ∈ shown ++ told, IsLine line := by
  constructor
  · rintro ⟨other, long, read⟩ line member
    have counted := read.length_eq
    rw [breaks_ended, List.length_append, long, ← List.length_append] at counted
    have none : ((shown ++ told).map breaks).sum = 0 := by omega
    exact breaks_eq_zero_iff.mp (List.sum_eq_zero_iff.mp none _ (List.mem_map_of_mem member))
  · exact fun unbroken => ⟨told, rfl, rfl, unbroken⟩

theorem is_line_of_digits {chars : List Char} (digits : ∀ c ∈ chars, c.isDigit = true) :
    IsLine (String.ofList chars) := by
  intro broken
  rw [String.toList_ofList] at broken
  exact absurd (digits _ broken) (by decide)

@[simp] theorem is_line_number (n : Nat) : IsLine n.repr :=
  is_line_of_digits fun _ member => Nat.isDigit_of_mem_toDigits (by decide) (by decide) member

theorem is_line_blanks (count : Nat) : IsLine (blanks count) := by
  intro broken
  rw [blanks, String.toList_ofList] at broken
  exact absurd (List.eq_of_mem_replicate broken) (by decide)

@[simp] theorem is_line_pad_left {width : Nat} {text : String} :
    IsLine (padLeft width text) ↔ IsLine text := by
  rw [padLeft, is_line_append]
  exact and_iff_right (is_line_blanks _)

@[simp] theorem is_line_pad_right {width : Nat} {text : String} :
    IsLine (padRight width text) ↔ IsLine text := by
  rw [padRight, is_line_append]
  exact and_iff_left (is_line_blanks _)

end LinearStore.Text
