import LinearStore.Cells
import LinearStore.Proofs.Rejection
import LinearStore.Proofs.SlotArray.Options
import Mathlib.Data.List.Basic

set_option autoImplicit false

namespace LinearStore

variable {α γ δ C D : Type}

namespace Cells

-- What a write comes to: the content that it displaces, or the content that it refuses, next to what it
-- leaves.
abbrev Written (γ C : Type) : Type := Except γ γ × C

def Written.map (read : γ → δ) (view : C → D) : Written γ C → Written δ D
  | (.ok old, left) => (.ok (read old), view left)
  | (.error returned, left) => (.error (read returned), view left)

def ofHanded : Except (Rejected (C × γ)) (C × γ) → Written γ C
  | .ok (left, old) => (.ok old, left)
  | .error rejected => (.error rejected.returned.2, rejected.returned.1)

def ofLent : Except (Rejected γ) γ × C → Written γ C
  | (.ok old, left) => (.ok old, left)
  | (.error rejected, left) => (.error rejected.returned, left)

-- A write inside the store puts new content into one cell and hands out what was there; one outside
-- changes nothing and hands its content back. Writing back what came out restores the store.
structure Exact (cells : C → List γ) (write : C → Nat → γ → Written γ C) : Prop where
  succeeds : ∀ {store index} new, index < (cells store).length →
    ∃ old left, write store index new = (.ok old, left)
  displaces : ∀ {store index new old left}, write store index new = (.ok old, left) →
    (cells store)[index]? = some old
  stores : ∀ {store index new old left}, write store index new = (.ok old, left) →
    (cells left)[index]? = some new
  spares : ∀ {store index new old left place}, write store index new = (.ok old, left) →
    place ≠ index → (cells left)[place]? = (cells store)[place]?
  keeps_length : ∀ {store index new old left}, write store index new = (.ok old, left) →
    (cells left).length = (cells store).length
  refuses : ∀ {store index new returned left}, write store index new = (.error returned, left) →
    (cells store).length ≤ index ∧ returned = new ∧ left = store
  restores : ∀ {store index new old left}, write store index new = (.ok old, left) →
    write left index old = (.ok new, store)

theorem exchange_of_read {cells : List γ} {index : Nat} {old : γ} (read : cells[index]? = some old)
    (new : γ) : exchange cells index new = (.ok old, cells.set index new) := by
  obtain ⟨inside, same⟩ := List.getElem?_eq_some_iff.mp read
  rw [exchange, dif_pos inside, same]

theorem exchange_of_outside {cells : List γ} {index : Nat} (outside : cells.length ≤ index)
    (new : γ) : exchange cells index new = (.error new, cells) :=
  dif_neg (Nat.not_lt.mpr outside)

theorem exchange_eq_ok_iff {cells left : List γ} {index : Nat} {new old : γ} :
    exchange cells index new = (.ok old, left) ↔
      cells[index]? = some old ∧ left = cells.set index new := by
  by_cases inside : index < cells.length
  · rw [exchange_of_read (List.getElem?_eq_getElem inside), List.getElem?_eq_getElem inside]
    simp [eq_comm]
  · have outside : cells.length ≤ index := Nat.not_lt.mp inside
    rw [exchange_of_outside outside, List.getElem?_eq_none outside]
    simp

theorem exchange_eq_error {cells left : List γ} {index : Nat} {new returned : γ}
    (refused : exchange cells index new = (.error returned, left)) :
    cells.length ≤ index ∧ returned = new ∧ left = cells := by
  by_cases inside : index < cells.length
  · rw [exchange_of_read (List.getElem?_eq_getElem inside)] at refused
    cases refused
  · have outside : cells.length ≤ index := Nat.not_lt.mp inside
    rw [exchange_of_outside outside] at refused
    cases refused
    exact ⟨outside, rfl, rfl⟩

theorem exchange_exact : Exact id (exchange : List γ → Nat → γ → Written γ (List γ)) where
  succeeds new inside := ⟨_, _, exchange_of_read (List.getElem?_eq_getElem inside) new⟩
  displaces written := (exchange_eq_ok_iff.mp written).1
  stores := by
    intro cells index new old left written
    obtain ⟨read, rfl⟩ := exchange_eq_ok_iff.mp written
    exact List.getElem?_set_self (List.getElem?_eq_some_iff.mp read).1
  spares := by
    intro cells index new old left place written different
    obtain ⟨_, rfl⟩ := exchange_eq_ok_iff.mp written
    exact List.getElem?_set_ne different.symm
  keeps_length := by
    intro cells index new old left written
    obtain ⟨_, rfl⟩ := exchange_eq_ok_iff.mp written
    exact List.length_set
  refuses := exchange_eq_error
  restores := by
    intro cells index new old left written
    obtain ⟨read, rfl⟩ := exchange_eq_ok_iff.mp written
    obtain ⟨inside, same⟩ := List.getElem?_eq_some_iff.mp read
    apply exchange_eq_ok_iff.mpr
    refine ⟨List.getElem?_set_self inside, ?_⟩
    rw [List.set_set, ← same, List.set_getElem_self]

theorem Written.map_injective {read : γ → δ} {view : C → D} (readInjective : read.Injective)
    (viewInjective : view.Injective) : (Written.map read view).Injective := by
  rintro ⟨_ | _, _⟩ ⟨_ | _, _⟩ same
  · simp only [Written.map, Prod.mk.injEq, Except.error.injEq] at same
    rw [readInjective same.1, viewInjective same.2]
  · simp [Written.map] at same
  · simp [Written.map] at same
  · simp only [Written.map, Prod.mk.injEq, Except.ok.injEq] at same
    rw [readInjective same.1, viewInjective same.2]

-- A store is seen through to another, cell by cell and without confusing any two, and so are its writes.
structure Mirrors (cells : C → List γ) (write : C → Nat → γ → Written γ C) (mirrorCells : D → List δ)
    (mirror : D → Nat → δ → Written δ D) (read : γ → δ) (view : C → D) : Prop where
  read_injective : read.Injective
  view_injective : view.Injective
  shown : ∀ store, mirrorCells (view store) = (cells store).map read
  mirrored : ∀ store index new,
    mirror (view store) index (read new) = (write store index new).map read view

namespace Mirrors

variable {cells : C → List γ} {write : C → Nat → γ → Written γ C} {mirrorCells : D → List δ}
  {mirror : D → Nat → δ → Written δ D} {read : γ → δ} {view : C → D}
  (mirrors : Mirrors cells write mirrorCells mirror read view)

include mirrors

theorem seen {store : C} {index : Nat} {new : γ} {outcome : Written γ C}
    (written : write store index new = outcome) :
    mirror (view store) index (read new) = outcome.map read view :=
  written ▸ mirrors.mirrored store index new

theorem length_eq (store : C) : (mirrorCells (view store)).length = (cells store).length := by
  rw [mirrors.shown, List.length_map]

theorem cell_eq_iff (store : C) (place : Nat) (content : Option γ) :
    (mirrorCells (view store))[place]? = content.map read ↔ (cells store)[place]? = content := by
  rw [mirrors.shown, List.getElem?_map]
  exact (Option.map_injective mirrors.read_injective).eq_iff

theorem exact_of_exact (exact : Exact mirrorCells mirror) : Exact cells write := by
  refine ⟨?succeeds, ?displaces, ?stores, ?spares, ?keeps_length, ?refuses, ?restores⟩
  case succeeds =>
    intro store index new inside
    rcases written : write store index new with ⟨returned | old, left⟩
    · have outside := (exact.refuses (mirrors.seen written)).1
      rw [mirrors.length_eq] at outside
      exact absurd inside (Nat.not_lt.mpr outside)
    · exact ⟨old, left, rfl⟩
  case displaces =>
    intro store index new old left written
    exact (mirrors.cell_eq_iff store index (some old)).mp (exact.displaces (mirrors.seen written))
  case stores =>
    intro store index new old left written
    exact (mirrors.cell_eq_iff left index (some new)).mp (exact.stores (mirrors.seen written))
  case spares =>
    intro store index new old left place written different
    apply (mirrors.cell_eq_iff left place _).mp
    rw [exact.spares (mirrors.seen written) different, mirrors.cell_eq_iff]
  case keeps_length =>
    intro store index new old left written
    rw [← mirrors.length_eq, ← mirrors.length_eq]
    exact exact.keeps_length (mirrors.seen written)
  case refuses =>
    intro store index new returned left written
    obtain ⟨outside, sameContent, sameStore⟩ := exact.refuses (mirrors.seen written)
    rw [mirrors.length_eq] at outside
    exact ⟨outside, mirrors.read_injective sameContent, mirrors.view_injective sameStore⟩
  case restores =>
    intro store index new old left written
    apply Written.map_injective mirrors.read_injective mirrors.view_injective
    rw [← mirrors.mirrored]
    exact exact.restores (mirrors.seen written)

end Mirrors

end Cells

namespace Slot

theorem to_option_of_option (content : Option α) : (Slot.ofOption content).toOption = content := by
  cases content <;> rfl

theorem to_option_bijective : Function.Bijective (toOption : Slot α → Option α) :=
  Function.bijective_iff_has_inverse.mpr ⟨ofOption, of_option_to_option, to_option_of_option⟩

end Slot

namespace SlotArray

def options (array : SlotArray α) : List (Option α) := array.slots.map Slot.toOption

theorem options_bijective : Function.Bijective (options : SlotArray α → List (Option α)) := by
  constructor
  · rintro ⟨slots⟩ ⟨others⟩ same
    exact congrArg mk (List.map_injective_iff.mpr Slot.to_option_bijective.1 same)
  · intro contents
    obtain ⟨slots, same⟩ := List.map_surjective_iff.mpr Slot.to_option_bijective.2 contents
    exact ⟨⟨slots⟩, same⟩

theorem swap_options (array : SlotArray α) (index : Nat) (new : Slot α) :
    Cells.swap array.options index new.toOption =
      (Cells.ofHanded (array.swap index new)).map Slot.toOption options := by
  rcases array.read_or_outside index with outside | ⟨old, read⟩
  · have short : array.options.length ≤ index := by
      rw [options, List.length_map]
      exact outside
    rw [swap_of_outside outside, Cells.swap, Cells.exchange_of_outside short]
    rfl
  · have shown : array.options[index]? = some old.toOption := by
      rw [options, List.getElem?_map, read]
      rfl
    rw [swap_of_read read, Cells.swap, Cells.exchange_of_read shown, options, ← List.map_set]
    rfl

theorem swap_mirrored : Cells.Mirrors slots (fun (array : SlotArray α) index new =>
    Cells.ofHanded (array.swap index new)) id Cells.swap Slot.toOption options where
  read_injective := Slot.to_option_bijective.1
  view_injective := options_bijective.1
  shown _ := rfl
  mirrored := swap_options

theorem of_lent_swap_lent (array : SlotArray α) (index : Nat) (new : Slot α) :
    Cells.ofLent (array.swapLent index new) = Cells.ofHanded (array.swap index new) := by
  rw [swap]
  rcases array.swapLent index new with ⟨rejected | content, rest⟩
  · rfl
  · rfl

end SlotArray

namespace LinearArray

theorem replace_elements (array : LinearArray α) (index : Nat) (value : α) :
    Cells.replace array.elements index value =
      (Cells.ofHanded (array.replace index value)).map id elements := by
  rcases array.read_or_outside index with outside | ⟨old, read⟩
  · rw [replace_of_outside outside, Cells.replace, Cells.exchange_of_outside outside]
    rfl
  · rw [replace_of_read read, Cells.replace, Cells.exchange_of_read read]
    rfl

theorem elements_bijective : Function.Bijective (elements : LinearArray α → List α) :=
  Function.bijective_iff_has_inverse.mpr ⟨mk, fun _ => rfl, fun _ => rfl⟩

theorem replace_mirrored : Cells.Mirrors elements (fun (array : LinearArray α) index value =>
    Cells.ofHanded (array.replace index value)) id Cells.replace id elements where
  read_injective := Function.injective_id
  view_injective := elements_bijective.1
  shown array := (List.map_id array.elements).symm
  mirrored := replace_elements

end LinearArray

theorem arrays_are_written_as_bare_cells :
    (∀ (array : SlotArray α) index new,
      Cells.swap array.options index new.toOption =
        (Cells.ofHanded (array.swap index new)).map Slot.toOption SlotArray.options ∧
      Cells.swap array.options index new.toOption =
        (Cells.ofLent (array.swapLent index new)).map Slot.toOption SlotArray.options) ∧
    (∀ (array : LinearArray α) index value,
      Cells.replace array.elements index value =
        (Cells.ofHanded (array.replace index value)).map id LinearArray.elements) ∧
    Function.Bijective (Slot.toOption : Slot α → Option α) ∧
    Function.Bijective (SlotArray.options : SlotArray α → List (Option α)) ∧
    Function.Bijective (LinearArray.elements : LinearArray α → List α) ∧
    Cells.Exact id (Cells.swap : List (Option α) → Nat → Option α → _) ∧
    Cells.Exact id (Cells.replace : List α → Nat → α → _) ∧
    Cells.Exact SlotArray.slots (fun (array : SlotArray α) index new =>
      Cells.ofHanded (array.swap index new)) ∧
    Cells.Exact SlotArray.slots (fun (array : SlotArray α) index new =>
      Cells.ofLent (array.swapLent index new)) ∧
    Cells.Exact LinearArray.elements (fun (array : LinearArray α) index value =>
      Cells.ofHanded (array.replace index value)) := by
  have handed : Cells.Exact SlotArray.slots (fun (array : SlotArray α) index new =>
      Cells.ofHanded (array.swap index new)) :=
    SlotArray.swap_mirrored.exact_of_exact Cells.exchange_exact
  have replaced : Cells.Exact LinearArray.elements (fun (array : LinearArray α) index value =>
      Cells.ofHanded (array.replace index value)) :=
    LinearArray.replace_mirrored.exact_of_exact Cells.exchange_exact
  refine ⟨fun array index new => ⟨array.swap_options index new, ?lent⟩,
    LinearArray.replace_elements, Slot.to_option_bijective, SlotArray.options_bijective,
    LinearArray.elements_bijective, Cells.exchange_exact, Cells.exchange_exact, handed, ?lentExact,
    replaced⟩
  case lent =>
    rw [SlotArray.of_lent_swap_lent]
    exact array.swap_options index new
  case lentExact =>
    simp only [SlotArray.of_lent_swap_lent]
    exact handed

end LinearStore
