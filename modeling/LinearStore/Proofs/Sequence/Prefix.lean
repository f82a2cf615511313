import LinearStore.Proofs.Sequence
import Mathlib.Data.List.Infix
import Mathlib.Order.Defs.Unbundled

set_option autoImplicit false

namespace LinearStore

variable {α : Type}

namespace Sequence

theorem elements_concatenate (s t : Sequence α) :
    (s.concatenate t).elements = s.elements ++ t.elements := rfl

theorem concatenate_assoc (s t u : Sequence α) :
    (s.concatenate t).concatenate u = s.concatenate (t.concatenate u) := by
  apply ext
  simp only [elements_concatenate, List.append_assoc]

theorem length_concatenate (s t : Sequence α) :
    (s.concatenate t).length = s.length + t.length :=
  List.length_append

theorem select?_concatenate (s t : Sequence α) (index : Nat) :
    (s.concatenate t).select? index =
      if index < s.length then s.select? index else t.select? (index - s.length) :=
  List.getElem?_append

section Equality

variable [DecidableEq α]

theorem contains_concatenate (s t : Sequence α) (value : α) :
    (s.concatenate t).contains value = (s.contains value || t.contains value) :=
  List.contains_append

theorem is_prefix_of_iff (s t : Sequence α) :
    s.isPrefixOf t = true ↔ s.elements <+: t.elements :=
  List.isPrefixOf_iff_prefix

theorem is_prefix_of_concatenate (s t : Sequence α) : s.isPrefixOf (s.concatenate t) = true :=
  (is_prefix_of_iff ..).mpr (List.prefix_append ..)

theorem is_prefix_of_iff_take (s t : Sequence α) :
    s.isPrefixOf t = true ↔ t.take s.length = s := by
  rw [is_prefix_of_iff, List.prefix_iff_eq_take, ← elements_take]
  exact ⟨fun same => ext same.symm, fun same => congrArg elements same.symm⟩

theorem is_prefix_of_iff_drop (s t : Sequence α) :
    s.isPrefixOf t = true ↔ s.concatenate (t.drop s.length) = t := by
  constructor
  · intro begins
    have taken := (is_prefix_of_iff_take s t).mp begins
    calc s.concatenate (t.drop s.length)
        = (t.take s.length).concatenate (t.drop s.length) := by rw [taken]
      _ = t := t.concatenate_take_drop s.length
  · intro joined
    rw [← joined]
    exact is_prefix_of_concatenate ..

theorem is_prefix_of_iff_exists (s t : Sequence α) :
    s.isPrefixOf t = true ↔ ∃ rest, s.concatenate rest = t := by
  constructor
  · intro begins
    exact ⟨t.drop s.length, (is_prefix_of_iff_drop s t).mp begins⟩
  · rintro ⟨rest, rfl⟩
    exact is_prefix_of_concatenate s rest

theorem is_prefix_of_refl (s : Sequence α) : s.isPrefixOf s = true :=
  (is_prefix_of_iff s s).mpr List.prefix_rfl

theorem is_prefix_of_trans {s t u : Sequence α} (first : s.isPrefixOf t = true)
    (second : t.isPrefixOf u = true) : s.isPrefixOf u = true := by
  obtain ⟨rest, rfl⟩ := (is_prefix_of_iff_exists s t).mp first
  obtain ⟨more, rfl⟩ := (is_prefix_of_iff_exists _ u).mp second
  rw [concatenate_assoc]
  exact is_prefix_of_concatenate ..

theorem length_le_of_is_prefix_of {s t : Sequence α} (begins : s.isPrefixOf t = true) :
    s.length ≤ t.length :=
  ((is_prefix_of_iff s t).mp begins).length_le

theorem eq_of_is_prefix_of {s t : Sequence α} (begins : s.isPrefixOf t = true)
    (whole : t.length ≤ s.length) : s = t :=
  ext (((is_prefix_of_iff s t).mp begins).eq_of_length_le whole)

theorem is_prefix_of_antisymm {s t : Sequence α} (begins : s.isPrefixOf t = true)
    (back : t.isPrefixOf s = true) : s = t :=
  eq_of_is_prefix_of begins (length_le_of_is_prefix_of back)

instance : IsPartialOrder (Sequence α) fun s t => s.isPrefixOf t = true where
  refl := is_prefix_of_refl
  trans _ _ _ := is_prefix_of_trans
  antisymm _ _ := is_prefix_of_antisymm

theorem is_proper_prefix_of_iff (s t : Sequence α) :
    s.isProperPrefixOf t = true ↔ s.isPrefixOf t = true ∧ s ≠ t := by
  rw [isProperPrefixOf, Bool.and_eq_true, decide_eq_true_eq]
  constructor
  · rintro ⟨shorter, begins⟩
    refine ⟨begins, ?_⟩
    rintro rfl
    exact Nat.lt_irrefl _ shorter
  · rintro ⟨begins, different⟩
    refine ⟨?_, begins⟩
    apply Nat.lt_of_not_le
    intro whole
    exact different (eq_of_is_prefix_of begins whole)

end Equality

end Sequence

namespace Handle

variable [DecidableEq α]

-- Any storage will do for what is joined, so a sequence that fits may be taken for a handle that does.
theorem is_prefix_of_iff_exists (fresh : Nat) (a b : Handle α) :
    a.contents.isPrefixOf b.contents = true ↔
      ∃ rest : Handle α, (a.concatenate fresh rest).contents = b.contents := by
  simp only [contents_concatenate]
  rw [Sequence.is_prefix_of_iff_exists]
  constructor
  · rintro ⟨rest, joined⟩
    exact ⟨⟨fresh, rest⟩, joined⟩
  · rintro ⟨rest, joined⟩
    exact ⟨rest.contents, joined⟩

end Handle

theorem concatenation_and_prefixes_cohere [DecidableEq α] :
    (∀ (a b c : Handle α) first second third fourth,
      ((a.concatenate first b).concatenate second c).contents =
        (a.concatenate third (b.concatenate fourth c)).contents) ∧
    (∀ (a : Handle α) fresh storage,
      (Handle.concatenate fresh ⟨storage, .empty⟩ a).contents = a.contents ∧
      (a.concatenate fresh ⟨storage, .empty⟩).contents = a.contents) ∧
    (∀ (a b : Handle α) fresh,
      let joined := (a.concatenate fresh b).contents
      joined.length = a.contents.length + b.contents.length ∧
      (∀ index, joined.select? index =
        if index < a.contents.length then a.contents.select? index
        else b.contents.select? (index - a.contents.length)) ∧
      ∀ value, joined.contains value = true ↔
        a.contents.contains value = true ∨ b.contents.contains value = true) ∧
    (∀ (a b : Handle α) fresh other,
      let begins := a.contents.isPrefixOf b.contents = true
      (begins ↔ ∃ rest : Handle α, (a.concatenate fresh rest).contents = b.contents) ∧
      (begins ↔ (b.take other a.contents.length).contents = a.contents) ∧
      (begins ↔ (a.concatenate fresh (b.drop other a.contents.length)).contents = b.contents)) ∧
    IsPartialOrder (Sequence α) (fun s t => s.isPrefixOf t = true) ∧
    ∀ s t : Sequence α, s.isProperPrefixOf t = true ↔ s.isPrefixOf t = true ∧ s ≠ t := by
  refine ⟨?associative, ?identity, ?parts, ?begins, inferInstance,
    Sequence.is_proper_prefix_of_iff⟩
  case associative =>
    intro a b c first second third fourth
    simp only [Handle.contents_concatenate, Sequence.concatenate_assoc]
  case identity =>
    intro a fresh storage
    simp only [Handle.contents_concatenate]
    exact ⟨Sequence.concatenate_of_empty_left _ rfl, Sequence.concatenate_of_empty_right _ rfl⟩
  case parts =>
    intro a b fresh joined
    have contents : joined = a.contents.concatenate b.contents := a.contents_concatenate fresh b
    rw [contents]
    refine ⟨Sequence.length_concatenate .., Sequence.select?_concatenate a.contents b.contents, ?_⟩
    intro value
    rw [Sequence.contains_concatenate, Bool.or_eq_true]
  case begins =>
    intro a b fresh other begins
    refine ⟨a.is_prefix_of_iff_exists fresh b, ?_, ?_⟩
    · rw [Handle.contents_take]
      exact Sequence.is_prefix_of_iff_take ..
    · rw [Handle.contents_concatenate, Handle.contents_drop]
      exact Sequence.is_prefix_of_iff_drop ..

end LinearStore
