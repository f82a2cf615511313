import LinearStore.Proofs.Contract.Asserted
import LinearStore.Sequence

set_option autoImplicit false

namespace LinearStore

variable {α : Type}

namespace Sequence

theorem ext {s t : Sequence α} (same : s.elements = t.elements) : s = t :=
  congrArg Sequence.mk same

-- The upper bound is clamped to the length and the lower one to the clamped upper bound, which is the
-- length of what the upper bound leaves.
theorem elements_subsequence (s : Sequence α) (lo hi : Nat) :
    (s.subsequence lo hi).elements = (s.elements.take hi).drop lo := by
  have upper : s.elements.take (min hi s.length) = s.elements.take hi :=
    List.take_eq_take_min.symm
  have remaining : (s.elements.take hi).length = min hi s.length := List.length_take
  have lower : (s.elements.take hi).drop (min lo (min hi s.length)) = (s.elements.take hi).drop lo := by
    rw [← remaining]
    exact List.drop_eq_drop_min.symm
  simp only [subsequence]
  rw [← List.drop_take, upper, lower]

theorem elements_take (s : Sequence α) (count : Nat) :
    (s.take count).elements = s.elements.take count :=
  s.elements_subsequence 0 count

theorem elements_drop (s : Sequence α) (count : Nat) :
    (s.drop count).elements = s.elements.drop count := by
  rw [drop, elements_subsequence, length, List.take_length]

theorem subsequence_eq_drop_take (s : Sequence α) (lo hi : Nat) :
    s.subsequence lo hi = (s.take hi).drop lo := by
  apply ext
  rw [elements_subsequence, elements_drop, elements_take]

theorem concatenate_take_drop (s : Sequence α) (count : Nat) :
    (s.take count).concatenate (s.drop count) = s := by
  apply ext
  rw [concatenate, elements_take, elements_drop, List.take_append_drop]

theorem subsequence_subsequence (s : Sequence α) (a b c d : Nat) :
    (s.subsequence a b).subsequence c d = s.subsequence (a + c) (min b (a + d)) := by
  apply ext
  simp only [elements_subsequence]
  rw [List.take_drop, List.take_take, List.drop_drop, Nat.min_comm]

theorem subsequence_of_whole (s : Sequence α) {lo hi : Nat}
    (whole : min lo (min hi s.length) = 0 ∧ min hi s.length = s.length) :
    s.subsequence lo hi = s := by
  apply ext
  simp only [subsequence]
  rw [whole.1, whole.2, List.drop_zero, Nat.sub_zero, length, List.take_length]

theorem length_subsequence (s : Sequence α) (lo hi : Nat) :
    (s.subsequence lo hi).length = min hi s.length - lo := by
  rw [length, elements_subsequence, List.length_drop, List.length_take, length]

theorem concatenate_of_empty_right (s : Sequence α) {t : Sequence α} (vacant : t.isEmpty = true) :
    s.concatenate t = s := by
  apply ext
  rw [concatenate, List.isEmpty_iff.mp vacant, List.append_nil]

theorem concatenate_of_empty_left {s : Sequence α} (t : Sequence α) (vacant : s.isEmpty = true) :
    s.concatenate t = t := by
  apply ext
  rw [concatenate, List.isEmpty_iff.mp vacant, List.nil_append]

end Sequence

namespace Handle

theorem contents_subsequence (fresh : Nat) (handle : Handle α) (lo hi : Nat) :
    (handle.subsequence fresh lo hi).contents = handle.contents.subsequence lo hi := by
  simp only [subsequence]
  split
  · rename_i whole
    exact (handle.contents.subsequence_of_whole whole).symm
  · rfl

theorem subsequence_eq_ite (fresh : Nat) (handle : Handle α) (lo hi : Nat) :
    handle.subsequence fresh lo hi =
      if (handle.contents.subsequence lo hi).length = handle.contents.length then handle
      else ⟨fresh, handle.contents.subsequence lo hi⟩ := by
  have whole_iff : (min lo (min hi handle.contents.length) = 0 ∧
      min hi handle.contents.length = handle.contents.length) ↔
        (handle.contents.subsequence lo hi).length = handle.contents.length := by
    rw [Sequence.length_subsequence]
    omega
  simp only [subsequence, whole_iff]

theorem contents_take (fresh : Nat) (handle : Handle α) (count : Nat) :
    (handle.take fresh count).contents = handle.contents.take count :=
  contents_subsequence fresh handle 0 count

theorem contents_drop (fresh : Nat) (handle : Handle α) (count : Nat) :
    (handle.drop fresh count).contents = handle.contents.drop count :=
  contents_subsequence fresh handle count handle.contents.length

theorem contents_concatenate (fresh : Nat) (a b : Handle α) :
    (a.concatenate fresh b).contents = a.contents.concatenate b.contents := by
  by_cases right : b.contents.isEmpty = true
  · rw [concatenate, if_pos right, a.contents.concatenate_of_empty_right right]
  · by_cases left : a.contents.isEmpty = true
    · rw [concatenate, if_neg right, if_pos left, Sequence.concatenate_of_empty_left _ left]
    · rw [concatenate, if_neg right, if_neg left]

end Handle

namespace Sequence

-- The elements at the places from `lo` up to but not including `hi`, in their order, whether or not the
-- bounds are places of the sequence.
def between (s : Sequence α) (lo hi : Nat) : List α :=
  (s.elements.zipIdx.filter fun placed => lo ≤ placed.2 ∧ placed.2 < min hi s.length).map Prod.fst

-- The rest of a list goes on counting its places, so for the rest both bounds are one place nearer.
theorem filter_places (elements : List α) (first lo hi : Nat) :
    ((elements.zipIdx first).filter fun placed => lo ≤ placed.2 ∧ placed.2 < hi).map Prod.fst =
      (elements.take (hi - first)).drop (lo - first) := by
  induction elements generalizing first with
  | nil => simp
  | cons element rest ih =>
      rw [List.zipIdx_cons, List.filter_cons]
      by_cases within : lo ≤ first ∧ first < hi
      · have stop : hi - first = hi - (first + 1) + 1 := by omega
        have start : lo - first = 0 := by omega
        have later : lo - (first + 1) = 0 := by omega
        rw [if_pos (decide_eq_true within), List.map_cons, ih, stop, start, later,
          List.take_succ_cons, List.drop_zero, List.drop_zero]
      · rw [if_neg (by simpa using within), ih]
        by_cases below : first < hi
        · have stop : hi - first = hi - (first + 1) + 1 := by omega
          have start : lo - first = lo - (first + 1) + 1 := by omega
          rw [stop, start, List.take_succ_cons, List.drop_succ_cons]
        · have stop : hi - first = 0 := by omega
          have later : hi - (first + 1) = 0 := by omega
          rw [stop, later, List.take_zero, List.take_zero, List.drop_nil, List.drop_nil]

theorem between_eq_elements (s : Sequence α) (lo hi : Nat) :
    s.between lo hi = (s.subsequence lo hi).elements := by
  have clamped : s.elements.take (min hi s.length) = s.elements.take hi :=
    List.take_eq_take_min.symm
  rw [between, filter_places, elements_subsequence, Nat.sub_zero, Nat.sub_zero, clamped]

end Sequence

theorem slices_clamp_and_split (s : Handle α) :
    (∀ fresh lo hi, ∃ slice, Asserted.subsequence fresh s lo hi = .ok slice ∧
      slice = s.subsequence fresh lo hi ∧
      slice.contents.elements = s.contents.between lo hi ∧
      slice = if slice.contents.length = s.contents.length then s else ⟨fresh, slice.contents⟩) ∧
    (∀ first second third lo hi, (s.subsequence first lo hi).contents =
      ((s.take second hi).drop third lo).contents) ∧
    (∀ first second third count,
      ((s.take first count).concatenate third (s.drop second count)).contents = s.contents) ∧
    ∀ first second third a b c d, ((s.subsequence first a b).subsequence second c d).contents =
      (s.subsequence third (a + c) (min b (a + d))).contents := by
  refine ⟨fun fresh lo hi => ⟨s.subsequence fresh lo hi, Asserted.subsequence_eq fresh s lo hi,
    rfl, ?between, ?shared⟩, ?cut, ?split, ?nested⟩
  case between => rw [Handle.contents_subsequence, Sequence.between_eq_elements]
  case shared =>
    rw [Handle.contents_subsequence]
    exact s.subsequence_eq_ite fresh lo hi
  case cut =>
    intro first second third lo hi
    rw [Handle.contents_subsequence, Handle.contents_drop, Handle.contents_take,
      Sequence.subsequence_eq_drop_take]
  case split =>
    intro first second third count
    rw [Handle.contents_concatenate, Handle.contents_take, Handle.contents_drop,
      Sequence.concatenate_take_drop]
  case nested =>
    intro first second third a b c d
    simp only [Handle.contents_subsequence, Sequence.subsequence_subsequence]

end LinearStore
