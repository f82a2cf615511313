import LinearStore.Custody.Basic
import Mathlib.Data.List.Dedup
import Mathlib.Data.List.Perm.Basic

set_option autoImplicit false

namespace LinearStore.Custody

def Coherent (handles : List (Handle Tracked)) : Prop :=
  ∀ a ∈ handles, ∀ b ∈ handles, a.storage = b.storage → a = b

section Handles

variable {handles others : List (Handle Tracked)} {handle : Handle Tracked}

theorem Coherent.of_subset (coherent : Coherent handles) (subset : others ⊆ handles) :
    Coherent others :=
  fun a first b second => coherent a (subset first) b (subset second)

theorem any_shares_iff (coherent : Coherent (handle :: handles)) :
    handles.any handle.sharesStorage = true ↔ handle ∈ handles := by
  simp only [List.any_eq_true, Handle.sharesStorage, beq_iff_eq]
  constructor
  · rintro ⟨other, member, same⟩
    rwa [coherent handle List.mem_cons_self other (List.mem_cons_of_mem _ member) same]
  · exact fun member => ⟨handle, member, rfl⟩

theorem frozen_elements_cons_of_shared (shared : handles.any handle.sharesStorage = true) :
    frozenElements (handle :: handles) = frozenElements handles :=
  if_pos shared

theorem frozen_elements_cons_of_alone (alone : handles.any handle.sharesStorage = false) :
    frozenElements (handle :: handles) = handle.contents.elements ++ frozenElements handles := by
  rw [frozenElements, if_neg (Bool.eq_false_iff.mp alone)]

theorem frozen_elements_eq_dedup (coherent : Coherent handles) :
    frozenElements handles = handles.dedup.flatMap (fun handle => handle.contents.elements) := by
  induction handles with
  | nil => rfl
  | cons handle rest step =>
    have remaining := step (coherent.of_subset (List.subset_cons_self handle rest))
    by_cases member : handle ∈ rest
    · rw [frozen_elements_cons_of_shared ((any_shares_iff coherent).mpr member),
        List.dedup_cons_of_mem member, remaining]
    · have alone := Bool.eq_false_iff.mpr (mt (any_shares_iff coherent).mp member)
      rw [frozen_elements_cons_of_alone alone, List.dedup_cons_of_notMem member,
        List.flatMap_cons, remaining]

theorem frozen_elements_perm (coherent : Coherent handles) (rearranged : handles.Perm others) :
    (frozenElements handles).Perm (frozenElements others) := by
  rw [frozen_elements_eq_dedup coherent,
    frozen_elements_eq_dedup (coherent.of_subset rearranged.symm.subset)]
  exact rearranged.dedup.flatMap_right _

end Handles

-- Storage is handed out in order, so the next one is not in use.
structure Sharing (handles : List (Handle Tracked)) (storages : Nat) : Prop where
  coherent : Coherent handles
  older : ∀ handle ∈ handles, handle.storage < storages

section Sharing

variable {handles others : List (Handle Tracked)} {handle : Handle Tracked} {storages place : Nat}

theorem sharing_nil (storages : Nat) : Sharing [] storages where
  coherent := fun _ member => absurd member List.not_mem_nil
  older := fun _ member => absurd member List.not_mem_nil

theorem Sharing.of_subset (sharing : Sharing handles storages) (subset : others ⊆ handles) :
    Sharing others storages where
  coherent := sharing.coherent.of_subset subset
  older := fun handle member => sharing.older handle (subset member)

theorem Sharing.add_fresh (sharing : Sharing handles storages) (contents : Sequence Tracked) :
    Sharing (handles ++ [⟨storages, contents⟩]) (storages + 1) where
  coherent := by
    intro a first b second same
    rw [List.mem_append, List.mem_singleton] at first second
    rcases first with first | rfl <;> rcases second with second | rfl
    · exact sharing.coherent a first b second same
    · exact absurd same (Nat.ne_of_lt (sharing.older a first))
    · exact absurd same (Nat.ne_of_gt (sharing.older b second))
    · rfl
  older := by
    intro handle member
    rw [List.mem_append, List.mem_singleton] at member
    rcases member with member | rfl
    · exact Nat.lt_succ_of_lt (sharing.older handle member)
    · exact Nat.lt_succ_self storages

theorem frozen_elements_add_fresh (sharing : Sharing handles storages)
    (contents : Sequence Tracked) :
    (frozenElements (handles ++ [⟨storages, contents⟩])).Perm
      (contents.elements ++ frozenElements handles) := by
  have alone : handles.any (Handle.sharesStorage ⟨storages, contents⟩) = false := by
    simp only [List.any_eq_false, Handle.sharesStorage, beq_iff_eq]
    exact fun handle member => Nat.ne_of_gt (sharing.older handle member)
  rw [← frozen_elements_cons_of_alone alone]
  exact frozen_elements_perm (sharing.add_fresh contents).coherent (List.perm_append_singleton _ _)

theorem frozen_elements_add_copy (coherent : Coherent handles) (member : handle ∈ handles) :
    (frozenElements (handles ++ [handle])).Perm (frozenElements handles) := by
  have rearranged := List.perm_append_singleton handle handles
  have added : Coherent (handle :: handles) :=
    coherent.of_subset (List.cons_subset.mpr ⟨member, List.Subset.refl handles⟩)
  rw [← frozen_elements_cons_of_shared ((any_shares_iff added).mpr member)]
  exact frozen_elements_perm (added.of_subset rearranged.subset) rearranged

theorem frozen_elements_erase (coherent : Coherent handles) (found : handles[place]? = some handle) :
    ((if (handles.eraseIdx place).any handle.sharesStorage then [] else handle.contents.elements) ++
      frozenElements (handles.eraseIdx place)).Perm (frozenElements handles) := by
  obtain ⟨inside, rfl⟩ := List.getElem?_eq_some_iff.mp found
  have rearranged := List.getElem_cons_eraseIdx_perm inside
  have same := frozen_elements_perm (coherent.of_subset rearranged.subset) rearranged
  cases shared : (handles.eraseIdx place).any handles[place].sharesStorage with
  | true =>
    rw [frozen_elements_cons_of_shared shared] at same
    exact same
  | false =>
    rw [frozen_elements_cons_of_alone shared] at same
    exact same

end Sharing

end LinearStore.Custody
