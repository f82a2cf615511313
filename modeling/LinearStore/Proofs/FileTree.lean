import LinearStore.FileTree
import Mathlib.Data.List.Nodup
import Mathlib.Data.List.Perm.Basic

set_option autoImplicit false

namespace LinearStore

inductive Leaf where
  | file (contents : Except FileFault String)
  | unlisted (fault : FileFault)
  | unseen (fault : FileFault) (hidden : FileTree)

def Leaf.tree : Leaf → FileTree
  | file contents => .file contents
  | unlisted fault => .unlisted fault
  | unseen fault hidden => .unseen fault hidden

-- The directories that lead to a leaf from the root of the tree, the outermost first, and its name.
structure Place where
  above : List String
  name : String
  leaf : Leaf

namespace Place

def within (directory : String) (place : Place) : Place :=
  { place with above := directory :: place.above }

def names (place : Place) : List String := place.above ++ [place.name]

def pathFrom (path : String) (place : Place) : String :=
  place.names.foldl (fun path name => path ++ "/" ++ name) path

theorem path_from_within (path directory : String) (place : Place) :
    (place.within directory).pathFrom path = place.pathFrom (path ++ "/" ++ directory) := rfl

theorem within_injective (directory : String) : Function.Injective (within directory) := by
  rintro ⟨above, name, leaf⟩ ⟨otherAbove, otherName, otherLeaf⟩ same
  simpa [within] using same

end Place

namespace FileTree

variable {tree first second : FileTree} {place : Place}

inductive Stands : FileTree → Place → Prop where
  | here {entries : List (String × FileTree)} {name : String} {leaf : Leaf}
      (listed : (name, leaf.tree) ∈ entries) : Stands (directory entries) ⟨[], name, leaf⟩
  | deeper {entries : List (String × FileTree)} {name : String} {inner : FileTree} {place : Place}
      (listed : (name, inner) ∈ entries) (stands : inner.Stands place) :
      Stands (directory entries) (place.within name)

inductive Ordinary : FileTree → Prop where
  | leaf (leaf : Leaf) : leaf.tree.Ordinary
  | directory {entries : List (String × FileTree)} (distinct : (entries.map Prod.fst).Nodup)
      (inner : ∀ entry ∈ entries, entry.2.Ordinary) : (FileTree.directory entries).Ordinary

-- The same tree, but for the order in which directories at any depth list their entries.
inductive Rearranged : FileTree → FileTree → Prop where
  | refl (tree : FileTree) : Rearranged tree tree
  | trans {first second third : FileTree} (here : Rearranged first second)
      (there : Rearranged second third) : Rearranged first third
  | listed {entries others : List (String × FileTree)} (same : entries.Perm others) :
      Rearranged (directory entries) (directory others)
  | inside {inner other : FileTree} (before after : List (String × FileTree)) (name : String)
      (rearranged : Rearranged inner other) :
      Rearranged (directory (before ++ (name, inner) :: after))
        (directory (before ++ (name, other) :: after))

mutual

def leavesNamed (name : String) : FileTree → List Place
  | file contents => [⟨[], name, .file contents⟩]
  | unlisted fault => [⟨[], name, .unlisted fault⟩]
  | unseen fault hidden => [⟨[], name, .unseen fault hidden⟩]
  | directory entries => (leavesAmong entries).map (Place.within name)

def leavesAmong : List (String × FileTree) → List Place
  | [] => []
  | (name, entry) :: rest => entry.leavesNamed name ++ leavesAmong rest

end

def leaves : FileTree → List Place
  | directory entries => leavesAmong entries
  | file _ | unlisted _ | unseen _ _ => []

theorem leaves_among_eq_flat_map (entries : List (String × FileTree)) :
    leavesAmong entries = entries.flatMap fun entry => entry.2.leavesNamed entry.1 := by
  induction entries with
  | nil => rfl
  | cons entry rest ih => rw [leavesAmong, ih, List.flatMap_cons]

theorem mem_leaves_among_iff {entries : List (String × FileTree)} :
    place ∈ leavesAmong entries ↔ ∃ entry ∈ entries, place ∈ entry.2.leavesNamed entry.1 := by
  rw [leaves_among_eq_flat_map, List.mem_flatMap]

theorem leaves_named_leaf (name : String) (leaf : Leaf) :
    leaf.tree.leavesNamed name = [⟨[], name, leaf⟩] := by
  cases leaf <;> rfl

theorem mem_leaves_of_stands (stands : tree.Stands place) : place ∈ tree.leaves := by
  induction stands with
  | here listed =>
      refine mem_leaves_among_iff.mpr ⟨_, listed, ?_⟩
      rw [leaves_named_leaf]
      exact List.mem_singleton_self _
  | deeper listed stands ih =>
      refine mem_leaves_among_iff.mpr ⟨_, listed, ?_⟩
      cases stands with
      | here | deeper => exact List.mem_map_of_mem ih

theorem stands_of_mem_leaf {entries : List (String × FileTree)} {name : String} (leaf : Leaf)
    (listed : (name, leaf.tree) ∈ entries) (member : place ∈ leaf.tree.leavesNamed name) :
    (directory entries).Stands place := by
  rw [leaves_named_leaf, List.mem_singleton] at member
  subst member
  exact .here listed

mutual

theorem stands_of_mem_named {entries : List (String × FileTree)} {name : String} :
    (entry : FileTree) → (name, entry) ∈ entries → ∀ place ∈ entry.leavesNamed name,
      (directory entries).Stands place
  | file contents, listed, _, member => stands_of_mem_leaf (.file contents) listed member
  | unlisted fault, listed, _, member => stands_of_mem_leaf (.unlisted fault) listed member
  | unseen fault hidden, listed, _, member =>
      stands_of_mem_leaf (.unseen fault hidden) listed member
  | directory inner, listed, place, member => by
      rw [leavesNamed, List.mem_map] at member
      obtain ⟨place, member, rfl⟩ := member
      exact .deeper listed (stands_of_mem_among inner inner (List.Subset.refl _) place member)

theorem stands_of_mem_among (entries : List (String × FileTree)) :
    (listed : List (String × FileTree)) → listed ⊆ entries → ∀ place ∈ leavesAmong listed,
      (directory entries).Stands place
  | [], _, place, member => by simp [leavesAmong] at member
  | (name, entry) :: rest, subset, place, member => by
      obtain ⟨here, others⟩ := List.cons_subset.mp subset
      rw [leavesAmong, List.mem_append] at member
      rcases member with named | among
      · exact stands_of_mem_named entry here place named
      · exact stands_of_mem_among entries rest others place among

end

theorem mem_leaves_iff : place ∈ tree.leaves ↔ tree.Stands place := by
  refine ⟨fun member => ?_, mem_leaves_of_stands⟩
  cases tree with
  | directory entries => exact stands_of_mem_among entries entries (List.Subset.refl _) place member
  | file | unlisted | unseen => simp [leaves] at member

theorem head_of_mem_named {name : String} (member : place ∈ tree.leavesNamed name) :
    place.names.head? = some name := by
  cases tree with
  | directory entries =>
      rw [leavesNamed, List.mem_map] at member
      obtain ⟨place, -, rfl⟩ := member
      rfl
  | file | unlisted | unseen =>
      rw [leavesNamed, List.mem_singleton] at member
      subst member
      rfl

theorem nodup_leaves_named (ordinary : tree.Ordinary) (name : String) :
    (tree.leavesNamed name).Nodup := by
  induction ordinary generalizing name with
  | leaf leaf =>
      rw [leaves_named_leaf]
      exact List.nodup_singleton _
  | @directory entries distinct inner ih =>
      rw [leavesNamed, leaves_among_eq_flat_map]
      refine List.Nodup.map (Place.within_injective name) (List.nodup_flatMap.mpr ⟨?_, ?_⟩)
      · exact fun entry member => ih entry member entry.1
      · refine (List.pairwise_map.mp distinct).imp fun different => ?_
        intro place here there
        refine different (Option.some.inj ?_)
        rw [← head_of_mem_named here, head_of_mem_named there]

theorem nodup_leaves (ordinary : tree.Ordinary) : tree.leaves.Nodup := by
  cases tree with
  | directory entries => exact (nodup_leaves_named ordinary "").of_map _
  | file | unlisted | unseen => exact List.nodup_nil

theorem rearranged_leaves (rearranged : first.Rearranged second) :
    first.leaves.Perm second.leaves ∧
      ∀ name, (first.leavesNamed name).Perm (second.leavesNamed name) := by
  induction rearranged with
  | refl tree => exact ⟨.refl _, fun _ => .refl _⟩
  | trans _ _ here there =>
      exact ⟨here.1.trans there.1, fun name => (here.2 name).trans (there.2 name)⟩
  | @listed entries others same =>
      have among : (leavesAmong entries).Perm (leavesAmong others) := by
        simpa only [leaves_among_eq_flat_map] using same.flatMap_right _
      exact ⟨among, fun name => among.map _⟩
  | @inside inner other before after name _ ih =>
      have among : (leavesAmong (before ++ (name, inner) :: after)).Perm
          (leavesAmong (before ++ (name, other) :: after)) := by
        simp only [leaves_among_eq_flat_map, List.flatMap_append, List.flatMap_cons]
        exact ((ih.2 name).append_right _).append_left _
      exact ⟨among, fun _ => among.map _⟩

end FileTree

end LinearStore
