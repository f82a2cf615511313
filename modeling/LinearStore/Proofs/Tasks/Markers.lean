import LinearStore.Proofs.FileTree
import LinearStore.Tasks.Markers
import Mathlib.Algebra.BigOperators.Group.List.Basic
import Mathlib.Algebra.GroupWithZero.Nat
import Mathlib.Algebra.Order.Group.Nat
import Mathlib.Data.List.Infix

set_option autoImplicit false

namespace LinearStore

namespace Tasks

-- A line that ends in a break may have a return before it; what comes after the last break is a line
-- if there is anything.
def withoutReturn (line : List Char) : List Char :=
  if line.getLast? = some '\r' then line.dropLast else line

def linesOfPieces : List (List Char) → List (List Char)
  | [] => []
  | [last] => if last = [] then [] else [last]
  | line :: next :: rest => withoutReturn line :: linesOfPieces (next :: rest)

def linesOf (text : List Char) : List (List Char) := linesOfPieces (text.splitOn '\n')

def IsMarked (line : List Char) : Prop := "INVARIANT:".toList <:+: line

instance (line : List Char) : Decidable (IsMarked line) :=
  inferInstanceAs (Decidable ("INVARIANT:".toList <:+: line))

-- The extension follows the last dot, and something has to stand before that dot.
def HasExtension (name extension : String) : Prop :=
  ∃ stem, stem ≠ [] ∧ '.' ∉ extension.toList ∧ name.toList = stem ++ '.' :: extension.toList

theorem split_lines_eq (text : List Char) : splitLines text = text.splitOn '\n' := by
  induction text with
  | nil => rfl
  | cons c rest ih =>
      obtain ⟨line, lines, parts⟩ := List.exists_cons_of_ne_nil
        (List.splitOnP_ne_nil (fun c => c == '\n') rest)
      simp only [splitLines, ih, List.splitOn, List.splitOnP_cons_eq_if_modifyHead, parts]
      cases c == '\n' <;> rfl

theorem contains_part_iff (part text : List Char) :
    containsPart part text = true ↔ part <:+: text := by
  induction text with
  | nil => simp [containsPart]
  | cons c rest ih => simp [containsPart, ih, List.infix_cons_iff]

theorem is_marked_without_return (line : List Char) :
    IsMarked (withoutReturn line) ↔ IsMarked line := by
  by_cases returned : line.getLast? = some '\r'
  · obtain ⟨start, rfl⟩ := List.getLast?_eq_some_iff.mp returned
    have apart : ¬ "INVARIANT:".toList <:+ start ++ ['\r'] := by
      rintro ⟨front, same⟩
      have last := congrArg List.getLast? same
      rw [List.getLast?_concat, List.getLast?_append_of_ne_nil _ (by decide)] at last
      exact absurd last (by decide)
    simp only [withoutReturn, if_pos returned, List.dropLast_concat, IsMarked, List.infix_concat_iff,
      apart, false_or]
  · rw [withoutReturn, if_neg returned]

theorem count_marked_pieces (pieces : List (List Char)) :
    (linesOfPieces pieces).countP (IsMarked ·) = pieces.countP (IsMarked ·) := by
  fun_induction linesOfPieces pieces with
  | case1 | case2 | case3 => rfl
  | case4 line next rest ih =>
      simp only [List.countP_cons, ih, is_marked_without_return]

theorem count_lines_eq (text : String) :
    countLines text = (linesOf text.toList).countP (IsMarked ·) := by
  rw [linesOf, count_marked_pieces, countLines, split_lines_eq]
  refine List.countP_congr fun line _ => ?_
  rw [contains_part_iff, decide_eq_true_iff]
  rfl

example : linesOf "a\r\n\n\rb\r".toList = ["a".toList, [], "\rb\r".toList] := by decide +kernel

theorem has_extension_iff {name extension : String} :
    HasExtension name extension ↔ '.' ∉ extension.toList ∧
      ('.' :: extension.toList) <:+ name.toList ∧ extension.length + 1 < name.length := by
  simp only [← String.length_toList]
  constructor
  · rintro ⟨stem, named, plain, same⟩
    refine ⟨plain, ⟨stem, same.symm⟩, ?_⟩
    rw [same, List.length_append, List.length_cons]
    exact Nat.lt_add_of_pos_left (List.length_pos_iff.mpr named)
  · rintro ⟨plain, ⟨stem, same⟩, longer⟩
    refine ⟨stem, ?_, plain, same.symm⟩
    rintro rfl
    rw [← same, List.nil_append, List.length_cons] at longer
    exact Nat.lt_irrefl _ longer

instance (name extension : String) : Decidable (HasExtension name extension) :=
  decidable_of_iff' _ has_extension_iff

theorem is_source_iff (name : String) : isSource name = true ↔ HasExtension name "rs" := by
  rw [has_extension_iff, isSource, Bool.and_eq_true, List.isSuffixOf_iff_suffix, decide_eq_true_iff,
    String.length_toList]
  exact ⟨fun ⟨ends, longer⟩ => ⟨by decide, ends, longer⟩, fun ⟨_, ends, longer⟩ => ⟨ends, longer⟩⟩

example : HasExtension "..rs" "rs" ∧ ¬ HasExtension ".rs" "rs" ∧ ¬ HasExtension "a.rs.md" "rs" := by
  decide +kernel

end Tasks

-- An entry that does not show that it has to be gone through.
def Leaf.hidesDirectory : Leaf → Bool
  | unseen _ (.file _) => false
  | unseen _ _ => true
  | file _ | unlisted _ => false

namespace Place

open Tasks

def marks (place : Place) : Nat :=
  match place.leaf with
  | .file (.ok text) =>
      if HasExtension place.name "rs" then (linesOf text.toList).countP (IsMarked ·) else 0
  | .file (.error _) | .unlisted _ | .unseen _ _ => 0

-- What keeps a leaf from being read that has to be read for all markers to be found: a source file, or
-- anything that is not a file.
def fault? (place : Place) : Option FileFault :=
  match place.leaf with
  | .file (.ok _) => none
  | .file (.error fault) | .unseen fault (.file _) =>
      if HasExtension place.name "rs" then some fault else none
  | .unlisted fault | .unseen fault _ => some fault

-- A directory that is not seen to be one, and is not named as a source file either.
def Overlooked (place : Place) : Prop :=
  place.leaf.hidesDirectory = true ∧ ¬ HasExtension place.name "rs"

instance (place : Place) : Decidable place.Overlooked :=
  inferInstanceAs (Decidable (_ ∧ _))

def noticed? (path : String) (place : Place) : Option Unreadable :=
  if place.Overlooked then none
  else place.fault?.map fun fault => ⟨place.pathFrom path, fault⟩

theorem noticed_within (path directory : String) (place : Place) :
    (place.within directory).noticed? path = place.noticed? (path ++ "/" ++ directory) := by
  simp only [noticed?, path_from_within]
  rfl

theorem noticed_of_readable {place : Place} (readable : place.fault? = none) (path : String) :
    place.noticed? path = none := by
  simp [noticed?, readable]

theorem noticed_of_fault {place : Place} {fault : FileFault} (blocked : place.fault? = some fault)
    (shown : ¬ place.Overlooked) (path : String) :
    place.noticed? path = some ⟨place.pathFrom path, fault⟩ := by
  rw [noticed?, if_neg shown, blocked, Option.map_some]

theorem fault_of_noticed {place : Place} {path : String} {unreadable : Unreadable}
    (noticed : place.noticed? path = some unreadable) :
    place.fault? = some unreadable.fault ∧ unreadable.path = place.pathFrom path := by
  by_cases overlooked : place.Overlooked
  · simp [noticed?, overlooked] at noticed
  · rw [noticed?, if_neg overlooked] at noticed
    obtain ⟨fault, blocked, rfl⟩ := Option.map_eq_some_iff.mp noticed
    exact ⟨blocked, rfl⟩

end Place

namespace Tasks

def scanned (path : String) (places : List Place) : Except Unreadable Nat :=
  match places.findSome? (Place.noticed? path) with
  | some unreadable => .error unreadable
  | none => .ok (places.map Place.marks).sum

theorem scanned_append (path : String) (before after : List Place) :
    scanned path (before ++ after) = (do
      let here ← scanned path before
      let others ← scanned path after
      return here + others) := by
  simp only [scanned, List.findSome?_append, List.map_append, List.sum_append]
  cases before.findSome? (Place.noticed? path) with
  | some unreadable => rfl
  | none =>
      cases after.findSome? (Place.noticed? path) with
      | some unreadable => rfl
      | none => rfl

theorem scanned_within (path directory : String) (places : List Place) :
    scanned path (places.map (Place.within directory)) = scanned (path ++ "/" ++ directory) places := by
  have reads : Place.noticed? path ∘ Place.within directory =
      Place.noticed? (path ++ "/" ++ directory) :=
    funext (Place.noticed_within path directory)
  have marks : Place.marks ∘ Place.within directory = Place.marks := rfl
  rw [scanned, List.findSome?_map, List.map_map, reads, marks, scanned]

theorem scanned_singleton (path : String) (place : Place) :
    scanned path [place] =
      match place.noticed? path with
      | some unreadable => .error unreadable
      | none => .ok place.marks := by
  simp only [scanned, List.findSome?_cons, List.findSome?_nil]
  cases place.noticed? path <;> simp

theorem count_file_eq (path name : String) (contents : Except FileFault String) :
    countFile (path ++ "/" ++ name) name contents = scanned path [⟨[], name, .file contents⟩] := by
  rw [scanned_singleton]
  by_cases source : HasExtension name "rs"
  · have read := (is_source_iff name).mpr source
    cases contents with
    | ok text =>
        simp [countFile, read, Place.noticed?, Place.fault?, Place.marks, source, count_lines_eq]
    | error fault =>
        simp [countFile, read, Place.noticed?, Place.Overlooked, Place.fault?, Place.pathFrom,
          Place.names, source]
  · have skipped := mt (is_source_iff name).mp source
    cases contents <;> simp [countFile, skipped, Place.noticed?, Place.fault?, Place.marks, source]

theorem count_unseen_eq (path name : String) (fault : FileFault) (hidden : FileTree) :
    countFile (path ++ "/" ++ name) name (.error fault) =
      scanned path [⟨[], name, .unseen fault hidden⟩] := by
  rw [scanned_singleton]
  by_cases source : HasExtension name "rs"
  · have read := (is_source_iff name).mpr source
    cases hidden <;>
      simp [countFile, read, Place.noticed?, Place.Overlooked, Place.fault?, Place.pathFrom,
        Place.names, source]
  · have skipped := mt (is_source_iff name).mp source
    cases hidden <;>
      simp [countFile, skipped, Place.noticed?, Place.Overlooked, Leaf.hidesDirectory, Place.fault?,
        Place.marks, source]

theorem count_unlisted_eq (path name : String) (fault : FileFault) :
    countEntry (path ++ "/" ++ name) name (.unlisted fault) =
      scanned path [⟨[], name, .unlisted fault⟩] := by
  have shown : ¬ (⟨[], name, .unlisted fault⟩ : Place).Overlooked := fun hides => Bool.false_ne_true hides.1
  rw [scanned_singleton, Place.noticed_of_fault rfl shown, countEntry]
  rfl

mutual

theorem count_entry_eq (path name : String) : (entry : FileTree) →
    countEntry (path ++ "/" ++ name) name entry = scanned path (entry.leavesNamed name)
  | .file contents => count_file_eq path name contents
  | .unlisted fault => count_unlisted_eq path name fault
  | .unseen fault hidden => count_unseen_eq path name fault hidden
  | .directory entries => by
      rw [countEntry, count_entries_eq, FileTree.leavesNamed, scanned_within]

theorem count_entries_eq (path : String) : (entries : List (String × FileTree)) →
    countEntries path entries = scanned path (FileTree.leavesAmong entries)
  | [] => rfl
  | (name, entry) :: rest => by
      rw [countEntries, count_entry_eq, count_entries_eq, FileTree.leavesAmong, scanned_append]

end

theorem scanned_eq_ok_iff {path : String} {places : List Place} {found : Nat} :
    scanned path places = .ok found ↔
      (∀ place ∈ places, place.noticed? path = none) ∧ found = (places.map Place.marks).sum := by
  rw [scanned, ← List.findSome?_eq_none_iff]
  cases places.findSome? (Place.noticed? path) with
  | some unreadable => simp
  | none => simp [eq_comm]

theorem noticed_of_scanned_eq_error {path : String} {places : List Place}
    {unreadable : Unreadable} (failed : scanned path places = .error unreadable) :
    ∃ place ∈ places, place.noticed? path = some unreadable := by
  rw [scanned] at failed
  cases first : places.findSome? (Place.noticed? path) with
  | none => simp [first] at failed
  | some other =>
      simp only [first, Except.error.injEq] at failed
      subst failed
      exact List.exists_of_findSome?_eq_some first

end Tasks

namespace FileTree

def rootFault? : FileTree → Option FileFault
  | file _ => some .notDirectory
  | unlisted fault | unseen fault _ => some fault
  | directory _ => none

end FileTree

namespace Tasks

variable {path : String} {tree : FileTree}

theorem count_markers_of_root_fault {fault : FileFault} (unlisted : tree.rootFault? = some fault) :
    countMarkers path tree = .error ⟨path, fault⟩ := by
  cases tree with
  | file | unlisted | unseen => cases unlisted; rfl
  | directory => cases unlisted

theorem count_markers_of_listed (listed : tree.rootFault? = none) :
    countMarkers path tree = scanned path tree.leaves := by
  cases tree with
  | file | unlisted | unseen => cases listed
  | directory entries => rw [countMarkers, count_entries_eq, FileTree.leaves]

theorem count_markers_eq_ok_iff {found : Nat} :
    countMarkers path tree = .ok found ↔
      tree.rootFault? = none ∧ (∀ place, tree.Stands place → place.noticed? path = none) ∧
        found = (tree.leaves.map Place.marks).sum := by
  cases root : tree.rootFault? with
  | some fault => simp [count_markers_of_root_fault root]
  | none => simp [count_markers_of_listed root, scanned_eq_ok_iff, FileTree.mem_leaves_iff]

theorem fault_of_count_markers_eq_error {unreadable : Unreadable}
    (failed : countMarkers path tree = .error unreadable) :
    (tree.rootFault? = some unreadable.fault ∧ unreadable.path = path) ∨
      ∃ place, tree.Stands place ∧ place.fault? = some unreadable.fault ∧
        unreadable.path = place.pathFrom path := by
  cases root : tree.rootFault? with
  | some fault =>
      rw [count_markers_of_root_fault root, Except.error.injEq] at failed
      subst failed
      exact .inl ⟨rfl, rfl⟩
  | none =>
      rw [count_markers_of_listed root] at failed
      obtain ⟨place, member, noticed⟩ := noticed_of_scanned_eq_error failed
      exact .inr ⟨place, FileTree.mem_leaves_iff.mp member, Place.fault_of_noticed noticed⟩

theorem count_markers_of_readable (listed : tree.rootFault? = none)
    (readable : ∀ place, tree.Stands place → place.fault? = none) :
    countMarkers path tree = .ok (tree.leaves.map Place.marks).sum :=
  count_markers_eq_ok_iff.mpr
    ⟨listed, fun place stands => Place.noticed_of_readable (readable place stands) path, rfl⟩

theorem count_markers_of_fault {place : Place} {fault : FileFault} (stands : tree.Stands place)
    (blocked : place.fault? = some fault) (shown : ¬ place.Overlooked) :
    ∃ unreadable, countMarkers path tree = .error unreadable := by
  cases counted : countMarkers path tree with
  | error unreadable => exact ⟨unreadable, rfl⟩
  | ok found =>
      have passed := (count_markers_eq_ok_iff.mp counted).2.1 place stands
      rw [Place.noticed_of_fault blocked shown] at passed
      cases passed

theorem root_fault_rearranged {other : FileTree} (rearranged : tree.Rearranged other) :
    tree.rootFault? = other.rootFault? := by
  induction rearranged with
  | refl => rfl
  | trans _ _ here there => exact here.trans there
  | listed | inside => rfl

theorem count_markers_rearranged {other : FileTree} (rearranged : tree.Rearranged other)
    (found : Nat) : countMarkers path tree = .ok found ↔ countMarkers path other = .ok found := by
  have same := (FileTree.rearranged_leaves rearranged).1
  simp only [count_markers_eq_ok_iff, root_fault_rearranged rearranged, ← FileTree.mem_leaves_iff,
    same.mem_iff, (same.map Place.marks).sum_eq]

end Tasks

end LinearStore
