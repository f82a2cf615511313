import LinearStore.Table
import Mathlib.Algebra.BigOperators.Group.List.Basic
import Mathlib.Data.List.Perm.Basic
import Mathlib.Tactic.Abel

set_option autoImplicit false

namespace LinearStore

variable {β M : Type} [AddCommMonoid M]

instance (entries : List (String × β)) : Decidable (Ordered entries) :=
  inferInstanceAs (Decidable (List.Pairwise _ _))

theorem insert_ordered_of_above {name : String} {entries : List (String × β)}
    (value : β) (above : ∀ entry ∈ entries, entry.1 < name) :
    insertOrdered name value entries = entries ++ [(name, value)] := by
  induction entries with
  | nil => rfl
  | cons head rest step =>
      have less : head.1 < name := above head List.mem_cons_self
      have notBefore : ¬ name < head.1 := fun before => String.lt_irrefl _ (String.lt_trans less before)
      have different : name ≠ head.1 := fun same => String.lt_irrefl _ (same ▸ less)
      rw [insertOrdered, if_neg notBefore, if_neg different,
        step fun entry member => above entry (List.mem_cons_of_mem _ member), List.cons_append]

theorem fold_insert_ordered (seen entries : List (String × β))
    (ordered : Ordered (seen ++ entries)) :
    entries.foldl (fun sorted entry => insertOrdered entry.1 entry.2 sorted) seen =
      seen ++ entries := by
  induction entries generalizing seen with
  | nil => rw [List.foldl_nil, List.append_nil]
  | cons entry rest step =>
      have above : ∀ earlier ∈ seen, earlier.1 < entry.1 := fun earlier member =>
        (List.pairwise_append.mp ordered).2.2 earlier member entry List.mem_cons_self
      have moved : seen ++ entry :: rest = (seen ++ [entry]) ++ rest := by
        rw [List.append_assoc, List.singleton_append]
      rw [List.foldl_cons, insert_ordered_of_above entry.2 above, moved]
      exact step (seen ++ [entry]) (moved ▸ ordered)

theorem lookup_fold_insert_ordered {name : String} {entries : List (String × β)}
    (absent : name ∉ entries.map Prod.fst) (seen : List (String × β)) :
    lookupName name
        (entries.foldl (fun sorted entry => insertOrdered entry.1 entry.2 sorted) seen) =
      lookupName name seen := by
  induction entries generalizing seen with
  | nil => rfl
  | cons entry rest step =>
      rw [List.map_cons, List.mem_cons, not_or] at absent
      rw [List.foldl_cons, step absent.2, lookup_insert_ordered, if_neg absent.1]

theorem lookup_of_mem {name : String} {value : β} {entries : List (String × β)}
    (distinct : (entries.map Prod.fst).Nodup) (member : (name, value) ∈ entries) :
    lookupName name entries = some value := by
  induction entries with
  | nil => cases member
  | cons head rest step =>
      rw [List.map_cons, List.nodup_cons] at distinct
      rw [lookupName]
      rcases List.mem_cons.mp member with rfl | later
      · rw [if_pos rfl]
      · have different : name ≠ head.1 := fun same =>
          distinct.1 (same ▸ (List.mem_map_of_mem later : name ∈ rest.map Prod.fst))
        rw [if_neg different]
        exact step distinct.2 later

theorem lookup_append_of_ne {name other : String} (value : β)
    {entries : List (String × β)} (missing : lookupName name entries = none) (different : name ≠ other) :
    lookupName name (entries ++ [(other, value)]) = none := by
  induction entries with
  | nil => simp [lookupName, different]
  | cons head rest step =>
      rw [List.cons_append]
      rw [lookupName] at missing ⊢
      split at missing
      · cases missing
      · rename_i elsewhere
        rw [if_neg elsewhere]
        exact step missing

theorem insert_ordered_perm {name : String} {entries : List (String × β)}
    (absent : ∀ entry ∈ entries, name ≠ entry.1) (value : β) :
    (insertOrdered name value entries).Perm ((name, value) :: entries) := by
  induction entries with
  | nil => exact List.Perm.refl _
  | cons head rest step =>
      obtain ⟨different, others⟩ := List.forall_mem_cons.mp absent
      by_cases less : name < head.1
      · simp only [insertOrdered, if_pos less]
        exact List.Perm.refl _
      · simp only [insertOrdered, if_neg less, if_neg different]
        exact ((step others).cons head).trans (List.Perm.swap ..)

def entriesTotal (weight : β → M) (entries : List (String × β)) : M :=
  (entries.map fun entry => weight entry.2).sum

theorem entries_total_cons (weight : β → M) (entry : String × β) (rest : List (String × β)) :
    entriesTotal weight (entry :: rest) = weight entry.2 + entriesTotal weight rest := by
  simp [entriesTotal]

-- What is replaced stands on the left, so the equation needs no subtraction.
theorem entries_total_insert (weight : β → M) (name : String) (value : β)
    {entries : List (String × β)} (ordered : Ordered entries) :
    entriesTotal weight (insertOrdered name value entries) +
        ((lookupName name entries).map weight).getD 0 =
      entriesTotal weight entries + weight value := by
  induction entries with
  | nil => simp [insertOrdered, lookupName, entriesTotal]
  | cons head rest step =>
      obtain ⟨key, old⟩ := head
      have above := List.pairwise_cons.mp ordered
      by_cases less : name < key
      · have absent : lookupName name ((key, old) :: rest) = none := by
          refine lookup_none_of_above _ fun entry member => ?_
          rcases List.mem_cons.mp member with here | later
          · exact here ▸ less
          · exact String.lt_trans less (above.1 entry later)
        rw [absent, insertOrdered, if_pos less, entries_total_cons]
        simp only [Option.map_none, Option.getD_none]
        abel
      · by_cases same : name = key
        · subst same
          rw [insertOrdered, if_neg less, if_pos rfl, entries_total_cons, entries_total_cons]
          simp only [lookupName, if_true, Option.map_some, Option.getD_some]
          abel
        · rw [insertOrdered, if_neg less, if_neg same, entries_total_cons, entries_total_cons,
            lookupName, if_neg same, add_assoc, step above.2, add_assoc]

namespace Table

def total (weight : β → M) (table : Table β) : M := entriesTotal weight table.entries

@[simp] theorem total_empty (weight : β → M) : (empty : Table β).total weight = 0 := rfl

theorem total_insert (weight : β → M) (table : Table β) (name : String) (value : β) :
    (table.insert name value).total weight + ((table.find? name).map weight).getD 0 =
      table.total weight + weight value :=
  entries_total_insert weight name value table.ordered

theorem total_insert_of_find (weight : β → M) {table : Table β} {name : String} {old : β}
    (found : table.find? name = some old) (value : β) :
    (table.insert name value).total weight + weight old = table.total weight + weight value := by
  have change := total_insert weight table name value
  rwa [found] at change

theorem total_insert_of_weightless (weight : β → M) {table : Table β} {name : String}
    (weightless : ∀ old, table.find? name = some old → weight old = 0) (value : β) :
    (table.insert name value).total weight = table.total weight + weight value := by
  have change := total_insert weight table name value
  cases found : table.find? name with
  | none => simpa [found] using change
  | some old => simpa [found, weightless old found] using change

theorem length_names_where (test : β → Bool) (table : Table β) :
    (table.namesWhere test).length = table.total fun value => (test value).toNat := by
  obtain ⟨entries, ordered⟩ := table
  simp only [namesWhere, total, List.length_map]
  clear ordered
  induction entries with
  | nil => rfl
  | cons head rest step =>
      rw [entries_total_cons, ← step]
      cases passes : test head.2 <;> simp [passes, Nat.add_comm]

def rename (label : String → String) (table : Table β) : Table β :=
  table.entries.foldr (fun entry renamed => renamed.insert (label entry.1) entry.2) .empty

variable {label : String → String}

theorem find_rename_of_fresh {name : String} (fresh : ∀ original, label original ≠ name)
    (table : Table β) : (table.rename label).find? name = none := by
  obtain ⟨entries, ordered⟩ := table
  simp only [rename]
  clear ordered
  induction entries with
  | nil => rfl
  | cons head rest step =>
      rw [List.foldr_cons, find_insert_of_ne _ _ (Ne.symm (fresh head.1)), step]

theorem find_rename (injective : Function.Injective label) (table : Table β) (name : String) :
    (table.rename label).find? (label name) = table.find? name := by
  obtain ⟨entries, ordered⟩ := table
  simp only [rename, find?]
  clear ordered
  induction entries with
  | nil => rfl
  | cons head rest step =>
      have later := step
      rw [← find?] at later
      rw [List.foldr_cons, ← find?, find_insert, later, lookupName]
      simp only [injective.eq_iff]

theorem eq_rename {table renamed : Table β} (injective : Function.Injective label)
    (kept : ∀ name, renamed.find? (label name) = table.find? name)
    (free : ∀ name, (∀ original, label original ≠ name) → renamed.find? name = none) :
    renamed = table.rename label := by
  ext1 name
  by_cases reached : ∃ original, label original = name
  · obtain ⟨original, rfl⟩ := reached
    rw [kept, find_rename injective]
  · have fresh := not_exists.mp reached
    rw [free name fresh, find_rename_of_fresh fresh]

theorem rename_insert (injective : Function.Injective label) (table : Table β) (name : String)
    (value : β) :
    (table.insert name value).rename label = (table.rename label).insert (label name) value := by
  refine (eq_rename injective (fun other => ?_) fun other fresh => ?_).symm
  · rw [find_insert, find_insert, find_rename injective]
    simp only [injective.eq_iff]
  · rw [find_insert_of_ne _ _ (Ne.symm (fresh name)), find_rename_of_fresh fresh]

-- Induction on the entries. A label that is set later is no label of an entry before it, because the
-- names in a table differ.
theorem entries_rename_perm (injective : Function.Injective label) (table : Table β) :
    (table.rename label).entries.Perm
      (table.entries.map fun entry => (label entry.1, entry.2)) := by
  obtain ⟨entries, ordered⟩ := table
  simp only [rename]
  induction entries with
  | nil => exact List.Perm.refl _
  | cons head rest step =>
      obtain ⟨above, restOrdered⟩ := List.pairwise_cons.mp ordered
      have sameEntries := step restOrdered
      refine (insert_ordered_perm (fun entry member => ?_) head.2).trans (sameEntries.cons _)
      obtain ⟨original, member', rfl⟩ := List.mem_map.mp (sameEntries.mem_iff.mp member)
      intro same
      exact String.lt_irrefl _ (injective same ▸ above original member')

theorem names_where_rename_perm (injective : Function.Injective label) (test : β → Bool)
    (table : Table β) :
    ((table.rename label).namesWhere test).Perm ((table.namesWhere test).map label) := by
  have selected := ((entries_rename_perm injective table).filter fun entry => test entry.2).map Prod.fst
  simpa only [namesWhere, List.filter_map, List.map_map, Function.comp_def] using selected

end Table

end LinearStore
