set_option autoImplicit false

namespace LinearStore

def insertOrdered {β : Type} (name : String) (value : β) : List (String × β) → List (String × β)
  | [] => [(name, value)]
  | (key, old) :: rest =>
      if name < key then (name, value) :: (key, old) :: rest
      else if name = key then (name, value) :: rest
      else (key, old) :: insertOrdered name value rest

def Ordered {β : Type} (entries : List (String × β)) : Prop :=
  entries.Pairwise fun a b => a.1 < b.1

theorem mem_insert_ordered {β : Type} {name : String} {value : β} {entries : List (String × β)}
    {entry : String × β} (member : entry ∈ insertOrdered name value entries) :
    entry = (name, value) ∨ entry ∈ entries := by
  induction entries with
  | nil => exact Or.inl (by simpa [insertOrdered] using member)
  | cons head rest step =>
      simp only [insertOrdered] at member
      split at member
      · simpa using member
      · split at member
        · rcases List.mem_cons.mp member with same | old
          · exact Or.inl same
          · exact Or.inr (List.mem_cons_of_mem _ old)
        · rcases List.mem_cons.mp member with same | old
          · exact Or.inr (same ▸ List.mem_cons_self)
          · exact (step old).imp id (List.mem_cons_of_mem _)

theorem lt_of_not_lt_of_ne {a b : String} (notLess : ¬ a < b) (different : a ≠ b) : b < a :=
  Classical.byContradiction fun notGreater =>
    different (String.le_antisymm (String.not_lt.mp notGreater) (String.not_lt.mp notLess))

theorem ordered_insert_ordered {β : Type} (name : String) (value : β)
    {entries : List (String × β)} (ordered : Ordered entries) :
    Ordered (insertOrdered name value entries) := by
  induction entries with
  | nil => simp [insertOrdered, Ordered]
  | cons head rest step =>
      have above := List.pairwise_cons.mp ordered
      simp only [insertOrdered]
      split
      · rename_i less
        refine List.pairwise_cons.mpr ⟨fun entry member => ?_, ordered⟩
        rcases List.mem_cons.mp member with same | old
        · exact same ▸ less
        · exact String.lt_trans less (above.1 entry old)
      · rename_i notLess
        split
        · rename_i same
          exact List.pairwise_cons.mpr ⟨fun entry member => same ▸ above.1 entry member, above.2⟩
        · rename_i different
          refine List.pairwise_cons.mpr ⟨fun entry member => ?_, step above.2⟩
          rcases mem_insert_ordered member with same | old
          · exact same ▸ lt_of_not_lt_of_ne notLess different
          · exact above.1 entry old

-- What a list holds under a name: the first entry counts.
def lookupName {β : Type} (name : String) : List (String × β) → Option β
  | [] => none
  | (key, value) :: rest => if name = key then some value else lookupName name rest

structure Table (β : Type) where
  entries : List (String × β)
  ordered : Ordered entries

namespace Table

def empty {β : Type} : Table β := ⟨[], List.Pairwise.nil⟩

def find? {β : Type} (table : Table β) (name : String) : Option β :=
  lookupName name table.entries

def insert {β : Type} (table : Table β) (name : String) (value : β) : Table β :=
  ⟨insertOrdered name value table.entries, ordered_insert_ordered name value table.ordered⟩

def erase {β : Type} (table : Table β) (name : String) : Table β :=
  ⟨table.entries.filter fun entry => entry.1 != name, table.ordered.filter _⟩

def names {β : Type} (table : Table β) : List String := table.entries.map Prod.fst

def map {β γ : Type} (f : β → γ) (table : Table β) : Table γ :=
  ⟨table.entries.map fun entry => (entry.1, f entry.2), by
    have ordered := table.ordered
    unfold Ordered at *
    exact List.pairwise_map.mpr ordered⟩

def namesWhere {β : Type} (test : β → Bool) (table : Table β) : List String :=
  (table.entries.filter fun entry => test entry.2).map Prod.fst

end Table

theorem lookup_insert_ordered {β : Type} (name other : String) (value : β)
    (entries : List (String × β)) :
    lookupName other (insertOrdered name value entries) =
      if other = name then some value else lookupName other entries := by
  induction entries with
  | nil => simp [insertOrdered, lookupName]
  | cons head rest step =>
      obtain ⟨key, old⟩ := head
      by_cases less : name < key
      · simp [insertOrdered, lookupName, less]
      · by_cases equal : name = key
        · subst equal
          rw [insertOrdered, if_neg (String.lt_irrefl name), if_pos rfl]
          by_cases same : other = name <;> simp [lookupName, same]
        · by_cases here : other = key
          · subst here
            simp [insertOrdered, lookupName, less, equal, Ne.symm equal]
          · simp [insertOrdered, lookupName, less, equal, here, step]

theorem lookup_none_of_above {β : Type} (entries : List (String × β)) {name : String}
    (above : ∀ entry ∈ entries, name < entry.1) : lookupName name entries = none := by
  induction entries with
  | nil => rfl
  | cons head rest step =>
      have missed : name ≠ head.1 := fun same =>
        String.lt_irrefl _ (same ▸ above head List.mem_cons_self)
      simp [lookupName, missed, step fun entry member => above entry (List.mem_cons_of_mem _ member)]

theorem lookup_erase {β : Type} (name other : String) (entries : List (String × β)) :
    lookupName other (entries.filter fun entry => entry.1 != name) =
      if other = name then none else lookupName other entries := by
  induction entries with
  | nil => simp [lookupName]
  | cons head rest step =>
      by_cases erased : head.1 = name
      · rw [List.filter_cons_of_neg (by simpa using erased), step]
        by_cases same : other = name <;> simp [lookupName, erased, same]
      · by_cases here : other = head.1
        · simp [lookupName, here, erased]
        · simp [lookupName, here, erased, step]

theorem lookup_map {β γ : Type} (f : β → γ) (name : String) (entries : List (String × β)) :
    lookupName name (entries.map fun entry => (entry.1, f entry.2)) =
      (lookupName name entries).map f := by
  induction entries with
  | nil => rfl
  | cons head rest step =>
      by_cases here : name = head.1 <;> simp [lookupName, here, step]

theorem mem_of_lookup {β : Type} {name : String} {value : β} {entries : List (String × β)}
    (found : lookupName name entries = some value) : (name, value) ∈ entries := by
  induction entries with
  | nil => cases found
  | cons head rest step =>
      rw [lookupName] at found
      split at found
      · rename_i same
        cases found
        exact same ▸ List.mem_cons_self
      · exact List.mem_cons_of_mem _ (step found)

theorem entries_eq_of_lookup {β : Type} {left right : List (String × β)}
    (leftOrdered : Ordered left) (rightOrdered : Ordered right)
    (same : ∀ name, lookupName name left = lookupName name right) : left = right := by
  induction left generalizing right with
  | nil =>
      cases right with
      | nil => rfl
      | cons head rest => simpa [lookupName] using same head.1
  | cons head rest step =>
      cases right with
      | nil => simpa [lookupName] using same head.1
      | cons other tail =>
          have restAbove := List.pairwise_cons.mp leftOrdered
          have tailAbove := List.pairwise_cons.mp rightOrdered
          have sameName : head.1 = other.1 := by
            refine Classical.byContradiction fun different => ?_
            by_cases less : head.1 < other.1
            · have look := same head.1
              rw [lookup_none_of_above (other :: tail) fun entry member => by
                rcases List.mem_cons.mp member with here | old
                · exact here ▸ less
                · exact String.lt_trans less (tailAbove.1 entry old)] at look
              simp [lookupName] at look
            · have greater := lt_of_not_lt_of_ne less different
              have look := same other.1
              rw [lookup_none_of_above (head :: rest) fun entry member => by
                rcases List.mem_cons.mp member with here | old
                · exact here ▸ greater
                · exact String.lt_trans greater (restAbove.1 entry old)] at look
              simp [lookupName] at look
          have sameHead : head = other := by
            have look := same head.1
            simp only [lookupName, sameName, if_true, Option.some.injEq] at look
            exact Prod.ext sameName look
          subst sameHead
          refine congrArg (head :: ·) (step restAbove.2 tailAbove.2 fun name => ?_)
          by_cases here : name = head.1
          · rw [here, lookup_none_of_above _ restAbove.1, lookup_none_of_above _ tailAbove.1]
          · simpa [lookupName, here] using same name

namespace Table

@[simp] theorem find_empty {β : Type} (name : String) : (empty : Table β).find? name = none := rfl

theorem find_insert {β : Type} (table : Table β) (name other : String) (value : β) :
    (table.insert name value).find? other = if other = name then some value else table.find? other :=
  lookup_insert_ordered name other value table.entries

@[simp] theorem find_insert_self {β : Type} (table : Table β) (name : String) (value : β) :
    (table.insert name value).find? name = some value := by
  simp [find_insert]

theorem find_insert_of_ne {β : Type} (table : Table β) {name other : String} (value : β)
    (different : other ≠ name) : (table.insert name value).find? other = table.find? other := by
  simp [find_insert, different]

@[ext] theorem ext {β : Type} {left right : Table β}
    (same : ∀ name, left.find? name = right.find? name) : left = right := by
  obtain ⟨entries, ordered⟩ := left
  obtain ⟨entries', ordered'⟩ := right
  have equal : entries = entries' := entries_eq_of_lookup ordered ordered' same
  subst equal
  rfl

theorem find_erase {β : Type} (table : Table β) (name other : String) :
    (table.erase name).find? other = if other = name then none else table.find? other :=
  lookup_erase name other table.entries

@[simp] theorem find_map {β γ : Type} (f : β → γ) (table : Table β) (name : String) :
    (table.map f).find? name = (table.find? name).map f :=
  lookup_map f name table.entries

@[simp] theorem map_empty {β γ : Type} (f : β → γ) : (empty : Table β).map f = empty := rfl

@[simp] theorem map_insert {β γ : Type} (f : β → γ) (table : Table β) (name : String) (value : β) :
    (table.insert name value).map f = (table.map f).insert name (f value) := by
  ext1 other
  by_cases here : other = name <;> simp [find_insert, here]

theorem insert_of_find {β : Type} {table : Table β} {name : String} {value : β}
    (found : table.find? name = some value) : table.insert name value = table := by
  ext1 other
  by_cases here : other = name
  · rw [here, find_insert_self, found]
  · rw [find_insert_of_ne _ _ here]

@[simp] theorem insert_erase {β : Type} (table : Table β) (name : String) (value : β) :
    (table.erase name).insert name value = table.insert name value := by
  ext1 other
  by_cases here : other = name <;> simp [find_insert, find_erase, here]

theorem erase_insert_of_ne {β : Type} (table : Table β) {name other : String} (value : β)
    (different : other ≠ name) :
    (table.erase name).insert other value = (table.insert other value).erase name := by
  ext1 third
  by_cases here : third = name
  · simp [find_insert, find_erase, here, Ne.symm different]
  · simp [find_insert, find_erase, here]

theorem mem_names_where {β : Type} {table : Table β} {test : β → Bool} {name : String} {value : β}
    (found : table.find? name = some value) (passes : test value = true) :
    name ∈ table.namesWhere test :=
  List.mem_map_of_mem (List.mem_filter.mpr ⟨mem_of_lookup found, passes⟩)

theorem names_where_map {β γ : Type} (f : β → γ) (test : γ → Bool) (table : Table β) :
    (table.map f).namesWhere test = table.namesWhere fun value => test (f value) := by
  simp [namesWhere, map, List.filter_map, Function.comp_def]

end Table

end LinearStore
