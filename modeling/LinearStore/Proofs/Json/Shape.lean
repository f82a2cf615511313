import LinearStore.Json.Basic
import LinearStore.Proofs.Table
import Mathlib.Algebra.Group.Int.Defs

set_option autoImplicit false

namespace LinearStore

-- Integers that a word of 64 bits can hold, with a sign or without.
def Number.isWord : Number → Bool
  | .int value => -(2 ^ 63) ≤ value && value < 2 ^ 64
  | .float _ => false

namespace Json

mutual

def isWhole : Json → Bool
  | null | bool _ | string _ => true
  | number n => n.isWord
  | array items => areWhole items
  | object members => membersWhole members

def areWhole : List Json → Bool
  | [] => true
  | item :: items => item.isWhole && areWhole items

def membersWhole : List (String × Json) → Bool
  | [] => true
  | (_, value) :: members => value.isWhole && membersWhole members

end

mutual

def numbers : Json → List Number
  | null | bool _ | string _ => []
  | number n => [n]
  | array items => itemsNumbers items
  | object members => membersNumbers members

def itemsNumbers : List Json → List Number
  | [] => []
  | item :: items => item.numbers ++ itemsNumbers items

def membersNumbers : List (String × Json) → List Number
  | [] => []
  | (_, value) :: members => value.numbers ++ membersNumbers members

end

mutual

def mapNumbers (f : Number → Number) : Json → Json
  | number n => number (f n)
  | array items => array (mapItems f items)
  | object members => object (mapMembers f members)
  | value => value

def mapItems (f : Number → Number) : List Json → List Json
  | [] => []
  | item :: items => item.mapNumbers f :: mapItems f items

def mapMembers (f : Number → Number) : List (String × Json) → List (String × Json)
  | [] => []
  | (name, value) :: members => (name, value.mapNumbers f) :: mapMembers f members

end

mutual

-- Whether the members of every object in a value are ordered by name, each name being there once.
def isSorted : Json → Bool
  | null | bool _ | number _ | string _ => true
  | array items => areSorted items
  | object members => decide (Ordered members) && membersSorted members

def areSorted : List Json → Bool
  | [] => true
  | item :: items => item.isSorted && areSorted items

def membersSorted : List (String × Json) → Bool
  | [] => true
  | (_, value) :: members => value.isSorted && membersSorted members

end

mutual

def depth : Json → Nat
  | null | bool _ | number _ | string _ => 0
  | array items => itemsDepth items + 1
  | object members => membersDepth members + 1

def itemsDepth : List Json → Nat
  | [] => 0
  | item :: items => max item.depth (itemsDepth items)

def membersDepth : List (String × Json) → Nat
  | [] => 0
  | (_, value) :: members => max value.depth (membersDepth members)

end

mutual

def arranged : Json → Json
  | array items => array (arrangedItems items)
  | object members => ofMembers (arrangedMembers members)
  | value => value

def arrangedItems : List Json → List Json
  | [] => []
  | item :: items => item.arranged :: arrangedItems items

def arrangedMembers : List (String × Json) → List (String × Json)
  | [] => []
  | (name, value) :: members => (name, value.arranged) :: arrangedMembers members

end

mutual

theorem arranged_of_is_sorted (value : Json) (sorted : value.isSorted = true) :
    value.arranged = value := by
  cases value with
  | null | bool _ | number _ | string _ => rfl
  | array items => rw [arranged, arranged_items_of_are_sorted items sorted]
  | object members =>
      rw [isSorted, Bool.and_eq_true, decide_eq_true_eq] at sorted
      rw [arranged, arranged_members_of_are_sorted members sorted.2, ofMembers,
        fold_insert_ordered [] members sorted.1, List.nil_append]

theorem arranged_items_of_are_sorted (items : List Json) (sorted : areSorted items = true) :
    arrangedItems items = items := by
  cases items with
  | nil => rfl
  | cons item items =>
      rw [areSorted, Bool.and_eq_true] at sorted
      rw [arrangedItems, arranged_of_is_sorted item sorted.1,
        arranged_items_of_are_sorted items sorted.2]

theorem arranged_members_of_are_sorted (members : List (String × Json))
    (sorted : membersSorted members = true) : arrangedMembers members = members := by
  match members with
  | [] => rfl
  | (name, value) :: members =>
      rw [membersSorted, Bool.and_eq_true] at sorted
      rw [arrangedMembers, arranged_of_is_sorted value sorted.1,
        arranged_members_of_are_sorted members sorted.2]

end

mutual

theorem map_numbers_id (value : Json) : value.mapNumbers id = value := by
  cases value with
  | null | bool _ | number _ | string _ => rfl
  | array items => rw [mapNumbers, map_items_id items]
  | object members => rw [mapNumbers, map_members_id members]

theorem map_items_id (items : List Json) : mapItems id items = items := by
  cases items with
  | nil => rfl
  | cons item items => rw [mapItems, map_numbers_id item, map_items_id items]

theorem map_members_id (members : List (String × Json)) : mapMembers id members = members := by
  match members with
  | [] => rfl
  | (name, value) :: members => rw [mapMembers, map_numbers_id value, map_members_id members]

end

theorem names_map_members (f : Number → Number) (members : List (String × Json)) :
    (mapMembers f members).map Prod.fst = members.map Prod.fst := by
  induction members with
  | nil => rfl
  | cons member members step => rw [mapMembers, List.map_cons, List.map_cons, step]

section

variable (f : Number → Number)

mutual

theorem map_numbers_sorted (value : Json) (sorted : value.isSorted = true) :
    (value.mapNumbers f).isSorted = true := by
  cases value with
  | null | bool _ | number _ | string _ => rfl
  | array items => exact map_items_sorted items sorted
  | object members =>
      rw [isSorted, Bool.and_eq_true, decide_eq_true_eq] at sorted
      rw [mapNumbers, isSorted, Bool.and_eq_true, decide_eq_true_eq]
      refine ⟨?_, map_members_sorted members sorted.2⟩
      have names := List.pairwise_map.mpr sorted.1
      rw [← names_map_members f members] at names
      exact List.pairwise_map.mp names

theorem map_items_sorted (items : List Json) (sorted : areSorted items = true) :
    areSorted (mapItems f items) = true := by
  match items with
  | [] => rfl
  | item :: items =>
      rw [areSorted, Bool.and_eq_true] at sorted
      rw [mapItems, areSorted, map_numbers_sorted item sorted.1, map_items_sorted items sorted.2]
      rfl

theorem map_members_sorted (members : List (String × Json)) (sorted : membersSorted members = true) :
    membersSorted (mapMembers f members) = true := by
  match members with
  | [] => rfl
  | (name, value) :: members =>
      rw [membersSorted, Bool.and_eq_true] at sorted
      rw [mapMembers, membersSorted, map_numbers_sorted value sorted.1, map_members_sorted members sorted.2]
      rfl

end

end

theorem word_whole (value : UInt64) : (nat value.toNat).isWhole = true := by
  have below := value.toNat_lt
  simp only [nat, isWhole, Number.isWord, Bool.and_eq_true, decide_eq_true_eq]
  omega

theorem int_whole (value : Int64) : (number (.int value.toInt)).isWhole = true := by
  have least := value.le_toInt
  have greatest := value.toInt_lt
  simp only [isWhole, Number.isWord, Bool.and_eq_true, decide_eq_true_eq]
  omega

theorem are_whole_iff (items : List Json) :
    areWhole items = true ↔ ∀ item ∈ items, item.isWhole = true := by
  induction items with
  | nil => simp [areWhole]
  | cons item items step => simp [areWhole, step]

theorem members_whole_iff (members : List (String × Json)) :
    membersWhole members = true ↔ ∀ member ∈ members, member.2.isWhole = true := by
  induction members with
  | nil => simp [membersWhole]
  | cons member members step => simp [membersWhole, step]

mutual

theorem numbers_whole (value : Json) (whole : value.isWhole = true) :
    ∀ number ∈ value.numbers, number.isWord = true := by
  intro n member
  cases value with
  | null | bool _ | string _ => cases member
  | number _ => exact List.mem_singleton.mp member ▸ whole
  | array items => exact items_numbers_whole items whole n member
  | object members => exact members_numbers_whole members whole n member

theorem items_numbers_whole (items : List Json) (whole : areWhole items = true) :
    ∀ number ∈ itemsNumbers items, number.isWord = true := by
  intro n member
  match items with
  | [] => cases member
  | item :: items =>
      rw [areWhole, Bool.and_eq_true] at whole
      rcases List.mem_append.mp member with first | later
      · exact numbers_whole item whole.1 n first
      · exact items_numbers_whole items whole.2 n later

theorem members_numbers_whole (members : List (String × Json)) (whole : membersWhole members = true) :
    ∀ number ∈ membersNumbers members, number.isWord = true := by
  intro n member
  match members with
  | [] => cases member
  | (_, value) :: members =>
      rw [membersWhole, Bool.and_eq_true] at whole
      rcases List.mem_append.mp member with first | later
      · exact numbers_whole value whole.1 n first
      · exact members_numbers_whole members whole.2 n later

end

theorem items_depth_le {items : List Json} {bound : Nat}
    (each : ∀ item ∈ items, item.depth ≤ bound) : itemsDepth items ≤ bound := by
  induction items with
  | nil => exact Nat.zero_le _
  | cons item items step =>
      rw [itemsDepth, Nat.max_le]
      exact ⟨each item List.mem_cons_self,
        step fun other inside => each other (List.mem_cons_of_mem _ inside)⟩

theorem depth_le_members_depth {members : List (String × Json)} {member : String × Json}
    (inside : member ∈ members) : member.2.depth ≤ membersDepth members := by
  induction members with
  | nil => cases inside
  | cons head members step =>
      rw [membersDepth]
      rcases List.mem_cons.mp inside with rfl | later
      · exact Nat.le_max_left _ _
      · exact Nat.le_trans (step later) (Nat.le_max_right _ _)

end Json

end LinearStore
