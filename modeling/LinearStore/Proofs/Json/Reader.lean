import LinearStore.Json.Reader
import LinearStore.Proofs.Json.Conversion
import Mathlib.Data.List.Forall2

set_option autoImplicit false

namespace LinearStore

namespace Json

-- A reader takes a document for a value, whatever follows the document.
def Reads {α : Type} (reader : Reader α) (document : Json) (value : α) : Prop :=
  ∀ rest, reader (document.withTokens rest) = .ok (value, rest)

-- What an object's members make of a state, one after the other.
inductive Absorbs {σ : Type} (member : σ → String → Reader σ) : σ → List (String × Json) → σ → Prop where
  | nil {state : σ} : Absorbs member state [] state
  | cons {state next last : σ} {key : String} {value : Json} {members : List (String × Json)}
      (reads : ∀ rest, member state key (.colon :: value.withTokens rest) = .ok (next, rest))
      (later : Absorbs member next members last) :
      Absorbs member state ((key, value) :: members) last

theorem start_of_value (value : Json) (rest : List Token) :
    readStart .list (value.withTokens rest) = .ok (.more (value.withTokens rest)) := by
  cases value <;> rfl

theorem continuation_of_value (value : Json) (rest : List Token) :
    readContinuation .list (.comma :: value.withTokens rest) =
      .ok (.more (value.withTokens rest)) := by
  cases value <;> rfl

theorem item_tokens_cons (item : Json) (items : List Json) (rest : List Token) :
    ∃ later, itemTokens (item :: items) rest = item.withTokens later := by
  cases items with
  | nil => exact ⟨_, rfl⟩
  | cons next items => exact ⟨_, rfl⟩

theorem member_tokens_cons (key : String) (value : Json) (members : List (String × Json))
    (rest : List Token) :
    ∃ later, memberTokens ((key, value) :: members) rest =
      .scalar (.string key) :: .colon :: value.withTokens later := by
  cases members with
  | nil => exact ⟨_, rfl⟩
  | cons next members => exact ⟨_, rfl⟩

-- No value nests more deeply than it has tokens.
mutual

theorem depth_lt_with_tokens (value : Json) (rest : List Token) :
    value.depth + rest.length < (value.withTokens rest).length := by
  cases value with
  | null | bool _ | number _ | string _ =>
      simp only [depth, withTokens, List.length_cons]
      omega
  | array items =>
      have inside := items_depth_lt_tokens items rest
      simp only [depth, withTokens, List.length_cons]
      omega
  | object members =>
      have inside := members_depth_lt_tokens members rest
      simp only [depth, withTokens, List.length_cons]
      omega

theorem items_depth_lt_tokens (items : List Json) (rest : List Token) :
    itemsDepth items + rest.length < (itemTokens items rest).length := by
  match items with
  | [] =>
      simp only [itemsDepth, itemTokens, List.length_cons]
      omega
  | [item] =>
      have inside := depth_lt_with_tokens item (.closing .list :: rest)
      simp only [itemsDepth, itemTokens, List.length_cons] at inside ⊢
      omega
  | item :: next :: items =>
      have inside := depth_lt_with_tokens item (.comma :: itemTokens (next :: items) rest)
      have others := items_depth_lt_tokens (next :: items) rest
      simp only [itemsDepth, itemTokens, List.length_cons] at inside others ⊢
      omega

theorem members_depth_lt_tokens (members : List (String × Json)) (rest : List Token) :
    membersDepth members + rest.length < (memberTokens members rest).length := by
  match members with
  | [] =>
      simp only [membersDepth, memberTokens, List.length_cons]
      omega
  | [(_, value)] =>
      have inside := depth_lt_with_tokens value (.closing .object :: rest)
      simp only [membersDepth, memberTokens, List.length_cons] at inside ⊢
      omega
  | (_, value) :: next :: members =>
      have inside := depth_lt_with_tokens value (.comma :: memberTokens (next :: members) rest)
      have others := members_depth_lt_tokens (next :: members) rest
      simp only [membersDepth, memberTokens, List.length_cons] at inside others ⊢
      omega

end

theorem length_lt_item_tokens (items : List Json) (rest : List Token) :
    items.length + rest.length < (itemTokens items rest).length + 1 := by
  match items with
  | [] =>
      rw [itemTokens, List.length_cons, List.length_nil]
      omega
  | [item] =>
      have inside := depth_lt_with_tokens item (.closing .list :: rest)
      simp only [itemTokens, List.length_cons, List.length_nil] at inside ⊢
      omega
  | item :: next :: items =>
      have inside := depth_lt_with_tokens item (.comma :: itemTokens (next :: items) rest)
      have others := length_lt_item_tokens (next :: items) rest
      simp only [itemTokens, List.length_cons] at inside others ⊢
      omega

theorem length_lt_member_tokens (members : List (String × Json)) (rest : List Token) :
    members.length + rest.length < (memberTokens members rest).length + 1 := by
  match members with
  | [] =>
      rw [memberTokens, List.length_cons, List.length_nil]
      omega
  | [(name, value)] =>
      have inside := depth_lt_with_tokens value (.closing .object :: rest)
      simp only [memberTokens, List.length_cons, List.length_nil] at inside ⊢
      omega
  | (name, value) :: next :: members =>
      have inside := depth_lt_with_tokens value (.comma :: memberTokens (next :: members) rest)
      have others := length_lt_member_tokens (next :: members) rest
      simp only [memberTokens, List.length_cons] at inside others ⊢
      omega

section

variable {α : Type} {item : Reader α}

theorem read_items {items : List Json} {values : List α} (each : List.Forall₂ (Reads item) items values)
    (nonempty : items ≠ []) {bound : Nat} (enough : items.length ≤ bound) (rest : List Token) :
    readItems item bound (itemTokens items rest) = .ok (values, rest) := by
  induction each generalizing bound with
  | nil => exact absurd rfl nonempty
  | @cons first value items values reads others step =>
      cases bound with
      | zero => cases enough
      | succ bound =>
          cases others with
          | nil =>
              have taken := reads (.closing .list :: rest)
              rw [itemTokens, readItems]
              simp only [taken, bind, Except.bind, readContinuation, if_true]
          | @cons next _ items _ _ _ =>
              obtain ⟨later, tokens⟩ := item_tokens_cons next items rest
              have following := step (List.cons_ne_nil _ _) (Nat.le_of_succ_le_succ enough)
              rw [tokens] at following
              have taken := reads (.comma :: next.withTokens later)
              rw [itemTokens, tokens, readItems]
              simp only [taken, bind, Except.bind, continuation_of_value, following]

theorem read_list_body {items : List Json} {values : List α}
    (each : List.Forall₂ (Reads item) items values) (rest : List Token) :
    readListBody item (itemTokens items rest) = .ok (values, rest) := by
  cases each with
  | nil => rfl
  | @cons first value items values reads others =>
      have enough : (first :: items).length ≤ (itemTokens (first :: items) rest).length :=
        Nat.le_of_lt_succ
          (Nat.lt_of_le_of_lt (Nat.le_add_right _ _) (length_lt_item_tokens (first :: items) rest))
      have read := read_items (.cons reads others) (List.cons_ne_nil _ _) enough rest
      obtain ⟨later, tokens⟩ := item_tokens_cons first items rest
      rw [tokens] at read ⊢
      simp only [readListBody, start_of_value, bind, Except.bind, read]

end

section

variable {σ : Type} {member : σ → String → Reader σ}

theorem read_members {members : List (String × Json)} {state last : σ}
    (absorbs : Absorbs member state members last) (nonempty : members ≠ []) {bound : Nat}
    (enough : members.length ≤ bound) (rest : List Token) :
    readMembers member bound state (memberTokens members rest) = .ok (last, rest) := by
  induction absorbs generalizing bound with
  | nil => exact absurd rfl nonempty
  | @cons state next last key value members reads others step =>
      cases bound with
      | zero => cases enough
      | succ bound =>
          cases others with
          | nil =>
              rw [memberTokens, readMembers]
              simp only [readKey, reads, bind, Except.bind, readContinuation, if_true]
          | @cons _ after _ name content members _ _ =>
              obtain ⟨later, tokens⟩ := member_tokens_cons name content members rest
              have following := step (List.cons_ne_nil _ _) (Nat.le_of_succ_le_succ enough)
              rw [tokens] at following
              rw [memberTokens, tokens, readMembers]
              simp only [readKey, reads, bind, Except.bind, readContinuation, following]

theorem read_object_body {members : List (String × Json)} {state last : σ}
    (absorbs : Absorbs member state members last) (rest : List Token) :
    readObjectBody member state (memberTokens members rest) = .ok (last, rest) := by
  cases absorbs with
  | nil => rfl
  | @cons _ next _ key value members reads later =>
      have enough : ((key, value) :: members).length ≤
          (memberTokens ((key, value) :: members) rest).length :=
        Nat.le_of_lt_succ (Nat.lt_of_le_of_lt (Nat.le_add_right _ _)
          (length_lt_member_tokens ((key, value) :: members) rest))
      have read := read_members (.cons reads later) (List.cons_ne_nil _ _) enough rest
      obtain ⟨following, tokens⟩ := member_tokens_cons key value members rest
      rw [tokens] at read ⊢
      simp only [readObjectBody, readStart, bind, Except.bind, read]

end

theorem absorbs_values {value : Reader Json} {members : List (String × Json)}
    (each : ∀ member ∈ members, Reads value member.2 member.2.arranged)
    (seen : List (String × Json)) :
    Absorbs (readMember value) seen members
      ((arrangedMembers members).foldl
        (fun sorted member => insertOrdered member.1 member.2 sorted) seen) := by
  induction members generalizing seen with
  | nil => exact .nil
  | cons member members step =>
      refine .cons (fun rest => ?_)
        (step (fun other inside => each other (List.mem_cons_of_mem _ inside)) _)
      have taken := each member List.mem_cons_self rest
      simp only [readMember, readColon, bind, Except.bind, taken]

mutual

theorem reads_value (value : Json) {levels : Nat} (shallow : value.depth ≤ levels) :
    Reads (readValue levels) value value.arranged := by
  cases value with
  | null | bool _ | number _ | string _ =>
      intro rest
      cases levels <;> rfl
  | array items =>
      cases levels with
      | zero => cases shallow
      | succ levels =>
          intro rest
          have each := reads_items items (Nat.le_of_succ_le_succ shallow)
          rw [withTokens, readValue, read_list_body each rest]
          rfl
  | object members =>
      cases levels with
      | zero => cases shallow
      | succ levels =>
          intro rest
          have each := reads_members members (Nat.le_of_succ_le_succ shallow)
          rw [withTokens, readValue, read_object_body (absorbs_values each []) rest]
          rfl

theorem reads_items (items : List Json) {levels : Nat} (shallow : itemsDepth items ≤ levels) :
    List.Forall₂ (Reads (readValue levels)) items (arrangedItems items) := by
  cases items with
  | nil => exact .nil
  | cons item items =>
      rw [itemsDepth, Nat.max_le] at shallow
      exact .cons (reads_value item shallow.1) (reads_items items shallow.2)

theorem reads_members (members : List (String × Json)) {levels : Nat}
    (shallow : membersDepth members ≤ levels) :
    ∀ member ∈ members, Reads (readValue levels) member.2 member.2.arranged := by
  match members with
  | [] =>
      intro member inside
      cases inside
  | (_, value) :: members =>
      rw [membersDepth, Nat.max_le] at shallow
      have first := reads_value value shallow.1
      have others := reads_members members shallow.2
      intro member inside
      rcases List.mem_cons.mp inside with rfl | later
      · exact first
      · exact others member later

end

theorem reads_sorted_value {value : Json} (sorted : value.isSorted = true) {levels : Nat}
    (shallow : value.depth ≤ levels) : Reads (readValue levels) value value := by
  have reads := reads_value value shallow
  rw [arranged_of_is_sorted value sorted] at reads
  exact reads

theorem parse_with_compact {α : Type} {reader : Nat → Reader α} {document : Json} {value : α}
    (whole : document.isWhole = true) (reads : Reads (reader levelLimit) document value) :
    parseWith reader document.compact = .ok value := by
  have read : reader levelLimit document.tokens = .ok (value, []) := reads []
  simp only [parseWith, tokenize_compact whole, read, bind, Except.bind]

theorem parse_compact {value : Json} (whole : value.isWhole = true)
    (shallow : value.depth ≤ levelLimit) : parse value.compact = .ok value.arranged :=
  parse_with_compact whole (reads_value value shallow)

end Json

end LinearStore
