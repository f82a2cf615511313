import LinearStore.Proofs.Json.Reader

set_option autoImplicit false

namespace LinearStore.Json

def Settles {α : Type} (reader : Reader α) (document : Json) (result : Except ParseError α) : Prop :=
  ∀ rest, reader (document.withTokens rest) = result.map fun value => (value, rest)

def SettlesMember {σ : Type} (member : σ → String → Reader σ)
    (absorb : σ → String × Json → Except ParseError σ) (entry : String × Json) : Prop :=
  ∀ state rest, member state entry.1 (.colon :: entry.2.withTokens rest) =
    (absorb state entry).map fun next => (next, rest)

theorem arranged_members_eq_map (members : List (String × Json)) :
    arrangedMembers members = members.map fun member => (member.1, member.2.arranged) := by
  induction members with
  | nil => rfl
  | cons member members step => rw [arrangedMembers, List.map_cons, step]

section

variable {σ : Type} {member : σ → String → Reader σ}
  {absorb : σ → String × Json → Except ParseError σ}

theorem settles_members {members : List (String × Json)}
    (each : ∀ entry ∈ members, SettlesMember member absorb entry) (nonempty : members ≠ [])
    {bound : Nat} (enough : members.length ≤ bound) (state : σ) (rest : List Token) :
    readMembers member bound state (memberTokens members rest) =
      (members.foldlM absorb state).map fun last => (last, rest) := by
  induction members generalizing bound state with
  | nil => exact absurd rfl nonempty
  | cons entry members step =>
      cases bound with
      | zero => cases enough
      | succ bound =>
          have settled := each entry List.mem_cons_self state (laterMemberTokens members rest)
          rw [member_tokens_eq, readMembers, List.foldlM_cons]
          simp only [readKey, bind, Except.bind, settled]
          cases absorb state entry with
          | error error => rfl
          | ok next =>
              cases members with
              | nil => rfl
              | cons second members =>
                  obtain ⟨tokens, same⟩ := member_tokens_cons second.1 second.2 members rest
                  have later := step (fun other inside => each other (List.mem_cons_of_mem _ inside))
                    (List.cons_ne_nil _ _) (Nat.le_of_succ_le_succ enough) next
                  rw [same] at later
                  rw [laterMemberTokens, same]
                  simp only [Except.map, readContinuation, later, List.foldlM_cons]

theorem settles_object_body {members : List (String × Json)}
    (each : ∀ entry ∈ members, SettlesMember member absorb entry) (state : σ) (rest : List Token) :
    readObjectBody member state (memberTokens members rest) =
      (members.foldlM absorb state).map fun last => (last, rest) := by
  cases members with
  | nil => rfl
  | cons entry members =>
      have enough : (entry :: members).length ≤ (memberTokens (entry :: members) rest).length :=
        Nat.le_of_lt_succ (Nat.lt_of_le_of_lt (Nat.le_add_right _ _)
          (length_lt_member_tokens (entry :: members) rest))
      have read := settles_members each (List.cons_ne_nil _ _) enough state rest
      obtain ⟨following, tokens⟩ := member_tokens_cons entry.1 entry.2 members rest
      rw [tokens] at read ⊢
      simp only [readObjectBody, readStart, bind, Except.bind, read]

end

-- A text of a document: any text with its tokens, with whatever blanks between them and whatever
-- escapes inside of them.
def Spells (text : String) (document : Json) : Prop := tokenize text = document.tokens

instance (text : String) (document : Json) : Decidable (Spells text document) :=
  inferInstanceAs (Decidable (tokenize text = document.tokens))

theorem spells_compact {document : Json} (whole : document.isWhole = true) :
    Spells document.compact document :=
  tokenize_compact whole

section

variable {α : Type} {reader : Nat → Reader α} {document : Json} {text : String}
  (spelt : Spells text document)

include spelt

theorem parse_with_of_settles {result : Except ParseError α}
    (settles : Settles (reader levelLimit) document result) : parseWith reader text = result := by
  have read : reader levelLimit document.tokens = result.map fun value => (value, []) := settles []
  rw [parseWith, spelt, read]
  cases result <;> rfl

theorem parse_with_of_reads {value : α} (reads : Reads (reader levelLimit) document value) :
    parseWith reader text = .ok value :=
  parse_with_of_settles spelt reads

end

end LinearStore.Json
