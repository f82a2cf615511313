import LinearStore.Json.Record
import LinearStore.Proofs.Json.Shape

set_option autoImplicit false

namespace LinearStore.Json

def Yields {α : Type} (property : α → Prop) (reader : Reader α) : Prop :=
  ∀ tokens value rest, reader tokens = .ok (value, rest) → property value

theorem except_bind_ok {ε α β : Type} {first : Except ε α} {next : α → Except ε β} {result : β}
    (done : first >>= next = .ok result) : ∃ value, first = .ok value ∧ next value = .ok result := by
  cases first with
  | error error => cases done
  | ok value => exact ⟨value, rfl, done⟩

theorem except_map_ok {ε α β : Type} {first : Except ε α} {f : α → β} {result : β}
    (done : first.map f = .ok result) : ∃ value, first = .ok value ∧ f value = result := by
  cases first with
  | error error => cases done
  | ok value =>
      cases done
      exact ⟨value, rfl, rfl⟩

theorem mismatch_not_ok {α : Type} {expected : String} {tokens : List Token} {result : α} :
    mismatch expected tokens ≠ .ok result := by
  unfold mismatch
  split <;> nofun

theorem yields_map {α β : Type} {property : α → Prop} {image : β → Prop} {reader : Reader α} {f : α → β}
    (yields : Yields property reader) (carries : ∀ value, property value → image (f value)) :
    Yields image fun tokens => (reader tokens).map fun found => (f found.1, found.2) := by
  intro tokens value rest read
  obtain ⟨found, taken, same⟩ := except_map_ok read
  cases same
  exact carries _ (yields tokens _ _ taken)

section

variable {α : Type} {property : α → Prop} {item : Reader α}

theorem yields_items (each : Yields property item) (bound : Nat) :
    Yields (fun items => ∀ value ∈ items, property value) (readItems item bound) := by
  induction bound with
  | zero => exact nofun
  | succ bound step =>
      intro tokens items rest read
      rw [readItems] at read
      obtain ⟨⟨first, left⟩, taken, read⟩ := except_bind_ok read
      have own := each tokens first left taken
      obtain ⟨continuation, _, read⟩ := except_bind_ok read
      cases continuation with
      | finished left =>
          cases read
          intro value member
          exact List.mem_singleton.mp member ▸ own
      | more left =>
          obtain ⟨⟨others, left⟩, followed, read⟩ := except_bind_ok read
          cases read
          intro value member
          rcases List.mem_cons.mp member with rfl | later
          · exact own
          · exact step _ _ _ followed value later

theorem yields_list_body (each : Yields property item) :
    Yields (fun items => ∀ value ∈ items, property value) (readListBody item) := by
  intro tokens items rest read
  obtain ⟨continuation, _, read⟩ := except_bind_ok read
  cases continuation with
  | finished left =>
      cases read
      exact nofun
  | more left => exact yields_items each left.length left items rest read

theorem yields_list {items : Nat → Reader α} (each : ∀ levels, Yields property (items levels))
    (levels : Nat) : Yields (fun values => ∀ value ∈ values, property value) (readList items levels) := by
  intro tokens values rest read
  unfold readList at read
  split at read
  · exact yields_list_body (each _) _ values rest read
  · cases read
  · exact absurd read mismatch_not_ok

end

section

variable {σ : Type} {property : σ → Prop} {member : σ → String → Reader σ}

theorem yields_members (keeps : ∀ state key, property state → Yields property (member state key))
    (bound : Nat) {state : σ} (holds : property state) :
    Yields property (readMembers member bound state) := by
  induction bound generalizing state with
  | zero => exact nofun
  | succ bound step =>
      intro tokens last rest read
      rw [readMembers] at read
      obtain ⟨⟨key, left⟩, _, read⟩ := except_bind_ok read
      obtain ⟨⟨next, left⟩, taken, read⟩ := except_bind_ok read
      have kept := keeps state key holds _ _ _ taken
      obtain ⟨continuation, _, read⟩ := except_bind_ok read
      cases continuation with
      | finished left =>
          cases read
          exact kept
      | more left => exact step kept left last rest read

theorem yields_object_body (keeps : ∀ state key, property state → Yields property (member state key))
    {state : σ} (holds : property state) : Yields property (readObjectBody member state) := by
  intro tokens last rest read
  obtain ⟨continuation, _, read⟩ := except_bind_ok read
  cases continuation with
  | finished left =>
      cases read
      exact holds
  | more left => exact yields_members keeps left.length holds left last rest read

end

theorem are_sorted_iff (items : List Json) :
    areSorted items = true ↔ ∀ item ∈ items, item.isSorted = true := by
  induction items with
  | nil => simp [areSorted]
  | cons item items step => simp [areSorted, step]

theorem members_sorted_iff (members : List (String × Json)) :
    membersSorted members = true ↔ ∀ member ∈ members, member.2.isSorted = true := by
  induction members with
  | nil => simp [membersSorted]
  | cons member members step => simp [membersSorted, step]

-- The members of an object while it is read: in order, and each of them a value in order.
def MembersInOrder (members : List (String × Json)) : Prop :=
  Ordered members ∧ ∀ member ∈ members, member.2.isSorted = true

theorem yields_member {value : Reader Json} (each : Yields (fun json => json.isSorted = true) value)
    (members : List (String × Json)) (key : String) (inOrder : MembersInOrder members) :
    Yields MembersInOrder (readMember value members key) := by
  intro tokens last rest read
  obtain ⟨left, _, read⟩ := except_bind_ok read
  obtain ⟨⟨found, left⟩, taken, read⟩ := except_bind_ok read
  cases read
  refine ⟨ordered_insert_ordered key found inOrder.1, fun member inside => ?_⟩
  rcases mem_insert_ordered inside with rfl | old
  · exact each _ _ _ taken
  · exact inOrder.2 member old

theorem yields_sorted (levels : Nat) : Yields (fun json => json.isSorted = true) (readValue levels) := by
  induction levels with
  | zero =>
      intro tokens value rest read
      unfold readValue at read
      split at read
      case h_1 scalar _ =>
        cases read
        cases scalar <;> rfl
      case h_4 => cases read
      case h_5 => exact absurd read mismatch_not_ok
      all_goals contradiction
  | succ levels step =>
      intro tokens value rest read
      unfold readValue at read
      split at read
      case h_1 scalar _ =>
        cases read
        cases scalar <;> rfl
      case h_2 same =>
        cases same
        have yields : Yields (fun json => json.isSorted = true) fun tokens =>
            (readListBody (readValue levels) tokens).map fun found => (array found.1, found.2) :=
          yields_map (yields_list_body step) fun items each => (are_sorted_iff items).mpr each
        exact yields _ value rest read
      case h_3 same =>
        cases same
        have body : Yields MembersInOrder (readObjectBody (readMember (readValue levels)) []) :=
          yields_object_body (yields_member step) ⟨List.Pairwise.nil, by simp⟩
        have yields : Yields (fun json => json.isSorted = true) fun tokens =>
            (readObjectBody (readMember (readValue levels)) [] tokens).map fun found =>
              (object found.1, found.2) := by
          refine yields_map body fun members inOrder => ?_
          rw [isSorted, Bool.and_eq_true, decide_eq_true_eq, members_sorted_iff]
          exact inOrder
        exact yields _ value rest read
      case h_4 => cases read
      case h_5 => exact absurd read mismatch_not_ok

namespace Record

variable {σ α : Type} {record : Record σ α} {kept : σ → Prop}

theorem yields_field (fields : ∀ field ∈ record.fields, ∀ state, kept state → Yields kept (field.read state))
    (state : σ) (key : String) (holds : kept state) : Yields kept (record.readField state key) := by
  intro tokens next rest read
  unfold readField at read
  split at read
  · rename_i field found
    split at read
    · cases read
    · split at read
      · cases read
      · exact fields field (List.mem_of_find?_eq_some found) state holds _ next rest read
  · split at read
    · cases read
    · obtain ⟨left, _, same⟩ := except_map_ok read
      cases same
      exact holds

theorem yields_fields {medium : Medium} {fields : List (Field σ)}
    (each : ∀ field ∈ fields, ∀ state, kept state → Yields kept (field.read state)) (count : Nat)
    {state : σ} (holds : kept state) : Yields kept (readFields medium count fields state) := by
  induction fields generalizing count state with
  | nil =>
      intro tokens last rest read
      obtain ⟨left, _, same⟩ := except_map_ok read
      cases same
      exact holds
  | cons field fields step =>
      have own := each field List.mem_cons_self state holds
      intro tokens last rest read
      cases fields with
      | nil =>
          obtain ⟨⟨next, left⟩, taken, read⟩ := except_bind_ok read
          obtain ⟨left, _, read⟩ := except_bind_ok read
          cases read
          exact own _ _ _ taken
      | cons second fields =>
          obtain ⟨⟨next, left⟩, taken, read⟩ := except_bind_ok read
          obtain ⟨continuation, _, read⟩ := except_bind_ok read
          have now := own _ _ _ taken
          cases continuation with
          | finished left =>
              cases read
              exact now
          | more left =>
              exact step (fun other inside => each other (List.mem_cons_of_mem _ inside)) (count + 1)
                now left last rest read

section

variable {property : α → Prop}
  (fields : ∀ field ∈ record.fields, ∀ state, kept state → Yields kept (field.read state))
  (starts : kept record.start)
  (completes : ∀ state value, kept state → record.complete state = .ok value → property value)

include fields starts completes

theorem yields_listed (medium : Medium) : Yields property (readListed medium record) := by
  intro tokens value rest read
  obtain ⟨continuation, _, read⟩ := except_bind_ok read
  cases continuation with
  | finished left =>
      obtain ⟨⟨state, left⟩, same, read⟩ := except_bind_ok read
      cases same
      simp only at read
      split at read
      · rename_i complete
        cases read
        exact completes _ _ starts complete
      · cases read
  | more left =>
      obtain ⟨⟨state, left⟩, found, read⟩ := except_bind_ok read
      have holds := yields_fields fields 0 starts _ _ _ found
      simp only at read
      split at read
      · rename_i complete
        cases read
        exact completes _ _ holds complete
      · cases read

theorem yields_named : Yields property (readNamed record) := by
  intro tokens value rest read
  obtain ⟨⟨state, left⟩, found, read⟩ := except_bind_ok read
  have holds := yields_object_body (yields_field fields) starts _ _ _ found
  simp only at read
  split at read
  · rename_i complete
    cases read
    exact completes _ _ holds complete
  · cases read

end

theorem yields_record (kept : σ → Prop) {medium : Medium} {records : Nat → Record σ α}
    {property : α → Prop}
    (fields : ∀ levels, ∀ field ∈ (records levels).fields, ∀ state, kept state →
      Yields kept (field.read state))
    (starts : ∀ levels, kept (records levels).start)
    (completes : ∀ levels state value, kept state → (records levels).complete state = .ok value →
      property value) (levels : Nat) : Yields property (read medium records levels) := by
  intro tokens value rest taken
  unfold read at taken
  split at taken
  · exact yields_listed (fields _) (starts _) (completes _) medium _ value rest taken
  · exact yields_named (fields _) (starts _) (completes _) _ value rest taken
  · cases taken
  · exact absurd taken mismatch_not_ok

end Record

end LinearStore.Json
