import LinearStore.Proofs.Script.Settling
import Mathlib.Data.List.Nodup
import Mathlib.Data.List.Perm.Basic

set_option autoImplicit false

namespace LinearStore

open Json (failData except_bind_ok except_map_ok)

theorem lookup_is_some_iff {β : Type} {name : String} {entries : List (String × β)} :
    (lookupName name entries).isSome = true ↔ name ∈ entries.map Prod.fst := by
  induction entries with
  | nil => simp [lookupName]
  | cons head rest ih =>
      rw [lookupName, List.map_cons, List.mem_cons, ← ih]
      split <;> simp [*]

theorem lookup_append_single {β : Type} {name key : String} (value : β)
    (entries : List (String × β)) :
    lookupName name (entries ++ [(key, value)]) = none ↔
      lookupName name entries = none ∧ name ≠ key := by
  induction entries with
  | nil => simp [lookupName]
  | cons head rest ih =>
      rw [List.cons_append, lookupName, lookupName]
      split
      · simp
      · exact ih

theorem perm_of_lookup {β : Type} {first second : List (String × β)}
    (firstOnce : (first.map Prod.fst).Nodup) (secondOnce : (second.map Prod.fst).Nodup)
    (same : ∀ name value, lookupName name first = some value ↔ lookupName name second = some value) :
    first.Perm second := by
  have distinct : ∀ {entries : List (String × β)}, (entries.map Prod.fst).Nodup → entries.Nodup :=
    fun once => List.Nodup.of_map _ once
  refine (List.perm_ext_iff_of_nodup (distinct firstOnce) (distinct secondOnce)).mpr fun entry => ?_
  have found : ∀ {entries : List (String × β)}, (entries.map Prod.fst).Nodup →
      (entry ∈ entries ↔ lookupName entry.1 entries = some entry.2) :=
    fun once => ⟨fun member => lookup_of_mem once member, fun found => mem_of_lookup found⟩
  rw [found firstOnce, found secondOnce, same]

namespace Step

theorem op_of_arguments {op : Op} {arguments : List (Argument Json)} {step : Step Json}
    (made : ofArguments? op arguments = some step) : step.op = op := by
  unfold ofArguments? at made
  split at made
  all_goals cases made
  all_goals rfl

theorem of_converted_eq_ok_iff {op : Op} {converted : Except DataError (List (Argument Json))}
    {step : Step Json} :
    ofConverted op converted = .ok step ↔ step.op = op ∧ converted = .ok step.arguments := by
  constructor
  · intro made
    unfold ofConverted at made
    split at made
    · cases made
    · split at made
      · rename_i found
        cases made
        exact ⟨op_of_arguments found, by rw [arguments_of_arguments found]⟩
      · cases made
  · rintro ⟨rfl, rfl⟩
    rw [ofConverted, of_arguments_arguments]

def entries (step : Step Json) : List (String × Argument Json) :=
  (step.op.fields.map Prod.fst).zip step.arguments

def written (entry : String × Argument Json) : String × Json := (entry.1, entry.2.json)

theorem members_eq (step : Step Json) : step.members = step.entries.map written := by
  rw [members, entries, List.zip_map_right]
  rfl

theorem names_entries (step : Step Json) :
    step.entries.map Prod.fst = step.op.fields.map Prod.fst :=
  step.names_zip rfl

section Named

variable {fields : List (String × FieldType)} {members : List (String × Json)}

def fieldMembers (fields : List (String × FieldType)) (members : List (String × Json)) :
    List (String × Json) :=
  members.filter fun member => (lookupName member.1 fields).isSome

-- What fields take as their arguments: a name that they have, and a value of its type.
def Typed (fields : List (String × FieldType)) (entry : String × Argument Json) : Prop :=
  lookupName entry.1 fields = some entry.2.type

theorem gathered_of_named_arguments {seen named : List (String × Argument Json)}
    (converted : namedArguments fields seen members = .ok named) :
    ∃ later, named = seen ++ later ∧ fieldMembers fields members = later.map written ∧
      (∀ entry ∈ later, Typed fields entry ∧ lookupName entry.1 seen = none) ∧
      (later.map Prod.fst).Nodup := by
  induction members generalizing seen with
  | nil =>
      cases converted
      exact ⟨[], (List.append_nil _).symm, rfl, nofun, List.nodup_nil⟩
  | cons member rest ih =>
      rw [namedArguments] at converted
      split at converted
      · rename_i unknown
        obtain ⟨later, same, gathered⟩ := ih converted
        exact ⟨later, same, by rwa [fieldMembers, List.filter_cons_of_neg (by simp [unknown])]⟩
      · rename_i type known
        split at converted
        · cases converted
        · rename_i fresh
          split at converted
          · cases converted
          · rename_i argument made
            obtain ⟨rightType, same⟩ := Argument.of_json_eq_ok_iff.mp made
            have typed : Typed fields (member.1, argument) := by rw [Typed, rightType, known]
            obtain ⟨later, rfl, gathered, each, once⟩ := ih converted
            refine ⟨(member.1, argument) :: later, by simp, ?_, ?_, ?_⟩
            · rw [fieldMembers, List.filter_cons_of_pos (by simp [known]), List.map_cons, written,
                same]
              exact congrArg (member :: ·) gathered
            · refine List.forall_mem_cons.mpr ⟨⟨typed, by simpa using fresh⟩, ?_⟩
              exact fun entry inside =>
                ⟨(each entry inside).1, (lookup_append_single ..).mp (each entry inside).2 |>.1⟩
            · refine List.nodup_cons.mpr ⟨fun inside => ?_, once⟩
              obtain ⟨entry, member, same⟩ := List.mem_map.mp inside
              exact ((lookup_append_single ..).mp (each entry member).2).2 same

theorem named_arguments_of_gathered {seen later : List (String × Argument Json)}
    (gathered : fieldMembers fields members = later.map written)
    (each : ∀ entry ∈ later, Typed fields entry ∧ lookupName entry.1 seen = none)
    (once : (later.map Prod.fst).Nodup) :
    namedArguments fields seen members = .ok (seen ++ later) := by
  induction members generalizing seen later with
  | nil => rw [List.map_eq_nil_iff.mp gathered.symm, List.append_nil, namedArguments]
  | cons member rest ih =>
      rw [namedArguments]
      cases known : lookupName member.1 fields with
      | none =>
          rw [fieldMembers, List.filter_cons_of_neg (by simp [known])] at gathered
          exact ih gathered each once
      | some type =>
          rw [fieldMembers, List.filter_cons_of_pos (by simp [known])] at gathered
          cases later with
          | nil => cases gathered
          | cons entry later =>
              rw [List.map_cons, List.cons.injEq] at gathered
              obtain ⟨rfl, gathered⟩ := gathered
              obtain ⟨⟨typed, unseen⟩, others⟩ := List.forall_mem_cons.mp each
              rw [List.map_cons, List.nodup_cons] at once
              have made : Argument.ofJson type entry.2.json = .ok entry.2 :=
                Argument.of_json_eq_ok_iff.mpr ⟨Option.some.inj (typed.symm.trans known), rfl⟩
              have unseenLater : ∀ other ∈ later,
                  Typed fields other ∧ lookupName other.1 (seen ++ [entry]) = none := by
                intro other inside
                have different : other.1 ≠ entry.1 := fun same =>
                  once.1 (same ▸ List.mem_map_of_mem inside)
                exact ⟨(others other inside).1,
                  (lookup_append_single ..).mpr ⟨(others other inside).2, different⟩⟩
              have following := ih gathered unseenLater once.2
              simp only [written, unseen, Option.isSome_none, Bool.false_eq_true, if_false, made]
              rw [following, List.append_assoc, List.singleton_append]

end Named

section Collected

variable {seen : List (String × Argument Json)} {fields : List (String × FieldType)}

theorem found_of_collect_arguments {arguments : List (Argument Json)}
    (collected : collectArguments seen fields = .ok arguments) :
    ∀ entry ∈ (fields.map Prod.fst).zip arguments, lookupName entry.1 seen = some entry.2 := by
  induction fields generalizing arguments with
  | nil => exact nofun
  | cons field fields ih =>
      rw [collectArguments] at collected
      split at collected
      · cases collected
      · rename_i argument found
        obtain ⟨others, later, rfl⟩ := except_map_ok collected
        exact List.forall_mem_cons.mpr ⟨found, ih later⟩

theorem collect_arguments_missing {field : String} (known : field ∈ fields.map Prod.fst)
    (missing : lookupName field seen = none)
    (others : ∀ name ∈ fields.map Prod.fst, name ≠ field → lookupName name seen ≠ none) :
    collectArguments seen fields = .error (.missingField field) := by
  induction fields with
  | nil => cases known
  | cons head fields ih =>
      obtain ⟨first, later⟩ := List.forall_mem_cons.mp others
      rw [collectArguments]
      by_cases here : head.1 = field
      · rw [here, missing]
      · obtain ⟨argument, found⟩ := Option.ne_none_iff_exists'.mp (first here)
        have inside : field ∈ fields.map Prod.fst :=
          (List.mem_cons.mp known).resolve_left (Ne.symm here)
        rw [found, ih inside later]
        rfl

end Collected

section Members

variable {step : Step Json} {members : List (String × Json)}

theorem typed_entries (step : Step Json) : ∀ entry ∈ step.entries, Typed step.op.fields entry := by
  intro entry inside
  have typed : (entry.1, entry.2.type) ∈
      (step.op.fields.map Prod.fst).zip (step.arguments.map Argument.type) := by
    rw [List.zip_map_right]
    exact List.mem_map_of_mem inside
  rw [step.types_arguments, ← List.zip_of_prod rfl rfl] at typed
  exact lookup_of_mem step.op.field_names_nodup typed

theorem named_arguments_of_perm {entries : List (String × Argument Json)}
    (within : ∀ entry ∈ entries, entry ∈ step.entries) (once : (entries.map Prod.fst).Nodup)
    (same : (fieldMembers step.op.fields members).Perm (entries.map written)) :
    ∃ named, named.Perm entries ∧ namedArguments step.op.fields [] members = .ok named := by
  obtain ⟨named, gathered, perm⟩ :=
    (congrFun (congrFun (List.eq_map_comp_perm written) _) _).mpr same
  refine ⟨named, perm, named_arguments_of_gathered gathered (fun entry inside => ?_) ?_⟩
  · exact ⟨step.typed_entries entry (within entry (perm.mem_iff.mp inside)), rfl⟩
  · exact (perm.map Prod.fst).nodup_iff.mpr once

theorem once_entries (step : Step Json) : (step.entries.map Prod.fst).Nodup := by
  rw [names_entries]
  exact step.op.field_names_nodup

theorem of_members_eq_ok_iff {op : Op} :
    ofMembers op members = .ok step ↔
      step.op = op ∧ (fieldMembers op.fields members).Perm step.members := by
  rw [ofMembers, of_converted_eq_ok_iff, members_eq]
  constructor
  · rintro ⟨rfl, converted⟩
    obtain ⟨named, given, collected⟩ := except_bind_ok converted
    obtain ⟨later, rfl, gathered, each, once⟩ := gathered_of_named_arguments given
    have found := found_of_collect_arguments collected
    refine ⟨rfl, gathered ▸ List.Perm.map written (perm_of_lookup once step.once_entries ?_)⟩
    intro name argument
    constructor
    · intro held
      have known : name ∈ step.entries.map Prod.fst := by
        rw [names_entries, ← lookup_is_some_iff, (each _ (mem_of_lookup held)).1, Option.isSome_some]
      obtain ⟨⟨_, given⟩, inside, rfl⟩ := List.mem_map.mp known
      rw [lookup_of_mem step.once_entries inside, ← held, found _ inside]
    · exact fun held => found _ (mem_of_lookup held)
  · rintro ⟨rfl, same⟩
    obtain ⟨named, perm, given⟩ :=
      named_arguments_of_perm (fun _ inside => inside) step.once_entries same
    have once : (named.map Prod.fst).Nodup := (perm.map Prod.fst).nodup_iff.mpr step.once_entries
    have collected := collect_arguments named step.op.fields step.arguments step.length_arguments
      fun entry inside => lookup_of_mem once (perm.mem_iff.mpr inside)
    refine ⟨rfl, ?_⟩
    simp only [given, bind, Except.bind, collected]

theorem of_members_missing {field : String} (known : field ∈ step.op.fields.map Prod.fst)
    (same : (fieldMembers step.op.fields members).Perm
      (step.members.filter fun member => member.1 != field)) :
    ofMembers step.op members = failData (.missingField field) := by
  have kept : step.members.filter (fun member => member.1 != field) =
      (step.entries.filter fun entry => entry.1 != field).map written := by
    rw [members_eq, List.filter_map]
    rfl
  have once : ((step.entries.filter fun entry => entry.1 != field).map Prod.fst).Nodup :=
    step.once_entries.sublist (List.filter_sublist.map Prod.fst)
  rw [kept] at same
  obtain ⟨named, perm, given⟩ :=
    named_arguments_of_perm (fun _ inside => (List.mem_filter.mp inside).1) once same
  have namedOnce : (named.map Prod.fst).Nodup := (perm.map Prod.fst).nodup_iff.mpr once
  have collected : collectArguments named step.op.fields = .error (.missingField field) := by
    refine collect_arguments_missing known ?_ fun name inside different => ?_
    · cases held : lookupName field named with
      | none => rfl
      | some argument =>
          have member := (List.mem_filter.mp (perm.mem_iff.mp (mem_of_lookup held))).2
          simp at member
    · rw [← names_entries] at inside
      obtain ⟨entry, member, rfl⟩ := List.mem_map.mp inside
      have held : entry ∈ named :=
        perm.mem_iff.mpr (List.mem_filter.mpr ⟨member, by simpa using different⟩)
      rw [lookup_of_mem namedOnce held]
      exact Option.some_ne_none _
  rw [ofMembers, given]
  simp only [bind, Except.bind, collected, ofConverted]

end Members

section Lists

theorem listed_arguments_eq_ok_iff {op : Op} {place : Nat} {fields : List (String × FieldType)}
    {items : List Json} {arguments : List (Argument Json)} :
    listedArguments op place fields items = .ok arguments ↔
      arguments.map Argument.type = fields.map Prod.snd ∧ items = arguments.map Argument.json := by
  induction fields generalizing place items arguments with
  | nil =>
      cases items with
      | nil => cases arguments <;> simp [listedArguments]
      | cons item items => cases arguments <;> simp [listedArguments]
  | cons field fields ih =>
      cases items with
      | nil => cases arguments <;> simp [listedArguments]
      | cons item items =>
          rw [listedArguments]
          constructor
          · intro listed
            split at listed
            · cases listed
            · rename_i argument made
              obtain ⟨others, later, rfl⟩ := except_map_ok listed
              obtain ⟨rightType, same⟩ := Argument.of_json_eq_ok_iff.mp made
              obtain ⟨types, rfl⟩ := ih.mp later
              rw [List.map_cons, List.map_cons, List.map_cons, rightType, types, same]
              exact ⟨rfl, rfl⟩
          · rintro ⟨types, same⟩
            cases arguments with
            | nil => cases same
            | cons argument arguments =>
                rw [List.map_cons, List.map_cons, List.cons.injEq] at types
                rw [List.map_cons, List.cons.injEq] at same
                have made := Argument.of_json_eq_ok_iff.mpr ⟨types.1, same.1.symm⟩
                simp only [made, ih.mpr ⟨types.2, same.2⟩, Except.map]

theorem of_list_eq_ok_iff {items : List Json} {step : Step Json} :
    ofList items = .ok step ↔ items = .string step.op.text :: step.arguments.map Argument.json := by
  cases items with
  | nil => exact iff_of_false nofun nofun
  | cons first items =>
      rw [ofList, List.cons.injEq]
      constructor
      · intro made
        obtain ⟨op, named, made⟩ := except_bind_ok made
        obtain ⟨rfl, listed⟩ := of_converted_eq_ok_iff.mp made
        exact ⟨Op.of_json_eq_ok_iff.mp named, (listed_arguments_eq_ok_iff.mp listed).2⟩
      · rintro ⟨rfl, rfl⟩
        have listed : listedArguments step.op 0 step.op.fields (step.arguments.map Argument.json) =
            .ok step.arguments := listed_arguments_eq_ok_iff.mpr ⟨step.types_arguments, rfl⟩
        simp only [Op.of_json_eq_ok_iff.mpr rfl, bind, Except.bind]
        exact of_converted_eq_ok_iff.mpr ⟨rfl, listed⟩

end Lists

end Step

end LinearStore
