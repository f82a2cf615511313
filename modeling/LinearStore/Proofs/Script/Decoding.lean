import LinearStore.Proofs.Json.Document
import LinearStore.Script.Decoding

set_option autoImplicit false

namespace LinearStore

open Json (Reads Absorbs)

-- The payloads of a step: what it writes into an array or into a slot of its own.
def Argument.payload? {α : Type} : Argument α → Option α
  | binding _ | word _ => none
  | payload value => some value

def Step.payloads {α : Type} (step : Step α) : List α := step.arguments.filterMap Argument.payload?

def Script.payloads {α : Type} (script : Script α) : List α :=
  script.config.defaultValue :: script.steps.flatMap Step.payloads

theorem Argument.of_json_json (argument : Argument Json) :
    Argument.ofJson argument.type argument.json = .ok argument := by
  cases argument with
  | binding name => rfl
  | payload value => rfl
  | word value =>
      have below : (value.toNat : Int) < Int.ofNat UInt64.size :=
        Int.ofNat_lt.mpr value.toNat_lt
      simp only [type, json, Json.nat, ofJson]
      rw [if_pos ⟨Int.natCast_nonneg _, below⟩, Int.toNat_natCast, UInt64.ofNat_toNat]

namespace Op

theorem field_names_nodup (op : Op) : (op.fields.map Prod.fst).Nodup := by
  cases op <;> decide

theorem op_not_mem_field_names (op : Op) : "op" ∉ op.fields.map Prod.fst := by
  cases op <;> decide

end Op

namespace Step

def members (step : Step Json) : List (String × Json) :=
  (step.op.fields.map Prod.fst).zip (step.arguments.map Argument.json)

theorem json_eq (step : Step Json) :
    step.json = .object (("op", .string step.op.text) :: step.members) := rfl

theorem length_arguments (step : Step Json) : step.arguments.length = step.op.fields.length := by
  have sameLength := congrArg List.length step.types_arguments
  rw [List.length_map, List.length_map] at sameLength
  exact sameLength

theorem names_zip {β : Type} (step : Step Json) {values : List β}
    (sameLength : values.length = step.arguments.length) :
    ((step.op.fields.map Prod.fst).zip values).map Prod.fst = step.op.fields.map Prod.fst := by
  refine List.map_fst_zip (Nat.le_of_eq ?_)
  rw [List.length_map, sameLength, step.length_arguments]

theorem names_members (step : Step Json) :
    step.members.map Prod.fst = step.op.fields.map Prod.fst :=
  step.names_zip (List.length_map _)

theorem mem_members {step : Step Json} {member : String × Json} (inside : member ∈ step.members) :
    member.1 ∈ step.op.fields.map Prod.fst ∧ ∃ argument ∈ step.arguments, argument.json = member.2 :=
  ⟨(List.of_mem_zip inside).1, List.mem_map.mp (List.of_mem_zip inside).2⟩

theorem named_arguments {fields : List (String × FieldType)} (distinct : (fields.map Prod.fst).Nodup)
    (pending : List (String × FieldType)) (known : ∀ field ∈ pending, field ∈ fields)
    (once : (pending.map Prod.fst).Nodup) (arguments : List (Argument Json))
    (types : arguments.map Argument.type = pending.map Prod.snd)
    (seen : List (String × Argument Json))
    (unseen : ∀ field ∈ pending, lookupName field.1 seen = none) :
    namedArguments fields seen ((pending.map Prod.fst).zip (arguments.map Argument.json)) =
      .ok (seen ++ (pending.map Prod.fst).zip arguments) := by
  induction pending generalizing arguments seen with
  | nil => rw [List.map_nil, List.zip_nil_left, List.zip_nil_left, List.append_nil, namedArguments]
  | cons field pending step =>
      cases arguments with
      | nil => cases types
      | cons argument arguments =>
          obtain ⟨name, type⟩ := field
          simp only [List.map_cons, List.cons.injEq] at types
          obtain ⟨rfl, types⟩ := types
          rw [List.map_cons, List.nodup_cons] at once
          have found : lookupName name fields = some argument.type :=
            lookup_of_mem distinct (known _ List.mem_cons_self)
          have fresh : lookupName name seen = none := unseen _ List.mem_cons_self
          have unseenLater : ∀ field ∈ pending,
              lookupName field.1 (seen ++ [(name, argument)]) = none := fun field inside =>
            lookup_append_of_ne argument (unseen field (List.mem_cons_of_mem _ inside))
              fun same => once.1 (same ▸ (List.mem_map_of_mem inside : field.1 ∈ pending.map Prod.fst))
          have later := step (fun field inside => known field (List.mem_cons_of_mem _ inside)) once.2
            arguments types (seen ++ [(name, argument)]) unseenLater
          simp only [List.map_cons, List.zip_cons_cons, namedArguments, found, fresh,
            Argument.of_json_json, Option.isSome_none, Bool.false_eq_true, if_false, later,
            List.append_assoc, List.singleton_append]

theorem collect_arguments (seen : List (String × Argument Json)) (fields : List (String × FieldType))
    (arguments : List (Argument Json)) (sameLength : arguments.length = fields.length)
    (held : ∀ entry ∈ (fields.map Prod.fst).zip arguments, lookupName entry.1 seen = some entry.2) :
    collectArguments seen fields = .ok arguments := by
  induction fields generalizing arguments with
  | nil =>
      rw [List.eq_nil_of_length_eq_zero sameLength]
      rfl
  | cons field fields step =>
      cases arguments with
      | nil => cases sameLength
      | cons argument arguments =>
          rw [List.map_cons, List.zip_cons_cons] at held
          have found : lookupName field.1 seen = some argument := held _ List.mem_cons_self
          have later := step arguments (Nat.succ.inj sameLength)
            fun entry inside => held entry (List.mem_cons_of_mem _ inside)
          simp only [collectArguments, found, later, Except.map]

theorem of_members_members (step : Step Json) : ofMembers step.op step.members = .ok step := by
  have distinct := step.op.field_names_nodup
  have named := named_arguments distinct step.op.fields (fun _ inside => inside) distinct
    step.arguments step.types_arguments [] (fun _ _ => rfl)
  have once : (((step.op.fields.map Prod.fst).zip step.arguments).map Prod.fst).Nodup := by
    rw [step.names_zip rfl]
    exact distinct
  have collected := collect_arguments ((step.op.fields.map Prod.fst).zip step.arguments)
    step.op.fields step.arguments step.length_arguments
    fun entry inside => lookup_of_mem once inside
  simp only [ofMembers, members, named, List.nil_append, bind, Except.bind, collected, ofConverted,
    of_arguments_arguments]

theorem absorbs_members {levels : Nat} {members : List (String × Json)}
    (each : ∀ member ∈ members, member.1 ≠ "op" ∧ Reads (Json.readValue levels) member.2 member.2)
    (op : Option Op) (seen : List (String × Json)) :
    Absorbs (readDraftMember levels) ⟨op, seen⟩ members ⟨op, seen ++ members⟩ := by
  induction members generalizing seen with
  | nil =>
      rw [List.append_nil]
      exact .nil
  | cons member members step =>
      obtain ⟨different, reads⟩ := each member List.mem_cons_self
      have later := step (fun other inside => each other (List.mem_cons_of_mem _ inside))
        (seen ++ [member])
      rw [List.append_assoc, List.singleton_append] at later
      refine .cons (fun rest => ?_) later
      have taken := reads rest
      simp only [readDraftMember, if_neg different, Json.readColon, bind, Except.bind, taken]

theorem absorbs_op (levels : Nat) (op : Op) (rest : List Token) :
    readDraftMember levels {} "op" (.colon :: (Json.string op.text).withTokens rest) =
      .ok (⟨some op, []⟩, rest) := by
  simp only [readDraftMember, if_true, Option.isSome_none, Bool.false_eq_true, if_false,
    Json.readColon, bind, Except.bind, readOp, Json.withTokens, Json.readString, Op.of_text_text]

section

variable {step : Step Json}

theorem json_whole (whole : ∀ value ∈ step.payloads, value.isWhole = true) :
    step.json.isWhole = true := by
  have each : ∀ argument ∈ step.arguments, argument.json.isWhole = true := by
    intro argument inside
    cases argument with
    | binding name => rfl
    | payload value => exact whole value (List.mem_filterMap.mpr ⟨_, inside, rfl⟩)
    | word value => exact Json.word_whole value
  rw [json_eq, Json.isWhole, Json.membersWhole, Json.isWhole, Bool.true_and, Json.members_whole_iff]
  intro member inside
  obtain ⟨-, argument, given, same⟩ := mem_members inside
  exact same ▸ each argument given

theorem reads_member (sorted : ∀ value ∈ step.payloads, value.isSorted = true) {levels : Nat}
    (shallow : step.json.depth ≤ levels + 1) {member : String × Json}
    (inside : member ∈ step.members) : Reads (Json.readValue levels) member.2 member.2 := by
  rw [json_eq, Json.depth, Json.membersDepth, Json.depth] at shallow
  have within : member.2.depth ≤ levels := by
    have bound := Json.depth_le_members_depth inside
    omega
  obtain ⟨-, argument, given, same⟩ := mem_members inside
  refine Json.reads_sorted_value ?_ within
  rw [← same]
  cases argument with
  | binding name => rfl
  | word value => rfl
  | payload value => exact sorted value (List.mem_filterMap.mpr ⟨_, given, rfl⟩)

theorem reads_json (sorted : ∀ value ∈ step.payloads, value.isSorted = true) {levels : Nat}
    (shallow : step.json.depth ≤ levels) : Reads (read levels) step.json step := by
  cases levels with
  | zero => cases shallow
  | succ levels =>
      intro rest
      have named : ∀ member ∈ step.members, member.1 ≠ "op" ∧
          Reads (Json.readValue levels) member.2 member.2 := fun member inside =>
        ⟨fun same => step.op.op_not_mem_field_names (same ▸ (mem_members inside).1),
          reads_member sorted shallow inside⟩
      have absorbs : Absorbs (readDraftMember levels) {}
          (("op", .string step.op.text) :: step.members) ⟨some step.op, step.members⟩ :=
        .cons (absorbs_op levels step.op) (absorbs_members named (some step.op) [])
      rw [json_eq, Json.withTokens, read]
      simp only [readNamed, Json.read_object_body absorbs rest, bind, Except.bind, of_members_members]

end

end Step

namespace Limits

theorem json_whole (limits : Limits) : limits.json.isWhole = true := by
  rw [json, Json.isWhole, Json.membersWhole, Json.word_whole]
  rfl

theorem reads_json (medium : Json.Medium) (limits : Limits) {levels : Nat}
    (shallow : limits.json.depth ≤ levels) : Reads (read medium levels) limits.json limits := by
  cases levels with
  | zero => cases shallow
  | succ levels =>
      have given := record.read_field maxSlotsField none rfl rfl
        (Json.reads_map (Json.reads_word limits.maxSlots) some)
      exact Json.Record.reads_record medium (fun _ => record) (.cons given .nil) rfl

end Limits

namespace Config

theorem json_whole {config : Config Json} (whole : config.defaultValue.isWhole = true) :
    config.json.isWhole = true := by
  simp only [json, Json.isWhole, Json.membersWhole, whole, config.limits.json_whole, Bool.and_self]

theorem reads_json (medium : Json.Medium) {config : Config Json}
    (sorted : config.defaultValue.isSorted = true) {levels : Nat}
    (shallow : config.json.depth ≤ levels) : Reads (read medium levels) config.json config := by
  cases levels with
  | zero => cases shallow
  | succ levels =>
      simp only [json, Json.depth, Json.membersDepth] at shallow
      have value : Reads (Json.readValue levels) config.defaultValue config.defaultValue :=
        Json.reads_sorted_value sorted (by omega)
      have limits : Reads (Limits.read medium levels) config.limits.json config.limits :=
        Limits.reads_json medium config.limits (by omega)
      have first := (record medium levels).read_field (Draft.defaultValueField levels) {} rfl rfl
        (Json.reads_map value fun found => ({ defaultValue := some found } : Draft))
      have second := (record medium levels).read_field (Draft.limitsField medium levels)
        { defaultValue := some config.defaultValue } rfl rfl
        (Json.reads_map limits fun found =>
          ({ defaultValue := some config.defaultValue, limits := some found } : Draft))
      have third := (record medium levels).read_field Draft.strictFreeField
        { defaultValue := some config.defaultValue, limits := some config.limits } rfl rfl
        (Json.reads_map (Json.reads_bool config.strictFree) fun found =>
          (⟨some config.defaultValue, some config.limits, some found⟩ : Draft))
      exact Json.Record.reads_record medium (record medium)
        (.cons first (.cons second (.cons third .nil))) rfl

end Config

namespace Script

variable {script : Script Json}

theorem json_whole (whole : ∀ value ∈ script.payloads, value.isWhole = true) :
    script.json.isWhole = true := by
  have config := Config.json_whole (whole _ List.mem_cons_self)
  have steps : Json.areWhole (script.steps.map Step.json) = true := by
    refine (Json.are_whole_iff _).mpr fun item inside => ?_
    obtain ⟨step, given, rfl⟩ := List.mem_map.mp inside
    exact Step.json_whole fun value held =>
      whole value (List.mem_cons_of_mem _ (List.mem_flatMap.mpr ⟨step, given, held⟩))
  simp only [json, Json.isWhole, Json.membersWhole, config, steps, Bool.and_self]

theorem reads_steps {steps : List (Step Json)}
    (sorted : ∀ step ∈ steps, ∀ value ∈ step.payloads, value.isSorted = true) {levels : Nat}
    (shallow : Json.itemsDepth (steps.map Step.json) ≤ levels) :
    List.Forall₂ (Reads (Step.read levels)) (steps.map Step.json) steps := by
  induction steps with
  | nil => exact .nil
  | cons step steps rest =>
      rw [List.map_cons, Json.itemsDepth, Nat.max_le] at shallow
      exact .cons (Step.reads_json (sorted step List.mem_cons_self) shallow.1)
        (rest (fun other inside => sorted other (List.mem_cons_of_mem _ inside)) shallow.2)

theorem reads_json (sorted : ∀ value ∈ script.payloads, value.isSorted = true) {levels : Nat}
    (shallow : script.json.depth ≤ levels) : Reads (read levels) script.json script := by
  match levels with
  | 0 => cases shallow
  | 1 =>
      simp only [json, Json.depth, Json.membersDepth] at shallow
      omega
  | levels + 2 =>
      simp only [json, Json.depth, Json.membersDepth] at shallow
      have config : Reads (Config.read .text (levels + 1)) script.config.json script.config :=
        Config.reads_json .text (sorted _ List.mem_cons_self) (by omega)
      have each : List.Forall₂ (Reads (Step.read levels)) (script.steps.map Step.json) script.steps :=
        reads_steps (fun step given value held => sorted value
          (List.mem_cons_of_mem _ (List.mem_flatMap.mpr ⟨step, given, held⟩))) (by omega)
      have first := (record (levels + 1)).read_field (Draft.configField (levels + 1)) {} rfl rfl
        (Json.reads_map config fun found => ({ config := some found } : Draft))
      have second := (record (levels + 1)).read_field (Draft.stepsField (levels + 1))
        { config := some script.config } rfl rfl
        (Json.reads_map (Json.reads_list Step.read each) fun found =>
          (⟨some script.config, some found⟩ : Draft))
      exact Json.Record.reads_record .text record (.cons first (.cons second .nil)) rfl

end Script

section

variable {α : Type} {json : α → Json}

namespace Slot

theorem json_whole (whole : ∀ content, (json content).isWhole = true) (slot : Slot α) :
    (slot.json json).isWhole = true := by
  cases slot with
  | empty => rfl
  | full content => rw [Slot.json, Json.isWhole, Json.membersWhole, whole, Json.membersWhole, Bool.and_self]

theorem depth_json_le {levels : Nat} (shallow : ∀ content, (json content).depth ≤ levels)
    (slot : Slot α) : (slot.json json).depth ≤ levels + 1 := by
  cases slot with
  | empty => exact Nat.zero_le _
  | full content =>
      rw [Slot.json, Json.depth, Json.membersDepth, Json.membersDepth, Nat.max_zero]
      exact Nat.succ_le_succ (shallow content)

theorem reads_json {value : Reader α} (reads : ∀ content, Reads value (json content) content)
    (slot : Slot α) {levels : Nat} (shallow : (slot.json json).depth ≤ levels) :
    Reads (read value levels) (slot.json json) slot := by
  cases slot with
  | empty =>
      intro rest
      cases levels <;> rfl
  | full content =>
      cases levels with
      | zero => cases shallow
      | succ levels =>
          intro rest
          have taken := reads content (.closing .object :: rest)
          simp only [Slot.json, Json.withTokens, Json.memberTokens, read, readNamed, Json.readStart,
            Json.readKey, ofVariant, if_true, Json.readColon, readContent, taken, bind, Except.bind,
            Except.map]

end Slot

namespace Sequence

theorem json_whole (whole : ∀ element, (json element).isWhole = true) (sequence : Sequence α) :
    (sequence.json json).isWhole = true := by
  rw [Sequence.json, Json.isWhole, Json.are_whole_iff]
  intro item inside
  obtain ⟨element, -, rfl⟩ := List.mem_map.mp inside
  exact whole element

theorem depth_json_le {levels : Nat} (shallow : ∀ element, (json element).depth ≤ levels)
    (sequence : Sequence α) : (sequence.json json).depth ≤ levels + 1 := by
  refine Nat.succ_le_succ (Json.items_depth_le fun item inside => ?_)
  obtain ⟨element, -, rfl⟩ := List.mem_map.mp inside
  exact shallow element

theorem reads_json {value : Reader α} (reads : ∀ element, Reads value (json element) element)
    (sequence : Sequence α) {levels : Nat} (shallow : (sequence.json json).depth ≤ levels) :
    Reads (read value levels) (sequence.json json) sequence := by
  cases levels with
  | zero => cases shallow
  | succ levels =>
      have each : List.Forall₂ (Reads value) (sequence.elements.map json) sequence.elements := by
        rw [List.forall₂_map_left_iff, List.forall₂_same]
        exact fun element _ => reads element
      exact Json.reads_map (Json.reads_list (fun _ => value) each) Sequence.mk

end Sequence

end

end LinearStore
