import LinearStore.Proofs.Json.Skip
import LinearStore.Proofs.Script.Decoding
import Mathlib.Data.List.Perm.Basic

set_option autoImplicit false

namespace LinearStore

open Json (Reads Absorbs)

namespace Json

def under (name : String) (members : List (String × Json)) : List Json :=
  (members.filter fun member => member.1 == name).map Prod.snd

-- What a member that may be missing shows: a value if it is there once, and otherwise the default.
inductive Optional {α : Type} (shows : α → Json → Prop) (absent : α) : α → List Json → Prop
  | missing : Optional shows absent absent []
  | given {value : α} {document : Json} (shown : shows value document) :
      Optional shows absent value [document]

section Under

variable {name key : String} {members others : List (String × Json)}

theorem under_append (name : String) (members others : List (String × Json)) :
    under name (members ++ others) = under name members ++ under name others := by
  rw [under, List.filter_append, List.map_append]
  rfl

theorem under_nil (name : String) : under name [] = [] := rfl

theorem under_cons_self (value : Json) (members : List (String × Json)) :
    under name ((name, value) :: members) = value :: under name members := by
  rw [under, List.filter_cons_of_pos (by simp)]
  rfl

theorem under_cons_of_ne (different : key ≠ name) (value : Json) (members : List (String × Json)) :
    under name ((key, value) :: members) = under name members := by
  rw [under, List.filter_cons_of_neg (by simpa using different)]
  rfl

theorem under_values (name : String) (values : List Json) :
    under name (values.map (Prod.mk name)) = values := by
  induction values with
  | nil => rfl
  | cons value values ih => rw [List.map_cons, under_cons_self, ih]

theorem under_eq_nil (absent : ∀ member ∈ members, member.1 ≠ name) : under name members = [] := by
  rw [under, List.map_eq_nil_iff, List.filter_eq_nil_iff]
  exact fun member inside => by simpa using absent member inside

theorem under_others (different : key ≠ name) (values : List Json) :
    under name (values.map (Prod.mk key)) = [] := by
  refine under_eq_nil fun member inside => ?_
  obtain ⟨value, _, rfl⟩ := List.mem_map.mp inside
  exact different

theorem under_perm (name : String) (same : members.Perm others) :
    (under name members).Perm (under name others) :=
  (same.filter _).map _

theorem under_split {document value : Json} {seen later : List (String × Json)}
    (held : under name members = [document]) (split : seen ++ (name, value) :: later = members) :
    under name seen = [] ∧ value = document := by
  rw [← split, under_append, under_cons_self] at held
  cases before : under name seen with
  | nil =>
      rw [before] at held
      exact ⟨rfl, (List.cons.inj held).1⟩
  | cons first rest =>
      rw [before] at held
      have long := congrArg List.length held
      simp at long

end Under

section Optional

variable {α : Type} {shows : α → Json → Prop} {absent value : α} {name key : String}
  {members seen later : List (String × Json)} {document : Json}

theorem Optional.of_perm {values others : List Json} (same : values.Perm others)
    (optional : Optional shows absent value others) : Optional shows absent value values := by
  cases optional with
  | missing => exact same.eq_nil ▸ .missing
  | given shown => exact same.eq_singleton ▸ .given shown

theorem Optional.split (optional : Optional shows absent value (under name members))
    (split : seen ++ (name, document) :: later = members) :
    under name seen = [] ∧ shows value document := by
  generalize held : under name members = values at optional
  cases optional with
  | missing =>
      rw [← split, under_append, under_cons_self] at held
      cases List.append_eq_nil_iff.mp held |>.2
  | given shown =>
      obtain ⟨fresh, rfl⟩ := under_split held split
      exact ⟨fresh, shown⟩

-- What is set while an object is read: a value as soon as the object had its name.
def taken (name : String) (value : α) (seen : List (String × Json)) : Option α :=
  if (under name seen).isEmpty then none else some value

theorem taken_of_fresh (fresh : under name seen = []) : taken name value seen = none := by
  rw [taken, fresh]
  rfl

theorem taken_append_self : taken name value (seen ++ [(name, document)]) = some value := by
  rw [taken, under_append, under_cons_self, if_neg]
  simp

theorem taken_append_of_ne (different : key ≠ name) :
    taken name value (seen ++ [(key, document)]) = taken name value seen := by
  rw [taken, under_append, under_cons_of_ne different, under_nil, List.append_nil, taken]

theorem Optional.taken_getD (optional : Optional shows absent value (under name members)) :
    (taken name value members).getD absent = value := by
  generalize held : under name members = values at optional
  cases optional with
  | missing => rw [taken, held]; rfl
  | given shown => rw [taken, held]; rfl

end Optional

namespace Record

variable {σ α : Type} {record : Record σ α}

theorem read_field_extra {key : String}
    (unknown : record.fields.find? (fun field => field.name = key) = none) (state : σ) (value : Json)
    (rest : List Token) :
    record.readField state key (.colon :: value.withTokens rest) = .ok (state, rest) := by
  simp only [readField, unknown, readColon, skip_value, Except.map]

theorem absorbs_of_takes {stateOf : List (String × Json) → σ} {members : List (String × Json)}
    (takes : ∀ seen key value later, seen ++ (key, value) :: later = members →
      ∀ rest, record.readField (stateOf seen) key (.colon :: value.withTokens rest) =
        .ok (stateOf (seen ++ [(key, value)]), rest)) :
    Absorbs record.readField (stateOf []) members (stateOf members) := by
  have onwards : ∀ later seen, seen ++ later = members →
      Absorbs record.readField (stateOf seen) later (stateOf members) := by
    intro later
    induction later with
    | nil =>
        intro seen split
        rw [← split, List.append_nil]
        exact .nil
    | cons member later ih =>
        intro seen split
        refine .cons (takes seen member.1 member.2 later split) (ih _ ?_)
        rw [List.append_assoc, List.singleton_append, split]
  exact onwards members [] rfl

end Record

end Json

namespace Limits

-- Limits in a document: its fields in any order and among any members, each of them once or not at all.
inductive Shown (limits : Limits) : Json → Prop
  | object {members extras : List (String × Json)} {words : List Json}
      (maxSlots : Json.Optional (fun word document => document = .nat word.toNat)
        ({} : Limits).maxSlots limits.maxSlots words)
      (unknown : ∀ extra ∈ extras, extra.1 ≠ "maxSlots")
      (same : members.Perm (words.map (Prod.mk "maxSlots") ++ extras)) : Shown limits (.object members)

theorem reads_shown (medium : Json.Medium) {limits : Limits} {document : Json} {levels : Nat}
    (shown : limits.Shown document) (shallow : document.depth ≤ levels) :
    Reads (read medium levels) document limits := by
  cases shown with
  | @object members extras words maxSlots unknown same =>
      have held : Json.Optional (fun word document => document = .nat word.toNat)
          ({} : Limits).maxSlots limits.maxSlots (Json.under "maxSlots" members) := by
        refine maxSlots.of_perm ?_
        have under := Json.under_perm "maxSlots" same
        rwa [Json.under_append, Json.under_values, Json.under_eq_nil unknown, List.append_nil] at under
      cases levels with
      | zero => cases shallow
      | succ levels =>
          have absorbs : Absorbs record.readField (Json.taken "maxSlots" limits.maxSlots []) members
              (Json.taken "maxSlots" limits.maxSlots members) := by
            refine Json.Record.absorbs_of_takes fun seen key value later split rest => ?_
            by_cases isField : key = "maxSlots"
            · subst isField
              obtain ⟨fresh, rfl⟩ := held.split split
              rw [Json.taken_of_fresh fresh, Json.taken_append_self]
              exact record.read_field maxSlotsField none rfl rfl
                (Json.reads_map (Json.reads_word limits.maxSlots) some) rest
            · rw [Json.taken_append_of_ne isField]
              exact Json.Record.read_field_extra
                (by simpa [record, maxSlotsField] using Ne.symm isField) _ value rest
          have whole := held.taken_getD
          refine Json.Record.reads_record medium (fun _ => record) absorbs ?_
          cases ended : Json.taken "maxSlots" limits.maxSlots members with
          | none =>
              rw [ended] at whole
              exact congrArg (fun word => Except.ok (Limits.mk word)) whole
          | some word =>
              rw [ended] at whole
              exact congrArg (fun word => Except.ok (Limits.mk word)) whole

end Limits

namespace Config

inductive Shown (config : Config Json) : Json → Prop
  | object {members extras : List (String × Json)} {values bounds flags : List Json}
      (defaultValue : Json.Optional (fun value document => document.arranged = value) .null
        config.defaultValue values)
      (limits : Json.Optional Limits.Shown {} config.limits bounds)
      (strictFree : Json.Optional (fun flag document => document = .bool flag) false
        config.strictFree flags)
      (unknown : ∀ extra ∈ extras, extra.1 ∉ ["defaultValue", "limits", "strictFree"])
      (same : members.Perm (values.map (Prod.mk "defaultValue") ++ bounds.map (Prod.mk "limits") ++
        flags.map (Prod.mk "strictFree") ++ extras)) : Shown config (.object members)

def draftOf (config : Config Json) (seen : List (String × Json)) : Draft where
  defaultValue := Json.taken "defaultValue" config.defaultValue seen
  limits := Json.taken "limits" config.limits seen
  strictFree := Json.taken "strictFree" config.strictFree seen

section

variable {config : Config Json} {members : List (String × Json)}

structure Fields (config : Config Json) (members : List (String × Json)) : Prop where
  defaultValue : Json.Optional (fun value document => document.arranged = value) .null
    config.defaultValue (Json.under "defaultValue" members)
  limits : Json.Optional Limits.Shown {} config.limits (Json.under "limits" members)
  strictFree : Json.Optional (fun flag document => document = .bool flag) false
    config.strictFree (Json.under "strictFree" members)

theorem fields_of_shown (shown : config.Shown (.object members)) : config.Fields members := by
  cases shown with
  | @object _ extras values bounds flags defaultValue limits strictFree unknown same =>
      have others : ∀ name ∈ ["defaultValue", "limits", "strictFree"],
          ∀ extra ∈ extras, extra.1 ≠ name := fun name known extra inside isField =>
        unknown extra inside (isField ▸ known)
      refine ⟨defaultValue.of_perm ?_, limits.of_perm ?_, strictFree.of_perm ?_⟩
      · have under := Json.under_perm "defaultValue" same
        simpa [Json.under_append, Json.under_values, Json.under_others,
          Json.under_eq_nil (others "defaultValue" (by decide))] using under
      · have under := Json.under_perm "limits" same
        simpa [Json.under_append, Json.under_values, Json.under_others,
          Json.under_eq_nil (others "limits" (by decide))] using under
      · have under := Json.under_perm "strictFree" same
        simpa [Json.under_append, Json.under_values, Json.under_others,
          Json.under_eq_nil (others "strictFree" (by decide))] using under

theorem absorbs_fields (medium : Json.Medium) {levels : Nat} (fields : config.Fields members)
    (shallow : Json.membersDepth members ≤ levels) :
    Absorbs (record medium levels).readField (config.draftOf []) members
      (config.draftOf members) := by
  have within : ∀ {seen later : List (String × Json)} {key : String} {value : Json},
      seen ++ (key, value) :: later = members → value.depth ≤ levels := by
    intro seen later key value split
    have inside : (key, value) ∈ members := split ▸ List.mem_append_right _ List.mem_cons_self
    exact Nat.le_trans (Json.depth_le_members_depth inside) shallow
  refine Json.Record.absorbs_of_takes fun seen key value later split rest => ?_
  by_cases isValue : key = "defaultValue"
  · subst isValue
    obtain ⟨fresh, shown⟩ := fields.defaultValue.split split
    have unset : (config.draftOf seen).defaultValue = none := Json.taken_of_fresh fresh
    have next : config.draftOf (seen ++ [("defaultValue", value)]) =
        { config.draftOf seen with defaultValue := some config.defaultValue } := by
      simp [draftOf, Json.taken_append_self, Json.taken_append_of_ne]
    have reads := shown ▸ Json.reads_value value (within split)
    rw [next]
    exact (record medium levels).read_field (Draft.defaultValueField levels) (config.draftOf seen)
      rfl (congrArg Option.isSome unset)
      (Json.reads_map reads fun found =>
        ({ config.draftOf seen with defaultValue := some found } : Draft)) rest
  by_cases isLimits : key = "limits"
  · subst isLimits
    obtain ⟨fresh, shown⟩ := fields.limits.split split
    have unset : (config.draftOf seen).limits = none := Json.taken_of_fresh fresh
    have next : config.draftOf (seen ++ [("limits", value)]) =
        { config.draftOf seen with limits := some config.limits } := by
      simp [draftOf, Json.taken_append_self, Json.taken_append_of_ne]
    have reads := Limits.reads_shown medium shown (within split)
    rw [next]
    exact (record medium levels).read_field (Draft.limitsField medium levels) (config.draftOf seen)
      rfl (congrArg Option.isSome unset)
      (Json.reads_map reads fun found =>
        ({ config.draftOf seen with limits := some found } : Draft)) rest
  by_cases isStrict : key = "strictFree"
  · subst isStrict
    obtain ⟨fresh, rfl⟩ := fields.strictFree.split split
    have unset : (config.draftOf seen).strictFree = none := Json.taken_of_fresh fresh
    have next : config.draftOf (seen ++ [("strictFree", .bool config.strictFree)]) =
        { config.draftOf seen with strictFree := some config.strictFree } := by
      simp [draftOf, Json.taken_append_self, Json.taken_append_of_ne]
    rw [next]
    exact (record medium levels).read_field Draft.strictFreeField (config.draftOf seen)
      rfl (congrArg Option.isSome unset)
      (Json.reads_map (Json.reads_bool config.strictFree) fun found =>
        ({ config.draftOf seen with strictFree := some found } : Draft)) rest
  · rw [draftOf, draftOf, Json.taken_append_of_ne isValue, Json.taken_append_of_ne isLimits,
      Json.taken_append_of_ne isStrict]
    refine Json.Record.read_field_extra ?_ _ value rest
    simp [record, Draft.defaultValueField, Draft.limitsField, Draft.strictFreeField,
      Ne.symm isValue, Ne.symm isLimits, Ne.symm isStrict]

end

theorem reads_shown (medium : Json.Medium) {config : Config Json} {document : Json} {levels : Nat}
    (shown : config.Shown document) (shallow : document.depth ≤ levels) :
    Reads (read medium levels) document config := by
  cases document with
  | object members =>
      cases levels with
      | zero => cases shallow
      | succ levels =>
          have fields := fields_of_shown shown
          have absorbs := absorbs_fields medium fields (Nat.le_of_succ_le_succ shallow)
          refine Json.Record.reads_record medium (record medium) absorbs ?_
          simp only [record, Draft.complete, draftOf, fields.defaultValue.taken_getD,
            fields.limits.taken_getD, fields.strictFree.taken_getD]
  | null | bool _ | number _ | string _ | array _ => cases shown

end Config

end LinearStore
