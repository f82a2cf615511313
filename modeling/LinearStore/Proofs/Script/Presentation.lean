import LinearStore.Proofs.Script.Members
import LinearStore.Proofs.Script.Settings

set_option autoImplicit false

namespace LinearStore

open Json (Reads Absorbs failData except_bind_ok)

theorem filter_middle {β : Type} {test : β → Bool} {first middle last : List β}
    (before : ∀ value ∈ first, test value = false) (within : ∀ value ∈ middle, test value = true)
    (after : ∀ value ∈ last, test value = false) :
    (first ++ middle ++ last).filter test = middle := by
  have none : ∀ {values : List β}, (∀ value ∈ values, test value = false) →
      values.filter test = [] := fun fails =>
    List.filter_eq_nil_iff.mpr fun value inside => Bool.eq_false_iff.mp (fails value inside)
  rw [List.filter_append, List.filter_append, none before, none after, List.filter_eq_self.mpr within,
    List.nil_append, List.append_nil]

namespace Step

section Objects

def tag (op : Op) : String × Json := ("op", .string op.text)

theorem tag_injective : Function.Injective tag := by
  intro first second same
  have texts : first.text = second.text := Json.string.inj (congrArg Prod.snd same)
  have found := congrArg Op.ofText? texts
  rw [Op.of_text_text, Op.of_text_text] at found
  exact Option.some.inj found

def Draft.tags (draft : Draft) : List (String × Json) := draft.op.toList.map tag

theorem Draft.eq_of_tags {first second : Draft} (sameTags : first.tags = second.tags)
    (sameMembers : first.members = second.members) : first = second := by
  have sameOp := List.map_injective_iff.mpr tag_injective sameTags
  obtain ⟨firstOp, _⟩ := first
  obtain ⟨secondOp, _⟩ := second
  cases sameMembers
  cases firstOp <;> cases secondOp <;> cases sameOp <;> rfl

theorem Draft.length_tags_le (draft : Draft) : draft.tags.length ≤ 1 := by
  rw [tags, List.length_map]
  exact draft.op.length_toList_le

theorem Draft.named_of_tags {draft : Draft} {value : Json} {others : List (String × Json)}
    (same : ("op", value) :: others = draft.tags) : ∃ op : Op, value = .string op.text := by
  have inside : ("op", value) ∈ draft.tags := same ▸ List.mem_cons_self
  obtain ⟨op, -, tagged⟩ := List.mem_map.mp inside
  exact ⟨op, (congrArg Prod.snd tagged).symm⟩

-- Members are absorbed if at most one of them is called after the operation, and it names one; all
-- others are put by in their order.
theorem absorbed_iff {draft last : Draft} {members : List (String × Json)} :
    members.foldlM Draft.absorb draft = .ok last ↔
      draft.tags ++ members.filter (fun member => member.1 == "op") = last.tags ∧
        last.members = draft.members ++ members.filter fun member => member.1 != "op" := by
  induction members generalizing draft with
  | nil =>
      simp only [List.foldlM_nil, pure, Except.pure, Except.ok.injEq, List.filter_nil, List.append_nil]
      constructor
      · rintro rfl
        exact ⟨rfl, rfl⟩
      · rintro ⟨tags, members⟩
        exact Draft.eq_of_tags tags members.symm
  | cons member rest ih =>
      obtain ⟨key, value⟩ := member
      rw [List.foldlM_cons, Draft.absorb]
      by_cases tagged : key = "op"
      · subst tagged
        rw [List.filter_cons_of_pos rfl, List.filter_cons_of_neg (by simp)]
        cases held : draft.op with
        | some op =>
            simp only [if_true, Option.isSome_some]
            refine iff_of_false (fun absorbed => by cases absorbed) ?_
            rintro ⟨twice, -⟩
            have long := twice ▸ last.length_tags_le
            rw [Draft.tags, held, List.length_append, List.length_cons] at long
            exact absurd long (by simp)
        | none =>
            simp only [if_true, Option.isSome_none, Bool.false_eq_true, if_false, bind, Except.bind]
            cases named : Op.ofJson value with
            | error error =>
                refine iff_of_false (fun absorbed => by cases absorbed) ?_
                rintro ⟨once, -⟩
                rw [Draft.tags, held] at once
                obtain ⟨op, rfl⟩ := Draft.named_of_tags once
                rw [Op.of_json_eq_ok_iff.mpr rfl] at named
                cases named
            | ok op =>
                simp only [Except.map, ih, Draft.tags, held]
                rw [Op.of_json_eq_ok_iff.mp named]
                rfl
      · simp only [if_neg tagged, bind, Except.bind, ih]
        rw [List.filter_cons_of_neg (by simpa using tagged),
          List.filter_cons_of_pos (by simpa using tagged)]
        simp [Draft.tags]

def tagged (step : Step Json) : List (String × Json) := tag step.op :: step.members

theorem names_tagged (step : Step Json) :
    step.tagged.map Prod.fst = "op" :: step.op.fields.map Prod.fst := by
  rw [tagged, List.map_cons, names_members]
  rfl

variable {step : Step Json} {members extras : List (String × Json)}

theorem of_object_eq_ok_iff_parts :
    ofObject members = .ok step ↔
      members.filter (fun member => member.1 == "op") = [tag step.op] ∧
        (fieldMembers step.op.fields (members.filter fun member => member.1 != "op")).Perm
          step.members := by
  constructor
  · intro made
    obtain ⟨draft, absorbed, made⟩ := except_bind_ok made
    obtain ⟨tags, others⟩ := absorbed_iff.mp absorbed
    cases held : draft.op with
    | none =>
        rw [held] at made
        cases made
    | some op =>
        rw [held] at made
        obtain ⟨rfl, same⟩ := of_members_eq_ok_iff.mp made
        rw [Draft.tags, Draft.tags, held] at tags
        rw [others] at same
        exact ⟨tags, same⟩
  · rintro ⟨tags, same⟩
    have absorbed : members.foldlM Draft.absorb {} =
        .ok ⟨some step.op, members.filter fun member => member.1 != "op"⟩ :=
      absorbed_iff.mpr ⟨tags, rfl⟩
    simp only [ofObject, absorbed, bind, Except.bind]
    exact of_members_eq_ok_iff.mpr ⟨rfl, same⟩

theorem parts_of_perm {op : Op} (tags own : List (String × Json))
    (areTags : ∀ member ∈ tags, member.1 = "op")
    (areOwn : ∀ member ∈ own, member.1 ∈ op.fields.map Prod.fst)
    (unknown : ∀ member ∈ extras, member.1 ∉ "op" :: op.fields.map Prod.fst)
    (same : members.Perm (tags ++ own ++ extras)) :
    (members.filter fun member => member.1 == "op").Perm tags ∧
      (fieldMembers op.fields (members.filter fun member => member.1 != "op")).Perm own := by
  have untagged : ∀ member ∈ own, member.1 ≠ "op" := fun member inside isTag =>
    op.op_not_mem_field_names (isTag ▸ areOwn member inside)
  constructor
  · have tagsOnly : (tags ++ own ++ extras).filter (fun member => member.1 == "op") = tags := by
      rw [List.append_assoc, ← List.nil_append tags]
      refine filter_middle nofun (fun member inside => ?_) fun member inside => ?_
      · exact beq_iff_eq.mpr (areTags member inside)
      · rw [beq_eq_false_iff_ne]
        rcases List.mem_append.mp inside with own | extra
        · exact untagged member own
        · exact fun isTag => unknown member extra (isTag ▸ List.mem_cons_self)
    exact tagsOnly ▸ same.filter _
  · have ownOnly : fieldMembers op.fields
        ((tags ++ own ++ extras).filter fun member => member.1 != "op") = own := by
      rw [fieldMembers, List.filter_filter]
      refine filter_middle (fun member inside => ?_) (fun member inside => ?_) fun member inside => ?_
      · rw [areTags member inside, bne_self_eq_false, Bool.and_false]
      · rw [Bool.and_eq_true, lookup_is_some_iff]
        exact ⟨areOwn member inside, bne_iff_ne.mpr (untagged member inside)⟩
      · rw [Bool.and_eq_false_iff, ← Bool.not_eq_true, lookup_is_some_iff]
        exact Or.inl fun known => unknown member inside (List.mem_cons_of_mem _ known)
    exact ownOnly ▸ (same.filter _).filter _

theorem of_object_eq_ok_iff :
    ofObject members = .ok step ↔
      ∃ extras, (∀ extra ∈ extras, extra.1 ∉ step.tagged.map Prod.fst) ∧
        members.Perm (step.tagged ++ extras) := by
  rw [of_object_eq_ok_iff_parts, names_tagged]
  constructor
  · rintro ⟨tags, own⟩
    let others := members.filter fun member => member.1 != "op"
    let known := fun member : String × Json => (lookupName member.1 step.op.fields).isSome
    refine ⟨others.filter fun member => !known member, fun extra inside => ?_, ?_⟩
    · obtain ⟨other, unknown⟩ := List.mem_filter.mp inside
      have different := (List.mem_filter.mp other).2
      rw [Bool.not_eq_true', ← Bool.not_eq_true, lookup_is_some_iff] at unknown
      rw [List.mem_cons, not_or]
      exact ⟨bne_iff_ne.mp different, unknown⟩
    · have apart := (List.filter_append_perm (fun member => member.1 == "op") members).symm
      rw [tags] at apart
      have separated := (List.filter_append_perm known others).symm
      exact apart.trans ((separated.trans (own.append_right _)).cons _)
  · rintro ⟨extras, unknown, same⟩
    have parts := parts_of_perm [tag step.op] step.members (by simp [tag])
      (fun member inside => (mem_members inside).1) unknown same
    exact ⟨parts.1.eq_singleton, parts.2⟩

theorem of_object_missing {field : String} (known : field ∈ step.tagged.map Prod.fst)
    (unknown : ∀ extra ∈ extras, extra.1 ∉ step.tagged.map Prod.fst)
    (same : members.Perm (step.tagged.filter (fun member => member.1 != field) ++ extras)) :
    ofObject members = failData (.missingField field) := by
  rw [names_tagged] at known unknown
  rw [tagged, ← List.singleton_append, List.filter_append] at same
  obtain ⟨tags, own⟩ := parts_of_perm _ _ (fun member inside => by
      rw [List.mem_singleton.mp (List.mem_of_mem_filter inside)]
      rfl)
    (fun member inside => (mem_members (List.mem_of_mem_filter inside)).1) unknown same
  by_cases isTag : field = "op"
  · subst isTag
    rw [List.filter_cons_of_neg (by simp [tag]), List.filter_nil] at tags
    have absorbed : members.foldlM Draft.absorb {} =
        .ok ⟨none, members.filter fun member => member.1 != "op"⟩ :=
      absorbed_iff.mpr ⟨tags.eq_nil, rfl⟩
    simp only [ofObject, absorbed, bind, Except.bind]
  · rw [List.filter_cons_of_pos (by simpa [tag] using Ne.symm isTag), List.filter_nil] at tags
    have absorbed : members.foldlM Draft.absorb {} =
        .ok ⟨some step.op, members.filter fun member => member.1 != "op"⟩ :=
      absorbed_iff.mpr ⟨tags.eq_singleton, rfl⟩
    have inside : field ∈ step.op.fields.map Prod.fst := (List.mem_cons.mp known).resolve_left isTag
    simp only [ofObject, absorbed, bind, Except.bind, of_members_missing inside own]

theorem count_of_object {name : String} (made : ofObject members = .ok step)
    (known : name ∈ step.tagged.map Prod.fst) : (members.map Prod.fst).count name = 1 := by
  obtain ⟨extras, unknown, same⟩ := of_object_eq_ok_iff.mp made
  have once : (step.tagged.map Prod.fst).Nodup := by
    rw [names_tagged]
    exact List.nodup_cons.mpr ⟨step.op.op_not_mem_field_names, step.op.field_names_nodup⟩
  have none : name ∉ extras.map Prod.fst := by
    rintro inside
    obtain ⟨extra, member, rfl⟩ := List.mem_map.mp inside
    exact unknown extra member known
  rw [(same.map Prod.fst).count_eq, List.map_append, List.count_append,
    List.count_eq_one_of_mem once known, List.count_eq_zero_of_not_mem none]

-- What an object has too often for one step it has too often for every step, as the operation is one.
theorem of_object_repeated {name : String} {value : Json} (known : name ∈ step.tagged.map Prod.fst)
    (same : members.Perm (step.tagged ++ (name, value) :: extras)) (other : Step Json) :
    ofObject members ≠ .ok other := by
  intro made
  have tags := (of_object_eq_ok_iff_parts.mp made).1
  have inside : tag step.op ∈ members.filter fun member => member.1 == "op" :=
    List.mem_filter.mpr ⟨same.mem_iff.mpr List.mem_cons_self, rfl⟩
  rw [tags, List.mem_singleton] at inside
  have sameOp := tag_injective inside
  have alike : other.tagged.map Prod.fst = step.tagged.map Prod.fst := by
    rw [names_tagged, names_tagged, sameOp]
  have once := count_of_object made (alike ▸ known)
  rw [(same.map Prod.fst).count_eq, List.map_append, List.count_append, List.map_cons,
    List.count_cons_self] at once
  have present := List.count_pos_iff.mpr known
  omega

end Objects

-- A document of a step: an object that has its members once each, in any order and among any others,
-- or the list of its operation and its arguments.
inductive Shown (step : Step Json) : Json → Prop
  | object {members extras : List (String × Json)}
      (unknown : ∀ extra ∈ extras, extra.1 ∉ step.tagged.map Prod.fst)
      (same : (Json.arrangedMembers members).Perm (step.tagged ++ extras)) :
      Shown step (.object members)
  | list {items : List Json}
      (same : Json.arrangedItems items =
        .string step.op.text :: step.arguments.map Argument.json) : Shown step (.array items)

inductive Lacks (step : Step Json) (field : String) : Json → Prop
  | object {members extras : List (String × Json)} (known : field ∈ step.tagged.map Prod.fst)
      (unknown : ∀ extra ∈ extras, extra.1 ∉ step.tagged.map Prod.fst)
      (same : (Json.arrangedMembers members).Perm
        (step.tagged.filter (fun member => member.1 != field) ++ extras)) :
      Lacks step field (.object members)

-- An object with one more member of a name that the step has, or a list without one of the arguments.
inductive Misshown (step : Step Json) : Json → Prop
  | repeated {members extras : List (String × Json)} {name : String} {value : Json}
      (known : name ∈ step.tagged.map Prod.fst)
      (same : (Json.arrangedMembers members).Perm (step.tagged ++ (name, value) :: extras)) :
      Misshown step (.object members)
  | shortened {items : List Json} {place : Nat} (inside : place < step.arguments.length)
      (same : Json.arrangedItems items =
        .string step.op.text :: (step.arguments.map Argument.json).eraseIdx place) :
      Misshown step (.array items)

theorem arranged_tagged {step : Step Json} (sorted : step.Sorted) :
    Json.arrangedMembers step.tagged = step.tagged := by
  refine Json.arranged_members_of_are_sorted _ ((Json.members_sorted_iff _).mpr ?_)
  refine List.forall_mem_cons.mpr ⟨rfl, fun member inside => ?_⟩
  obtain ⟨-, argument, given, same⟩ := mem_members inside
  rw [← same]
  cases argument with
  | binding name | word value => rfl
  | payload value => exact sorted value (List.mem_filterMap.mpr ⟨_, given, rfl⟩)

theorem shown_of_perm {step : Step Json} (sorted : step.Sorted) {members extras : List (String × Json)}
    (unknown : ∀ extra ∈ extras, extra.1 ∉ step.tagged.map Prod.fst)
    (same : members.Perm (step.tagged ++ extras)) : step.Shown (.object members) := by
  have arranged := same.map fun member => (member.1, member.2.arranged)
  rw [List.map_append, ← Json.arranged_members_eq_map, ← Json.arranged_members_eq_map,
    ← Json.arranged_members_eq_map, arranged_tagged sorted] at arranged
  refine .object (fun extra inside => ?_) arranged
  rw [Json.arranged_members_eq_map] at inside
  obtain ⟨original, member, rfl⟩ := List.mem_map.mp inside
  exact unknown original member

theorem of_json_eq_ok_iff {document : Json} {step : Step Json} :
    ofJson document = .ok step ↔ step.Shown document := by
  cases document with
  | null | bool _ | number _ | string _ => exact iff_of_false nofun nofun
  | array items =>
      rw [ofJson, of_list_eq_ok_iff]
      exact ⟨.list, fun | .list same => same⟩
  | object members =>
      rw [ofJson, of_object_eq_ok_iff]
      exact ⟨fun ⟨_, unknown, same⟩ => .object unknown same,
        fun | .object unknown same => ⟨_, unknown, same⟩⟩

theorem of_json_lacking {document : Json} {step : Step Json} {field : String}
    (lacks : step.Lacks field document) : ofJson document = failData (.missingField field) := by
  cases lacks with
  | object known unknown same => exact of_object_missing known unknown same

theorem of_json_misshown {document : Json} {step : Step Json} (misshown : step.Misshown document)
    (other : Step Json) : ofJson document ≠ .ok other := by
  cases misshown with
  | repeated known same => exact of_object_repeated known same other
  | @shortened items place inside same =>
      intro made
      rw [ofJson, of_list_eq_ok_iff, same, List.cons.injEq, Json.string.injEq] at made
      have sameOp : step.op = other.op :=
        tag_injective (congrArg (fun text => ("op", Json.string text)) made.1)
      have long := congrArg List.length made.2
      rw [List.length_eraseIdx_of_lt (by rwa [List.length_map]), List.length_map, List.length_map,
        step.length_arguments, other.length_arguments, sameOp] at long
      rw [step.length_arguments, sameOp] at inside
      omega

section

variable {text : String} {document : Json} (spelt : Json.Spells text document)
  (shallow : document.depth ≤ Json.levelLimit)

include spelt shallow

theorem parse_eq : parse text = ofJson document :=
  Json.parse_with_of_settles spelt (settles_read shallow)

end

end Step

namespace Script

inductive Shown (script : Script Json) : Json → Prop
  | object {members extras : List (String × Json)} {configs documents : List Json}
      (config : Json.Optional Config.Shown ⟨.null, {}, false⟩ script.config configs)
      (steps : List.Forall₂ Step.Shown script.steps documents)
      (unknown : ∀ extra ∈ extras, extra.1 ∉ ["config", "steps"])
      (same : members.Perm
        (configs.map (Prod.mk "config") ++ ("steps", .array documents) :: extras)) :
      Shown script (.object members)

def draftOf (script : Script Json) (seen : List (String × Json)) : Draft where
  config := Json.taken "config" script.config seen
  steps := Json.taken "steps" script.steps seen

theorem reads_shown_steps {steps : List (Step Json)} {documents : List Json} {levels : Nat}
    (shown : List.Forall₂ Step.Shown steps documents) (shallow : Json.itemsDepth documents ≤ levels) :
    List.Forall₂ (Reads (Step.read levels)) documents steps := by
  induction shown with
  | nil => exact .nil
  | cons first _ ih =>
      rw [Json.itemsDepth, Nat.max_le] at shallow
      have settled := Step.settles_read shallow.1
      rw [Step.of_json_eq_ok_iff.mpr first] at settled
      exact .cons settled (ih shallow.2)

theorem absorbs_fields {script : Script Json} {members : List (String × Json)}
    {documents : List Json} {levels : Nat}
    (config : Json.Optional Config.Shown ⟨.null, {}, false⟩ script.config
      (Json.under "config" members))
    (steps : Json.under "steps" members = [.array documents])
    (shown : List.Forall₂ Step.Shown script.steps documents)
    (shallow : Json.membersDepth members ≤ levels) :
    Absorbs (record levels).readField (script.draftOf []) members (script.draftOf members) := by
  refine Json.Record.absorbs_of_takes fun seen key value later split rest => ?_
  have inside : (key, value) ∈ members := split ▸ List.mem_append_right _ List.mem_cons_self
  have within : value.depth ≤ levels := Nat.le_trans (Json.depth_le_members_depth inside) shallow
  by_cases isConfig : key = "config"
  · subst isConfig
    obtain ⟨fresh, shown⟩ := config.split split
    have unset : (script.draftOf seen).config = none := Json.taken_of_fresh fresh
    have next : script.draftOf (seen ++ [("config", value)]) =
        { script.draftOf seen with config := some script.config } := by
      simp [draftOf, Json.taken_append_self, Json.taken_append_of_ne]
    rw [next]
    exact (record levels).read_field (Draft.configField levels) (script.draftOf seen)
      rfl (congrArg Option.isSome unset)
      (Json.reads_map (Config.reads_shown .text shown within) fun found =>
        ({ script.draftOf seen with config := some found } : Draft)) rest
  by_cases isSteps : key = "steps"
  · subst isSteps
    obtain ⟨fresh, rfl⟩ := Json.under_split steps split
    have unset : (script.draftOf seen).steps = none := Json.taken_of_fresh fresh
    have next : script.draftOf (seen ++ [("steps", .array documents)]) =
        { script.draftOf seen with steps := some script.steps } := by
      simp [draftOf, Json.taken_append_self, Json.taken_append_of_ne]
    cases levels with
    | zero => cases within
    | succ levels =>
        have each := reads_shown_steps shown (Nat.le_of_succ_le_succ within)
        rw [next]
        exact (record (levels + 1)).read_field (Draft.stepsField (levels + 1)) (script.draftOf seen)
          rfl (congrArg Option.isSome unset)
          (Json.reads_map (Json.reads_list Step.read each) fun found =>
            ({ script.draftOf seen with steps := some found } : Draft)) rest
  · rw [draftOf, draftOf, Json.taken_append_of_ne isConfig, Json.taken_append_of_ne isSteps]
    refine Json.Record.read_field_extra ?_ _ value rest
    simp [record, Draft.configField, Draft.stepsField, Ne.symm isConfig, Ne.symm isSteps]

theorem reads_shown {script : Script Json} {document : Json} {levels : Nat}
    (shown : script.Shown document) (shallow : document.depth ≤ levels) :
    Reads (read levels) document script := by
  cases shown with
  | @object members extras configs documents config steps unknown same =>
      have others : ∀ name ∈ ["config", "steps"], ∀ extra ∈ extras, extra.1 ≠ name :=
        fun name known extra inside isField => unknown extra inside (isField ▸ known)
      have underConfig : Json.Optional Config.Shown ⟨.null, {}, false⟩ script.config
          (Json.under "config" members) := by
        refine config.of_perm ?_
        have under := Json.under_perm "config" same
        rwa [Json.under_append, Json.under_values, Json.under_cons_of_ne (by decide),
          Json.under_eq_nil (others "config" (by decide)), List.append_nil] at under
      have underSteps : Json.under "steps" members = [.array documents] := by
        have under := Json.under_perm "steps" same
        rw [Json.under_append, Json.under_others (by decide), Json.under_cons_self,
          Json.under_eq_nil (others "steps" (by decide)), List.nil_append] at under
        exact under.eq_singleton
      cases levels with
      | zero => cases shallow
      | succ levels =>
          have absorbs := absorbs_fields underConfig underSteps steps (Nat.le_of_succ_le_succ shallow)
          refine Json.Record.reads_record .text record absorbs ?_
          have all : Json.taken "steps" script.steps members = some script.steps := by
            rw [Json.taken, underSteps]
            rfl
          simp only [record, Draft.complete, draftOf, all, underConfig.taken_getD]

end Script

theorem presentations_are_read_alike {text : String} {document : Json}
    (spelt : Json.Spells text document) (shallow : document.depth ≤ Json.levelLimit) :
    (∀ step, Step.parse text = .ok step ↔ step.Shown document) ∧
    (∀ step : Step Json, ∀ field, step.Lacks field document →
      Step.parse text = .error (.data (.missingField field))) ∧
    (∀ step : Step Json, step.Misshown document → ∃ error, Step.parse text = .error error) ∧
    (∀ config : Config Json, config.Shown document → Config.parse text = .ok config) ∧
    (∀ limits : Limits, limits.Shown document → Limits.parse text = .ok limits) ∧
    (∀ script : Script Json, script.Shown document → Script.parse text = .ok script) := by
  have parsed := Step.parse_eq spelt shallow
  refine ⟨fun step => ?shown, fun step field lacks => ?lacks, fun step misshown => ?misshown,
    fun config shown => ?config, fun limits shown => ?limits, fun script shown => ?script⟩
  case shown => rw [parsed, Step.of_json_eq_ok_iff]
  case lacks => exact parsed.trans (Step.of_json_lacking lacks)
  case misshown =>
    cases made : Step.parse text with
    | error error => exact ⟨error, rfl⟩
    | ok other => exact absurd (parsed ▸ made) (Step.of_json_misshown misshown other)
  case config => exact Json.parse_with_of_reads spelt (Config.reads_shown .text shown shallow)
  case limits => exact Json.parse_with_of_reads spelt (Limits.reads_shown .text shown shallow)
  case script => exact Json.parse_with_of_reads spelt (Script.reads_shown shown shallow)

-- Members out of order and among others; blanks between tokens and an escape in the name of a member;
-- and a script whose steps are written in both ways.
theorem presentations_are_read_alike_in_disorder :
    let step : Step Json := .swapRaw "q" 0 "x" "y"
    let note : String × Json := ("note", .array [.nat 1, .object []])
    let rest : List (String × Json) :=
      [("op", .string "swap_raw"), ("index", .nat 0), note, ("lseq", .string "q")]
    let source : String × Json := ("from", .string "x")
    let into : String × Json := ("into", .string "y")
    let spaced := "\x7b\x22into\x22 : \x22y\x22,\n\x22\\u006fp\x22:\x22swap_raw\x22,\x22index\x22:0," ++
      "\t\x22note\x22: [1,\x7b \x7d],\x22lseq\x22:\x22q\x22,\x22from\x22:\x22x\x22 \x7d "
    let config : Json := .object [note, ("limits", .object [note, ("maxSlots", .nat 3)])]
    let steps : Json :=
      .array [.array [.string "empty", .string "m"],
        .object [("name", .string "n"), ("op", .string "empty")]]
    Step.parse spaced = .ok step ∧
      Step.parse (Json.object (into :: rest)).compact = .error (.data (.missingField "from")) ∧
      (∃ error, Step.parse (Json.object (source :: into :: source :: rest)).compact = .error error) ∧
      Config.parse config.compact = .ok ⟨.null, ⟨3⟩, false⟩ ∧
      Script.parse (Json.object [("steps", steps), note, ("config", config)]).compact =
        .ok ⟨⟨.null, ⟨3⟩, false⟩, [.empty "m", .empty "n"]⟩ := by
  intro step note rest source into spaced config steps
  have limitsShown : Limits.Shown ⟨3⟩ (.object [note, ("maxSlots", .nat 3)]) := by
    have same : [note, ("maxSlots", .nat 3)].Perm ([.nat 3].map (Prod.mk "maxSlots") ++ [note]) := by
      decide +kernel
    exact .object (.given rfl) (by decide) same
  have configShown : Config.Shown ⟨.null, ⟨3⟩, false⟩ config := by
    have same : [note, ("limits", .object [note, ("maxSlots", .nat 3)])].Perm
        ([].map (Prod.mk "defaultValue") ++
          [Json.object [note, ("maxSlots", .nat 3)]].map (Prod.mk "limits") ++
          [].map (Prod.mk "strictFree") ++ [note]) := by
      decide +kernel
    exact .object .missing (.given limitsShown) .missing (by decide) same
  refine ⟨?spaced, ?lacking, ?repeated, ?config, ?script⟩
  case spaced =>
    have spelt : Json.Spells spaced (.object (into :: (rest ++ [source]))) := by decide +kernel
    have sorted : step.Sorted := List.forall_mem_nil _
    have same : (into :: (rest ++ [source])).Perm (step.tagged ++ [note]) := by decide +kernel
    exact ((presentations_are_read_alike spelt (by decide)).1 step).mpr
      (Step.shown_of_perm sorted (by decide) same)
  case lacking =>
    have same : (Json.arrangedMembers (into :: rest)).Perm
        (step.tagged.filter (fun member => member.1 != "from") ++ [note]) := by
      decide +kernel
    exact (presentations_are_read_alike (Json.spells_compact (by decide)) (by decide)).2.1 step "from"
      (.object (by decide) (by decide) same)
  case repeated =>
    have same : (Json.arrangedMembers (source :: into :: source :: rest)).Perm
        (step.tagged ++ source :: [note]) := by
      decide +kernel
    exact (presentations_are_read_alike (Json.spells_compact (by decide)) (by decide)).2.2.1 step
      (.repeated (by decide) same)
  case config =>
    exact (presentations_are_read_alike (Json.spells_compact (by decide)) (by decide)).2.2.2.1 _
      configShown
  case script =>
    have first : Step.Shown (.empty "m") (.array [.string "empty", .string "m"]) := .list rfl
    have second :
        Step.Shown (.empty "n") (.object [("name", .string "n"), ("op", .string "empty")]) := by
      have sorted : (Step.empty "n" : Step Json).Sorted := List.forall_mem_nil _
      exact Step.shown_of_perm sorted (List.forall_mem_nil _) (List.Perm.swap _ _ _)
    have same : [("steps", steps), note, ("config", config)].Perm
        ([config].map (Prod.mk "config") ++ ("steps", steps) :: [note]) := by
      decide +kernel
    exact (presentations_are_read_alike (Json.spells_compact (by decide)) (by decide)).2.2.2.2.2 _
      (.object (.given configShown) (.cons first (.cons second .nil)) (by decide) same)

end LinearStore
