import LinearStore.Allocation
import LinearStore.Proofs.Session.Translation
import LinearStore.Session.Snapshot

set_option autoImplicit false

namespace LinearStore

variable {α β : Type}

theorem read_map (f : α → β) {cells : List α} {index : Nat} {value : α}
    (read : cells[index]? = some value) : (cells.map f)[index]? = some (f value) := by
  rw [List.getElem?_map, read]
  rfl

theorem Slot.is_full_map (f : α → β) (slot : Slot α) : (slot.map f).isFull = slot.isFull := by
  cases slot <;> rfl

theorem Slot.map_map {γ : Type} (f : α → β) (g : β → γ) (slot : Slot α) :
    (slot.map f).map g = slot.map (g ∘ f) := by
  cases slot <;> rfl

theorem SlotArray.full_count_map (f : α → β) (array : SlotArray α) :
    (array.map f).fullCount = array.fullCount := by
  have same : Slot.isFull ∘ Slot.map f = Slot.isFull := funext (Slot.is_full_map f)
  rw [fullCount, map, List.countP_map, same]
  rfl

namespace Binding

theorem kind_map (f : α → β) (binding : Binding α) : (binding.map f).kind = binding.kind := by
  cases binding <;> rfl

theorem length_map (f : α → β) (binding : Binding α) :
    (binding.map f).length? = binding.length? := by
  cases binding with
  | seq array => exact congrArg some (List.length_map f)
  | lseq array => exact congrArg some (List.length_map (Slot.map f))
  | maybe slot => rfl
  | sequence contents => exact congrArg some (List.length_map f)

theorem map_map {γ : Type} (f : α → β) (g : β → γ) (binding : Binding α) :
    (binding.map f).map g = binding.map (g ∘ f) := by
  have slots : Slot.map g ∘ Slot.map f = Slot.map (g ∘ f) := funext (Slot.map_map f g)
  cases binding with
  | seq array => simp only [map, LinearArray.map, List.map_map]
  | lseq array => simp only [map, SlotArray.map, List.map_map, slots]
  | maybe slot => exact congrArg Binding.maybe (slot.map_map f g)
  | sequence contents => simp only [map, Sequence.map, List.map_map]

end Binding

namespace Entry

theorem state_map (f : α → β) (entry : Entry α) : (entry.map f).state = entry.state := by
  cases entry with
  | live binding => exact congrArg NameState.live (binding.kind_map f)
  | consumed op => rfl

-- An entry without its payloads: the kind, the length, which slots are full, what consumed it.
def shape (entry : Entry α) : Entry Unit := entry.map fun _ => ()

theorem shape_map (f : α → β) (entry : Entry α) : (entry.map f).shape = entry.shape := by
  cases entry with
  | live binding => exact congrArg Entry.live (binding.map_map f fun _ => ())
  | consumed op => rfl

end Entry

namespace Step

variable (f : α → β) (step : Step α)

theorem op_map : (step.map f).op = step.op := by cases step <;> rfl

theorem addresses_map : (step.map f).addresses = step.addresses := by cases step <;> rfl

theorem requests_map : (step.map f).requests = step.requests := by cases step <;> rfl

theorem validate_map (state : String → Option NameState) :
    (step.map f).validate state = step.validate state := by
  cases step <;> rfl

end Step

namespace Session

def map (f : α → β) (session : Session α) : Session β :=
  ⟨session.config.map f, session.bindings.map (Entry.map f)⟩

variable (f : α → β) {session : Session α} {name : String}

theorem map_bind (session : Session α) (name : String) (binding : Binding α) :
    (session.bind name binding).map f = (session.map f).bind name (binding.map f) :=
  bindings_eq rfl (Table.map_insert ..)

theorem map_consume (session : Session α) (name : String) (op : Op) :
    (session.consume name op).map f = (session.map f).consume name op :=
  bindings_eq rfl (Table.map_insert ..)

theorem state_map (session : Session α) : (session.map f).state = session.state := by
  funext name
  rw [state, state, map, Table.find_map, Option.map_map]
  congr 1
  exact funext (Entry.state_map f)

theorem holds_map {binding : Binding α} (found : session.Holds name binding) :
    (session.map f).Holds name (binding.map f) := by
  rw [Holds, map, Table.find_map, found]
  rfl

theorem validate_map (session : Session α) (step : Step α) :
    (step.map f).validate (session.map f).state = step.validate session.state := by
  rw [state_map, step.validate_map]

variable [Allocator] {step : Step α}

theorem effect_map {answer : Option (Answer α)} {next : Session α}
    (effect : session.Effect step answer next) :
    (session.map f).Effect (step.map f) (answer.map (Answer.map f)) (next.map f) := by
  cases effect with
  | alloc granted =>
      rw [map_bind, Binding.map, LinearArray.map, List.map_replicate]
      exact .alloc granted
  | allocInit granted =>
      rw [map_bind, Binding.map, LinearArray.map, List.map_replicate]
      exact .allocInit granted
  | allocRaw granted =>
      rw [map_bind, Binding.map, SlotArray.map, List.map_replicate]
      exact .allocRaw granted
  | get found read => exact .get (holds_map f found) (read_map f read)
  | set found read =>
      rw [map_bind, Binding.map, LinearArray.map, List.map_set]
      exact .set (holds_map f found) (read_map f read)
  | @length name array found =>
      have same : (array.map f).length = array.length := List.length_map f
      have effect := Effect.length (holds_map f found)
      rwa [same] at effect
  | free found =>
      rw [map_consume]
      exact .free (holds_map f found)
  | unleash found =>
      rw [map_bind, map_consume]
      exact .unleash (holds_map f found)
  | select found read => exact .select (holds_map f found) (read_map f read)
  | give =>
      rw [map_bind]
      exact .give
  | empty =>
      rw [map_bind]
      exact .empty
  | peek found => exact .peek (holds_map f found)
  | unwrap found =>
      rw [map_consume]
      exact .unwrap (holds_map f found)
  | discard found =>
      rw [map_consume]
      exact .discard (holds_map f found)
  | @lengthRaw name array found =>
      have same : (array.map f).length = array.length := List.length_map (Slot.map f)
      have effect := Effect.lengthRaw (holds_map f found)
      rwa [same] at effect
  | swapRaw found brought read =>
      rw [map_bind, map_consume, map_bind, Binding.map, Binding.map, SlotArray.map, List.map_set]
      exact .swapRaw (holds_map f found) (holds_map f brought) (read_map (Slot.map f) read)
  | shareRaw found read => exact .shareRaw (holds_map f found) (read_map (Slot.map f) read)
  | take found read =>
      rw [map_bind, Binding.map, SlotArray.map, List.map_set]
      exact .take (holds_map f found) (read_map (Slot.map f) read)
  | put found read =>
      rw [map_bind, Binding.map, SlotArray.map, List.map_set]
      exact .put (holds_map f found) (read_map (Slot.map f) read)
  | freeRaw found vacant =>
      rw [map_consume]
      refine .freeRaw (holds_map f found) fun strict => ?_
      exact (SlotArray.full_count_map f _).trans (vacant strict)
  | freeLseq found vacant =>
      rw [map_consume]
      exact .freeLseq (holds_map f found) ((SlotArray.full_count_map f _).trans vacant)

theorem refuses_map {fault : Fault} (refused : session.Refuses step fault) :
    (session.map f).Refuses (step.map f) fault := by
  cases refused with
  | denied requested denied => exact .denied ((step.requests_map f).trans requested) denied
  | outside addressed found measured outside =>
      exact .outside ((step.addresses_map f).trans addressed) (holds_map f found)
        ((Binding.length_map f _).trans measured) outside
  | peek found => exact .peek (holds_map f found)
  | unwrap found => exact .unwrap (holds_map f found)
  | take found read => exact .take (holds_map f found) (read_map (Slot.map f) read)
  | put found read => exact .put (holds_map f found) (read_map (Slot.map f) read)
  | @freeRaw name array strict found occupied =>
      rw [← SlotArray.full_count_map f array] at occupied ⊢
      exact .freeRaw strict (holds_map f found) occupied
  | @freeLseq name array found occupied =>
      rw [← SlotArray.full_count_map f array] at occupied ⊢
      exact .freeLseq (holds_map f found) occupied

-- Refusals speak of names, lengths and places, none of which are payloads.
def replacement : Translation α β where
  session := map f
  step := Step.map f
  answer := Answer.map f
  fault := id
  op := Step.op_map f
  valid {before told} valid := (before.validate_map f told).trans valid
  invalid {before told violation} invalid :=
    ⟨violation, (before.validate_map f told).trans invalid, rfl⟩
  effect := effect_map f
  refuses := refuses_map f

end Session

def Outcome.map (f : α → β) (outcome : Outcome α) : Outcome β :=
  ⟨outcome.step, outcome.op, outcome.answer.map (Answer.map f)⟩

def Report.map (f : α → β) (report : Report α) : Report β :=
  ⟨report.outcomes.map (Outcome.map f), report.failure⟩

namespace Session

variable [Allocator]

theorem run_from_map (f : α → β) (number : Nat) (session : Session α) (steps : List (Step α)) :
    ((session.map f).runFrom number (steps.map (Step.map f))).report =
        (session.runFrom number steps).report.map f ∧
      ((session.map f).runFrom number (steps.map (Step.map f))).session =
        (session.runFrom number steps).session.map f := by
  obtain ⟨report, ended⟩ := (replacement f).run_from number session steps
  refine ⟨report.trans ?_, ended⟩
  have failure : (session.runFrom number steps).report.failure.map (replacement f).failure =
      (session.runFrom number steps).report.failure := Option.map_id_apply
  exact congrArg (Report.mk _) failure

end Session

def Op.mapValue (f : Json → Json) : Op → Json → Json
  | .length, count | .lengthRaw, count => count
  | .unleash, .array elements => .array (elements.map f)
  | .swapRaw, .object [("full", content)] => .object [("full", f content)]
  | .shareRaw, .object [("full", content)] => .object [("full", f content)]
  | .swapRaw, vacant | .shareRaw, vacant => vacant
  | _, element => f element

def Outcome.value? (outcome : Outcome Json) : Option Json := outcome.answer.map Answer.json

namespace Session

variable [Allocator] (f : Json → Json)

theorem effect_value_map {session next : Session Json} {step : Step Json}
    {answer : Option (Answer Json)} (effect : session.Effect step answer next) :
    (answer.map (Answer.map f)).map Answer.json =
      (answer.map Answer.json).map (step.op.mapValue f) := by
  cases effect with
  | @swapRaw name index source into array new old found brought read => cases old <;> rfl
  | @shareRaw name index array slot found read => cases slot <;> rfl
  | _ => rfl

theorem run_values_map (number : Nat) (session : Session Json) (steps : List (Step Json)) :
    (session.runFrom number steps).report.outcomes.map (fun outcome => (outcome.map f).value?) =
      (session.runFrom number steps).report.outcomes.map fun outcome =>
        outcome.value?.map (outcome.op.mapValue f) := by
  induction session, steps using tried_induction generalizing number with
  | nil session => rfl
  | failed session step rest fault outcome ih =>
      rw [run_from_error outcome]
      rfl
  | succeeded session step rest answer outcome ih =>
      rw [run_from_ok outcome]
      have value := effect_value_map f (execute_ok outcome).2
      exact List.cons_eq_cons.mpr ⟨value, ih (number + 1)⟩

end Session

theorem payloads_never_steer [Allocator] (f : Json → Json) (script : Script Json) :
    let first := (Session.new script.config).run script.steps
    let second := (Session.new (script.map f).config).run (script.map f).steps
    second.report.failure = first.report.failure ∧
    second.report.outcomes = first.report.outcomes.map (Outcome.map f) ∧
    second.report.outcomes.map Outcome.value? =
      first.report.outcomes.map (fun outcome => outcome.value?.map (outcome.op.mapValue f)) ∧
    second.session.bindings = first.session.bindings.map (Entry.map f) ∧
    second.session.bindings.map Entry.shape = first.session.bindings.map Entry.shape := by
  intro first second
  have mapped := Session.run_from_map f 0 (Session.new script.config) script.steps
  have report : second.report = first.report.map f := mapped.1
  have bindings : second.session.bindings = first.session.bindings.map (Entry.map f) :=
    congrArg Session.bindings mapped.2
  have outcomes : second.report.outcomes = first.report.outcomes.map (Outcome.map f) := by
    rw [report, Report.map]
  refine ⟨?_, outcomes, ?_, bindings, ?_⟩
  · rw [report, Report.map]
  · rw [outcomes, List.map_map]
    exact Session.run_values_map f 0 (Session.new script.config) script.steps
  · rw [bindings]
    ext1 name
    rw [Table.find_map, Table.find_map, Table.find_map, Option.map_map]
    congr 1
    exact funext (Entry.shape_map f)

-- Every payload comes out wrapped; a length and an empty slot do not, and the step that finds the slot
-- empty fails as before.
theorem payloads_never_steer_when_wrapped :
    let wrap : Json → Json := fun value => .array [value]
    let script : Script Json :=
      ⟨⟨.null, {}, false⟩,
        [.alloc "s" 2, .set "s" 1 (.bool true), .get "s" 1, .length "s", .unleash "s" "t",
          .allocRaw "l" 1, .give "m" (.string "x"), .swapRaw "l" 0 "m" "old", .shareRaw "l" 0,
          .peek "old"]⟩
    let first := (Session.new script.config).run script.steps
    let second := (Session.new (script.map wrap).config).run (script.map wrap).steps
    let failure : StepFailure := ⟨9, .peek, .contractViolation .peekEmpty⟩
    first.report.failure = some failure ∧ second.report.failure = some failure ∧
    second.report.outcomes.map Outcome.value? =
      [none, none, some (.array [.bool true]), some (.number (.int 2)),
        some (.array [.array [.null], .array [.bool true]]), none, none, some (.string "empty"),
        some (.object [("full", .array [.string "x"])])] ∧
    second.session.bindings.find? "l" =
      some (.live (.lseq ⟨[.full (.array [.string "x"])]⟩)) := by
  intro wrap script first second failure
  obtain ⟨failed, _, values, bindings, _⟩ := payloads_never_steer wrap script
  have stopped : first.report.failure = some failure := by decide +kernel
  refine ⟨stopped, failed.trans stopped, values.trans ?_, ?_⟩
  · decide +kernel
  · rw [bindings, Table.find_map]
    have held : first.session.bindings.find? "l" =
        some (.live (.lseq ⟨[.full (.string "x")]⟩)) := by
      decide +kernel
    rw [held]
    rfl

end LinearStore
