import LinearStore.Proofs.Script.Discipline

set_option autoImplicit false

namespace LinearStore

variable {α : Type}

namespace Step

def touches (step : Step α) (name : String) : Bool := step.releases name || step.definesName name

-- A step that consumes a name and defines it too leaves it defined.
def leaves (step : Step α) (name : String) : NameState :=
  match step.defines with
  | some (defined, kind) => if name = defined then .live kind else .consumed step.op
  | none => .consumed step.op

theorem leaves_of_defines {step : Step α} {name : String} {kind : Kind}
    (defined : step.defines = some (name, kind)) : step.leaves name = .live kind := by
  rw [leaves, defined]
  exact if_pos rfl

theorem leaves_of_not_defined {step : Step α} {name : String}
    (other : step.definesName name = false) : step.leaves name = .consumed step.op := by
  rw [leaves]
  cases defined : step.defines with
  | none => rfl
  | some definition => exact if_neg (ne_of_not_defined other defined)

theorem leaves_eq_live_iff {step : Step α} {name : String} {kind : Kind} :
    step.leaves name = .live kind ↔ step.defines = some (name, kind) := by
  constructor
  · intro left
    cases redefined : step.definesName name with
    | false =>
        rw [leaves_of_not_defined redefined] at left
        cases left
    | true =>
        obtain ⟨found, defined⟩ := defines_of_defines_name redefined
        rw [leaves_of_defines defined] at left
        cases left
        exact defined
  · exact leaves_of_defines

theorem leaves_eq_consumed_iff {step : Step α} {name : String} {op : Op} :
    step.leaves name = .consumed op ↔ step.definesName name = false ∧ step.op = op := by
  cases redefined : step.definesName name with
  | false => simp [leaves_of_not_defined redefined]
  | true =>
      obtain ⟨kind, defined⟩ := defines_of_defines_name redefined
      simp [leaves_of_defines defined]

theorem releases_of_touches {step : Step α} {name : String} (touched : step.touches name = true)
    (other : step.definesName name = false) : step.releases name = true := by
  simpa [touches, other] using touched

theorem ne_of_untouched_definition {step : Step α} {name defined : String} {kind : Kind}
    (untouched : step.touches name = false) (defines : step.defines = some (defined, kind)) :
    name ≠ defined :=
  ne_of_not_defined (Bool.or_eq_false_iff.mp untouched).2 defines

theorem ne_of_untouched_use {step : Step α} {name : String} {use : Use}
    (untouched : step.touches name = false) (used : use ∈ step.uses)
    (consumed : use.consumes = true) : name ≠ use.name := by
  rintro rfl
  have released : step.releases use.name = true :=
    List.any_eq_true.mpr ⟨use, used, by simp [consumed]⟩
  rw [touches, released, Bool.true_or] at untouched
  cases untouched

theorem untouched_of_linear {step : Step α} {state : String → Option NameState} {name : String}
    {kind : Kind} (valid : step.validate state = .ok ()) (live : state name = some (.live kind))
    (linear : kind.isLinear = true) (kept : step.releases name = false) :
    step.touches name = false := by
  cases redefined : step.definesName name with
  | false => rw [touches, kept, redefined, Bool.or_false]
  | true =>
      obtain ⟨next, defined⟩ := defines_of_defines_name redefined
      cases kept.symm.trans (releases_of_validate valid defined live linear)

theorem find_apply_names_of_touches {step : Step α} {name : String}
    (touched : step.touches name = true) (names : Table NameState) :
    (step.applyNames names).find? name = some (step.leaves name) := by
  cases redefined : step.definesName name with
  | false =>
      rw [find_apply_names_of_not_defined redefined, if_pos (releases_of_touches touched redefined),
        leaves_of_not_defined redefined]
  | true =>
      obtain ⟨kind, defined⟩ := defines_of_defines_name redefined
      rw [find_apply_names_defined defined, leaves_of_defines defined]

theorem find_apply_names_of_untouched {step : Step α} {name : String}
    (untouched : step.touches name = false) (names : Table NameState) :
    (step.applyNames names).find? name = names.find? name := by
  obtain ⟨kept, other⟩ := Bool.or_eq_false_iff.mp untouched
  rw [find_apply_names_of_not_defined other, if_neg (kept ▸ Bool.false_ne_true)]

end Step

namespace Script

def Untouched (steps : List (Step α)) (name : String) (number : Nat) : Prop :=
  ∀ place step, place < number → steps[place]? = some step → step.touches name = false

-- The last step before the one with this number that consumed or defined the name.
structure LatestToucher (steps : List (Step α)) (name : String) (number place : Nat)
    (toucher : Step α) : Prop where
  earlier : place < number
  found : steps[place]? = some toucher
  touches : toucher.touches name = true
  last : ∀ later step, place < later → later < number → steps[later]? = some step →
    step.touches name = false

theorem LatestToucher.unique {steps : List (Step α)} {name : String} {number place other : Nat}
    {toucher rival : Step α} (latest : LatestToucher steps name number place toucher)
    (latest' : LatestToucher steps name number other rival) : place = other ∧ toucher = rival := by
  have same : place = other := by
    rcases Nat.lt_trichotomy place other with less | equal | greater
    · have idle := latest.last other rival less latest'.earlier latest'.found
      rw [latest'.touches] at idle
      cases idle
    · exact equal
    · have idle := latest'.last place toucher greater latest.earlier latest.found
      rw [latest.touches] at idle
      cases idle
  subst same
  exact ⟨rfl, Option.some.inj (latest.found.symm.trans latest'.found)⟩

theorem Untouched.not_latest_toucher {steps : List (Step α)} {name : String} {number place : Nat}
    {toucher : Step α} (untouched : Untouched steps name number) :
    ¬ LatestToucher steps name number place toucher := by
  intro latest
  have idle := untouched place toucher latest.earlier latest.found
  rw [latest.touches] at idle
  cases idle

theorem latest_toucher_of_touches {steps : List (Step α)} {name : String} {number : Nat}
    {step : Step α} (found : steps[number]? = some step) (touched : step.touches name = true) :
    LatestToucher steps name (number + 1) number step := by
  refine ⟨Nat.lt_succ_self number, found, touched, ?_⟩
  intro later other after earlier
  omega

def IdleAt (steps : List (Step α)) (name : String) (number : Nat) : Prop :=
  ∀ step, steps[number]? = some step → step.touches name = false

theorem Untouched.succ {steps : List (Step α)} {name : String} {number : Nat}
    (untouched : Untouched steps name number) (idle : IdleAt steps name number) :
    Untouched steps name (number + 1) := by
  intro place step earlier found
  rcases Nat.lt_succ_iff_lt_or_eq.mp earlier with before | rfl
  · exact untouched place step before found
  · exact idle step found

theorem LatestToucher.succ {steps : List (Step α)} {name : String} {number place : Nat}
    {toucher : Step α} (latest : LatestToucher steps name number place toucher)
    (idle : IdleAt steps name number) : LatestToucher steps name (number + 1) place toucher := by
  refine ⟨Nat.lt_succ_of_lt latest.earlier, latest.found, latest.touches, ?_⟩
  intro later step after earlier found
  rcases Nat.lt_succ_iff_lt_or_eq.mp earlier with before | rfl
  · exact latest.last later step after before found
  · exact idle step found

def namesBefore (steps : List (Step α)) (number : Nat) : Table NameState :=
  namesAfter .empty (steps.take number)

theorem names_before_length (steps : List (Step α)) :
    namesBefore steps steps.length = namesAfter .empty steps := by
  rw [namesBefore, List.take_length]

theorem names_before_succ {steps : List (Step α)} {number : Nat} {step : Step α}
    (found : steps[number]? = some step) :
    namesBefore steps (number + 1) = step.applyNames (namesBefore steps number) := by
  rw [namesBefore, List.take_add_one, found, names_after_append]
  rfl

theorem find_names_before_succ_of_idle {steps : List (Step α)} {name : String} {number : Nat}
    (idle : IdleAt steps name number) :
    (namesBefore steps (number + 1)).find? name = (namesBefore steps number).find? name := by
  cases found : steps[number]? with
  | none => rw [namesBefore, List.take_add_one, found, Option.toList, List.append_nil, namesBefore]
  | some step =>
      rw [names_before_succ found, Step.find_apply_names_of_untouched (idle step found)]

-- Induction on the steps so far: the next one touches the name and is the latest to do so, or all
-- that was known of the name still stands.
theorem find_names_before (steps : List (Step α)) (name : String) (number : Nat) :
    (Untouched steps name number ∧ (namesBefore steps number).find? name = none) ∨
      ∃ place toucher, LatestToucher steps name number place toucher ∧
        (namesBefore steps number).find? name = some (toucher.leaves name) := by
  induction number with
  | zero => exact Or.inl ⟨fun place step earlier => absurd earlier (Nat.not_lt_zero place), rfl⟩
  | succ number ih =>
      by_cases idle : IdleAt steps name number
      · rw [find_names_before_succ_of_idle idle]
        rcases ih with ⟨untouched, absent⟩ | ⟨place, toucher, latest, left⟩
        · exact Or.inl ⟨untouched.succ idle, absent⟩
        · exact Or.inr ⟨place, toucher, latest.succ idle, left⟩
      · obtain ⟨step, busy⟩ := Classical.not_forall.mp idle
        obtain ⟨found, touched⟩ := Classical.not_imp.mp busy
        have touched : step.touches name = true := by simpa using touched
        refine Or.inr ⟨number, step, latest_toucher_of_touches found touched, ?_⟩
        rw [names_before_succ found, Step.find_apply_names_of_touches touched]

theorem find_names_before_eq_some_iff {steps : List (Step α)} {name : String} {number : Nat}
    {state : NameState} :
    (namesBefore steps number).find? name = some state ↔
      ∃ place toucher, LatestToucher steps name number place toucher ∧
        toucher.leaves name = state := by
  rcases find_names_before steps name number with ⟨untouched, absent⟩ | ⟨_, _, latest, left⟩
  · constructor
    · intro found
      rw [absent] at found
      cases found
    · rintro ⟨place, toucher, latest, _⟩
      exact absurd latest untouched.not_latest_toucher
  · constructor
    · intro found
      exact ⟨_, _, latest, Option.some.inj (left.symm.trans found)⟩
    · rintro ⟨place, toucher, latest', rfl⟩
      obtain ⟨_, rfl⟩ := latest.unique latest'
      exact left

theorem find_names_before_eq_none_iff {steps : List (Step α)} {name : String} {number : Nat} :
    (namesBefore steps number).find? name = none ↔ Untouched steps name number := by
  rcases find_names_before steps name number with ⟨untouched, absent⟩ | ⟨_, _, latest, left⟩
  · exact iff_of_true absent untouched
  · refine iff_of_false ?_ fun untouched => untouched.not_latest_toucher latest
    rw [left]
    exact Option.some_ne_none _

theorem live_before_iff {steps : List (Step α)} {name : String} {number : Nat} {kind : Kind} :
    (namesBefore steps number).find? name = some (.live kind) ↔
      ∃ place toucher, LatestToucher steps name number place toucher ∧
        toucher.defines = some (name, kind) := by
  simp only [find_names_before_eq_some_iff, Step.leaves_eq_live_iff]

theorem consumed_before_iff {steps : List (Step α)} {name : String} {number : Nat} {op : Op} :
    (namesBefore steps number).find? name = some (.consumed op) ↔
      ∃ place toucher, LatestToucher steps name number place toucher ∧
        toucher.definesName name = false ∧ toucher.op = op := by
  simp only [find_names_before_eq_some_iff, Step.leaves_eq_consumed_iff]

end Script

end LinearStore
