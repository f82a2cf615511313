import LinearStore.Proofs.Session.Execution

set_option autoImplicit false

namespace LinearStore

variable {α : Type}

namespace Step

theorem addresses_of_requests {step : Step α} {length : UInt64}
    (requested : step.requests = some length) : step.addresses = none := by
  cases step with
  | alloc | allocInit | allocRaw => rfl
  | _ => cases requested

end Step

namespace Session

variable {session : Session α} {step : Step α}

theorem holds_unique {name : String} {binding other : Binding α}
    (found : session.Holds name binding) (found' : session.Holds name other) : binding = other :=
  Entry.live.inj (Option.some.inj (found.symm.trans found'))

variable [Allocator]

theorem effect_unique {answer other : Option (Answer α)} {next rest : Session α}
    (effect : session.Effect step answer next) (effect' : session.Effect step other rest) :
    answer = other ∧ next = rest := by
  cases effect with
  | alloc | allocInit | allocRaw | give | empty =>
      cases effect'
      exact ⟨rfl, rfl⟩
  | _ =>
      cases effect'
      grind [holds_unique]

theorem effect_inside {answer : Option (Answer α)} {next : Session α}
    (effect : session.Effect step answer next) {name : String} {index : UInt64}
    {binding : Binding α} {length : Nat} (addressed : step.addresses = some (name, index))
    (found : session.Holds name binding) (measured : binding.length? = some length) :
    index.toNat < length := by
  cases effect with
  | get found' read | set found' read | select found' read | shareRaw found' read
  | take found' read | put found' read | swapRaw found' _ read =>
      cases addressed
      cases holds_unique found found'
      cases measured
      exact (List.getElem?_eq_some_iff.mp read).1
  | _ => cases addressed

theorem effect_granted {answer : Option (Answer α)} {next : Session α}
    (effect : session.Effect step answer next) {length : UInt64}
    (requested : step.requests = some length) :
    session.config.limits.grant payloadBytes length.toNat = .ok () := by
  cases effect with
  | alloc granted | allocInit granted | allocRaw granted =>
      cases requested
      exact granted
  | _ => cases requested

theorem effect_not_refused {answer : Option (Answer α)} {next : Session α} {fault : Fault}
    (effect : session.Effect step answer next) : ¬ session.Refuses step fault := by
  intro refused
  cases refused with
  | denied requested denied => cases denied.symm.trans (effect_granted effect requested)
  | outside addressed found measured outside =>
      exact Nat.not_lt.mpr outside (effect_inside effect addressed found measured)
  | peek | unwrap | take | put | freeRaw | freeLseq =>
      cases effect
      grind [holds_unique]

theorem denied_unique {length : UInt64} {reason : Refusal} {fault : Fault}
    (requested : step.requests = some length)
    (denied : session.config.limits.grant payloadBytes length.toNat =
      .error (.allocation length.toNat reason))
    (refused : session.Refuses step fault) : fault = .allocation length.toNat reason := by
  cases refused with
  | denied requested' denied' =>
      cases requested.symm.trans requested'
      exact Except.error.inj (denied'.symm.trans denied)
  | outside addressed =>
      rw [Step.addresses_of_requests requested] at addressed
      cases addressed
  | _ => cases requested

theorem outside_unique {name : String} {index : UInt64} {binding : Binding α} {length : Nat}
    {fault : Fault} (addressed : step.addresses = some (name, index))
    (found : session.Holds name binding) (measured : binding.length? = some length)
    (outside : length ≤ index.toNat) (refused : session.Refuses step fault) :
    fault = .indexOutOfRange index.toNat length := by
  cases refused with
  | denied requested =>
      rw [Step.addresses_of_requests requested] at addressed
      cases addressed
  | outside addressed' found' measured' =>
      cases addressed.symm.trans addressed'
      cases holds_unique found found'
      cases measured.symm.trans measured'
      rfl
  | peek | unwrap | freeRaw | freeLseq => cases addressed
  | take found' read | put found' read =>
      cases addressed
      cases holds_unique found found'
      cases measured
      have inside := (List.getElem?_eq_some_iff.mp read).1
      exact absurd inside (Nat.not_lt.mpr outside)

theorem refuses_unique {fault other : Fault} (refused : session.Refuses step fault)
    (refused' : session.Refuses step other) : fault = other := by
  have kept := refused
  cases refused with
  | denied requested denied => exact (denied_unique requested denied refused').symm
  | outside addressed found measured outside =>
      exact (outside_unique addressed found measured outside refused').symm
  | peek | unwrap | take | put | freeRaw | freeLseq =>
      cases refused' with
      | denied requested => cases requested
      | outside addressed found measured outside =>
          exact outside_unique addressed found measured outside kept
      | _ => grind [holds_unique]

theorem execute_of_effect {answer : Option (Answer α)} {next : Session α}
    (valid : step.validate session.state = .ok ()) (effect : session.Effect step answer next) :
    (session.execute step).outcome = .ok answer ∧ (session.execute step).session = next := by
  have obeys := execute_of_valid valid
  rw [Execution.Obeys] at obeys
  cases outcome : (session.execute step).outcome with
  | error fault =>
      rw [outcome] at obeys
      exact absurd obeys.1 (effect_not_refused effect)
  | ok given =>
      rw [outcome] at obeys
      obtain ⟨rfl, rest⟩ := effect_unique effect obeys
      exact ⟨rfl, rest.symm⟩

theorem execute_of_refuses {fault : Fault} (valid : step.validate session.state = .ok ())
    (refused : session.Refuses step fault) : (session.execute step).outcome = .error fault := by
  have obeys := execute_of_valid valid
  rw [Execution.Obeys] at obeys
  cases outcome : (session.execute step).outcome with
  | error found =>
      rw [outcome] at obeys
      rw [refuses_unique refused obeys.1]
  | ok given =>
      rw [outcome] at obeys
      exact absurd refused (effect_not_refused obeys)

end Session

end LinearStore
