import Debugger.Proofs.Flags
import Mathlib.Data.List.Induction

/-!
# The phases of a session

The phase of a session is read off five flags that are never reset together. A host that keeps to its part begins the
evaluation only when the start was granted, announces nothing before that, and leaves the flags alone that tell the
phase (`KeepsContract`). Then the flags are set in the order of the phases (`Flags.Ordered`), and with every operation
the phase stays or goes on along `Phase.Leads` (`phase_machine`).
-/

namespace Debugger

/-- The steps from one phase to another. -/
inductive Phase.Leads : Phase → Phase → Prop
  | ready : Leads .idle .ready
  | running : Leads .ready .running
  | paused : Leads .running .paused
  | resumed : Leads .paused .running
  | terminated (phase : Phase) : Leads phase .terminated

namespace Flags

/-- Both sides are ready. -/
def Met (flags : Flags) : Prop := flags.sessionReady = true ∧ flags.clientConfigured = true

/-- Each of the flags that tell the phase is set after the one before. -/
structure Ordered (flags : Flags) : Prop where
  requested : flags.Met → flags.startRequested = true
  started : flags.started = true → flags.startRequested = true
  paused : flags.paused = true → flags.started = true

/-- The flags that tell the phase may have been set, each with the one before set already. -/
structure Onward (flags flags' : Flags) : Prop where
  terminate : flags.terminate = true → flags'.terminate = true
  requested : flags.startRequested = true → flags'.startRequested = true
  started : flags.started = true → flags'.started = true
  met : flags'.startRequested = true → flags.startRequested = true ∨ flags'.Met
  begun : flags'.started = true → flags.started = true ∨ flags.startRequested = true
  paused : flags'.paused = flags.paused
  order : flags'.Met → flags'.startRequested = true

variable {flags flags' : Flags}

private theorem Ordered.onward (h : flags.Ordered) (hon : flags.Onward flags') : flags'.Ordered where
  requested := hon.order
  started hstarted := hon.requested ((hon.begun hstarted).elim h.started id)
  paused hpaused := hon.started (h.paused (hon.paused ▸ hpaused))

private theorem phase_eq_terminated : flags.phase = .terminated ↔ flags.terminate = true := by
  cases ht : flags.terminate <;> cases hp : flags.paused <;> cases hs : flags.started <;>
    cases hr : flags.startRequested <;> simp [phase, ht, hp, hs, hr]

private theorem phase_eq_paused : flags.phase = .paused ↔ flags.terminate = false ∧ flags.paused = true := by
  cases ht : flags.terminate <;> cases hp : flags.paused <;> cases hs : flags.started <;>
    cases hr : flags.startRequested <;> simp [phase, ht, hp, hs, hr]

private theorem phase_eq_running :
    flags.phase = .running ↔ flags.terminate = false ∧ flags.paused = false ∧ flags.started = true := by
  cases ht : flags.terminate <;> cases hp : flags.paused <;> cases hs : flags.started <;>
    cases hr : flags.startRequested <;> simp [phase, ht, hp, hs, hr]

private theorem phase_eq_ready : flags.phase = .ready ↔
    flags.terminate = false ∧ flags.paused = false ∧ flags.started = false ∧ flags.startRequested = true := by
  cases ht : flags.terminate <;> cases hp : flags.paused <;> cases hs : flags.started <;>
    cases hr : flags.startRequested <;> simp [phase, ht, hp, hs, hr]

private theorem phase_eq_idle : flags.phase = .idle ↔
    flags.terminate = false ∧ flags.paused = false ∧ flags.started = false ∧ flags.startRequested = false := by
  cases ht : flags.terminate <;> cases hp : flags.paused <;> cases hs : flags.started <;>
    cases hr : flags.startRequested <;> simp [phase, ht, hp, hs, hr]

private theorem Onward.phase (hon : flags.Onward flags') :
    flags'.phase = flags.phase ∨ flags.phase.Leads flags'.phase := by
  -- one flag after the other, in the order in which the phase is read off them
  by_cases hterminate' : flags'.terminate = true
  · rw [phase_eq_terminated.2 hterminate']
    exact .inr (.terminated _)
  have hterminate : flags.terminate = false := by
    rw [Bool.eq_false_iff]
    exact fun hset => hterminate' (hon.terminate hset)
  rw [Bool.not_eq_true] at hterminate'
  by_cases hpaused : flags.paused = true
  · left
    rw [phase_eq_paused.2 ⟨hterminate, hpaused⟩, phase_eq_paused.2 ⟨hterminate', hon.paused.trans hpaused⟩]
  rw [Bool.not_eq_true] at hpaused
  have hpaused' : flags'.paused = false := hon.paused.trans hpaused
  by_cases hstarted : flags.started = true
  · left
    rw [phase_eq_running.2 ⟨hterminate, hpaused, hstarted⟩,
      phase_eq_running.2 ⟨hterminate', hpaused', hon.started hstarted⟩]
  rw [Bool.not_eq_true] at hstarted
  by_cases hrequested : flags.startRequested = true
  · rw [phase_eq_ready.2 ⟨hterminate, hpaused, hstarted, hrequested⟩]
    cases hstarted' : flags'.started with
    | true =>
      rw [phase_eq_running.2 ⟨hterminate', hpaused', hstarted'⟩]
      exact .inr .running
    | false => exact .inl (phase_eq_ready.2 ⟨hterminate', hpaused', hstarted', hon.requested hrequested⟩)
  · have hstarted' : flags'.started = false := by
      rw [Bool.eq_false_iff]
      intro hset
      rcases hon.begun hset with hset | hset
      · rw [hstarted] at hset
        contradiction
      · exact hrequested hset
    rw [Bool.not_eq_true] at hrequested
    rw [phase_eq_idle.2 ⟨hterminate, hpaused, hstarted, hrequested⟩]
    cases hrequested' : flags'.startRequested with
    | true =>
      rw [phase_eq_ready.2 ⟨hterminate', hpaused', hstarted', hrequested'⟩]
      exact .inr .ready
    | false => exact .inl (phase_eq_idle.2 ⟨hterminate', hpaused', hstarted', hrequested'⟩)

end Flags

/-! ### The contract of the host -/

/-- What a host may do, given whether the start was granted before and whether evaluation has begun: one operation at a
time, by which no flag is changed that tells the phase, the evaluation begins only when its start was granted, and
something is announced only when evaluation has begun. -/
def Operation.Allowed (granted begun : Prop) : Operation → Prop
  | .assert flag | .clear flag => flag ≠ .startRequested ∧ flag ≠ .started ∧ flag ≠ .paused
  | .begin | .call [.begin] => granted
  | .call [.hook _] | .call [.stop _ _] => begun
  | .call actions => actions.length = 1
  | _ => True

namespace Engine

/-- One of the operations let the wait for the start return, with the start granted. -/
def Granted (setup : Setup) (e : Engine) (ops : List Operation) : Prop :=
  ∃ before op, before ++ [op] <+: ops ∧ ((e.run setup before).step setup op).2.2 = some (.start true)

/-- Each operation is allowed where it comes. -/
def KeepsContract (setup : Setup) (e : Engine) (ops : List Operation) : Prop :=
  ∀ before op, before ++ [op] <+: ops →
    op.Allowed (Granted setup e before) ((e.run setup before).session.flags.started = true)

end Engine

private theorem Operation.Allowed.single {granted begun : Prop} {op : Operation} (hop : op.Allowed granted begun) :
    ∀ actions, op = .call actions → ∃ a, actions = [a] := by
  rintro actions rfl
  rcases actions with _ | ⟨a, _ | ⟨b, rest⟩⟩
  · exact absurd hop (by simp [Operation.Allowed])
  · exact ⟨a, rfl⟩
  · exact absurd hop (by simp [Operation.Allowed])

private theorem Operation.Allowed.onward {granted begun : Prop} {op : Operation} (hop : op.Allowed granted begun)
    {flags : Flags} (h : flags.Ordered) (hgranted : granted → flags.startRequested = true) :
    flags.Onward (op.effect flags) := by
  have hsame : flags.Onward flags :=
    ⟨id, id, id, .inl, .inl, rfl, h.requested⟩
  have hrequest : ∀ flags' : Flags, flags'.terminate = flags.terminate → flags'.paused = flags.paused →
      flags'.started = flags.started → flags'.startRequested = flags.startRequested →
      flags.Onward flags'.requestStart := by
    intro flags' hterminate hpaused hstarted hrequested
    refine ⟨hterminate ▸ id, ?_, hstarted ▸ id, ?_, fun hset => .inl (hstarted ▸ hset), hpaused, ?_⟩
    · intro hset
      simp [Flags.requestStart, hrequested, hset]
    · intro hset
      simpa [Flags.requestStart, Flags.Met, hrequested] using hset
    · rintro ⟨hready, hconfigured⟩
      have hready : flags'.sessionReady = true := hready
      have hconfigured : flags'.clientConfigured = true := hconfigured
      simp [Flags.requestStart, hready, hconfigured]
  have hbegin : granted → flags.Onward { flags with started := true } :=
    fun hg => ⟨id, id, fun _ => rfl, .inl, fun _ => .inr (hgranted hg), rfl, h.requested⟩
  have hend : flags.Onward { flags with terminate := true } :=
    ⟨fun _ => rfl, id, id, .inl, .inl, rfl, h.requested⟩
  cases op with
  | assert flag =>
    obtain ⟨hrequested, hstarted, hpaused⟩ := hop
    cases flag with
    | startRequested => contradiction
    | started => contradiction
    | paused => contradiction
    | clientConfigured => exact hrequest _ rfl rfl rfl rfl
    | sessionReady => exact hrequest _ rfl rfl rfl rfl
    | terminate => exact hend
    | suppressLogs => exact ⟨id, id, id, .inl, .inl, rfl, h.requested⟩
  | clear flag =>
    obtain ⟨hrequested, hstarted, hpaused⟩ := hop
    cases flag with
    | startRequested => contradiction
    | started => contradiction
    | paused => contradiction
    | clientConfigured => exact ⟨id, id, id, .inl, .inl, rfl, fun hmet => absurd hmet.2 Bool.false_ne_true⟩
    | sessionReady => exact ⟨id, id, id, .inl, .inl, rfl, fun hmet => absurd hmet.1 Bool.false_ne_true⟩
    | terminate => exact hsame
    | suppressLogs => exact ⟨id, id, id, .inl, .inl, rfl, h.requested⟩
  | begin => exact hbegin hop
  | terminate => exact hend
  | disconnect => exact hend
  | call actions =>
    rcases actions with _ | ⟨a, _ | ⟨b, rest⟩⟩
    · exact hsame
    · cases a with
      | prepare path => exact hrequest _ rfl rfl rfl rfl
      | begin => exact hbegin hop
      | exit code => exact hend
      | _ => exact hsame
    · exact hsame
  | _ => exact hsame

/-! ### One operation -/

namespace Session

private theorem requested_of_outcome {s : Session} {w : Wait} (h : s.outcome? w = some (.start true)) :
    w = .start ∧ s.flags.startRequested = true := by
  cases w with
  | start =>
    refine ⟨rfl, ?_⟩
    by_contra hno
    simp only [outcome?, hno] at h
    split at h <;> simp at h
  | resume | disconnect =>
    simp only [outcome?] at h
    split at h <;> simp at h

private theorem granted_perform {setup : Setup} {s : Session} {a : Action}
    (h : (s.perform setup a).2.outcome? = some (.start true)) :
    (s.perform setup a).1.flags.startRequested = true := by
  have hawait : ∀ (t : Session) (w : Wait), (t.await w).2.outcome? = some (.start true) →
      w = .start ∧ (t.await w).1.flags.startRequested = true := by
    intro t w hw
    rcases await_cases t w with ⟨outcome, ho, hs⟩ | ⟨-, hs⟩ <;> rw [hs] at hw ⊢
    · obtain rfl := Option.some.inj hw
      obtain ⟨rfl, hrequested⟩ := requested_of_outcome ho
      exact ⟨rfl, hrequested⟩
    · contradiction
  have hif : ∀ stopped : Session × Bool, (awaitIf stopped).2.outcome? ≠ some (.start true) := by
    intro stopped hw
    unfold awaitIf at hw
    split at hw
    · cases (hawait _ _ hw).1
    · simp [Progress.outcome?] at hw
  cases a with
  | hook hook => exact absurd h (hif _)
  | stop what snapshot => exact absurd h (hif _)
  | awaitStart => exact (hawait _ _ h).2
  | exit code => cases (hawait _ _ h).1
  | _ => simp [perform, Progress.outcome?] at h

end Session

namespace Engine

variable {setup : Setup} {e : Engine} {op : Operation}

/-- A wait returns with the start granted only where it was requested. -/
private theorem requested_of_granted (hsingle : e.Single) (hop : ∀ actions, op = .call actions → ∃ a, actions = [a])
    (h : (e.step setup op).2.2 = some (.start true)) :
    (e.step setup op).1.session.flags.startRequested = true := by
  by_cases hcall : ∃ actions, op = .call actions
  · obtain ⟨actions, rfl⟩ := hcall
    obtain ⟨a, rfl⟩ := hop actions rfl
    rcases step_call_cases setup e [a] with ⟨hnone, -⟩ | ⟨_, _, _, _, _, hs⟩ | ⟨-, hs⟩
    · rw [step_call_singleton setup hnone a] at h ⊢
      exact Session.granted_perform h
    · rw [hs] at h
      contradiction
    · rw [hs] at h
      contradiction
  · have hcall : ∀ actions, op ≠ .call actions := fun actions heq => hcall ⟨actions, heq⟩
    by_cases hgrace : op = .graceExpires
    · subst hgrace
      rcases step_graceExpires_cases setup e with hs | ⟨code, rest, hw, hs⟩ <;> rw [hs] at h
      · contradiction
      · obtain rfl := hsingle _ rest hw
        simp [proceed, Session.advance_nil] at h
    · rw [step_of_served setup e op hcall hgrace] at h ⊢
      rcases (single_serve hsingle op).settle_cases setup with hs | ⟨w, outcome, -, ho, hs⟩ <;> rw [hs] at h ⊢
      · contradiction
      · obtain rfl := Option.some.inj h
        obtain ⟨rfl, hrequested⟩ := Session.requested_of_outcome ho
        exact hrequested

private theorem single_step (hsingle : e.Single) (hop : ∀ actions, op = .call actions → ∃ a, actions = [a]) :
    (e.step setup op).1.Single := by
  have hnone : ∀ e' : Engine, e'.call = none → e'.Single := by
    intro e' hnone w rest hw
    rw [hnone] at hw
    contradiction
  by_cases hcall : ∃ actions, op = .call actions
  · obtain ⟨actions, rfl⟩ := hcall
    obtain ⟨a, rfl⟩ := hop actions rfl
    rcases step_call_cases setup e [a] with ⟨hidle, -⟩ | ⟨_, _, _, _, _, hs⟩ | ⟨-, hs⟩
    · rw [step_call_singleton setup hidle a]
      intro w rest hw
      obtain ⟨w', -, heq⟩ := Option.map_eq_some_iff.1 hw
      exact (Prod.mk.inj heq).2.symm
    · rw [hs]
      exact hsingle
    · rw [hs]
      exact hsingle
  · have hcall : ∀ actions, op ≠ .call actions := fun actions heq => hcall ⟨actions, heq⟩
    by_cases hgrace : op = .graceExpires
    · subst hgrace
      rcases step_graceExpires_cases setup e with hs | ⟨code, rest, hw, hs⟩ <;> rw [hs]
      · exact hsingle
      · obtain rfl := hsingle _ rest hw
        exact hnone _ (by simp only [proceed, Session.advance_nil])
    · rw [step_of_served setup e op hcall hgrace]
      rcases (single_serve hsingle op).settle_cases setup with hs | ⟨w, outcome, -, -, hs⟩ <;> rw [hs]
      · exact single_serve hsingle op
      · exact hnone _ rfl

private theorem step_resume_ok (hsingle : e.Single) {command : Resume}
    (hok : (e.step setup (.resume command)).2.1 = .ok) :
    e.session.flags.terminate = false ∧ e.session.flags.paused = true ∧
      (e.step setup (.resume command)).1.session.flags = { e.session.flags with paused := false } := by
  have hcall : ∀ actions, Operation.resume command ≠ .call actions := by simp
  rw [step_of_served setup e _ hcall (by simp)] at hok ⊢
  rw [flags_settle setup (single_serve hsingle _)]
  rcases e.serve_resume_cases command with ⟨-, err, hs⟩ | ⟨⟨hterminate, hpaused⟩, hs⟩ <;> rw [hs] at hok ⊢
  · contradiction
  · exact ⟨hterminate, hpaused, rfl⟩

/-- What an operation that is allowed does to the flags: it sets flags in their order, or it stops an evaluation that
goes on, or it is a resume that is granted. -/
private theorem flags_cases_of_allowed (setup : Setup) (hsingle : e.Single) (hordered : e.session.flags.Ordered)
    {granted : Prop} (hgranted : granted → e.session.flags.startRequested = true)
    (hop : op.Allowed granted (e.session.flags.started = true)) :
    e.session.flags.Onward (e.step setup op).1.session.flags ∨
      (e.session.flags.terminate = false ∧ e.session.flags.paused = false ∧ e.session.flags.started = true ∧
        (e.step setup op).1.session.flags = { e.session.flags with paused := true }) ∨
      ∃ command, op = .resume command ∧ (e.step setup op).2.1 = .ok := by
  have hsame : e.session.flags.Onward e.session.flags :=
    ⟨id, id, id, .inl, .inl, rfl, hordered.requested⟩
  rcases flags_step_cases setup hsingle hop.single with hs | hs | ⟨a, rfl, ha, hfree, hs⟩ | ⟨command, heq, hok, -⟩
  · rw [hs]
    exact .inl hsame
  · rw [hs]
    exact .inl (hop.onward hordered hgranted)
  · refine .inr (.inl ⟨hfree.2.1, hfree.1, ?_, hs⟩)
    cases a with
    | hook | stop => exact hop
    | _ => exact ha.elim
  · exact .inr (.inr ⟨command, heq, hok⟩)

/-! ### Runs -/

/-- What holds along the runs of a host that keeps the contract. -/
structure Regular (setup : Setup) (start : Engine) (ops : List Operation) : Prop where
  single : (start.run setup ops).Single
  ordered : (start.run setup ops).session.flags.Ordered
  granted : Granted setup start ops → (start.run setup ops).session.flags.startRequested = true
  /-- The start is requested when both sides are ready for the first time. -/
  met : (start.run setup ops).session.flags.startRequested = true ↔
    ∃ before, before <+: ops ∧ (start.run setup before).session.flags.Met

private theorem run_concat (setup : Setup) (e : Engine) (ops : List Operation) (op : Operation) :
    e.run setup (ops ++ [op]) = ((e.run setup ops).step setup op).1 := run_append setup e ops [op]

private theorem KeepsContract.of_prefix {start : Engine} {ops more : List Operation}
    (h : KeepsContract setup start more) (hpre : ops <+: more) : KeepsContract setup start ops :=
  fun before op hbefore => h before op (hbefore.trans hpre)

private theorem keepsContract_nil (setup : Setup) (start : Engine) : KeepsContract setup start [] := by
  intro before op hpre
  simp at hpre

private theorem KeepsContract.concat {start : Engine} {ops : List Operation} (h : KeepsContract setup start ops)
    (op : Operation)
    (hop : op.Allowed (Granted setup start ops) ((start.run setup ops).session.flags.started = true)) :
    KeepsContract setup start (ops ++ [op]) := by
  intro before op' hpre
  rcases List.prefix_concat_iff.1 hpre with heq | hshort
  · obtain ⟨rfl, hlast⟩ := List.append_inj' heq rfl
    obtain rfl := (List.cons.inj hlast).1
    exact hop
  · exact h before op' hshort

private theorem Granted.of_concat {start : Engine} {ops : List Operation} (h : Granted setup start (ops ++ [op])) :
    Granted setup start ops ∨ ((start.run setup ops).step setup op).2.2 = some (.start true) := by
  obtain ⟨before, op', hpre, hgranted⟩ := h
  rcases List.prefix_concat_iff.1 hpre with heq | hshort
  · obtain ⟨rfl, hlast⟩ := List.append_inj' heq rfl
    obtain rfl := (List.cons.inj hlast).1
    exact .inr hgranted
  · exact .inl ⟨before, op', hshort, hgranted⟩

private theorem Regular.step {start : Engine} {ops : List Operation} (h : Regular setup start ops)
    (hop : op.Allowed (Granted setup start ops) ((start.run setup ops).session.flags.started = true)) :
    Regular setup start (ops ++ [op]) := by
  have hlast : start.run setup (ops ++ [op]) = ((start.run setup ops).step setup op).1 := run_concat setup start ops op
  set e := start.run setup ops with he
  set flags := e.session.flags
  set flags' := (e.step setup op).1.session.flags with hflags'
  obtain ⟨hordered, hkept, hmet⟩ : flags'.Ordered ∧ (flags.startRequested = true → flags'.startRequested = true) ∧
      (flags'.startRequested = true → flags.startRequested = true ∨ flags'.Met) := by
    rcases flags_cases_of_allowed setup h.single h.ordered h.granted hop with
      hon | ⟨-, -, hstarted, hs⟩ | ⟨command, rfl, hok⟩
    · exact ⟨h.ordered.onward hon, hon.requested, hon.met⟩
    · rw [hflags', hs]
      exact ⟨⟨h.ordered.requested, h.ordered.started, fun _ => hstarted⟩, id, .inl⟩
    · rw [hflags', (step_resume_ok h.single hok).2.2]
      exact ⟨⟨h.ordered.requested, h.ordered.started, fun hpaused => absurd hpaused Bool.false_ne_true⟩, id, .inl⟩
  refine ⟨?_, ?_, ?_, ?_⟩ <;> rw [hlast]
  · exact single_step h.single hop.single
  · exact hordered
  · intro hgranted
    rcases hgranted.of_concat with hbefore | hnow
    · exact hkept (h.granted hbefore)
    · exact requested_of_granted h.single hop.single hnow
  · constructor
    · intro hrequested
      rcases hmet hrequested with hbefore | hnow
      · obtain ⟨before, hpre, hboth⟩ := h.met.1 hbefore
        exact ⟨before, hpre.trans (List.prefix_append ops [op]), hboth⟩
      · exact ⟨ops ++ [op], List.prefix_rfl, by rwa [hlast]⟩
    · rintro ⟨before, hpre, hboth⟩
      rcases List.prefix_concat_iff.1 hpre with rfl | hshort
      · rw [hlast] at hboth
        exact hordered.requested hboth
      · exact hkept (h.met.2 ⟨before, hshort, hboth⟩)

private theorem regular_run (setup : Setup) (files : Files) {ops : List Operation}
    (h : KeepsContract setup (new setup files) ops) : Regular setup (new setup files) ops := by
  induction ops using List.reverseRecOn with
  | nil =>
    refine ⟨fun w rest hw => by contradiction, ⟨fun hmet => hmet.1, id, id⟩, ?_, ?_⟩
    · rintro ⟨before, op, hpre, -⟩
      simp at hpre
    · constructor
      · intro hrequested
        contradiction
      · rintro ⟨before, hpre, hboth⟩
        obtain rfl := List.prefix_nil.1 hpre
        exact absurd hboth.1 Bool.false_ne_true
  | append_singleton ops op ih =>
    have hbefore := h.of_prefix (List.prefix_append ops [op])
    exact (ih hbefore).step (h ops op List.prefix_rfl)

end Engine

/-- Both sides are ready, and the session is not over. -/
def Session.Met (s : Session) : Prop := s.flags.Met ∧ s.phase ≠ .terminated

namespace Engine

section

variable {files : Files} {ops : List Operation} (h : KeepsContract setup (new setup files) (ops ++ [op]))
include h

private theorem flags_cases_of_contract :
    let flags := ((new setup files).run setup ops).session.flags
    let flags' := ((new setup files).run setup (ops ++ [op])).session.flags
    flags.Onward flags' ∨
      (flags.terminate = false ∧ flags.paused = false ∧ flags.started = true ∧ flags' = { flags with paused := true }) ∨
      ∃ command, op = .resume command ∧ (((new setup files).run setup ops).step setup op).2.1 = .ok := by
  have hregular := regular_run setup files (h.of_prefix (List.prefix_append ops [op]))
  intro flags flags'
  have hlast : flags' = (((new setup files).run setup ops).step setup op).1.session.flags :=
    congrArg (fun e => e.session.flags) (run_concat setup (new setup files) ops op)
  rw [hlast]
  exact flags_cases_of_allowed setup hregular.single hregular.ordered hregular.granted (h ops op List.prefix_rfl)

/-- The start is requested with the last operation just when both sides are ready then and were not before. -/
private theorem ready_iff_met :
    ((new setup files).run setup ops).session.phase = .idle ∧
        ((new setup files).run setup (ops ++ [op])).session.phase = .ready ↔
      ((new setup files).run setup (ops ++ [op])).session.Met ∧
        ∀ before, before <+: ops → ¬ ((new setup files).run setup before).session.Met := by
  have hregular := regular_run setup files (h.of_prefix (List.prefix_append ops [op]))
  have hregular' := regular_run setup files h
  have hcases := flags_cases_of_contract h
  have hphases : ∀ before, ((new setup files).run setup before).session.phase =
      ((new setup files).run setup before).session.flags.phase :=
    fun before => Session.phase_eq (mirrored_run setup files before)
  have hover : ∀ before after, ((new setup files).run setup before).session.flags.terminate = true →
      ((new setup files).run setup (before ++ after)).session.flags.terminate = true := by
    intro before after hterminate
    rw [run_append]
    exact (over_run setup ⟨hterminate, mirrored_run setup files before ▸ hterminate⟩ after).1.1
  simp only [Session.Met, hphases, ne_eq, Flags.phase_eq_terminated]
  set flags := ((new setup files).run setup ops).session.flags
  set flags' := ((new setup files).run setup (ops ++ [op])).session.flags
  constructor
  · rintro ⟨hidle, hready⟩
    obtain ⟨-, -, -, hrequested⟩ := Flags.phase_eq_idle.1 hidle
    obtain ⟨hterminate', -, -, hrequested'⟩ := Flags.phase_eq_ready.1 hready
    have hnot : ∀ before, before <+: ops → ¬ ((new setup files).run setup before).session.flags.Met := by
      intro before hpre hboth
      rw [hregular.met.2 ⟨before, hpre, hboth⟩] at hrequested
      contradiction
    refine ⟨⟨?_, by simp [hterminate']⟩, fun before hpre hmet => hnot before hpre hmet.1⟩
    obtain ⟨before, hpre, hboth⟩ := hregular'.met.1 hrequested'
    rcases List.prefix_concat_iff.1 hpre with rfl | hshort
    · exact hboth
    · exact absurd hboth (hnot before hshort)
  · rintro ⟨⟨hboth, hterminate'⟩, hnot⟩
    -- a start that was requested before goes back to a time when both were ready and the session was not over yet
    have hrequested : ¬ flags.startRequested = true := by
      intro hrequested
      obtain ⟨before, hpre, hmet⟩ := hregular.met.1 hrequested
      obtain ⟨after, hafter⟩ := hpre.trans (List.prefix_append ops [op])
      refine hnot before hpre ⟨hmet, fun hterminate => hterminate' ?_⟩
      have hend := hover before after hterminate
      rwa [hafter] at hend
    have hstarted : ¬ flags.started = true := fun hset => hrequested (hregular.ordered.started hset)
    have hpaused : ¬ flags.paused = true := fun hset => hstarted (hregular.ordered.paused hset)
    have hterminate : ¬ flags.terminate = true := fun hset => hterminate' (hover ops [op] hset)
    rw [Bool.not_eq_true] at hterminate' hterminate
    refine ⟨Flags.phase_eq_idle.2 ⟨hterminate, by simpa using hpaused, by simpa using hstarted,
      by simpa using hrequested⟩, ?_⟩
    rcases hcases with hon | ⟨-, -, hset, -⟩ | ⟨command, rfl, hok⟩
    · have hpaused' : flags'.paused = false := by
        rw [hon.paused]
        simpa using hpaused
      have hstarted' : ¬ flags'.started = true := fun hset => (hon.begun hset).elim hstarted hrequested
      exact Flags.phase_eq_ready.2 ⟨hterminate', hpaused', by simpa using hstarted', hregular'.ordered.requested hboth⟩
    · exact absurd hset hstarted
    · exact absurd (step_resume_ok hregular.single hok).2.1 hpaused

end

/-- Along every run of single operations of a host that keeps the contract, the phase stays or leads on with each of
them, and a session that is over stays over. A session gets ready with the operation by which both sides are ready for
the first time, and a pause is over with a resume that is granted. -/
theorem phase_machine (setup : Setup) (files : Files) {ops : List Operation} {op : Operation}
    (h : KeepsContract setup (new setup files) (ops ++ [op])) :
    let e := (new setup files).run setup ops
    let e' := (e.step setup op).1
    (e'.session.phase = e.session.phase ∨ e.session.phase.Leads e'.session.phase) ∧
      (e.session.phase = .terminated → e'.session.phase = .terminated) ∧
      (e.session.phase = .idle ∧ e'.session.phase = .ready ↔
        e'.session.Met ∧ ∀ before, before <+: ops → ¬ ((new setup files).run setup before).session.Met) ∧
      (e.session.phase = .paused ∧ e'.session.phase = .running ↔
        ∃ command, op = .resume command ∧ (e.step setup op).2.1 = .ok) := by
  intro e e'
  have hlast : (new setup files).run setup (ops ++ [op]) = e' := run_concat setup (new setup files) ops op
  have hregular := regular_run setup files (h.of_prefix (List.prefix_append ops [op]))
  have hcases := flags_cases_of_contract h
  have hready := ready_iff_met h
  have hphase : e.session.phase = e.session.flags.phase := Session.phase_eq (mirrored_run setup files ops)
  have hphase' : e'.session.phase = e'.session.flags.phase :=
    Session.phase_eq (hlast ▸ mirrored_run setup files (ops ++ [op]))
  rw [hlast] at hcases hready
  have hresumed : ∀ command, op = .resume command → (e.step setup op).2.1 = .ok →
      e.session.flags.phase = .paused ∧ e'.session.flags.phase = .running := by
    rintro command rfl hok
    obtain ⟨hterminate, hpaused, hs⟩ := step_resume_ok hregular.single hok
    refine ⟨Flags.phase_eq_paused.2 ⟨hterminate, hpaused⟩, Flags.phase_eq_running.2 ?_⟩
    rw [hs]
    exact ⟨hterminate, rfl, hregular.ordered.paused hpaused⟩
  refine ⟨?_, ?_, hready, ?_⟩ <;> rw [hphase, hphase']
  · rcases hcases with hon | ⟨hterminate, hpaused, hstarted, hs⟩ | ⟨command, hop, hok⟩
    · exact hon.phase
    · have hafter : e'.session.flags.phase = .paused := by
        rw [hs]
        exact Flags.phase_eq_paused.2 ⟨hterminate, rfl⟩
      rw [Flags.phase_eq_running.2 ⟨hterminate, hpaused, hstarted⟩, hafter]
      exact .inr .paused
    · obtain ⟨hbefore, hafter⟩ := hresumed command hop hok
      rw [hbefore, hafter]
      exact .inr .resumed
  · intro hover
    rw [Flags.phase_eq_terminated] at hover ⊢
    rcases hcases with hon | ⟨hterminate, -⟩ | ⟨command, hop, hok⟩
    · exact hon.terminate hover
    · exact absurd (hover.symm.trans hterminate) (by simp)
    · have hterminate := (Flags.phase_eq_paused.1 (hresumed command hop hok).1).1
      exact absurd (hover.symm.trans hterminate) (by simp)
  · constructor
    · rintro ⟨hbefore, hafter⟩
      obtain ⟨-, hpaused⟩ := Flags.phase_eq_paused.1 hbefore
      obtain ⟨-, hpaused', -⟩ := Flags.phase_eq_running.1 hafter
      rcases hcases with hon | ⟨-, hfree, -⟩ | hresume
      · rw [hon.paused, hpaused] at hpaused'
        contradiction
      · rw [hpaused] at hfree
        contradiction
      · exact hresume
    · rintro ⟨command, hop, hok⟩
      exact hresumed command hop hok

/-- A flag of the start that is reset after the start was requested leads no phase back, and a stop is over with the
resume. -/
theorem phases_of_a_stop :
    let ops : List Operation := [.assert .sessionReady, .assert .clientConfigured, .clear .sessionReady,
      .call [.awaitStart], .begin, .call [.stop .afterStep {}]]
    KeepsContract {} (new {} {}) (ops ++ [.resume .continue]) ∧
      ((new {} {}).run {} ops).session.phase = .paused ∧
      (((new {} {}).run {} ops).step {} (.resume .continue)).1.session.phase = .running := by
  intro ops
  let first : List Operation := [.assert .sessionReady, .assert .clientConfigured, .clear .sessionReady]
  have hgranted : Granted {} (new {} {}) (first ++ [.call [.awaitStart]]) :=
    ⟨first, .call [.awaitStart], List.prefix_rfl, by decide +kernel⟩
  have hready := (keepsContract_nil {} (new {} {})).concat (.assert .sessionReady) (by simp [Operation.Allowed])
  have hconfigured := hready.concat (.assert .clientConfigured) (by simp [Operation.Allowed])
  have hcleared := hconfigured.concat (.clear .sessionReady) (by simp [Operation.Allowed])
  have hbegun := (hcleared.concat (.call [.awaitStart]) rfl).concat .begin hgranted
  have hstarted : ((new {} {}).run {} (first ++ [.call [.awaitStart], .begin])).session.flags.started = true := by
    decide +kernel
  have hstopped := hbegun.concat (.call [.stop .afterStep {}]) hstarted
  have hall : KeepsContract {} (new {} {}) (ops ++ [.resume .continue]) := hstopped.concat (.resume .continue) trivial
  obtain ⟨-, -, -, hresumed⟩ := phase_machine {} {} hall
  exact ⟨hall, hresumed.2 ⟨.continue, rfl, by rfl⟩⟩

end Engine

end Debugger
