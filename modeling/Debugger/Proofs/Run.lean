import Debugger.Proofs.Action

/-!
# Invariants of runs

A statement about the session and about what the evaluation side waits for holds along every run if the five things
that can happen keep it: an action, the end of a wait, a call beside the outstanding one, the end of the grace period,
and an operation of the client (`Kept.run`). What only actions of a kind keep holds while calls consist of such actions
(`KeptOn.step`). In every state that a run reaches, nothing that is waited for has happened yet (`settled_run`).
-/

namespace Debugger

/-- What evaluation waits for after an action. -/
def Progress.wait? : Progress → Option Wait
  | done _ => none
  | waiting wait => some wait

/-- What evaluation waits for after some actions. -/
def Status.wait? : Status → Option Wait
  | finished _ => none
  | blocked wait _ => some wait

/-- What the outstanding call waits for. -/
def Engine.waiting (e : Engine) : Option Wait := e.call.map (·.1)

theorem Engine.waiting_of_call {e : Engine} {w : Wait} {rest : List Action} (h : e.call = some (w, rest)) :
    e.waiting = some w := by
  rw [waiting, h, Option.map_some]

theorem Engine.waiting_congr {e e' : Engine} (h : e'.call = e.call) : e'.waiting = e.waiting := by
  rw [waiting, waiting, h]

theorem Engine.waiting_of_idle {e : Engine} (h : e.call = none) : e.waiting = none := by
  rw [waiting, h, Option.map_none]

/-! ### Actions one after the other -/

namespace Session

variable {R : Option Wait → Session → Prop}

/-- What each action of a kind keeps, actions of the kind one after the other keep. -/
private theorem advance_induction_on {setup : Setup} {P : Action → Prop}
    (perform : ∀ s a, P a → R none s → R (s.perform setup a).2.wait? (s.perform setup a).1)
    {s : Session} (h : R none s) (outcome : Outcome) {actions : List Action} (hactions : ∀ a ∈ actions, P a) :
    R (s.advance setup outcome actions).2.wait? (s.advance setup outcome actions).1 := by
  induction actions generalizing s outcome with
  | nil =>
    unfold advance
    split <;> first | exact h | contradiction
  | cons a rest ih =>
    rw [List.forall_mem_cons] at hactions
    by_cases ho : outcome = .start false
    · subst ho
      exact h
    · have hp := perform s a hactions.1 h
      simp only [advance]
      split
      · rename_i s' o he
        rw [he] at hp
        exact ih hp o hactions.2
      · rename_i s' wait he
        rw [he] at hp
        exact hp

/-- What each action keeps, actions one after the other keep. -/
theorem advance_induction {setup : Setup}
    (perform : ∀ s a, R none s → R (s.perform setup a).2.wait? (s.perform setup a).1)
    {s : Session} (h : R none s) (outcome : Outcome) (actions : List Action) :
    R (s.advance setup outcome actions).2.wait? (s.advance setup outcome actions).1 :=
  advance_induction_on (P := fun _ => True) (fun s a _ => perform s a) h outcome fun _ _ => trivial

/-- Where actions come to a wait, one of them waits, and those after it are left. -/
private theorem blocked_by {setup : Setup} {s s' : Session} {outcome : Outcome} {actions rest : List Action}
    {wait : Wait} (h : s.advance setup outcome actions = (s', .blocked wait rest)) :
    ∃ (t : Session) (done : List Action) (a : Action),
      actions = done ++ a :: rest ∧ t.perform setup a = (s', .waiting wait) := by
  induction actions generalizing s outcome with
  | nil =>
    unfold advance at h
    split at h <;> first | contradiction | cases h
  | cons a actions ih =>
    by_cases ho : outcome = .start false
    · subst ho
      cases h
    · simp only [advance] at h
      split at h
      · obtain ⟨t, done, b, hactions, hperform⟩ := ih h
        exact ⟨t, a :: done, b, by rw [hactions, List.cons_append], hperform⟩
      · rename_i hperform
        cases h
        exact ⟨s, [], a, rfl, hperform⟩

/-- What is carried out beside an outstanding call changes nothing, or reports an output. -/
theorem perform_of_immediate {s : Session} {a : Action} (h : Engine.immediate s [a] = true) (setup : Setup) :
    (s.perform setup a).1 = s ∨ ∃ channel text, (s.perform setup a).1 = s.send (.output channel text) := by
  cases a with
  | hook hook =>
    cases hook with
    | log level text =>
      rcases log_cases level text s with hs | hs
      · exact .inl hs
      · exact .inr ⟨level.channel, _, hs⟩
    | enter node scope => exact .inl (by simp_all [Engine.immediate, perform, announce, awaitIf, enter])
    | leave => exact .inl (by simp_all [Engine.immediate, perform, announce, awaitIf, leave])
    | exception e => exact .inl (by simp_all [Engine.immediate, perform, announce, awaitIf, raise])
  | stop what snapshot => exact .inl (by simp_all [Engine.immediate, perform, awaitIf, stop])
  | failure text => exact .inr ⟨.stderr, text ++ "\n", rfl⟩
  | _ => simp [Engine.immediate] at h

theorem steady_immediate {s : Session} {a : Action} (h : Engine.immediate s [a] = true) (setup : Setup) :
    Steady s (s.perform setup a).1 := by
  rcases perform_of_immediate h setup with hs | ⟨channel, text, hs⟩
  · rw [hs]
    exact .refl s
  · rw [hs]
    exact steady_record s rfl

private theorem await_settled {s : Session} {wait w : Wait} (h : (s.await wait).2.wait? = some w) :
    (s.await wait).1.outcome? w = none := by
  rcases await_cases s wait with ⟨outcome, -, hs⟩ | ⟨ho, hs⟩
  · rw [hs] at h
    simp [Progress.wait?] at h
  · rw [hs] at h ⊢
    obtain rfl := Option.some.inj h
    cases wait with
    | start => exact ho
    | resume => simp_all [outcome?, takeToken]
    | disconnect code => rfl

/-- Where an action has to wait, what it waits for has not happened. -/
private theorem perform_settled {setup : Setup} {s : Session} {a : Action} {w : Wait}
    (h : (s.perform setup a).2.wait? = some w) : (s.perform setup a).1.outcome? w = none := by
  have hif : ∀ stopped : Session × Bool, (awaitIf stopped).2.wait? = some w →
      (awaitIf stopped).1.outcome? w = none := by
    intro stopped hw
    unfold awaitIf at hw ⊢
    split at hw
    · rename_i hb
      rw [if_pos hb]
      exact await_settled hw
    · simp [Progress.wait?] at hw
  cases a with
  | hook hook => exact hif _ h
  | stop what snapshot => exact hif _ h
  | awaitStart => exact await_settled h
  | exit code => exact await_settled h
  | _ => simp [perform, Progress.wait?] at h

end Session

/-! ### Operations of the client -/

namespace Session

/-- The session after a resume. -/
def goOn (command : Resume) (s : Session) : Session :=
  { s with
    mode := command.mode s.pauseDepth
    saved := none
    flags := { s.flags with paused := false }
    signals := { s.signals with resume := true } }

private theorem silent_goOn (command : Resume) (s : Session) : Silent s (s.goOn command) := ⟨rfl, id, id⟩

end Session

namespace Engine

open Session (Silent Steady)

theorem serve_call (e : Engine) (op : Operation) : (e.serve op).1.call = e.call := by
  unfold serve update place
  split <;> first | rfl | (split <;> rfl)

/-- A resume is granted just when evaluation is paused in a session that goes on. Else it changes nothing. -/
theorem serve_resume_cases (e : Engine) (command : Resume) :
    ¬(e.session.flags.terminate = false ∧ e.session.flags.paused = true) ∧
        (∃ err, e.serve (.resume command) = (e, .refused err)) ∨
      (e.session.flags.terminate = false ∧ e.session.flags.paused = true) ∧
        e.serve (.resume command) = ({ e with session := e.session.goOn command }, .ok) := by
  cases ht : e.session.flags.terminate with
  | true => exact .inl ⟨nofun, .terminated, by simp [serve, Session.resume, ht]⟩
  | false =>
    cases hp : e.session.flags.paused with
    | false => exact .inl ⟨nofun, .notPaused, by simp [serve, Session.resume, ht, hp]⟩
    | true => exact .inr ⟨⟨rfl, rfl⟩, by simp [serve, Session.resume, Session.goOn, ht, hp]⟩

theorem steady_serve (e : Engine) {op : Operation} (hassert : op ≠ .assert .paused) (hclear : op ≠ .clear .paused)
    (hresume : ∀ command, op ≠ .resume command) :
    Steady e.session (e.serve op).1.session ∧ (e.serve op).2 ≠ .ok := by
  cases op with
  | assert flag => exact ⟨Session.steady_assert _ fun h => hassert (h ▸ rfl), nofun⟩
  | clear flag => exact ⟨Session.steady_clear _ fun h => hclear (h ▸ rfl), nofun⟩
  | resume command => exact absurd rfl (hresume command)
  | terminate => exact ⟨Session.steady_terminate _, nofun⟩
  | disconnect =>
    exact ⟨(Session.steady_terminate e.session).trans ⟨⟨rfl, id, id⟩, rfl, rfl, .inl rfl⟩, nofun⟩
  | takeDisconnect =>
    simp only [serve]
    split
    · exact ⟨.refl _, nofun⟩
    · exact ⟨Session.steady_takeToken _ (.disconnect 0) nofun, nofun⟩
  | cache v =>
    simp only [serve, Session.cacheValue]
    cases hs : e.session.saved with
    | none => exact ⟨.refl _, nofun⟩
    | some snapshot => exact ⟨⟨⟨rfl, id, id⟩, rfl, by simp [hs], .inl rfl⟩, nofun⟩
  | cached id =>
    simp only [serve]
    split <;> exact ⟨.refl _, nofun⟩
  | _ => exact ⟨⟨⟨rfl, id, id⟩, rfl, rfl, .inl rfl⟩, nofun⟩

/-- An operation of the client that does not change the paused flag directly is steady, unless it is a resume that is
granted. -/
theorem serve_cases (e : Engine) {op : Operation} (hassert : op ≠ .assert .paused) (hclear : op ≠ .clear .paused) :
    Steady e.session (e.serve op).1.session ∧ (e.serve op).2 ≠ .ok ∨
      ∃ command, op = .resume command ∧ e.session.flags.paused = true ∧
        e.serve op = ({ e with session := e.session.goOn command }, .ok) := by
  by_cases hresume : ∃ command, op = .resume command
  · obtain ⟨command, rfl⟩ := hresume
    rcases e.serve_resume_cases command with ⟨-, err, hs⟩ | ⟨⟨-, hp⟩, hs⟩
    · rw [hs]
      exact .inl ⟨.refl _, nofun⟩
    · exact .inr ⟨command, rfl, hp, hs⟩
  · exact .inl (e.steady_serve hassert hclear fun command h => hresume ⟨command, h⟩)

/-- No operation of the client announces a stop by itself or takes back the end of the session. -/
theorem silent_serve (e : Engine) (op : Operation) : Silent e.session (e.serve op).1.session := by
  by_cases hassert : op = .assert .paused
  · subst hassert
    exact ⟨rfl, id, id⟩
  by_cases hclear : op = .clear .paused
  · subst hclear
    exact ⟨rfl, id, id⟩
  rcases e.serve_cases hassert hclear with ⟨hs, -⟩ | ⟨command, rfl, -, hs⟩
  · exact hs.toSilent
  · rw [hs]
    exact Session.silent_goOn command e.session

/-! ### Steps -/

/-- The outstanding call goes on just when what it waits for has happened. -/
theorem settle_cases (setup : Setup) (e : Engine) :
    (∀ w ∈ e.waiting, e.session.outcome? w = none) ∧ e.settle setup = (e, none) ∨
      ∃ w rest outcome, e.call = some (w, rest) ∧ e.session.outcome? w = some outcome ∧
        e.settle setup = e.proceed setup (e.session.takeToken w) outcome rest := by
  unfold settle waiting
  cases hc : e.call with
  | none => exact .inl ⟨by simp, rfl⟩
  | some call =>
    obtain ⟨w, rest⟩ := call
    cases ho : e.session.outcome? w with
    | none => exact .inl ⟨by simp [ho], by simp [Session.release, ho]⟩
    | some outcome => exact .inr ⟨w, rest, outcome, rfl, ho, by simp [Session.release, ho]⟩

/-- Actions are carried out by an evaluation side at rest, or beside an outstanding call, or not at all. -/
theorem step_call_cases (setup : Setup) (e : Engine) (actions : List Action) :
    e.call = none ∧ e.step setup (.call actions) =
        ((e.proceed setup e.session .completed actions).1, .nothing,
          (e.proceed setup e.session .completed actions).2) ∨
      (∃ call a, e.call = some call ∧ actions = [a] ∧ immediate e.session [a] = true ∧
        e.step setup (.call actions) = ({ e with session := (e.session.perform setup a).1 }, .ok, none)) ∨
      e.call ≠ none ∧ e.step setup (.call actions) = (e, .busy, none) := by
  cases hc : e.call with
  | none => exact .inl ⟨rfl, by simp only [step, hc]⟩
  | some call =>
    refine .inr ?_
    match actions with
    | [] => exact .inr ⟨nofun, by simp only [step, hc]⟩
    | [a] =>
      cases hi : immediate e.session [a] with
      | true => exact .inl ⟨call, a, rfl, rfl, hi, by simp [step, hc, hi]⟩
      | false => exact .inr ⟨nofun, by simp [step, hc, hi]⟩
    | _ :: _ :: _ => exact .inr ⟨nofun, by simp only [step, hc]⟩

theorem step_graceExpires_cases (setup : Setup) (e : Engine) :
    e.step setup .graceExpires = (e, .nothing, none) ∨
      ∃ code rest, e.call = some (.disconnect code, rest) ∧ e.step setup .graceExpires =
        ((e.proceed setup (e.session.record (.forcedExit code)) (.exited .gracePeriodExpired) rest).1, .nothing,
          (e.proceed setup (e.session.record (.forcedExit code)) (.exited .gracePeriodExpired) rest).2) := by
  simp only [step]
  split
  · rename_i code rest hc
    exact .inr ⟨code, rest, hc, rfl⟩
  · exact .inl rfl

/-- Every other operation is served, and then the outstanding call goes on if it can. -/
theorem step_cases (setup : Setup) (e : Engine) (op : Operation) :
    (∃ actions, op = .call actions) ∨ op = .graceExpires ∨
      e.step setup op =
        (((e.serve op).1.settle setup).1, (e.serve op).2, ((e.serve op).1.settle setup).2) := by
  cases op <;> first | exact .inl ⟨_, rfl⟩ | exact .inr (.inl rfl) | exact .inr (.inr rfl)

theorem step_of_served (setup : Setup) (e : Engine) (op : Operation) (hcall : ∀ actions, op ≠ .call actions)
    (hgrace : op ≠ .graceExpires) :
    e.step setup op = (((e.serve op).1.settle setup).1, (e.serve op).2, ((e.serve op).1.settle setup).2) := by
  rcases step_cases setup e op with ⟨actions, heq⟩ | heq | hs
  · exact absurd heq (hcall actions)
  · exact absurd heq hgrace
  · exact hs

/-- After a resume, a parked call goes on with the actions that are left of it. -/
theorem step_resume (setup : Setup) {e : Engine} {rest : List Action} (hcall : e.call = some (.resume, rest))
    (hpaused : e.session.flags.paused = true) (hterm : e.session.flags.terminate = false) (command : Resume) :
    e.step setup (.resume command) =
      ((e.proceed setup ((e.session.goOn command).takeToken .resume) .completed rest).1, .ok,
        (e.proceed setup ((e.session.goOn command).takeToken .resume) .completed rest).2) := by
  have hstep : e.step setup (.resume command) = (((e.serve (.resume command)).1.settle setup).1,
      (e.serve (.resume command)).2, ((e.serve (.resume command)).1.settle setup).2) := rfl
  rcases e.serve_resume_cases command with ⟨hnot, -⟩ | ⟨-, hserve⟩
  · exact absurd ⟨hterm, hpaused⟩ hnot
  have hrelease : (e.session.goOn command).release .resume =
      some ((e.session.goOn command).takeToken .resume, .completed) := rfl
  rw [hstep, hserve]
  simp only [settle, hcall, hrelease]
  rfl

theorem proceed_session (setup : Setup) (e : Engine) (s : Session) (outcome : Outcome) (actions : List Action) :
    (e.proceed setup s outcome actions).1.session = (s.advance setup outcome actions).1 := by
  unfold proceed
  split <;> simp_all

theorem proceed_waiting (setup : Setup) (e : Engine) (s : Session) (outcome : Outcome) (actions : List Action) :
    (e.proceed setup s outcome actions).1.waiting = (s.advance setup outcome actions).2.wait? := by
  unfold proceed waiting
  split <;> simp_all [Status.wait?]

/-- Where a call is outstanding after some actions, one of them waits, and those after it are left. -/
theorem exists_of_call_proceed {setup : Setup} {e : Engine} {s : Session} {outcome : Outcome}
    {actions rest : List Action} {w : Wait} (h : (e.proceed setup s outcome actions).1.call = some (w, rest)) :
    ∃ (t : Session) (done : List Action) (a : Action), actions = done ++ a :: rest ∧
      t.perform setup a = ((e.proceed setup s outcome actions).1.session, .waiting w) := by
  unfold proceed at h ⊢
  split at h
  · contradiction
  · rename_i hadv
    obtain ⟨rfl, rfl⟩ := Prod.mk.inj (Option.some.inj h)
    exact Session.blocked_by hadv

theorem waits_eq (e : Engine) (w : Wait) : e.waits (· = w) = true ↔ e.waiting = some w := by
  cases h : e.call <;> simp [waits, waiting, h]

/-! ### The invariant rule -/

/-- What the evaluation side keeps of the session by actions of a kind, by what it waits for. -/
structure KeptOn (setup : Setup) (P : Action → Prop) (R : Option Wait → Session → Prop) : Prop where
  perform : ∀ s a, P a → R none s → R (s.perform setup a).2.wait? (s.perform setup a).1
  release : ∀ s w outcome, R (some w) s → s.outcome? w = some outcome → R none (s.takeToken w)
  beside : ∀ s w a, R (some w) s → immediate s [a] = true → R (some w) (s.perform setup a).1
  expire : ∀ s code, R (some (.disconnect code)) s → R none (s.record (.forcedExit code))

/-- What the evaluation side keeps of the session, by what it waits for. -/
structure Kept (setup : Setup) (R : Option Wait → Session → Prop) : Prop where
  perform : ∀ s a, R none s → R (s.perform setup a).2.wait? (s.perform setup a).1
  release : ∀ s w outcome, R (some w) s → s.outcome? w = some outcome → R none (s.takeToken w)
  beside : ∀ s w a, R (some w) s → immediate s [a] = true → R (some w) (s.perform setup a).1
  expire : ∀ s code, R (some (.disconnect code)) s → R none (s.record (.forcedExit code))

/-- Only actions of a kind are left of the outstanding call. -/
def Carries (e : Engine) (P : Action → Prop) : Prop := ∀ w rest, e.call = some (w, rest) → ∀ a ∈ rest, P a

variable {setup : Setup} {P : Action → Prop} {R : Option Wait → Session → Prop}

private theorem carries_proceed (e : Engine) (s : Session) (outcome : Outcome) {actions : List Action}
    (h : ∀ a ∈ actions, P a) : (e.proceed setup s outcome actions).1.Carries P := by
  intro w rest hc a ha
  obtain ⟨-, done, b, rfl, -⟩ := exists_of_call_proceed hc
  exact h a (List.mem_append_right done (List.mem_cons_of_mem b ha))

private theorem carries_settle {e : Engine} (h : e.Carries P) : (e.settle setup).1.Carries P := by
  rcases settle_cases setup e with ⟨-, hs⟩ | ⟨w, rest, outcome, hc, -, hs⟩
  · rw [hs]
    exact h
  · rw [hs]
    exact carries_proceed e _ outcome (h w rest hc)

/-- If calls consist of actions of a kind, a step leaves only such actions. -/
theorem carries_step {e : Engine} {op : Operation} (hop : ∀ actions, op = .call actions → ∀ a ∈ actions, P a)
    (h : e.Carries P) : (e.step setup op).1.Carries P := by
  rcases step_cases setup e op with ⟨actions, rfl⟩ | rfl | hs
  · rcases step_call_cases setup e actions with ⟨-, hs⟩ | ⟨call, a, -, -, -, hs⟩ | ⟨-, hs⟩
    · rw [hs]
      exact carries_proceed e _ _ (hop actions rfl)
    · rw [hs]
      exact h
    · rw [hs]
      exact h
  · rcases step_graceExpires_cases setup e with hs | ⟨code, rest, hc, hs⟩
    · rw [hs]
      exact h
    · rw [hs]
      exact carries_proceed e _ _ (h _ rest hc)
  · rw [hs]
    refine carries_settle fun w rest hc => h w rest ?_
    rw [← hc, serve_call]

private theorem KeptOn.proceed (h : KeptOn setup P R) {s : Session} (hs : R none s) (e : Engine) (outcome : Outcome)
    {actions : List Action} (hactions : ∀ a ∈ actions, P a) :
    R (e.proceed setup s outcome actions).1.waiting (e.proceed setup s outcome actions).1.session := by
  rw [proceed_session, proceed_waiting]
  exact Session.advance_induction_on h.perform hs outcome hactions

private theorem KeptOn.settle (h : KeptOn setup P R) {e : Engine} (hc : e.Carries P) (he : R e.waiting e.session) :
    R (e.settle setup).1.waiting (e.settle setup).1.session := by
  rcases settle_cases setup e with ⟨-, hs⟩ | ⟨w, rest, outcome, hcall, ho, hs⟩
  · rw [hs]
    exact he
  · rw [hs]
    have hw : e.waiting = some w := by rw [waiting, hcall]; rfl
    exact h.proceed (h.release e.session w outcome (hw ▸ he) ho) e outcome (hc w rest hcall)

/-- What the evaluation side and an operation keep, a step keeps. -/
theorem KeptOn.step (h : KeptOn setup P R) {e : Engine} {op : Operation} (hc : e.Carries P)
    (hop : ∀ actions, op = .call actions → ∀ a ∈ actions, P a)
    (hserve : R e.waiting e.session → R e.waiting (e.serve op).1.session) (he : R e.waiting e.session) :
    R (e.step setup op).1.waiting (e.step setup op).1.session := by
  rcases step_cases setup e op with ⟨actions, rfl⟩ | rfl | hs
  · rcases step_call_cases setup e actions with ⟨hcall, hs⟩ | ⟨call, a, hcall, -, hi, hs⟩ | ⟨-, hs⟩
    · rw [hs]
      have hw : e.waiting = none := by rw [waiting, hcall]; rfl
      exact h.proceed (hw ▸ he) e .completed (hop actions rfl)
    · rw [hs]
      have hw : e.waiting = some call.1 := by rw [waiting, hcall]; rfl
      show R e.waiting (e.session.perform setup a).1
      rw [hw] at he ⊢
      exact h.beside e.session call.1 a he hi
    · rw [hs]
      exact he
  · rcases step_graceExpires_cases setup e with hs | ⟨code, rest, hcall, hs⟩
    · rw [hs]
      exact he
    · rw [hs]
      have hw : e.waiting = some (.disconnect code) := by rw [waiting, hcall]; rfl
      exact h.proceed (h.expire e.session code (hw ▸ he)) e _ (hc _ rest hcall)
  · rw [hs]
    have hw : (e.serve op).1.waiting = e.waiting := by rw [waiting, serve_call]; rfl
    refine h.settle (fun w rest hcall => hc w rest ?_) (hw ▸ hserve he)
    rw [← hcall, serve_call]

/-- What every action keeps, the actions of a kind keep. -/
private theorem Kept.on (h : Kept setup R) (P : Action → Prop) : KeptOn setup P R :=
  ⟨fun s a _ => h.perform s a, h.release, h.beside, h.expire⟩

private theorem carries_true (e : Engine) : e.Carries fun _ => True := fun _ _ _ _ _ => trivial

theorem Kept.proceed (h : Kept setup R) {s : Session} (hs : R none s) (e : Engine) (outcome : Outcome)
    (actions : List Action) :
    R (e.proceed setup s outcome actions).1.waiting (e.proceed setup s outcome actions).1.session :=
  (h.on fun _ => True).proceed hs e outcome fun _ _ => trivial

theorem Kept.settle (h : Kept setup R) {e : Engine} (he : R e.waiting e.session) :
    R (e.settle setup).1.waiting (e.settle setup).1.session :=
  (h.on fun _ => True).settle (carries_true e) he

theorem Kept.step (h : Kept setup R) {e : Engine} {op : Operation}
    (hserve : R e.waiting e.session → R e.waiting (e.serve op).1.session) (he : R e.waiting e.session) :
    R (e.step setup op).1.waiting (e.step setup op).1.session :=
  (h.on fun _ => True).step (carries_true e) (fun _ _ _ _ => trivial) hserve he

/-- What the evaluation side and each operation of a run keep, the run keeps. -/
theorem Kept.run (h : Kept setup R) {ops : List Operation}
    (hserve : ∀ op ∈ ops, ∀ e : Engine, R e.waiting e.session → R e.waiting (e.serve op).1.session)
    {e : Engine} (he : R e.waiting e.session) : R (e.run setup ops).waiting (e.run setup ops).session := by
  induction ops generalizing e with
  | nil => exact he
  | cons op ops ih =>
    rw [run_cons]
    exact ih (fun o ho => hserve o (List.mem_cons_of_mem op ho)) (h.step (hserve op List.mem_cons_self e) he)

/-! ### At most one stop -/

/-- No stop is announced and the paused flag stays, or the session goes on and is stopped once. -/
def OneStop (s s' : Session) : Prop :=
  s'.stops = s.stops ∧ s'.flags.paused = s.flags.paused ∨
    (s.flags.paused = false ∧ s'.flags.paused = true ∧ s'.ended = false) ∧ ∃ what, s'.stops = s.stops ++ [what]

private theorem OneStop.of_steady {s s' : Session} (h : Steady s s') : OneStop s s' := .inl ⟨h.stops, h.paused⟩

theorem OneStop.of_eq {s₀ s s' : Session} (h : OneStop s s') (hstops : s.stops = s₀.stops)
    (hpaused : s.flags.paused = s₀.flags.paused) : OneStop s₀ s' := by
  rw [OneStop, ← hstops, ← hpaused]
  exact h

/-- Once evaluation is stopped it waits, so the actions of one call announce at most one stop. -/
private theorem oneStop_proceed (setup : Setup) (e : Engine) (s : Session) (outcome : Outcome) (actions : List Action) :
    OneStop s (e.proceed setup s outcome actions).1.session := by
  -- after a stop evaluation waits to be resumed, and no further action is carried out
  let R : Option Wait → Session → Prop := fun wait s' =>
    s'.stops = s.stops ∧ s'.flags.paused = s.flags.paused ∨ wait = some .resume ∧ OneStop s s'
  have hperform : ∀ s' a, R none s' → R (s'.perform setup a).2.wait? (s'.perform setup a).1 := by
    intro s' a h
    obtain ⟨hstops, hpaused⟩ := h.resolve_right nofun
    rcases Session.perform_cases setup s' a with ⟨hs, -⟩ | ⟨hf, depth, what, snapshot, hs⟩
    · exact .inl ⟨hs.stops.trans hstops, hs.paused.trans hpaused⟩
    · rw [hs]
      refine .inr ⟨rfl, .inr ⟨⟨hpaused ▸ hf.1, rfl, hf.2.2⟩, what, ?_⟩⟩
      rw [Session.stops_halt, ← hstops]
      rfl
  rw [proceed_session]
  rcases Session.advance_induction hperform (.inl ⟨rfl, rfl⟩) outcome actions with h | ⟨-, h⟩
  · exact .inl h
  · exact h

theorem oneStop_settle (setup : Setup) (e : Engine) : OneStop e.session (e.settle setup).1.session := by
  rcases settle_cases setup e with ⟨-, hs⟩ | ⟨w, rest, outcome, -, -, hs⟩
  · rw [hs]
    exact .inl ⟨rfl, rfl⟩
  · rw [hs]
    exact (oneStop_proceed setup e _ outcome rest).of_eq (by cases w <;> rfl) (by cases w <;> rfl)

/-- A step that is not an operation of the client announces at most one stop. -/
theorem oneStop_step {e : Engine} {op : Operation} (h : (∃ actions, op = .call actions) ∨ op = .graceExpires) :
    OneStop e.session (e.step setup op).1.session := by
  rcases h with ⟨actions, rfl⟩ | rfl
  · rcases step_call_cases setup e actions with ⟨-, hs⟩ | ⟨call, a, -, -, hi, hs⟩ | ⟨-, hs⟩
    · rw [hs]
      exact oneStop_proceed setup e _ _ actions
    · rw [hs]
      exact .of_steady (Session.steady_immediate hi setup)
    · rw [hs]
      exact .inl ⟨rfl, rfl⟩
  · rcases step_graceExpires_cases setup e with hs | ⟨code, rest, -, hs⟩
    · rw [hs]
      exact .inl ⟨rfl, rfl⟩
    · rw [hs]
      have hr := Session.steady_record e.session (o := .forcedExit code) rfl
      exact (oneStop_proceed setup e _ _ rest).of_eq hr.stops hr.paused

/-- A step announces at most one stop, after what its operation does by itself. -/
theorem exists_oneStop_step (setup : Setup) (e : Engine) (op : Operation) :
    ∃ s, s.stops = e.session.stops ∧ OneStop s (e.step setup op).1.session := by
  rcases step_cases setup e op with hcall | hgrace | hs
  · exact ⟨e.session, rfl, oneStop_step (.inl hcall)⟩
  · exact ⟨e.session, rfl, oneStop_step (.inr hgrace)⟩
  · refine ⟨(e.serve op).1.session, (e.silent_serve op).stops, ?_⟩
    rw [hs]
    exact oneStop_settle setup _

/-! ### Settled engines -/

/-- Nothing that is waited for has happened. -/
def Settled (e : Engine) : Prop := ∀ w ∈ e.waiting, e.session.outcome? w = none

/-- A call waits to be resumed only at an empty slot, and only while the session goes on. -/
theorem Settled.resume {e : Engine} (h : e.Settled) (hw : e.waiting = some .resume) :
    e.session.signals.resume = false ∧ e.session.ended = false := by
  have ho := h _ hw
  simpa [Session.outcome?] using ho

/-- A call waits for the start only while the session goes on and the start is not requested. -/
theorem Settled.start {e : Engine} (h : e.Settled) (hw : e.waiting = some .start) :
    e.session.ended = false ∧ e.session.flags.startRequested = false := by
  have ho := h _ hw
  cases hended : e.session.ended <;> cases hrequested : e.session.flags.startRequested <;>
    simp [Session.outcome?, hended, hrequested] at ho ⊢

theorem settle_of_settled (setup : Setup) {e : Engine} (h : e.Settled) : e.settle setup = (e, none) := by
  rcases settle_cases setup e with ⟨-, hs⟩ | ⟨w, rest, outcome, hc, ho, -⟩
  · exact hs
  · rw [h w (by simp [waiting, hc])] at ho
    contradiction

theorem settled_proceed (setup : Setup) (e : Engine) (s : Session) (outcome : Outcome) (actions : List Action) :
    (e.proceed setup s outcome actions).1.Settled := by
  intro w hw
  rw [proceed_waiting] at hw
  rw [proceed_session]
  exact Session.advance_induction (R := fun wait s => ∀ w ∈ wait, s.outcome? w = none)
    (fun s a _ w hw => Session.perform_settled hw) (by simp) outcome actions w hw

theorem settled_settle (setup : Setup) (e : Engine) : (e.settle setup).1.Settled := by
  rcases settle_cases setup e with ⟨h, hs⟩ | ⟨w, rest, outcome, -, -, hs⟩
  · rw [hs]
    exact h
  · rw [hs]
    exact settled_proceed setup e _ outcome rest

theorem settled_step {e : Engine} (he : e.Settled) (op : Operation) : (e.step setup op).1.Settled := by
  rcases step_cases setup e op with ⟨actions, rfl⟩ | rfl | hs
  · rcases step_call_cases setup e actions with ⟨-, hs⟩ | ⟨call, a, -, -, hi, hs⟩ | ⟨-, hs⟩
    · rw [hs]
      exact settled_proceed setup e _ _ actions
    · rw [hs]
      intro w hw
      have ho := he w hw
      rcases Session.perform_of_immediate hi setup with hp | ⟨channel, text, hp⟩
      · simpa only [hp] using ho
      · simp only [hp]
        cases w <;> exact ho
    · rw [hs]
      exact he
  · rcases step_graceExpires_cases setup e with hs | ⟨code, rest, -, hs⟩
    · rw [hs]
      exact he
    · rw [hs]
      exact settled_proceed setup e _ _ rest
  · rw [hs]
    exact settled_settle setup _

/-- In every state that a run reaches, nothing that is waited for has happened. -/
theorem settled_run {e : Engine} (he : e.Settled) (ops : List Operation) : (e.run setup ops).Settled := by
  induction ops generalizing e with
  | nil => exact he
  | cons op ops ih => exact ih (settled_step he op)

theorem settled_new (setup : Setup) (files : Files) : (new setup files).Settled := nofun

end Engine

end Debugger
