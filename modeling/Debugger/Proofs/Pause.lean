import Debugger.Proofs.Turns

/-!
# A pause keeps what it saved

While evaluation is paused and no resume is granted, the snapshot, the run mode and the depth stay as they were when
evaluation was stopped (`frozen_while_paused`): announcements, reports, values that are handed out, changes of the
breakpoints and even the end of the session leave them alone. So a step that the client begins at a pause is counted
from the depth of that pause, whatever was done in between.
-/

namespace Debugger

/-- A snapshot without the values that were handed out. -/
def Snapshot.bare (snapshot : Snapshot) : Snapshot := { snapshot with cache := [] }

/-- The node that was visited, with the depth at that moment. -/
def Occurrence.visit? : Occurrence → Option (Node × Nat)
  | .visited node depth => some (node, depth)
  | _ => none

/-- An operation that leaves pauses to stops and resumes: it does not begin an evaluation, and does not change the
paused flag directly. -/
def Operation.Discreet : Operation → Prop
  | .assert flag | .clear flag => flag ≠ .paused
  | .begin => False
  | .call actions => Action.begin ∉ actions
  | _ => True

/-- The frames that an announcement shows, innermost first. -/
def Hook.stack : Hook → List Frame
  | .enter _ scope => scope.stack
  | .exception e => e.stack
  | _ => []

namespace Session

/-- The nodes that were visited, in order. -/
def visits (s : Session) : List (Node × Nat) := s.journal.filterMap Occurrence.visit?

@[simp]
theorem visits_record (s : Session) (o : Occurrence) : (s.record o).visits = s.visits ++ o.visit?.toList := by
  cases h : o.visit? <;> simp [visits, record, List.filterMap_append, h]

/-! ### Nothing of a pause is touched -/

/-- The snapshot, the depth, the run mode and the visits are the same. -/
structure Still (s s' : Session) : Prop where
  saved : s'.saved = s.saved
  depth : s'.depth = s.depth
  mode : s'.mode = s.mode
  visits : s'.visits = s.visits

theorem Still.refl (s : Session) : Still s s := ⟨rfl, rfl, rfl, rfl⟩

theorem Still.trans {s s' s'' : Session} (h : Still s s') (h' : Still s' s'') : Still s s'' :=
  ⟨h'.saved.trans h.saved, h'.depth.trans h.depth, h'.mode.trans h.mode, h'.visits.trans h.visits⟩

private theorem still_record (s : Session) {o : Occurrence} (h : o.visit? = none) : Still s (s.record o) :=
  ⟨rfl, rfl, rfl, by simp [h]⟩

private theorem still_takeToken (s : Session) (wait : Wait) : Still s (s.takeToken wait) := by
  cases wait <;> exact ⟨rfl, rfl, rfl, rfl⟩

private theorem still_terminate (s : Session) : Still s s.terminate := ⟨rfl, rfl, rfl, rfl⟩

private theorem still_checkStart (s : Session) : Still s s.checkStart := by
  unfold checkStart
  split <;> exact ⟨rfl, rfl, rfl, rfl⟩

theorem still_assert (s : Session) (f : Flag) : Still s (s.assert f) := by
  have hset : Still s { s with flags := s.flags.set true f } := ⟨rfl, rfl, rfl, rfl⟩
  cases f with
  | terminate => exact still_terminate s
  | sessionReady => exact hset.trans (still_checkStart _)
  | clientConfigured => exact hset.trans (still_checkStart _)
  | _ => exact hset

theorem still_clear (s : Session) (f : Flag) : Still s (s.clear f) := by
  cases f <;> exact ⟨rfl, rfl, rfl, rfl⟩

theorem still_await (s : Session) (wait : Wait) : Still s (s.await wait).1 := by
  rw [await_session]
  exact ⟨rfl, rfl, rfl, rfl⟩

theorem still_announceExit (setup : Setup) (code : Int) (s : Session) : Still s (s.announceExit setup code) := by
  refine .trans ?_ (still_terminate _)
  split
  · exact (still_record s rfl).trans (still_record _ rfl)
  · exact still_record s rfl

theorem still_immediate {s : Session} {a : Action} (h : Engine.immediate s [a] = true) (setup : Setup) :
    Still s (s.perform setup a).1 := by
  rcases perform_of_immediate h setup with hs | ⟨channel, text, hs⟩
  · rw [hs]
    exact .refl s
  · rw [hs]
    exact still_record s rfl

/-! ### A pause goes on -/

/-- The pause of one session goes on in another one. Nodes that are visited meanwhile are visited at its depth. -/
structure Frozen (s s' : Session) : Prop where
  paused : s'.flags.paused = true
  stops : s'.stops = s.stops
  saved : s'.saved.map Snapshot.bare = s.saved.map Snapshot.bare
  depth : s'.depth = s.depth
  visits : ∃ more, s'.visits = s.visits ++ more ∧ ∀ visit ∈ more, visit.2 = s.depth

private theorem Frozen.refl {s : Session} (h : s.flags.paused = true) : Frozen s s :=
  ⟨h, rfl, rfl, rfl, [], by simp, by simp⟩

private theorem Frozen.trans {s s' s'' : Session} (h : Frozen s s') (h' : Frozen s' s'') : Frozen s s'' where
  paused := h'.paused
  stops := h'.stops.trans h.stops
  saved := h'.saved.trans h.saved
  depth := h'.depth.trans h.depth
  visits := by
    obtain ⟨more, hv, hmore⟩ := h.visits
    obtain ⟨more', hv', hmore'⟩ := h'.visits
    refine ⟨more ++ more', by rw [hv', hv, List.append_assoc], fun visit hm => ?_⟩
    rcases List.mem_append.1 hm with hm | hm
    · exact hmore visit hm
    · exact (hmore' visit hm).trans h.depth

private theorem Still.frozen {s s' : Session} (h : Still s s') (hp : s'.flags.paused = true) (hs : s'.stops = s.stops) :
    Frozen s s' where
  paused := hp
  stops := hs
  saved := by rw [h.saved]
  depth := h.depth
  visits := ⟨[], by rw [h.visits, List.append_nil], by simp⟩

/-- An action of a paused evaluation, if it does not begin an evaluation, touches nothing but notes a visit. -/
private theorem frozen_perform {s : Session} (hp : s.flags.paused = true) (setup : Setup) {a : Action}
    (ha : a ≠ .begin) : Frozen s (s.perform setup a).1 ∧ (s.perform setup a).1.mode = s.mode := by
  have hsteady : Steady s (s.perform setup a).1 := by
    rcases perform_cases setup s a with ⟨hs, -⟩ | ⟨hf, -⟩
    · exact hs
    · rw [hf.1] at hp
      contradiction
  have hstill : Still s (s.perform setup a).1 → Frozen s (s.perform setup a).1 ∧ (s.perform setup a).1.mode = s.mode :=
    fun h => ⟨h.frozen (hsteady.paused.trans hp) hsteady.stops, h.mode⟩
  cases a with
  | hook hook =>
    refine hstill (still_immediate ?_ setup)
    cases hook <;> simp [Engine.immediate, hp]
  | stop what snapshot => exact hstill (still_immediate (by simp [Engine.immediate, hp]) setup)
  | failure text => exact hstill (still_immediate rfl setup)
  | visit node =>
    refine ⟨⟨hp, hsteady.stops, rfl, rfl, [(node, s.depth)], visits_record s _, ?_⟩, rfl⟩
    simp
  | prepare path =>
    have hunit : Still s { s with unit := some path } := ⟨rfl, rfl, rfl, rfl⟩
    exact hstill (hunit.trans (still_assert _ .sessionReady))
  | awaitStart => exact hstill (still_await s .start)
  | begin => exact absurd rfl ha
  | exit code => exact hstill ((still_announceExit setup code s).trans (still_await _ _))

/-! ### What a stop saves -/

theorem free_of_waiting {setup : Setup} {s s' : Session} {a : Action} (h : s.perform setup a = (s', .waiting .resume)) :
    s.Free := by
  rcases perform_cases setup s a with ⟨-, hw⟩ | ⟨hf, -⟩
  · rw [h] at hw
    contradiction
  · exact hf

/-- An announcement that stops evaluation saves the depth, and its frames with the caller first. -/
private theorem saved_of_waiting {setup : Setup} {s s' : Session} {hook : Hook}
    (h : s.perform setup (.hook hook) = (s', .waiting .resume)) :
    s'.flags.paused = true ∧ s'.flags.terminate = false ∧
      ∃ snapshot, s'.saved = some snapshot ∧ snapshot.cache = [] ∧ snapshot.depth = s'.depth ∧
        snapshot.stack = hook.stack.reverse := by
  have hfree := free_of_waiting h
  cases hook with
  | enter node scope =>
    simp only [perform, announce, enter_of_free hfree] at h
    cases hstop : { s with depth := s.depth + 1 }.stopAt setup node with
    | none =>
      rw [hstop] at h
      cases h
    | some what =>
      simp only [hstop] at h
      rw [awaitIf_halt (s := { s with depth := s.depth + 1 }) hfree.2.2] at h
      cases h
      exact ⟨rfl, hfree.2.1, _, rfl, rfl, rfl, rfl⟩
  | exception e =>
    simp only [perform, announce, raise, hfree.1, Bool.false_eq_true, ↓reduceIte, stop_of_free hfree] at h
    rw [awaitIf_halt hfree.2.2] at h
    cases h
    exact ⟨rfl, hfree.2.1, _, rfl, rfl, rfl, rfl⟩
  | leave => cases h
  | log level text => cases h

end Session

namespace Engine

open Session (Frozen Still)

/-- An operation of the client at a pause, if it is discreet and no resume is granted, leaves the pause as it is. Only
setting the run mode changes the run mode. -/
private theorem frozen_serve {e : Engine} {op : Operation} (hp : e.session.flags.paused = true) (hop : op.Discreet)
    (hgrant : op.grants (e.serve op).2 = false) :
    Frozen e.session (e.serve op).1.session ∧
      ((∀ mode, op ≠ .setMode mode) → (e.serve op).1.session.mode = e.session.mode) := by
  have hsteady : e.session.Steady (e.serve op).1.session := by
    have hassert : op ≠ .assert .paused := by
      rintro rfl
      exact hop rfl
    have hclear : op ≠ .clear .paused := by
      rintro rfl
      exact hop rfl
    rcases e.serve_cases hassert hclear with ⟨hs, -⟩ | ⟨command, rfl, -, hs⟩
    · exact hs
    · rw [hs] at hgrant
      contradiction
  have hstill : Still e.session (e.serve op).1.session → Frozen e.session (e.serve op).1.session ∧
      ((∀ mode, op ≠ .setMode mode) → (e.serve op).1.session.mode = e.session.mode) :=
    fun h => ⟨h.frozen (hsteady.paused.trans hp) hsteady.stops, fun _ => h.mode⟩
  cases op with
  | assert flag => exact hstill (Session.still_assert _ flag)
  | clear flag => exact hstill (Session.still_clear _ flag)
  | setMode mode => exact ⟨⟨hp, rfl, rfl, rfl, [], (List.append_nil _).symm, by simp⟩, fun h => absurd rfl (h mode)⟩
  | begin => exact hop.elim
  | resume command =>
    rcases e.serve_resume_cases command with ⟨-, err, hs⟩ | ⟨-, hs⟩
    · exact hstill (by rw [hs]; exact .refl _)
    · rw [hs] at hgrant
      contradiction
  | takeDisconnect =>
    refine hstill ?_
    simp only [serve]
    split
    · exact .refl _
    · exact Session.still_takeToken e.session (.disconnect 0)
  | cache v =>
    simp only [serve, Session.cacheValue] at hsteady ⊢
    cases hs : e.session.saved with
    | none => exact ⟨.refl hp, fun _ => rfl⟩
    | some snapshot =>
      refine ⟨⟨hp, rfl, ?_, rfl, [], (List.append_nil _).symm, by simp⟩, fun _ => rfl⟩
      simp [hs, Snapshot.bare]
  | cached id =>
    refine hstill ?_
    simp only [serve]
    split <;> exact .refl _
  | _ => exact hstill ⟨rfl, rfl, rfl, rfl⟩

/-- What the evaluation side does in a paused session, unless it begins an evaluation, leaves the pause as it is. -/
private theorem frozen_kept (setup : Setup) (s : Session) (K : Prop) :
    KeptOn setup (· ≠ .begin) fun _ s' => Frozen s s' ∧ (K → s'.mode = s.mode) where
  perform s' a ha h := by
    obtain ⟨hf, hm⟩ := Session.frozen_perform h.1.paused setup ha
    exact ⟨h.1.trans hf, fun hK => hm.trans (h.2 hK)⟩
  release s' w outcome h _ := by
    have hf : Frozen s' (s'.takeToken w) :=
      (Session.still_takeToken s' w).frozen (by cases w <;> exact h.1.paused) (by cases w <;> rfl)
    exact ⟨h.1.trans hf, fun hK => (Session.still_takeToken s' w).mode.trans (h.2 hK)⟩
  beside s' w a h hi := by
    have hstill := Session.still_immediate hi setup
    have hsteady := Session.steady_immediate hi setup
    exact ⟨h.1.trans (hstill.frozen (hsteady.paused.trans h.1.paused) hsteady.stops),
      fun hK => hstill.mode.trans (h.2 hK)⟩
  expire s' code h :=
    ⟨h.1.trans ((Session.still_record s' rfl).frozen h.1.paused (Session.steady_record s' rfl).stops), h.2⟩

/-- A step at a pause that grants no resume leaves the pause as it is. -/
private theorem frozen_step {setup : Setup} {e : Engine} {op : Operation} (hp : e.session.flags.paused = true)
    (hcarries : e.Carries (· ≠ .begin)) (hop : op.Discreet) (hgrant : op.grants (e.step setup op).2.1 = false) :
    Frozen e.session (e.step setup op).1.session ∧
      ((∀ mode, op ≠ .setMode mode) → (e.step setup op).1.session.mode = e.session.mode) := by
  refine (frozen_kept setup e.session (∀ mode, op ≠ .setMode mode)).step hcarries ?_ (fun _ => ?_)
    ⟨.refl hp, fun _ => rfl⟩
  · rintro actions rfl a ha rfl
    exact hop ha
  · have hreply : op.grants (e.serve op).2 = false := by
      rcases step_cases setup e op with ⟨actions, rfl⟩ | rfl | hs
      · rfl
      · rfl
      · rwa [hs] at hgrant
    exact frozen_serve hp hop hreply

/-- A resume takes the depth of the step from the snapshot, whatever values were handed out. -/
private theorem resume_mode {t : Session} {snapshot : Snapshot} (hp : t.flags.paused = true)
    (hterminate : t.flags.terminate = false) (hsaved : t.saved.map Snapshot.bare = some snapshot) (command : Resume) :
    (t.resume command).map (·.mode) = .ok (command.mode snapshot.depth) := by
  have hdepth : t.pauseDepth = snapshot.depth := by
    obtain ⟨own, hown, hbare⟩ := Option.map_eq_some_iff.1 hsaved
    rw [Session.pauseDepth, hown, ← hbare]
    rfl
  rw [← hdepth, Session.resume, if_neg (by simp [hterminate]), if_neg (by simp [hp])]
  rfl

private theorem not_grants_of_turns {setup : Setup} {e : Engine} {op : Operation} {ops : List Operation}
    (h : Turn.resume ∉ e.turns setup (op :: ops)) :
    op.grants (e.step setup op).2.1 = false ∧ Turn.resume ∉ (e.step setup op).1.turns setup ops := by
  rw [turns, stepTurns_eq, List.mem_append, not_or] at h
  refine ⟨?_, h.2⟩
  cases hg : op.grants (e.step setup op).2.1 with
  | false => rfl
  | true => simp [hg] at h

/-- From a pause on, a run that grants no resume leaves the pause as it is. -/
theorem frozen_run {setup : Setup} {e : Engine} {ops : List Operation} (hp : e.session.flags.paused = true)
    (hcarries : e.Carries (· ≠ .begin)) (hops : ∀ op ∈ ops, op.Discreet) (hturns : Turn.resume ∉ e.turns setup ops) :
    Frozen e.session (e.run setup ops).session ∧
      ((∀ mode, Operation.setMode mode ∉ ops) → (e.run setup ops).session.mode = e.session.mode) := by
  induction ops generalizing e with
  | nil => exact ⟨.refl hp, fun _ => rfl⟩
  | cons op ops ih =>
    rw [List.forall_mem_cons] at hops
    obtain ⟨hgrant, hturns⟩ := not_grants_of_turns hturns
    obtain ⟨hf, hm⟩ := frozen_step hp hcarries hops.1 hgrant
    have hcarries' : (e.step setup op).1.Carries (· ≠ .begin) := by
      refine carries_step ?_ hcarries
      rintro actions rfl a ha rfl
      exact hops.1 ha
    obtain ⟨hf', hm'⟩ := ih hf.paused hcarries' hops.2 hturns
    rw [run_cons]
    refine ⟨hf.trans hf', fun hmode => ?_⟩
    rw [hm' fun mode hmem => hmode mode (List.mem_cons_of_mem op hmem),
      hm fun mode heq => hmode mode (heq ▸ List.mem_cons_self)]

theorem carries_run {setup : Setup} {e : Engine} {ops : List Operation} (h : e.Carries (· ≠ .begin))
    (hops : ∀ op ∈ ops, op.Discreet) : (e.run setup ops).Carries (· ≠ .begin) := by
  induction ops generalizing e with
  | nil => exact h
  | cons op ops ih =>
    rw [List.forall_mem_cons] at hops
    refine ih (carries_step ?_ h) hops.2
    rintro actions rfl a ha rfl
    exact hops.1 ha

/-! ### A parked call -/

/-- While a call is parked, the paused flag is set or a token is there for the call, and the two accounts of the end of
the session agree. -/
def Parked (w : Option Wait) (s : Session) : Prop :=
  w = some .resume → s.flags.terminate = s.ended ∧ (s.flags.paused = true ∨ s.signals.resume = true ∨ s.ended = true)

private theorem Parked.steady {w : Option Wait} {s s' : Session} (h : Parked w s) (hs : s.Steady s') : Parked w s' := by
  intro hw
  obtain ⟨hm, hp⟩ := h hw
  refine ⟨hs.mirrored hm, ?_⟩
  rcases hp with hp | hp | hp
  · exact .inl (hs.paused.trans hp)
  · exact .inr (hs.token.imp (·.trans hp) id)
  · exact .inr (.inr (hs.ended hp))

private theorem parked_kept (setup : Setup) : Kept setup Parked where
  perform s a _ := by
    rcases Session.perform_cases setup s a with ⟨-, hw⟩ | ⟨hf, depth, what, snapshot, hs⟩
    · intro he
      cases hp : (s.perform setup a).2 with
      | done outcome => simp [hp, Progress.wait?] at he
      | waiting w =>
        rw [hp] at hw he
        exact absurd (congrArg Progress.waiting (Option.some.inj he)) hw
    · rw [hs]
      exact fun _ => ⟨hf.2.1.trans hf.2.2.symm, .inl rfl⟩
  release _ _ _ _ _ := nofun
  beside _ _ _ h hi := h.steady (Session.steady_immediate hi setup)
  expire _ _ _ := nofun

private theorem parked_serve {e : Engine} {op : Operation} (hclear : op ≠ .clear .paused)
    (h : Parked e.waiting e.session) : Parked e.waiting (e.serve op).1.session := by
  by_cases hassert : op = .assert .paused
  · subst hassert
    exact fun hw => ⟨(h hw).1, .inl rfl⟩
  · rcases e.serve_cases hassert hclear with ⟨hs, -⟩ | ⟨command, rfl, -, hs⟩
    · exact h.steady hs
    · rw [hs]
      exact fun hw => ⟨(h hw).1, .inr (.inl rfl)⟩

/-- As long as the paused flag is not reset directly, it is set while a call is parked, and the session goes on. -/
theorem paused_of_parked {setup : Setup} {e : Engine} (hcall : e.call = none) {ops : List Operation}
    (hclear : Operation.clear .paused ∉ ops) (hw : (e.run setup ops).waits (· = .resume) = true) :
    (e.run setup ops).session.flags.paused = true ∧ (e.run setup ops).session.flags.terminate = false := by
  have hidle : e.waiting = none := by rw [waiting, hcall]; rfl
  have hset : (e.run setup ops).Settled := settled_run (fun w hw => by rw [hidle] at hw; contradiction) ops
  have hpark : Parked (e.run setup ops).waiting (e.run setup ops).session := by
    refine (parked_kept setup).run (fun op hop _ => parked_serve fun heq => hclear (heq ▸ hop)) fun hw => ?_
    rw [hidle] at hw
    contradiction
  rw [waits_eq] at hw
  -- the call is still parked, so there is neither a token nor an end that would have released it
  obtain ⟨htoken, hended⟩ := hset.resume hw
  obtain ⟨hm, hp⟩ := hpark hw
  refine ⟨?_, hm.trans hended⟩
  rcases hp with hp | hp | hp
  · exact hp
  · rw [htoken] at hp
    contradiction
  · rw [hended] at hp
    contradiction

/-! ### The pause that an announcement raises -/

/-- A call of one action is carried out at once: it is not turned away, announces no stop and does not wait. -/
def Absorbs (setup : Setup) (e : Engine) (a : Action) : Prop :=
  (e.step setup (.call [a])).2.1 ≠ .busy ∧ (e.step setup (.call [a])).1.call = e.call ∧
    (e.step setup (.call [a])).1.session.stops = e.session.stops

private theorem absorbs_of_paused {e : Engine} (hp : e.session.flags.paused = true) (setup : Setup) {a : Action}
    (ha : (∃ hook, a = .hook hook) ∨ ∃ what snapshot, a = .stop what snapshot) : e.Absorbs setup a := by
  have hi : immediate e.session [a] = true := by
    rcases ha with ⟨hook, rfl⟩ | ⟨what, snapshot, rfl⟩
    · cases hook <;> simp [immediate, hp]
    · simp [immediate, hp]
  have hdone : (e.session.perform setup a).2 = .done .completed := by
    rcases ha with ⟨hook, rfl⟩ | ⟨what, snapshot, rfl⟩
    · cases hook <;> simp [Session.perform, Session.announce, Session.awaitIf, Session.enter, Session.leave,
        Session.raise, hp]
    · simp [Session.perform, Session.awaitIf, Session.stop, hp]
  have hstops := (Session.steady_immediate hi setup).stops
  rcases step_call_cases setup e [a] with ⟨hcall, hs⟩ | ⟨call, b, -, hb, -, hs⟩ | ⟨hcall, -⟩
  · have hproceed : (e.proceed setup e.session .completed [a]).1 =
        { e with session := (e.session.perform setup a).1, call := none } := by
      cases hperform : e.session.perform setup a with
      | mk s progress =>
        rw [hperform] at hdone
        obtain rfl : progress = .done .completed := hdone
        simp only [proceed, Session.advance, hperform]
    rw [Absorbs, hs, hproceed]
    exact ⟨(fun h => by cases h), hcall.symm, hstops⟩
  · obtain rfl := List.singleton_inj.1 hb
    rw [Absorbs, hs]
    exact ⟨(fun h => by cases h), rfl, hstops⟩
  · cases hc : e.call with
    | none => exact absurd hc hcall
    | some call => simp [Absorbs, step, hc, hi, hstops]

/-- From the moment when an announcement stops evaluation up to the next resume that is granted, what the stop saved,
the run mode and the depth stay the same. Nothing that is announced meanwhile stops or blocks, and a resume begins a
step at the depth of the stop. -/
theorem frozen_while_paused (setup : Setup) (s : Session) (hook : Hook) (e : Engine) (rest : List Action)
    (ops : List Operation) (hstop : s.perform setup (.hook hook) = (e.session, .waiting .resume))
    (hcall : e.call = some (.resume, rest)) (hrest : Action.begin ∉ rest) (hops : ∀ op ∈ ops, op.Discreet)
    (hmode : ∀ mode, Operation.setMode mode ∉ ops) (hturns : Turn.resume ∉ e.turns setup ops) :
    let e' := e.run setup ops
    (∃ snapshot, e.session.saved = some snapshot ∧ snapshot.depth = e.session.depth ∧
        snapshot.stack = hook.stack.reverse) ∧
      e'.session.saved.map Snapshot.bare = e.session.saved ∧ e'.session.mode = e.session.mode ∧
      e'.session.depth = e.session.depth ∧ e'.session.stops = e.session.stops ∧
      (∀ hook', e'.Absorbs setup (.hook hook')) ∧ (∀ what snapshot, e'.Absorbs setup (.stop what snapshot)) ∧
      (e'.session.isSet .terminate = false → ∀ command,
        (e'.session.resume command).map (·.mode) = .ok (command.mode e.session.depth) ∧
          (e'.session.resume command).map (·.mode) = (e.session.resume command).map (·.mode)) := by
  intro e'
  obtain ⟨hp, hterminate, snapshot, hsaved, hcache, hdepth, hstack⟩ := Session.saved_of_waiting hstop
  have hcarries : e.Carries (· ≠ .begin) := by
    intro w left hc a ha heq
    rw [hcall] at hc
    cases hc
    exact hrest (heq ▸ ha)
  obtain ⟨hfrozen, hmode'⟩ := frozen_run hp hcarries hops hturns
  have hbare : snapshot.bare = snapshot := by rw [Snapshot.bare, ← hcache]
  have hsaved' : e'.session.saved.map Snapshot.bare = e.session.saved := by
    rw [hfrozen.saved, hsaved, Option.map_some, hbare]
  refine ⟨⟨snapshot, hsaved, hdepth, hstack⟩, hsaved', hmode' hmode, hfrozen.depth, hfrozen.stops,
    fun hook' => absorbs_of_paused hfrozen.paused setup (.inl ⟨hook', rfl⟩),
    fun what snapshot => absorbs_of_paused hfrozen.paused setup (.inr ⟨what, snapshot, rfl⟩), fun hterm command => ?_⟩
  rw [Session.isSet_terminate, Bool.or_eq_false_iff] at hterm
  have hlater := resume_mode hfrozen.paused hterm.2 (hsaved'.trans hsaved) command
  have hearlier := resume_mode hp hterminate (by rw [hsaved, Option.map_some, hbare]) command
  exact ⟨hdepth ▸ hlater, hlater.trans hearlier.symm⟩

/-- Values are inspected at a function breakpoint, and the interpreter evaluates again for that: the saved frames are
still those of the stop, the caller first, and the next step is counted from its depth. -/
theorem frozen_while_inspected :
    let scope : Scope := { stack := [⟨"inner", none, 3⟩, ⟨"main", none, 1⟩] }
    let called : Node := { id := 0, kind := "CallExpression", function := some "debug::break" }
    let inspected : Node := { id := 1, kind := "VariableExpression" }
    let s := (Session.new {} "/").beginEvaluation
    let e : Engine := ⟨(s.perform {} (.hook (.enter called scope))).1, {}, some (.resume, [.hook .leave])⟩
    let ops : List Operation := [.cache (.array []), .call [.hook (.enter inspected {})], .cached 7,
      .call [.hook .leave], .setFunctions ["other"], .assert .suppressLogs, .call [.stop .afterStep {}]]
    (s.perform {} (.hook (.enter called scope)) = (e.session, .waiting .resume) ∧
        e.call = some (.resume, [.hook .leave]) ∧ Action.begin ∉ [Action.hook .leave] ∧
        (∀ op ∈ ops, op.Discreet) ∧ (∀ mode, Operation.setMode mode ∉ ops) ∧ Turn.resume ∉ e.turns {} ops) ∧
      (e.run {} ops).session.saved.map Snapshot.bare = e.session.saved ∧
      e.session.saved.map (·.stack) = some [⟨"main", none, 1⟩, ⟨"inner", none, 3⟩] ∧
      ((e.run {} ops).session.resume .next).map (·.mode) = .ok (.next 1) := by
  intro scope called inspected s e ops
  have hrest : Action.begin ∉ [Action.hook .leave] := by simp
  have hops : ∀ op ∈ ops, op.Discreet := by simp [ops, Operation.Discreet]
  have hmode : ∀ mode, Operation.setMode mode ∉ ops := by simp [ops]
  have hturns : Turn.resume ∉ e.turns {} ops := by decide +kernel
  obtain ⟨⟨snapshot, hsaved, -, hstack⟩, hbare, -, -, -, -, -, hresume⟩ :=
    frozen_while_paused {} s (.enter called scope) e [.hook .leave] ops rfl rfl hrest hops hmode hturns
  have hterm : (e.run {} ops).session.isSet .terminate = false := by decide +kernel
  exact ⟨⟨rfl, rfl, hrest, hops, hmode, hturns⟩, hbare, by rw [hsaved, Option.map_some, hstack]; rfl,
    (hresume hterm .next).1⟩

end Engine

end Debugger
