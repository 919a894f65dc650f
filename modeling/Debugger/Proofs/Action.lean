import Debugger.Engine

/-!
# What actions and operations change

Only a stop takes an evaluation from running to paused, and only a granted resume takes it back. Everything else that
either side does is steady: it announces no stop, keeps the paused flag, the presence of a snapshot and the token of a
paused evaluation, and may end the session but never reopens it. `perform_cases` says this for the evaluation side and
`serve_cases` for the client; every invariant of runs rests on them.
-/

namespace Debugger

/-- The stop that an occurrence announces. -/
def Occurrence.stop? : Occurrence → Option Stop
  | .sent (.stopped what _) => some what
  | _ => none

namespace Session

/-- The stops that were announced, in order. -/
def stops (s : Session) : List Stop := s.journal.filterMap Occurrence.stop?

@[simp]
theorem stops_record (s : Session) (o : Occurrence) : (s.record o).stops = s.stops ++ o.stop?.toList := by
  cases h : o.stop? <;> simp [stops, record, List.filterMap_append, h]

/-! ### Stops -/

/-- Whether evaluation can be stopped: it is not stopped already, and the session goes on. -/
def Free (s : Session) : Prop := s.flags.paused = false ∧ s.flags.terminate = false ∧ s.ended = false

/-- The session after a stop. -/
def halt (setup : Setup) (what : Stop) (snapshot : Snapshot) (s : Session) : Session :=
  { s with
    signals := { s.signals with resume := false }
    saved := some { snapshot with cache := [] }
    flags := { s.flags with paused := true } }.send (.stopped what setup.config.threadId)

@[simp]
theorem stops_halt (setup : Setup) (what : Stop) (snapshot : Snapshot) (s : Session) :
    (s.halt setup what snapshot).stops = s.stops ++ [what] :=
  stops_record _ _

theorem stop_of_free {s : Session} (h : s.Free) (setup : Setup) (what : Stop) (snapshot : Snapshot) :
    s.stop setup what snapshot = (s.halt setup what snapshot, true) := by
  obtain ⟨hp, ht, he⟩ := h
  unfold stop
  rw [if_neg (by simp [hp, ht, he])]
  rfl

theorem stop_of_not_free {s : Session} (h : ¬ s.Free) (setup : Setup) (what : Stop) (snapshot : Snapshot) :
    s.stop setup what snapshot = (s, false) := by
  have hs : (s.flags.paused || s.flags.terminate || s.ended) = true := by
    simp only [Free, not_and, Bool.not_eq_false] at h
    cases hp : s.flags.paused <;> cases ht : s.flags.terminate <;> simp_all
  unfold stop
  rw [if_pos hs]

/-! ### Steadiness -/

/-- No stop is announced, and the end of the session is not taken back. -/
structure Silent (s s' : Session) : Prop where
  stops : s'.stops = s.stops
  ended : s.ended = true → s'.ended = true
  mirrored : s.flags.terminate = s.ended → s'.flags.terminate = s'.ended

/-- Evaluation is neither stopped nor resumed. The end of the session may leave a token. -/
structure Steady (s s' : Session) : Prop extends Silent s s' where
  paused : s'.flags.paused = s.flags.paused
  saved : s'.saved.isSome = s.saved.isSome
  token : s'.signals.resume = s.signals.resume ∨ s'.ended = true

theorem Steady.refl (s : Session) : Steady s s := ⟨⟨rfl, id, id⟩, rfl, rfl, .inl rfl⟩

theorem Steady.trans {s s' s'' : Session} (h : Steady s s') (h' : Steady s' s'') : Steady s s'' where
  stops := h'.stops.trans h.stops
  ended := h'.ended ∘ h.ended
  mirrored := h'.mirrored ∘ h.mirrored
  paused := h'.paused.trans h.paused
  saved := h'.saved.trans h.saved
  token := by
    rcases h'.token with ht | ht
    · rcases h.token with hs | hs
      · exact .inl (ht.trans hs)
      · exact .inr (h'.ended hs)
    · exact .inr ht

theorem steady_record (s : Session) {o : Occurrence} (h : o.stop? = none) : Steady s (s.record o) where
  stops := by simp [h]
  ended := id
  mirrored := id
  paused := rfl
  saved := rfl
  token := .inl rfl

private theorem steady_depth (s : Session) (depth : Nat) :
    Steady s { s with depth } := ⟨⟨rfl, id, id⟩, rfl, rfl, .inl rfl⟩

theorem steady_terminate (s : Session) : Steady s s.terminate := ⟨⟨rfl, fun _ => rfl, fun _ => rfl⟩, rfl, rfl, .inr rfl⟩

/-- The token of a paused evaluation is not taken by other waits. -/
theorem steady_takeToken (s : Session) (wait : Wait) (h : wait ≠ .resume) : Steady s (s.takeToken wait) := by
  cases wait with
  | resume => exact absurd rfl h
  | start => exact ⟨⟨rfl, id, id⟩, rfl, rfl, .inl rfl⟩
  | disconnect code => exact ⟨⟨rfl, id, id⟩, rfl, rfl, .inl rfl⟩

private theorem steady_checkStart (s : Session) : Steady s s.checkStart := by
  unfold checkStart
  split
  · exact ⟨⟨rfl, id, id⟩, rfl, rfl, .inl rfl⟩
  · exact .refl s

theorem steady_assert (s : Session) {f : Flag} (h : f ≠ .paused) : Steady s (s.assert f) := by
  have hset : f ≠ .terminate → Steady s { s with flags := s.flags.set true f } := by
    intro ht
    cases f <;> first | exact ⟨⟨rfl, id, id⟩, rfl, rfl, .inl rfl⟩ | contradiction
  cases f with
  | paused => exact absurd rfl h
  | terminate => exact steady_terminate s
  | sessionReady => exact (hset nofun).trans (steady_checkStart _)
  | clientConfigured => exact (hset nofun).trans (steady_checkStart _)
  | startRequested => exact hset nofun
  | started => exact hset nofun
  | suppressLogs => exact hset nofun

theorem steady_clear (s : Session) {f : Flag} (h : f ≠ .paused) : Steady s (s.clear f) := by
  cases f with
  | paused => exact absurd rfl h
  | terminate => exact .refl s
  | _ => exact ⟨⟨rfl, id, id⟩, rfl, rfl, .inl rfl⟩

private theorem steady_announceExit (setup : Setup) (code : Int) (s : Session) :
    Steady s (s.announceExit setup code) := by
  refine .trans ?_ (steady_terminate _)
  split
  · exact (steady_record s rfl).trans (steady_record _ rfl)
  · exact steady_record s rfl

/-! ### The evaluation side -/

/-- A stop that is asked for takes place or changes nothing. -/
theorem stop_cases (setup : Setup) (what : Stop) (snapshot : Snapshot) (s : Session) :
    s.stop setup what snapshot = (s, false) ∨
      s.Free ∧ s.stop setup what snapshot = (s.halt setup what snapshot, true) := by
  by_cases h : s.Free
  · exact .inr ⟨h, stop_of_free h setup what snapshot⟩
  · exact .inl (stop_of_not_free h setup what snapshot)

theorem log_cases (level : LogLevel) (text : String) (s : Session) :
    s.log level text = s ∨
      s.log level text = s.send (.output level.channel (level.render ++ ": " ++ text ++ "\n")) := by
  unfold log
  split
  · exact .inl rfl
  · exact .inr rfl

theorem enter_of_free {s : Session} (h : s.Free) (setup : Setup) (node : Node) (scope : Scope) :
    s.enter setup node scope =
      match { s with depth := s.depth + 1 }.stopAt setup node with
      | some what =>
        ({ s with depth := s.depth + 1 }.halt setup what ({ s with depth := s.depth + 1 }.snapshotAt node scope), true)
      | none => ({ s with depth := s.depth + 1 }, false) := by
  unfold enter
  rw [if_neg (by simp [h.1]), if_neg (by simp [h.2.2])]
  cases { s with depth := s.depth + 1 }.stopAt setup node with
  | some what => exact stop_of_free (s := { s with depth := s.depth + 1 }) h setup what _
  | none => rfl

/-- An announcement changes the depth, or it is sent to the client, or it stops evaluation. -/
theorem announce_changes (setup : Setup) (s : Session) (h : Hook) :
    (∃ depth, s.announce setup h = ({ s with depth }, false)) ∨
      (∃ channel text, s.announce setup h = (s.send (.output channel text), false)) ∨
      s.Free ∧ ∃ depth what snapshot, s.announce setup h = ({ s with depth }.halt setup what snapshot, true) := by
  have hstop : ∀ n what snapshot,
      (∃ depth, { s with depth := n }.stop setup what snapshot = ({ s with depth }, false)) ∨
      s.Free ∧ ∃ depth what' snapshot',
        { s with depth := n }.stop setup what snapshot = ({ s with depth }.halt setup what' snapshot', true) := by
    intro n what snapshot
    rcases stop_cases setup what snapshot { s with depth := n } with hs | ⟨hf, hs⟩
    · exact .inl ⟨n, hs⟩
    · exact .inr ⟨hf, n, what, snapshot, hs⟩
  cases h with
  | enter node scope =>
    simp only [announce, enter]
    split
    · exact .inl ⟨s.depth, rfl⟩
    split
    · exact .inl ⟨s.depth + 1, rfl⟩
    split
    · exact (hstop _ _ _).imp_right .inr
    · exact .inl ⟨s.depth + 1, rfl⟩
  | leave =>
    simp only [announce, leave]
    split
    · exact .inl ⟨s.depth, rfl⟩
    · exact .inl ⟨s.depth - 1, rfl⟩
  | exception e =>
    simp only [announce, raise]
    split
    · exact .inl ⟨s.depth, rfl⟩
    · exact (hstop s.depth _ _).imp_right .inr
  | log level text =>
    simp only [announce]
    rcases log_cases level text s with hs | hs <;> rw [hs]
    · exact .inl ⟨s.depth, rfl⟩
    · exact .inr (.inl ⟨_, _, rfl⟩)

/-- An announcement is steady or stops evaluation. -/
theorem announce_cases (setup : Setup) (s : Session) (h : Hook) :
    Steady s (s.announce setup h).1 ∧ (s.announce setup h).2 = false ∨
      s.Free ∧ ∃ depth what snapshot,
        s.announce setup h = ({ s with depth }.halt setup what snapshot, true) := by
  rcases announce_changes setup s h with ⟨depth, hs⟩ | ⟨channel, text, hs⟩ | hs
  · rw [hs]
    exact .inl ⟨steady_depth s depth, rfl⟩
  · rw [hs]
    exact .inl ⟨steady_record s rfl, rfl⟩
  · exact .inr hs

theorem await_cases (s : Session) (wait : Wait) :
    (∃ outcome, s.outcome? wait = some outcome ∧
      s.await wait = (if wait = .start then s else s.takeToken wait, .done outcome)) ∨
      s.outcome? wait = none ∧ s.await wait = (s.takeToken wait, .waiting wait) := by
  unfold await
  split
  · rename_i outcome h
    exact .inl ⟨outcome, h, rfl⟩
  · rename_i h
    exact .inr ⟨h, rfl⟩

/-- A wait changes tokens and nothing else. -/
theorem await_session (s : Session) (wait : Wait) :
    (s.await wait).1 = { s with signals := (s.await wait).1.signals } := by
  have htoken : s.takeToken wait = { s with signals := (s.takeToken wait).signals } := by cases wait <;> rfl
  rcases await_cases s wait with ⟨outcome, -, hs⟩ | ⟨-, hs⟩ <;> rw [hs]
  · by_cases hw : wait = .start
    · rw [if_pos hw]
    · rw [if_neg hw]
      exact htoken
  · exact htoken

theorem awaitIf_session (stopped : Session × Bool) :
    (awaitIf stopped).1 = { stopped.1 with signals := (awaitIf stopped).1.signals } := by
  unfold awaitIf
  split
  · exact await_session _ _
  · rfl

/-- A wait for anything but a resume is steady. -/
theorem steady_await (s : Session) (wait : Wait) (h : wait ≠ .resume) :
    Steady s (s.await wait).1 ∧ (s.await wait).2 ≠ .waiting .resume := by
  rcases await_cases s wait with ⟨outcome, -, hs⟩ | ⟨-, hs⟩
  · rw [hs]
    refine ⟨?_, nofun⟩
    split
    · exact .refl s
    · exact steady_takeToken s wait h
  · rw [hs]
    exact ⟨steady_takeToken s wait h, fun he => h (Progress.waiting.inj he)⟩

/-- After a stop, evaluation waits. -/
theorem awaitIf_halt {s : Session} (h : s.ended = false) (setup : Setup) (what : Stop) (snapshot : Snapshot) :
    awaitIf (s.halt setup what snapshot, true) = (s.halt setup what snapshot, .waiting .resume) := by
  have ho : (s.halt setup what snapshot).outcome? .resume = none := by
    simp [outcome?, halt, send, record, h]
  simp only [awaitIf, await, ho, ↓reduceIte]
  rfl

/-- An action is steady, or it stops evaluation, which waits then. -/
theorem perform_cases (setup : Setup) (s : Session) (a : Action) :
    Steady s (s.perform setup a).1 ∧ (s.perform setup a).2 ≠ .waiting .resume ∨
      s.Free ∧ ∃ depth what snapshot,
        s.perform setup a = ({ s with depth }.halt setup what snapshot, .waiting .resume) := by
  cases a with
  | hook h =>
    rcases announce_cases setup s h with ⟨hs, hb⟩ | ⟨hf, depth, what, snapshot, hs⟩
    · left
      simp only [perform, awaitIf, hb, Bool.false_eq_true, ↓reduceIte]
      exact ⟨hs, nofun⟩
    · refine .inr ⟨hf, depth, what, snapshot, ?_⟩
      simp only [perform, hs]
      exact awaitIf_halt (s := { s with depth }) hf.2.2 setup what snapshot
  | stop what snapshot =>
    rcases stop_cases setup what snapshot s with hs | ⟨hf, hs⟩
    · exact .inl (by simp only [perform, hs, awaitIf]; exact ⟨.refl s, nofun⟩)
    · refine .inr ⟨hf, s.depth, what, snapshot, ?_⟩
      simp only [perform, hs]
      exact awaitIf_halt hf.2.2 setup what snapshot
  | visit node => exact .inl ⟨steady_record s rfl, nofun⟩
  | failure text => exact .inl ⟨steady_record s rfl, nofun⟩
  | prepare path =>
    have hu : Steady s { s with unit := some path } := ⟨⟨rfl, id, id⟩, rfl, rfl, .inl rfl⟩
    exact .inl ⟨hu.trans (steady_assert _ (f := .sessionReady) nofun), nofun⟩
  | awaitStart => exact .inl (steady_await s .start nofun)
  | begin => exact .inl ⟨⟨⟨rfl, id, id⟩, rfl, rfl, .inl rfl⟩, nofun⟩
  | exit code =>
    obtain ⟨hs, hw⟩ := steady_await (s.announceExit setup code) (.disconnect code) nofun
    exact .inl ⟨(steady_announceExit setup code s).trans hs, hw⟩

end Session

end Debugger
