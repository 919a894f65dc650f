import Debugger.Proofs.Run

/-!
# What an action notes, waits for and leaves alone

The journal grows by what each action notes (`journal_perform`): nothing, a stop or an output for an announcement, and
for the exit of the process the exit and the end of the session. Only the exit takes the token that a disconnect leaves
for it, so a disconnect that comes early is not forgotten (`token_perform`, `perform_exit_of_token`).
-/

namespace Debugger

/-- What the journal may hold of an action. -/
def Action.Notes (setup : Setup) : Action → List Occurrence → Prop
  | .hook _, os =>
    os = [] ∨ (∃ what, os = [.sent (.stopped what setup.config.threadId)]) ∨
      ∃ channel text, os = [.sent (.output channel text)]
  | .stop what _, os => os = [] ∨ os = [.sent (.stopped what setup.config.threadId)]
  | .visit node, os => ∃ depth, os = [.visited node depth]
  | .failure text, os => os = [.sent (.output .stderr (text ++ "\n"))]
  | .exit code, os => os = .sent (.exited code) :: if setup.announcesEnd then [.sent .terminated] else []
  | .prepare _, os | .awaitStart, os | .begin, os => os = []

/-- What the journal may hold of actions that were carried out one after the other. -/
def Noted (setup : Setup) : List Action → List Occurrence → Prop
  | [], os => os = []
  | a :: as, os => ∃ first rest, a.Notes setup first ∧ Noted setup as rest ∧ os = first ++ rest

theorem noted_append {setup : Setup} {as bs : List Action} {os : List Occurrence} :
    Noted setup (as ++ bs) os ↔ ∃ first rest, Noted setup as first ∧ Noted setup bs rest ∧ os = first ++ rest := by
  induction as generalizing os with
  | nil => simp [Noted]
  | cons a as ih =>
    simp only [List.cons_append, Noted, ih]
    constructor
    · rintro ⟨own, _, ha, ⟨first, rest, has, hbs, rfl⟩, rfl⟩
      exact ⟨own ++ first, rest, ⟨own, first, ha, has, rfl⟩, hbs, by rw [List.append_assoc]⟩
    · rintro ⟨_, rest, ⟨own, first, ha, has, rfl⟩, hbs, rfl⟩
      exact ⟨own, first ++ rest, ha, ⟨first, rest, has, hbs, rfl⟩, by rw [List.append_assoc]⟩

theorem noted_singleton {setup : Setup} {a : Action} {os : List Occurrence} :
    Noted setup [a] os ↔ a.Notes setup os := by
  simp [Noted]

/-- Whatever is noted belongs to an action. -/
theorem action_of_noted {setup : Setup} {as : List Action} {os : List Occurrence} (h : Noted setup as os)
    {o : Occurrence} (ho : o ∈ os) : ∃ a ∈ as, ∃ own, a.Notes setup own ∧ o ∈ own := by
  induction as generalizing os with
  | nil =>
    obtain rfl : os = [] := h
    contradiction
  | cons a as ih =>
    obtain ⟨first, rest, ha, hrest, rfl⟩ := h
    rcases List.mem_append.1 ho with ho | ho
    · exact ⟨a, List.mem_cons_self, first, ha, ho⟩
    · obtain ⟨b, hb, hown⟩ := ih hrest ho
      exact ⟨b, List.mem_cons_of_mem a hb, hown⟩

theorem notes_of_mem {setup : Setup} {as : List Action} {os : List Occurrence} (h : Noted setup as os) {a : Action}
    (ha : a ∈ as) : ∃ own, a.Notes setup own ∧ own ⊆ os := by
  induction as generalizing os with
  | nil => contradiction
  | cons b as ih =>
    obtain ⟨first, rest, hb, hrest, rfl⟩ := h
    rcases List.mem_cons.1 ha with rfl | ha
    · exact ⟨first, hb, List.subset_append_left first rest⟩
    · obtain ⟨own, hown, hsub⟩ := ih hrest ha
      exact ⟨own, hown, List.subset_append_of_subset_right first hsub⟩

/-- What an action may wait for. -/
def Action.Awaits : Action → Wait → Prop
  | .hook _, .resume | .stop _ _, .resume | .awaitStart, .start => True
  | .exit code, .disconnect code' => code = code'
  | _, _ => False

/-- What an action returns, if it does not wait. -/
def Progress.outcome? : Progress → Option Outcome
  | done outcome => some outcome
  | waiting _ => none

namespace Session

theorem advance_nil (setup : Setup) (s : Session) (outcome : Outcome) :
    s.advance setup outcome [] = (s, .finished outcome) := by
  unfold advance
  split <;> simp_all

theorem journal_takeToken (s : Session) (wait : Wait) : (s.takeToken wait).journal = s.journal := by
  cases wait <;> rfl

private theorem journal_await (s : Session) (wait : Wait) : (s.await wait).1.journal = s.journal := by
  rw [await_session]

private theorem journal_awaitIf (stopped : Session × Bool) : (awaitIf stopped).1.journal = stopped.1.journal := by
  rw [awaitIf_session]

private theorem journal_stop (setup : Setup) (what : Stop) (snapshot : Snapshot) (s : Session) :
    ∃ os, (Action.stop what snapshot).Notes setup os ∧ (s.stop setup what snapshot).1.journal = s.journal ++ os := by
  rcases stop_cases setup what snapshot s with hs | ⟨-, hs⟩
  · exact ⟨[], .inl rfl, by rw [hs, List.append_nil]⟩
  · exact ⟨_, .inr rfl, by rw [hs]; rfl⟩

private theorem journal_announce (setup : Setup) (s : Session) (hook : Hook) :
    ∃ os, (Action.hook hook).Notes setup os ∧ (s.announce setup hook).1.journal = s.journal ++ os := by
  have hsilent : ∀ s' : Session, s'.journal = s.journal →
      ∃ os, (Action.hook hook).Notes setup os ∧ s'.journal = s.journal ++ os :=
    fun s' h => ⟨[], .inl rfl, by rw [h, List.append_nil]⟩
  have hstop : ∀ (t : Session) (what : Stop) (snapshot : Snapshot), t.journal = s.journal →
      ∃ os, (Action.hook hook).Notes setup os ∧ (t.stop setup what snapshot).1.journal = s.journal ++ os := by
    intro t what snapshot ht
    obtain ⟨os, hos, hjournal⟩ := journal_stop setup what snapshot t
    exact ⟨os, hos.imp id fun h => .inl ⟨what, h⟩, hjournal.trans (by rw [ht])⟩
  cases hook with
  | enter node scope =>
    simp only [announce, enter]
    split
    · exact hsilent s rfl
    split
    · exact hsilent _ rfl
    split
    · exact hstop { s with depth := s.depth + 1 } _ _ rfl
    · exact hsilent _ rfl
  | leave =>
    simp only [announce, leave]
    split <;> exact hsilent _ rfl
  | exception e =>
    simp only [announce, raise]
    split
    · exact hsilent s rfl
    · exact hstop s _ _ rfl
  | log level text =>
    rcases log_cases level text s with hs | hs <;> simp only [announce, hs]
    · exact hsilent s rfl
    · exact ⟨_, .inr (.inr ⟨level.channel, _, rfl⟩), rfl⟩

/-- An action adds to the journal what it notes. -/
theorem journal_perform (setup : Setup) (s : Session) (a : Action) :
    ∃ os, a.Notes setup os ∧ (s.perform setup a).1.journal = s.journal ++ os := by
  cases a with
  | hook hook => simpa only [perform, journal_awaitIf] using journal_announce setup s hook
  | stop what snapshot => simpa only [perform, journal_awaitIf] using journal_stop setup what snapshot s
  | visit node => exact ⟨_, ⟨s.depth, rfl⟩, rfl⟩
  | failure text => exact ⟨_, rfl, rfl⟩
  | prepare path =>
    refine ⟨[], rfl, ?_⟩
    simp only [perform, prepare, assert, checkStart, List.append_nil]
    split <;> rfl
  | awaitStart => exact ⟨[], rfl, by simp only [perform, journal_await, List.append_nil]⟩
  | begin => exact ⟨[], rfl, by simp only [perform, beginEvaluation, List.append_nil]⟩
  | exit code =>
    refine ⟨_, rfl, ?_⟩
    simp only [perform, journal_await, announceExit]
    cases setup.announcesEnd <;> simp [terminate, send, record]

theorem awaits_perform {setup : Setup} {s : Session} {a : Action} {w : Wait}
    (h : (s.perform setup a).2.wait? = some w) : a.Awaits w := by
  have hawait : ∀ (t : Session) (w' : Wait), (t.await w').2.wait? = some w → w = w' := by
    intro t w' hw
    rcases await_cases t w' with ⟨outcome, -, hs⟩ | ⟨-, hs⟩ <;> rw [hs] at hw
    · contradiction
    · exact (Option.some.inj hw).symm
  have hif : ∀ stopped : Session × Bool, (awaitIf stopped).2.wait? = some w → w = .resume := by
    intro stopped hw
    unfold awaitIf at hw
    split at hw
    · exact hawait _ _ hw
    · contradiction
  cases a with
  | hook hook =>
    obtain rfl := hif _ h
    trivial
  | stop what snapshot =>
    obtain rfl := hif _ h
    trivial
  | awaitStart =>
    obtain rfl := hawait _ _ h
    trivial
  | exit code =>
    obtain rfl := hawait _ _ h
    rfl
  | _ => contradiction

/-- Only a session that is over refuses the start. -/
theorem refused_perform {setup : Setup} {s : Session} {a : Action}
    (h : (s.perform setup a).2.outcome? = some (.start false)) :
    a = .awaitStart ∧ (s.perform setup a).1.ended = true := by
  have hawait : ∀ (t : Session) (w : Wait), (t.await w).2.outcome? = some (.start false) →
      w = .start ∧ t.ended = true := by
    intro t w hw
    rcases await_cases t w with ⟨outcome, ho, hs⟩ | ⟨-, hs⟩ <;> rw [hs] at hw
    · obtain rfl := Option.some.inj hw
      cases w <;> simp_all [outcome?]
    · contradiction
  have hif : ∀ stopped : Session × Bool, (awaitIf stopped).2.outcome? ≠ some (.start false) := by
    intro stopped hw
    unfold awaitIf at hw
    split at hw
    · cases (hawait _ _ hw).1
    · simp [Progress.outcome?] at hw
  cases a with
  | hook hook => exact absurd h (hif _)
  | stop what snapshot => exact absurd h (hif _)
  | awaitStart =>
    have hend := (hawait _ _ h).2
    exact ⟨rfl, (steady_await s .start (by simp)).1.ended hend⟩
  | exit code => cases (hawait _ _ h).1
  | _ => simp [perform, Progress.outcome?] at h

theorem refused_of_ended {setup : Setup} {s : Session} (h : (s.perform setup .awaitStart).1.ended = true) :
    (s.perform setup .awaitStart).2.outcome? = some (.start false) := by
  have hend : s.ended = true := by
    rcases await_cases s .start with ⟨outcome, -, hs⟩ | ⟨-, hs⟩ <;> simp only [perform, hs] at h <;> exact h
  simp only [perform, await, outcome?, hend, ↓reduceIte, Progress.outcome?]

/-! ### What actions leave alone -/

/-- Evaluation has begun just as before, and the token for the exit is where it was. -/
structure Unmoved (s s' : Session) : Prop where
  started : s'.flags.started = s.flags.started
  token : s'.signals.disconnect = s.signals.disconnect

private theorem Unmoved.refl (s : Session) : Unmoved s s := ⟨rfl, rfl⟩

private theorem Unmoved.trans {s s' s'' : Session} (h : Unmoved s s') (h' : Unmoved s' s'') : Unmoved s s'' :=
  ⟨h'.started.trans h.started, h'.token.trans h.token⟩

private theorem unmoved_await (s : Session) {wait : Wait} (h : ∀ code, wait ≠ .disconnect code) :
    Unmoved s (s.await wait).1 := by
  have htake : Unmoved s (s.takeToken wait) := by
    cases wait with
    | disconnect code => exact absurd rfl (h code)
    | _ => exact ⟨rfl, rfl⟩
  rcases await_cases s wait with ⟨outcome, -, hs⟩ | ⟨-, hs⟩
  · rw [hs]
    split
    · exact .refl s
    · exact htake
  · rw [hs]
    exact htake

private theorem unmoved_awaitIf (stopped : Session × Bool) : Unmoved stopped.1 (awaitIf stopped).1 := by
  unfold awaitIf
  split
  · exact unmoved_await _ (by simp)
  · exact .refl _

private theorem unmoved_stop (setup : Setup) (what : Stop) (snapshot : Snapshot) (s : Session) :
    Unmoved s (s.stop setup what snapshot).1 := by
  rcases stop_cases setup what snapshot s with hs | ⟨-, hs⟩
  · rw [hs]
    exact .refl s
  · rw [hs]
    exact ⟨rfl, rfl⟩

private theorem unmoved_announce (setup : Setup) (s : Session) (hook : Hook) : Unmoved s (s.announce setup hook).1 := by
  rcases announce_changes setup s hook with ⟨depth, hs⟩ | ⟨channel, text, hs⟩ | ⟨-, depth, what, snapshot, hs⟩ <;>
    rw [hs] <;> exact ⟨rfl, rfl⟩

private theorem unmoved_perform (setup : Setup) (s : Session) {a : Action} (hbegin : a ≠ .begin)
    (hexit : ∀ code, a ≠ .exit code) : Unmoved s (s.perform setup a).1 := by
  cases a with
  | hook hook => exact (unmoved_announce setup s hook).trans (unmoved_awaitIf _)
  | stop what snapshot => exact (unmoved_stop setup what snapshot s).trans (unmoved_awaitIf _)
  | prepare path =>
    simp only [perform, prepare, assert, checkStart]
    split <;> exact ⟨rfl, rfl⟩
  | awaitStart => exact unmoved_await s (by simp)
  | begin => exact absurd rfl hbegin
  | exit code => exact absurd rfl (hexit code)
  | _ => exact ⟨rfl, rfl⟩

theorem token_perform (setup : Setup) (s : Session) {a : Action} (hexit : ∀ code, a ≠ .exit code) :
    (s.perform setup a).1.signals.disconnect = s.signals.disconnect := by
  by_cases hbegin : a = .begin
  · subst hbegin
    rfl
  · exact (unmoved_perform setup s hbegin hexit).token

private theorem unmoved_announceExit (setup : Setup) (code : Int) (s : Session) :
    Unmoved s (s.announceExit setup code) := by
  unfold announceExit
  split <;> exact ⟨rfl, rfl⟩

theorem started_perform (setup : Setup) (s : Session) (a : Action) :
    (s.perform setup a).1.flags.started = true ↔ s.flags.started = true ∨ a = .begin := by
  by_cases hbegin : a = .begin
  · subst hbegin
    simp [perform, beginEvaluation]
  · have hsame : (s.perform setup a).1.flags.started = s.flags.started := by
      by_cases hexit : ∃ code, a = .exit code
      · obtain ⟨code, rfl⟩ := hexit
        have htake : ∀ t : Session, (t.takeToken (.disconnect code)).flags = t.flags := fun _ => rfl
        rcases await_cases (s.announceExit setup code) (.disconnect code) with ⟨outcome, -, hs⟩ | ⟨-, hs⟩ <;>
          simp only [perform, hs, reduceCtorEq, ↓reduceIte, htake, (unmoved_announceExit setup code s).started]
      · exact (unmoved_perform setup s hbegin fun code h => hexit ⟨code, h⟩).started
    rw [hsame]
    simp [hbegin]

/-- A process that exits after the client has gone does not wait. -/
theorem perform_exit_of_token {s : Session} (h : s.signals.disconnect = true) (setup : Setup) (code : Int) :
    (s.perform setup (.exit code)).2 = .done (.exited .disconnected) := by
  have htoken := (unmoved_announceExit setup code s).token.trans h
  simp only [perform, await, outcome?, htoken, ↓reduceIte]

end Session

end Debugger
