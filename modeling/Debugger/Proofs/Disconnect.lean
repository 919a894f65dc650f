import Debugger.Proofs.Messages
import Mathlib.Data.List.Induction

/-!
# A disconnect is never forgotten

A client that goes releases the evaluation from wherever it waits, and leaves a token for the process that exits later
(`disconnect_releases`). From then on nothing waits any more: a start is refused, evaluation goes on to its end without
a stop, and the exit is over at once. So a process is ended by force at most once, and only if no disconnect came before
the grace period ran out.
-/

namespace Debugger

/-- Whether the client goes, by a request or with the front end. -/
def Incident.disconnects : Incident → Bool
  | request r => (r.command matches .disconnect)
  | close => true
  | _ => false

/-- Whether the evaluation may take up an action. -/
def Incident.turns : Incident → Bool
  | turn => true
  | _ => false

/-- The code with which the process was ended by force. -/
def Occurrence.forcedExit? : Occurrence → Option Int
  | forcedExit code => some code
  | _ => none

/-- The codes with which the process was ended by force, in order. -/
def Session.forcedExits (s : Session) : List Int := s.journal.filterMap Occurrence.forcedExit?

/-- How a wait ends when the client goes. -/
def Wait.dismissed : Wait → Outcome
  | start => .start false
  | resume => .completed
  | disconnect _ => .exited .disconnected

private theorem forcedExits_of_noted {setup : Setup} {actions : List Action} {os : List Occurrence}
    (h : Noted setup actions os) : os.filterMap Occurrence.forcedExit? = [] := by
  rw [List.filterMap_eq_nil_iff]
  intro o ho
  obtain ⟨a, -, own, hown, ho⟩ := action_of_noted h ho
  cases a with
  | hook hook => rcases hown with rfl | ⟨what, rfl⟩ | ⟨channel, text, rfl⟩ <;> simp_all [Occurrence.forcedExit?]
  | stop what snapshot => rcases hown with rfl | rfl <;> simp_all [Occurrence.forcedExit?]
  | visit node =>
    obtain ⟨depth, rfl⟩ := hown
    simp_all [Occurrence.forcedExit?]
  | exit code =>
    obtain rfl := hown
    cases hends : setup.announcesEnd <;> simp [hends] at ho <;> rcases ho with rfl | rfl <;> rfl
  | _ =>
    obtain rfl := hown
    simp_all [Occurrence.forcedExit?]

namespace Engine

private theorem outcome_disconnect (s : Session) (w : Wait) : s.disconnect.outcome? w = some w.dismissed := by
  cases w <;> rfl

/-- A disconnect ends whatever is waited for. -/
private theorem step_disconnect (setup : Setup) {e : Engine} {w : Wait} (h : e.call = some (w, [])) :
    e.step setup .disconnect =
      ({ e with session := e.session.disconnect.takeToken w, call := none }, .nothing, some w.dismissed) := by
  have hrelease : e.session.disconnect.release w = some (e.session.disconnect.takeToken w, w.dismissed) := by
    rw [Session.release, outcome_disconnect, Option.map_some]
  simp only [step, serve, update, settle, h, hrelease, proceed, Session.advance_nil]

private theorem step_disconnect_of_idle (setup : Setup) {e : Engine} (h : e.call = none) :
    e.step setup .disconnect = ({ e with session := e.session.disconnect }, .nothing, none) := by
  simp only [step, serve, update, settle, h]

end Engine

namespace Live

variable {setup : Setup} {interpreter : Interpreter} {p q : Live}

private theorem step_of_disconnects (setup : Setup) (interpreter : Interpreter) (p : Live) {i : Incident}
    (h : i.disconnects = true) : p.step setup interpreter i = p.meet (p.front.close setup) := by
  cases i with
  | request r =>
    cases hr : r.command with
    | disconnect =>
      have haccepts : p.front.accepts r = none := by simp only [Adapter.accepts, hr]
      simp only [step, haccepts]
      rw [Adapter.handle_eq_execute (by rw [hr, Adapter.execute])]
      rfl
    | _ => simp [Incident.disconnects, hr] at h
  | close => rfl
  | _ => contradiction

/-- Taking up an action ends no process by force. -/
private theorem forcedExits_taken (setup : Setup) (p : Live) (a : Action) (rest : List Action) :
    (p.taken setup a rest).front.session.forcedExits = p.front.session.forcedExits := by
  obtain ⟨os, hos, hjournal⟩ := Session.journal_perform setup p.front.engine.session a
  have hjournal : (p.taken setup a rest).front.session.journal = p.front.session.journal ++ os := hjournal
  rw [Session.forcedExits, hjournal, List.filterMap_append, forcedExits_of_noted (noted_singleton.2 hos),
    List.append_nil]
  rfl

/-! ### After a disconnect -/

/-- The client has gone, nothing is waited for, and there is a token for the exit, if it is still to come. -/
structure Gone (p : Live) : Prop where
  ended : p.front.engine.session.ended = true
  idle : p.front.engine.call = none
  token : p.front.engine.session.signals.disconnect = true ∨ ∃ code, Action.exit code ∈ p.done

private theorem gone_of_disconnects (h : p.Sound setup interpreter) {i : Incident} (hi : i.disconnects = true) :
    (p.step setup interpreter i).Gone := by
  rw [step_of_disconnects setup interpreter p hi]
  cases hcall : p.front.engine.call with
  | none =>
    have hfront : (p.front.close setup).engine = { p.front.engine with session := p.front.engine.session.disconnect } :=
      congrArg Prod.fst (Engine.step_disconnect_of_idle setup hcall)
    exact ⟨by rw [meet, hfront]; rfl, by rw [meet, hfront]; exact hcall, .inl (by rw [meet, hfront]; rfl)⟩
  | some call =>
    obtain ⟨w, rest⟩ := call
    obtain rfl := h.single w rest hcall
    have hfront := congrArg Prod.fst (Engine.step_disconnect setup hcall)
    have hfront : (p.front.close setup).engine = _ := hfront
    refine ⟨?_, ?_, ?_⟩ <;> rw [meet, hfront]
    · cases w <;> rfl
    · cases w with
      | disconnect code =>
        exact .inr ⟨code, h.exit_of_waiting (Engine.waiting_of_call hcall)⟩
      | _ => exact .inl rfl

private theorem Gone.token_of_todo (hgone : p.Gone) (h : p.Sound setup interpreter) {a : Action} {rest : List Action}
    (htodo : p.todo = a :: rest) : p.front.engine.session.signals.disconnect = true := by
  rcases hgone.token with htoken | ⟨code, hexit⟩
  · exact htoken
  · rw [h.todo_of_exit hexit] at htodo
    contradiction

private theorem Gone.taken (hgone : p.Gone) (h : p.Sound setup interpreter) {a : Action} {rest : List Action}
    (htodo : p.todo = a :: rest) :
    (p.taken setup a rest).Gone ∧ (p.taken setup a rest).front.session.stops = p.front.session.stops := by
  have htoken := hgone.token_of_todo h htodo
  have hover : p.front.engine.session.Over := ⟨h.mirrored.trans hgone.ended, hgone.ended⟩
  have hsteady := (hover.perform_steady setup a).1
  refine ⟨?_, hsteady.stops⟩
  by_cases hexit : ∃ code, a = .exit code
  · obtain ⟨code, rfl⟩ := hexit
    refine ⟨hsteady.ended hgone.ended, ?_, .inr ⟨code, List.mem_append_right _ List.mem_cons_self⟩⟩
    simp only [Live.taken, Engine.take, Session.perform_exit_of_token htoken, Progress.wait?, Option.map_none]
  · simp only [not_exists] at hexit
    obtain ⟨outcome, hdone⟩ := hover.perform_done setup hexit
    refine ⟨hsteady.ended hgone.ended, ?_, .inl ((Session.token_perform setup _ hexit).trans htoken)⟩
    simp only [Live.taken, Engine.take, hdone, Progress.wait?, Option.map_none]

private theorem gone_step (h : p.Sound setup interpreter) (hgone : p.Gone) (i : Incident) :
    (p.step setup interpreter i).Gone ∧
      (p.step setup interpreter i).front.session.stops = p.front.session.stops ∧
      (p.step setup interpreter i).front.session.forcedExits = p.front.session.forcedExits := by
  rcases step_cases h.settled h.single i with ⟨r, args, -, hr, hs⟩ | ⟨a, rest, -, -, htodo, hs⟩ |
    ⟨code, -, hcall, hs⟩ | ⟨front, hs, hserved, hlaunched⟩ <;> rw [hs]
  · exact ⟨⟨hgone.ended, hgone.idle, hgone.token⟩, rfl, rfl⟩
  · obtain ⟨hnext, hstops⟩ := hgone.taken h htodo
    exact ⟨hnext, hstops, forcedExits_taken setup p a rest⟩
  · rw [hgone.idle] at hcall
    contradiction
  · refine ⟨⟨hserved.ended hgone.ended, ?_, hgone.token.imp hserved.token id⟩, ?_, ?_⟩
    · exact hserved.call.elim (·.trans hgone.idle) id
    · exact congrArg (List.filterMap Occurrence.stop?) hserved.journal
    · exact congrArg (List.filterMap Occurrence.forcedExit?) hserved.journal

private theorem Gone.run (hgone : p.Gone) (h : p.Sound setup interpreter) (later : List Incident) :
    (p.run setup interpreter later).Gone ∧
      (p.run setup interpreter later).front.session.stops = p.front.session.stops ∧
      (p.run setup interpreter later).front.session.forcedExits = p.front.session.forcedExits := by
  induction later generalizing p with
  | nil => exact ⟨hgone, rfl, rfl⟩
  | cons i later ih =>
    obtain ⟨hnext, hstops, hforced⟩ := gone_step h hgone i
    obtain ⟨hlast, hstops', hforced'⟩ := ih hnext (sound_step h i)
    exact ⟨hlast, hstops'.trans hstops, hforced'.trans hforced⟩

private theorem Gone.todo_step (hgone : p.Gone) (h : p.Sound setup interpreter) (hlaunch : p.launch ≠ none)
    (hstart : Action.awaitStart ∉ p.todo) (i : Incident) :
    (p.step setup interpreter i).done = p.done ++ p.todo.take i.turns.toNat ∧
      (p.step setup interpreter i).todo = p.todo.drop i.turns.toNat ∧
      (p.step setup interpreter i).launch = p.launch := by
  by_cases hturn : i = .turn
  · subst hturn
    cases htodo : p.todo with
    | nil =>
      have hsame : p.step setup interpreter .turn = p := by simp only [step, turn, hgone.idle, htodo]
      rw [hsame]
      simp [htodo]
    | cons a rest =>
      have hnot : (p.front.engine.session.perform setup a).2.outcome? ≠ some (.start false) := by
        intro hrefused
        obtain rfl := (Session.refused_perform hrefused).1
        simp [htodo] at hstart
      have htaken : p.step setup interpreter .turn = p.taken setup a rest := turn_of_idle hgone.idle htodo
      rw [htaken]
      simp [Live.taken, hnot, Incident.turns]
  · have hnone : i.turns = false := by cases i <;> first | rfl | contradiction
    rw [hnone]
    rcases step_cases h.settled h.single i with ⟨r, args, -, hr, -⟩ | ⟨a, rest, rfl, -⟩ | ⟨code, -, hcall, -⟩ |
      ⟨front, hs, hserved, hlaunched⟩
    · exact absurd (h.idle_of_accepts hr).1 hlaunch
    · exact absurd rfl hturn
    · rw [hgone.idle] at hcall
      contradiction
    · rw [hs]
      simp [meet, Engine.waiting_of_idle hgone.idle]

/-- After a disconnect, the evaluation of a launch takes up an action with each turn, once its start is decided. -/
private theorem Gone.todo_run (hgone : p.Gone) (h : p.Sound setup interpreter) (hlaunch : p.launch ≠ none)
    (hstart : Action.awaitStart ∉ p.todo) (later : List Incident) :
    (p.run setup interpreter later).done = p.done ++ p.todo.take (later.countP Incident.turns) ∧
      (p.run setup interpreter later).todo = p.todo.drop (later.countP Incident.turns) := by
  induction later generalizing p with
  | nil => simp [Live.run]
  | cons i later ih =>
    obtain ⟨hdone, htodo, hkept⟩ := hgone.todo_step h hlaunch hstart i
    have hstart' : Action.awaitStart ∉ (p.step setup interpreter i).todo := by
      rw [htodo]
      exact fun hin => hstart (List.mem_of_mem_drop hin)
    have hcount : (i :: later).countP Incident.turns = i.turns.toNat + later.countP Incident.turns := by
      rw [List.countP_cons]
      cases i.turns <;> simp [Nat.add_comm]
    obtain ⟨hdone', htodo'⟩ := ih (gone_step h hgone i).1 (sound_step h i) (hkept ▸ hlaunch) hstart'
    rw [run_cons, hdone', htodo', hdone, htodo, hcount, List.append_assoc, ← List.take_add, List.drop_drop]
    exact ⟨rfl, rfl⟩

/-- Where nothing is waited for, the exit is over at once. -/
private theorem Gone.exit (hgone : p.Gone) (h : p.Sound setup interpreter) {code : Int} {rest : List Action}
    (htodo : p.todo = .exit code :: rest) :
    (p.front.engine.step setup (.call [.exit code])).2.2 = some (.exited .disconnected) := by
  rw [Engine.step_call_singleton setup hgone.idle,
    Session.perform_exit_of_token (hgone.token_of_todo h htodo) setup code]
  rfl

/-- After a pause evaluation does not ask for the start any more. -/
private theorem Sound.launched_of_paused (h : p.Sound setup interpreter) (hw : p.front.engine.waiting = some .resume) :
    p.launch ≠ none ∧ Action.awaitStart ∉ p.todo := by
  obtain ⟨before, a, hdone, ha⟩ := h.awaits _ hw
  cases h.follows with
  | idle _ _ hnil _ => simp [hdone] at hnil
  | going args files hlaunch _ hprogram =>
    refine ⟨by simp [hlaunch], fun hin => ?_⟩
    obtain ⟨pre, post, htodo⟩ := List.append_of_mem hin
    rw [htodo, ← List.append_assoc] at hprogram
    have hprepared := (Interpreter.eq_of_awaitStart hprogram).2
    rw [hdone, List.append_assoc] at hprepared
    have hprepare : a = .prepare args.path := by
      have hmem : a ∈ [.prepare args.path] := hprepared ▸ by simp
      exact List.mem_singleton.1 hmem
    rw [hprepare] at ha
    exact ha
  | refused _ _ _ _ _ _ _ _ hcall => simp [Engine.waiting_of_idle hcall] at hw

/-- The client has gone, and what was waited for has ended. -/
structure Dismissed (setup : Setup) (p q : Live) : Prop where
  engine : q.front.engine = (p.front.engine.step setup .disconnect).1
  returned : (p.front.engine.step setup .disconnect).2.2 = p.front.engine.waiting.map Wait.dismissed

private theorem dismissed_of_disconnects (h : p.Sound setup interpreter) {i : Incident} (hi : i.disconnects = true) :
    Dismissed setup p (p.step setup interpreter i) where
  engine := by
    rw [step_of_disconnects setup interpreter p hi]
    rfl
  returned := by
    cases hcall : p.front.engine.call with
    | none =>
      rw [Engine.step_disconnect_of_idle setup hcall, Engine.waiting_of_idle hcall, Option.map_none]
    | some call =>
      obtain ⟨w, rest⟩ := call
      obtain rfl := h.single w rest hcall
      rw [Engine.step_disconnect setup hcall, Engine.waiting_of_call hcall, Option.map_some]

/-- How a front end stands some turns of the evaluation after a disconnect: the exit is over as soon as it is taken up,
a start that was waited for is refused, and after a pause evaluation goes on with what was left to do. -/
structure Freed (setup : Setup) (p r : Live) (turns : Nat) : Prop where
  idle : r.front.engine.call = none
  stops : r.front.session.stops = p.front.session.stops
  forcedExits : r.front.session.forcedExits = p.front.session.forcedExits
  exit : ∀ code rest, r.todo = .exit code :: rest →
    (r.front.engine.step setup (.call [.exit code])).2.2 = some (.exited .disconnected)
  refused : p.front.engine.waiting = some .start →
    r.done = p.done ∧ r.todo = [] ∧ r.front.session.isSet .started = false
  resumed : p.front.engine.waiting = some .resume → r.done = p.done ++ p.todo.take turns ∧ r.todo = p.todo.drop turns

/-- A start that was waited for when the client went is refused for good. -/
private theorem refused_of_disconnects (h : p.Sound setup interpreter) {i : Incident} (hi : i.disconnects = true)
    (hw : p.front.engine.waiting = some .start) (later : List Incident) :
    let r := (p.step setup interpreter i).run setup interpreter later
    r.done = p.done ∧ r.todo = [] ∧ r.front.session.isSet .started = false := by
  intro r
  have hstep := step_of_disconnects setup interpreter p hi
  have hgone := gone_of_disconnects h hi
  have hsound := sound_step h i
  obtain ⟨args, files, hlaunch, -, -, hdone⟩ := h.done_of_waiting hw
  have htodo : (p.step setup interpreter i).todo = [] := by
    have hend : (p.front.close setup).session.ended = true := by
      have hended := hgone.ended
      rw [hstep] at hended
      exact hended
    rw [hstep, meet, if_pos ⟨hw, hend⟩]
  have hsame : (p.step setup interpreter i).done = p.done ∧ (p.step setup interpreter i).launch = p.launch := by
    rw [hstep]
    exact ⟨rfl, rfl⟩
  obtain ⟨hdone', htodo'⟩ := hgone.todo_run hsound (by simp [hsame.2, hlaunch]) (by simp [htodo]) later
  rw [htodo, List.take_nil, List.append_nil, hsame.1] at hdone'
  rw [htodo, List.drop_nil] at htodo'
  refine ⟨hdone', htodo', ?_⟩
  rw [← Bool.not_eq_true, (hsound.run later).isSet_started, hdone', hdone]
  simp

/-- An evaluation that was paused when the client went does what is left to do. -/
private theorem resumed_of_disconnects (h : p.Sound setup interpreter) {i : Incident} (hi : i.disconnects = true)
    (hw : p.front.engine.waiting = some .resume) (later : List Incident) :
    let r := (p.step setup interpreter i).run setup interpreter later
    let turns := later.countP Incident.turns
    r.done = p.done ++ p.todo.take turns ∧ r.todo = p.todo.drop turns := by
  intro r turns
  obtain ⟨hlaunch, hstart⟩ := h.launched_of_paused hw
  have hsame : (p.step setup interpreter i).done = p.done ∧ (p.step setup interpreter i).todo = p.todo ∧
      (p.step setup interpreter i).launch = p.launch := by
    rw [step_of_disconnects setup interpreter p hi]
    simp [meet, hw]
  have hrun :=
    (gone_of_disconnects h hi).todo_run (sound_step h i) (hsame.2.2 ▸ hlaunch) (hsame.2.1 ▸ hstart) later
  rw [hsame.1, hsame.2.1] at hrun
  exact hrun

private theorem freed_of_disconnects (h : p.Sound setup interpreter) {i : Incident} (hi : i.disconnects = true)
    (later : List Incident) :
    Freed setup p ((p.step setup interpreter i).run setup interpreter later) (later.countP Incident.turns) := by
  have hsound := sound_step h i
  obtain ⟨hlast, hstops, hforced⟩ := (gone_of_disconnects h hi).run hsound later
  have hjournal : (p.step setup interpreter i).front.session.journal = p.front.session.journal := by
    rw [step_of_disconnects setup interpreter p hi]
    exact (Engine.served_step setup h.settled h.single .disconnect trivial).journal
  exact {
    idle := hlast.idle
    stops := hstops.trans (congrArg (List.filterMap Occurrence.stop?) hjournal)
    forcedExits := hforced.trans (congrArg (List.filterMap Occurrence.forcedExit?) hjournal)
    exit := fun code rest htodo => hlast.exit (hsound.run later) htodo
    refused := fun hw => refused_of_disconnects h hi hw later
    resumed := fun hw => resumed_of_disconnects h hi hw later }

/-! ### Forced exits -/

/-- Only the end of the grace period ends a process by force, and only one that waits to exit. -/
private theorem forcedExits_step (h : p.Sound setup interpreter) (i : Incident) :
    (p.step setup interpreter i).front.session.forcedExits = p.front.session.forcedExits ∨
      ∃ code, i = .graceExpires ∧ p.front.engine.waiting = some (.disconnect code) ∧
        (p.step setup interpreter i).front.session.forcedExits = [code] := by
  rcases step_cases h.settled h.single i with ⟨r, args, -, -, hs⟩ | ⟨a, rest, -, hcall, htodo, hs⟩ |
    ⟨code, hi, hcall, hs⟩ | ⟨front, hs, hserved, -⟩ <;> rw [hs]
  · exact .inl rfl
  · exact .inl (forcedExits_taken setup p a rest)
  · refine .inr ⟨code, hi, Engine.waiting_of_call hcall, ?_⟩
    obtain ⟨told, htold, hjournal | ⟨_, -, hnone, -⟩⟩ := h.journaled
    · have hnext : (p.expired code).front.session.journal = told ++ [.forcedExit code] :=
        congrArg (· ++ [Occurrence.forcedExit code]) hjournal
      rw [Session.forcedExits, hnext, List.filterMap_append, forcedExits_of_noted htold]
      rfl
    · rw [hcall] at hnone
      contradiction
  · exact .inl (congrArg (List.filterMap Occurrence.forcedExit?) hserved.journal)

private theorem Sound.exit_of_forced (h : p.Sound setup interpreter) {code : Int}
    (hforced : code ∈ p.front.session.forcedExits) : Action.exit code ∈ p.done := by
  obtain ⟨told, htold, hjournal⟩ := h.journaled
  have hnone := forcedExits_of_noted htold
  have hexits : p.front.session.forcedExits = p.front.engine.session.journal.filterMap Occurrence.forcedExit? := rfl
  rcases hjournal with hj | ⟨code', hexit, -, hj⟩ <;> rw [hexits, hj] at hforced
  · rw [hnone] at hforced
    contradiction
  · rw [List.filterMap_append, hnone] at hforced
    obtain rfl := List.mem_singleton.1 hforced
    exact hexit

private theorem not_disconnects_of_waiting (h : p.Sound setup interpreter) {incidents : List Incident}
    (hw : (p.run setup interpreter incidents).front.engine.waiting ≠ none) :
    ∀ i ∈ incidents, i.disconnects = false := by
  intro i hin
  by_contra hi
  obtain ⟨before, after, rfl⟩ := List.append_of_mem hin
  rw [run_append, run_cons] at hw
  have hbefore := h.run before
  have hgone := gone_of_disconnects hbefore (Bool.not_eq_false _ ▸ hi)
  have hidle := (hgone.run (sound_step hbefore i) after).1.idle
  exact hw (Engine.waiting_of_idle hidle)

/-- A process is ended by force once at most, when the grace period runs out without a disconnect before. -/
private theorem forcedExits_run (h : p.Sound setup interpreter) (hnone : p.front.session.forcedExits = [])
    (incidents : List Incident) :
    (p.run setup interpreter incidents).front.session.forcedExits = [] ∨
      ∃ code before after, (p.run setup interpreter incidents).front.session.forcedExits = [code] ∧
        incidents = before ++ .graceExpires :: after ∧ (∀ i ∈ before, i.disconnects = false) ∧
        (p.run setup interpreter before).front.engine.waiting = some (.disconnect code) := by
  induction incidents using List.reverseRecOn with
  | nil => exact .inl hnone
  | append_singleton incidents i ih =>
    rw [run_concat]
    rcases forcedExits_step (h.run incidents) i with hsame | ⟨code, rfl, hw, hforced⟩
    · rw [hsame]
      refine ih.imp id ?_
      rintro ⟨code, before, after, hforced, rfl, hbefore⟩
      exact ⟨code, before, after ++ [i], hforced, by rw [List.append_assoc, List.cons_append], hbefore⟩
    · refine .inr ⟨code, incidents, [], hforced, rfl, ?_, hw⟩
      exact not_disconnects_of_waiting h (by rw [hw]; nofun)

private theorem Sound.eq_of_exits (h : p.Sound setup interpreter) {code code' : Int} (hexit : Action.exit code ∈ p.done)
    (hexit' : Action.exit code' ∈ p.done) : code' = code := by
  obtain ⟨args, files, -, -, hdone⟩ := h.done_of_exit hexit
  have hlast : ∀ c, Action.exit c ∈ p.done → c = Interpreter.exitCode (interpreter.verdict files args) := by
    intro c hc
    rw [hdone, Interpreter.program_eq, List.mem_append] at hc
    exact Action.exit.inj (List.mem_singleton.1 (hc.resolve_left (Interpreter.exit_notMem c)))
  rw [hlast code hexit, hlast code' hexit']

/-- A disconnect ends every wait of the evaluation, and whatever is done from then on, nothing waits, stops or is ended
by force. Over a whole run a process is ended by force at most once, if no disconnect came before its grace period ran
out, and with the code of the exit that the client was told. -/
theorem disconnect_releases (setup : Setup) (interpreter : Interpreter) (files : Files) (incidents : List Incident) :
    let start := new setup files
    let p := start.run setup interpreter incidents
    (∀ i, i.disconnects = true →
        Dismissed setup p (p.step setup interpreter i) ∧
          ∀ later, Freed setup p ((p.step setup interpreter i).run setup interpreter later)
            (later.countP Incident.turns)) ∧
      p.front.session.forcedExits.length ≤ 1 ∧
      ∀ code ∈ p.front.session.forcedExits,
        (∀ code', .exited code' ∈ p.front.session.events ↔ code' = code) ∧
          ∃ before after, incidents = before ++ .graceExpires :: after ∧ (∀ i ∈ before, i.disconnects = false) ∧
            (start.run setup interpreter before).front.engine.waiting = some (.disconnect code) := by
  intro start p
  have h : p.Sound setup interpreter := sound_run setup interpreter files incidents
  refine ⟨fun i hi => ⟨dismissed_of_disconnects h hi, freed_of_disconnects h hi⟩, ?_, ?_⟩
  · rcases forcedExits_run (sound_new setup interpreter files) rfl incidents with
      hforced | ⟨code, before, after, hforced, -⟩ <;> rw [hforced] <;> simp
  · intro code hin
    rcases forcedExits_run (sound_new setup interpreter files) rfl incidents with
      hforced | ⟨code', before, after, hforced, hsplit, hbefore, hw⟩ <;> rw [hforced] at hin
    · contradiction
    · obtain rfl := List.mem_singleton.1 hin
      refine ⟨fun code' => ?_, before, after, hsplit, hbefore, hw⟩
      have hexit : Action.exit code ∈ p.done := h.exit_of_forced (by rw [hforced]; exact List.mem_cons_self)
      rw [h.exited_iff]
      exact ⟨fun hexit' => h.eq_of_exits hexit hexit', fun heq => heq ▸ hexit⟩

/-- A front end that is given up at a stop lets evaluation go on to its exit. Where it stays, and the client does not
go, the process is ended by force. -/
theorem released_at_stop_or_forced :
    let called : Node := { id := 0, kind := "CallExpression", function := some "debug::break" }
    let interpreter := Interpreter.scripted [.enter called {}, .leave] (.ok 3) []
    let files := ({} : Files).write "/site.pp" []
    let launch : Incident := .request ⟨1, .launch (some (.obj [("manifest", .str "/site.pp")]))⟩
    let incidents : List Incident := [.request ⟨2, .configurationDone⟩, launch, .turn, .turn, .turn, .turn]
    let resumed : List Incident := incidents ++ [.request ⟨3, .resume .continue⟩, .turn, .turn, .graceExpires]
    let p := (new {} files).run {} interpreter incidents
    let q := p.step {} interpreter .close
    let r := (new {} files).run {} interpreter resumed
    (Incident.close.disconnects = true ∧ p.front.engine.waiting = some .resume ∧
        3 ∈ r.front.session.forcedExits) ∧
      (p.front.engine.step {} .disconnect).2.2 = some .completed ∧
      (q.run {} interpreter [.turn, .turn]).todo = [] ∧
      (q.run {} interpreter [.turn, .turn]).front.session.forcedExits = p.front.session.forcedExits ∧
      .exited 3 ∈ r.front.session.events := by
  intro called interpreter files launch incidents resumed p q r
  have hw : p.front.engine.waiting = some .resume := by decide +kernel
  have hforced : 3 ∈ r.front.session.forcedExits := by decide +kernel
  have htodo : p.todo.length = 2 := by decide +kernel
  obtain ⟨hdisconnect, -⟩ := disconnect_releases {} interpreter files incidents
  obtain ⟨-, -, hexit⟩ := disconnect_releases {} interpreter files resumed
  obtain ⟨hdismissed, hlater⟩ := hdisconnect .close rfl
  have hdismissed : Dismissed {} p q := hdismissed
  have hfreed : Freed {} p (q.run {} interpreter [.turn, .turn]) 2 := hlater [.turn, .turn]
  have hreturned := hdismissed.returned
  rw [hw] at hreturned
  have hleft : (q.run {} interpreter [.turn, .turn]).todo = [] := by
    rw [(hfreed.resumed hw).2]
    exact List.drop_eq_nil_of_le (Nat.le_of_eq htodo)
  exact ⟨⟨rfl, hw, hforced⟩, hreturned, hleft, hfreed.forcedExits, ((hexit 3 hforced).1 3).2 rfl⟩

end Live

end Debugger
