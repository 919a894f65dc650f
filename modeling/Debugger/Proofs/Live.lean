import Debugger.Proofs.Notes
import Debugger.Proofs.Requests
import Mathlib.Data.List.Basic

/-!
# An evaluation that goes on by itself

A `Live` front end has an evaluation beside it that takes up its actions one at a time. Between any two of them the
client may ask for something, give the front end up, or let the grace period of the exit run out, so that a run is an
arbitrary interleaving of both sides; an action is carried out at once, up to where it waits. Every run keeps `Sound`:
what was done and what is to do make up the program of the launch, evaluation waits in the last action that was taken
up, and the journal holds what the actions note, one after the other.
-/

namespace Debugger

/-- A front end with an evaluation that goes on by itself. -/
structure Live where
  front : Adapter
  /-- The launch that was accepted, with the files at that time. -/
  launch : Option (LaunchArgs × Files) := none
  /-- The actions that were taken up. Evaluation may still wait in the last one. -/
  done : List Action := []
  /-- The actions that were not taken up yet. -/
  todo : List Action := []

/-- What can happen to a live front end. -/
inductive Incident where
  | request (r : Request)
  /-- The front end is given up. -/
  | close
  /-- The evaluation takes up its next action, unless it waits. -/
  | turn
  /-- The process that waits to exit has waited long enough. -/
  | graceExpires
  | changeFile (change : FileChange)

/-- The arguments of a request to launch that is acceptable now. -/
def Adapter.accepts (a : Adapter) (r : Request) : Option LaunchArgs :=
  match r.command with
  | .launch data => (a.launchArgs data).toOption
  | _ => none

namespace Live

/-- A front end that has not been asked anything. -/
def new (setup : Setup) (files : Files) : Live := { front := .new setup files }

/-- A launch is accepted, and its evaluation has everything still to do. -/
def launched (interpreter : Interpreter) (p : Live) (args : LaunchArgs) : Live :=
  { p with
    front := { p.front with manifest := some args.manifest, launched := true }
    launch := some (args, p.front.engine.files)
    todo := interpreter.program p.front.engine.files args }

/-- The front end was changed. An evaluation that waited for the start of a session that is over does nothing more. -/
def meet (p : Live) (front : Adapter) : Live :=
  { p with front, todo := if p.front.engine.waiting = some .start ∧ front.session.ended then [] else p.todo }

/-- The evaluation takes up its next action, unless it waits. If it is refused the start, it does nothing more. -/
def turn (setup : Setup) (p : Live) : Live :=
  match p.front.engine.call, p.todo with
  | none, a :: rest =>
    let (engine, _, returned) := p.front.engine.step setup (.call [a])
    { p with
      front := { p.front with engine }
      done := p.done ++ [a]
      todo := if returned = some (.start false) then [] else rest }
  | _, _ => p

/-- Something happens. -/
def step (setup : Setup) (interpreter : Interpreter) (p : Live) : Incident → Live
  | .request r =>
    match p.front.accepts r with
    | some args => p.launched interpreter args
    | none => p.meet (p.front.handle setup interpreter r).1
  | .close => p.meet (p.front.close setup)
  | .turn => p.turn setup
  | .graceExpires => p.meet (p.front.operate setup .graceExpires).1
  | .changeFile change => p.meet (p.front.operate setup (.changeFile change)).1

/-- One thing happens after the other. -/
def run (setup : Setup) (interpreter : Interpreter) (p : Live) (incidents : List Incident) : Live :=
  incidents.foldl (step setup interpreter) p

theorem run_cons (setup : Setup) (interpreter : Interpreter) (p : Live) (i : Incident) (incidents : List Incident) :
    p.run setup interpreter (i :: incidents) = (p.step setup interpreter i).run setup interpreter incidents := rfl

theorem run_append (setup : Setup) (interpreter : Interpreter) (p : Live) (incidents later : List Incident) :
    p.run setup interpreter (incidents ++ later) =
      (p.run setup interpreter incidents).run setup interpreter later := List.foldl_append

theorem run_concat (setup : Setup) (interpreter : Interpreter) (p : Live) (incidents : List Incident) (i : Incident) :
    p.run setup interpreter (incidents ++ [i]) = (p.run setup interpreter incidents).step setup interpreter i :=
  run_append setup interpreter p incidents [i]

end Live

/-! ### What the client does to an engine -/

/-- An operation by which a front end carries out a request that launches nothing, or a change of the files. -/
def Operation.Plain : Operation → Prop
  | .setLines _ _ | .setFunctions _ | .assert .clientConfigured | .resume _ | .cache _ | .disconnect
  | .changeFile _ => True
  | _ => False

/-- For a request that launches nothing, a front end hands out values or carries out a single operation. -/
theorem Adapter.operations_cases (interpreter : Interpreter) {a : Adapter} {r : Request} (h : a.accepts r = none) :
    (∃ vs : List Value, a.operations interpreter r.command = vs.map .cache) ∨
      ∃ op : Operation, op.Plain ∧ a.operations interpreter r.command = [op] := by
  cases hr : r.command with
  | launch data =>
    cases hargs : a.launchArgs data with
    | ok args => simp [accepts, hr, hargs, Except.toOption] at h
    | error err => exact .inl ⟨[], by simp only [operations, hargs, List.map_nil]⟩
  | setBreakpoints source breakpoints lines =>
    cases hpath : source.path with
    | none => exact .inl ⟨[], by simp only [operations, hpath, Option.elim, List.map_nil]⟩
    | some path =>
      refine .inr ⟨.setLines path (((breakpoints.or lines).getD []).map unsignedLine), trivial, ?_⟩
      simp only [operations, hpath, Option.elim]
  | setFunctionBreakpoints names => exact .inr ⟨.setFunctions names, trivial, rfl⟩
  | configurationDone => exact .inr ⟨.assert .clientConfigured, trivial, rfl⟩
  | resume command => exact .inr ⟨.resume command, trivial, rfl⟩
  | disconnect => exact .inr ⟨.disconnect, trivial, rfl⟩
  | _ => exact .inl ⟨_, rfl⟩

theorem Adapter.operations_plain (interpreter : Interpreter) {a : Adapter} {r : Request} (h : a.accepts r = none) :
    ∀ op ∈ a.operations interpreter r.command, op.Plain := by
  intro op hop
  rcases operations_cases interpreter h with ⟨vs, hs⟩ | ⟨op', hplain, hs⟩ <;> rw [hs] at hop
  · obtain ⟨v, -, rfl⟩ := List.mem_map.1 hop
    trivial
  · rwa [List.mem_singleton.1 hop]

/-- Only a launch changes more of a front end than its engine. -/
theorem Adapter.handle_of_not_accepts {setup : Setup} {interpreter : Interpreter} {a : Adapter} {r : Request}
    (h : a.accepts r = none) :
    (a.handle setup interpreter r).1 = { a with engine := (a.handle setup interpreter r).1.engine } := by
  have hkept : ∀ a' result, a.execute setup interpreter r.command = some (a', result) →
      a' = { a with engine := a'.engine } →
      (a.handle setup interpreter r).1 = { a with engine := (a.handle setup interpreter r).1.engine } := by
    intro a' result he ha
    rw [handle_eq_execute he]
    exact ha
  cases hr : r.command with
  | launch data =>
    cases hargs : a.launchArgs data with
    | ok args => simp [accepts, hr, hargs, Except.toOption] at h
    | error err => exact hkept a _ (by rw [hr, execute, hargs]) rfl
  | setBreakpoints source breakpoints lines =>
    refine hkept (a.setBreakpoints source ((breakpoints.or lines).getD [])).1 _
      (congrArg (a.execute setup interpreter) hr) ?_
    unfold setBreakpoints
    split <;> rfl
  | initialization => simp only [handle, hr, execute]
  | unsupported name => simp only [handle, hr, execute]
  | _ => exact hkept _ _ (congrArg (a.execute setup interpreter) hr) rfl

namespace Engine

/-- Nothing is left of the outstanding call but its wait. -/
def Single (e : Engine) : Prop := ∀ w rest, e.call = some (w, rest) → rest = []

/-- The client has done something: nothing is noted, the end of the session and the token for the exit stay, and the
outstanding call may have returned. -/
structure Served (e e' : Engine) : Prop where
  journal : e'.session.journal = e.session.journal
  started : e'.session.flags.started = e.session.flags.started
  ended : e.session.ended = true → e'.session.ended = true
  token : e.session.signals.disconnect = true → e'.session.signals.disconnect = true
  call : e'.call = e.call ∨ e'.call = none

private theorem Served.refl (e : Engine) : Served e e := ⟨rfl, rfl, id, id, .inl rfl⟩

private theorem Served.trans {e e' e'' : Engine} (h : Served e e') (h' : Served e' e'') : Served e e'' where
  journal := h'.journal.trans h.journal
  started := h'.started.trans h.started
  ended := h'.ended ∘ h.ended
  token := h'.token ∘ h.token
  call := by
    rcases h'.call with hc | hc
    · rw [hc]
      exact h.call
    · exact .inr hc

theorem Served.single {e e' : Engine} (h : Served e e') (hsingle : e.Single) : e'.Single := by
  intro w rest hc
  rcases h.call with hcall | hcall <;> rw [hcall] at hc
  · exact hsingle w rest hc
  · contradiction

private theorem Served.waiting {e e' : Engine} (h : Served e e') {w : Wait} (hw : e'.waiting = some w) :
    e.waiting = some w := by
  rcases h.call with hcall | hcall
  · exact (waiting_congr hcall).symm.trans hw
  · rw [waiting_of_idle hcall] at hw
    contradiction

theorem served_serve (e : Engine) {op : Operation} (h : op.Plain) : Served e (e.serve op).1 := by
  have hsame : ∀ s : Session, s.journal = e.session.journal → s.flags.started = e.session.flags.started →
      (e.session.ended = true → s.ended = true) →
      (e.session.signals.disconnect = true → s.signals.disconnect = true) → Served e { e with session := s } :=
    fun s hj hs he ht => ⟨hj, hs, he, ht, .inl rfl⟩
  cases op with
  | assert flag =>
    cases flag with
    | clientConfigured =>
      simp only [serve, update, Session.assert, Session.checkStart]
      split <;> exact hsame _ rfl rfl id id
    | _ => exact h.elim
  | resume command =>
    rcases e.serve_resume_cases command with ⟨-, err, hs⟩ | ⟨-, hs⟩ <;> rw [hs]
    · exact .refl e
    · exact hsame _ rfl rfl id id
  | cache v =>
    cases hs : e.session.saved <;> simp only [serve, Session.cacheValue_eq, hs]
    · exact .refl e
    · exact hsame _ rfl rfl id id
  | disconnect => exact hsame _ rfl rfl (fun _ => rfl) (fun _ => rfl)
  | setLines file ls => exact hsame _ rfl rfl id id
  | setFunctions names => exact hsame _ rfl rfl id id
  | changeFile change => exact ⟨rfl, rfl, id, id, .inl rfl⟩
  | _ => exact h.elim

theorem Single.settle_cases (setup : Setup) {e : Engine} (h : e.Single) :
    e.settle setup = (e, none) ∨
      ∃ w outcome, e.call = some (w, []) ∧ e.session.outcome? w = some outcome ∧
        e.settle setup = ({ e with session := e.session.takeToken w, call := none }, some outcome) := by
  rcases Engine.settle_cases setup e with ⟨-, hs⟩ | ⟨w, rest, outcome, hc, ho, hs⟩
  · exact .inl hs
  · obtain rfl := h w rest hc
    refine .inr ⟨w, outcome, hc, ho, ?_⟩
    rw [hs, proceed]
    cases outcome with
    | start granted => cases granted <;> rfl
    | _ => rfl

theorem served_step (setup : Setup) {e : Engine} (hset : e.Settled) (hsingle : e.Single) (op : Operation)
    (h : op.Plain) : Served e (e.step setup op).1 := by
  have hserve := served_serve e h
  have hstep := step_of_served setup e op (fun _ hop => by rw [hop] at h; exact h) fun hop => by rw [hop] at h; exact h
  rw [hstep]
  rcases (hserve.single hsingle).settle_cases setup with hs | ⟨w, outcome, hcall, -, hs⟩ <;> rw [hs]
  · exact hserve
  · refine ⟨(Session.journal_takeToken _ w).trans hserve.journal, ?_, ?_, ?_, .inr rfl⟩
    · cases w <;> exact hserve.started
    · cases w <;> exact hserve.ended
    · cases w with
      | disconnect code =>
        -- the token would have ended the wait before
        intro htoken
        have hw : e.waiting = some (.disconnect code) :=
          (waiting_congr (serve_call e op)).symm.trans (waiting_of_call hcall)
        have ho := hset _ hw
        simp only [Session.outcome?, htoken, ↓reduceIte] at ho
        contradiction
      | _ => exact hserve.token

private theorem served_run (setup : Setup) {e : Engine} (hset : e.Settled) (hsingle : e.Single) {ops : List Operation}
    (h : ∀ op ∈ ops, op.Plain) : Served e (e.run setup ops) := by
  induction ops generalizing e with
  | nil => exact .refl e
  | cons op ops ih =>
    rw [List.forall_mem_cons] at h
    have hfirst := served_step setup hset hsingle op h.1
    exact hfirst.trans (ih (settled_step hset op) (hfirst.single hsingle) h.2)

theorem step_graceExpires_of_waiting (setup : Setup) {e : Engine} {code : Int} {rest : List Action}
    (h : e.call = some (.disconnect code, rest)) :
    (e.step setup .graceExpires).1 =
      (e.proceed setup (e.session.record (.forcedExit code)) (.exited .gracePeriodExpired) rest).1 := by
  simp only [step, h]

theorem step_graceExpires_of_not_waiting (setup : Setup) {e : Engine}
    (h : ∀ code rest, e.call ≠ some (.disconnect code, rest)) : (e.step setup .graceExpires).1 = e := by
  rcases step_graceExpires_cases setup e with hs | ⟨code, rest, hcall, -⟩
  · rw [hs]
  · exact absurd hcall (h code rest)

/-- The evaluation side takes an action up, and may have to wait. -/
def take (setup : Setup) (e : Engine) (a : Action) : Engine :=
  { e with
    session := (e.session.perform setup a).1
    call := (e.session.perform setup a).2.wait?.map fun w => (w, []) }

theorem waiting_take (setup : Setup) (e : Engine) (a : Action) :
    (e.take setup a).waiting = (e.session.perform setup a).2.wait? := by
  simp [waiting, take, Function.comp_def]

theorem step_call_singleton (setup : Setup) {e : Engine} (h : e.call = none) (a : Action) :
    e.step setup (.call [a]) = (e.take setup a, .nothing, (e.session.perform setup a).2.outcome?) := by
  simp only [step, h, proceed, take, Session.advance]
  cases hp : e.session.perform setup a with
  | mk s progress => cases progress <;> simp [Session.advance_nil, Progress.wait?, Progress.outcome?]

end Engine

/-! ### Programs -/

namespace Interpreter

/-- How the evaluation of a launch ends: as the interpreter does, or with an error if the manifest is not a file. -/
def verdict (interpreter : Interpreter) (files : Files) (args : LaunchArgs) : Except String Int :=
  if files.isFile args.path then interpreter.result args else .error (missingManifest args.path)

/-- The exit code that tells how an evaluation has ended. -/
def exitCode : Except String Int → Int
  | .ok code => code
  | .error _ => 1

/-- What is reported of the end of an evaluation before the exit. -/
def report : Except String Int → List Action
  | .ok _ => []
  | .error text => [.failure text]

/-- What an evaluation does before its end. -/
def opening (interpreter : Interpreter) (files : Files) (args : LaunchArgs) : List Action :=
  if files.isFile args.path then
    .prepare args.path :: .awaitStart :: .begin :: (interpreter.script args).map .hook
  else []

theorem program_eq (interpreter : Interpreter) (files : Files) (args : LaunchArgs) :
    interpreter.program files args =
      interpreter.opening files args ++ report (interpreter.verdict files args) ++
        [.exit (exitCode (interpreter.verdict files args))] := by
  have hending : ∀ result, ending result = report result ++ [.exit (exitCode result)] := by
    intro result
    cases result <;> rfl
  unfold program opening verdict
  split
  · rw [hending]
    simp only [List.cons_append, List.append_assoc]
  · rw [hending]
    rfl

variable {interpreter : Interpreter} {files : Files} {args : LaunchArgs} {pre post : List Action}

theorem exit_notMem (code : Int) :
    Action.exit code ∉ interpreter.opening files args ++ report (interpreter.verdict files args) := by
  unfold opening report
  split <;> split <;> simp

/-- The exit is the last action of a program. -/
theorem eq_nil_of_exit {code : Int} (h : pre ++ post = interpreter.program files args)
    (hexit : Action.exit code ∈ pre) : post = [] := by
  rcases List.eq_nil_or_concat post with rfl | ⟨post', last, rfl⟩
  · rfl
  · rw [program_eq, List.concat_eq_append, ← List.append_assoc] at h
    have hbody := (List.append_inj' h rfl).1
    exact absurd (hbody ▸ List.mem_append_left _ hexit) (exit_notMem code)

theorem program_of_isFile (hfile : files.isFile args.path = true) :
    interpreter.program files args =
      .prepare args.path :: .awaitStart :: .begin ::
        ((interpreter.script args).map .hook ++ ending (interpreter.result args)) := by
  unfold program
  rw [if_pos hfile]
  rfl

theorem program_of_not_isFile (hfile : files.isFile args.path = false) :
    interpreter.program files args = [.failure (missingManifest args.path), .exit 1] := by
  unfold program
  rw [hfile, if_neg Bool.false_ne_true]
  rfl

/-- Evaluation is prepared, asks for its start and begins, once each and only if the manifest is a file. -/
theorem eq_of_awaitStart (h : pre ++ .awaitStart :: post = interpreter.program files args) :
    files.isFile args.path = true ∧ pre = [.prepare args.path] := by
  cases hfile : files.isFile args.path with
  | false =>
    have hmem : Action.awaitStart ∈ interpreter.program files args := h ▸ List.mem_append_right _ List.mem_cons_self
    simp [program_of_not_isFile hfile] at hmem
  | true =>
    have hlater : Action.awaitStart ∉
        .begin :: ((interpreter.script args).map .hook ++ ending (interpreter.result args)) := by
      cases hresult : interpreter.result args <;> simp [ending]
    have hsplit : [.prepare args.path] ++ .awaitStart :: _ = pre ++ .awaitStart :: post :=
      (program_of_isFile hfile).symm.trans h.symm
    exact ⟨rfl, ((List.append_cons_inj_of_notMem (by simp) hlater).1 hsplit).1.symm⟩

theorem eq_of_begin (h : pre ++ .begin :: post = interpreter.program files args) :
    files.isFile args.path = true ∧ pre = [.prepare args.path, .awaitStart] := by
  cases hfile : files.isFile args.path with
  | false =>
    have hmem : Action.begin ∈ interpreter.program files args := h ▸ List.mem_append_right _ List.mem_cons_self
    simp [program_of_not_isFile hfile] at hmem
  | true =>
    have hlater : Action.begin ∉ (interpreter.script args).map .hook ++ ending (interpreter.result args) := by
      cases hresult : interpreter.result args <;> simp [ending]
    have hsplit : [.prepare args.path, .awaitStart] ++ .begin :: _ = pre ++ .begin :: post :=
      (program_of_isFile hfile).symm.trans h.symm
    exact ⟨rfl, ((List.append_cons_inj_of_notMem (by simp) hlater).1 hsplit).1.symm⟩

end Interpreter

/-! ### What can happen, in cases -/

namespace Live

variable {setup : Setup} {interpreter : Interpreter} {p : Live}

/-- The evaluation takes up an action, with others left to do. -/
def taken (setup : Setup) (p : Live) (a : Action) (rest : List Action) : Live :=
  { p with
    front := { p.front with engine := p.front.engine.take setup a }
    done := p.done ++ [a]
    todo := if (p.front.engine.session.perform setup a).2.outcome? = some (.start false) then [] else rest }

/-- The process exits because the client did not disconnect. -/
def expired (p : Live) (code : Int) : Live :=
  { p with front := { p.front with engine := { p.front.engine with
    session := p.front.engine.session.record (.forcedExit code)
    call := none } } }

theorem turn_of_idle {a : Action} {rest : List Action} (hcall : p.front.engine.call = none)
    (htodo : p.todo = a :: rest) :
    p.turn setup = p.taken setup a rest := by
  unfold turn
  simp only [hcall, htodo, Engine.step_call_singleton setup hcall a]
  rfl

/-- As long as nothing returns, everything is left to do. -/
theorem todo_meet {front : Adapter} (hset : front.engine.Settled)
    (hwaiting : front.engine.waiting = p.front.engine.waiting) : (p.meet front).todo = p.todo := by
  have hnot : ¬ (p.front.engine.waiting = some .start ∧ front.session.ended = true) := by
    rintro ⟨hstart, hend⟩
    have hgoes : front.session.ended = false := (hset.start (hwaiting.trans hstart)).1
    rw [hgoes] at hend
    contradiction
  simp only [meet, hnot, ↓reduceIte]

theorem meet_self (h : p.front.engine.Settled) : p.meet p.front = p :=
  congrArg (fun todo => { p with todo }) (todo_meet h rfl)

theorem step_graceExpires_of_waiting (setup : Setup) (interpreter : Interpreter) {code : Int}
    (h : p.front.engine.call = some (.disconnect code, [])) :
    p.step setup interpreter .graceExpires = p.expired code := by
  have hw : p.front.engine.waiting ≠ some .start := by simp [Engine.waiting_of_call h]
  simp only [step, Adapter.operate, Engine.step_graceExpires_of_waiting setup h, meet, hw, false_and, ↓reduceIte]
  rfl

theorem step_graceExpires_of_not_waiting (setup : Setup) (interpreter : Interpreter) (hset : p.front.engine.Settled)
    (h : ∀ code rest, p.front.engine.call ≠ some (.disconnect code, rest)) :
    p.step setup interpreter .graceExpires = p := by
  simp only [step, Adapter.operate, Engine.step_graceExpires_of_not_waiting setup h]
  exact meet_self hset

/-- A launch is accepted, an action is taken up, the grace period runs out for a process that waits to exit, or the
client does something else. -/
theorem step_cases (hset : p.front.engine.Settled) (hsingle : p.front.engine.Single) (i : Incident) :
    (∃ r args, i = .request r ∧ p.front.accepts r = some args ∧
        p.step setup interpreter i = p.launched interpreter args) ∨
      (∃ a rest, i = .turn ∧ p.front.engine.call = none ∧ p.todo = a :: rest ∧
        p.step setup interpreter i = p.taken setup a rest) ∨
      (∃ code, i = .graceExpires ∧ p.front.engine.call = some (.disconnect code, []) ∧
        p.step setup interpreter i = p.expired code) ∨
      ∃ front, p.step setup interpreter i = p.meet front ∧ Engine.Served p.front.engine front.engine ∧
        front.launched = p.front.launched := by
  have hsame : p.step setup interpreter i = p → ∃ front, p.step setup interpreter i = p.meet front ∧
      Engine.Served p.front.engine front.engine ∧ front.launched = p.front.launched :=
    fun h => ⟨p.front, h.trans (meet_self hset).symm, .refl _, rfl⟩
  cases i with
  | request r =>
    cases hr : p.front.accepts r with
    | some args => exact .inl ⟨r, args, rfl, hr, by simp only [step, hr]⟩
    | none =>
      refine .inr (.inr (.inr ⟨(p.front.handle setup interpreter r).1, by simp only [step, hr], ?_, ?_⟩))
      · rw [Adapter.handle_engine setup interpreter hset]
        exact Engine.served_run setup hset hsingle (Adapter.operations_plain interpreter hr)
      · rw [Adapter.handle_of_not_accepts hr]
  | close => exact .inr (.inr (.inr ⟨_, rfl, Engine.served_step setup hset hsingle .disconnect trivial, rfl⟩))
  | turn =>
    cases hcall : p.front.engine.call with
    | some call => exact .inr (.inr (.inr (hsame (by simp only [step, turn, hcall]))))
    | none =>
      cases htodo : p.todo with
      | nil => exact .inr (.inr (.inr (hsame (by simp only [step, turn, hcall, htodo]))))
      | cons a rest => exact .inr (.inl ⟨a, rest, rfl, rfl, rfl, turn_of_idle hcall htodo⟩)
  | graceExpires =>
    by_cases hwaits : ∃ code rest, p.front.engine.call = some (.disconnect code, rest)
    · obtain ⟨code, rest, hcall⟩ := hwaits
      obtain rfl := hsingle _ rest hcall
      exact .inr (.inr (.inl ⟨code, rfl, hcall, step_graceExpires_of_waiting setup interpreter hcall⟩))
    · simp only [not_exists] at hwaits
      exact .inr (.inr (.inr (hsame (step_graceExpires_of_not_waiting setup interpreter hset hwaits))))
  | changeFile change =>
    exact .inr (.inr (.inr ⟨_, rfl, Engine.served_step setup hset hsingle (.changeFile change) trivial, rfl⟩))

/-! ### What holds along every run -/

/-- What was done and what is to do make up the program of the launch, but for a start that was refused. -/
inductive Follows (interpreter : Interpreter) (p : Live) : Prop where
  | idle (launch : p.launch = none) (launched : p.front.launched = false) (done : p.done = []) (todo : p.todo = [])
  | going (args : LaunchArgs) (files : Files) (launch : p.launch = some (args, files))
      (launched : p.front.launched = true) (program : p.done ++ p.todo = interpreter.program files args)
  | refused (args : LaunchArgs) (files : Files) (launch : p.launch = some (args, files))
      (launched : p.front.launched = true) (file : files.isFile args.path = true)
      (done : p.done = [.prepare args.path, .awaitStart]) (todo : p.todo = [])
      (ended : p.front.engine.session.ended = true) (call : p.front.engine.call = none)

/-- The journal holds what the actions note, and after the exit perhaps that it was forced. -/
def Journaled (setup : Setup) (p : Live) : Prop :=
  ∃ told, Noted setup p.done told ∧
    (p.front.engine.session.journal = told ∨
      ∃ code, Action.exit code ∈ p.done ∧ p.front.engine.call = none ∧
        p.front.engine.session.journal = told ++ [.forcedExit code])

structure Sound (setup : Setup) (interpreter : Interpreter) (p : Live) : Prop where
  settled : p.front.engine.Settled
  mirrored : p.front.engine.session.flags.terminate = p.front.engine.session.ended
  single : p.front.engine.Single
  follows : p.Follows interpreter
  started : p.front.engine.session.flags.started = true ↔ Action.begin ∈ p.done
  /-- Evaluation waits in the last action that it has taken up. -/
  awaits : ∀ w ∈ p.front.engine.waiting, ∃ before a, p.done = before ++ [a] ∧ a.Awaits w
  journaled : p.Journaled setup

theorem sound_new (setup : Setup) (interpreter : Interpreter) (files : Files) :
    (new setup files).Sound setup interpreter where
  settled := nofun
  mirrored := rfl
  single := nofun
  follows := .idle rfl rfl rfl rfl
  started := ⟨nofun, nofun⟩
  awaits := nofun
  journaled := ⟨[], rfl, .inl rfl⟩

variable (h : p.Sound setup interpreter)
include h

/-- After the exit nothing is left to do. -/
theorem Sound.todo_of_exit {code : Int} (hexit : Action.exit code ∈ p.done) : p.todo = [] := by
  cases h.follows with
  | idle _ _ _ htodo => exact htodo
  | going args files _ _ hprogram => exact Interpreter.eq_nil_of_exit hprogram hexit
  | refused _ _ _ _ _ _ htodo _ _ => exact htodo

theorem Sound.program_of_todo {a : Action} {rest : List Action} (htodo : p.todo = a :: rest) :
    ∃ args files, p.launch = some (args, files) ∧ p.front.launched = true ∧
      p.done ++ a :: rest = interpreter.program files args := by
  cases h.follows with
  | idle _ _ _ hnil =>
    rw [htodo] at hnil
    contradiction
  | going args files hlaunch hlaunched hprogram => exact ⟨args, files, hlaunch, hlaunched, htodo ▸ hprogram⟩
  | refused _ _ _ _ _ _ hnil _ _ =>
    rw [htodo] at hnil
    contradiction

/-- An evaluation that waits to exit has taken up the exit with the same code. -/
theorem Sound.exit_of_waiting {code : Int} (hw : p.front.engine.waiting = some (.disconnect code)) :
    Action.exit code ∈ p.done := by
  obtain ⟨before, a, hdone, ha⟩ := h.awaits _ hw
  cases a with
  | exit code' =>
    obtain rfl : code' = code := ha
    simp [hdone]
  | _ => exact ha.elim

/-- An evaluation that waits for its start has only prepared it. -/
theorem Sound.done_of_waiting (hw : p.front.engine.waiting = some .start) :
    ∃ args files, p.launch = some (args, files) ∧ p.front.launched = true ∧ files.isFile args.path = true ∧
      p.done = [.prepare args.path, .awaitStart] := by
  obtain ⟨before, a, hdone, ha⟩ := h.awaits _ hw
  cases a with
  | awaitStart =>
    cases h.follows with
    | idle _ _ hnil _ =>
      rw [hdone] at hnil
      simp at hnil
    | going args files hlaunch hlaunched hprogram =>
      rw [hdone, List.append_assoc, List.singleton_append] at hprogram
      obtain ⟨hfile, rfl⟩ := Interpreter.eq_of_awaitStart hprogram
      exact ⟨args, files, hlaunch, hlaunched, hfile, hdone⟩
    | refused _ _ _ _ _ _ _ _ hcall =>
      rw [Engine.waiting_of_idle hcall] at hw
      contradiction
  | _ => exact ha.elim

private theorem Sound.journal_of_not_exit (hexit : ∀ code, Action.exit code ∉ p.done) :
    Noted setup p.done p.front.engine.session.journal := by
  obtain ⟨told, htold, hjournal | ⟨code, hin, -⟩⟩ := h.journaled
  · rwa [hjournal]
  · exact absurd hin (hexit code)

/-- A launch is acceptable only before there was one, and then evaluation does nothing. -/
theorem Sound.idle_of_accepts {r : Request} {args : LaunchArgs} (hr : p.front.accepts r = some args) :
    p.launch = none ∧ p.done = [] ∧ p.front.engine.call = none := by
  have hnot : p.front.launched = false := by
    unfold Adapter.accepts at hr
    split at hr
    · cases hl : p.front.launched with
      | false => rfl
      | true => simp [Adapter.launchArgs, hl, Except.toOption] at hr
    · contradiction
  cases h.follows with
  | idle hlaunch _ hdone _ =>
    refine ⟨hlaunch, hdone, ?_⟩
    cases hcall : p.front.engine.call with
    | none => rfl
    | some call =>
      obtain ⟨before, a, hlast, -⟩ := h.awaits call.1 (Engine.waiting_of_call hcall)
      rw [hdone] at hlast
      simp at hlast
  | going _ _ _ hlaunched _ =>
    rw [hnot] at hlaunched
    contradiction
  | refused _ _ _ hlaunched _ _ _ _ _ =>
    rw [hnot] at hlaunched
    contradiction

private theorem Sound.launched {r : Request} {args : LaunchArgs} (hr : p.front.accepts r = some args) :
    (p.launched interpreter args).Sound setup interpreter := by
  obtain ⟨-, hdone, -⟩ := h.idle_of_accepts hr
  exact ⟨h.settled, h.mirrored, h.single,
    .going args p.front.engine.files rfl rfl (by simp only [Live.launched, hdone, List.nil_append]),
    h.started, h.awaits, h.journaled⟩

private theorem Sound.follows_taken {a : Action} {rest : List Action} (htodo : p.todo = a :: rest) :
    (p.taken setup a rest).Follows interpreter := by
  obtain ⟨args, files, hlaunch, hlaunched, hprogram⟩ := h.program_of_todo htodo
  by_cases hrefused : (p.front.engine.session.perform setup a).2.outcome? = some (.start false)
  · obtain ⟨rfl, hended⟩ := Session.refused_perform hrefused
    obtain ⟨hfile, hdone⟩ := Interpreter.eq_of_awaitStart hprogram
    refine .refused args files hlaunch hlaunched hfile ?_ ?_ hended ?_
    · simp only [Live.taken, hdone, List.singleton_append]
    · simp only [Live.taken, hrefused, ↓reduceIte]
    · cases hp : (p.front.engine.session.perform setup .awaitStart).2 <;>
        simp_all [Live.taken, Engine.take, Progress.wait?, Progress.outcome?]
  · refine .going args files hlaunch hlaunched ?_
    simp only [Live.taken, hrefused, ↓reduceIte, List.append_assoc, List.singleton_append, hprogram]

theorem Sound.taken {a : Action} {rest : List Action} (hcall : p.front.engine.call = none)
    (htodo : p.todo = a :: rest) : (p.taken setup a rest).Sound setup interpreter := by
  have hstep := congrArg Prod.fst (Engine.step_call_singleton setup hcall a)
  have hsettled : (p.front.engine.step setup (.call [a])).1.Settled := Engine.settled_step h.settled _
  rw [hstep] at hsettled
  refine ⟨hsettled, ?_, ?_, h.follows_taken htodo, ?_, ?_, ?_⟩
  · have hmirrored : (p.front.engine.step setup (.call [a])).1.session.flags.terminate = _ :=
      (Engine.mirrored_kept setup).step id h.mirrored
    rwa [hstep] at hmirrored
  · intro w left hleft
    cases hw : (p.front.engine.session.perform setup a).2.wait? <;>
      simp only [Live.taken, Engine.take, hw, Option.map_none, Option.map_some, reduceCtorEq, Option.some.injEq,
        Prod.mk.injEq] at hleft
    exact hleft.2.symm
  · have hstarted := Session.started_perform setup p.front.engine.session a
    simp only [Live.taken, Engine.take, hstarted, h.started, List.mem_append, List.mem_singleton, eq_comm]
  · intro w hw
    simp only [Live.taken, Engine.waiting_take] at hw
    exact ⟨p.done, a, rfl, Session.awaits_perform hw⟩
  · have hexit : ∀ code, Action.exit code ∉ p.done := by
      intro code hin
      rw [h.todo_of_exit hin] at htodo
      contradiction
    obtain ⟨os, hos, hjournal⟩ := Session.journal_perform setup p.front.engine.session a
    exact ⟨_, noted_append.2 ⟨_, os, h.journal_of_not_exit hexit, noted_singleton.2 hos, rfl⟩, .inl hjournal⟩

private theorem Sound.expired {code : Int} (hcall : p.front.engine.call = some (.disconnect code, [])) :
    (p.expired code).Sound setup interpreter := by
  refine ⟨by rintro w ⟨⟩, h.mirrored, by rintro w rest ⟨⟩, ?_, h.started, by rintro w ⟨⟩, ?_⟩
  · cases h.follows with
    | idle hlaunch hlaunched hdone htodo => exact .idle hlaunch hlaunched hdone htodo
    | going args files hlaunch hlaunched hprogram => exact .going args files hlaunch hlaunched hprogram
    | refused _ _ _ _ _ _ _ _ hnone =>
      rw [hcall] at hnone
      contradiction
  · obtain ⟨told, htold, hjournal | ⟨_, -, hnone, -⟩⟩ := h.journaled
    · refine ⟨told, htold, .inr ⟨code, h.exit_of_waiting (Engine.waiting_of_call hcall), rfl, ?_⟩⟩
      exact congrArg (· ++ [Occurrence.forcedExit code]) hjournal
    · rw [hcall] at hnone
      contradiction

private theorem Sound.follows_served {front : Adapter} (hserved : Engine.Served p.front.engine front.engine)
    (hlaunched : front.launched = p.front.launched) (hsettled : front.engine.Settled) :
    (p.meet front).Follows interpreter := by
  by_cases hrefused : p.front.engine.waiting = some .start ∧ front.session.ended = true
  · obtain ⟨args, files, hlaunch, hl, hfile, hdone⟩ := h.done_of_waiting hrefused.1
    have hended : front.engine.session.ended = true := hrefused.2
    have htodo : (p.meet front).todo = [] := by simp only [meet, hrefused, and_self, ↓reduceIte]
    refine .refused args files hlaunch (hlaunched.trans hl) hfile hdone htodo hended ?_
    -- the wait for the start is over when the session is
    rcases hserved.call with hcall | hcall
    · have hw : front.engine.waiting = some .start := (Engine.waiting_congr hcall).trans hrefused.1
      rw [(hsettled.start hw).1] at hended
      contradiction
    · exact hcall
  · have htodo : (p.meet front).todo = p.todo := by simp only [meet, hrefused, ↓reduceIte]
    cases h.follows with
    | idle hlaunch hl hdone hnil => exact .idle hlaunch (hlaunched.trans hl) hdone (htodo.trans hnil)
    | going args files hlaunch hl hprogram =>
      exact .going args files hlaunch (hlaunched.trans hl) ((congrArg (p.done ++ ·) htodo).trans hprogram)
    | refused args files hlaunch hl hfile hdone hnil hended hcall =>
      exact .refused args files hlaunch (hlaunched.trans hl) hfile hdone (htodo.trans hnil) (hserved.ended hended)
        (hserved.call.elim (·.trans hcall) id)

private theorem Sound.served {front : Adapter} (hserved : Engine.Served p.front.engine front.engine)
    (hlaunched : front.launched = p.front.launched) (hsettled : front.engine.Settled)
    (hmirrored : front.engine.session.flags.terminate = front.engine.session.ended) :
    (p.meet front).Sound setup interpreter := by
  refine ⟨hsettled, hmirrored, hserved.single h.single, h.follows_served hserved hlaunched hsettled, ?_, ?_, ?_⟩
  · have hstarted := hserved.started
    simp only [meet, hstarted]
    exact h.started
  · intro w hw
    exact h.awaits w (hserved.waiting hw)
  · obtain ⟨told, htold, hjournal⟩ := h.journaled
    refine ⟨told, htold, hjournal.imp hserved.journal.trans ?_⟩
    rintro ⟨code, hin, hcall, hforced⟩
    exact ⟨code, hin, hserved.call.elim (·.trans hcall) id, hserved.journal.trans hforced⟩

omit h in
/-- What happens to a front end is an operation on its engine, or several. -/
theorem step_engine (setup : Setup) (interpreter : Interpreter) (hset : p.front.engine.Settled) (i : Incident) :
    ∃ ops, (p.step setup interpreter i).front.engine = p.front.engine.run setup ops := by
  cases i with
  | request r =>
    cases hr : p.front.accepts r with
    | some args => exact ⟨[], by simp only [step, hr]; rfl⟩
    | none =>
      refine ⟨p.front.operations interpreter r.command, ?_⟩
      simp only [step, hr]
      exact Adapter.handle_engine setup interpreter hset r
  | close => exact ⟨[.disconnect], rfl⟩
  | turn =>
    simp only [step, turn]
    split
    · rename_i a rest _ _
      exact ⟨[.call [a]], rfl⟩
    · exact ⟨[], rfl⟩
  | graceExpires => exact ⟨[.graceExpires], rfl⟩
  | changeFile change => exact ⟨[.changeFile change], rfl⟩

theorem sound_step (i : Incident) : (p.step setup interpreter i).Sound setup interpreter := by
  rcases step_cases h.settled h.single i with ⟨r, args, -, hr, hs⟩ | ⟨a, rest, -, hcall, htodo, hs⟩ |
    ⟨code, -, hcall, hs⟩ | ⟨front, hs, hserved, hlaunched⟩
  · rw [hs]
    exact h.launched hr
  · rw [hs]
    exact h.taken hcall htodo
  · rw [hs]
    exact h.expired hcall
  · obtain ⟨ops, hops⟩ := step_engine setup interpreter h.settled i
    have hfront : front.engine = p.front.engine.run setup ops := by rw [← hops, hs]; rfl
    rw [hs]
    refine h.served hserved hlaunched ?_ ?_ <;> rw [hfront]
    · exact Engine.settled_run h.settled ops
    · exact (Engine.mirrored_kept setup).run (fun op _ e => (e.silent_serve op).mirrored) h.mirrored

theorem Sound.run (incidents : List Incident) : (p.run setup interpreter incidents).Sound setup interpreter := by
  induction incidents generalizing p with
  | nil => exact h
  | cons i incidents ih => exact ih (sound_step h i)

omit h in
theorem sound_run (setup : Setup) (interpreter : Interpreter) (files : Files) (incidents : List Incident) :
    ((new setup files).run setup interpreter incidents).Sound setup interpreter :=
  (sound_new setup interpreter files).run incidents

end Live

end Debugger
