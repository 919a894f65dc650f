import Debugger.Proofs.Disconnect
import Debugger.Proofs.Flags

/-!
# What comes before the first announcement

Of what the client does, the flags of the start and the end of the session tell whether it has configured the session
and whether it has gone (`Engine.Heard`). Until evaluation announces something for the first time, the client cannot
change what evaluation begins with, for there is no pause that it could resume (`Session.Fresh`). So everything that
happens is an accepted launch, an action that is taken up, or something of the client that is heard (`heard_cases`).
-/

namespace Debugger

namespace Incident

/-- Whether the client tells that it is configured. -/
def configures : Incident → Bool
  | request r => (r.command matches .configurationDone)
  | _ => false

def changesFiles : Incident → Bool
  | changeFile _ => true
  | _ => false

end Incident

namespace Operation

def configures : Operation → Bool
  | .assert .clientConfigured => true
  | _ => false

def disconnects : Operation → Bool
  | .disconnect => true
  | _ => false

def changesFiles : Operation → Bool
  | .changeFile _ => true
  | _ => false

end Operation

namespace Action

def prepares : Action → Bool
  | prepare _ => true
  | _ => false

def exits : Action → Bool
  | exit _ => true
  | _ => false

/-- The path that is prepared after an action. -/
def unit (unit : Option String) : Action → Option String
  | prepare path => some path
  | _ => unit

end Action

/-- A session in which evaluation has announced nothing yet, with the path that was prepared. -/
structure Session.Fresh (s : Session) (unit : Option String) : Prop where
  paused : s.flags.paused = false
  saved : s.saved = none
  mode : s.mode = .run
  depth : s.depth = 0
  unit : s.unit = unit

/-! ### What the client does -/

namespace Engine

/-- The client has done something: only its own flag and the end of the session depend on what it was. -/
structure Heard (configures disconnects changesFiles : Bool) (e e' : Engine) : Prop where
  ready : e'.session.flags.sessionReady = e.session.flags.sessionReady
  configured : e'.session.flags.clientConfigured = (e.session.flags.clientConfigured || configures)
  requested : e'.session.flags.startRequested =
    (e.session.flags.startRequested || e.session.flags.sessionReady && configures)
  ended : e'.session.ended = (e.session.ended || disconnects)
  fresh : ∀ unit, e.session.Fresh unit → e'.session.Fresh unit
  files : changesFiles = false → e'.files = e.files
  /-- A start that is not waited for any more is decided. -/
  start : e.waiting = some .start → e'.waiting = some .start ∨ e'.session.outcome? .start ≠ none

/-- Where the flags that lead to the start stay. -/
private theorem heard_of_flags {disconnects changesFiles : Bool} {e e' : Engine}
    (hready : e'.session.flags.sessionReady = e.session.flags.sessionReady)
    (hconfigured : e'.session.flags.clientConfigured = e.session.flags.clientConfigured)
    (hrequested : e'.session.flags.startRequested = e.session.flags.startRequested)
    (hended : e'.session.ended = (e.session.ended || disconnects))
    (hfresh : ∀ unit, e.session.Fresh unit → e'.session.Fresh unit)
    (hfiles : changesFiles = false → e'.files = e.files)
    (hstart : e.waiting = some .start → e'.waiting = some .start) : Heard false disconnects changesFiles e e' where
  ready := hready
  configured := by rw [hconfigured, Bool.or_false]
  requested := by rw [hrequested, Bool.and_false, Bool.or_false]
  ended := hended
  fresh := hfresh
  files := hfiles
  start hw := .inl (hstart hw)

private theorem heard_refl (e : Engine) : Heard false false false e e :=
  heard_of_flags rfl rfl rfl (Bool.or_false _).symm (fun _ => id) (fun _ => rfl) id

private theorem heard_serve {e : Engine} {op : Operation} (h : op.Plain) :
    Heard op.configures op.disconnects op.changesFiles e (e.serve op).1 := by
  have hor : e.session.ended = (e.session.ended || false) := (Bool.or_false _).symm
  cases op with
  | assert flag =>
    cases flag with
    | clientConfigured =>
      have hcall : ∀ actions, Operation.assert .clientConfigured ≠ .call actions := by simp
      rcases e.flags_serve hcall with hflags | ⟨command, hop, -⟩
      · refine ⟨by rw [hflags]; rfl, ?_, by rw [hflags]; rfl, ?_, ?_, fun _ => rfl, .inl⟩
        · rw [hflags]
          exact (Bool.or_true _).symm
        · simp only [serve, update, Session.assert, Session.checkStart]
          split <;> exact hor
        · intro unit hf
          simp only [serve, update, Session.assert, Session.checkStart]
          split <;> exact ⟨hf.paused, hf.saved, hf.mode, hf.depth, hf.unit⟩
      · contradiction
    | _ => exact h.elim
  | resume command =>
    rcases e.serve_resume_cases command with ⟨-, err, hs⟩ | ⟨⟨-, hpaused⟩, hs⟩ <;> rw [hs]
    · exact heard_refl e
    · refine heard_of_flags rfl rfl rfl hor (fun unit hf => ?_) (fun _ => rfl) id
      -- there is no pause yet
      have hnot := hf.paused
      rw [hpaused] at hnot
      contradiction
  | cache v =>
    cases hs : e.session.saved <;> simp only [serve, Session.cacheValue_eq, hs]
    · exact heard_refl e
    · refine heard_of_flags rfl rfl rfl hor (fun unit hf => ?_) (fun _ => rfl) id
      have hnone := hf.saved
      rw [hs] at hnone
      contradiction
  | disconnect =>
    exact heard_of_flags rfl rfl rfl (Bool.or_true _).symm
      (fun unit hf => ⟨hf.paused, hf.saved, hf.mode, hf.depth, hf.unit⟩) (fun _ => rfl) id
  | setLines | setFunctions =>
    exact heard_of_flags rfl rfl rfl hor
      (fun unit hf => ⟨hf.paused, hf.saved, hf.mode, hf.depth, hf.unit⟩) (fun _ => rfl) id
  | changeFile change => exact heard_of_flags rfl rfl rfl hor (fun _ => id) (fun hno => by contradiction) id
  | _ => exact h.elim

private theorem heard_step (setup : Setup) {e : Engine} (hsingle : e.Single) (op : Operation) (h : op.Plain) :
    Heard op.configures op.disconnects op.changesFiles e (e.step setup op).1 := by
  have hserve := heard_serve (e := e) h
  have hcall : (e.serve op).1.call = e.call := serve_call e op
  have hstep := step_of_served setup e op (fun _ hop => by rw [hop] at h; exact h) fun hop => by rw [hop] at h; exact h
  rw [hstep]
  have hsingle' : (e.serve op).1.Single := fun w rest hw => hsingle w rest (hcall ▸ hw)
  rcases hsingle'.settle_cases setup with hs | ⟨w, outcome, hw, ho, hs⟩ <;> rw [hs]
  · exact hserve
  · have hkept : ((e.serve op).1.session.takeToken w).flags = (e.serve op).1.session.flags := by cases w <;> rfl
    have hended : ((e.serve op).1.session.takeToken w).ended = (e.serve op).1.session.ended := by cases w <;> rfl
    refine ⟨?_, ?_, ?_, hended.trans hserve.ended, ?_, hserve.files, ?_⟩
    · exact (congrArg Flags.sessionReady hkept).trans hserve.ready
    · exact (congrArg Flags.clientConfigured hkept).trans hserve.configured
    · exact (congrArg Flags.startRequested hkept).trans hserve.requested
    · intro unit hf
      have hf := hserve.fresh unit hf
      cases w <;> exact ⟨hf.paused, hf.saved, hf.mode, hf.depth, hf.unit⟩
    · intro hstart
      right
      obtain rfl : w = .start :=
        Option.some.inj ((waiting_of_call (hcall.symm.trans hw)).symm.trans hstart)
      show (e.serve op).1.session.outcome? .start ≠ none
      rw [ho]
      simp

private theorem heard_handOut (e : Engine) (vs : List Value) :
    Heard false false false e { e with session := e.session.handOut vs } := by
  refine heard_of_flags rfl rfl rfl (Bool.or_false _).symm (fun unit hf => ?_) (fun _ => rfl) id
  rw [Session.handOut_of_not_saved hf.saved]
  exact hf

end Engine

private theorem Adapter.any_operations (interpreter : Interpreter) (a : Adapter) (r : Request) :
    (a.operations interpreter r.command).any Operation.configures = (Incident.request r).configures ∧
      (a.operations interpreter r.command).any Operation.disconnects = (Incident.request r).disconnects ∧
      (a.operations interpreter r.command).any Operation.changesFiles = false := by
  have hcache : ∀ vs : List Value, (vs.map Operation.cache).any Operation.configures = false ∧
      (vs.map Operation.cache).any Operation.disconnects = false ∧
      (vs.map Operation.cache).any Operation.changesFiles = false := by
    intro vs
    simp [Operation.configures, Operation.disconnects, Operation.changesFiles]
  cases hr : r.command with
  | launch data =>
    simp only [Incident.configures, Incident.disconnects, hr, operations]
    cases a.launchArgs data <;> exact ⟨rfl, rfl, rfl⟩
  | setBreakpoints source breakpoints lines =>
    simp only [Incident.configures, Incident.disconnects, hr, operations]
    cases source.path <;> exact ⟨rfl, rfl, rfl⟩
  | setFunctionBreakpoints | configurationDone | resume | disconnect =>
    simp only [Incident.configures, Incident.disconnects, hr]
    exact ⟨rfl, rfl, rfl⟩
  | _ =>
    simp only [Incident.configures, Incident.disconnects, hr]
    exact hcache _

/-! ### What evaluation does before its first announcement -/

namespace Session

private theorem fresh_await {s : Session} {unit : Option String} (h : s.Fresh unit) (w : Wait) :
    (s.await w).1.Fresh unit := by
  rw [await_session]
  exact ⟨h.paused, h.saved, h.mode, h.depth, h.unit⟩

theorem Fresh.perform (setup : Setup) {s : Session} {unit : Option String} (h : s.Fresh unit) {a : Action}
    (ha : ¬ a.Announces) : (s.perform setup a).1.Fresh (a.unit unit) := by
  cases a with
  | hook | stop => exact absurd trivial ha
  | visit node => exact ⟨h.paused, h.saved, h.mode, h.depth, h.unit⟩
  | failure text => exact ⟨h.paused, h.saved, h.mode, h.depth, h.unit⟩
  | prepare path =>
    simp only [Session.perform, prepare, assert, checkStart]
    split <;> exact ⟨h.paused, h.saved, h.mode, h.depth, rfl⟩
  | awaitStart => exact fresh_await h .start
  | begin => exact ⟨h.paused, h.saved, rfl, rfl, h.unit⟩
  | exit code =>
    refine fresh_await ?_ (.disconnect code)
    unfold announceExit
    split <;> exact ⟨h.paused, h.saved, h.mode, h.depth, h.unit⟩

/-- Only the preparation and the exit change the flags of the start and of the end. -/
theorem start_flags_perform (setup : Setup) (s : Session) (a : Action) :
    let flags := (s.perform setup a).1.flags
    flags.sessionReady = (s.flags.sessionReady || a.prepares) ∧
      flags.clientConfigured = s.flags.clientConfigured ∧
      flags.startRequested = (s.flags.startRequested || a.prepares && s.flags.clientConfigured) ∧
      flags.terminate = (s.flags.terminate || a.exits) := by
  intro flags
  rcases flags_perform setup s a with hflags | ⟨hannounces, -, hflags⟩ <;>
    simp only [flags, hflags]
  · cases a <;> simp [Action.effect, Flags.requestStart, Action.prepares, Action.exits]
  · cases a with
    | hook | stop => simp [Action.prepares, Action.exits]
    | _ => exact hannounces.elim

end Session

namespace Live

variable {setup : Setup} {interpreter : Interpreter} {p : Live}

/-- A launch is accepted, an action is taken up, or the client is heard. -/
theorem heard_cases (h : p.Sound setup interpreter) (i : Incident) :
    (∃ r args, i = .request r ∧ p.front.accepts r = some args ∧
        p.step setup interpreter i = p.launched interpreter args) ∨
      (∃ a rest, i = .turn ∧ p.front.engine.call = none ∧ p.todo = a :: rest ∧
        p.step setup interpreter i = p.taken setup a rest) ∨
      ∃ front, p.step setup interpreter i = p.meet front ∧
        Engine.Heard i.configures i.disconnects i.changesFiles p.front.engine front.engine := by
  have hsame : p.step setup interpreter i = p → ∃ front, p.step setup interpreter i = p.meet front ∧
      Engine.Heard false false false p.front.engine front.engine :=
    fun hs => ⟨p.front, hs.trans (meet_self h.settled).symm, Engine.heard_refl _⟩
  cases i with
  | request r =>
    cases hr : p.front.accepts r with
    | some args => exact .inl ⟨r, args, rfl, hr, by simp only [step, hr]⟩
    | none =>
      refine .inr (.inr ⟨(p.front.handle setup interpreter r).1, by simp only [step, hr], ?_⟩)
      obtain ⟨hconfigures, hdisconnects, hchanges⟩ := Adapter.any_operations interpreter p.front r
      have hfiles : (Incident.request r).changesFiles = false := rfl
      rw [Adapter.handle_engine setup interpreter h.settled, ← hconfigures, ← hdisconnects, hfiles, ← hchanges]
      rcases Adapter.operations_cases interpreter hr with ⟨vs, hs⟩ | ⟨op, hop, hs⟩ <;> rw [hs]
      · have hnone : ∀ f : Operation → Bool, (∀ v, f (.cache v) = false) → (vs.map Operation.cache).any f = false := by
          intro f hf
          simp [hf]
        rw [hnone _ fun _ => rfl, hnone _ fun _ => rfl, hnone _ fun _ => rfl, Engine.run_cache setup h.settled]
        exact Engine.heard_handOut p.front.engine vs
      · simp only [List.any_cons, List.any_nil, Bool.or_false]
        exact Engine.heard_step setup h.single op hop
  | close => exact .inr (.inr ⟨_, rfl, Engine.heard_step setup h.single .disconnect trivial⟩)
  | turn =>
    cases hcall : p.front.engine.call with
    | some call => exact .inr (.inr (hsame (by simp only [step, turn, hcall])))
    | none =>
      cases htodo : p.todo with
      | nil => exact .inr (.inr (hsame (by simp only [step, turn, hcall, htodo])))
      | cons a rest => exact .inr (.inl ⟨a, rest, rfl, rfl, rfl, turn_of_idle hcall htodo⟩)
  | graceExpires =>
    by_cases hwaits : ∃ code rest, p.front.engine.call = some (.disconnect code, rest)
    · obtain ⟨code, rest, hcall⟩ := hwaits
      obtain rfl := h.single _ rest hcall
      have hw : p.front.engine.waiting ≠ some .start := by simp [Engine.waiting_of_call hcall]
      have hmeet : p.expired code = p.meet (p.expired code).front := by
        simp only [meet, hw, false_and, ↓reduceIte]
        rfl
      refine .inr (.inr ⟨_, (step_graceExpires_of_waiting setup interpreter hcall).trans hmeet, ?_⟩)
      exact Engine.heard_of_flags rfl rfl rfl (Bool.or_false _).symm
        (fun unit hf => ⟨hf.paused, hf.saved, hf.mode, hf.depth, hf.unit⟩) (fun _ => rfl)
        (fun hstart => absurd hstart hw)
    · simp only [not_exists] at hwaits
      exact .inr (.inr (hsame (step_graceExpires_of_not_waiting setup interpreter h.settled hwaits)))
  | changeFile change =>
    exact .inr (.inr ⟨_, rfl, Engine.heard_step setup h.single (.changeFile change) trivial⟩)

end Live

end Debugger
