import Debugger.Proofs.Pause

/-!
# The depth of an evaluation

A `Course` is what happens while nodes are evaluated inside one another. Its actions may be carried out in any number of
calls, and the client may do anything in between and at every pause: when a node is visited, the depth is the depth at
the start and the nesting level of the node, and at the end it is the depth at the start (`depth_balanced`). Only if the
session ends while a call is parked in a pause, what is left is carried out at the depth of that pause.

For actions alone the depths are read off by `depthAfter` and `trail`. A step of the engine carries out some actions and
leaves others, so these two, taken from the depth of the session on the actions that are left, do not change.
-/

namespace Debugger

/-! ### Courses -/

/-- What happens in an evaluation: a node is evaluated with what happens inside it, an exception is raised, or a message
is logged. -/
inductive Course where
  | node (node : Node) (scope : Scope) (inner : List Course)
  | exception (e : Exception)
  | log (level : LogLevel) (text : String)

namespace Course

mutual

/-- The actions of a course: a node is entered and visited, and left after what happens inside it. -/
def actions : Course → List Action
  | .node n scope inner => .hook (.enter n scope) :: .visit n :: forest inner ++ [.hook .leave]
  | .exception e => [.hook (.exception e)]
  | .log level text => [.hook (.log level text)]

/-- The actions of courses one after the other. -/
def forest : List Course → List Action
  | [] => []
  | c :: cs => c.actions ++ forest cs

end

mutual

/-- The nodes of a course as they are entered, each with its nesting level, that of the course being given. -/
def levels (level : Nat) : Course → List (Node × Nat)
  | .node n _ inner => (n, level) :: forestLevels (level + 1) inner
  | .exception _ | .log _ _ => []

/-- The nodes of courses one after the other. -/
def forestLevels (level : Nat) : List Course → List (Node × Nat)
  | [] => []
  | c :: cs => c.levels level ++ forestLevels level cs

end

end Course

/-- An action that evaluates nodes. -/
def Action.Evaluates : Action → Prop
  | .hook _ | .visit _ => True
  | _ => False

/-- The depth after an action at a depth. -/
def Action.depthFrom (depth : Nat) : Action → Nat
  | .hook (.enter _ _) => depth + 1
  | .hook .leave => depth - 1
  | _ => depth

/-- The visit that an action makes at a depth. -/
def Action.visited (depth : Nat) : Action → List (Node × Nat)
  | .visit node => [(node, depth)]
  | _ => []

/-- The depth after actions that begin at a depth. -/
def depthAfter (depth : Nat) (actions : List Action) : Nat := actions.foldl Action.depthFrom depth

/-- The visits of actions that begin at a depth. -/
def trail (depth : Nat) : List Action → List (Node × Nat)
  | [] => []
  | a :: rest => a.visited depth ++ trail (a.depthFrom depth) rest

private theorem depthAfter_append (depth : Nat) (as bs : List Action) :
    depthAfter depth (as ++ bs) = depthAfter (depthAfter depth as) bs := List.foldl_append

private theorem trail_append (depth : Nat) (as bs : List Action) :
    trail depth (as ++ bs) = trail depth as ++ trail (depthAfter depth as) bs := by
  induction as generalizing depth with
  | nil => rfl
  | cons a as ih => simp only [List.cons_append, trail, ih, List.append_assoc, depthAfter, List.foldl_cons]

namespace Course

mutual

private theorem evaluates_actions : ∀ c : Course, ∀ a ∈ c.actions, a.Evaluates
  | .node n scope inner => by
    have hinner := evaluates_forest inner
    intro a ha
    simp only [actions, List.cons_append, List.mem_cons, List.mem_append, List.not_mem_nil, or_false] at ha
    rcases ha with rfl | rfl | ha | rfl
    · trivial
    · trivial
    · exact hinner a ha
    · trivial
  | .exception e => by simp [actions, Action.Evaluates]
  | .log level text => by simp [actions, Action.Evaluates]

private theorem evaluates_forest : ∀ cs : List Course, ∀ a ∈ forest cs, a.Evaluates
  | [] => by simp [forest]
  | c :: cs => by
    have hc := evaluates_actions c
    have hcs := evaluates_forest cs
    intro a ha
    rw [forest, List.mem_append] at ha
    exact ha.elim (hc a) (hcs a)

end

mutual

private theorem walk_actions (start level : Nat) : ∀ c : Course,
    depthAfter (start + level) c.actions = start + level ∧
      trail (start + level) c.actions = (c.levels (level + 1)).map fun v => (v.1, start + v.2)
  | .node n scope inner => by
    -- inside the node the level is one more, and leaving it takes this back
    obtain ⟨hdepth, htrail⟩ := walk_forest start (level + 1) inner
    have hactions : (Course.node n scope inner).actions =
        [.hook (.enter n scope), .visit n] ++ (forest inner ++ [.hook .leave]) := rfl
    have henter : depthAfter (start + level) [.hook (.enter n scope), .visit n] = start + (level + 1) := rfl
    rw [hactions, depthAfter_append, trail_append, henter, depthAfter_append, trail_append, hdepth, htrail]
    constructor
    · rfl
    · simp only [levels, List.map_cons, trail, Action.visited, Action.depthFrom, List.nil_append, List.append_nil,
        List.cons_append]
      rfl
  | .exception e => ⟨rfl, rfl⟩
  | .log level text => ⟨rfl, rfl⟩

/-- Courses end at the depth where they begin, and each node is visited at that depth and its nesting level. -/
private theorem walk_forest (start level : Nat) : ∀ cs : List Course,
    depthAfter (start + level) (forest cs) = start + level ∧
      trail (start + level) (forest cs) = (forestLevels (level + 1) cs).map fun v => (v.1, start + v.2)
  | [] => ⟨rfl, rfl⟩
  | c :: cs => by
    obtain ⟨hdepth, htrail⟩ := walk_actions start level c
    obtain ⟨hdepth', htrail'⟩ := walk_forest start level cs
    rw [forest, depthAfter_append, trail_append, hdepth, htrail, forestLevels, List.map_append]
    exact ⟨hdepth', by rw [htrail']⟩

end

end Course

namespace Session

/-! ### One action -/

private theorem announce_walks {s : Session} (hp : s.flags.paused = false) (setup : Setup) (hook : Hook) :
    (s.announce setup hook).1.depth = (Action.hook hook).depthFrom s.depth ∧
      (s.announce setup hook).1.visits = s.visits := by
  have hstop : ∀ (t : Session) (what : Stop) (snapshot : Snapshot),
      (t.stop setup what snapshot).1.depth = t.depth ∧ (t.stop setup what snapshot).1.visits = t.visits := by
    intro t what snapshot
    rcases stop_cases setup what snapshot t with hs | ⟨-, hs⟩
    · rw [hs]
      exact ⟨rfl, rfl⟩
    · rw [hs]
      exact ⟨rfl, (visits_record _ _).trans (List.append_nil _)⟩
  cases hook with
  | enter node scope =>
    simp only [announce, enter, hp, Bool.false_eq_true, ↓reduceIte]
    split
    · exact ⟨rfl, rfl⟩
    · split
      · exact hstop { s with depth := s.depth + 1 } _ _
      · exact ⟨rfl, rfl⟩
  | leave => simp [announce, leave, hp, Action.depthFrom, visits]
  | exception e =>
    simp only [announce, raise, hp, Bool.false_eq_true, ↓reduceIte]
    exact hstop s _ _
  | log level text =>
    have hlog : s.announce setup (.log level text) = (s.log level text, false) := rfl
    rcases log_cases level text s with hs | hs <;> rw [hlog, hs]
    · exact ⟨rfl, rfl⟩
    · exact ⟨rfl, (visits_record _ _).trans (List.append_nil _)⟩

private theorem awaitIf_cases (stopped : Session × Bool) :
    (awaitIf stopped).2 = .done .completed ∨ (awaitIf stopped).2 = .waiting .resume := by
  unfold awaitIf
  split
  · rcases await_cases stopped.1 .resume with ⟨outcome, ho, hs⟩ | ⟨-, hs⟩
    · left
      rw [hs]
      simp only [outcome?] at ho
      split at ho <;> cases ho
      rfl
    · exact .inr (by rw [hs])
  · exact .inl rfl

private theorem still_awaitIf (stopped : Session × Bool) : Still stopped.1 (awaitIf stopped).1 := by
  unfold awaitIf
  split
  · exact still_await _ _
  · exact .refl _

/-- A call that has stopped evaluation is parked in a session that goes on, without a token. -/
structure AtStop (s : Session) : Prop where
  paused : s.flags.paused = true
  terminate : s.flags.terminate = false
  ended : s.ended = false
  token : s.signals.resume = false

/-- While evaluation is not paused, an action that evaluates nodes changes the depth and makes its visit, whether it
stops evaluation or not. -/
private theorem perform_walks {s : Session} (hp : s.flags.paused = false) (setup : Setup) {a : Action}
    (ha : a.Evaluates) : (s.perform setup a).1.depth = a.depthFrom s.depth ∧
      (s.perform setup a).1.visits = s.visits ++ a.visited s.depth ∧
      ((s.perform setup a).2 = .done .completed ∧ (s.perform setup a).1.flags.paused = false ∨
        (s.perform setup a).2 = .waiting .resume ∧ (s.perform setup a).1.AtStop) := by
  cases a with
  | hook hook =>
    obtain ⟨hdepth, hvisits⟩ := announce_walks hp setup hook
    have hstill := still_awaitIf (s.announce setup hook)
    have hnone : (Action.hook hook).visited s.depth = [] := rfl
    rw [hnone, List.append_nil]
    refine ⟨hstill.depth.trans hdepth, hstill.visits.trans hvisits, ?_⟩
    rcases perform_cases setup s (.hook hook) with ⟨hs, hw⟩ | ⟨hf, depth, what, snapshot, hs⟩
    · rcases awaitIf_cases (s.announce setup hook) with hd | hd
      · exact .inl ⟨hd, hs.paused.trans hp⟩
      · exact absurd hd hw
    · rw [hs]
      exact .inr ⟨rfl, rfl, hf.2.1, hf.2.2, rfl⟩
  | visit node => exact ⟨rfl, visits_record s _, .inl ⟨rfl, hp⟩⟩
  | _ => exact ha.elim

end Session

namespace Engine

/-! ### What is left to do -/

/-- The actions that are left of the outstanding call. -/
def left (e : Engine) : List Action := e.call.elim [] (·.2)

/-- An evaluation that will have the given depth and visits when what is left of the outstanding call is done. -/
structure OnCourse (e : Engine) (depth : Nat) (visits : List (Node × Nat)) : Prop where
  idle : e.call = none → e.session.flags.paused = false
  parked : ∀ w rest, e.call = some (w, rest) → w = .resume ∧ e.session.AtStop ∧ ∀ a ∈ rest, a.Evaluates
  depth : depthAfter e.session.depth e.left = depth
  visits : e.session.visits ++ trail e.session.depth e.left = visits

variable {setup : Setup}

private theorem onCourse_proceed (e : Engine) {s : Session} (hp : s.flags.paused = false) {actions : List Action}
    (hactions : ∀ a ∈ actions, a.Evaluates) :
    OnCourse (e.proceed setup s .completed actions).1 (depthAfter s.depth actions)
      (s.visits ++ trail s.depth actions) := by
  induction actions generalizing s with
  | nil => exact ⟨fun _ => hp, nofun, rfl, rfl⟩
  | cons a rest ih =>
    rw [List.forall_mem_cons] at hactions
    obtain ⟨hdepth, hvisits, hprogress⟩ := s.perform_walks hp setup hactions.1
    have hcons : depthAfter s.depth (a :: rest) = depthAfter (s.perform setup a).1.depth rest ∧
        s.visits ++ trail s.depth (a :: rest) =
          (s.perform setup a).1.visits ++ trail (s.perform setup a).1.depth rest := by
      rw [hdepth, hvisits, trail, List.append_assoc]
      exact ⟨rfl, rfl⟩
    rw [hcons.1, hcons.2]
    cases hperform : s.perform setup a with
    | mk t progress =>
      rw [hperform] at hprogress
      rcases hprogress with ⟨hd, ht⟩ | ⟨hd, ht⟩
      · obtain rfl : progress = .done .completed := hd
        have hnext := ih ht hactions.2
        simpa only [proceed, Session.advance, hperform] using hnext
      · obtain rfl : progress = .waiting .resume := hd
        simp only [proceed, Session.advance, hperform]
        refine ⟨(fun hc => by cases hc), fun w rest' hc => ?_, rfl, rfl⟩
        cases hc
        exact ⟨rfl, ht, hactions.2⟩

/-! ### Steps -/

/-- The actions that the evaluation side takes up in a step: those of a call that begins while none is outstanding. -/
def takes (e : Engine) : Operation → List Action
  | .call actions => if e.call.isNone then actions else []
  | _ => []

private theorem takes_call {e : Engine} (h : e.call = none) (actions : List Action) :
    e.takes (.call actions) = actions :=
  if_pos (by rw [h]; rfl)

/-- The actions that the evaluation side takes up along a run. -/
def taken (setup : Setup) : Engine → List Operation → List Action
  | _, [] => []
  | e, op :: ops => e.takes op ++ (e.step setup op).1.taken setup ops

end Engine

/-- The client ends the session while a call is parked in a pause. -/
def Operation.Cuts (e : Engine) (op : Operation) : Prop := e.waits (· = .resume) = true ∧ op.Ends e

namespace Engine

/-- Along a run the session does not end while a call is parked. -/
def Uncut (setup : Setup) : Engine → List Operation → Prop
  | _, [] => True
  | e, op :: ops => ¬ op.Cuts e ∧ (e.step setup op).1.Uncut setup ops

variable {setup : Setup}

private theorem OnCourse.idle_depth {e : Engine} {depth : Nat} {visits : List (Node × Nat)}
    (h : OnCourse e depth visits) (hcall : e.call = none) : e.session.depth = depth ∧ e.session.visits = visits := by
  have hleft : e.left = [] := by rw [left, hcall]; rfl
  refine ⟨?_, ?_⟩
  · simpa [hleft, depthAfter] using h.depth
  · simpa [hleft, trail] using h.visits

private theorem taken_append (e : Engine) (ops later : List Operation) :
    e.taken setup (ops ++ later) = e.taken setup ops ++ (e.run setup ops).taken setup later := by
  induction ops generalizing e with
  | nil => rfl
  | cons op ops ih => rw [List.cons_append, taken, ih, taken, run_cons, List.append_assoc]

private theorem uncut_append {e : Engine} {ops later : List Operation} :
    e.Uncut setup (ops ++ later) ↔ e.Uncut setup ops ∧ (e.run setup ops).Uncut setup later := by
  induction ops generalizing e with
  | nil => exact iff_of_eq (true_and _).symm
  | cons op ops ih => rw [List.cons_append, Uncut, ih, Uncut, run_cons, and_assoc]

/-- What keeps the outstanding call, the paused flag and the end of the session, the depth and the visits, keeps an
evaluation on its course. -/
private theorem OnCourse.of_still {e : Engine} {s : Session} {depth : Nat} {visits : List (Node × Nat)}
    (h : OnCourse e depth visits) (hdepth : s.depth = e.session.depth) (hvisits : s.visits = e.session.visits)
    (hpaused : s.flags.paused = e.session.flags.paused) (hstop : e.session.AtStop → s.AtStop) (files : Files) :
    OnCourse ⟨s, files, e.call⟩ depth visits where
  idle hc := hpaused.trans (h.idle hc)
  parked w rest hc := by
    obtain ⟨hw, hs, ha⟩ := h.parked w rest hc
    exact ⟨hw, hstop hs, ha⟩
  depth := by
    rw [hdepth]
    exact h.depth
  visits := by
    rw [hdepth, hvisits]
    exact h.visits

/-- The client does not change the depth and makes no visit, unless it begins an evaluation. -/
private theorem serve_walks (e : Engine) {op : Operation} (hop : op ≠ .begin) :
    (e.serve op).1.session.depth = e.session.depth ∧ (e.serve op).1.session.visits = e.session.visits := by
  cases op with
  | assert flag => exact ⟨(Session.still_assert _ flag).depth, (Session.still_assert _ flag).visits⟩
  | clear flag => exact ⟨(Session.still_clear _ flag).depth, (Session.still_clear _ flag).visits⟩
  | begin => exact absurd rfl hop
  | resume command =>
    rcases e.serve_resume_cases command with ⟨-, err, hs⟩ | ⟨-, hs⟩ <;> rw [hs] <;> exact ⟨rfl, rfl⟩
  | takeDisconnect =>
    simp only [serve]
    split <;> exact ⟨rfl, rfl⟩
  | cache v =>
    simp only [serve, Session.cacheValue]
    cases e.session.saved <;> exact ⟨rfl, rfl⟩
  | cached id =>
    simp only [serve]
    split <;> exact ⟨rfl, rfl⟩
  | _ => exact ⟨rfl, rfl⟩

private theorem ended_serve {e : Engine} {op : Operation} (hends : ¬ op.Ends e) :
    (e.serve op).1.session.ended = e.session.ended := by
  have hstart : ∀ s : Session, s.checkStart.ended = s.ended := by
    intro s
    unfold Session.checkStart
    split <;> rfl
  cases op with
  | assert flag =>
    cases flag with
    | terminate => exact absurd trivial hends
    | sessionReady => exact hstart _
    | clientConfigured => exact hstart _
    | _ => rfl
  | clear flag => cases flag <;> rfl
  | terminate => exact absurd trivial hends
  | disconnect => exact absurd trivial hends
  | resume command => rcases e.serve_resume_cases command with ⟨-, err, hs⟩ | ⟨-, hs⟩ <;> rw [hs]; rfl
  | takeDisconnect =>
    simp only [serve]
    split <;> rfl
  | cache v =>
    simp only [serve, Session.cacheValue]
    cases e.session.saved <;> rfl
  | cached id =>
    simp only [serve]
    split <;> rfl
  | _ => rfl

private theorem Discreet.ne {op : Operation} (h : op.Discreet) :
    op ≠ .assert .paused ∧ op ≠ .clear .paused ∧ op ≠ .begin := by
  refine ⟨?_, ?_, ?_⟩
  · rintro rfl
    exact h rfl
  · rintro rfl
    exact h rfl
  · rintro rfl
    exact h

/-- What the client does at a stop, other than to resume evaluation or to end the session, leaves the call parked. -/
private theorem atStop_serve {e : Engine} {op : Operation} (h : e.session.AtStop) (hop : op.Discreet)
    (hends : ¬ op.Ends e) (hresume : ∀ command, op ≠ .resume command) : (e.serve op).1.session.AtStop := by
  obtain ⟨hassert, hclear, -⟩ := Discreet.ne hop
  obtain ⟨hsteady, -⟩ := e.steady_serve hassert hclear hresume
  have hended : (e.serve op).1.session.ended = false := (ended_serve hends).trans h.ended
  refine ⟨hsteady.paused.trans h.paused, ?_, hended, ?_⟩
  · exact (hsteady.mirrored (h.terminate.trans h.ended.symm)).trans hended
  · rcases hsteady.token with ht | ht
    · exact ht.trans h.token
    · rw [hended] at ht
      contradiction

private theorem settled_of_atStop {e : Engine} {rest : List Action} (h : e.session.AtStop)
    (hcall : e.call = some (.resume, rest)) : e.Settled := by
  intro w hw
  rw [waiting, hcall] at hw
  cases hw
  simp [Session.outcome?, h.token, h.ended]

/-- What the client does keeps an evaluation on its course, when the outstanding call then goes on if it can. -/
private theorem onCourse_settle {e : Engine} {op : Operation} {depth : Nat} {visits : List (Node × Nat)}
    (h : OnCourse e depth visits) (hop : op.Discreet) (hcut : ¬ op.Cuts e) :
    OnCourse ((e.serve op).1.settle setup).1 depth visits := by
  obtain ⟨hassert, hclear, hbegin⟩ := Discreet.ne hop
  obtain ⟨hdepth, hvisits⟩ := e.serve_walks hbegin
  have hstay : (e.serve op).1.session.flags.paused = e.session.flags.paused →
      (e.session.AtStop → (e.serve op).1.session.AtStop) → OnCourse (e.serve op).1 depth visits := by
    intro hpaused hstop
    have hsame := h.of_still hdepth hvisits hpaused hstop (e.serve op).1.files
    rwa [← serve_call e op] at hsame
  cases hcall : e.call with
  | none =>
    have hidle := h.idle hcall
    have hpaused : (e.serve op).1.session.flags.paused = e.session.flags.paused := by
      rcases e.serve_cases hassert hclear with ⟨hs, -⟩ | ⟨command, -, hp, -⟩
      · exact hs.paused
      · rw [hidle] at hp
        contradiction
    have hsettle : (e.serve op).1.settle setup = ((e.serve op).1, none) := by
      simp only [settle, serve_call, hcall]
    rw [hsettle]
    refine hstay hpaused fun hstop => ?_
    rw [hstop.paused] at hidle
    contradiction
  | some call =>
    obtain ⟨w, rest⟩ := call
    obtain ⟨rfl, hstop, hrest⟩ := h.parked w rest hcall
    have hends : ¬ op.Ends e := fun hends => hcut ⟨by simp [waits, hcall], hends⟩
    by_cases hresume : ∃ command, op = .resume command
    · -- the resume is granted, and the rest of the call goes on in a session that is not paused
      obtain ⟨command, rfl⟩ := hresume
      have hgo : OnCourse (e.step setup (.resume command)).1 (depthAfter e.session.depth rest)
          (e.session.visits ++ trail e.session.depth rest) := by
        rw [step_resume setup hcall hstop.paused hstop.terminate]
        exact onCourse_proceed (s := (e.session.goOn command).takeToken .resume) e rfl hrest
      have hleft : e.left = rest := by rw [left, hcall]; rfl
      rw [← hleft, h.depth, h.visits] at hgo
      exact hgo
    · have hserved := atStop_serve hstop hop hends fun command heq => hresume ⟨command, heq⟩
      have hsettled := settled_of_atStop hserved (by rw [serve_call, hcall])
      rw [settle_of_settled setup hsettled]
      exact hstay (hserved.paused.trans hstop.paused.symm) fun _ => hserved

/-- A step takes up some actions and carries some out, so an evaluation stays on its course, lengthened by the actions
that were taken up. -/
private theorem onCourse_step {e : Engine} {op : Operation} {depth : Nat} {visits : List (Node × Nat)}
    (h : OnCourse e depth visits) (hop : op.Discreet) (hcut : ¬ op.Cuts e) (htakes : ∀ a ∈ e.takes op, a.Evaluates) :
    OnCourse (e.step setup op).1 (depthAfter depth (e.takes op)) (visits ++ trail depth (e.takes op)) := by
  have hnone : e.takes op = [] → OnCourse (e.step setup op).1 depth visits →
      OnCourse (e.step setup op).1 (depthAfter depth (e.takes op)) (visits ++ trail depth (e.takes op)) := by
    intro hnil hstep
    rw [hnil]
    simpa [depthAfter, trail] using hstep
  by_cases hcalls : ∃ actions, op = .call actions
  · obtain ⟨actions, rfl⟩ := hcalls
    rcases step_call_cases setup e actions with ⟨hcall, hs⟩ | ⟨call, a, hcall, -, hi, hs⟩ | ⟨hcall, hs⟩
    · obtain ⟨hdepth, hvisits⟩ := h.idle_depth hcall
      rw [takes_call hcall] at htakes ⊢
      rw [hs, ← hdepth, ← hvisits]
      exact onCourse_proceed e (h.idle hcall) htakes
    · refine hnone (by simp [takes, hcall]) ?_
      rw [hs]
      have hstill := Session.still_immediate hi setup
      have hsteady := Session.steady_immediate hi setup
      refine h.of_still hstill.depth hstill.visits hsteady.paused (fun hstop => ?_) e.files
      rcases Session.perform_of_immediate hi setup with hp | ⟨channel, text, hp⟩ <;> rw [hp]
      · exact hstop
      · exact ⟨hstop.paused, hstop.terminate, hstop.ended, hstop.token⟩
    · have hbusy : e.call.isNone = false := by simpa [Option.isSome_iff_ne_none] using hcall
      refine hnone (by simp [takes, hbusy]) ?_
      rw [hs]
      exact h
  · have hnil : e.takes op = [] := by
      unfold takes
      split
      · exact absurd ⟨_, rfl⟩ hcalls
      · rfl
    refine hnone hnil ?_
    rcases step_cases setup e op with hc | rfl | hs
    · exact absurd hc hcalls
    · rcases step_graceExpires_cases setup e with hs | ⟨code, rest, hcall, -⟩
      · rw [hs]
        exact h
      · exact absurd (h.parked _ rest hcall).1 nofun
    · rw [hs]
      exact onCourse_settle h hop hcut

/-- Along a run that does not end the session at a pause, an evaluation stays on its course. -/
private theorem onCourse_run {e : Engine} {ops : List Operation} {depth : Nat} {visits : List (Node × Nat)}
    (h : OnCourse e depth visits) (hops : ∀ op ∈ ops, op.Discreet) (huncut : e.Uncut setup ops)
    (htaken : ∀ a ∈ e.taken setup ops, a.Evaluates) :
    OnCourse (e.run setup ops) (depthAfter depth (e.taken setup ops)) (visits ++ trail depth (e.taken setup ops)) := by
  induction ops generalizing e depth visits with
  | nil => simpa [taken, depthAfter, trail, run] using h
  | cons op ops ih =>
    rw [List.forall_mem_cons] at hops
    rw [taken, List.forall_mem_append] at htaken
    have hstep : OnCourse (e.step setup op).1 _ _ := onCourse_step h hops.1 huncut.1 htaken.1
    have hrun := ih hstep hops.2 huncut.2 htaken.2
    rwa [List.append_assoc, ← trail_append, ← depthAfter_append] at hrun

/-- When the session ends while a call is parked, the depth stays that of the pause, also for what is visited later. -/
private theorem depth_of_cut {e : Engine} {op : Operation} {ops : List Operation} (hp : e.session.flags.paused = true)
    (hcarries : e.Carries (· ≠ .begin)) (hops : ∀ o ∈ op :: ops, o.Discreet) (hends : op.Ends e) :
    Session.Frozen e.session (e.run setup (op :: ops)).session := by
  have hover : (e.step setup op).1.session.Over := over_step_of_ends hends
  have hgrant : op.grants (e.step setup op).2.1 = false := by
    cases op with
    | resume command => exact hends.elim
    | _ => rfl
  have hturns : Turn.resume ∉ e.turns setup (op :: ops) := by
    have hstops := stops_step_of_over hover
    rw [turns, turns_of_over setup hover, stepTurns_eq, hgrant, hstops, List.drop_length]
    simp
  exact (frozen_run hp hcarries hops hturns).1

/-- Courses that are carried out from a depth on, in any calls and with anything between them and at the pauses, visit
each node at that depth and its nesting level and end at that depth, also when the session ends in between. If it ends
while a call is parked, the depth of that pause stays. -/
theorem depth_balanced (setup : Setup) (courses : List Course) (e : Engine) (ops : List Operation)
    (hcall : e.call = none) (hpaused : e.session.isSet .paused = false) (hops : ∀ op ∈ ops, op.Discreet)
    (htaken : e.taken setup ops <+: Course.forest courses) :
    let e' := e.run setup ops
    let due := (Course.forestLevels 1 courses).map fun v => (v.1, e.session.depth + v.2)
    (e.Uncut setup ops →
        e'.session.visits <+: e.session.visits ++ due ∧
          (e'.call = none → e.taken setup ops = Course.forest courses →
            e'.session.visits = e.session.visits ++ due ∧ e'.session.depth = e.session.depth)) ∧
      ∀ before op after, ops = before ++ op :: after → op.Cuts (e.run setup before) →
        let parked := e.run setup before
        e'.session.depth = parked.session.depth ∧
          ∃ more, e'.session.visits = parked.session.visits ++ more ∧
            ∀ visit ∈ more, visit.2 = parked.session.depth := by
  intro e' due
  rw [Session.isSet_paused] at hpaused
  obtain ⟨hdepth, htrail⟩ := Course.walk_forest e.session.depth 0 courses
  rw [Nat.add_zero] at hdepth htrail
  refine ⟨fun huncut => ?_, ?_⟩
  · have hleft : e.left = [] := by rw [left, hcall]; rfl
    have hstart : OnCourse e e.session.depth e.session.visits := by
      refine ⟨fun _ => hpaused, fun w rest hc => ?_, by rw [hleft]; rfl, by rw [hleft, trail, List.append_nil]⟩
      rw [hcall] at hc
      contradiction
    have hcourse := onCourse_run hstart hops huncut fun a ha => Course.evaluates_forest courses a (htaken.subset ha)
    refine ⟨?_, fun hend hall => ?_⟩
    · -- what was visited is the beginning of the trail of what was taken up, and that is the beginning of what is due
      obtain ⟨more, hmore⟩ := htaken
      have hdue : trail e.session.depth (e.taken setup ops) <+: due := by
        rw [← hmore, trail_append] at htrail
        exact ⟨_, htrail⟩
      refine .trans ?_ ((List.prefix_append_right_inj e.session.visits).2 hdue)
      exact ⟨_, hcourse.visits⟩
    · rw [hall, hdepth, htrail] at hcourse
      obtain ⟨hd, hv⟩ := hcourse.idle_depth hend
      exact ⟨hv, hd⟩
  · intro before op after heq hcut parked
    have hbefore : ∀ o ∈ before, o.Discreet := fun o ho => hops o (heq ▸ List.mem_append_left _ ho)
    have hafter : ∀ o ∈ op :: after, o.Discreet := fun o ho => hops o (heq ▸ List.mem_append_right _ ho)
    have hclear : Operation.clear .paused ∉ before := fun hm => hbefore _ hm rfl
    have hcarries : parked.Carries (· ≠ .begin) := by
      refine carries_run (fun w rest hc => ?_) hbefore
      rw [hcall] at hc
      contradiction
    have hfrozen : Session.Frozen parked.session e'.session := by
      have hrun : e' = parked.run setup (op :: after) := by simp only [e', heq, run_append, parked]
      rw [hrun]
      exact depth_of_cut (paused_of_parked hcall hclear hcut.1).1 hcarries hafter hcut.2
    exact ⟨hfrozen.depth, hfrozen.visits⟩

/-- Inside a node, evaluation stops at a breakpoint and at an exception, then the session ends between two nodes: the
last one is visited at its level all the same, and the depth is one again at the end. -/
theorem depth_balanced_after_end :
    let called : Node := { id := 1, kind := "CallExpression", function := some "debug::break" }
    let last : Node := { id := 2, kind := "LiteralInteger" }
    let courses : List Course := [.node called {} [.exception { message := "boom" }], .node last {} []]
    let e := (new {} {}).run {} [.call [.hook (.enter default {})]]
    let stepping : List Operation :=
      [.call ((Course.forest courses).take 4), .resume .next, .setFunctions [], .resume .stepOut]
    let ops := stepping ++ [.terminate, .call ((Course.forest courses).drop 4)]
    (e.call = none ∧ e.session.isSet .paused = false ∧ (∀ op ∈ ops, op.Discreet) ∧
        e.taken {} ops <+: Course.forest courses ∧ e.Uncut {} ops) ∧
      (e.run {} ops).session.visits = e.session.visits ++ [(called, 2), (last, 2)] ∧
      (e.run {} ops).session.depth = 1 ∧ (e.run {} ops).session.isSet .terminate = true := by
  intro called last courses e stepping ops
  have hops : ∀ op ∈ ops, op.Discreet := by
    simp [ops, stepping, courses, Operation.Discreet, Course.forest, Course.actions]
  have hcall : (e.run {} ops).call = none := Option.isNone_iff_eq_none.1 (by decide +kernel)
  have hidle : ((e.run {} stepping).step {} .terminate).1.call = none :=
    Option.isNone_iff_eq_none.1 (by decide +kernel)
  have hrunning : (e.run {} stepping).waits (· = .resume) = false := by decide +kernel
  have htaken : e.taken {} ops = Course.forest courses := by
    have hfirst : e.taken {} stepping = (Course.forest courses).take 4 := rfl
    have hlast : (e.run {} stepping).taken {} [.terminate, .call ((Course.forest courses).drop 4)] =
        (Course.forest courses).drop 4 := by
      rw [taken, taken, takes_call hidle, taken, List.append_nil]
      rfl
    rw [taken_append, hfirst, hlast, List.take_append_drop]
  have huncut : e.Uncut {} ops := by
    refine uncut_append.2 ⟨⟨fun h => h.2, fun h => h.2, fun h => h.2, fun h => h.2, trivial⟩, ?_, fun h => h.2, trivial⟩
    rintro ⟨hwaits, -⟩
    rw [hrunning] at hwaits
    exact Bool.false_ne_true hwaits
  obtain ⟨hbalanced, -⟩ := depth_balanced {} courses e ops rfl rfl hops (htaken ▸ List.prefix_rfl)
  obtain ⟨hvisits, hdepth⟩ := (hbalanced huncut).2 hcall htaken
  exact ⟨⟨rfl, rfl, hops, htaken ▸ List.prefix_rfl, huncut⟩, hvisits, hdepth, by decide +kernel⟩

end Engine

end Debugger
