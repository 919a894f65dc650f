import Debugger.Proofs.References
import Debugger.Proofs.Rendezvous
import Mathlib.Data.List.Forall2
import Mathlib.Data.List.Induction

/-!
# The stack that is shown is the one of the pause

A pause begins with the action that stops evaluation and ends with the next resume that is granted. At every moment the
answer to a request for the stack shows the frames of that action, innermost first, or where there are none its place
under the name main, or where that is unknown too, and whenever there is no pause, a placeholder
(`stackTrace_shows_pause`). So the order is reversed twice on the way, for nodes and for exceptions alike: what is saved
has the caller first.
-/

namespace Debugger

/-! ### What a stop saves -/

namespace Action

/-- The frames that an action shows where it stops evaluation, innermost first. -/
def stack : Action → List Frame
  | .hook h => h.stack
  | .stop _ snapshot => snapshot.stack.reverse
  | _ => []

/-- The place where an action stops evaluation: that of the node, or of the exception. -/
def place : Action → Option Location
  | .hook (.enter node _) => node.location
  | .hook (.exception e) => e.location
  | .stop _ snapshot => (snapshot.node.bind (·.location)).or (snapshot.exception.bind (·.location))
  | _ => none

end Action

namespace Session

variable {setup : Setup}

/-- An action that stops evaluation saves its frames, the caller first, and its place. -/
private theorem saved_of_stopping {s s' : Session} {a : Action} (h : s.perform setup a = (s', .waiting .resume)) :
    s'.saved.map (·.stack) = some a.stack.reverse ∧ Adapter.pausePlace s' = a.place := by
  have hfree := free_of_waiting h
  cases a with
  | hook hook =>
    cases hook with
    | enter node scope =>
      simp only [perform, announce, enter_of_free hfree] at h
      cases hstop : { s with depth := s.depth + 1 }.stopAt setup node with
      | none =>
        rw [hstop] at h
        cases h
      | some what =>
        simp only [hstop] at h
        rw [awaitIf_halt (s := { s with depth := s.depth + 1 }) hfree.2.2] at h
        cases h
        exact ⟨rfl, Option.or_none⟩
    | exception e =>
      simp only [perform, announce, raise, hfree.1, Bool.false_eq_true, ↓reduceIte, stop_of_free hfree] at h
      rw [awaitIf_halt hfree.2.2] at h
      cases h
      exact ⟨rfl, Option.none_or⟩
    | leave => cases h
    | log level text => cases h
  | stop what snapshot =>
    simp only [perform, stop_of_free hfree] at h
    rw [awaitIf_halt hfree.2.2] at h
    cases h
    refine ⟨?_, rfl⟩
    rw [Action.stack, List.reverse_reverse]
    rfl
  | awaitStart =>
    rcases await_cases s .start with ⟨outcome, -, hs⟩ | ⟨-, hs⟩
    · simp [perform, hs] at h
    · simp [perform, hs] at h
  | exit code =>
    rcases await_cases (s.announceExit setup code) (.disconnect code) with ⟨outcome, -, hs⟩ | ⟨-, hs⟩
    · simp [perform, hs] at h
    · simp [perform, hs] at h
  | _ => cases h

end Session

namespace Engine

variable (setup : Setup)

/-- The actions that evaluation has ahead when an operation comes: those that are left of the outstanding call, or else
those of the call that the operation begins. -/
def ahead (e : Engine) (op : Operation) : List Action :=
  match e.call, op with
  | some (_, rest), _ => rest
  | none, .call actions => actions
  | none, _ => []

/-- An action among those ahead has stopped evaluation, and those after it are left. -/
structure StoppedBy (actions : List Action) (next : Engine) (a : Action) : Prop where
  split : ∃ done rest, actions = done ++ a :: rest ∧ next.call = some (.resume, rest)
  performed : ∃ s : Session, s.perform setup a = (next.session, .waiting .resume)

private theorem stoppedBy_proceed {e : Engine} {s : Session} {outcome : Outcome} {actions : List Action}
    (h : (e.proceed setup s outcome actions).1.waiting = some .resume) :
    ∃ a, StoppedBy setup actions (e.proceed setup s outcome actions).1 a := by
  obtain ⟨⟨w, rest⟩, hcall, rfl⟩ := Option.map_eq_some_iff.1 h
  obtain ⟨t, done, a, hactions, hperform⟩ := exists_of_call_proceed hcall
  exact ⟨a, ⟨done, rest, hactions, hcall⟩, ⟨t, hperform⟩⟩

/-- A step that stops evaluation does so by one of the actions ahead. -/
private theorem stoppedBy_step {e : Engine} {op : Operation} (h : (e.step setup op).1.session.stops ≠ e.session.stops) :
    ∃ a, StoppedBy setup (e.ahead op) (e.step setup op).1 a := by
  have hparked : (e.step setup op).1.waiting = some .resume := by
    rcases step_saved setup e op with ⟨hstops, -⟩ | ⟨-, hhalted⟩
    · exact absurd hstops h
    · exact hhalted.parked
  rcases step_cases setup e op with ⟨actions, rfl⟩ | rfl | hs
  · rcases step_call_cases setup e actions with ⟨hcall, hs⟩ | ⟨call, a, -, -, hi, hs⟩ | ⟨-, hs⟩
    · have hahead : e.ahead (.call actions) = actions := by simp only [ahead, hcall]
      rw [hs] at hparked ⊢
      rw [hahead]
      exact stoppedBy_proceed setup hparked
    · rw [hs] at h
      exact absurd (Session.steady_immediate hi setup).stops h
    · rw [hs] at h
      exact absurd rfl h
  · rcases step_graceExpires_cases setup e with hs | ⟨code, rest, hcall, hs⟩
    · rw [hs] at h
      exact absurd rfl h
    · have hahead : e.ahead .graceExpires = rest := by simp only [ahead, hcall]
      rw [hs] at hparked ⊢
      rw [hahead]
      exact stoppedBy_proceed setup hparked
  · rw [hs] at h hparked ⊢
    rcases settle_cases setup (e.serve op).1 with ⟨-, hsettle⟩ | ⟨w, rest, outcome, hcall, -, hsettle⟩
    · rw [hsettle] at h
      exact absurd (e.silent_serve op).stops h
    · have hahead : e.ahead op = rest := by simp only [ahead, ← serve_call e op, hcall]
      rw [hsettle] at hparked ⊢
      rw [hahead]
      exact stoppedBy_proceed setup hparked

/-- Which action stopped evaluation is told by the actions that are left. -/
private theorem StoppedBy.eq {actions : List Action} {next : Engine} {a b : Action} (h : StoppedBy setup actions next a)
    (h' : ∃ done rest, actions = done ++ b :: rest ∧ next.call = some (.resume, rest)) : a = b := by
  obtain ⟨done, rest, hahead, hcall⟩ := h.split
  obtain ⟨done', rest', hahead', hcall'⟩ := h'
  obtain ⟨-, rfl⟩ := Prod.mk.inj (Option.some.inj (hcall.symm.trans hcall'))
  have happend := List.append_inj' (hahead.symm.trans hahead') rfl
  exact (List.cons.inj happend.2).1

end Engine

/-! ### The frames that are shown -/

/-- A frame is shown under a number. -/
structure FrameView.Shows (view : FrameView) (id : Nat) (frame : Frame) : Prop where
  id : view.id = id
  name : view.name = frame.name
  line : frame.line < 0x8000000000000000 → view.line = frame.line
  source : ∀ path ∈ frame.file, view.source = some (Source.ofPath path)

namespace Adapter

/-- The frame that stands for a stack that is not known. -/
def placeholder (a : Adapter) : FrameView := ⟨0, "unknown", 1, a.sourceOf none⟩

/-- Frames show a stack, innermost first. An empty stack is shown by its place, or else by a placeholder. -/
def ShowsStack (a : Adapter) (frames : List FrameView) (stack : List Frame) (place : Option Location) : Prop :=
  match stack, place with
  | [], none => frames = [a.placeholder]
  | [], some place => ∃ view, frames = [view] ∧ view.Shows 1 ⟨"main", some place.file, place.line⟩
  | f :: fs, _ => List.Forall₂ (fun view entry => view.Shows entry.2 entry.1) frames ((f :: fs).zipIdx 1)

variable {a : Adapter}

private theorem signedLine_of_lt {line : Nat} (h : line < 0x8000000000000000) : signedLine line = line := by
  have hsize : (UInt64.size : Int) = 0x10000000000000000 := rfl
  unfold signedLine
  exact Int.bmod_eq_of_le (by omega) (by omega)

private theorem shows_view (a : Adapter) (id : Nat) (frame : Frame) :
    FrameView.Shows ⟨id, frame.name, signedLine frame.line, a.sourceOf frame.file⟩ id frame := by
  refine ⟨rfl, rfl, fun h => ?_, fun path hpath => ?_⟩
  · dsimp only
    rw [signedLine_of_lt h]
  · rw [Option.mem_def] at hpath
    show a.sourceOf frame.file = some (Source.ofPath path)
    rw [hpath]
    rfl

private theorem stackFrames_of_not_saved (h : a.session.saved = none) : a.stackFrames = [a.placeholder] := by
  simp only [stackFrames, pausePlace, h]
  rfl

/-- The frames that are shown are those of what was saved, the other way round. -/
private theorem showsStack_of_saved {stack : List Frame} {place : Option Location}
    (hstack : a.session.saved.map (·.stack) = some stack.reverse) (hplace : pausePlace a.session = place) :
    a.ShowsStack a.stackFrames stack place := by
  have helim : a.session.saved.elim [] (·.stack) = stack.reverse := by
    obtain ⟨snapshot, hsaved, hs⟩ := Option.map_eq_some_iff.1 hstack
    rw [hsaved, Option.elim_some, hs]
  simp only [stackFrames, helim, hplace]
  cases stack with
  | nil =>
    cases place with
    | none => exact rfl
    | some place => exact ⟨_, rfl, shows_view a 1 ⟨"main", some place.file, place.line⟩⟩
  | cons f fs =>
    -- the saved frames are those of the stack the other way round, so there is one of them
    split
    · rename_i hnil
      rw [List.reverse_eq_nil_iff] at hnil
      cases hnil
    · rw [List.reverse_reverse, List.mapIdx_eq_zipIdx_map]
      show List.Forall₂ _ _ ((f :: fs).zipIdx 1)
      rw [List.zipIdx_succ, List.forall₂_map_left_iff, List.forall₂_map_right_iff]
      exact List.forall₂_same.2 fun entry _ => shows_view a (entry.2 + 1) entry.1

end Adapter

/-! ### Pauses -/

namespace Adapter

variable (setup : Setup) (interpreter : Interpreter)

/-- The actions that evaluation has ahead when an input comes. -/
def ahead (a : Adapter) (i : Input) : List Action :=
  match a.operationsOf interpreter i with
  | [op] => a.engine.ahead op
  | _ => []

/-- A pause that an action began lasts: at one of the inputs the action stopped evaluation, and no resume was granted
since. -/
def PausedBy (files : Files) (inputs : List Input) (action : Action) : Prop :=
  ∃ before i later, inputs = before ++ i :: later ∧
    let a := (new setup files).run setup interpreter before
    let next := (a.take setup interpreter i).1
    next.session.stops ≠ a.session.stops ∧
      (∃ done rest, a.ahead interpreter i = done ++ action :: rest ∧ next.engine.call = some (.resume, rest)) ∧
      Unresumed setup interpreter next later

variable {a : Adapter}

private theorem unresumed_append {inputs more : List Input} (h : Unresumed setup interpreter a inputs)
    (h' : Unresumed setup interpreter (a.run setup interpreter inputs) more) :
    Unresumed setup interpreter a (inputs ++ more) := by
  induction inputs generalizing a with
  | nil => exact h'
  | cons i inputs ih => exact ⟨h.1, ih h.2 h'⟩

/-- An input that stops evaluation does so by one of the actions ahead. -/
private theorem stoppedBy_take (hset : a.engine.Settled) {i : Input}
    (h : (a.take setup interpreter i).1.session.stops ≠ a.session.stops) :
    ∃ action, Engine.StoppedBy setup (a.ahead interpreter i) (a.take setup interpreter i).1.engine action := by
  rw [session, session, take_engine setup interpreter hset i] at h
  rw [take_engine setup interpreter hset i]
  rcases operationsOf_cases setup interpreter a i with ⟨op, hops, -, -⟩ | ⟨hops, -⟩
  · have hahead : a.ahead interpreter i = a.engine.ahead op := by simp only [ahead, hops]
    rw [hahead]
    rw [hops] at h ⊢
    exact Engine.stoppedBy_step setup h
  · rw [hops, Engine.run_cache setup hset] at h
    exact absurd rfl h

/-- As long as no resume is granted, a snapshot is kept with the values that are handed out. -/
private theorem saved_run (hset : a.engine.Settled) (hheld : a.engine.Held) {inputs : List Input}
    (h : Unresumed setup interpreter a inputs) :
    ∃ vs, (a.run setup interpreter inputs).session.saved = (a.session.handOut vs).saved := by
  induction inputs generalizing a with
  | nil => exact ⟨[], by rw [Session.handOut_nil]; rfl⟩
  | cons i inputs ih =>
    obtain ⟨hheld', hstops⟩ := held_take setup interpreter hset hheld h.1
    have hkept : (a.take setup interpreter i).1.session.saved = (a.session.handOut (a.kept interpreter i)).saved := by
      rcases take_saved setup interpreter hset i with ⟨-, hs⟩ | ⟨hne, -⟩
      · rwa [h.1] at hs
      · exact absurd hstops hne
    obtain ⟨vs, hvs⟩ := ih (settled_take setup interpreter hset i) hheld' h.2
    refine ⟨a.kept interpreter i ++ vs, ?_⟩
    rw [run_cons, hvs, ← Session.handOut_handOut, Session.handOut, Session.handOut, hkept]

/-- From a resume that is granted up to the next stop there is no snapshot. -/
private theorem not_saved_of_grants (hset : a.engine.Settled) {i : Input} {later : List Input}
    (hgrants : i.grants (a.take setup interpreter i).2 = true)
    (hstops : ((a.take setup interpreter i).1.run setup interpreter later).session.stops = a.session.stops) :
    ((a.take setup interpreter i).1.run setup interpreter later).session.saved = none := by
  have hset' := settled_take setup interpreter hset i
  have hprefix := stops_prefix_take setup interpreter hset i
  have hprefix' := stops_prefix_inputs setup interpreter hset' later
  rw [hstops] at hprefix'
  have hsame := hprefix'.eq_of_length_le hprefix.length_le
  refine not_saved_run setup interpreter hset' ?_ (hstops.trans hsame.symm)
  rcases take_saved setup interpreter hset i with ⟨-, hs⟩ | ⟨hne, -⟩
  · rwa [hgrants] at hs
  · exact absurd hsame hne

variable (files : Files)

/-- While a pause lasts, what was saved are the frames and the place of the action that began it. -/
private theorem saved_of_pausedBy {inputs : List Input} {action : Action}
    (h : PausedBy setup interpreter files inputs action) :
    let s := ((new setup files).run setup interpreter inputs).session
    s.saved.map (·.stack) = some action.stack.reverse ∧ pausePlace s = action.place := by
  intro s
  obtain ⟨before, i, later, hinputs, hstop, hsplit, hlater⟩ := h
  have hset := settled_run setup interpreter files before
  have hrun : ((((new setup files).run setup interpreter before).take setup interpreter i).1) =
      (new setup files).run setup interpreter (before ++ [i]) := by
    rw [run_append]
    rfl
  have hs : s = ((((new setup files).run setup interpreter before).take setup interpreter i).1.run setup interpreter
      later).session := by
    simp only [s, hinputs, run_append]
    rfl
  obtain ⟨action', hstopped⟩ := stoppedBy_take setup interpreter hset hstop
  obtain rfl := hstopped.eq setup hsplit
  obtain ⟨t, hperform⟩ := hstopped.performed
  obtain ⟨hstack, hplace⟩ := Session.saved_of_stopping hperform
  have hheld : (((new setup files).run setup interpreter before).take setup interpreter i).1.engine.Held := by
    obtain ⟨-, hhalted⟩ := (take_saved setup interpreter hset i).resolve_left fun hsame => hstop hsame.1
    refine hhalted.held ?_
    rw [hrun]
    exact mirrored_run setup interpreter files (before ++ [i])
  obtain ⟨vs, hvs⟩ := saved_run setup interpreter (settled_take setup interpreter hset i) hheld hlater
  rw [← hs, Session.handOut] at hvs
  rw [← hstack, ← hplace, pausePlace, pausePlace, hvs]
  simp only [session, Option.map_map]
  refine ⟨rfl, ?_⟩
  cases (((new setup files).run setup interpreter before).take setup interpreter i).1.engine.session.saved <;> rfl

/-- A snapshot is there only while a pause lasts. -/
private theorem exists_pausedBy {inputs : List Input}
    (h : ((new setup files).run setup interpreter inputs).session.saved.isSome = true) :
    ∃ action, PausedBy setup interpreter files inputs action := by
  induction inputs using List.reverseRecOn with
  | nil => cases h
  | append_singleton inputs i ih =>
    have hset := settled_run setup interpreter files inputs
    rw [run_append] at h
    by_cases hstop : (((new setup files).run setup interpreter inputs).take setup interpreter i).1.session.stops =
        ((new setup files).run setup interpreter inputs).session.stops
    · rcases take_saved setup interpreter hset i with ⟨-, hs⟩ | ⟨hne, -⟩
      · have hgrants :
            i.grants (((new setup files).run setup interpreter inputs).take setup interpreter i).2 = false := by
          rw [Bool.eq_false_iff]
          intro hgrants
          rw [hgrants] at hs
          have hnone : ((new setup files).run setup interpreter inputs |>.run setup interpreter [i]).session.saved =
              none := hs
          rw [hnone] at h
          cases h
        rw [hgrants] at hs
        have hsome : ((new setup files).run setup interpreter inputs).session.saved.isSome = true := by
          have hi : ((new setup files).run setup interpreter inputs |>.run setup interpreter [i]).session.saved =
              _ := hs
          rw [hi] at h
          simpa [Session.handOut] using h
        obtain ⟨action, before, j, later, hinputs, hstopped, hsplit, hlater⟩ := ih hsome
        refine ⟨action, before, j, later ++ [i], by rw [hinputs]; simp, hstopped, hsplit, ?_⟩
        refine unresumed_append setup interpreter hlater ⟨?_, trivial⟩
        rw [hinputs, run_append] at hgrants
        exact hgrants
      · exact absurd hstop hne
    · obtain ⟨action, hstopped⟩ := stoppedBy_take setup interpreter hset hstop
      exact ⟨action, inputs, i, [], rfl, hstop, hstopped.split, trivial⟩

/-! ### Pauses and the paused flag -/

omit setup in
/-- A request sets or resets no paused flag directly. -/
private theorem mem_operationsOf {i : Input} {op : Operation} (h : op ∈ a.operationsOf interpreter i) :
    i = .operation op ∨ op ≠ .assert .paused ∧ op ≠ .clear .paused := by
  cases i with
  | operation op' =>
    left
    rw [List.mem_singleton.1 h]
  | request r =>
    right
    have hcache : ∀ vs : List Value, op ∈ vs.map .cache → op ≠ .assert .paused ∧ op ≠ .clear .paused := by
      intro vs hmem
      obtain ⟨v, -, rfl⟩ := List.mem_map.1 hmem
      simp
    obtain ⟨seq, command⟩ := r
    cases command with
    | launch data =>
      simp only [operationsOf, operations] at h
      split at h
      · rw [List.mem_singleton.1 h]
        simp
      · cases h
    | setBreakpoints source breakpoints lines =>
      simp only [operationsOf, operations] at h
      cases hpath : source.path with
      | none =>
        rw [hpath] at h
        cases h
      | some path =>
        rw [hpath] at h
        rw [List.mem_singleton.1 h]
        simp
    | setFunctionBreakpoints names =>
      rw [List.mem_singleton.1 h]
      simp
    | configurationDone =>
      rw [List.mem_singleton.1 h]
      simp
    | resume command =>
      rw [List.mem_singleton.1 h]
      simp
    | disconnect =>
      rw [List.mem_singleton.1 h]
      simp
    | _ => exact hcache _ h

/-- As long as the paused flag is not changed directly, it is set just while there is a snapshot. -/
private theorem rendezvous_inputs {inputs : List Input} (hassert : Input.operation (.assert .paused) ∉ inputs)
    (hclear : Input.operation (.clear .paused) ∉ inputs) (hset : a.engine.Settled)
    (h : Engine.Rendezvous a.engine.waiting a.session) :
    Engine.Rendezvous (a.run setup interpreter inputs).engine.waiting (a.run setup interpreter inputs).session := by
  induction inputs generalizing a with
  | nil => exact h
  | cons i inputs ih =>
    rw [List.mem_cons, not_or] at hassert hclear
    refine ih hassert.2 hclear.2 (settled_take setup interpreter hset i) ?_
    rw [session, take_engine setup interpreter hset i]
    refine (Engine.rendezvous_kept setup).run (fun op hop e => ?_) h
    have hne : op ≠ .assert .paused ∧ op ≠ .clear .paused := by
      rcases mem_operationsOf interpreter hop with rfl | hne
      · refine ⟨?_, ?_⟩
        · rintro rfl
          exact hassert.1 rfl
        · rintro rfl
          exact hclear.1 rfl
      · exact hne
    exact Engine.rendezvous_serve hne.1 hne.2

/-! ### The answer at every moment -/

/-- At every moment a request for the stack is answered by at least one frame and their number. While a pause lasts that
an action began, what is saved is its stack, the caller first, and the answer shows the stack the other way round, or
its place. When no pause lasts, in particular from a resume that is granted up to the next stop, there is only the
placeholder. Unless the paused flag is changed directly, it is set just while a pause lasts. -/
theorem stackTrace_shows_pause (inputs : List Input) :
    let a := (new setup files).run setup interpreter inputs
    ∃ frames : List FrameView, frames ≠ [] ∧
      (∀ seq, a.handle setup interpreter ⟨seq, .stackTrace⟩ =
        (a, .response ⟨seq, .ok (Command.stackTrace.name, .stackTrace frames)⟩)) ∧
      (Body.stackTrace frames).toJson? =
        some (.obj [("stackFrames", .arr (frames.map FrameView.toJson)), ("totalFrames", .int frames.length)]) ∧
      (∀ action, PausedBy setup interpreter files inputs action →
        a.session.saved.map (·.stack) = some action.stack.reverse ∧ a.ShowsStack frames action.stack action.place) ∧
      ((¬ ∃ action, PausedBy setup interpreter files inputs action) → frames = [a.placeholder]) ∧
      (∀ before i later, inputs = before ++ i :: later →
        i.grants (((new setup files).run setup interpreter before).take setup interpreter i).2 = true →
        a.session.stops = ((new setup files).run setup interpreter before).session.stops → frames = [a.placeholder]) ∧
      (Input.operation (.assert .paused) ∉ inputs → Input.operation (.clear .paused) ∉ inputs →
        (a.session.isSet .paused = true ↔ ∃ action, PausedBy setup interpreter files inputs action)) := by
  intro a
  have hpaused : ∀ action, PausedBy setup interpreter files inputs action →
      a.session.saved.map (·.stack) = some action.stack.reverse ∧ pausePlace a.session = action.place := fun action =>
    saved_of_pausedBy setup interpreter files
  have hsome : (∃ action, PausedBy setup interpreter files inputs action) ↔ a.session.saved.isSome = true := by
    constructor
    · rintro ⟨action, haction⟩
      rw [← Option.isSome_map, (hpaused action haction).1]
      rfl
    · exact exists_pausedBy setup interpreter files
  refine ⟨a.stackFrames, ?_, fun seq => rfl, rfl, fun action haction => ?_, fun hnone => ?_,
    fun before i later hinputs hgrants hstops => ?_, fun hassert hclear => ?_⟩
  · unfold stackFrames
    split
    · split <;> simp
    · rename_i hne
      rw [ne_eq, List.mapIdx_eq_nil_iff, List.reverse_eq_nil_iff]
      exact hne
  · obtain ⟨hstack, hplace⟩ := hpaused action haction
    exact ⟨hstack, showsStack_of_saved hstack hplace⟩
  · rw [hsome, Bool.not_eq_true, Option.isSome_eq_false_iff, Option.isNone_iff_eq_none] at hnone
    exact stackFrames_of_not_saved hnone
  · have hset := settled_run setup interpreter files before
    have hrun : a = (((new setup files).run setup interpreter before).take setup interpreter i).1.run setup interpreter
        later := by
      simp only [a, hinputs, run_append]
      rfl
    refine stackFrames_of_not_saved ?_
    rw [hrun] at hstops ⊢
    exact not_saved_of_grants setup interpreter hset hgrants hstops
  · have hrendezvous : Engine.Rendezvous a.engine.waiting a.session :=
      rendezvous_inputs setup interpreter hassert hclear (Engine.settled_new setup files) ⟨rfl, rfl, fun _ => rfl⟩
    rw [Session.isSet_paused, hsome, hrendezvous.saved]

/-- A program stops in a function, and then at an exception that is raised where no frame is active. The first stack is
shown with its two frames, and the second one by the place of the exception. -/
theorem stack_and_place_shown :
    let scope : Scope := { stack := [⟨"inner", some "/lib.pp", 3⟩, ⟨"main", none, 1⟩] }
    let called : Node := { id := 0, kind := "CallExpression", function := some "debug::break" }
    let failed : Exception := { message := "no such file", location := some ⟨"/site.pp", 7, 40, 2⟩ }
    let interpreter := Interpreter.scripted [.enter called scope, .leave, .exception failed] (.ok 0) []
    let files := ({} : Files).write "/site.pp" []
    let launch : List Input := [.request ⟨1, .configurationDone⟩,
      .request ⟨2, .launch (some (.obj [("manifest", .str "/site.pp")]))⟩]
    let resume : List Input := launch ++ [.request ⟨3, .resume .continue⟩]
    let a := (new {} files).run {} interpreter launch
    let a' := (new {} files).run {} interpreter resume
    (PausedBy {} interpreter files launch (.hook (.enter called scope)) ∧
        PausedBy {} interpreter files resume (.hook (.exception failed))) ∧
      (∃ frames, (a.handle {} interpreter ⟨4, .stackTrace⟩).2 =
          .response ⟨4, .ok (Command.stackTrace.name, .stackTrace frames)⟩ ∧
        a.ShowsStack frames [⟨"inner", some "/lib.pp", 3⟩, ⟨"main", none, 1⟩] none) ∧
      ∃ view, (a'.handle {} interpreter ⟨4, .stackTrace⟩).2 =
          .response ⟨4, .ok (Command.stackTrace.name, .stackTrace [view])⟩ ∧
        view.name = "main" ∧ view.line = 7 := by
  intro scope called failed interpreter files launch resume a a'
  have hentered : PausedBy {} interpreter files launch (.hook (.enter called scope)) := by
    refine ⟨[.request ⟨1, .configurationDone⟩], _, [], rfl, ?_, ?_, trivial⟩
    · decide +kernel
    · exact ⟨[.prepare "/site.pp", .awaitStart, .begin], [.hook .leave, .hook (.exception failed), .exit 0], rfl, rfl⟩
  have hraised : PausedBy {} interpreter files resume (.hook (.exception failed)) := by
    refine ⟨launch, _, [], rfl, ?_, ?_, trivial⟩
    · decide +kernel
    · exact ⟨[.hook .leave], [.exit 0], rfl, rfl⟩
  obtain ⟨frames, -, hanswer, -, hshown, -⟩ := stackTrace_shows_pause {} interpreter files launch
  obtain ⟨frames', -, hanswer', -, hshown', -⟩ := stackTrace_shows_pause {} interpreter files resume
  refine ⟨⟨hentered, hraised⟩, ⟨frames, congrArg Prod.snd (hanswer 4), (hshown _ hentered).2⟩, ?_⟩
  obtain ⟨view, rfl, hshows⟩ := (hshown' _ hraised).2
  exact ⟨view, congrArg Prod.snd (hanswer' 4), hshows.name, hshows.line (by decide)⟩

end Adapter

end Debugger
