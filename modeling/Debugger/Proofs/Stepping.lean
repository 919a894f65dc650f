import Debugger.Proofs.Scan

/-!
# The engine stops where the scan does

`halts_eq_scan`: a script that is carried out right after evaluation began stops just where the plain scan says, for the
same reasons, with the same nodes and depths, whatever the client does at the stops. While evaluation goes on, the depth
of the session is the nesting level, and it survives a stop, since the snapshot has the same depth.
-/

namespace Debugger

/-! ### Levels and depths -/

private theorem nesting_enter {before : List Hook} (h : before.countP Hook.leaves ≤ before.countP Hook.enters)
    (node : Node) (scope : Scope) : nesting (before ++ [.enter node scope]) = nesting before + 1 := by
  simp only [nesting, List.countP_append, List.countP_singleton, Hook.enters, Hook.leaves]
  simp
  omega

private theorem nesting_leave (before : List Hook) : nesting (before ++ [.leave]) = nesting before - 1 := by
  simp only [nesting, List.countP_append, List.countP_singleton, Hook.enters, Hook.leaves]
  simp
  omega

private theorem nesting_exception (before : List Hook) (e : Exception) :
    nesting (before ++ [.exception e]) = nesting before := by
  simp [nesting, Hook.enters, Hook.leaves]

private theorem nesting_log (before : List Hook) (level : LogLevel) (text : String) :
    nesting (before ++ [.log level text]) = nesting before := by
  simp [nesting, Hook.enters, Hook.leaves]

/-- A script goes on after others without leaving more nodes than were entered. -/
private def Continues (before script : List Hook) : Prop :=
  ∀ part, part <+: script → (before ++ part).countP Hook.leaves ≤ (before ++ part).countP Hook.enters

private theorem continues_of_wellBracketed {script : List Hook} (h : WellBracketed script) : Continues [] script :=
  fun part hp => h part ((List.mem_inits part script).2 hp)

private theorem Continues.le {before script : List Hook} (h : Continues before script) :
    before.countP Hook.leaves ≤ before.countP Hook.enters := by
  simpa using h [] List.nil_prefix

private theorem Continues.tail {before script : List Hook} {hook : Hook} (h : Continues before (hook :: script)) :
    Continues (before ++ [hook]) script := by
  intro part hp
  have hc := h (hook :: part) ((List.prefix_cons_inj hook).2 hp)
  rwa [List.append_cons] at hc

/-! ### One announcement -/

private theorem Registry.isSome_findLine (r : Registry) (file : String) (first last : Nat) :
    (r.findLine file first last).isSome = (r.linesOf file).any fun line => first ≤ line && line ≤ last := by
  unfold findLine
  rw [Bool.eq_iff_iff, List.find?_isSome, List.any_eq_true]

/-- A session in which evaluation goes on, at the depth that the announcements before have led to. -/
structure Going (before : List Hook) (s : Session) : Prop where
  free : s.Free
  depth : s.depth = nesting before

/-- A session in which evaluation was stopped at a point. -/
structure Stopped (reason : StopReason) (p : Point) (s s' : Session) : Prop where
  paused : s'.flags.paused = true
  terminate : s'.flags.terminate = false
  ended : s'.ended = false
  token : s'.signals.resume = false
  depth : s'.depth = p.level
  breakpoints : s'.breakpoints = s.breakpoints
  saved : ∃ snapshot, s'.saved = some snapshot ∧ snapshot.node = p.hook.node? ∧ snapshot.depth = p.level
  stops : ∃ what, what.reason = reason ∧ s'.stops = s.stops ++ [what]

private theorem stopped_halt {s : Session} (h : s.Free) (setup : Setup) {p : Point} (what : Stop)
    (snapshot : Snapshot) (hnode : snapshot.node = p.hook.node?) (hsnapshot : snapshot.depth = p.level) {depth : Nat}
    (hdepth : depth = p.level) : Stopped what.reason p s ({ s with depth }.halt setup what snapshot) where
  paused := rfl
  terminate := h.2.1
  ended := h.2.2
  token := rfl
  depth := hdepth
  breakpoints := rfl
  saved := ⟨_, rfl, hnode, hsnapshot⟩
  stops := ⟨what, rfl, Session.stops_halt setup what snapshot _⟩

/-- A session in which evaluation has gone on past some announcements. -/
structure Passed (before : List Hook) (s s' : Session) : Prop extends Going before s' where
  breakpoints : s'.breakpoints = s.breakpoints
  mode : s'.mode = s.mode
  stops : s'.stops = s.stops

private theorem isSome_functionBreakpoint (node : Node) (s : Session) :
    (s.functionBreakpoint node).isSome = s.breakpoints.hitsFunction node := by
  unfold Session.functionBreakpoint Registry.hitsFunction
  cases node.function with
  | none => rfl
  | some name => cases h : s.breakpoints.hasFunction name <;> simp [Option.filter, h]

private theorem isSome_lineBreakpoint (setup : Setup) (node : Node) (s : Session) :
    (s.lineBreakpoint setup node).isSome = s.breakpoints.hitsLine setup node := by
  unfold Session.lineBreakpoint Registry.hitsLine
  cases node.location with
  | none => rfl
  | some place =>
    rw [Option.any_some, ← Registry.isSome_findLine]
    by_cases hl : place.length = 0
    · simp [hl]
    · cases hc : setup.carriesBreakpoint node with
      | false => simp [hl]
      | true => cases hf : s.breakpoints.findLine place.file place.line (node.endLine place) <;> simp [hl, hf]

/-- The session stops at a node for the reason that the scan sees. -/
private theorem stopAt_reason (setup : Setup) (node : Node) (scope : Scope) (s : Session) :
    (s.stopAt setup node).map (·.reason) =
      Point.reason? setup s.breakpoints (fun n => s.mode.pausesAt n) ⟨.enter node scope, s.depth⟩ := by
  unfold Session.stopAt Point.reason?
  simp only [← isSome_functionBreakpoint, ← isSome_lineBreakpoint]
  cases s.functionBreakpoint node with
  | some name => rfl
  | none =>
    cases s.lineBreakpoint setup node with
    | some found => rfl
    | none =>
      simp only [Option.isSome_none, Bool.false_eq_true, ↓reduceIte]
      split <;> rfl

/-- An announcement stops evaluation just where the scan has a reason for a stop. -/
private theorem perform_point (setup : Setup) {before : List Hook} {s : Session} (h : Going before s)
    (hle : before.countP Hook.leaves ≤ before.countP Hook.enters) (hook : Hook) :
    match Point.reason? setup s.breakpoints (fun n => s.mode.pausesAt n) ⟨hook, nesting (before ++ [hook])⟩ with
    | none => ∃ s', s.perform setup (.hook hook) = (s', .done .completed) ∧ Passed (before ++ [hook]) s s'
    | some reason => ∃ s', s.perform setup (.hook hook) = (s', .waiting .resume) ∧
        Stopped reason ⟨hook, nesting (before ++ [hook])⟩ s s' := by
  cases hook with
  | enter node scope =>
    have hlevel := nesting_enter hle node scope
    have hdepth : s.depth + 1 = nesting (before ++ [.enter node scope]) := by rw [hlevel, h.depth]
    have hreason := stopAt_reason setup node scope { s with depth := s.depth + 1 }
    rw [← hdepth]
    cases hstop : { s with depth := s.depth + 1 }.stopAt setup node with
    | none =>
      rw [hstop] at hreason
      rw [← hreason]
      refine ⟨{ s with depth := s.depth + 1 }, ?_, ⟨h.free, hdepth⟩, rfl, rfl, rfl⟩
      simp only [Session.perform, Session.announce, Session.enter_of_free h.free, hstop]
      rfl
    | some what =>
      rw [hstop] at hreason
      rw [← hreason]
      let snapshot := { s with depth := s.depth + 1 }.snapshotAt node scope
      refine ⟨{ s with depth := s.depth + 1 }.halt setup what snapshot, ?_,
        stopped_halt h.free setup what snapshot rfl rfl rfl⟩
      simp only [Session.perform, Session.announce, Session.enter_of_free h.free, hstop]
      exact Session.awaitIf_halt (s := { s with depth := s.depth + 1 }) h.free.2.2 setup what snapshot
  | leave =>
    refine ⟨{ s with depth := s.depth - 1 }, ?_, ⟨h.free, ?_⟩, rfl, rfl, rfl⟩
    · simp only [Session.perform, Session.announce, Session.leave, h.free.1, Bool.false_eq_true, ↓reduceIte]
      rfl
    · show s.depth - 1 = _
      rw [nesting_leave, h.depth]
  | exception e =>
    have hdepth : s.depth = nesting (before ++ [.exception e]) := by rw [nesting_exception, h.depth]
    let snapshot : Snapshot := { exception := some e, stack := e.stack.reverse, depth := s.depth }
    refine ⟨s.halt setup (.onException e.message) snapshot, ?_,
      stopped_halt h.free setup (.onException e.message) snapshot rfl hdepth hdepth⟩
    simp only [Session.perform, Session.announce, Session.raise, h.free.1, Bool.false_eq_true, ↓reduceIte,
      Session.stop_of_free h.free]
    exact Session.awaitIf_halt h.free.2.2 setup _ snapshot
  | log level text =>
    have hdepth : s.depth = nesting (before ++ [.log level text]) := by rw [nesting_log, h.depth]
    refine ⟨s.log level text, rfl, ?_⟩
    rcases Session.log_cases level text s with hs | hs
    · rw [hs]
      exact ⟨⟨h.free, hdepth⟩, rfl, rfl, rfl⟩
    · rw [hs]
      exact ⟨⟨h.free, hdepth⟩, rfl, rfl, (Session.steady_record s rfl).stops⟩

/-! ### A script -/

private theorem Stopped.of_passed {before : List Hook} {reason : StopReason} {p : Point} {s s' s'' : Session}
    (h : Passed before s s') (h' : Stopped reason p s' s'') : Stopped reason p s s'' where
  paused := h'.paused
  terminate := h'.terminate
  ended := h'.ended
  token := h'.token
  depth := h'.depth
  breakpoints := h'.breakpoints.trans h.breakpoints
  saved := h'.saved
  stops := h.stops ▸ h'.stops

/-- A script is carried out up to the first point where the scan stops, and to its end if there is none. -/
private theorem advance_points (setup : Setup) {before script : List Hook} {s : Session} (h : Going before s)
    (hc : Continues before script) :
    match firstStop (Point.reason? setup s.breakpoints fun n => s.mode.pausesAt n) (points before script) with
    | none => ∃ s', s.advance setup .completed (script.map .hook) = (s', .finished .completed) ∧
        s'.flags.paused = false ∧ s'.stops = s.stops
    | some (reason, p, rest) => ∃ mid left s', rest = points mid left ∧ Continues mid left ∧ p.level = nesting mid ∧
        s.advance setup .completed (script.map .hook) = (s', .blocked .resume (left.map .hook)) ∧
        Stopped reason p s s' := by
  induction script generalizing before s with
  | nil => exact ⟨s, rfl, h.free.1, rfl⟩
  | cons hook script ih =>
    have hpoint := perform_point setup h hc.le hook
    simp only [points, firstStop, List.map_cons, Session.advance]
    cases hr : Point.reason? setup s.breakpoints (fun n => s.mode.pausesAt n) ⟨hook, nesting (before ++ [hook])⟩ with
    | some reason =>
      rw [hr] at hpoint
      obtain ⟨s', hs, hstopped⟩ := hpoint
      exact ⟨before ++ [hook], script, s', rfl, hc.tail, rfl, by rw [hs], hstopped⟩
    | none =>
      rw [hr] at hpoint
      obtain ⟨s', hs, hpassed⟩ := hpoint
      -- past this point the breakpoints and the mode are those of before, so the same points are reasons to stop
      have hrest := ih hpassed.toGoing hc.tail
      rw [hpassed.breakpoints, hpassed.mode] at hrest
      rw [hs]
      dsimp only
      split
      · rename_i hnone
        rw [hnone] at hrest
        obtain ⟨t, hadv, hpaused, hstops⟩ := hrest
        exact ⟨t, hadv, hpaused, hstops.trans hpassed.stops⟩
      · rename_i reason p rest hsome
        rw [hsome] at hrest
        obtain ⟨mid, left, t, hpts, hcont, hlevel, hadv, hstopped⟩ := hrest
        exact ⟨mid, left, t, hpts, hcont, hlevel, hadv, .of_passed hpassed hstopped⟩

/-! ### The moves of the client -/

/-- A resumed evaluation goes on where it was stopped. -/
private theorem Stopped.going_goOn {reason : StopReason} {p : Point} {s s' : Session} (h : Stopped reason p s s')
    {mid : List Hook} (hlevel : p.level = nesting mid) (r : Registry) (command : Resume) :
    Going mid (({ s' with breakpoints := r }.goOn command).takeToken .resume) where
  free := ⟨rfl, h.terminate, h.ended⟩
  depth := h.depth.trans hlevel

/-- A command begins a step at the level of the point where evaluation was stopped. -/
private theorem Stopped.pausesAt_goOn {reason : StopReason} {p : Point} {s s' : Session} (h : Stopped reason p s s')
    (r : Registry) (command : Resume) :
    (fun n => (({ s' with breakpoints := r }.goOn command).takeToken .resume).mode.pausesAt n) =
      command.completes p.level := by
  obtain ⟨snapshot, hsaved, -, hdepth⟩ := h.saved
  have hpause : { s' with breakpoints := r }.pauseDepth = p.level := by
    unfold Session.pauseDepth
    rw [hsaved]
    exact hdepth
  funext n
  show (command.mode { s' with breakpoints := r }.pauseDepth).pausesAt n = _
  rw [hpause]
  cases command <;> rfl

namespace Engine

/-- The engine with other breakpoints. -/
def withBreakpoints (e : Engine) (r : Registry) : Engine :=
  { e with session := { e.session with breakpoints := r } }

private theorem Settled.withBreakpoints {e : Engine} (h : e.Settled) (r : Registry) :
    (e.withBreakpoints r).Settled := by
  intro w hw
  have ho := h w hw
  cases w <;> exact ho

private theorem step_placement (setup : Setup) {e : Engine} (h : e.Settled) (placement : Placement) :
    (e.step setup placement.operation).1 = e.withBreakpoints (placement.place e.files e.session.breakpoints) := by
  have hsettle := settle_of_settled setup (h.withBreakpoints (placement.place e.files e.session.breakpoints))
  cases placement with
  | lines file ls => exact congrArg Prod.fst hsettle
  | functions names => exact congrArg Prod.fst hsettle

/-- Changes of the breakpoints announce no stop. -/
private theorem halts_placements (setup : Setup) {e : Engine} (h : e.Settled) (placements : List Placement)
    (ops : List Operation) :
    e.halts setup (placements.map Placement.operation ++ ops) =
      (e.withBreakpoints (placements.foldl (Placement.place e.files) e.session.breakpoints)).halts setup ops := by
  induction placements generalizing e with
  | nil => rfl
  | cons placement placements ih =>
    have hs := step_placement setup h placement
    simp only [List.map_cons, List.cons_append, halts, hs, List.foldl_cons]
    rw [ih (h.withBreakpoints _)]
    have hstops : (e.withBreakpoints (placement.place e.files e.session.breakpoints)).session.stops =
        e.session.stops := rfl
    rw [hstops, List.drop_length]
    rfl

/-- When the evaluation side has come to its end, the moves of the client lead to no stop. -/
private theorem halts_of_finished (setup : Setup) {e : Engine} (hcall : e.call = none)
    (hpaused : e.session.flags.paused = false)
    (moves : List Move) : e.halts setup (moves.flatMap Move.operations) = [] := by
  induction moves generalizing e with
  | nil => rfl
  | cons move moves ih =>
    have hset : e.Settled := by
      intro w hw
      rw [waiting, hcall] at hw
      contradiction
    rw [List.flatMap_cons, Move.operations, List.append_assoc, halts_placements setup hset]
    generalize move.placements.foldl (Placement.place e.files) e.session.breakpoints = r
    have hstep : ((e.withBreakpoints r).step setup (.resume move.command)).1 = e.withBreakpoints r := by
      show (((e.withBreakpoints r).serve (.resume move.command)).1.settle setup).1 = _
      rcases (e.withBreakpoints r).serve_resume_cases move.command with ⟨-, err, hserve⟩ | ⟨⟨-, hp⟩, -⟩
      · rw [hserve, settle_of_settled setup (hset.withBreakpoints r)]
      · have hp' : e.session.flags.paused = true := hp
        rw [hpaused] at hp'
        contradiction
    simp only [List.cons_append, List.nil_append, halts, hstep, List.drop_length, List.map_nil]
    exact ih (e := e.withBreakpoints r) hcall hpaused

/-- An evaluation side that carries out a script comes to its end without a stop, or waits at the first point where the
scan stops. -/
private theorem proceed_points (setup : Setup) {before script : List Hook} {s : Session} (h : Going before s)
    (hc : Continues before script) (e : Engine) :
    let next := (e.proceed setup s .completed (script.map .hook)).1
    let found := firstStop (Point.reason? setup s.breakpoints fun n => s.mode.pausesAt n) (points before script)
    let new := (next.session.stops.drop s.stops.length).map (Halt.of next.session)
    (found = none ∧ next.call = none ∧ next.session.flags.paused = false ∧ new = []) ∨
      ∃ reason p mid left, found = some (reason, p, points mid left) ∧ Continues mid left ∧ p.level = nesting mid ∧
        next.call = some (.resume, left.map .hook) ∧ next.files = e.files ∧ Stopped reason p s next.session ∧
        new = [p.halt reason] := by
  intro next found new
  have hadv := advance_points setup h hc
  cases hfound : found with
  | none =>
    simp only [show firstStop _ _ = none from hfound] at hadv
    obtain ⟨s', hadv, hpaused, hstops⟩ := hadv
    have hnext : next = { e with session := s', call := none } := by simp only [next, proceed, hadv]
    exact .inl ⟨rfl, by rw [hnext], by rw [hnext]; exact hpaused, by simp [new, hnext, hstops]⟩
  | some result =>
    simp only [show firstStop _ _ = some result from hfound] at hadv
    obtain ⟨mid, left, s', hrest, hcont, hlevel, hadv, hstopped⟩ := hadv
    have hnext : next = { e with session := s', call := some (.resume, left.map .hook) } := by
      simp only [next, proceed, hadv]
    refine .inr ⟨result.1, result.2.1, mid, left, by rw [← hrest], hcont, hlevel, by rw [hnext], by rw [hnext],
      by rw [hnext]; exact hstopped, ?_⟩
    obtain ⟨what, hreason, hstops⟩ := hstopped.stops
    obtain ⟨snapshot, hsaved, hnode, hdepth⟩ := hstopped.saved
    simp [new, hnext, hstops, Halt.of, Point.halt, hreason, hsaved, hnode, hdepth]

/-- From a session in which evaluation goes on, the rest of a script and the moves of the client lead to the stops that
the scan finds. -/
private theorem halts_proceed (setup : Setup) {before script : List Hook} {s : Session} (h : Going before s)
    (hc : Continues before script) (e : Engine) (moves : List Move) :
    let next := (e.proceed setup s .completed (script.map .hook)).1
    (next.session.stops.drop s.stops.length).map (.of next.session) ++
        next.halts setup (moves.flatMap Move.operations) =
      scan setup e.files s.breakpoints (fun n => s.mode.pausesAt n) (points before script) moves := by
  -- a move takes the run from one stop to the next, so the script that is left changes with each
  induction moves generalizing before script s e with
  | nil =>
    intro next
    rw [scan]
    rcases proceed_points setup h hc e with ⟨hfound, -, -, hnew⟩ | ⟨reason, p, mid, left, hfound, -, -, -, -, -, hnew⟩
    · rw [hnew, hfound]
      rfl
    · rw [hnew, hfound]
      rfl
  | cons move moves ih =>
    intro next
    rw [scan]
    rcases proceed_points setup h hc e with ⟨hfound, hcall, hpaused, hnew⟩ |
      ⟨reason, p, mid, left, hfound, hcont, hlevel, hcall, hfiles, hstopped, hnew⟩
    · rw [hnew, hfound]
      exact halts_of_finished setup hcall hpaused (move :: moves)
    · -- evaluation is stopped, so the breakpoints change first and then the resume lets the rest go on
      have hset : next.Settled := settled_proceed setup e s .completed _
      have hplaced := halts_placements setup hset move.placements
        ([.resume move.command] ++ moves.flatMap Move.operations)
      rw [hfiles, hstopped.breakpoints] at hplaced
      rw [hnew, hfound, List.flatMap_cons, Move.operations, List.append_assoc, hplaced]
      dsimp only
      generalize move.placements.foldl (Placement.place e.files) s.breakpoints = r
      have hstep := congrArg Prod.fst
        (step_resume setup (e := next.withBreakpoints r) hcall hstopped.paused hstopped.terminate move.command)
      have hrest := ih (hstopped.going_goOn hlevel r move.command) hcont (next.withBreakpoints r)
      rw [hstopped.pausesAt_goOn r move.command, show (next.withBreakpoints r).files = e.files from hfiles] at hrest
      simp only [List.cons_append, List.nil_append, halts, hstep]
      exact congrArg (p.halt reason :: ·) hrest

/-- A script that is carried out right after evaluation began leads to the stops of the scan: the first one at the
first exception or breakpoint, and after a stop, by the command that the client gave there. -/
theorem halts_eq_scan (setup : Setup) (e : Engine) (script : List Hook) (moves : List Move) (hcall : e.call = none)
    (hpaused : e.session.isSet .paused = false) (hterminate : e.session.isSet .terminate = false)
    (hscript : WellBracketed script) :
    e.halts setup (.begin :: .call (script.map .hook) :: moves.flatMap Move.operations) =
      scan setup e.files e.session.breakpoints (fun _ => false) (points [] script) moves := by
  have hbegin : (e.step setup .begin).1 = { e with session := e.session.beginEvaluation } := by
    simp only [step, serve, update, settle, hcall]
  have hproceed : ({ e with session := e.session.beginEvaluation }.step setup (.call (script.map .hook))).1 =
      (e.proceed setup e.session.beginEvaluation .completed (script.map .hook)).1 := by
    rcases step_call_cases setup { e with session := e.session.beginEvaluation } (script.map .hook) with
      ⟨-, hs⟩ | ⟨call, a, hc, -⟩ | ⟨hc, -⟩
    · exact congrArg Prod.fst hs
    · have hc : e.call = some call := hc
      rw [hcall] at hc
      contradiction
    · exact absurd hcall hc
  have hgoing : Going [] e.session.beginEvaluation := by
    rw [Session.isSet_terminate, Bool.or_eq_false_iff] at hterminate
    rw [Session.isSet_paused] at hpaused
    exact ⟨⟨hpaused, hterminate.2, hterminate.1⟩, rfl⟩
  have hstops : e.session.beginEvaluation.stops = e.session.stops := rfl
  have hrun := halts_proceed setup hgoing (continues_of_wellBracketed hscript) e moves
  simp only [halts, hbegin, hproceed, hstops, List.drop_length, List.map_nil, List.nil_append]
  exact hrun

/-- A step over a call that has a breakpoint passes by the node inside it and stops at the node after it. -/
theorem halts_next_over_call :
    let main : Node := { id := 0, kind := "Program" }
    let called : Node := { id := 1, kind := "CallExpression", function := some "debug::break" }
    let inner : Node := { id := 2, kind := "LiteralInteger" }
    let after : Node := { id := 3, kind := "LiteralInteger" }
    let script : List Hook :=
      [.enter main {}, .enter called {}, .enter inner {}, .leave, .leave, .enter after {}, .leave, .leave]
    WellBracketed script ∧
      (new {} {}).halts {} (.begin :: .call (script.map .hook) :: [Move.mk [] .next].flatMap Move.operations) =
        [⟨.function, some called, some 2⟩, ⟨.step, some after, some 2⟩] := by
  intro main called inner after script
  have hscript : WellBracketed script := by decide
  exact ⟨hscript, halts_eq_scan {} (new {} {}) script [Move.mk [] .next] rfl rfl rfl hscript⟩

end Engine

end Debugger
