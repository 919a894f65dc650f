import Debugger.Proofs.Start

/-!
# The manifest on both sides

The front end shows the manifest as the source of a frame that names no file, and evaluation registers it as its unit.
The front end takes it from the launch as it was written, and evaluation looks it up in the directory of the launch. So
in every state of every run the two are the same path just when the directory does not matter
(`unfiled_source_eq_iff`), and a relative manifest that is launched in another directory is shown under a path that does
not lead to it (`unfiled_source_ne`).
-/

namespace Debugger

/-! ### The unit of evaluation -/

namespace Session

private theorem unit_announce (setup : Setup) (s : Session) (hook : Hook) :
    (s.announce setup hook).1.unit = s.unit := by
  rcases announce_changes setup s hook with ⟨depth, hs⟩ | ⟨channel, text, hs⟩ | ⟨-, depth, what, snapshot, hs⟩ <;>
    rw [hs] <;> rfl

/-- Only the preparation of a manifest registers a unit. -/
private theorem unit_perform (setup : Setup) (s : Session) (a : Action) :
    (s.perform setup a).1.unit = a.unit s.unit := by
  cases a with
  | hook hook =>
    simp only [perform]
    rw [awaitIf_session]
    exact unit_announce setup s hook
  | stop what snapshot =>
    simp only [perform]
    rw [awaitIf_session]
    rcases stop_cases setup what snapshot s with hs | ⟨-, hs⟩ <;> rw [hs] <;> rfl
  | prepare path =>
    simp only [perform, prepare, assert, checkStart]
    split <;> rfl
  | awaitStart =>
    simp only [perform]
    rw [await_session]
    rfl
  | exit code =>
    simp only [perform]
    rw [await_session]
    unfold announceExit
    split <;> rfl
  | _ => rfl

private theorem unit_takeToken (s : Session) (w : Wait) : (s.takeToken w).unit = s.unit := by
  cases w <;> rfl

end Session

namespace Engine

private theorem unit_serve (e : Engine) {op : Operation} (h : op.Plain) :
    (e.serve op).1.session.unit = e.session.unit := by
  cases op with
  | assert flag =>
    cases flag with
    | clientConfigured =>
      simp only [serve, update, Session.assert, Session.checkStart]
      split <;> rfl
    | _ => exact h.elim
  | resume command =>
    rcases e.serve_resume_cases command with ⟨-, err, hs⟩ | ⟨-, hs⟩ <;> rw [hs]
    rfl
  | cache v =>
    cases hs : e.session.saved <;> simp only [serve, Session.cacheValue_eq, hs]
    rfl
  | disconnect | setLines | setFunctions | changeFile => rfl
  | _ => exact h.elim

/-- What a front end does for its client keeps the unit, as long as nothing is left of the outstanding call. -/
private theorem unit_step (setup : Setup) {e : Engine} (hsingle : e.Single) {op : Operation} (h : op.Plain) :
    (e.step setup op).1.session.unit = e.session.unit := by
  have hserve := e.unit_serve h
  have hsingle' : (e.serve op).1.Single := fun w rest hc => hsingle w rest (by rw [← hc, serve_call])
  rw [step_of_served setup e op (fun _ hop => by rw [hop] at h; exact h) fun hop => by rw [hop] at h; exact h]
  rcases hsingle'.settle_cases setup with hs | ⟨w, outcome, -, -, hs⟩ <;> rw [hs]
  · exact hserve
  · exact (Session.unit_takeToken _ w).trans hserve

private theorem unit_run (setup : Setup) {e : Engine} (hset : e.Settled) (hsingle : e.Single) {ops : List Operation}
    (h : ∀ op ∈ ops, op.Plain) : (e.run setup ops).session.unit = e.session.unit := by
  induction ops generalizing e with
  | nil => rfl
  | cons op ops ih =>
    rw [List.forall_mem_cons] at h
    have hserved := served_step setup hset hsingle op h.1
    rw [run_cons, ih (settled_step hset op) (hserved.single hsingle) h.2, unit_step setup hsingle h.1]

end Engine

/-! ### Both sides along a run -/

namespace Live

variable {setup : Setup} {interpreter : Interpreter} {p : Live}

/-- The front end knows the manifest of the launch, and evaluation the unit that it has prepared. -/
structure Named (p : Live) : Prop where
  manifest : p.front.manifest = p.launch.map (·.1.manifest)
  unit : p.front.session.unit = p.done.foldl Action.unit none

private theorem Named.meet (h : p.Named) {front : Adapter} (hmanifest : front.manifest = p.front.manifest)
    (hunit : front.session.unit = p.front.session.unit) : (p.meet front).Named :=
  ⟨hmanifest.trans h.manifest, hunit.trans h.unit⟩

private theorem Named.taken (h : p.Named) (a : Action) (rest : List Action) : (p.taken setup a rest).Named where
  manifest := h.manifest
  unit := by
    have hunit : (p.taken setup a rest).front.session.unit = a.unit p.front.session.unit :=
      Session.unit_perform setup p.front.session a
    have hdone : (p.taken setup a rest).done = p.done ++ [a] := rfl
    rw [hunit, hdone, List.foldl_concat, h.unit]

private theorem named_step (hsound : p.Sound setup interpreter) (h : p.Named) (i : Incident) :
    (p.step setup interpreter i).Named := by
  cases i with
  | request r =>
    simp only [step]
    cases hr : p.front.accepts r with
    | some args => exact ⟨rfl, h.unit⟩
    | none =>
      refine h.meet ?_ ?_
      · rw [Adapter.handle_of_not_accepts hr]
      · rw [Adapter.session, Adapter.handle_engine setup interpreter hsound.settled]
        exact Engine.unit_run setup hsound.settled hsound.single (Adapter.operations_plain interpreter hr)
  | close =>
    have hplain : Operation.disconnect.Plain := trivial
    exact h.meet rfl (Engine.unit_step setup hsound.single hplain)
  | turn =>
    cases hcall : p.front.engine.call with
    | some call =>
      simp only [step, turn, hcall]
      exact h
    | none =>
      cases htodo : p.todo with
      | nil =>
        simp only [step, turn, hcall, htodo]
        exact h
      | cons a rest =>
        rw [step, turn_of_idle hcall htodo]
        exact h.taken a rest
  | graceExpires =>
    by_cases hwaits : ∃ code rest, p.front.engine.call = some (.disconnect code, rest)
    · obtain ⟨code, rest, hcall⟩ := hwaits
      obtain rfl := hsound.single _ rest hcall
      rw [step_graceExpires_of_waiting setup interpreter hcall]
      exact ⟨h.manifest, h.unit⟩
    · simp only [not_exists] at hwaits
      rw [step_graceExpires_of_not_waiting setup interpreter hsound.settled hwaits]
      exact h
  | changeFile change =>
    have hplain : (Operation.changeFile change).Plain := trivial
    exact h.meet rfl (Engine.unit_step setup hsound.single hplain)

private theorem named_run (setup : Setup) (interpreter : Interpreter) (files : Files) (incidents : List Incident) :
    ((new setup files).run setup interpreter incidents).Named := by
  induction incidents using List.reverseRecOn with
  | nil => exact ⟨rfl, rfl⟩
  | append_singleton before i ih =>
    rw [run_concat]
    exact named_step (sound_run setup interpreter files before) ih i

/-- Actions that prepare nothing leave the unit as it was. -/
private theorem foldl_unit {actions : List Action} (h : ∀ a ∈ actions, a.prepares = false) (unit : Option String) :
    actions.foldl Action.unit unit = unit := by
  induction actions generalizing unit with
  | nil => rfl
  | cons a actions ih =>
    rw [List.forall_mem_cons] at h
    rw [List.foldl_cons, ih h.2]
    cases a <;> first | rfl | cases h.1

/-- The unit is the manifest as it was found, from the first action of its evaluation on. -/
private theorem unit_of_isFile (hsound : p.Sound setup interpreter) (h : p.Named) {args : LaunchArgs} {files : Files}
    (hlaunch : p.launch = some (args, files)) (hfile : files.isFile args.path = true) :
    p.front.session.unit = if p.done = [] then none else some args.path := by
  rw [h.unit]
  cases hdone : p.done with
  | nil => rfl
  | cons a rest =>
    rw [if_neg (List.cons_ne_nil a rest)]
    cases hsound.follows with
    | idle _ _ hnil _ =>
      rw [hdone] at hnil
      contradiction
    | going args' files' hlaunch' _ hprogram =>
      obtain ⟨rfl, rfl⟩ := Prod.mk.inj (Option.some.inj (hlaunch.symm.trans hlaunch'))
      rw [hdone, List.cons_append, Interpreter.program_of_isFile hfile] at hprogram
      obtain ⟨rfl, hrest⟩ := List.cons.inj hprogram
      -- a program prepares its manifest first and then nothing more
      rw [List.foldl_cons]
      refine foldl_unit (fun b hb => ?_) (some args.path)
      have hmem : b ∈ rest ++ p.todo := List.mem_append_left _ hb
      rw [hrest] at hmem
      have hending : ∀ c ∈ Interpreter.ending (interpreter.result args), c.prepares = false := by
        cases interpreter.result args <;> simp [Interpreter.ending, Action.prepares]
      simp only [List.mem_cons, List.mem_append, List.mem_map] at hmem
      rcases hmem with rfl | rfl | ⟨hook, -, rfl⟩ | hb
      · rfl
      · rfl
      · rfl
      · exact hending b hb
    | refused args' files' hlaunch' _ _ hprepared _ _ _ =>
      obtain ⟨rfl, rfl⟩ := Prod.mk.inj (Option.some.inj (hlaunch.symm.trans hlaunch'))
      rw [hdone] at hprepared
      obtain ⟨rfl, rfl⟩ := List.cons.inj hprepared
      rfl

end Live

/-! ### Frames without a file -/

/-- A path below a directory is another path, unless it is absolute or the directory is empty. -/
private theorem Path.join_eq_iff {dir path : String} : join dir path = path ↔ isAbsolute path = true ∨ dir = "" := by
  have hlength : dir.length = 0 ↔ dir = "" := String.length_eq_zero_iff
  unfold join
  split
  · rename_i h
    simpa using h
  · rename_i h
    rw [Bool.or_eq_true, decide_eq_true_eq] at h
    refine iff_of_false (fun heq => ?_) h
    have hlong := congrArg String.length heq
    rw [not_or, ← hlength] at h
    split at hlong
    · rw [String.length_append] at hlong
      omega
    · rw [String.length_append, String.length_append] at hlong
      omega

/-- The directory of the launch does not matter for its manifest. -/
private theorem LaunchArgs.path_eq_iff {args : LaunchArgs} :
    args.path = args.manifest ↔ args.cwd = none ∨ args.cwd = some "" ∨ Path.isAbsolute args.manifest = true := by
  unfold path
  cases args.cwd with
  | none => simp
  | some dir => simp [Path.join_eq_iff, or_comm]

namespace Adapter

/-- A frame of the stack that is shown names no file: it is the placeholder, or it shows a saved frame without one. -/
structure Unfiled (a : Adapter) (i : Nat) (view : FrameView) : Prop where
  shown : a.stackFrames[i]? = some view
  unfiled : view.id = 0 ∨
    ∃ frame, (a.session.saved.elim [] (·.stack)).reverse[i]? = some frame ∧ frame.file = none

private theorem unfiled_of_saved {a : Adapter} {i : Nat} {frame : Frame}
    (h : (a.session.saved.elim [] (·.stack)).reverse[i]? = some frame) (hfile : frame.file = none) :
    a.Unfiled i ⟨i + 1, frame.name, signedLine frame.line, a.sourceOf none⟩ := by
  refine ⟨?_, .inr ⟨frame, h, hfile⟩⟩
  unfold stackFrames
  split
  · rename_i hnil
    rw [hnil] at h
    cases h
  · rw [List.getElem?_mapIdx, h, Option.map_some, hfile]

private theorem Unfiled.source {a : Adapter} {i : Nat} {view : FrameView} (h : a.Unfiled i view) :
    view.source = a.manifest.map Source.ofPath := by
  obtain ⟨hshown, hunfiled⟩ := h
  unfold stackFrames at hshown
  split at hshown
  · rename_i hnil
    rw [hnil] at hunfiled
    obtain hzero := hunfiled.resolve_right (by simp)
    split at hshown
    · rename_i place hplace
      cases i with
      | zero =>
        obtain rfl := Option.some.inj hshown
        cases hzero
      | succ i => cases hshown
    · cases i with
      | zero =>
        obtain rfl := Option.some.inj hshown
        rfl
      | succ i => cases hshown
  · rw [List.getElem?_mapIdx, Option.map_eq_some_iff] at hshown
    obtain ⟨frame, hframe, rfl⟩ := hshown
    rcases hunfiled with hzero | ⟨frame', hframe', hfile⟩
    · have hpos : ((i : Int) + 1) ≠ 0 := by omega
      exact absurd hzero hpos
    · obtain rfl := Option.some.inj (hframe.symm.trans hframe')
      show a.sourceOf frame.file = _
      rw [hfile]
      rfl

end Adapter

namespace Live

/-- In every state after a launch was accepted whose manifest is a file, however evaluation goes on and whatever the
client does: a frame that names no file is shown with the manifest as it was written, and the unit that evaluation
registers first of all is the manifest as it was found. They are the same path just when no directory was given, or an
empty one, or the manifest is absolute. -/
theorem unfiled_source_eq_iff (setup : Setup) (interpreter : Interpreter) (files : Files) (incidents : List Incident) :
    let p := (new setup files).run setup interpreter incidents
    ∀ args launched, p.launch = some (args, launched) → launched.isFile args.path = true →
      p.front.session.unit = (if p.done = [] then none else some args.path) ∧
        (∀ seq, (p.front.handle setup interpreter ⟨seq, .stackTrace⟩).2 =
          .response ⟨seq, .ok (Command.stackTrace.name, .stackTrace p.front.stackFrames)⟩) ∧
        ∀ i view, p.front.Unfiled i view →
          view.source.bind (·.path) = some args.manifest ∧
            (view.source.bind (·.path) = some args.path ↔
              args.cwd = none ∨ args.cwd = some "" ∨ Path.isAbsolute args.manifest = true) := by
  intro p args launched hlaunch hfile
  have hnamed : p.Named := named_run setup interpreter files incidents
  have hsound : p.Sound setup interpreter := sound_run setup interpreter files incidents
  refine ⟨unit_of_isFile hsound hnamed hlaunch hfile, fun seq => rfl, fun i view hview => ?_⟩
  have hsource : view.source.bind (·.path) = some args.manifest := by
    rw [hview.source, hnamed.manifest, hlaunch]
    rfl
  refine ⟨hsource, ?_⟩
  rw [hsource, Option.some.injEq, eq_comm, LaunchArgs.path_eq_iff]

/-- A manifest that is launched in a directory and given by its absolute path is the same on both sides: evaluation has
registered it, and at a function breakpoint the outer frame, which names no file, is shown with it. -/
theorem unfiled_source_of_absolute :
    let scope : Scope := { stack := [⟨"inner", some "/lib.pp", 3⟩, ⟨"main", none, 1⟩] }
    let called : Node := { id := 0, kind := "CallExpression", function := some "debug::break" }
    let interpreter := Interpreter.scripted [.enter called scope] (.ok 0) []
    let files := ({} : Files).write "/site.pp" []
    let args : LaunchArgs := { manifest := "/site.pp", cwd := some "modules" }
    let launch : Incident :=
      .request ⟨1, .launch (some (.obj [("manifest", .str "/site.pp"), ("cwd", .str "modules")]))⟩
    let later : List Incident := [.request ⟨2, .configurationDone⟩, .turn, .turn, .turn, .turn]
    let p := (new {} files).run {} interpreter (launch :: later)
    (p.launch = some (args, files) ∧ files.isFile args.path = true) ∧
      ∃ view, p.front.Unfiled 1 view ∧ p.front.session.unit = some args.path ∧
        view.source.bind (·.path) = some args.path := by
  intro scope called interpreter files args launch later p
  have haccepted : ((new {} files).step {} interpreter launch).launch = some (args, files) := rfl
  have hrun : p = ((new {} files).step {} interpreter launch).run {} interpreter later := run_cons ..
  have hlaunch : p.launch = some (args, files) := by
    rw [hrun]
    exact launch_run (sound_step (sound_new {} interpreter files) launch) haccepted later
  have hfile : files.isFile args.path = true := by decide +kernel
  have hdone : p.done.isEmpty = false := by decide +kernel
  have hsaved : (p.front.session.saved.elim [] (·.stack)).reverse[1]? = some ⟨"main", none, 1⟩ := by decide +kernel
  obtain ⟨hunit, -, hsource⟩ := unfiled_source_eq_iff {} interpreter files _ args files hlaunch hfile
  rw [if_neg (by rw [← List.isEmpty_iff, hdone]; exact Bool.false_ne_true)] at hunit
  have hview := Adapter.unfiled_of_saved hsaved rfl
  exact ⟨⟨hlaunch, hfile⟩, _, hview, hunit, (hsource 1 _ hview).2.2 (.inr (.inr (by decide)))⟩

/-- A relative manifest that is launched in another directory is registered under its path from there, and shown under a
path that does not lead to it. -/
theorem unfiled_source_ne :
    ¬ ∀ (files : Files) (incidents : List Incident),
      let p := (new {} files).run {} (Interpreter.scripted [] (.ok 0) []) incidents
      ∀ args launched, p.launch = some (args, launched) → launched.isFile args.path = true →
        ∀ i view, p.front.Unfiled i view → view.source.bind (·.path) = some args.path := by
  intro h
  have hsource := h (({} : Files).write "sub/site.pp" [])
    [.request ⟨1, .launch (some (.obj [("manifest", .str "site.pp"), ("cwd", .str "sub")]))⟩, .turn]
    { manifest := "site.pp", cwd := some "sub" } _ rfl (by decide +kernel) 0
    ⟨0, "unknown", 1, some (Source.ofPath "site.pp")⟩ ⟨rfl, .inl rfl⟩
  exact absurd hsource (by decide)

end Live

end Debugger
