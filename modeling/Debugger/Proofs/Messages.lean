import Debugger.Proofs.Live

/-!
# What the client is told over a whole run

Whatever the client does and whenever it does it, the events of a run are stops and outputs, and after them at most the
exit and the end of the session, once (`messages_of_run`). The exit is announced just when the evaluation of a launch
has nothing left to do, for it went on to its end or its manifest was not a file; an error is reported right before it.
A session that ends before its start tells the client nothing.
-/

namespace Debugger

/-- The event that an occurrence tells the client. -/
def Occurrence.event? : Occurrence → Option Event
  | sent e => some e
  | _ => none

/-- A stop or an output. -/
def Event.Routine : Event → Prop
  | stopped _ _ | output _ _ => True
  | _ => False

/-- What a client was told that has seen an evaluation through to its end: an error is reported right before the exit.
-/
def Concluded : Except String Int → List Event → Prop
  | .ok code, events => ∃ said, (∀ e ∈ said, Event.Routine e) ∧ events = said ++ [.exited code, .terminated]
  | .error text, events => ∃ said, (∀ e ∈ said, Event.Routine e) ∧
    events = said ++ [.output .stderr (text ++ "\n"), .exited 1, .terminated]

private theorem Concluded.split {result : Except String Int} {events : List Event} (h : Concluded result events) :
    ∃ said code, events = said ++ [.exited code, .terminated] ∧ ∀ e ∈ said, Event.Routine e := by
  cases result with
  | ok code =>
    obtain ⟨said, hsaid, hevents⟩ := h
    exact ⟨said, code, hevents, hsaid⟩
  | error text =>
    obtain ⟨said, hsaid, hevents⟩ := h
    refine ⟨said ++ [.output .stderr (text ++ "\n")], 1, by rw [hevents, List.append_assoc]; rfl, ?_⟩
    intro e he
    rcases List.mem_append.1 he with he | he
    · exact hsaid e he
    · rw [List.mem_singleton.1 he]
      trivial

private theorem mem_filterMap_event? {os : List Occurrence} {e : Event} :
    e ∈ os.filterMap Occurrence.event? ↔ Occurrence.sent e ∈ os := by
  rw [List.mem_filterMap]
  constructor
  · rintro ⟨o, ho, he⟩
    cases o with
    | sent e' =>
      obtain rfl := Option.some.inj he
      exact ho
    | _ => contradiction
  · exact fun h => ⟨_, h, rfl⟩

private theorem routine_of_notes {setup : Setup} {a : Action} {os : List Occurrence} (h : a.Notes setup os)
    (hexit : ∀ code, a ≠ .exit code) {e : Event} (he : .sent e ∈ os) : e.Routine := by
  cases a with
  | hook hook =>
    rcases h with rfl | ⟨what, rfl⟩ | ⟨channel, text, rfl⟩
    · contradiction
    · obtain rfl := Occurrence.sent.inj (List.mem_singleton.1 he)
      trivial
    · obtain rfl := Occurrence.sent.inj (List.mem_singleton.1 he)
      trivial
  | stop what snapshot =>
    rcases h with rfl | rfl
    · contradiction
    · obtain rfl := Occurrence.sent.inj (List.mem_singleton.1 he)
      trivial
  | visit node =>
    obtain ⟨depth, rfl⟩ := h
    cases List.mem_singleton.1 he
  | failure text =>
    obtain rfl := h
    obtain rfl := Occurrence.sent.inj (List.mem_singleton.1 he)
    trivial
  | exit code => exact absurd rfl (hexit code)
  | prepare | awaitStart | begin =>
    obtain rfl := h
    contradiction

/-- Before the exit there are only stops and outputs. -/
private theorem routine_of_noted {setup : Setup} {actions : List Action} {os : List Occurrence}
    (h : Noted setup actions os) (hexit : ∀ code, Action.exit code ∉ actions) :
    ∀ e ∈ os.filterMap Occurrence.event?, e.Routine := by
  intro e he
  obtain ⟨a, ha, own, hown, he⟩ := action_of_noted h (mem_filterMap_event?.1 he)
  exact routine_of_notes hown (fun code hcode => hexit code (hcode ▸ ha)) he

namespace Live

variable {setup : Setup} {interpreter : Interpreter} {p : Live}

private theorem Sound.events (h : p.Sound setup interpreter) :
    ∃ told, Noted setup p.done told ∧ p.front.session.events = told.filterMap Occurrence.event? := by
  obtain ⟨told, htold, hjournal⟩ := h.journaled
  refine ⟨told, htold, ?_⟩
  have hevents : p.front.session.events = p.front.engine.session.journal.filterMap Occurrence.event? := rfl
  rw [hevents]
  rcases hjournal with hj | ⟨code, -, -, hj⟩ <;> rw [hj]
  rw [List.filterMap_append]
  exact List.append_nil _

/-- The client is told of an exit once its action was taken up. -/
theorem Sound.exited_iff (h : p.Sound setup interpreter) {code : Int} :
    .exited code ∈ p.front.session.events ↔ Action.exit code ∈ p.done := by
  obtain ⟨told, htold, hevents⟩ := h.events
  rw [hevents, mem_filterMap_event?]
  constructor
  · intro he
    obtain ⟨a, ha, own, hown, he⟩ := action_of_noted htold he
    cases a with
    | exit code' =>
      obtain rfl := hown
      simp only [List.mem_cons, Occurrence.sent.injEq, Event.exited.injEq] at he
      rcases he with rfl | he
      · exact ha
      · split at he <;> simp at he
    | _ => exact (routine_of_notes hown (by simp) he).elim
  · intro ha
    obtain ⟨own, hown, hsub⟩ := notes_of_mem htold ha
    exact hsub (hown ▸ List.mem_cons_self)

theorem Sound.done_of_exit (h : p.Sound setup interpreter) {code : Int} (hexit : Action.exit code ∈ p.done) :
    ∃ args files, p.launch = some (args, files) ∧ p.todo = [] ∧ p.done = interpreter.program files args := by
  have htodo := h.todo_of_exit hexit
  cases h.follows with
  | idle _ _ hdone _ =>
    rw [hdone] at hexit
    contradiction
  | going args files hlaunch _ hprogram =>
    rw [htodo, List.append_nil] at hprogram
    exact ⟨args, files, hlaunch, htodo, hprogram⟩
  | refused _ _ _ _ _ hdone _ _ _ => simp [hdone] at hexit

/-- The client sees whether evaluation has begun. -/
theorem Sound.isSet_started (h : p.Sound setup interpreter) :
    p.front.session.isSet .started = true ↔ Action.begin ∈ p.done := by
  rw [← h.started]
  simp [Session.isSet, Flags.get, Adapter.session]

/-- Nothing is left to do after the exit, and the exit is reached when nothing is left to do, unless the start was
refused. -/
private theorem Sound.exit_iff (h : p.Sound setup interpreter) :
    (∃ code, Action.exit code ∈ p.done) ↔ ∃ args files, p.launch = some (args, files) ∧ p.todo = [] ∧
      (files.isFile args.path = true → p.front.session.isSet .started = true) := by
  constructor
  · rintro ⟨code, hexit⟩
    obtain ⟨args, files, hlaunch, htodo, hdone⟩ := h.done_of_exit hexit
    refine ⟨args, files, hlaunch, htodo, fun hfile => h.isSet_started.2 ?_⟩
    simp [hdone, Interpreter.program_of_isFile hfile]
  · rintro ⟨args, files, hlaunch, htodo, hstarted⟩
    cases h.follows with
    | idle hnone _ _ _ =>
      rw [hlaunch] at hnone
      contradiction
    | going args' files' _ _ hprogram =>
      rw [htodo, List.append_nil, Interpreter.program_eq] at hprogram
      exact ⟨_, by rw [hprogram]; exact List.mem_append_right _ List.mem_cons_self⟩
    | refused args' files' hlaunch' _ hfile hdone _ _ _ =>
      obtain ⟨rfl, rfl⟩ := Prod.mk.inj (Option.some.inj (hlaunch.symm.trans hlaunch'))
      have hbegin := h.isSet_started.1 (hstarted hfile)
      simp [hdone] at hbegin

private theorem Sound.concluded (h : p.Sound setup interpreter) (hends : setup.announcesEnd = true) {code : Int}
    (hexit : Action.exit code ∈ p.done) :
    ∃ args files, p.launch = some (args, files) ∧
      Concluded (interpreter.verdict files args) p.front.session.events := by
  obtain ⟨told, htold, hevents⟩ := h.events
  obtain ⟨args, files, hlaunch, -, hdone⟩ := h.done_of_exit hexit
  refine ⟨args, files, hlaunch, ?_⟩
  rw [hdone, Interpreter.program_eq, noted_append] at htold
  obtain ⟨body, last, hbody, hlast, rfl⟩ := htold
  obtain rfl : last = [.sent (.exited _), .sent .terminated] := by
    have hnotes := noted_singleton.1 hlast
    simp only [Action.Notes, hends, ↓reduceIte] at hnotes
    exact hnotes
  have hroutine := routine_of_noted hbody Interpreter.exit_notMem
  rw [hevents, List.filterMap_append]
  cases hverdict : interpreter.verdict files args with
  | ok code => exact ⟨_, hroutine, rfl⟩
  | error text =>
    rw [hverdict, noted_append] at hbody
    obtain ⟨said, report, -, hreport, rfl⟩ := hbody
    obtain rfl : report = [.sent (.output .stderr (text ++ "\n"))] := noted_singleton.1 hreport
    refine ⟨said.filterMap Occurrence.event?, fun e he => hroutine e ?_, ?_⟩
    · rw [List.filterMap_append]
      exact List.mem_append_left _ he
    · rw [List.filterMap_append, List.append_assoc]
      rfl

private theorem Sound.said_then_final (h : p.Sound setup interpreter) (hends : setup.announcesEnd = true) :
    ∃ said final, p.front.session.events = said ++ final ∧ (∀ e ∈ said, Event.Routine e) ∧
      (final = [] ∨ ∃ code, final = [.exited code, .terminated]) := by
  by_cases hexit : ∃ code, Action.exit code ∈ p.done
  · obtain ⟨code, hin⟩ := hexit
    obtain ⟨args, files, -, hconcluded⟩ := h.concluded hends hin
    obtain ⟨said, code, hevents, hsaid⟩ := hconcluded.split
    exact ⟨said, _, hevents, hsaid, .inr ⟨code, rfl⟩⟩
  · obtain ⟨told, htold, hevents⟩ := h.events
    refine ⟨p.front.session.events, [], (List.append_nil _).symm, ?_, .inl rfl⟩
    rw [hevents]
    exact routine_of_noted htold fun code hcode => hexit ⟨code, hcode⟩

/-! ### Sessions that end before the start -/

/-- The start is not granted yet: it was not asked for, or is still waited for. -/
def BeforeStart (p : Live) : Prop := Action.awaitStart ∉ p.done ∨ p.front.engine.waiting = some .start

/-- Evaluation does not begin any more. -/
structure Barred (p : Live) : Prop where
  ended : p.front.engine.session.ended = true
  begin : Action.begin ∉ p.done
  todo : Action.awaitStart ∈ p.done → p.todo = []

private theorem ended_step (h : p.Sound setup interpreter) (hend : p.front.engine.session.ended = true) (i : Incident) :
    (p.step setup interpreter i).front.engine.session.ended = true := by
  obtain ⟨ops, hops⟩ := step_engine setup interpreter h.settled i
  rw [hops]
  exact (Engine.over_run setup ⟨h.mirrored.trans hend, hend⟩ ops).1.2

private theorem barred_step (h : p.Sound setup interpreter) {i : Incident} (hbegin : Action.begin ∉ p.done)
    (htodo : Action.awaitStart ∈ p.done → p.todo = [] ∨ p.front.engine.waiting = some .start)
    (hend : (p.step setup interpreter i).front.engine.session.ended = true) :
    (p.step setup interpreter i).Barred := by
  have hidle : p.done = [] → Action.begin ∉ p.done ∧ Action.awaitStart ∉ p.done := by
    intro hnil
    simp [hnil]
  rcases step_cases h.settled h.single i with ⟨r, args, -, hr, hs⟩ | ⟨a, rest, -, hcall, hrest, hs⟩ |
    ⟨code, -, hcall, hs⟩ | ⟨front, hs, hserved, hlaunched⟩ <;> rw [hs] at hend ⊢
  · obtain ⟨-, hnil, -⟩ := h.idle_of_accepts hr
    exact ⟨hend, (hidle hnil).1, fun hin => absurd hin (hidle hnil).2⟩
  · -- what is left to do has not asked for the start yet
    have hfresh : Action.awaitStart ∉ p.done := by
      intro hin
      rcases htodo hin with hnil | hw
      · rw [hrest] at hnil
        contradiction
      · rw [Engine.waiting_of_idle hcall] at hw
        contradiction
    obtain ⟨args, files, -, -, hprogram⟩ := h.program_of_todo hrest
    refine ⟨hend, fun hin => ?_, fun hin => ?_⟩
    · have hlast : a = .begin := ((List.mem_append.1 hin).resolve_left hbegin |> List.mem_singleton.1).symm
      rw [hlast] at hprogram
      simp [(Interpreter.eq_of_begin hprogram).2] at hfresh
    · obtain rfl : a = .awaitStart := ((List.mem_append.1 hin).resolve_left hfresh |> List.mem_singleton.1).symm
      have hrefused : (p.front.engine.session.perform setup .awaitStart).2.outcome? = some (.start false) :=
        Session.refused_of_ended hend
      simp only [taken, hrefused, ↓reduceIte]
  · refine ⟨hend, hbegin, fun hin => (htodo hin).resolve_right ?_⟩
    simp [Engine.waiting_of_call hcall]
  · refine ⟨hend, hbegin, fun hin => ?_⟩
    have hended : front.session.ended = true := hend
    rcases htodo hin with hnil | hw
    · simp only [meet, hnil, ite_self]
    · simp only [meet, hw, hended, and_self, ↓reduceIte]

theorem Barred.run {q : Live} (hbarred : q.Barred) (h : q.Sound setup interpreter) (incidents : List Incident) :
    (q.run setup interpreter incidents).Barred := by
  induction incidents generalizing q with
  | nil => exact hbarred
  | cons i incidents ih =>
    exact ih (barred_step h hbarred.begin (fun hin => .inl (hbarred.todo hin)) (ended_step h hbarred.ended i))
      (sound_step h i)

theorem BeforeStart.not_begin (hbefore : p.BeforeStart) (h : p.Sound setup interpreter) : Action.begin ∉ p.done := by
  rcases hbefore with hfresh | hw
  · intro hin
    obtain ⟨pre, post, hdone⟩ := List.append_of_mem hin
    cases h.follows with
    | idle _ _ hnil _ => simp [hnil] at hin
    | going args files _ _ hprogram =>
      rw [hdone, List.append_assoc, List.cons_append] at hprogram
      simp [hdone, (Interpreter.eq_of_begin hprogram).2] at hfresh
    | refused _ _ _ _ _ hdone _ _ _ => simp [hdone] at hin
  · obtain ⟨args, files, -, -, -, hdone⟩ := h.done_of_waiting hw
    simp [hdone]

theorem BeforeStart.barred (hbefore : p.BeforeStart) (h : p.Sound setup interpreter) {i : Incident}
    (hterminate : (p.step setup interpreter i).front.session.isSet .terminate = true) :
    (p.step setup interpreter i).Barred := by
  refine barred_step h (hbefore.not_begin h) (fun hin => .inr (hbefore.resolve_left fun hnot => hnot hin)) ?_
  exact (Engine.over_of_isSet (sound_step h i).mirrored hterminate).2

/-- Where evaluation does not begin, nothing is noted, if the manifest of the launch is a file. -/
private theorem events_of_not_begin (h : p.Sound setup interpreter) (hbegin : Action.begin ∉ p.done)
    (hfile : ∀ args files, p.launch = some (args, files) → files.isFile args.path = true) :
    p.front.session.events = [] := by
  obtain ⟨path, hsilent⟩ : ∃ path, p.done ⊆ [.prepare path, .awaitStart] := by
    cases h.follows with
    | idle _ _ hnil _ => exact ⟨"", by simp [hnil]⟩
    | going args files hlaunch _ hprogram =>
      refine ⟨args.path, ?_⟩
      rw [Interpreter.program_of_isFile (hfile args files hlaunch)] at hprogram
      match p.done, hprogram, hbegin with
      | [], _, _ => simp
      | [b], hprogram, _ => simp_all
      | [b, c], hprogram, _ => simp_all
      | b :: c :: d :: rest, hprogram, hbegin => simp_all
    | refused args files _ _ _ hdone _ _ _ => exact ⟨args.path, by simp [hdone]⟩
  obtain ⟨told, htold, hevents⟩ := h.events
  rw [hevents, List.eq_nil_iff_forall_not_mem]
  intro e he
  obtain ⟨a, ha, own, hown, he⟩ := action_of_noted htold (mem_filterMap_event?.1 he)
  rcases List.mem_pair.1 (hsilent ha) with rfl | rfl <;> obtain rfl : own = [] := hown <;> contradiction

/-! ### Manifests that are not files -/

section NotFile

variable {args : LaunchArgs} {files : Files} (h : p.Sound setup interpreter) (hlaunch : p.launch = some (args, files))
  (hfile : files.isFile args.path = false)
include h hlaunch hfile

private theorem Sound.program_of_not_isFile :
    p.done ++ p.todo = [.failure (missingManifest args.path), .exit 1] := by
  cases h.follows with
  | idle hnone _ _ _ =>
    rw [hlaunch] at hnone
    contradiction
  | going args' files' hlaunch' _ hprogram =>
    obtain ⟨rfl, rfl⟩ := Prod.mk.inj (Option.some.inj (hlaunch.symm.trans hlaunch'))
    exact hprogram.trans (Interpreter.program_of_not_isFile hfile)
  | refused args' files' hlaunch' _ hfile' _ _ _ _ =>
    obtain ⟨rfl, rfl⟩ := Prod.mk.inj (Option.some.inj (hlaunch.symm.trans hlaunch'))
    rw [hfile] at hfile'
    contradiction

private theorem Sound.not_stopped (what : Stop) (thread : Int) :
    Event.stopped what thread ∉ p.front.session.events := by
  obtain ⟨told, htold, hevents⟩ := h.events
  rw [hevents, mem_filterMap_event?]
  intro he
  obtain ⟨a, ha, own, hown, he⟩ := action_of_noted htold he
  have hin : a ∈ [.failure (missingManifest args.path), .exit 1] := by
    rw [← h.program_of_not_isFile hlaunch hfile]
    exact List.mem_append_left _ ha
  rcases List.mem_pair.1 hin with rfl | rfl
  · obtain rfl := hown
    simp at he
  · obtain rfl := hown
    cases hends : setup.announcesEnd <;> simp [hends] at he

/-- The evaluation waits for nothing before it exits. -/
private theorem Sound.idle_of_todo {a : Action} {rest : List Action} (htodo : p.todo = a :: rest) :
    p.front.engine.call = none := by
  cases hcall : p.front.engine.call with
  | none => rfl
  | some call =>
    obtain ⟨before, b, hdone, hb⟩ := h.awaits call.1 (Engine.waiting_of_call hcall)
    have hprogram := h.program_of_not_isFile hlaunch hfile
    rw [hdone, htodo, List.append_assoc, List.singleton_append] at hprogram
    cases before with
    | nil =>
      obtain rfl := (List.cons.inj hprogram).1
      exact hb.elim
    | cons c before =>
      have hlength := congrArg List.length hprogram
      simp only [List.length_cons, List.length_append, List.length_nil] at hlength
      omega

private theorem Sound.length_todo_turn : (p.step setup interpreter .turn).todo.length ≤ p.todo.length - 1 := by
  cases htodo : p.todo with
  | nil =>
    have hturn : p.step setup interpreter .turn = p := by
      simp only [step, turn, htodo]
      split
      · contradiction
      · rfl
    rw [hturn, htodo]
    exact Nat.le_refl 0
  | cons a rest =>
    have hcall := h.idle_of_todo hlaunch hfile htodo
    have hturn : p.step setup interpreter .turn = p.taken setup a rest := turn_of_idle hcall htodo
    rw [hturn, Live.taken]
    split <;> simp

private theorem Sound.todo_turns : (p.run setup interpreter [.turn, .turn]).todo = [] := by
  have hlater : (p.step setup interpreter .turn).launch = p.launch := by
    simp only [step, turn]
    split <;> rfl
  have hfirst := h.length_todo_turn hlaunch hfile
  have hsecond := (sound_step h .turn).length_todo_turn (hlater.trans hlaunch) hfile
  have hall := congrArg List.length (h.program_of_not_isFile hlaunch hfile)
  rw [List.length_append] at hall
  simp only [List.length_cons, List.length_nil] at hall
  have hnone : (p.run setup interpreter [.turn, .turn]).todo.length = 0 := by
    simp only [run_cons]
    show ((p.step setup interpreter .turn).step setup interpreter .turn).todo.length = 0
    omega
  exact List.eq_nil_of_length_eq_zero hnone

end NotFile

/-- Over a whole run the client, if it is told of the end of a session at all, is told of stops and outputs, and after
them at most of the exit and of the end of the session, once. The exit is announced just when the evaluation of the
launch that was accepted has come to its end, with the code of the interpreter, or with code one right after the error
by which evaluation ended. Without a manifest there is no stop, and with one nothing is told of a session that ends
before the start. -/
theorem messages_of_run (setup : Setup) (interpreter : Interpreter) (files : Files) (hends : setup.announcesEnd = true)
    (incidents : List Incident) :
    let start := new setup files
    let p := start.run setup interpreter incidents
    let events := p.front.session.events
    (∃ said final, events = said ++ final ∧ (∀ e ∈ said, e.Routine) ∧
        (final = [] ∨ ∃ code, final = [.exited code, .terminated])) ∧
      ((∃ code, .exited code ∈ events) ↔ ∃ code, Action.exit code ∈ p.done) ∧
      ((∃ code, Action.exit code ∈ p.done) ↔ ∃ args files, p.launch = some (args, files) ∧ p.todo = [] ∧
        (files.isFile args.path = true → p.front.session.isSet .started = true)) ∧
      ((∃ code, .exited code ∈ events) → ∃ args files, p.launch = some (args, files) ∧
        Concluded (interpreter.verdict files args) events) ∧
      (∀ args files, p.launch = some (args, files) → files.isFile args.path = false →
        (∀ what thread, .stopped what thread ∉ events) ∧ (p.run setup interpreter [.turn, .turn]).todo = []) ∧
      ∀ before i after, incidents = before ++ i :: after → (start.run setup interpreter before).BeforeStart →
        (start.run setup interpreter (before ++ [i])).front.session.isSet .terminate = true →
        (∀ args files, p.launch = some (args, files) → files.isFile args.path = true) → events = [] := by
  intro start p events
  have h : p.Sound setup interpreter := sound_run setup interpreter files incidents
  have hexited : (∃ code, .exited code ∈ events) ↔ ∃ code, Action.exit code ∈ p.done :=
    exists_congr fun code => h.exited_iff
  refine ⟨h.said_then_final hends, hexited, h.exit_iff, ?_, ?_, ?_⟩
  · rintro hin
    obtain ⟨code, hexit⟩ := hexited.1 hin
    exact h.concluded hends hexit
  · intro args files hlaunch hfile
    exact ⟨h.not_stopped hlaunch hfile, h.todo_turns hlaunch hfile⟩
  · intro before i after hsplit hbefore hterminate hfile
    have hsound : (start.run setup interpreter before).Sound setup interpreter :=
      sound_run setup interpreter files before
    rw [run_concat] at hterminate
    have hp : p = ((start.run setup interpreter before).step setup interpreter i).run setup interpreter after := by
      rw [← run_concat, ← run_append, List.append_assoc, List.singleton_append, ← hsplit]
    have hend := (hbefore.barred hsound hterminate).run (sound_step hsound i) after
    rw [← hp] at hend
    exact events_of_not_begin h hend.begin hfile

/-- A run in which evaluation fails is told to its end. With the front end given up before the start nothing is told.
-/
theorem messages_with_and_without_start :
    let interpreter := Interpreter.scripted [.log .notice "applying"] (.error "Evaluation failed") []
    let files := ({} : Files).write "/site.pp" []
    let launch : Incident := .request ⟨1, .launch (some (.obj [("manifest", .str "/site.pp")]))⟩
    let configured : Incident := .request ⟨2, .configurationDone⟩
    let start := new {} files
    let p := start.run {} interpreter [configured, launch, .turn, .turn, .turn, .turn, .turn, .turn]
    let waiting : List Incident := [launch, .turn, .turn]
    let q := start.run {} interpreter (waiting ++ .close :: [.turn])
    (({} : Setup).announcesEnd = true ∧ (start.run {} interpreter waiting).BeforeStart ∧
        (start.run {} interpreter (waiting ++ [.close])).front.session.isSet .terminate = true ∧
        q.launch = some ({ manifest := "/site.pp" }, files) ∧ files.isFile "/site.pp" = true) ∧
      (∃ args files, p.launch = some (args, files) ∧
        Concluded (interpreter.verdict files args) p.front.session.events) ∧
      q.front.session.events = [] := by
  intro interpreter files launch configured start p waiting q
  have hbefore : (start.run {} interpreter waiting).BeforeStart := .inr (by decide +kernel)
  have hterminate : (start.run {} interpreter (waiting ++ [.close])).front.session.isSet .terminate = true := by
    decide +kernel
  have hlaunch : q.launch = some ({ manifest := "/site.pp" }, files) := by decide +kernel
  have hfile : files.isFile "/site.pp" = true := by decide +kernel
  have hexited : Event.exited 1 ∈ p.front.session.events := by decide +kernel
  obtain ⟨-, -, -, hconcluded, -, -⟩ := messages_of_run {} interpreter files rfl
    [configured, launch, .turn, .turn, .turn, .turn, .turn, .turn]
  obtain ⟨-, -, -, -, -, hsilent⟩ := messages_of_run {} interpreter files rfl (waiting ++ .close :: [.turn])
  refine ⟨⟨rfl, hbefore, hterminate, hlaunch, hfile⟩, hconcluded ⟨1, hexited⟩, ?_⟩
  refine hsilent waiting .close [.turn] rfl hbefore hterminate ?_
  intro args files' h
  obtain ⟨rfl, rfl⟩ := Prod.mk.inj (Option.some.inj (hlaunch.symm.trans h))
  exact hfile

end Live

end Debugger
