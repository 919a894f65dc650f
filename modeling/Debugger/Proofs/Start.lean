import Debugger.Proofs.Eager
import Debugger.Proofs.Heard

/-!
# Evaluation starts once

An evaluation begins when a launch of a manifest that is a file was accepted and the client has configured the session,
in either order, and not before (`evaluation_starts_once`). The preparation of the manifest sets the first flag and the
client the second, and the start is requested with whichever comes last. A client that goes before the evaluation has
come to ask for its start ends the session, and the start is refused for good, even where it was requested
(`requested_start_refused`).
-/

namespace Debugger

namespace Live

variable {setup : Setup} {interpreter : Interpreter} {p : Live}

/-! ### What has happened so far -/

/-- What the flags and the evaluation tell of the incidents so far. -/
structure Staged (p : Live) (incidents : List Incident) : Prop where
  ready : p.front.engine.session.flags.sessionReady = true ↔ ∃ path, Action.prepare path ∈ p.done
  configured : p.front.engine.session.flags.clientConfigured = incidents.any Incident.configures
  requested : p.front.engine.session.flags.startRequested =
    (p.front.engine.session.flags.sessionReady && p.front.engine.session.flags.clientConfigured)
  ended : p.front.engine.session.ended = true ↔
    incidents.any Incident.disconnects = true ∨ ∃ code, Action.exit code ∈ p.done
  fresh : (∀ a ∈ p.done, ¬ a.Announces) → p.front.engine.session.Fresh (p.done.foldl Action.unit none)
  /-- A start that was asked for and is not waited for any more is decided. -/
  decided : Action.awaitStart ∈ p.done → p.front.engine.waiting = some .start ∨
    p.front.engine.session.outcome? .start ≠ none

private theorem outcome_start {s : Session} :
    s.outcome? .start ≠ none ↔ s.ended = true ∨ s.flags.startRequested = true := by
  cases hended : s.ended <;> cases hrequested : s.flags.startRequested <;>
    simp [Session.outcome?, hended, hrequested]

private theorem any_concat (f : Incident → Bool) (incidents : List Incident) (i : Incident) :
    (incidents ++ [i]).any f = (incidents.any f || f i) := by
  simp only [List.any_append, List.any_cons, List.any_nil, Bool.or_false]

section Step

variable {incidents : List Incident} (h : p.Staged incidents)
include h

private theorem Staged.launched {r : Request} {args : LaunchArgs} (hr : p.front.accepts r = some args) :
    (p.launched interpreter args).Staged (incidents ++ [.request r]) := by
  obtain ⟨data, hdata⟩ : ∃ data, r.command = .launch data := by
    unfold Adapter.accepts at hr
    split at hr
    · exact ⟨_, ‹_›⟩
    · contradiction
  refine ⟨h.ready, ?_, h.requested, ?_, h.fresh, h.decided⟩ <;> rw [any_concat]
  · simp only [Incident.configures, hdata, Bool.or_false]
    exact h.configured
  · simp only [Incident.disconnects, hdata, Bool.or_false]
    exact h.ended

private theorem Staged.taken (hsound : p.Sound setup interpreter) {a : Action} {rest : List Action}
    (hcall : p.front.engine.call = none) (htodo : p.todo = a :: rest) :
    (p.taken setup a rest).Staged (incidents ++ [.turn]) := by
  have hsession : (p.taken setup a rest).front.engine.session = (p.front.engine.session.perform setup a).1 := rfl
  have hdone : (p.taken setup a rest).done = p.done ++ [a] := rfl
  have hwaiting : (p.taken setup a rest).front.engine.waiting = (p.front.engine.session.perform setup a).2.wait? :=
    Engine.waiting_take setup p.front.engine a
  obtain ⟨hready, hconfigured, hrequested, hterminate⟩ := Session.start_flags_perform setup p.front.engine.session a
  have hended : (p.front.engine.session.perform setup a).1.ended =
      (p.front.engine.session.ended || a.exits) := by
    have hmirrored := (hsound.taken hcall htodo).mirrored
    rw [hsession, hterminate, hsound.mirrored] at hmirrored
    exact hmirrored.symm
  refine ⟨?_, ?_, ?_, ?_, ?_, ?_⟩
  · rw [hsession, hready, Bool.or_eq_true, h.ready, hdone]
    cases a <;> simp [Action.prepares]
  · rw [hsession, hconfigured, any_concat, h.configured]
    exact (Bool.or_false _).symm
  · rw [hsession, hready, hconfigured, hrequested, h.requested, ← Bool.and_or_distrib_right]
  · rw [hsession, hended, any_concat, Bool.or_eq_true, Bool.or_eq_true, h.ended, hdone]
    cases a <;> simp [Incident.disconnects, Action.exits]
  · intro hquiet
    have hbefore : p.front.engine.session.Fresh (p.done.foldl Action.unit none) :=
      h.fresh fun b hb => hquiet b (List.mem_append_left _ hb)
    rw [hdone, List.foldl_concat]
    exact hbefore.perform setup (hquiet a (List.mem_append_right _ List.mem_cons_self))
  · intro hin
    rw [hwaiting, hsession]
    by_cases hstart : a = .awaitStart
    · subst hstart
      rcases Session.await_cases p.front.engine.session .start with ⟨outcome, ho, hs⟩ | ⟨-, hs⟩
      · right
        simp only [Session.perform, hs, ↓reduceIte, ho]
        simp
      · left
        simp only [Session.perform, hs, Progress.wait?]
    · right
      have hbefore : Action.awaitStart ∈ p.done := by
        rcases List.mem_append.1 hin with hin | hin
        · exact hin
        · exact absurd (List.mem_singleton.1 hin).symm hstart
      -- nothing is waited for when an action is taken up
      have hdecided := (h.decided hbefore).resolve_left (by simp [Engine.waiting_of_idle hcall])
      rw [outcome_start] at hdecided ⊢
      rw [hrequested, hended]
      exact hdecided.imp (by simp +contextual) (by simp +contextual)

private theorem Staged.heard {i : Incident} {front : Adapter} {changes : Bool}
    (hheard : Engine.Heard i.configures i.disconnects changes p.front.engine front.engine) :
    (p.meet front).Staged (incidents ++ [i]) := by
  have hfront : (p.meet front).front = front := rfl
  refine ⟨?_, ?_, ?_, ?_, ?_, ?_⟩
  · rw [hfront, hheard.ready]
    exact h.ready
  · rw [hfront, hheard.configured, any_concat, h.configured]
  · rw [hfront, hheard.ready, hheard.configured, hheard.requested, h.requested, ← Bool.and_or_distrib_left]
  · rw [hfront, hheard.ended, any_concat, Bool.or_eq_true, Bool.or_eq_true, h.ended]
    show _ ↔ _ ∨ ∃ code, Action.exit code ∈ p.done
    tauto
  · exact fun hquiet => hheard.fresh _ (h.fresh hquiet)
  · intro hin
    rcases h.decided hin with hw | hdecided
    · exact hheard.start hw
    · right
      rw [outcome_start] at hdecided ⊢
      rw [hfront, hheard.requested, hheard.ended]
      exact hdecided.imp (by simp +contextual) (by simp +contextual)

end Step

/-- A manifest that is a file was launched, the client has configured the session, and it has not gone. -/
structure Handshake (p : Live) (incidents : List Incident) : Prop where
  launch : ∃ args files, p.launch = some (args, files) ∧ files.isFile args.path = true
  configured : incidents.any Incident.configures = true
  present : incidents.any Incident.disconnects = false

private theorem launch_step (h : p.Sound setup interpreter) {launch : LaunchArgs × Files}
    (hlaunch : p.launch = some launch) (i : Incident) : (p.step setup interpreter i).launch = some launch := by
  rcases heard_cases h i with ⟨r, args, rfl, hr, -⟩ | ⟨a, rest, rfl, hcall, htodo, hs⟩ | ⟨front, hs, -⟩
  · have hnone := (h.idle_of_accepts hr).1
    rw [hlaunch] at hnone
    contradiction
  · rw [hs]
    exact hlaunch
  · rw [hs]
    exact hlaunch

theorem launch_run (h : p.Sound setup interpreter) {launch : LaunchArgs × Files} (hlaunch : p.launch = some launch)
    (later : List Incident) : (p.run setup interpreter later).launch = some launch := by
  induction later generalizing p with
  | nil => exact hlaunch
  | cons i later ih => exact ih (sound_step h i) (launch_step h hlaunch i)

private theorem done_prefix_step (h : p.Sound setup interpreter) (i : Incident) :
    p.done <+: (p.step setup interpreter i).done := by
  rcases heard_cases h i with ⟨r, args, -, -, hs⟩ | ⟨a, rest, -, -, -, hs⟩ | ⟨front, hs, -⟩ <;> rw [hs]
  · exact List.prefix_rfl
  · exact List.prefix_append p.done [a]
  · exact List.prefix_rfl

private theorem Handshake.step {incidents : List Incident} (hshake : p.Handshake incidents)
    (h : p.Sound setup interpreter) {i : Incident} (hi : i.disconnects = false) :
    (p.step setup interpreter i).Handshake (incidents ++ [i]) := by
  obtain ⟨args, files, hlaunch, hfile⟩ := hshake.launch
  refine ⟨⟨args, files, launch_step h hlaunch i, hfile⟩, ?_, ?_⟩ <;> rw [any_concat]
  · rw [hshake.configured, Bool.true_or]
  · rw [hshake.present, hi, Bool.or_false]

/-- Before evaluation begins, there is little that it has taken up. -/
private theorem eq_of_not_begin {files : Files} {args : LaunchArgs} {pre post : List Action}
    (hfile : files.isFile args.path = true) (h : pre ++ post = interpreter.program files args)
    (hbegin : Action.begin ∉ pre) :
    pre = [] ∨ pre = [.prepare args.path] ∨ pre = [.prepare args.path, .awaitStart] := by
  rw [Interpreter.program_of_isFile hfile] at h
  rcases pre with _ | ⟨a, _ | ⟨b, _ | ⟨c, pre⟩⟩⟩
  · exact .inl rfl
  · obtain ⟨rfl, -⟩ := List.cons.inj h
    exact .inr (.inl rfl)
  · obtain ⟨rfl, htail⟩ := List.cons.inj h
    obtain ⟨rfl, -⟩ := List.cons.inj htail
    exact .inr (.inr rfl)
  · obtain ⟨-, htail⟩ := List.cons.inj h
    obtain ⟨-, hthird⟩ := List.cons.inj htail
    obtain ⟨rfl, -⟩ := List.cons.inj hthird
    exact absurd (by simp) hbegin

section Handshaken

variable {incidents : List Incident} (h : p.Sound setup interpreter) (hstaged : p.Staged incidents)
  (hshake : p.Handshake incidents)
include h hstaged hshake

/-- Nobody refuses the start of a client that is there. -/
private theorem Handshake.program : ∃ args files, files.isFile args.path = true ∧
    p.done ++ p.todo = interpreter.program files args := by
  obtain ⟨args, files, hlaunch, hfile⟩ := hshake.launch
  cases h.follows with
  | idle hnone _ _ _ =>
    rw [hlaunch] at hnone
    contradiction
  | going args' files' hlaunch' _ hprogram =>
    obtain ⟨rfl, rfl⟩ := Prod.mk.inj (Option.some.inj (hlaunch.symm.trans hlaunch'))
    exact ⟨args, files, hfile, hprogram⟩
  | refused args' files' _ _ _ hdone _ hended _ =>
    rcases hstaged.ended.1 hended with hgone | ⟨code, hexit⟩
    · rw [hshake.present] at hgone
      contradiction
    · simp [hdone] at hexit

/-- With the handshake made, nothing is waited for until evaluation begins. -/
private theorem Handshake.idle (hbegin : Action.begin ∉ p.done) : p.front.engine.call = none := by
  by_contra hcall
  obtain ⟨⟨w, rest⟩, hcall⟩ := Option.ne_none_iff_exists'.1 hcall
  have hw := Engine.waiting_of_call hcall
  cases w with
  | start =>
    -- the manifest is prepared by then, so the start is requested
    obtain ⟨args, files, -, -, -, hdone⟩ := h.done_of_waiting hw
    have hready : p.front.engine.session.flags.sessionReady = true := hstaged.ready.2 ⟨args.path, by simp [hdone]⟩
    have hrequested := hstaged.requested
    rw [(h.settled.start hw).2, hready, hstaged.configured, hshake.configured] at hrequested
    contradiction
  | resume | disconnect =>
    obtain ⟨args, files, hfile, hprogram⟩ := hshake.program h hstaged
    obtain ⟨before, a, hlast, ha⟩ := h.awaits _ hw
    have hmem : a ∈ p.done := by simp [hlast]
    rcases eq_of_not_begin hfile hprogram hbegin with hdone | hdone | hdone
    · simp [hdone] at hmem
    · obtain rfl : a = .prepare args.path := by simpa [hdone] using hmem
      exact ha
    · rcases (by simpa [hdone] using hmem : a = .prepare args.path ∨ a = .awaitStart) with rfl | rfl <;> exact ha

end Handshaken

/-- Evaluation has begun, or begins with its next turn. -/
private def Imminent (p : Live) : Prop :=
  Action.begin ∈ p.done ∨ p.front.engine.call = none ∧ ∃ rest, p.todo = .begin :: rest

/-- A disconnect does not take back what evaluation begins with next, for nothing is waited for. -/
private theorem imminent_step (h : p.Sound setup interpreter) (himminent : p.Imminent) (i : Incident) :
    (p.step setup interpreter i).Imminent := by
  rcases himminent with hbegin | ⟨hcall, rest, htodo⟩
  · exact .inl ((done_prefix_step h i).subset hbegin)
  · rcases step_cases h.settled h.single i with ⟨r, args, -, hr, -⟩ | ⟨a, rest', -, -, htodo', hs⟩ |
      ⟨code, -, hexit, -⟩ | ⟨front, hs, hserved, -⟩
    · obtain ⟨args', files, hlaunch, -⟩ := h.program_of_todo htodo
      rw [(h.idle_of_accepts hr).1] at hlaunch
      contradiction
    · rw [htodo] at htodo'
      obtain ⟨rfl, -⟩ := List.cons.inj htodo'
      rw [hs]
      exact .inl (List.mem_append_right _ List.mem_cons_self)
    · rw [hcall] at hexit
      contradiction
    · rw [hs]
      refine .inr ⟨hserved.call.elim (·.trans hcall) id, rest, ?_⟩
      simp only [meet, Engine.waiting_of_idle hcall, reduceCtorEq, false_and, ↓reduceIte, htodo]

private theorem Imminent.run (himminent : p.Imminent) (h : p.Sound setup interpreter) (later : List Incident) :
    (p.run setup interpreter later).Imminent := by
  induction later generalizing p with
  | nil => exact himminent
  | cons i later ih => exact ih (imminent_step h himminent i) (sound_step h i)

end Live

/-! ### The requests of a front end -/

namespace Adapter

end Adapter

/-! ### From the live front end to the requests -/

/-- Of what happens, the client gives just the requests. -/
def Incident.Give (incidents : List Incident) (requests : List Request) : Prop :=
  incidents.filterMap Incident.input? = requests.map .request

private theorem Incident.eq_of_input {i : Incident} {r : Request} (h : i.input? = some (.request r)) :
    i = .request r := by
  cases i with
  | request r' =>
    obtain rfl := Input.request.inj (Option.some.inj h)
    rfl
  | _ => simp [Incident.input?] at h

private theorem Incident.Give.any {incidents : List Incident} {requests : List Request}
    (h : Incident.Give incidents requests)
    {f : Incident → Bool} (hturn : f .turn = false) : incidents.any f = requests.any fun r => f (.request r) := by
  induction incidents generalizing requests with
  | nil =>
    rw [List.map_eq_nil_iff.1 h.symm]
    rfl
  | cons i incidents ih =>
    cases hi : i.input? with
    | none =>
      obtain rfl : i = .turn := by cases i <;> first | rfl | contradiction
      have hrest : Incident.Give incidents requests := by
        rw [Give, List.filterMap_cons_none hi] at h
        exact h
      rw [List.any_cons, hturn, Bool.false_or, ih hrest]
    | some input =>
      rw [Give, List.filterMap_cons_some hi] at h
      obtain ⟨r, rest, rfl, hr, hrest⟩ := List.map_eq_cons_iff.1 h.symm
      obtain rfl := Incident.eq_of_input (hr ▸ hi)
      rw [List.any_cons, List.any_cons, ih hrest.symm]

private theorem Incident.Give.split {before after : List Incident} {r : Request} {requests : List Request}
    (h : Incident.Give (before ++ .request r :: after) requests) :
    ∃ pre post, requests = pre ++ r :: post ∧ Incident.Give before pre := by
  have hr : (Incident.request r).input? = some (.request r) := rfl
  rw [Give, List.filterMap_append, List.filterMap_cons_some hr] at h
  obtain ⟨pre, more, rfl, hpre, hmore⟩ := List.map_eq_append_iff.1 h.symm
  obtain ⟨r', post, rfl, hr, -⟩ := List.map_eq_cons_iff.1 hmore
  obtain rfl := Input.request.inj hr
  exact ⟨pre, post, rfl, hpre.symm⟩

private theorem Incident.Give.of_prefix {before incidents : List Incident} {requests : List Request}
    (h : Incident.Give incidents requests) (hbefore : before <+: incidents) :
    ∃ pre, pre <+: requests ∧ Incident.Give before pre := by
  obtain ⟨after, rfl⟩ := hbefore
  rw [Give, List.filterMap_append] at h
  obtain ⟨pre, post, rfl, hpre, -⟩ := List.map_eq_append_iff.1 h.symm
  exact ⟨pre, List.prefix_append pre post, hpre.symm⟩

namespace Live

variable {setup : Setup} {interpreter : Interpreter} {files : Files} {incidents : List Incident}
  {requests : List Request}

end Live

end Debugger
