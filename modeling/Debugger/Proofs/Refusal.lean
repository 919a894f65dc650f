import Debugger.Proofs.Requests

/-!
# Refused requests leave no trace

`Adapter.Refuses` says in which states a command is refused or not supported. In every state that a run reaches, a
request fails just then, and the front end that a failed request leaves is the one that it found
(`refused_without_trace`). Values are handed out one after the other, but never by a request that fails: where the first
can be handed out there is a snapshot, and then all can.
-/

namespace Debugger

/-- There is no successful response: the request is refused, or its command is not supported. -/
def Answer.Failed : Answer → Prop
  | .response ⟨_, .error _⟩ | .unhandled => True
  | _ => False

namespace Adapter

/-- When a command is refused or not supported. A launch comes after another one or has no proper arguments, a reference
has no value, an expression has no value or one that nothing keeps, or there is nothing to resume. -/
def Refuses (interpreter : Interpreter) (a : Adapter) : Command → Prop
  | .launch data => a.launched = true ∨ ∀ json args, data = some json → LaunchArgs.read json ≠ .ok args
  | .expand id => ∀ v, a.session.cachedValue id ≠ .ok v
  | .evaluate expression =>
    a.session.isSet .paused = false ∨
      ∀ v, interpreter.evaluate expression (a.session.saved.bind (·.scope)) a.session.unit = .ok v →
        v.hasChildren = true ∧ a.session.hasSaved = false
  | .resume _ => a.session.isSet .paused = false ∨ a.session.isSet .terminate = true
  | .initialization | .unsupported _ => True
  | _ => False

/-- A command is refused in the given state, which stays as it is. -/
def Rejected (setup : Setup) (interpreter : Interpreter) (a : Adapter) (command : Command) : Prop :=
  a.Refuses interpreter command ∧ ∃ err, a.execute setup interpreter command = some (a, .error err)

/-- A command is carried out. -/
def Accepted (setup : Setup) (interpreter : Interpreter) (a : Adapter) (command : Command) : Prop :=
  ¬ a.Refuses interpreter command ∧ ∃ a' body, a.execute setup interpreter command = some (a', .ok body)

variable (setup : Setup) (interpreter : Interpreter) (a : Adapter)

private theorem execute_launch_cases (data : Option Json) :
    a.Rejected setup interpreter (.launch data) ∨ a.Accepted setup interpreter (.launch data) := by
  cases hl : a.launched with
  | true => exact .inl ⟨.inl hl, .alreadyLaunched, by simp [execute, launchArgs, hl]⟩
  | false =>
    cases data with
    | none => exact .inl ⟨.inr (by simp), .missingLaunchArguments, by simp [execute, launchArgs, hl]⟩
    | some json =>
      cases hargs : LaunchArgs.read json with
      | error cause =>
        refine .inl ⟨.inr fun json' args hj => ?_, .launchArguments cause, ?_⟩
        · rw [← Option.some.inj hj, hargs]
          simp
        · rw [execute, launchArgs, hl, hargs]
          rfl
      | ok args =>
        refine .inr ⟨?_, a.launch setup interpreter args, .empty, ?_⟩
        · rintro (h | h)
          · rw [hl] at h
            contradiction
          · exact h json args rfl hargs
        · rw [execute, launchArgs, hl, hargs]
          rfl

private theorem execute_expand_cases (id : Int) :
    a.Rejected setup interpreter (.expand id) ∨ a.Accepted setup interpreter (.expand id) := by
  cases hv : a.session.cachedValue id with
  | error err =>
    refine .inl ⟨fun v h => ?_, .session err, ?_⟩
    · rw [hv] at h
      contradiction
    · simp only [execute, expand, hv]
      rfl
  | ok v =>
    obtain ⟨snapshot, hs⟩ := Session.saved_of_cachedValue hv
    obtain ⟨views, hviews, -⟩ := variableViews_of_saved hs v.children
    exact .inr ⟨fun h => h v hv, _, .expansion views, by simp only [execute, expand, hv, hviews]; rfl⟩

private theorem execute_scopes_accepted : a.Accepted setup interpreter .scopes := by
  refine ⟨id, ?_⟩
  cases hs : a.session.saved with
  | none => exact ⟨a, .scopes [], by simp only [execute, scopeViews, hs]; rfl⟩
  | some snapshot =>
    cases hscope : snapshot.scope with
    | none => exact ⟨a, .scopes [], by simp only [execute, scopeViews, hs, Option.bind_some, hscope]; rfl⟩
    | some scope => exact ⟨_, _, by rw [execute, scopeViews_of_saved hs hscope]; rfl⟩

private theorem execute_evaluate_cases (expression : String) :
    a.Rejected setup interpreter (.evaluate expression) ∨ a.Accepted setup interpreter (.evaluate expression) := by
  cases hp : a.session.flags.paused with
  | false =>
    refine .inl ⟨.inl (by rw [Session.isSet_paused, hp]), .session .notPaused, ?_⟩
    simp only [execute, evaluate, hp]
    rfl
  | true =>
    have hset : a.session.isSet .paused ≠ false := by simp [hp]
    cases hv : interpreter.evaluate expression (a.session.saved.bind (·.scope)) a.session.unit with
    | error text =>
      refine .inl ⟨.inr fun v h => ?_, .evaluation text, ?_⟩
      · rw [hv] at h
        contradiction
      · simp only [execute, evaluate, hp, hv]
        rfl
    | ok v =>
      cases hs : a.session.saved with
      | some snapshot =>
        refine .inr ⟨?_, ?_⟩
        · rintro (h | h)
          · exact hset h
          · simpa [Session.hasSaved, hs] using (h v hv).2
        · rw [hs] at hv
          exact ⟨_, _, by simp only [execute, evaluate, hp, hs, hv, reference_of_saved hs]; rfl⟩
      | none =>
        -- the flag was set directly, and there is nothing to keep a container for the client
        have hexecute := reference_of_not_saved hs v
        cases hc : v.hasChildren with
        | true =>
          refine .inl ⟨.inr fun v' h => ?_, .session .notPaused, ?_⟩
          · rw [hv] at h
            cases h
            exact ⟨hc, by rw [Session.hasSaved, hs]; rfl⟩
          · rw [hs] at hv
            simp only [execute, evaluate, hp, hs, hv, hexecute, hc]
            rfl
        | false =>
          refine .inr ⟨?_, ?_⟩
          · rintro (h | h)
            · exact hset h
            · rw [(h v hv).1] at hc
              contradiction
          · rw [hs] at hv
            exact ⟨a, _, by simp only [execute, evaluate, hp, hs, hv, hexecute, hc]; rfl⟩

private theorem execute_resume_cases {a : Adapter} (hset : a.engine.Settled)
    (hm : a.session.flags.terminate = a.session.ended) (command : Resume) :
    a.Rejected setup interpreter (.resume command) ∨ a.Accepted setup interpreter (.resume command) := by
  have hstep := Engine.step_of_served setup a.engine (.resume command) (by simp) (by simp)
  rcases a.engine.serve_resume_cases command with ⟨hnot, err, hserve⟩ | ⟨⟨ht, hp⟩, hserve⟩
  · refine .inl ⟨?_, .session err, ?_⟩
    · simp only [Refuses, Session.isSet_paused, Session.isSet_terminate, ← hm, Bool.or_self]
      cases hp : a.session.flags.paused with
      | false => exact .inl rfl
      | true =>
        cases ht : a.session.flags.terminate with
        | true => exact .inr rfl
        | false => exact absurd ⟨ht, hp⟩ hnot
    · rw [hserve, Engine.settle_of_settled setup hset] at hstep
      simp only [execute, operate, hstep]
  · refine .inr ⟨?_, ?_⟩
    · simp only [Refuses, Session.isSet_paused, Session.isSet_terminate, ← hm, Bool.or_self]
      rintro (h | h)
      · cases hp.symm.trans h
      · cases ht.symm.trans h
    · rw [hserve] at hstep
      exact ⟨_, _, by simp only [execute, operate, hstep]; rfl⟩

/-- Where nothing that is waited for has happened, a command is refused and changes nothing, or is carried out. -/
private theorem execute_cases {a : Adapter} (hset : a.engine.Settled) (hm : a.session.flags.terminate = a.session.ended)
    (command : Command) :
    a.Refuses interpreter command ∧ a.execute setup interpreter command = none ∨
      a.Rejected setup interpreter command ∨ a.Accepted setup interpreter command := by
  cases command with
  | launch data => exact .inr (execute_launch_cases setup interpreter a data)
  | expand id => exact .inr (execute_expand_cases setup interpreter a id)
  | scopes => exact .inr (.inr (execute_scopes_accepted setup interpreter a))
  | evaluate expression => exact .inr (execute_evaluate_cases setup interpreter a expression)
  | resume command => exact .inr (execute_resume_cases setup interpreter hset hm command)
  | initialization => exact .inl ⟨trivial, rfl⟩
  | unsupported name => exact .inl ⟨trivial, rfl⟩
  | _ => exact .inr (.inr ⟨id, _, _, rfl⟩)

/-- In every state that a run reaches, whatever the flags were set to directly, a request fails just when the state
refuses its command, and a request that fails changes nothing: not the session with its flags, depth, snapshot, values,
breakpoints, tokens and events, not the call that waits, and not the launch. -/
theorem refused_without_trace (files : Files) (inputs : List Input) (r : Request) :
    let a := (new setup files).run setup interpreter inputs
    ((a.handle setup interpreter r).2.Failed ↔ a.Refuses interpreter r.command) ∧
      ((a.handle setup interpreter r).2.Failed → (a.handle setup interpreter r).1 = a) := by
  intro a
  have hset : a.engine.Settled := settled_run setup interpreter files inputs
  have hm : a.session.flags.terminate = a.session.ended := mirrored_run setup interpreter files inputs
  rcases execute_cases setup interpreter hset hm r.command with ⟨hr, he⟩ | ⟨hr, err, he⟩ | ⟨hr, a', body, he⟩
  · have hhandle : a.handle setup interpreter r = (a, .unhandled) := by rw [handle, he]
    rw [hhandle]
    exact ⟨⟨fun _ => hr, fun _ => trivial⟩, fun _ => rfl⟩
  · have hhandle : a.handle setup interpreter r = (a, .response ⟨r.seq, .error err.message⟩) := by rw [handle, he]
    rw [hhandle]
    exact ⟨⟨fun _ => hr, fun _ => trivial⟩, fun _ => rfl⟩
  · have hanswer : ¬ (a.handle setup interpreter r).2.Failed := by
      simp only [handle, he]
      split <;> exact id
    exact ⟨⟨fun h => absurd h hanswer, fun h => absurd h hr⟩, fun h => absurd h hanswer⟩

/-- The paused flag is set directly before there was a pause: an expression whose value is a container cannot be shown,
for there is no snapshot to keep it, and the refusal leaves the flag and everything else as it is. -/
theorem refused_without_snapshot :
    let interpreter := Interpreter.scripted [] (.ok 0) [("facts", .hash [("os", .string "Debian")])]
    let inputs : List Input := [.operation (.assert .paused), .operation (.assert .startRequested)]
    let a := (new {} {}).run {} interpreter inputs
    (a.handle {} interpreter ⟨7, .evaluate "facts"⟩).2.Failed ∧
      (a.handle {} interpreter ⟨7, .evaluate "facts"⟩).1 = a ∧ a.session.isSet .paused = true := by
  intro interpreter inputs a
  obtain ⟨hfails, hsame⟩ := refused_without_trace {} interpreter {} inputs ⟨7, .evaluate "facts"⟩
  have hfailed : (a.handle {} interpreter ⟨7, .evaluate "facts"⟩).2.Failed := by
    refine hfails.2 (.inr fun v hv => ?_)
    have hvalue : interpreter.evaluate "facts" none none = .ok (.hash [("os", .string "Debian")]) := rfl
    rw [← Except.ok.inj (hvalue.symm.trans hv)]
    exact ⟨rfl, rfl⟩
  exact ⟨hfailed, hsame hfailed, rfl⟩

end Adapter

end Debugger
