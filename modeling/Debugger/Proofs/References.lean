import Debugger.Proofs.Requests

/-!
# References to values

While evaluation is paused the client is handed out references: by operations that cache a value, two for the groups of
variables of a scope, one for every container among the values that are expanded, one for the value of an expression.
Read off the answers since the stop, they are 1, 2, 3, … in this order, and each one resolves to the value that it was
handed out for up to the next resume that is granted. No other number resolves, and after a resume none does
(`references_count_and_resolve`).
-/

namespace Debugger

/-- The references in a body, in order. -/
def Body.references : Body → List Int
  | .scopes groups => groups.map (·.reference)
  | .expansion views => views.map (·.reference)
  | .value _ _ reference => [reference]
  | _ => []

/-- The references in what comes back for an input, in order. -/
def Output.references : Output → List Int
  | .answer (.response ⟨_, .ok (_, body)⟩) => body.references
  | .reply (.id reference) => [reference]
  | _ => []

/-- Whether an input is a resume that was granted. -/
def Input.grants : Input → Output → Bool
  | .operation op, .reply reply => op.grants reply
  | .request ⟨_, .resume _⟩, .answer (.response ⟨_, .ok _⟩) => true
  | _, _ => false

/-- Values with consecutive numbers, after as many as there were before. -/
def Value.numbered (n : Nat) (vs : List Value) : List (Int × Value) :=
  (vs.zipIdx (n + 1)).map fun entry => ((entry.2 : Int), entry.1)

namespace Value

theorem numbered_append (n : Nat) (vs ws : List Value) :
    numbered n (vs ++ ws) = numbered n vs ++ numbered (n + vs.length) ws := by
  rw [numbered, List.zipIdx_append, List.map_append, Nat.add_right_comm]
  rfl

private theorem map_fst_numbered (n : Nat) (vs : List Value) :
    (numbered n vs).map (·.1) = (List.range' (n + 1) vs.length).map Int.ofNat := by
  rw [numbered, List.map_map, ← List.zipIdx_map_snd (n + 1) vs, List.map_map]
  rfl

private theorem length_numbered (n : Nat) (vs : List Value) : (numbered n vs).length = vs.length := by
  rw [numbered, List.length_map, List.length_zipIdx]

theorem mem_numbered {vs : List Value} {id : Int} {v : Value} :
    (id, v) ∈ numbered 0 vs ↔ ∃ n : Nat, id = Int.ofNat (n + 1) ∧ vs[n]? = some v := by
  simp only [numbered, List.mem_map, Prod.mk.injEq, Prod.exists, List.mem_zipIdx_iff_le_and_getElem?_sub]
  constructor
  · rintro ⟨w, i, ⟨hle, hw⟩, rfl, rfl⟩
    refine ⟨i - 1, ?_, by simpa using hw⟩
    rw [Nat.sub_add_cancel (by omega)]
    rfl
  · rintro ⟨n, rfl, hv⟩
    exact ⟨v, n + 1, ⟨by omega, by simpa using hv⟩, rfl, rfl⟩

end Value

theorem Session.cachedValue_iff {s : Session} {snapshot : Snapshot} (h : s.saved = some snapshot) {id : Int}
    {v : Value} : s.cachedValue id = .ok v ↔ (id, v) ∈ Value.numbered 0 snapshot.cache := by
  rw [Value.mem_numbered]
  unfold cachedValue
  rw [h]
  match id with
  | .ofNat 0 => exact ⟨nofun, fun ⟨_, hm, _⟩ => nomatch hm⟩
  | .ofNat (n + 1) =>
    have hn : ∀ m : Nat, Int.ofNat (n + 1) = Int.ofNat (m + 1) ↔ m = n :=
      fun m => ⟨fun hm => by cases hm; rfl, fun hm => by rw [hm]⟩
    simp only [hn, exists_eq_left]
    cases snapshot.cache[n]? <;> simp
  | .negSucc n => exact ⟨nofun, fun ⟨_, hm, _⟩ => nomatch hm⟩

namespace Adapter

variable (setup : Setup) (interpreter : Interpreter)

/-- The values that an input shows, in order. -/
def shownBy (a : Adapter) : Input → List Value
  | .request r => shown interpreter a.session r.command
  | .operation op => op.values

/-- The references that an input hands out, each with its value, read off what comes back. A zero is no reference, but
a container always has one. -/
def handed (a : Adapter) (i : Input) : List (Int × Value) :=
  ((a.take setup interpreter i).2.references.zip (a.shownBy interpreter i)).filter fun entry =>
    entry.1 ≠ 0 || entry.2.hasChildren

/-- The references that a run hands out, in order. -/
def handedAlong : Adapter → List Input → List (Int × Value)
  | _, [] => []
  | a, i :: inputs => a.handed setup interpreter i ++ handedAlong (a.take setup interpreter i).1 inputs

/-- No resume is granted along a run. -/
def Unresumed : Adapter → List Input → Prop
  | _, [] => True
  | a, i :: inputs =>
    i.grants (a.take setup interpreter i).2 = false ∧ Unresumed (a.take setup interpreter i).1 inputs

/-- The values that an input puts into the snapshot. -/
def kept (a : Adapter) : Input → List Value
  | .request r => Value.containers (shown interpreter a.session r.command)
  | .operation op => op.values

/-! ### What one input hands out -/

variable {setup interpreter} {a : Adapter}

private theorem filter_zip_references (n : Nat) (vs : List Value) :
    ((Value.references n vs).zip vs).filter (fun entry => entry.1 ≠ 0 || entry.2.hasChildren) =
      Value.numbered n (Value.containers vs) := by
  induction vs generalizing n with
  | nil => rfl
  | cons v vs ih =>
    cases hc : v.hasChildren with
    | true =>
      have hcons : Value.containers (v :: vs) = [v] ++ Value.containers vs := by simp [Value.containers, hc]
      rw [hcons, Value.numbered_append, ← ih]
      simp [Value.references, hc, Value.numbered]
    | false => simpa [Value.references, Value.containers, hc] using ih n

theorem handle_of_ok {r : Request} {a' : Adapter} {body : Body}
    (h : a.execute setup interpreter r.command = some (a', .ok body)) (hr : r.command ≠ .disconnect) :
    a.handle setup interpreter r = (a', .response ⟨r.seq, .ok (r.command.name, body)⟩) := by
  simp only [handle, h]
  rfl

private theorem handed_of_body {r : Request} {a' : Adapter} {body : Body} {n : Nat}
    (h : a.execute setup interpreter r.command = some (a', .ok body)) (hr : r.command ≠ .disconnect)
    (hbody : body.references = Value.references n (shown interpreter a.session r.command)) :
    a.handed setup interpreter (.request r) =
      Value.numbered n (Value.containers (shown interpreter a.session r.command)) := by
  have hreferences : (a.take setup interpreter (.request r)).2.references = body.references := by
    simp only [take, handle_of_ok h hr]
    rfl
  rw [handed, hreferences, hbody]
  exact filter_zip_references n _

private theorem handed_of_error {r : Request} {a' : Adapter} {err : AdapterError}
    (h : a.execute setup interpreter r.command = some (a', .error err)) :
    a.handed setup interpreter (.request r) = [] := by
  simp [handed, take, handle, h, Output.references]

private theorem handed_of_nothing {i : Input} (h : a.shownBy interpreter i = []) :
    a.handed setup interpreter i =
      a.session.saved.elim [] fun snapshot => Value.numbered snapshot.cache.length (a.kept interpreter i) := by
  have hkept : a.kept interpreter i = [] := by
    cases i with
    | request r =>
      have hshown : shown interpreter a.session r.command = [] := h
      rw [kept, hshown]
      rfl
    | operation op => exact h
  rw [handed, h, List.zip_nil_right, hkept]
  cases a.session.saved <;> rfl

private theorem handed_cache (v : Value) :
    a.handed setup interpreter (.operation (.cache v)) =
      a.session.saved.elim [] fun snapshot => Value.numbered snapshot.cache.length [v] := by
  have hserve : (a.take setup interpreter (.operation (.cache v))).2 = .reply (a.engine.serve (.cache v)).2 := rfl
  have hsession : a.engine.session = a.session := rfl
  rw [handed, hserve]
  simp only [Engine.serve, hsession, Session.cacheValue_eq]
  cases a.session.saved with
  | none => rfl
  | some snapshot =>
    have hpos : (snapshot.cache.length : Int) + 1 ≠ 0 := by omega
    simp [Output.references, shownBy, Operation.values, Value.numbered, hpos]

private theorem handed_evaluate (seq : Int) (expression : String) :
    a.handed setup interpreter (.request ⟨seq, .evaluate expression⟩) =
      a.session.saved.elim [] fun snapshot => Value.numbered snapshot.cache.length
        (a.kept interpreter (.request ⟨seq, .evaluate expression⟩)) := by
  cases hp : a.session.flags.paused with
  | false => exact handed_of_nothing (by simp [shownBy, shown, hp])
  | true =>
    cases hv : interpreter.evaluate expression (a.session.saved.bind (·.scope)) a.session.unit with
    | error text => exact handed_of_nothing (by simp [shownBy, shown, hp, hv])
    | ok v =>
      have hshown : shown interpreter a.session (.evaluate expression) = [v] := by simp [shown, hp, hv]
      cases hs : a.session.saved with
      | some snapshot =>
        rw [hs] at hv
        refine handed_of_body (r := ⟨seq, .evaluate expression⟩) (n := snapshot.cache.length)
          (by simp only [execute, evaluate, hp, hs, hv, reference_of_saved hs]; rfl) (by simp) ?_
        rw [hshown]
        cases hc : v.hasChildren <;> simp [Body.references, Value.references, hc]
      | none =>
        -- the flag was set directly: a container is refused, and other values have no reference
        rw [hs] at hv
        have hreference := reference_of_not_saved hs v
        cases hc : v.hasChildren with
        | true =>
          have hexecute : a.execute setup interpreter (.evaluate expression) =
              some (a, .error (.session .notPaused)) := by
            simp only [execute, evaluate, hp, hs, hv, hreference, hc]
            rfl
          exact handed_of_error (r := ⟨seq, .evaluate expression⟩) hexecute
        | false =>
          have hexecute : a.execute setup interpreter (.evaluate expression) =
              some (a, .ok (.value v.render v.typeName 0)) := by
            simp only [execute, evaluate, hp, hs, hv, hreference, hc]
            rfl
          have hanswer := handle_of_ok (r := ⟨seq, .evaluate expression⟩) hexecute (by simp)
          simp [handed, take, hanswer, Output.references, Body.references, shownBy, hshown, hc]

/-- What an input hands out are the values that it puts into the snapshot, under the next numbers. -/
private theorem handed_eq (i : Input) :
    a.handed setup interpreter i =
      a.session.saved.elim [] fun snapshot => Value.numbered snapshot.cache.length (a.kept interpreter i) := by
  cases i with
  | operation op =>
    cases op with
    | cache v => exact handed_cache v
    | _ => exact handed_of_nothing rfl
  | request r =>
    obtain ⟨seq, command⟩ := r
    cases command with
    | scopes =>
      cases hs : a.session.saved.bind (·.scope) with
      | none => exact handed_of_nothing (by rw [shownBy, shown, hs]; rfl)
      | some scope =>
        obtain ⟨snapshot, hsaved, hscope⟩ := Option.bind_eq_some_iff.1 hs
        rw [hsaved]
        refine handed_of_body (r := ⟨seq, .scopes⟩) (n := snapshot.cache.length)
          (by rw [execute, scopeViews_of_saved hsaved hscope]; rfl) (by simp) ?_
        rw [shown, hs]
        rfl
    | expand id =>
      cases hv : a.session.cachedValue id with
      | error err => exact handed_of_nothing (by rw [shownBy, shown, hv])
      | ok v =>
        obtain ⟨snapshot, hsaved⟩ := Session.saved_of_cachedValue hv
        obtain ⟨views, hviews, hreferences⟩ := variableViews_of_saved hsaved v.children
        rw [hsaved]
        have hexecute : a.execute setup interpreter (.expand id) =
            some (a.withSession (expand a.session id).1, .ok (.expansion views)) := by
          simp only [execute, expand, hv, hviews]
          rfl
        refine handed_of_body (r := ⟨seq, .expand id⟩) (n := snapshot.cache.length) hexecute (by simp) ?_
        rw [shown, hv]
        exact hreferences
    | evaluate expression => exact handed_evaluate seq expression
    | _ => exact handed_of_nothing rfl

/-! ### What an input does to the snapshot -/

variable (setup interpreter)

private theorem grants_resume (seq : Int) (command : Resume) :
    (Input.request ⟨seq, .resume command⟩).grants (a.take setup interpreter (.request ⟨seq, .resume command⟩)).2 =
      (Operation.resume command).grants (a.engine.step setup (.resume command)).2.1 := by
  have hstep := Engine.step_of_served setup a.engine (.resume command) (by simp) (by simp)
  rcases a.engine.serve_resume_cases command with ⟨-, err, hs⟩ | ⟨-, hs⟩ <;>
    rw [hs] at hstep <;> simp only [take, handle, execute, operate, hstep] <;> rfl

/-- An input is one operation, or it caches values. -/
theorem operationsOf_cases (a : Adapter) (i : Input) :
    (∃ op, a.operationsOf interpreter i = [op] ∧ op.values = a.kept interpreter i ∧
        i.grants (a.take setup interpreter i).2 = op.grants (a.engine.step setup op).2.1) ∨
      a.operationsOf interpreter i = (a.kept interpreter i).map .cache ∧
        i.grants (a.take setup interpreter i).2 = false := by
  cases i with
  | operation op => exact .inl ⟨op, rfl, rfl, rfl⟩
  | request r =>
    obtain ⟨seq, command⟩ := r
    cases command with
    | launch data =>
      simp only [operationsOf, operations]
      split
      · exact .inl ⟨_, rfl, rfl, rfl⟩
      · exact .inr ⟨rfl, rfl⟩
    | setBreakpoints source breakpoints lines =>
      simp only [operationsOf, operations]
      cases source.path with
      | none => exact .inr ⟨rfl, rfl⟩
      | some path => exact .inl ⟨_, rfl, rfl, rfl⟩
    | setFunctionBreakpoints names => exact .inl ⟨_, rfl, rfl, rfl⟩
    | configurationDone => exact .inl ⟨_, rfl, rfl, rfl⟩
    | resume command => exact .inl ⟨_, rfl, rfl, grants_resume setup interpreter seq command⟩
    | disconnect => exact .inl ⟨_, rfl, rfl, rfl⟩
    | _ => exact .inr ⟨rfl, rfl⟩

/-- An input stops evaluation, or it keeps the snapshot with the values that it hands out, or it drops the snapshot by a
resume that is granted. -/
theorem take_saved (hset : a.engine.Settled) (i : Input) :
    let a' := (a.take setup interpreter i).1
    a'.session.stops = a.session.stops ∧
        a'.session.saved = (if i.grants (a.take setup interpreter i).2 then none
          else (a.session.handOut (a.kept interpreter i)).saved) ∨
      a'.session.stops ≠ a.session.stops ∧ Engine.Halted a'.engine.waiting a'.session := by
  simp only [session, take_engine setup interpreter hset i]
  rcases operationsOf_cases setup interpreter a i with
    ⟨op, hops, hvalues, hgrants⟩ | ⟨hops, hgrants⟩
  · rw [hops, hgrants, ← hvalues]
    exact Engine.step_saved setup a.engine op
  · rw [hops, hgrants, Engine.run_cache setup hset]
    exact .inl ⟨rfl, rfl⟩

theorem settled_take (hset : a.engine.Settled) (i : Input) : (a.take setup interpreter i).1.engine.Settled := by
  rw [take_engine setup interpreter hset i]
  exact Engine.settled_run hset _

theorem stops_prefix_take (hset : a.engine.Settled) (i : Input) :
    a.session.stops <+: (a.take setup interpreter i).1.session.stops := by
  rw [session, session, take_engine setup interpreter hset i]
  exact Engine.stops_prefix_run setup a.engine _

theorem held_take (hset : a.engine.Settled) (h : a.engine.Held) {i : Input}
    (hgrants : i.grants (a.take setup interpreter i).2 = false) :
    (a.take setup interpreter i).1.engine.Held ∧
      (a.take setup interpreter i).1.session.stops = a.session.stops := by
  simp only [session, take_engine setup interpreter hset i]
  rcases operationsOf_cases setup interpreter a i with
    ⟨op, hops, -, hsame⟩ | ⟨hops, -⟩
  · rw [hops]
    exact Engine.held_step setup h (hsame ▸ hgrants)
  · rw [hops, Engine.run_cache setup hset]
    exact ⟨h, rfl⟩

/-! ### Runs -/

theorem stops_prefix_inputs (hset : a.engine.Settled) (inputs : List Input) :
    a.session.stops <+: (a.run setup interpreter inputs).session.stops := by
  obtain ⟨ops, hops⟩ := run_engine setup interpreter hset inputs
  rw [session, session, hops]
  exact Engine.stops_prefix_run setup a.engine ops

/-- As long as no resume is granted there is no other stop, and what is handed out is added to the snapshot. -/
private theorem numbered_run {snapshot : Snapshot} (hset : a.engine.Settled) (hheld : a.engine.Held)
    (hsaved : a.session.saved = some snapshot) {inputs : List Input} (h : Unresumed setup interpreter a inputs) :
    (a.run setup interpreter inputs).session.stops = a.session.stops ∧
      ∃ snapshot', (a.run setup interpreter inputs).session.saved = some snapshot' ∧
        Value.numbered 0 snapshot'.cache =
          Value.numbered 0 snapshot.cache ++ a.handedAlong setup interpreter inputs := by
  induction inputs generalizing a snapshot with
  | nil => exact ⟨rfl, snapshot, hsaved, by rw [handedAlong, List.append_nil]⟩
  | cons i inputs ih =>
    obtain ⟨hheld', hstops⟩ := held_take setup interpreter hset hheld h.1
    have hkept : (a.take setup interpreter i).1.session.saved = (a.session.handOut (a.kept interpreter i)).saved := by
      rcases take_saved setup interpreter hset i with ⟨-, hs⟩ | ⟨hne, -⟩
      · rwa [h.1] at hs
      · exact absurd hstops hne
    rw [Session.handOut_of_saved hsaved] at hkept
    obtain ⟨hstops', snapshot', hsaved', hnumbered⟩ := ih (settled_take setup interpreter hset i) hheld' hkept h.2
    refine ⟨hstops'.trans hstops, snapshot', hsaved', ?_⟩
    rw [hnumbered, Value.numbered_append, Nat.zero_add, handedAlong, handed_eq i, hsaved, List.append_assoc]
    rfl

/-- Without a snapshot there is none until the next stop. -/
theorem not_saved_run (hset : a.engine.Settled) (hsaved : a.session.saved = none) {inputs : List Input}
    (h : (a.run setup interpreter inputs).session.stops = a.session.stops) :
    (a.run setup interpreter inputs).session.saved = none := by
  induction inputs generalizing a with
  | nil => exact hsaved
  | cons i inputs ih =>
    have hset' := settled_take setup interpreter hset i
    have hprefix := stops_prefix_take setup interpreter hset i
    have hprefix' := stops_prefix_inputs setup interpreter hset' inputs
    rw [← run_cons, h] at hprefix'
    have hstops := hprefix'.eq_of_length_le hprefix.length_le
    refine ih hset' ?_ (h.trans hstops.symm)
    rcases take_saved setup interpreter hset i with ⟨-, hs⟩ | ⟨hne, -⟩
    · rw [Session.handOut_of_not_saved hsaved, hsaved, ite_self] at hs
      exact hs
    · exact absurd hstops hne

/-- From an input that stops evaluation up to the next resume that is granted, whatever else happens, the references
that are handed out are 1, 2, 3, … in order, there is no other stop, and a number resolves just to the value that it was
handed out for. From a resume that is granted up to the next stop no number resolves, and no value can be cached. -/
theorem references_count_and_resolve (files : Files) (before : List Input) (i : Input) (later : List Input) :
    let a := (new setup files).run setup interpreter before
    let next := (a.take setup interpreter i).1
    let last := next.run setup interpreter later
    let handed := next.handedAlong setup interpreter later
    (next.session.stops ≠ a.session.stops → Unresumed setup interpreter next later →
        handed.map (·.1) = (List.range' 1 handed.length).map Int.ofNat ∧
          (∀ id v, last.session.cachedValue id = .ok v ↔ (id, v) ∈ handed) ∧
          last.session.stops = next.session.stops) ∧
      (i.grants (a.take setup interpreter i).2 = true → last.session.stops = a.session.stops →
        (∀ id, last.session.cachedValue id = .error (.unknownReference id)) ∧
          ∀ v, last.session.cacheValue v = .error .notPaused) := by
  intro a next last handed
  have hset : a.engine.Settled := settled_run setup interpreter files before
  have hset' : next.engine.Settled := settled_take setup interpreter hset i
  have htake := take_saved setup interpreter hset i
  constructor
  · intro hstop hlater
    obtain ⟨-, hhalted⟩ := htake.resolve_left fun h => hstop h.1
    have hm : next.session.flags.terminate = next.session.ended := by
      have hrun : next = (new setup files).run setup interpreter (before ++ [i]) := by rw [run_append]; rfl
      rw [hrun]
      exact mirrored_run setup interpreter files (before ++ [i])
    obtain ⟨snapshot, hsaved, hfresh⟩ := hhalted.fresh
    obtain ⟨hstops, snapshot', hsaved', hnumbered⟩ :=
      numbered_run setup interpreter hset' (hhalted.held hm) hsaved hlater
    have hhanded : Value.numbered 0 snapshot'.cache = handed := by
      rw [hnumbered, hfresh]
      rfl
    refine ⟨?_, fun id v => ?_, hstops⟩
    · rw [← hhanded, Value.map_fst_numbered, Value.length_numbered]
    · rw [← hhanded]
      exact Session.cachedValue_iff hsaved'
  · intro hgrants hstops
    have hprefix : a.session.stops <+: next.session.stops := stops_prefix_take setup interpreter hset i
    have hprefix' : next.session.stops <+: last.session.stops := stops_prefix_inputs setup interpreter hset' later
    rw [hstops] at hprefix'
    have hsame := hprefix'.eq_of_length_le hprefix.length_le
    have hdropped : next.session.saved = none := by
      rcases htake with ⟨-, hs⟩ | ⟨hne, -⟩
      · rwa [hgrants] at hs
      · exact absurd hsame hne
    have hnone : last.session.saved = none := not_saved_run setup interpreter hset' hdropped (hstops.trans hsame.symm)
    exact ⟨fun id => by simp [Session.cachedValue, hnone], fun v => by simp [Session.cacheValue, hnone]⟩

/-- At a function breakpoint the client looks at the variables of the scope, at what is inside the local ones, caches a
value and evaluates an expression: the references are 1 to 5. After a resume the first of them does not resolve. -/
theorem references_at_breakpoint :
    let scope : Scope := { locals := [("port", .integer 80), ("packages", .array [.string "nginx"])] }
    let called : Node := { id := 0, kind := "CallExpression", function := some "debug::break" }
    let interpreter := Interpreter.scripted [.enter called scope, .leave] (.ok 0) []
    let files := ({} : Files).write "/site.pp" []
    let configured : List Input := [.request ⟨1, .configurationDone⟩]
    let launch : Input := .request ⟨2, .launch (some (.obj [("manifest", .str "/site.pp")]))⟩
    let looks : List Input := [.request ⟨3, .scopes⟩, .request ⟨4, .expand 1⟩, .operation (.cache .undef),
      .request ⟨5, .evaluate "$packages"⟩]
    let resume : Input := .request ⟨6, .resume .continue⟩
    let a := (new {} files).run {} interpreter configured
    let next := (a.take {} interpreter launch).1
    let last := next.run {} interpreter looks
    let a' := (new {} files).run {} interpreter (configured ++ launch :: looks)
    let next' := (a'.take {} interpreter resume).1
    ((next.session.stops ≠ a.session.stops ∧ Unresumed {} interpreter next looks) ∧
        resume.grants (a'.take {} interpreter resume).2 = true ∧ next'.session.stops = a'.session.stops) ∧
      (next.handedAlong {} interpreter looks).map (·.1) = [1, 2, 3, 4, 5] ∧
      (∃ v, (5, v) ∈ next.handedAlong {} interpreter looks ∧ last.session.cachedValue 5 = .ok v) ∧
      next'.session.cachedValue 1 = .error (.unknownReference 1) := by
  intro scope called interpreter files configured launch looks resume a next last a' next'
  have hstop : next.session.stops ≠ a.session.stops := by decide +kernel
  have hlooks : Unresumed {} interpreter next looks :=
    ⟨by decide +kernel, by decide +kernel, by decide +kernel, by decide +kernel, trivial⟩
  have hgrants : resume.grants (a'.take {} interpreter resume).2 = true := by decide +kernel
  have hstops : next'.session.stops = a'.session.stops := by decide +kernel
  have hlength : (next.handedAlong {} interpreter looks).length = 5 := by decide +kernel
  obtain ⟨hpause, -⟩ := references_count_and_resolve {} interpreter files configured launch looks
  obtain ⟨-, hresume⟩ := references_count_and_resolve {} interpreter files (configured ++ launch :: looks) resume []
  obtain ⟨hnumbers, hresolves, -⟩ := hpause hstop hlooks
  have hmap : (next.handedAlong {} interpreter looks).map (·.1) = [1, 2, 3, 4, 5] := by
    rw [hnumbers, hlength]
    rfl
  have hfive : (5 : Int) ∈ (next.handedAlong {} interpreter looks).map (·.1) := by
    rw [hmap]
    decide
  obtain ⟨⟨id, v⟩, hmem, rfl⟩ := List.mem_map.1 hfive
  exact ⟨⟨⟨hstop, hlooks⟩, hgrants, hstops⟩, hmap, ⟨v, hmem, (hresolves 5 v).2 hmem⟩,
    (hresume hgrants hstops).1 1⟩

end Adapter

end Debugger
