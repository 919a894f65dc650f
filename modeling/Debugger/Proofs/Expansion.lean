import Debugger.Proofs.References
import Mathlib.Data.List.Forall2

/-!
# Values are unfolded level by level

A client sees a value by going down: it asks for what is inside a reference and goes on with the reference of one of the
variables that it is shown. At a pause this leads to every value inside, and to nothing else, however deep it is and
whatever else the client looks at on its way (`expansion_reconstructs`). A reference that was handed out for a container
keeps its value, since inspections only add to what was handed out (`look_eq`).
-/

namespace Debugger

namespace Value

/-- The value at a position inside a value, with its name: the key in a hash, the position in brackets in an array. -/
def childAt? : Value → Nat → Option (String × Value)
  | array items, i => items[i]?.map fun v => ("[" ++ toString i ++ "]", v)
  | hash entries, i => entries[i]?
  | _, _ => none

/-- The value that a path of positions leads to. -/
def at? (v : Value) : List Nat → Option Value
  | [] => some v
  | i :: path => (v.childAt? i).bind fun child => child.2.at? path

private theorem getElem?_children (v : Value) (i : Nat) : v.children[i]? = v.childAt? i := by
  cases v with
  | array items => exact List.getElem?_mapIdx
  | hash entries => rfl
  | _ => rfl

private theorem childAt?_of_plain {v : Value} (h : v.hasChildren = false) (i : Nat) : v.childAt? i = none := by
  cases v <;> first | rfl | contradiction

end Value

/-- A variable shows a value under a name. -/
structure VariableView.Shows (view : VariableView) (named : String × Value) : Prop where
  name : view.name = named.1
  value : view.value = named.2.render
  type : view.type = named.2.typeName
  reference : view.reference = 0 ↔ named.2.hasChildren = false

private theorem getElem?_of_forall₂ {R : α → β → Prop} {as : List α} {bs : List β} (h : List.Forall₂ R as bs)
    (i : Nat) : Option.Rel R as[i]? bs[i]? := by
  induction h generalizing i with
  | nil => exact .none
  | cons hab _ ih =>
    cases i with
    | zero => exact .some hab
    | succ i => exact ih i

private theorem rel_mono {R S : α → β → Prop} (h : ∀ a b, R a b → S a b) {o : Option α} {o' : Option β}
    (ho : Option.Rel R o o') : Option.Rel S o o' := by
  cases ho with
  | some hab => exact .some (h _ _ hab)
  | none => exact .none

private theorem exists_of_rel_some {R : α → β → Prop} {o : Option α} {b : β} (h : Option.Rel R o (some b)) :
    ∃ a, o = some a ∧ R a b := by
  cases h with
  | some hab => exact ⟨_, rfl, hab⟩

namespace Session

/-- A reference stands for a value: for a container it is looked up, and for anything else it is zero. -/
structure Resolves (s : Session) (reference : Int) (v : Value) : Prop where
  zero : reference = 0 ↔ v.hasChildren = false
  cached : v.hasChildren = true → s.cachedValue reference = .ok v

private theorem cachedValue_handOut {s : Session} {id : Int} {v : Value} (h : s.cachedValue id = .ok v)
    (vs : List Value) : (s.handOut vs).cachedValue id = .ok v := by
  obtain ⟨snapshot, hs⟩ := saved_of_cachedValue h
  rw [cachedValue_iff (handOut_of_saved hs vs), Value.numbered_append]
  exact List.mem_append_left _ ((cachedValue_iff hs).1 h)

private theorem Resolves.handOut {s : Session} {reference : Int} {v : Value} (h : s.Resolves reference v)
    (vs : List Value) : (s.handOut vs).Resolves reference v :=
  ⟨h.zero, fun hc => cachedValue_handOut (h.cached hc) vs⟩

/-- A container that is handed out is looked up under the next number. -/
private theorem resolves_handOut {s : Session} {snapshot : Snapshot} (h : s.saved = some snapshot) (v : Value) :
    (s.handOut (Value.containers [v])).Resolves
      (if v.hasChildren then (snapshot.cache.length + 1 : Nat) else 0) v := by
  cases hc : v.hasChildren with
  | true =>
    have hnext : ((snapshot.cache.length + 1 : Nat) : Int) ≠ 0 := by omega
    refine ⟨by simpa [hc] using hnext, fun _ => ?_⟩
    rw [cachedValue_iff (handOut_of_saved h _), Value.mem_numbered]
    exact ⟨snapshot.cache.length, rfl, by simp [Value.containers, hc]⟩
  | false => exact ⟨by simp [hc], fun ht => by simp [hc] at ht⟩

end Session

/-- The variables that an answer shows. -/
def Answer.views? : Answer → Option (List VariableView)
  | .response ⟨_, .ok (_, .expansion views)⟩ => some views
  | _ => none

/-- A step of a client on its way down into a value: what else it looks at first, the number of its request for what is
inside, and the position of the variable that it goes on with. -/
structure Descent where
  looks : List Request
  seq : Int
  position : Nat

namespace Adapter

variable (setup : Setup) (interpreter : Interpreter)

/-- The front end after a client has looked at some things. -/
def look (a : Adapter) (looks : List Request) : Adapter := a.run setup interpreter (looks.map .request)

/-- Goes down from a reference: the front end at the end of the way, and the reference there. -/
def descend : Adapter → Int → List Descent → Option (Adapter × Int)
  | a, reference, [] => some (a, reference)
  | a, reference, step :: steps =>
    let (a, answer) := (a.look setup interpreter step.looks).handle setup interpreter ⟨step.seq, .expand reference⟩
    match answer.views?.bind (·[step.position]?) with
    | some view => descend a view.reference steps
    | none => none

/-- All that is requested only looks at the session. -/
def Looks (looks : List Request) : Prop := ∀ r ∈ looks, r.command.inspects = true

/-- A client with a reference for a value is shown what is inside: nothing has the reference zero but a value without an
inside, and whatever the client looks at first, it is then shown one variable for each value inside, in order. -/
structure Presents (a : Adapter) (reference : Int) (v : Value) : Prop where
  zero : reference = 0 ↔ v.hasChildren = false
  inside : v.hasChildren = true → ∀ looks, Looks looks → ∀ seq, ∃ a' views,
    (a.look setup interpreter looks).handle setup interpreter ⟨seq, .expand reference⟩ =
        (a', .response ⟨seq, .ok ("variables", .expansion views)⟩) ∧
      ∀ i, Option.Rel VariableView.Shows views[i]? (v.childAt? i)

/-- A client that goes down from a reference comes to the values inside a value, each by its path, and to nothing
else. -/
def Unfolds (a : Adapter) (reference : Int) (v : Value) : Prop :=
  ∀ steps : List Descent, (∀ step ∈ steps, Looks step.looks) →
    Option.Rel (fun place w => place.1.Presents setup interpreter place.2 w)
      (a.descend setup interpreter reference steps) (v.at? (steps.map (·.position)))

/-! ### What looking leaves behind -/

private theorem withSession_withSession (a : Adapter) (s s' : Session) :
    (a.withSession s).withSession s' = a.withSession s' := rfl

/-- A request that looks only hands out values. -/
private theorem handle_eq_of_inspects (a : Adapter) {r : Request} (h : r.command.inspects = true) :
    ∃ vs, (a.handle setup interpreter r).1 = a.withSession (a.session.handOut vs) := by
  have hnothing : a = a.withSession (a.session.handOut []) := by
    rw [Session.handOut_nil]
    rfl
  obtain ⟨seq, command⟩ := r
  cases command with
  | threads => exact ⟨[], hnothing⟩
  | stackTrace => exact ⟨[], hnothing⟩
  | scopes =>
    rw [handle_eq_execute (r := ⟨seq, .scopes⟩) rfl]
    exact ⟨_, congrArg a.withSession (scopeViews_session interpreter a.session)⟩
  | expand id =>
    rw [handle_eq_execute (r := ⟨seq, .expand id⟩) rfl]
    exact ⟨_, congrArg a.withSession (expand_session interpreter a.session id)⟩
  | evaluate expression =>
    rw [handle_eq_execute (r := ⟨seq, .evaluate expression⟩) rfl]
    exact ⟨_, congrArg a.withSession (evaluate_session interpreter a.session expression)⟩
  | _ => contradiction

theorem look_eq (a : Adapter) {looks : List Request} (h : Looks looks) :
    ∃ vs, a.look setup interpreter looks = a.withSession (a.session.handOut vs) := by
  induction looks generalizing a with
  | nil => exact ⟨[], by rw [Session.handOut_nil]; rfl⟩
  | cons r looks ih =>
    obtain ⟨hr, hlooks⟩ := List.forall_mem_cons.1 h
    obtain ⟨vs, hvs⟩ := handle_eq_of_inspects setup interpreter a hr
    obtain ⟨ws, hws⟩ := ih (a.handle setup interpreter r).1 hlooks
    refine ⟨vs ++ ws, hws.trans ?_⟩
    rw [hvs, withSession_withSession, ← Session.handOut_handOut]
    rfl

/-! ### One level -/

/-- At a pause each of some named values is shown by a variable, and each container among them can be asked for. -/
private theorem variableViews_shows {s : Session} {snapshot : Snapshot} (h : s.saved = some snapshot)
    (named : List (String × Value)) :
    ∃ vs views, variableViews s named = (s.handOut vs, .ok views) ∧
      List.Forall₂ (fun view entry => view.Shows entry ∧ (s.handOut vs).Resolves view.reference entry.2) views
        named := by
  induction named generalizing s snapshot with
  | nil => exact ⟨[], [], by rw [Session.handOut_nil]; rfl, .nil⟩
  | cons entry rest ih =>
    obtain ⟨name, v⟩ := entry
    have hfirst := reference_of_saved h v
    have hresolves := Session.resolves_handOut h v
    obtain ⟨vs, views, hviews, hshows⟩ := ih (Session.handOut_of_saved h (Value.containers [v]))
    rw [Session.handOut_handOut] at hviews hshows
    have hview : (⟨name, v.render, v.typeName, if v.hasChildren then (snapshot.cache.length + 1 : Nat) else 0⟩ :
        VariableView).Shows (name, v) := ⟨rfl, rfl, rfl, hresolves.zero⟩
    refine ⟨Value.containers [v] ++ vs, _, by simp only [variableViews, hfirst, hviews], .cons ⟨hview, ?_⟩ hshows⟩
    -- the first value stays cached when the others are handed out
    rw [← Session.handOut_handOut]
    exact hresolves.handOut vs

/-- What is inside a container is shown, and can be asked for in turn. -/
private theorem handle_expand_of_resolves {a : Adapter} {reference : Int} {v : Value}
    (h : a.session.Resolves reference v) (hc : v.hasChildren = true) (seq : Int) :
    ∃ a' views, a.handle setup interpreter ⟨seq, .expand reference⟩ =
        (a', .response ⟨seq, .ok ("variables", .expansion views)⟩) ∧
      ∀ i, Option.Rel (fun view entry => view.Shows entry ∧ a'.session.Resolves view.reference entry.2) views[i]?
        (v.childAt? i) := by
  have hv := h.cached hc
  obtain ⟨snapshot, hs⟩ := Session.saved_of_cachedValue hv
  obtain ⟨vs, views, hviews, hshows⟩ := variableViews_shows hs v.children
  have hexecute : a.execute setup interpreter (.expand reference) =
      some (a.withSession (a.session.handOut vs), .ok (.expansion views)) := by
    simp only [execute, expand, hv, hviews]
    rfl
  refine ⟨_, views, handle_of_ok (r := ⟨seq, .expand reference⟩) hexecute (by simp), fun i => ?_⟩
  rw [← Value.getElem?_children]
  exact getElem?_of_forall₂ hshows i

/-- Nothing is inside a value that is no container. -/
private theorem views?_expand_of_plain {a : Adapter} {reference : Int} {v : Value} (h : a.session.Resolves reference v)
    (hc : v.hasChildren = false) (seq : Int) :
    (a.handle setup interpreter ⟨seq, .expand reference⟩).2.views? = none := by
  rw [h.zero.2 hc]
  have hnone : a.session.cachedValue 0 = .error (.unknownReference 0) := by
    unfold Session.cachedValue
    cases a.session.saved <;> rfl
  simp only [handle, execute, expand, hnone]
  rfl

private theorem resolves_look {a : Adapter} {reference : Int} {v : Value} (h : a.session.Resolves reference v)
    {looks : List Request} (hlooks : Looks looks) :
    (a.look setup interpreter looks).session.Resolves reference v := by
  obtain ⟨vs, hvs⟩ := look_eq setup interpreter a hlooks
  rw [hvs]
  exact h.handOut vs

private theorem presents_of_resolves {a : Adapter} {reference : Int} {v : Value} (h : a.session.Resolves reference v) :
    a.Presents setup interpreter reference v where
  zero := h.zero
  inside hc looks hlooks seq := by
    obtain ⟨a', views, hanswer, hshows⟩ :=
      handle_expand_of_resolves setup interpreter (resolves_look setup interpreter h hlooks) hc seq
    exact ⟨a', views, hanswer, fun i => rel_mono (fun _ _ hboth => hboth.1) (hshows i)⟩

/-! ### All levels -/

private theorem unfolds_of_resolves {a : Adapter} {reference : Int} {v : Value} (h : a.session.Resolves reference v) :
    a.Unfolds setup interpreter reference v := by
  intro steps hsteps
  induction steps generalizing a reference v with
  | nil => exact .some (presents_of_resolves setup interpreter h)
  | cons step steps ih =>
    obtain ⟨hlooks, hrest⟩ := List.forall_mem_cons.1 hsteps
    have hlook := resolves_look setup interpreter h hlooks
    simp only [descend, List.map_cons, Value.at?]
    cases hc : v.hasChildren with
    | false =>
      rw [views?_expand_of_plain setup interpreter hlook hc, Value.childAt?_of_plain hc]
      exact .none
    | true =>
      obtain ⟨a', views, hanswer, hshows⟩ :=
        handle_expand_of_resolves setup interpreter hlook hc step.seq
      have hposition := hshows step.position
      simp only [hanswer, Answer.views?, Option.bind_some]
      revert hposition
      -- there is a variable just if there is a value, and from its reference the rest of the way goes on
      generalize views[step.position]? = view?
      generalize v.childAt? step.position = child?
      intro hposition
      cases hposition with
      | some hboth => exact ih hboth.2 hrest
      | none => exact .none

/-- At a pause in a scope the variables of the scope, all together as a local and a global group, and the value of any
expression are shown with references from which a client comes, down any path of positions and whatever it looks at on
the way, to just the values inside. At each level it is shown a variable for each value, in order, with its name, text,
type, and a reference that is zero just for a value that is no container. -/
theorem expansion_reconstructs (a : Adapter) (scope : Scope)
    (hpaused : a.session.isSet .paused = true) (hscope : a.session.saved.bind (·.scope) = some scope) (seq : Int) :
    (∃ a' l g, a.handle setup interpreter ⟨seq, .scopes⟩ =
        (a', .response ⟨seq, .ok ("scopes", .scopes [⟨"Local", l⟩, ⟨"Global", g⟩])⟩) ∧
      a'.Unfolds setup interpreter l (.hash scope.locals) ∧ a'.Unfolds setup interpreter g (.hash scope.globals)) ∧
      ∀ expression v, interpreter.evaluate expression (some scope) a.session.unit = .ok v →
        ∃ a' reference, a.handle setup interpreter ⟨seq, .evaluate expression⟩ =
            (a', .response ⟨seq, .ok ("evaluate", .value v.render v.typeName reference)⟩) ∧
          a'.Unfolds setup interpreter reference v := by
  obtain ⟨snapshot, hs, hsnapshot⟩ := Option.bind_eq_some_iff.1 hscope
  constructor
  · -- the groups are handed out together, the local one first
    have hboth : (a.session.handOut [.hash scope.locals]).handOut [.hash scope.globals] =
        a.session.handOut [.hash scope.locals, .hash scope.globals] := Session.handOut_handOut ..
    have hlocals := (Session.resolves_handOut hs (.hash scope.locals)).handOut [.hash scope.globals]
    have hglobals := Session.resolves_handOut (Session.handOut_of_saved hs [.hash scope.locals]) (.hash scope.globals)
    have hlength : (snapshot.cache ++ [Value.hash scope.locals]).length = snapshot.cache.length + 1 :=
      List.length_append
    simp only [Value.hasChildren, ↓reduceIte, hlength] at hlocals hglobals
    have hexecute : a.execute setup interpreter .scopes = some
        (a.withSession (a.session.handOut [.hash scope.locals, .hash scope.globals]), .ok (.scopes
          [⟨"Local", (snapshot.cache.length + 1 : Nat)⟩, ⟨"Global", (snapshot.cache.length + 2 : Nat)⟩])) := by
      rw [execute, scopeViews_of_saved hs hsnapshot]
      rfl
    rw [← hboth] at hexecute
    exact ⟨_, _, _, handle_of_ok (r := ⟨seq, .scopes⟩) hexecute (by simp),
      unfolds_of_resolves setup interpreter hlocals, unfolds_of_resolves setup interpreter hglobals⟩
  · intro expression v hv
    have hexecute : a.execute setup interpreter (.evaluate expression) = some
        (a.withSession (a.session.handOut (Value.containers [v])), .ok (.value v.render v.typeName
          (if v.hasChildren then (snapshot.cache.length + 1 : Nat) else 0))) := by
      rw [Session.isSet_paused] at hpaused
      simp only [execute, evaluate, hpaused, hscope, hv, reference_of_saved hs]
      rfl
    exact ⟨_, _, handle_of_ok (r := ⟨seq, .evaluate expression⟩) hexecute (by simp),
      unfolds_of_resolves setup interpreter (Session.resolves_handOut hs v)⟩

/-- At a function breakpoint there is a hash with the same key twice. By the way of the second of these entries, with
other requests on it, the client comes to the empty hash inside, and it comes to it from the value of an expression as
well. -/
theorem expansion_at_breakpoint :
    let tree : Value := .hash [("node", .array []), ("node", .array [.integer 1, .hash []])]
    let scope : Scope := { locals := [("tree", tree)] }
    let called : Node := { id := 0, kind := "CallExpression", function := some "debug::break" }
    let interpreter := Interpreter.scripted [.enter called scope, .leave] (.ok 0) []
    let a := (new {} (({} : Files).write "/site.pp" [])).run {} interpreter
      [.request ⟨1, .configurationDone⟩, .request ⟨2, .launch (some (.obj [("manifest", .str "/site.pp")]))⟩]
    let looks : List Request := [⟨4, .evaluate "$tree"⟩, ⟨5, .scopes⟩, ⟨6, .expand 1⟩]
    (a.session.isSet .paused = true ∧ a.session.saved.bind (·.scope) = some scope ∧
        interpreter.evaluate "$tree" (some scope) a.session.unit = .ok tree) ∧
      (∃ a' l g last reference, a.handle {} interpreter ⟨3, .scopes⟩ =
          (a', .response ⟨3, .ok ("scopes", .scopes [⟨"Local", l⟩, ⟨"Global", g⟩])⟩) ∧
        a'.descend {} interpreter l [⟨[], 7, 0⟩, ⟨looks, 8, 1⟩, ⟨looks, 9, 1⟩] = some (last, reference) ∧
        last.Presents {} interpreter reference (.hash [])) ∧
      ∃ a' text id last reference, a.handle {} interpreter ⟨3, .evaluate "$tree"⟩ =
          (a', .response ⟨3, .ok ("evaluate", .value text "Hash" id)⟩) ∧
        a'.descend {} interpreter id [⟨looks, 8, 1⟩, ⟨looks, 9, 1⟩] = some (last, reference) ∧
        last.Presents {} interpreter reference (.hash []) := by
  intro tree scope called interpreter a looks
  have hpaused : a.session.isSet .paused = true := by decide +kernel
  have hscope : a.session.saved.bind (·.scope) = some scope := by rfl
  have hevaluate : interpreter.evaluate "$tree" (some scope) a.session.unit = .ok tree := by rfl
  have hlooks : Looks looks := by simp [looks, Looks, Command.inspects, Command.showsValues]
  have hnothing : Looks [] := by simp [Looks]
  obtain ⟨⟨a', l, g, hscopes, hlocal, -⟩, hexpressions⟩ :=
    expansion_reconstructs {} interpreter a scope hpaused hscope 3
  obtain ⟨b, id, hvalue, hinside⟩ := hexpressions "$tree" tree hevaluate
  refine ⟨⟨hpaused, hscope, hevaluate⟩, ?_, ?_⟩
  · obtain ⟨place, hplace, hpresents⟩ := exists_of_rel_some
      (hlocal [⟨[], 7, 0⟩, ⟨looks, 8, 1⟩, ⟨looks, 9, 1⟩] (by simp [hlooks, hnothing]))
    exact ⟨a', l, g, place.1, place.2, hscopes, hplace, hpresents⟩
  · obtain ⟨place, hplace, hpresents⟩ := exists_of_rel_some
      (hinside [⟨looks, 8, 1⟩, ⟨looks, 9, 1⟩] (by simp [hlooks]))
    exact ⟨b, _, id, place.1, place.2, hvalue, hplace, hpresents⟩

end Adapter

end Debugger
