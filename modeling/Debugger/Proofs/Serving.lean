import Debugger.Serve
import Mathlib.Data.List.Forall2

/-!
# Each request is answered once

A front end gives one response to every request that it knows (`Adapter.handle_of_known`) and none to the others, which
leave it as it is. So the responses of a session are those to the requests that it knows, in order, up to the first
disconnect (`responses_loop`): other requests can be left out, and so can all that comes after the disconnect.
-/

namespace Debugger

/-- Whether there is a response to a command once the client is introduced. -/
def Command.known : Command → Bool
  | initialization | unsupported _ => false
  | _ => true

def Request.known (r : Request) : Bool := r.command.known

/-- A response to a request has its number and, if the request succeeds, the name of its command. -/
structure Response.Answers (response : Response) (r : Request) : Prop where
  seq : response.requestSeq = r.seq
  command : ∀ name body, response.result = .ok (name, body) → name = r.command.name

private theorem Response.Answers.map_seq {responses : List Response} {requests : List Request}
    (h : List.Forall₂ Response.Answers responses requests) :
    responses.map Response.requestSeq = requests.map Request.seq := by
  induction h with
  | nil => rfl
  | cons hfirst _ ih => rw [List.map_cons, List.map_cons, hfirst.seq, ih]

def Message.response? : Message → Option Response
  | response r => some r
  | _ => none

/-- The error is one of the protocol between the client and the front end. -/
def ServeError.Protocol (e : ServeError) : Prop := ∃ text, e.message = "Protocol error: " ++ text

/-! ### One request -/

namespace Adapter

variable (setup : Setup) (interpreter : Interpreter) (a : Adapter)

private theorem handle_of_not_known {r : Request} (h : r.known = false) :
    a.handle setup interpreter r = (a, .unhandled) := by
  have hnone : a.execute setup interpreter r.command = none := by
    cases hr : r.command with
    | initialization | unsupported => rfl
    | _ => simp [Request.known, Command.known, hr] at h
  simp only [handle, hnone]

private theorem execute_of_known {command : Command} (h : command.known = true) :
    ∃ a' result, a.execute setup interpreter command = some (a', result) := by
  cases command with
  | initialization | unsupported => contradiction
  | _ => exact ⟨_, _, rfl⟩

private theorem handle_disconnect {r : Request} (h : r.command = .disconnect) :
    ∃ a' response, a.handle setup interpreter r = (a', .shutdown response) ∧ response.Answers r := by
  refine ⟨(a.operate setup .disconnect).1, ⟨r.seq, .ok (r.command.name, .empty)⟩, ?_, rfl, ?_⟩
  · simp only [handle, h, execute, ↓reduceIte]
  · intro name body hresult
    exact (Prod.mk.inj (Except.ok.inj hresult)).1.symm

theorem handle_of_known {r : Request} (h : r.known = true) (hstays : r.command ≠ .disconnect) :
    ∃ a' response, a.handle setup interpreter r = (a', .response response) ∧ response.Answers r := by
  obtain ⟨a', result, hexecute⟩ := a.execute_of_known setup interpreter h
  cases result with
  | error e =>
    refine ⟨a', ⟨r.seq, .error e.message⟩, by simp only [handle, hexecute], rfl, ?_⟩
    intro name body hresult
    contradiction
  | ok body =>
    refine ⟨a', ⟨r.seq, .ok (r.command.name, body)⟩, ?_, rfl, ?_⟩
    · simp only [handle, hexecute]
      cases hr : r.command with
      | disconnect => exact absurd hr hstays
      | _ => rfl
    · intro name body' hresult
      exact (Prod.mk.inj (Except.ok.inj hresult)).1.symm

end Adapter

/-! ### The loop -/

namespace Served

variable (setup : Setup) (interpreter : Interpreter) (a : Adapter)

/-- The responses among the messages to a client. -/
def responses (messages : List Message) : List Response := messages.filterMap Message.response?

/-- The requests that are heard: those up to the first disconnect, or to a message that cannot be read. -/
def heard : List (Except WireError Request) → List Request
  | .ok r :: rest => if r.command matches .disconnect then [r] else r :: heard rest
  | _ => []

/-- Whether an input is more than a request that is not known. -/
def counts : Except WireError Request → Bool
  | .ok r => r.known
  | .error _ => true

private theorem responses_events (events : List Event) : responses (events.map .event) = [] := by
  rw [responses, List.filterMap_map]
  exact List.filterMap_eq_nil_iff.2 fun _ _ => rfl

private theorem responses_after (ms : List Message) (s : Served) :
    responses (s.after ms).messages = responses ms ++ responses s.messages := List.filterMap_append

private theorem loop_of_not_known {r : Request} (h : r.known = false) (rest : List (Except WireError Request)) :
    loop setup interpreter a (.ok r :: rest) = loop setup interpreter a rest := by
  have hnone : messagesOf .unhandled a a = [] := by
    simp only [messagesOf, List.drop_length, List.map_nil]
  simp only [loop, a.handle_of_not_known setup interpreter h, hnone]
  rfl

private theorem loop_disconnect {r : Request} (h : r.command = .disconnect) :
    ∃ served response, response.Answers r ∧ responses served.messages = [response] ∧ served.error = none ∧
      ∀ rest, loop setup interpreter a (.ok r :: rest) = served := by
  obtain ⟨a', response, hhandle, hanswers⟩ := a.handle_disconnect setup interpreter h
  refine ⟨⟨messagesOf (.shutdown response) a a', a', none⟩, response, hanswers, ?_, rfl, fun rest => ?_⟩
  · exact congrArg (response :: ·) (responses_events _)
  · simp only [loop, hhandle, ↓reduceIte]

private theorem loop_of_known {r : Request} (h : r.known = true) (hstays : r.command ≠ .disconnect) :
    ∃ a' ms response, response.Answers r ∧ responses ms = [response] ∧
      ∀ rest, loop setup interpreter a (.ok r :: rest) = (loop setup interpreter a' rest).after ms := by
  obtain ⟨a', response, hhandle, hanswers⟩ := a.handle_of_known setup interpreter h hstays
  refine ⟨a', messagesOf (.response response) a a', response, hanswers, ?_, fun rest => ?_⟩
  · exact congrArg (response :: ·) (responses_events _)
  · simp [loop, hhandle]

/-- The responses are those to the requests that are heard and known, one to each and in order. -/
theorem responses_loop (inputs : List (Except WireError Request)) :
    List.Forall₂ Response.Answers (responses (loop setup interpreter a inputs).messages)
      ((heard inputs).filter Request.known) := by
  induction inputs generalizing a with
  | nil => exact .nil
  | cons input rest ih =>
    cases input with
    | error e => exact .nil
    | ok r =>
      by_cases hgone : r.command = .disconnect
      · obtain ⟨served, response, hanswers, hresponses, -, hloop⟩ := loop_disconnect setup interpreter a hgone
        have hheard : heard (.ok r :: rest) = [r] := by simp only [heard, hgone, ↓reduceIte]
        have hknown : r.known = true := by rw [Request.known, hgone]; rfl
        rw [hloop, hresponses, hheard, List.filter_cons_of_pos hknown]
        exact .cons hanswers .nil
      · have hheard : heard (.ok r :: rest) = r :: heard rest := by
          cases hr : r.command <;> simp_all [heard]
        rw [hheard]
        by_cases hknown : r.known = true
        · obtain ⟨a', ms, response, hanswers, hresponses, hloop⟩ :=
            loop_of_known setup interpreter a hknown hgone
          rw [hloop, responses_after, hresponses, List.filter_cons_of_pos hknown]
          exact .cons hanswers (ih a')
        · rw [loop_of_not_known setup interpreter a (by simpa using hknown), List.filter_cons_of_neg hknown]
          exact ih a

/-- Requests that are not known can be left out. -/
private theorem loop_filter (inputs : List (Except WireError Request)) :
    loop setup interpreter a (inputs.filter counts) = loop setup interpreter a inputs := by
  induction inputs generalizing a with
  | nil => rfl
  | cons input rest ih =>
    cases input with
    | error e => rfl
    | ok r =>
      by_cases hknown : r.known = true
      · have hcounts : counts (.ok r) = true := hknown
        rw [List.filter_cons_of_pos hcounts]
        by_cases hgone : r.command = .disconnect
        · obtain ⟨served, -, -, -, -, hloop⟩ := loop_disconnect setup interpreter a hgone
          rw [hloop, hloop]
        · obtain ⟨a', ms, -, -, -, hloop⟩ := loop_of_known setup interpreter a hknown hgone
          rw [hloop, hloop, ih]
      · have hcounts : ¬ counts (.ok r) = true := hknown
        rw [List.filter_cons_of_neg hcounts, loop_of_not_known setup interpreter a (by simpa using hknown), ih]

/-- What comes after a disconnect is not looked at. -/
private theorem loop_append_disconnect (before : List (Except WireError Request)) {r : Request}
    (h : r.command = .disconnect) (after : List (Except WireError Request)) :
    loop setup interpreter a (before ++ .ok r :: after) = loop setup interpreter a (before ++ [.ok r]) := by
  induction before generalizing a with
  | nil =>
    obtain ⟨served, -, -, -, -, hloop⟩ := loop_disconnect setup interpreter a h
    rw [List.nil_append, List.nil_append, hloop, hloop]
  | cons input before ih =>
    cases input with
    | error e => rfl
    | ok r' =>
      rw [List.cons_append, List.cons_append]
      by_cases hknown : r'.known = true
      · by_cases hgone : r'.command = .disconnect
        · obtain ⟨served, -, -, -, -, hloop⟩ := loop_disconnect setup interpreter a hgone
          rw [hloop, hloop]
        · obtain ⟨a', ms, -, -, -, hloop⟩ := loop_of_known setup interpreter a hknown hgone
          rw [hloop, hloop, ih]
      · rw [Bool.not_eq_true] at hknown
        rw [loop_of_not_known setup interpreter a hknown, loop_of_not_known setup interpreter a hknown, ih]

private theorem error_loop {inputs : List (Except WireError Request)} (h : ∀ e, .error e ∉ inputs) :
    (loop setup interpreter a inputs).error = none := by
  induction inputs generalizing a with
  | nil => rfl
  | cons input rest ih =>
    have hrest : ∀ e, .error e ∉ rest := fun e hin => h e (List.mem_cons_of_mem input hin)
    cases input with
    | error e => exact absurd List.mem_cons_self (h e)
    | ok r =>
      by_cases hknown : r.known = true
      · by_cases hgone : r.command = .disconnect
        · obtain ⟨served, -, -, -, herror, hloop⟩ := loop_disconnect setup interpreter a hgone
          rw [hloop, herror]
        · obtain ⟨a', ms, -, -, -, hloop⟩ := loop_of_known setup interpreter a hknown hgone
          rw [hloop]
          exact ih a' hrest
      · rw [loop_of_not_known setup interpreter a (by simpa using hknown)]
        exact ih a hrest

/-- A client that does not introduce itself is told nothing, and serving it fails with an error of the protocol. One
that does is told what the front end can do and that it is ready, and then gets one response to each request that is
known, in order, up to the first disconnect or to the end. The requests that are not known, and all that comes after the
disconnect, change nothing, and serving a client fails only where a message cannot be read. -/
theorem requests_answered_once (setup : Setup) (interpreter : Interpreter) (a : Adapter)
    (inputs : List (Except WireError Request)) :
    let served := ofRequests setup interpreter a true inputs
    (inputs = [] ∨ (∃ r rest, inputs = .ok r :: rest ∧ r.command ≠ .initialization) →
        served.messages = [] ∧ ∃ e, served.error = some e ∧ e.Protocol) ∧
      ∀ r rest, inputs = .ok r :: rest → r.command = .initialization →
        (∃ later, served.messages =
            .response ⟨r.seq, .ok ("initialize", .capabilities)⟩ :: .initialized :: later ∧
          List.Forall₂ Response.Answers (responses later) ((heard rest).filter Request.known)) ∧
        ((∀ e, .error e ∉ rest) → served.error = none) ∧
        ofRequests setup interpreter a true (.ok r :: rest.filter counts) = served ∧
        ∀ before d after, rest = before ++ .ok d :: after → d.command = .disconnect →
          ofRequests setup interpreter a true (.ok r :: (before ++ [.ok d])) = served := by
  intro served
  refine ⟨?_, ?_⟩
  · rintro (rfl | ⟨r, rest, rfl, hr⟩)
    · exact ⟨rfl, .noRequest, rfl, "Missing initialize request", by decide⟩
    · have hrefused : served = ⟨[], a, some .notIntroduced⟩ := by
        cases hc : r.command with
        | initialization => exact absurd hc hr
        | _ => simp [served, ofRequests, hc]
      rw [hrefused]
      exact ⟨rfl, .notIntroduced, rfl, "Expected initialize request", by decide⟩
  · rintro r rest rfl hr
    have hserved : ∀ rest', ofRequests setup interpreter a true (.ok r :: rest') =
        (loop setup interpreter a rest').after
          [.response ⟨r.seq, .ok ("initialize", .capabilities)⟩, .initialized] := by
      intro rest'
      simp only [ofRequests, hr, ↓reduceIte]
      rfl
    have hthis : served = _ := hserved rest
    refine ⟨⟨(loop setup interpreter a rest).messages, ?_, responses_loop setup interpreter a rest⟩, ?_, ?_, ?_⟩
    · rw [hthis]
      rfl
    · intro hread
      rw [hthis]
      exact error_loop setup interpreter a hread
    · rw [hthis, hserved, loop_filter]
    · rintro before d after rfl hd
      rw [hthis, hserved, loop_append_disconnect setup interpreter a before hd after]

/-- A second introduction and a command that is not supported are passed over, and nothing after the disconnect
counts. -/
theorem requests_answered_around_others :
    let a := Adapter.new {} {}
    let interpreter := Interpreter.scripted [] (.ok 0) []
    let first : Request := ⟨1, .initialization⟩
    let rest : List (Except WireError Request) :=
      [.ok ⟨2, .threads⟩, .ok ⟨3, .initialization⟩, .ok ⟨4, .unsupported "pause"⟩, .ok ⟨5, .resume .next⟩,
        .ok ⟨6, .disconnect⟩, .ok ⟨7, .threads⟩]
    (first.command = .initialization ∧ ∀ e, .error e ∉ rest) ∧
      (ofRequests {} interpreter a true (.ok first :: rest)).error = none ∧
      (heard rest).map (·.seq) = [2, 3, 4, 5, 6] ∧
      ∃ later, (ofRequests {} interpreter a true (.ok first :: rest)).messages =
          .response ⟨1, .ok ("initialize", .capabilities)⟩ :: .initialized :: later ∧
        (responses later).map (·.requestSeq) = [2, 5, 6] := by
  intro a interpreter first rest
  obtain ⟨-, hserved⟩ := requests_answered_once {} interpreter a (.ok first :: rest)
  obtain ⟨⟨later, hlater, hanswers⟩, herror, -, -⟩ := hserved first rest rfl rfl
  have hread : ∀ e, .error e ∉ rest := by simp [rest]
  refine ⟨⟨rfl, hread⟩, herror hread, rfl, later, hlater, ?_⟩
  exact Response.Answers.map_seq hanswers

end Served

end Debugger
