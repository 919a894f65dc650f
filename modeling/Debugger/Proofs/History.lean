import Debugger.Proofs.Hit
import Mathlib.Order.Bounds.Defs

/-!
# The last request counts

A file has the breakpoints that the last request for it placed, under whatever spelling of its path, and the functions
that have breakpoints are those of the last request for functions (`last_request_counts`). Nothing else in the history
of a session matters: neither requests for other files or of the other kind, nor changes of the files in between, nor
what the evaluation does.
-/

namespace Debugger

/-! ### The last of its kind -/

/-- What the last element gives, of those that give something. -/
def latest (f : α → Option β) (as : List α) : Option β := (as.filterMap f).getLast?

private theorem latest_cons (f : α → Option β) (a : α) (as : List α) : latest f (a :: as) = (latest f as).or (f a) := by
  unfold latest
  cases h : f a with
  | none => rw [List.filterMap_cons_none h, Option.or_none]
  | some b =>
    rw [List.filterMap_cons_some h, List.getLast?_cons]
    cases (as.filterMap f).getLast? <;> rfl

/-! ### Requests for breakpoints and their results -/

/-- The file that an operation sets the breakpoints of. -/
def Operation.file? : Operation → Option String
  | .setLines file _ => some file
  | _ => none

/-- The functions that an operation sets breakpoints at. -/
def Operation.names? : Operation → Option (List String)
  | .setFunctions names => some names
  | _ => none

/-- The breakpoints in a reply. -/
def Reply.results : Reply → List Breakpoint
  | .breakpoints results => results
  | _ => []

/-- The line that a breakpoint was placed on. -/
def Breakpoint.line? (b : Breakpoint) : Option Nat :=
  match b.target with
  | .line _ line => if b.verified then some line else none
  | .function _ => none

/-- The results of an operation, if it sets the breakpoints of the file with a key. -/
def resultsFor (cwd key : String) (entry : Operation × Reply) : Option (List Breakpoint) :=
  (entry.1.file?.filter (Path.key cwd · = key)).map fun _ => entry.2.results

/-- The results of the last operation that set the breakpoints of the file with a key. -/
def lastResults (cwd key : String) (log : List (Operation × Reply)) : List Breakpoint :=
  (latest (resultsFor cwd key) log).getD []

/-- The names of the last operation that set function breakpoints. -/
def lastNames (ops : List Operation) : List String := (latest Operation.names? ops).getD []

namespace Registry

/-- The results of a request name its lines, in order. -/
private theorem target_setLines (r : Registry) (files : Files) (file : String) (requested : List Nat) :
    (r.setLines files file requested).2.map (·.target) = requested.map (.line file) := by
  rw [setLines, List.map_map]
  rfl

/-- The lines that a request places breakpoints on are those of its results. -/
private theorem line?_setLines (r : Registry) (files : Files) (file : String) (requested : List Nat) :
    (r.setLines files file requested).2.filterMap Breakpoint.line? =
      requested.filter fun line => (files.rejectLine file line).isNone := by
  rw [setLines, List.filterMap_map, ← List.filterMap_eq_filter]
  rfl

/-- The breakpoint found among some lines of a file is the least one there. -/
private theorem findLine_eq_some_iff {r : Registry} {file : String} (hsorted : (r.linesOf file).Pairwise (· < ·))
    {first last line : Nat} :
    r.findLine file first last = some line ↔ IsLeast {l | l ∈ r.linesOf file ∧ first ≤ l ∧ l ≤ last} line := by
  constructor
  · intro h
    have hspan := List.find?_some h
    simp only [Bool.and_eq_true, decide_eq_true_eq] at hspan
    refine ⟨⟨List.mem_of_find?_eq_some h, hspan⟩, fun other ⟨hother, hfirst, hlast⟩ => ?_⟩
    obtain ⟨found, hfound, -, -, hle⟩ := exists_findLine hsorted hother hfirst hlast
    obtain rfl := Option.some.inj (h.symm.trans hfound)
    exact hle
  · rintro ⟨⟨hline, hfirst, hlast⟩, hleast⟩
    obtain ⟨found, hfound, hmem, hlow, hhigh⟩ := exists_findLine hsorted hline hfirst hlast
    have hle : line ≤ found := hleast ⟨hmem, hlow, Nat.le_trans hhigh hlast⟩
    rw [hfound, Nat.le_antisymm hhigh hle]

private theorem findLine_eq_none_iff {r : Registry} {file : String} {first last : Nat} :
    r.findLine file first last = none ↔ ∀ line ∈ r.linesOf file, ¬(first ≤ line ∧ line ≤ last) := by
  rw [findLine, List.find?_eq_none]
  simp only [Bool.and_eq_true, decide_eq_true_eq]

end Registry

namespace Engine

/-- What an engine answers to operations, one after the other. -/
def log (setup : Setup) : Engine → List Operation → List (Operation × Reply)
  | _, [] => []
  | e, op :: ops => (op, (e.step setup op).2.1) :: log setup (e.step setup op).1 ops

variable (setup : Setup)

/-! ### One step -/

/-- What a step does to the breakpoints is what its operation does. -/
private theorem breakpoints_step (e : Engine) (op : Operation) :
    (e.step setup op).1.session.breakpoints = op.breakpoints e.files e.session.breakpoints := by
  have hkept : op.breakpoints e.files e.session.breakpoints = e.session.breakpoints →
      (e.step setup op).1.session.breakpoints = op.breakpoints e.files e.session.breakpoints := by
    intro hsame
    rw [hsame]
    exact (breakpoints_kept setup (· = e.session.breakpoints)).step
      (fun _ => (breakpoints_serve e op).trans hsame) rfl
  rcases step_cases setup e op with ⟨actions, rfl⟩ | rfl | hs
  · exact hkept rfl
  · exact hkept rfl
  · rw [hs]
    exact (breakpoints_kept setup (· = op.breakpoints e.files e.session.breakpoints)).settle (breakpoints_serve e op)

/-- The directory from which paths are seen and the function that always has a breakpoint stay. -/
private theorem setting_step (e : Engine) (op : Operation) :
    (e.step setup op).1.session.breakpoints.cwd = e.session.breakpoints.cwd ∧
      (e.step setup op).1.session.breakpoints.sentinel = e.session.breakpoints.sentinel := by
  rw [breakpoints_step]
  cases op <;> exact ⟨rfl, rfl⟩

/-- A step leaves a file the lines that it had, unless it sets them: then those that its results name. -/
private theorem linesOf_step (e : Engine) (op : Operation) (file : String) :
    let cwd := e.session.breakpoints.cwd
    (e.step setup op).1.session.breakpoints.linesOf file =
      ((resultsFor cwd (Path.key cwd file) (op, (e.step setup op).2.1)).map fun results =>
        ordered (results.filterMap Breakpoint.line?)).getD (e.session.breakpoints.linesOf file) := by
  intro cwd
  rw [breakpoints_step]
  cases op with
  | setLines other requested =>
    have hcwd : e.session.breakpoints.cwd = cwd := rfl
    rw [(step_setLines setup e other requested).2, Operation.breakpoints, Registry.linesOf_setLines, hcwd]
    simp only [resultsFor, Operation.file?, Reply.results]
    by_cases h : Path.key cwd other = Path.key cwd file
    · rw [if_pos h.symm, Option.filter_some_pos (by simpa using h), ← Registry.line?_setLines]
      rfl
    · rw [if_neg (Ne.symm h), Option.filter_some_neg (by simpa using h)]
      rfl
  | _ => rfl

/-- A step leaves the function breakpoints that there were, unless it sets them. -/
private theorem functions_step (e : Engine) (op : Operation) :
    (e.step setup op).1.session.breakpoints.functions = op.names?.getD e.session.breakpoints.functions := by
  rw [breakpoints_step]
  cases op <;> rfl

/-! ### Histories -/

/-- A run leaves a file the lines that the last request for it has placed. -/
private theorem linesOf_log (e : Engine) (ops : List Operation) (file : String) :
    let cwd := e.session.breakpoints.cwd
    (e.run setup ops).session.breakpoints.linesOf file =
      ((latest (resultsFor cwd (Path.key cwd file)) (e.log setup ops)).map fun results =>
        ordered (results.filterMap Breakpoint.line?)).getD (e.session.breakpoints.linesOf file) := by
  induction ops generalizing e with
  | nil => rfl
  | cons op ops ih =>
    intro cwd
    have hrest := ih (e.step setup op).1
    rw [(setting_step setup e op).1] at hrest
    rw [run_cons, hrest, linesOf_step, log, latest_cons]
    cases latest (resultsFor cwd (Path.key cwd file)) ((e.step setup op).1.log setup ops) <;> rfl

private theorem linesOf_run_new (files : Files) (ops : List Operation) (file : String) :
    ((new setup files).run setup ops).session.breakpoints.linesOf file =
      ordered ((lastResults files.cwd (Path.key files.cwd file) ((new setup files).log setup ops)).filterMap
        Breakpoint.line?) := by
  refine (linesOf_log setup (new setup files) ops file).trans ?_
  have hcwd : (new setup files).session.breakpoints.cwd = files.cwd := rfl
  simp only [hcwd, lastResults]
  cases latest (resultsFor files.cwd (Path.key files.cwd file)) ((new setup files).log setup ops) <;> rfl

/-- A run leaves the function breakpoints of the last request for them. -/
private theorem functions_log (e : Engine) (ops : List Operation) :
    (e.run setup ops).session.breakpoints.functions =
      (latest Operation.names? ops).getD e.session.breakpoints.functions := by
  induction ops generalizing e with
  | nil => rfl
  | cons op ops ih =>
    rw [run_cons, ih, functions_step, latest_cons]
    cases latest Operation.names? ops <;> rfl

private theorem map_fst_log (e : Engine) (ops : List Operation) : (e.log setup ops).map (·.1) = ops := by
  induction ops generalizing e with
  | nil => rfl
  | cons op ops ih => rw [log, List.map_cons, ih]

/-- Every answer of a history was given by an engine of the run. -/
private theorem exists_of_mem_log {e : Engine} {ops : List Operation} {entry : Operation × Reply}
    (h : entry ∈ e.log setup ops) : ∃ e' : Engine, entry.2 = (e'.step setup entry.1).2.1 := by
  induction ops generalizing e with
  | nil => contradiction
  | cons op ops ih =>
    rcases List.mem_cons.1 h with rfl | h
    · exact ⟨e, rfl⟩
    · exact ih h

private theorem setting_run (e : Engine) (ops : List Operation) :
    (e.run setup ops).session.breakpoints.cwd = e.session.breakpoints.cwd ∧
      (e.run setup ops).session.breakpoints.sentinel = e.session.breakpoints.sentinel := by
  induction ops generalizing e with
  | nil => exact ⟨rfl, rfl⟩
  | cons op ops ih =>
    obtain ⟨hcwd, hsentinel⟩ := setting_step setup e op
    obtain ⟨hcwd', hsentinel'⟩ := ih (e.step setup op).1
    exact ⟨hcwd'.trans hcwd, hsentinel'.trans hsentinel⟩

/-- After any history, which has each operation with its answer, a file has the lines that were verified when its
breakpoints were last set, under whatever spelling of its path, and none if they never were. The breakpoint found in a
range of lines is the least of them in it. A function has a breakpoint if it is the one that always has, or if it was
among the names when function breakpoints were last set. Every request for breakpoints gets a result for each thing that
it asks for, in order. -/
theorem last_request_counts (setup : Setup) (files : Files) (ops : List Operation) :
    let start := new setup files
    let history := start.log setup ops
    let reply op := ((start.run setup ops).step setup op).2.1
    history.map (·.1) = ops ∧
      (∀ file, ∃ lines, reply (.lines file) = .lines lines ∧ lines.Pairwise (· < ·) ∧
        (∀ line, line ∈ lines ↔
          ∃ b ∈ lastResults files.cwd (Path.key files.cwd file) history, b.line? = some line) ∧
        ∀ first last, ∃ found, reply (.findLine file first last) = .line found ∧
          (∀ line, found = some line ↔ IsLeast {l | l ∈ lines ∧ first ≤ l ∧ l ≤ last} line) ∧
          (found = none ↔ ∀ line ∈ lines, ¬(first ≤ line ∧ line ≤ last))) ∧
      (∃ names, reply .functions = .names names ∧ ∀ name,
        (name ∈ names ↔ name = setup.config.sentinelFunction ∨ name ∈ lastNames ops) ∧
          reply (.hasFunction name) = .bool (decide (name ∈ names))) ∧
      (∀ file requested answer, (Operation.setLines file requested, answer) ∈ history →
        ∃ results, answer = .breakpoints results ∧ results.map (·.target) = requested.map (.line file)) ∧
      ∀ names answer, (Operation.setFunctions names, answer) ∈ history →
        answer = .breakpoints (names.map fun name => ⟨.function name, none⟩) := by
  intro start history reply
  obtain ⟨hcwd, hsentinel⟩ := setting_run setup start ops
  refine ⟨map_fst_log setup start ops, fun file => ?_, ?_, fun file requested answer hentry => ?_,
    fun names answer hentry => ?_⟩
  · have hlines := linesOf_run_new setup files ops file
    have hsorted : ((start.run setup ops).session.breakpoints.linesOf file).Pairwise (· < ·) := by
      rw [hlines]
      exact pairwise_ordered _
    refine ⟨_, rfl, hsorted, fun line => ?_, fun first last => ⟨_, rfl, fun line => ?_, ?_⟩⟩
    · rw [hlines, mem_ordered, List.mem_filterMap]
    · exact Registry.findLine_eq_some_iff hsorted
    · exact Registry.findLine_eq_none_iff
  · have hnames : ∀ name, (start.run setup ops).session.breakpoints.hasFunction name = true ↔
        name = setup.config.sentinelFunction ∨ name ∈ lastNames ops := by
      intro name
      rw [Registry.hasFunction, functions_log, hsentinel]
      simp [lastNames, start, new, Session.new]
    refine ⟨_, rfl, fun name => ⟨Registry.mem_functionNames.trans (hnames name), congrArg Reply.bool ?_⟩⟩
    rw [Bool.eq_iff_iff, decide_eq_true_eq]
    exact Registry.mem_functionNames.symm
  · obtain ⟨e, he⟩ := exists_of_mem_log setup hentry
    exact ⟨_, he.trans (step_setLines setup e file requested).2, Registry.target_setLines _ _ _ _⟩
  · obtain ⟨e, he⟩ := exists_of_mem_log setup hentry
    exact he

/-- Three of four lines are placed, one of them twice. A request for another file and one for functions leave them. When
the file is gone, a request under another spelling of its path takes them all. -/
theorem lines_until_next_request :
    let files := ({} : Files).write "/site.pp" "$x\n\n$y".toUTF8.toList
    let first : Operation := .setLines "/site.pp" [3, 2, 1, 3]
    let ops := [first, .setLines "/other.pp" [1], .setFunctions ["notice"]]
    let more := ops ++ [.changeFile (.remove "/site.pp"), .setLines "/lib/../SITE.pp" [1]]
    let e := (new {} files).run {} ops
    let answer := ((new {} files).step {} first).2.1
    ((first, answer) ∈ (new {} files).log {} ops ∧
        ∃ results, answer = .breakpoints results ∧ results.map (·.target) = [3, 2, 1, 3].map (.line "/site.pp")) ∧
      (∃ lines, (e.step {} (.lines "/Site.pp")).2.1 = .lines lines ∧ 3 ∈ lines ∧ 2 ∉ lines ∧
        (e.step {} (.findLine "/Site.pp" 2 9)).2.1 = .line (some 3)) ∧
      (((new {} files).run {} more).step {} (.lines "/site.pp")).2.1 = .lines [] := by
  intro files first ops more e answer
  obtain ⟨-, hlines, -, hresults, -⟩ := last_request_counts {} files ops
  obtain ⟨-, hlines', -⟩ := last_request_counts {} files more
  have hentry : (first, answer) ∈ (new {} files).log {} ops := List.mem_cons_self
  obtain ⟨lines, hreply, -, hmem, hfind⟩ := hlines "/Site.pp"
  obtain ⟨found, hfound, hleast, -⟩ := hfind 2 9
  obtain ⟨lines', hreply', -, hmem', -⟩ := hlines' "/site.pp"
  have hthree : 3 ∈ lines := (hmem 3).2 (by decide +kernel)
  have htwo : 2 ∉ lines := fun h => absurd ((hmem 2).1 h) (by decide +kernel)
  have hfirst : found = some 3 := by
    refine (hleast 3).2 ⟨⟨hthree, by decide, by decide⟩, fun l ⟨hl, hlow, _⟩ => ?_⟩
    exact Nat.lt_of_le_of_ne hlow fun heq => htwo (heq ▸ hl)
  have hnone : lines' = [] := by
    refine List.eq_nil_iff_forall_not_mem.2 fun l hl => ?_
    obtain ⟨b, hb, hline⟩ := (hmem' l).1 hl
    have hrejected : ∀ b ∈ lastResults files.cwd (Path.key files.cwd "/site.pp") ((new {} files).log {} more),
        b.line? = none := by
      decide +kernel
    simp [hrejected b hb] at hline
  exact ⟨⟨hentry, hresults _ _ _ hentry⟩, ⟨lines, hreply, hthree, htwo, hfound.trans (congrArg Reply.line hfirst)⟩,
    hreply'.trans (congrArg Reply.lines hnone)⟩

end Engine

end Debugger
