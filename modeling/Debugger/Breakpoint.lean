import Debugger.Files
import Debugger.Text.Blank

/-!
# Breakpoints

A `Registry` holds line breakpoints by file and function breakpoints by name. Each request for a file, and each request
for functions, replaces what the last one of its kind has set. A line can carry a breakpoint if the file has it and
there is more on it than blanks and a comment.
-/

namespace Debugger

/-- Where a breakpoint is asked for. -/
inductive Target where
  | line (file : String) (line : Nat)
  | function (name : String)
deriving DecidableEq, Repr

/-- Why a breakpoint cannot be placed. -/
inductive Rejection where
  | noFile
  | unreadable (cause : ReadError)
  | noLine
  | blankLine
deriving DecidableEq, Repr

/-- The message for a breakpoint that cannot be placed. -/
def Rejection.message : Rejection → String
  | noFile => "File does not exist"
  | unreadable cause => "Unable to read file: " ++ cause.message
  | noLine => "Line does not exist"
  | blankLine => "Line is blank"

/-- A requested breakpoint, and why it could not be placed if it could not. -/
structure Breakpoint where
  target : Target
  rejection : Option Rejection := none
deriving DecidableEq, Repr

/-- Whether a breakpoint was placed. -/
def Breakpoint.verified (b : Breakpoint) : Bool := b.rejection.isNone

/-! ### Lines that can carry a breakpoint -/

/-- The character that starts a comment. -/
def commentMarker : Char := '#'

/-- Whether a line has only blanks before its comment. -/
def isBlankLine (line : List Char) : Bool := (line.takeWhile (· ≠ commentMarker)).all Text.isBlank

/-- Why a line of a text, counted from one, cannot carry a breakpoint. -/
def rejectLine (text : String) (line : Nat) : Option Rejection :=
  match line with
  | 0 => some .noLine
  | n + 1 => match (Text.lines text.toList)[n]? with
    | none => some .noLine
    | some l => if isBlankLine l then some .blankLine else none

/-- Why a line of a file cannot carry a breakpoint. -/
def Files.rejectLine (files : Files) (file : String) (line : Nat) : Option Rejection :=
  match files.read? file with
  | none => some .noFile
  | some (.error cause) => some (.unreadable cause)
  | some (.ok text) => Debugger.rejectLine text line

/-! ### Ordered sets -/

/-- Puts an element into an ascending list, if it is not there yet. -/
def insertOrdered [LT α] [DecidableLT α] [DecidableEq α] (a : α) : List α → List α
  | [] => [a]
  | b :: bs => if a < b then a :: b :: bs else if a = b then b :: bs else b :: insertOrdered a bs

/-- The elements of a list in ascending order, each once. -/
def ordered [LT α] [DecidableLT α] [DecidableEq α] (as : List α) : List α := as.foldr insertOrdered []

private theorem mem_insertOrdered [LT α] [DecidableLT α] [DecidableEq α] {a b : α} {bs : List α} :
    a ∈ insertOrdered b bs ↔ a = b ∨ a ∈ bs := by
  induction bs with
  | nil => simp [insertOrdered]
  | cons c bs ih =>
    unfold insertOrdered
    split
    · simp
    · split
      · next h => simp [h]
      · simp only [List.mem_cons, ih]
        exact or_left_comm

@[simp]
theorem mem_ordered [LT α] [DecidableLT α] [DecidableEq α] {a : α} {as : List α} : a ∈ ordered as ↔ a ∈ as := by
  induction as with
  | nil => rfl
  | cons b as ih =>
    have h : ordered (b :: as) = insertOrdered b (ordered as) := rfl
    rw [h, mem_insertOrdered, ih, List.mem_cons]

private theorem pairwise_insertOrdered {n : Nat} {ns : List Nat} (h : ns.Pairwise (· < ·)) :
    (insertOrdered n ns).Pairwise (· < ·) := by
  induction ns with
  | nil => simp [insertOrdered]
  | cons m ns ih =>
    rw [List.pairwise_cons] at h
    unfold insertOrdered
    split
    · next hlt =>
      refine List.pairwise_cons.2 ⟨fun k hk => ?_, List.pairwise_cons.2 h⟩
      rcases List.mem_cons.1 hk with rfl | hk
      · exact hlt
      · exact Nat.lt_trans hlt (h.1 k hk)
    · split
      · exact List.pairwise_cons.2 h
      · refine List.pairwise_cons.2 ⟨fun k hk => ?_, ih h.2⟩
        rcases mem_insertOrdered.1 hk with rfl | hk
        · omega
        · exact h.1 k hk

/-- Line numbers come out strictly ascending. -/
theorem pairwise_ordered (ns : List Nat) : (ordered ns).Pairwise (· < ·) := by
  induction ns with
  | nil => exact List.Pairwise.nil
  | cons n ns ih => exact pairwise_insertOrdered ih

/-! ### The registry -/

/-- The breakpoints of a session. Lines are kept by the key of their file, in ascending order. -/
structure Registry where
  /-- The directory from which relative paths are seen. -/
  cwd : String
  /-- The function that always has a breakpoint. -/
  sentinel : String
  lines : List (String × List Nat) := []
  functions : List String := []
deriving DecidableEq, Repr

namespace Registry

/-- The lines of a file that have a breakpoint. -/
def linesOf (r : Registry) (file : String) : List Nat := (r.lines.lookup (Path.key r.cwd file)).getD []

/-- Replaces the breakpoints of a file by those of the requested lines that can carry one. -/
def setLines (r : Registry) (files : Files) (file : String) (requested : List Nat) : Registry × List Breakpoint :=
  let results := requested.map fun line => Breakpoint.mk (.line file line) (files.rejectLine file line)
  let placed := requested.filter fun line => (files.rejectLine file line).isNone
  let key := Path.key r.cwd file
  ({ r with lines := (key, ordered placed) :: r.lines.filter (·.1 ≠ key) }, results)

/-- Replaces the function breakpoints. Every name is accepted. -/
def setFunctions (r : Registry) (names : List String) : Registry × List Breakpoint :=
  ({ r with functions := names }, names.map fun name => ⟨.function name, none⟩)

/-- The first line of a file from `first` to `last` that has a breakpoint. -/
def findLine (r : Registry) (file : String) (first last : Nat) : Option Nat :=
  (r.linesOf file).find? fun line => first ≤ line && line ≤ last

/-- The functions that have a breakpoint, in ascending order. -/
def functionNames (r : Registry) : List String := ordered (r.sentinel :: r.functions)

/-- Whether a function has a breakpoint. -/
def hasFunction (r : Registry) (name : String) : Bool := name = r.sentinel || r.functions.contains name

private theorem lookup_filter_ne {key other : String} (h : other ≠ key) (entries : List (String × α)) :
    (entries.filter (·.1 ≠ key)).lookup other = entries.lookup other := by
  induction entries with
  | nil => rfl
  | cons entry entries ih =>
    obtain ⟨k, a⟩ := entry
    by_cases hk : k = key
    · subst hk
      have hne : (other == k) = false := by simp [h]
      simpa [List.lookup_cons, hne] using ih
    · cases hk' : other == k <;> simp_all [List.lookup_cons]

/-- Setting the breakpoints of a file changes them under all its spellings, and no others. -/
theorem linesOf_setLines (r : Registry) (files : Files) (file other : String) (requested : List Nat) :
    (r.setLines files file requested).1.linesOf other =
      if Path.key r.cwd other = Path.key r.cwd file then
        ordered (requested.filter fun line => (files.rejectLine file line).isNone)
      else r.linesOf other := by
  unfold linesOf setLines
  by_cases h : Path.key r.cwd other = Path.key r.cwd file
  · simp [h]
  · have hne : (Path.key r.cwd other == Path.key r.cwd file) = false := by simp [h]
    simp only [List.lookup_cons, hne, h, ↓reduceIte]
    rw [lookup_filter_ne h]

theorem mem_functionNames {r : Registry} {name : String} :
    name ∈ r.functionNames ↔ r.hasFunction name = true := by
  simp [functionNames, hasFunction]

end Registry

end Debugger
