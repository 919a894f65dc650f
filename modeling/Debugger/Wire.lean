import Debugger.Json.Parser
import Debugger.Request
import Debugger.Text.Blank
import Debugger.Text.Split
import Debugger.Text.Utf8

/-!
# Messages on the wire

Each message has a header line with the length of its body in bytes, a line that is skipped, and the body.
`incoming` reads the requests from the bytes of a client, up to the end of the bytes or to the first message that cannot
be read.
-/

namespace Debugger

/-- Why a message cannot be read. -/
inductive WireError where
  /-- A header line is not text, or the bytes end before the body does. -/
  | broken
  /-- A line is not a name and a value. -/
  | header (line : String)
  | unknownHeader (name : String)
  /-- The body is not a request. -/
  | body
deriving DecidableEq, Repr

/-- The message for a message that cannot be read. -/
def WireError.message : WireError → String
  | broken => "I/O error"
  | header line => "Could not parse header line '" ++ line ++ "'"
  | unknownHeader name => "Unknown header: " ++ name
  | body => "Parse error"

namespace Wire

/-- The first line of some bytes with its newline, and the bytes after it. -/
def takeLine : List UInt8 → List UInt8 × List UInt8
  | [] => ([], [])
  | b :: bytes =>
    if b = 0x0A then ([b], bytes)
    else
      let (line, rest) := takeLine bytes
      (b :: line, rest)

private theorem takeLine_append (bytes : List UInt8) : (takeLine bytes).1 ++ (takeLine bytes).2 = bytes := by
  induction bytes with
  | nil => rfl
  | cons b bytes ih => simp only [takeLine]; split <;> simp [ih]

private theorem length_takeLine_lt {bytes : List UInt8} (h : bytes ≠ []) :
    (takeLine bytes).2.length < bytes.length := by
  cases bytes with
  | nil => exact absurd rfl h
  | cons b bytes =>
    simp only [takeLine]
    split
    · simp
    · have := congrArg List.length (takeLine_append bytes)
      simp only [List.length_append, List.length_cons] at this ⊢
      omega

/-- An unsigned number of 64 bits in decimal digits, with a plus sign before it or without. -/
def unsigned? (s : List Char) : Option Nat :=
  let digits := match s with
    | '+' :: ds => ds
    | ds => ds
  let n := digits.foldl (fun n c => n * 10 + (c.toNat - '0'.toNat)) 0
  if digits ≠ [] && digits.all Char.isDigit && n < UInt64.size then some n else none

/-- The length that a header line gives. -/
def bodyLength (line : String) : Except WireError Nat :=
  match Text.split ':' (Text.trimEnd line.toList) with
  | [name, value] =>
    if name ≠ "Content-Length".toList then .error (.unknownHeader (String.ofList name))
    else match unsigned? (Text.trim value) with
      | some n => .ok n
      | none => .error (.header line)
  | _ => .error (.header line)

/-- A line as text. -/
def lineText (line : List UInt8) : Except WireError String :=
  match Text.decode? line with
  | some text => .ok text
  | none => .error .broken

/-- The first body in some bytes, and the bytes after it. There is none if the bytes end with a header. -/
def next (bytes : List UInt8) : Except WireError (Option (List UInt8 × List UInt8)) := do
  if bytes = [] then return none
  let (line, rest) := takeLine bytes
  let n ← bodyLength (← lineText line)
  if rest = [] then return none
  let (skipped, rest) := takeLine rest
  let _ ← lineText skipped
  if rest.length < n then throw .broken
  return some (rest.take n, rest.drop n)

private theorem length_next_lt {bytes body rest : List UInt8} (h : next bytes = .ok (some (body, rest))) :
    rest.length < bytes.length := by
  simp only [next] at h
  split at h
  · simp [pure, Except.pure] at h
  · next hb =>
    have h₁ := length_takeLine_lt hb
    generalize takeLine bytes = p at h h₁
    obtain ⟨line, r⟩ := p
    cases ht : lineText line with
    | error e => simp [ht, bind, Except.bind] at h
    | ok text =>
      cases hn : bodyLength text with
      | error e => simp [ht, hn, bind, Except.bind] at h
      | ok n =>
        simp only [ht, hn, bind, Except.bind] at h
        split at h
        · simp [pure, Except.pure] at h
        · next hr =>
          have h₂ := length_takeLine_lt hr
          generalize takeLine r = q at h h₂
          obtain ⟨skipped, r'⟩ := q
          cases hs : lineText skipped with
          | error e => simp [hs] at h
          | ok t =>
            simp only [hs] at h
            split at h
            · simp [throw, throwThe, MonadExceptOf.throw] at h
            · simp only [pure, Except.pure, Except.ok.injEq, Option.some.injEq, Prod.mk.injEq] at h
              rw [← h.2]
              simp only [List.length_drop]
              simp only at h₁ h₂
              omega

/-- The request that a body is. -/
def request (body : List UInt8) : Except WireError Request :=
  match Text.decode? body with
  | none => .error .body
  | some text =>
    match Json.parse? text with
    | none => .error .body
    | some v => (Request.read v).mapError fun _ => .body

/-- The requests of a client in order. After what cannot be read, nothing is read. -/
def incoming (bytes : List UInt8) : List (Except WireError Request) :=
  match _h : next bytes with
  | .error e => [.error e]
  | .ok none => []
  | .ok (some (body, rest)) =>
    match request body with
    | .error e => [.error e]
    | .ok r => .ok r :: incoming rest
termination_by bytes.length
decreasing_by exact length_next_lt _h

end Wire

end Debugger
