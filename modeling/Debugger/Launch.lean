import Debugger.Engine

/-!
# Launching a manifest

`LaunchArgs` says which manifest is to be evaluated, and an `Interpreter` is what evaluates it. `Interpreter.program` is
the whole evaluation as actions: the manifest is looked up, evaluation waits for its start, the interpreter announces
what it does, and the process exits.

A `Rehearsal` stands for the client of an evaluation that is driven without a front end: a host that launches a manifest
on its own writes down beforehand what a client would do, and `Rehearsal.run` plays it through to the exit of the
process. Such a run is a run of the engine like any other, and it always comes to its end.
-/

namespace Debugger

/-- What a launch asks for. -/
structure LaunchArgs where
  /-- The manifest to evaluate. -/
  manifest : String
  /-- Whether the manifest is only compiled. -/
  noop : Option Bool := none
  /-- More arguments for the interpreter. -/
  args : Option (List String) := none
  /-- The directory that the manifest is looked up in. -/
  cwd : Option String := none
deriving DecidableEq, Repr

namespace LaunchArgs

/-- Launch arguments of which the manifest may not be known yet. -/
structure Draft where
  manifest : Option String := none
  noop : Option Bool := none
  args : Option (List String) := none
  cwd : Option String := none

/-- The names of the arguments, in order. -/
def fieldNames : List String := ["manifest", "noop", "args", "cwd"]

/-- Takes in the argument of the given name. Other names are ignored. -/
def Draft.set (d : Draft) (name : String) (v : Json) : Except Mismatch Draft :=
  match name with
  | "manifest" => return { d with manifest := some (← v.readString) }
  | "noop" => return { d with noop := ← v.readOption Json.readBool }
  | "args" => return { d with args := ← v.readOption (Json.readList Json.readString) }
  | "cwd" => return { d with cwd := ← v.readOption Json.readString }
  | _ => .ok d

/-- The arguments that were taken in, if the manifest is among them. -/
def Draft.finish (d : Draft) : Except Mismatch LaunchArgs :=
  match d.manifest with
  | some manifest => .ok { manifest, noop := d.noop, args := d.args, cwd := d.cwd }
  | none => .error (.missing "manifest")

/-- Reads launch arguments: an object, whose members are taken by name, or the array of all arguments in order. -/
def read : Reader LaunchArgs
  | .obj ms => do
    let d ← (Json.sortMembers ms).foldlM (fun d m => d.set m.1 m.2) ({} : Draft)
    d.finish
  | .arr items => do
    let d ← (fieldNames.zip items).foldlM (fun d m => d.set m.1 m.2) ({} : Draft)
    if items.length < fieldNames.length then
      throw (.length items.length "struct LaunchArgs with 4 elements")
    else if fieldNames.length < items.length then throw (.length items.length "fewer elements in array")
    else d.finish
  | v => .error (.type v "struct LaunchArgs")

/-- The path of the manifest, seen from the directory of the launch. -/
def path (args : LaunchArgs) : String := args.cwd.elim args.manifest (Path.join · args.manifest)

end LaunchArgs

/-- What evaluates manifests: the announcements that it makes for a launch, how that ends, with an exit code or with an
error, and how it answers an expression in a scope with the path of the manifest. -/
structure Interpreter where
  script : LaunchArgs → List Hook
  result : LaunchArgs → Except String Int
  evaluate : String → Option Scope → Option String → Except String Value :=
    fun _ _ _ => .error "Expression evaluation is not supported"

/-- The message for a manifest that is not a file. -/
def missingManifest (path : String) : String := "File I/O error: Manifest file '" ++ path ++ "' does not exist"

namespace Interpreter

/-- How a process ends: with its exit code, or with the report of an error and exit code one. -/
def ending : Except String Int → List Action
  | .ok code => [.exit code]
  | .error text => [.failure text, .exit 1]

/-- The evaluation of a launch. A manifest that is not a file is reported, and nothing is evaluated. -/
def program (interpreter : Interpreter) (files : Files) (args : LaunchArgs) : List Action :=
  if files.isFile args.path then
    .prepare args.path :: .awaitStart :: .begin ::
      (interpreter.script args).map .hook ++ ending (interpreter.result args)
  else ending (.error (missingManifest args.path))

/-- An interpreter that makes the same announcements for every launch. It answers an expression from a list of known
answers, `$unit` with the path of the manifest, and a variable with its value in the scope. -/
def scripted (script : List Hook) (result : Except String Int) (answers : List (String × Value)) : Interpreter where
  script _ := script
  result _ := result
  evaluate expression scope unit :=
    match answers.lookup expression with
    | some v => .ok v
    | none =>
      if expression = "$unit" then
        match unit with
        | some path => .ok (.string path)
        | none => .error "No unit"
      else
        match scope with
        | none => .error "No scope"
        | some scope =>
          match scope.variables.find? fun v => "$" ++ v.1 = expression with
          | some v => .ok v.2
          | none => .error ("Unknown variable '" ++ expression ++ "'")

end Interpreter

/-! ### Rehearsed runs -/

/-- The moves of a client, written down before a launch: what it does at first, what it does when the manifest is ready
to be evaluated, and what it does at one stop after the other. -/
structure Rehearsal where
  before : List Operation := []
  ready : List Operation := []
  stops : List Operation := []

namespace Rehearsal

/-- Goes from stop to stop. When the moves are used up, evaluation continues. -/
def follow (setup : Setup) (e : Engine) : List Operation → Nat → Engine
  | _, 0 => e
  | moves, fuel + 1 =>
    if e.waits (· = .resume) then
      follow setup (e.step setup (moves.headD (.resume .continue))).1 moves.tail fuel
    else e

/-- Launches a manifest and makes the moves. A session that does not start by them is ended. -/
def run (setup : Setup) (files : Files) (interpreter : Interpreter) (args : LaunchArgs) (r : Rehearsal) : Engine :=
  let program := interpreter.program files args
  let e := (Engine.new setup files).run setup r.before
  let e := e.run setup (.call program :: r.ready)
  let e := if e.session.flags.startRequested then e else e.run setup [.terminate]
  let e := follow setup e r.stops (program.length + r.stops.length)
  e.run setup [.graceExpires]

end Rehearsal

end Debugger
