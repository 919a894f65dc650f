import Debugger.Console
import Debugger.Serve
import Debugger.Proofs.Rendezvous
import Debugger.Proofs.Turns
import Debugger.Proofs.Stepping
import Debugger.Proofs.Pause
import Debugger.Proofs.Depth
import Debugger.Proofs.Release
import Debugger.Proofs.Inspection
import Debugger.Proofs.Refusal
import Debugger.Proofs.References
import Debugger.Proofs.Eager
import Debugger.Proofs.Disconnect
import Debugger.Proofs.Start
import Debugger.Proofs.Rehearsed
import Debugger.Proofs.Phases
import Debugger.Proofs.Serving
import Debugger.Proofs.Hit
import Debugger.Proofs.History
import Debugger.Proofs.Expansion
import Debugger.Proofs.Span
import Debugger.Proofs.Placement
import Debugger.Proofs.WakeUp
import Debugger.Proofs.Frames
import Debugger.Proofs.Manifest
import Debugger.Proofs.LowerCase
import Debugger.Proofs.Keys
import Debugger.Proofs.Rendering
import Debugger.Proofs.Newlines
