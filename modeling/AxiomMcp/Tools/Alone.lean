/-
**A handler that runs alone.**

Nobody else changes the files, every guard is free, nothing is retained and the control plane is not there.
What a handler does then is one of its traces (`trace_alone`).
-/

import AxiomMcp.Lib.Traces
import AxiomMcp.Tools.Context

namespace AxiomMcp.Tools

open Lib Program
open Snapshot (Files)
open Guard (SolutionGuard)

/-- The guard that a handler has in use. -/
def toolMachine : Machine ToolOp ToolReply SolutionGuard where
  permits _ _ _ := True
  after guard op reply :=
    match op, reply with
    | .read (.guard op), reply => Guard.after guard op reply
    | .newGuard _, _ => .initial
    | _, _ => guard

/-- The replies to a handler that runs alone over some files. -/
def alone (files : Files) (guard : SolutionGuard) : (op : ToolOp) → ToolReply op
  | .read (.guard op) => Guard.surroundings (fun _ => none) [] guard op
  | .read (.file op) => files.reply op
  | .read .clock => (0 : ℚ)
  | .newGuard _ => ()
  | .retained _ => none
  | .retain _ _ => ()
  | .control _ => .error (.other "TimeoutError")
  | .installation _ _ => .error (.os ⟨"FileNotFoundError", "No such file or directory"⟩)

/-- How a handler ends that runs alone. -/
def outcomeAlone {α : Type} (files : Files) (p : ToolProgram α) : Option (Except ToolError α) :=
  (toolMachine.run (fun _ guard => alone files guard) p [] .initial).map Prod.fst

/-- A handler that runs alone makes a trace. -/
theorem trace_alone {α : Type} {files : Files} {p : ToolProgram α} {outcome : Except ToolError α}
    (ended : outcomeAlone files p = some outcome) : ∃ calls, Trace p calls outcome := by
  obtain ⟨⟨outcome, made, guard⟩, ran, rfl⟩ := Option.map_eq_some_iff.mp ended
  obtain ⟨calls, _, trace⟩ := Trace.of_run ran
  exact ⟨calls, trace⟩

end AxiomMcp.Tools
