import ProofDesk.CommandLine
import ProofDesk.Prover.Channel
import ProofDesk.Workspace.Server

/-!
# The program

Reads the command line and runs the engine on the standard streams. Everything is decided elsewhere:
here lines are read, time passes, and events are printed. No process can be started and no socket
opened from here, so every attempt to connect to a prover is refused, and the viewer has no engine
to show.
-/

namespace ProofDesk

/-- The opener of links where no prover can be started. -/
structure NoProver where

instance : Connector NoProver Channel where
  connect _ opener := (.error "provers cannot be started here", opener)

namespace Main

/-- The engine on the standard streams. -/
abbrev Engine := Server NoProver Channel

/-- Print the events that have been written. -/
def printEvents (output : IO.FS.Stream) (s : Engine) : IO Engine := do
  let (events, s) := s.takeWritten
  for event in events do
    output.putStrLn event.render
  output.flush
  return s.takeBroadcast.2

/-- Carry out lines as they arrive, and look at the provers in between. -/
partial def serveLines (input output : IO.FS.Stream) (poll : Nat)
  (next : Task (Except IO.Error String))
    (s : Engine) : IO Engine := do
  let s ← printEvents output s
  if !s.isRunning then
    return s
  if ← IO.hasFinished next then
    match next.get with
    | .error e => return { s with result := some (.error (.io e.toString)) }
    | .ok line =>
      let s := if line.isEmpty then s.endOfInput else s.feed (Text.bytes line)
      serveLines input output poll (← IO.asTask input.getLine) s
  else
    IO.sleep poll.toUInt32
    serveLines input output poll next (s.elapse poll).tick

/-- Run the engine: the number to end with. -/
def serve (options : EngineOptions) : IO UInt32 := do
  let input ← IO.getStdin
  let engine : Engine := .start (.empty options.settings ⟨⟩)
  if let some code := options.failureCode? then
    return code.toUInt32
  let s ← serveLines input (← IO.getStdout) options.poll (← IO.asTask input.getLine) engine.tick
  match s.result with
  | some (.error t) =>
    IO.eprintln s!"Error: {t.message}"
    return 1
  | _ => return 0

end Main

end ProofDesk

/-- Run what the command line asks for. -/
def main (words : List String) : IO UInt32 := do
  match ProofDesk.CommandLine.parse words with
  | .ok (.serve options) => ProofDesk.Main.serve options
  | .ok .view =>
    IO.eprintln "Error: IO error: there is no terminal"
    return 1
  | .error e =>
    IO.eprintln "Usage: coq-tui <serve|view>"
    return e.exitCode.toUInt32
