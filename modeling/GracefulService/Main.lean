import GracefulService.Demo.Run
import GracefulService.ProbeClient.Run

/-!
# Command line

Both programs of the library behind one command: the first argument `probe` runs the probe client, and
anything else the demonstration. Neither leaves this process, so the probe client finds nobody to ask, and
what the clients of the demonstration ask is read from the standard input: a method and a target on each
line. The end of the input stands for the signal that ends the demonstration.
-/

namespace GracefulService

/-- What comes of reading a file. -/
def readContents (path : String) : IO (Except FileFault ByteArray) := do
  try
    return .ok (← IO.FS.readBinFile path)
  catch
    | .inappropriateType .. => return .error .directory
    | _ => return .error .missing

/-- The request on a line of the standard input. -/
def requestOnLine (line : String) : Surface × Option Http.Request :=
  match (Text.splitAt ' ' (Text.trim line.toList)).map String.ofList with
  | [method, target] => (.primary, Http.Request.read? method target [])
  | [target] => (.primary, Http.Request.read? "GET" target [])
  | _ => (.primary, none)

/-- All lines of a stream. -/
partial def linesOf (stream : IO.FS.Stream) (sofar : List String) : IO (List String) := do
  let line ← stream.getLine
  if line.isEmpty then return sofar.reverse else linesOf stream (line :: sofar)

/-- Runs the probe client. -/
def runProbeClient (arguments : List String) : IO UInt32 := do
  let ending := ProbeClient.run (fun _ => none) arguments
  IO.print ending.output
  IO.eprint ending.errors
  return ending.exit.toUInt32

/-- Runs the demonstration. -/
def runDemo (arguments : List String) : IO UInt32 := do
  let contents ← match Demo.Command.read arguments with
    | .serve (some path) => readContents path
    | _ => pure (.error .missing)
  let requests ← linesOf (← IO.getStdin) []
  let ending := Demo.run
    ⟨.confined [], fun _ => contents, requests.map requestOnLine, "SIGTERM"⟩ arguments
  IO.print ending.output
  ending.log.forM IO.println
  match ending.fault with
  | some fault => IO.eprintln fault.message
  | none => pure ()
  return ending.exit.toUInt32

end GracefulService

/-- Runs the program that the first argument chooses. -/
def main : List String → IO UInt32
  | "probe" :: arguments => GracefulService.runProbeClient arguments
  | arguments => GracefulService.runDemo arguments
