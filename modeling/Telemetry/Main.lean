import Telemetry.CommandLine.Job

/-!
# The command line

Output goes to a file or to standard output, and the reason for a failure to standard error.
-/

namespace Telemetry.CommandLine

open Telemetry.Random

/-- how the program is called -/
def usageText : String := "Usage: <points|queries|metaquery> [OPTIONS]"

/-- writes all pieces of a job, and answers why there are no more of them if it is cut off -/
partial def drainTo (out : IO.FS.Stream) (job : Job) : IO (Option Failure) := do
  let (bytes, left) := job.step
  out.write bytes
  match left with
  | .more job => drainTo out job
  | .done =>
    out.flush
    return none
  | .cut failure =>
    out.flush
    return some failure

/-- the stream that a job is written to -/
def openOutput : Option String → IO IO.FS.Stream
  | some path => return .ofHandle (← IO.FS.Handle.mk path .write)
  | none => IO.getStdout

/-- a random word of 64 bits -/
def randomWord : IO UInt64 := return (← IO.rand 0 (UInt64.size - 1)).toUInt64

/-- reports a failure -/
def fail (failure : Failure) : IO UInt32 := do
  match failure.message? with
  | some message => IO.eprintln ("Error: " ++ message)
  | none => IO.eprintln "cut off"
  return failure.exitCode

/-- runs a task -/
def runTask (task : Task) (s : Settings) : IO UInt32 := do
  let attributes := Attributes.mk (← randomWord)
  let stream := Stream.ofSeed (← randomWord)
  try
    match Job.start task s attributes stream with
    | .error failure =>
      if failure.opensOutput then
        let _ ← openOutput s.output
      fail failure
    | .ok job =>
      match ← drainTo (← openOutput s.output) job with
      | some failure => fail failure
      | none => return 0
  catch e =>
    IO.eprintln ("Error: " ++ toString e)
    return 1

end Telemetry.CommandLine

open Telemetry.CommandLine in
/-- runs what the arguments ask for -/
def main (arguments : List String) : IO UInt32 := do
  match Request.read arguments with
  | .help =>
    IO.println usageText
    return 0
  | .version =>
    IO.println versionText
    return 0
  | .misuse =>
    IO.eprintln usageText
    return 2
  | .task task s => runTask task s
