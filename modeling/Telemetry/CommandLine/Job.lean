import Telemetry.CommandLine.Command
import Telemetry.Output.Rows

/-!
# Jobs

A job is output that is still to be made, piece by piece, so that it is never held as a whole.

* `Failure`      why a task has no job, or why its job is cut off, with its exit code and its text;
* `Job.start`    the job of a task, unless its settings do not fit or it is cut off before;
* `Job.step`     the next piece of output, and what is left of the job;
* `Job.output`   all pieces as one, and why there are no more of them if the job is cut off.
-/

namespace Telemetry.CommandLine

open Telemetry.Random

/-- why a task ends early.  A thread is cut off where there is no memory for what it lists, and where
a number or a time overflows. -/
inductive Failure where
  /-- the settings do not fit -/
  | fault (fault : Fault)
  /-- the thread that runs the task is cut off while it builds what rows are made from -/
  | sourceLost
  /-- the thread that runs the task is cut off while it makes output -/
  | outputLost
  /-- a worker is cut off while it makes output; the task reports that it lost one -/
  | workerLost
deriving DecidableEq, Repr

namespace Failure

/-- the exit code of a reported failure is 1, and that of a task that is cut off 101 -/
def exitCode : Failure → UInt32
  | .fault _ | .workerLost => 1
  | .sourceLost | .outputLost => 101

/-- the text of a reported failure -/
def message? : Failure → Option String
  | .fault e => some e.message
  | .workerLost => some "worker thread panicked"
  | .sourceLost | .outputLost => none

/-- whether the output has been opened before -/
def opensOutput : Failure → Bool
  | .fault _ | .sourceLost => false
  | .outputLost | .workerLost => true

end Failure

/-- output that is still to be made -/
inductive Job where
  /-- rows of a fleet in batches of a given size, all filled into the point `p` -/
  | points (size : Nat) (w : Writer) (p : Point) (f : Fleet) (s : Stream)
  /-- a number of queries -/
  | queries (left : Nat) (f : Fleet) (s : Stream)
  /-- rows of a grid in batches of a given size, all filled into the point `p` -/
  | grid (size : Nat) (w : Writer) (p : Point) (g : Grid) (s : Stream)

namespace Job

/-- what rows and queries are made from, or why it could not be built -/
def built {α : Type} : Option (Except Fault α) → Except Failure α
  | some result => result.mapError .fault
  | none => .error .sourceLost

/-- the job of a task; entities take their attributes from `attributes`, and output draws from
`stream` -/
def start (task : Task) (s : Settings) (attributes : Attributes) (stream : Stream) :
    Except Failure Job :=
  let writer := Writer.new {} s.format
  let size := max s.batchSize 1
  match task with
  | .points => do
    let fleet ← built ((s.config.fleet? .builtIn).run.run attributes).1
    if Writer.hasRoom size then return .points size writer {} fleet stream
    else throw .workerLost
  | .queries => do
    let fleet ← built ((s.config.fleet? .builtIn).run.run attributes).1
    let fleet ← (fleet.install s.templates s.times).mapError .fault
    return .queries s.count.toNat (fleet.setWritten s.written) stream
  | .metaquery => do
    let grid ← built s.config.grid?
    if Writer.hasRoom size then return .grid size writer {} grid stream
    else throw .outputLost

/-- what is left of a job after a piece of output -/
inductive Left where
  | more (job : Job)
  | done
  /-- the job is cut off -/
  | cut (failure : Failure)

/-- the bytes that a writer has handed over, and the writer with an empty sink -/
def drain (w : Writer) : ByteArray × Writer :=
  (w.out.sink.bytes, { w with out := { w.out with sink := {} } })

/-- a piece of output after a batch.  At the end what is left is handed over, also where the batch is
cut off: then it is what the writer `w` has of the earlier ones. -/
def piece {τ : Type} (w : Writer) (lost : Failure) (next : Option (Written τ × Bool))
    (job : Writer → τ → Job) : ByteArray × Left :=
  match next with
  | some (written, true) =>
    let (bytes, w) := drain written.writer
    (bytes, .more (job w written.state))
  | some (written, false) => (written.writer.close.bytes, .done)
  | none => (w.close.bytes, .cut lost)

/-- the next piece of output, and what is left of the job -/
def step : Job → ByteArray × Left
  | .points size w p f s =>
    piece w .workerLost
      (w.writeNext Fleet.filler.reused (beside Fleet.noteWritten) size (p, f, s))
      fun w (p, f, s) => .points size w p f s
  | .grid size w p g s =>
    piece w .outputLost
      (w.writeNext Grid.filler.reused (beside fun _ state => state) size (p, g, s))
      fun w (p, g, s) => .grid size w p g s
  | .queries 0 _ _ => (.empty, .done)
  | .queries (left + 1) f s =>
    match (f.nextQuery? {}).run.run s with
    | (some (_, sink, f), s) => (sink.bytes ++ "\n".toUTF8, .more (.queries left f s))
    | (none, _) => (.empty, .cut .outputLost)

/-- a number of steps after which nothing is left -/
def bound : Job → Nat
  | .points _ _ _ f _ => f.total.toNat + 1
  | .grid _ _ _ g _ => g.total.toNat + 1
  | .queries left _ _ => left + 1

/-- the pieces of at most `n` steps after `done` -/
def collect : Nat → ByteArray → Job → ByteArray × Option Failure
  | 0, done, _ => (done, none)
  | n + 1, done, job =>
    match job.step with
    | (bytes, .more job) => collect n (done ++ bytes) job
    | (bytes, .done) => (done ++ bytes, none)
    | (bytes, .cut failure) => (done ++ bytes, some failure)

def output (job : Job) : ByteArray × Option Failure := collect job.bound .empty job

end Job

end Telemetry.CommandLine
