/-
  GuestPorts/Batch/Execute.lean
  =============================
  **Running a batch**, strictly in order, each command at most once.

  The stage of a failed command decides what becomes of the commands behind it.  After
  a failed create or link all of them are skipped.  After a failed populate the rest
  of its block is skipped.  After a failed unlink or destroy nothing is skipped, so
  that a teardown goes on.  Nothing is rolled back; the report says what was done.
-/
import GuestPorts.Process.FilterRunner

namespace GuestPorts

structure Failure where
  command : Command
  error : RunnerError
  deriving DecidableEq, Repr

/-- What became of the commands of a batch, each in one of the three lists. -/
structure Report where
  applied : List Command := []
  failures : List Failure := []
  skipped : List Command := []
  /-- A create or link failed and the rest was not attempted. -/
  aborted : Bool := false
  deriving DecidableEq, Repr, Inhabited

def Report.isSuccess (r : Report) : Bool := r.failures.isEmpty && r.skipped.isEmpty

namespace Batch

/-- What the commands run so far mean for the next one. -/
structure Progress where
  aborted : Bool := false
  /-- The block of the last populate command that failed. -/
  failedBlock : Option Nat := none
  deriving DecidableEq, Repr

def Progress.skips (p : Progress) (stage : Stage) : Bool :=
  p.aborted ||
    match stage with
    | .populate block => p.failedBlock == some block
    | _ => false

def Progress.afterFailure (p : Progress) (stage : Stage) : Progress :=
  match stage with
  | .create | .link => { p with aborted := true }
  | .populate block => { p with failedBlock := some block }
  | .unlink | .destroy => p

def executeFrom {σ : Type} (run : Command → Effect σ RunnerError Unit) (p : Progress) :
    Batch → σ → Report × σ
  | [], s => ({ aborted := p.aborted }, s)
  | c :: rest, s =>
    if p.skips c.stage then
      let (r, s) := executeFrom run p rest s
      ({ r with skipped := c :: r.skipped }, s)
    else
      match (run c).result s with
      | (.ok (), s) =>
        let (r, s) := executeFrom run p rest s
        ({ r with applied := c :: r.applied }, s)
      | (.error e, s) =>
        let (r, s) := executeFrom run (p.afterFailure c.stage) rest s
        ({ r with failures := ⟨c, e⟩ :: r.failures }, s)

def execute {σ : Type} (runner : Runner σ) (batch : Batch) (s : σ) : Report × σ :=
  executeFrom runner.run {} batch s

end Batch

end GuestPorts
