import TodoPromo.Launch.Preparation

/-! # The program around a service

It decides how many threads serve, and turns the outcome of the service into an exit status. The
number of threads comes from the configuration; when there is none, from a variable. The library
that runs the threads is not described here: a program is given what it sees of it, a `ThreadPool`.
That a signal from outside ends the program too is left out. -/

namespace TodoPromo.Launch

inductive ExitStatus where
  | success
  | failure
  deriving DecidableEq, Repr

/-- The exit status of a program whose entry ended well or badly. -/
def ExitStatus.ofEntry (endedWell : Bool) : ExitStatus := if endedWell then success else failure

/-- The variable that the thread pool knows too. -/
def threadsVariable : String := "TOKIO_WORKER_THREADS"

/-- The variable as a number, exactly as it is written. -/
def variableThreads? (env : Environment) : Option Nat :=
  (env.text? threadsVariable).bind fun s => (Config.unsigned UInt64.size s).toOption

/-- How many threads are asked for. -/
def requestedThreads (env : Environment) : Except ConfigError Config → Option Nat
  | .ok c => c.workerThreads
  | .error _ => variableThreads? env

/-- What comes of starting a thread pool. -/
inductive PoolStart where
  | started
  /-- The system does not give the pool what it needs. -/
  | failed
  | panicked
  deriving DecidableEq, Repr

/-- A library for thread pools, as far as a program sees it before its entry runs. -/
structure ThreadPool where
  /-- Whether this number of threads may be asked for; to ask for another number is a panic. -/
  admits : Nat → Bool
  /-- What comes of starting the pool with the number of threads that was asked for, if one was. The
  library looks at the variables by itself. -/
  start : Environment → Option Nat → PoolStart

/-- A pool that any number of threads can be had from. Where none is asked for it goes by the
variable, and panics if that is set to anything but a number of threads. -/
def ThreadPool.boundless : ThreadPool where
  admits n := 0 < n
  start env
    | some _ => .started
    | none =>
      match env.get? threadsVariable with
      | none => .started
      | some _ => if (variableThreads? env).any (0 < ·) then .started else .panicked

variable {δ : Type} [Files.Disk δ]

/-- Runs an entry, which says whether it ended well. There is no exit status, but `none`, if the
program panics before that. -/
def run (env : Environment) (entry : Environment → StateM δ Bool)
    (pool : ThreadPool := .boundless) : StateM δ (Option ExitStatus) := do
  let env ← withEnvFile env
  let requested := requestedThreads env (← Config.load env)
  if requested.all pool.admits then
    match pool.start env requested with
    | .started => return some (.ofEntry (← entry env))
    | .failed => return some .failure
    | .panicked => return none
  else return none

end TodoPromo.Launch
