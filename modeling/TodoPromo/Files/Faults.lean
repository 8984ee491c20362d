import TodoPromo.Files.Tree

/-! # Disks that fail

A tree of files behind a plan of faults. Before each operation the plan says whether it fails; an
operation that fails does nothing, but for a write, which may leave other contents than it was given
in the file. -/

namespace TodoPromo.Files

/-- The operations of a disk. -/
inductive DiskCall where
  | makeDirs
  | read
  | write
  | rename
  | isDirectory
  | workingDirectory
  deriving DecidableEq, Repr

/-- How an operation fails: what the system says about it, and what a write leaves in its file, if it
came so far. -/
structure DiskFault where
  text : String
  part : Option Bytes
  deriving DecidableEq, Repr

/-- A plan says of each operation in turn whether it fails, and how. -/
class DiskFaultPlan (φ : Type) where
  strike : DiskCall → φ → Option DiskFault × φ

/-- A list says it of one operation after another. -/
instance : DiskFaultPlan (List (Option DiskFault)) :=
  ⟨fun _ plan => (plan.headD none, plan.tail)⟩

/-- A tree of files and the plan of its faults. -/
structure FaultyTree (φ : Type) where
  tree : Tree
  plan : φ

namespace FaultyTree

variable {φ β : Type} [DiskFaultPlan φ]

/-- Does an operation unless the plan lets it fail; `left` is what a fault makes of the tree. -/
def guard (call : DiskCall) (left : DiskFault → Tree → Tree) (x : Attempt Tree β) :
    Attempt (FaultyTree φ) β := ExceptT.mk fun s =>
  match DiskFaultPlan.strike call s.plan with
  | (some f, plan) => (.error (.other f.text), ⟨left f s.tree, plan⟩)
  | (none, plan) =>
    let (r, tree) := x.run s.tree
    (r, ⟨tree, plan⟩)

def untouched (_ : DiskFault) (t : Tree) : Tree := t

/-- What a write that fails makes of a tree. -/
def partlyWritten (path : String) (f : DiskFault) (t : Tree) : Tree :=
  match f.part with
  | none => t
  | some c => match t.write path c with
    | .ok t' => t'
    | .error _ => t

instance : Disk (FaultyTree φ) where
  makeDirs path := guard .makeDirs untouched (Disk.makeDirs path)
  read path := guard .read untouched (Disk.read path)
  write path contents := guard .write (partlyWritten path) (Disk.write path contents)
  rename source target := guard .rename untouched (Disk.rename source target)
  isDirectory path := guard .isDirectory untouched (Disk.isDirectory path)
  workingDirectory := guard .workingDirectory untouched Disk.workingDirectory

end FaultyTree
end TodoPromo.Files
