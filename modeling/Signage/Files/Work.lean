import Signage.Error
import Signage.Files.FileSystem

/-!
Work on files that others read meanwhile. It keeps all states that the tree passes through, so
that it can be said what a reader may see at any time.
-/
namespace Signage.Files

/-- The states that a tree has passed through. -/
structure History where
  current : FileSystem
  /-- The states before, the latest first. -/
  past : List FileSystem

namespace History

def start (fs : FileSystem) : History := ⟨fs, []⟩

def advance (history : History) (fs : FileSystem) : History :=
  ⟨fs, history.current :: history.past⟩

/-- All states, the latest first. -/
def states (history : History) : List FileSystem := history.current :: history.past

end History

/-- Work on files; what was changed stays changed when it fails. -/
abbrev Work := ExceptT Error (StateM History)

/-- The failure of the hub that a failure of files amounts to. -/
def Fault.toError (fault : Fault) : Error := .io fault.message

namespace Work

/-- The tree as it is now. -/
def tree : Work FileSystem := return (← get).current

/-- Let the tree pass into another state. -/
def become (fs : FileSystem) : Work Unit := modify fun history => history.advance fs

/-- The answer of an operation, or its failure. -/
def ofExcept {α : Type} : Except Fault α → Work α
  | .ok a => pure a
  | .error fault => throw fault.toError

/-- Change the tree by an operation. -/
def change (operation : FileSystem → Except Fault FileSystem) : Work Unit := do
  become (← ofExcept (operation (← tree)))

/-- The answer of some work on a tree, and the tree after it. -/
def on {α : Type} (fs : FileSystem) (work : Work α) : Except Error α × FileSystem :=
  let (answer, history) := work.run.run (.start fs)
  (answer, history.current)

end Work
end Signage.Files
