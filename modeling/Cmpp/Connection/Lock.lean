/-!
# Locks

Tasks that want the same thing queue up for it. The first in the queue holds the lock, so the lock
passes on, in order of arrival, as soon as its holder leaves; whoever leaves before that gives up
its place.
-/

namespace Cmpp

/-- What a task is known by. -/
abbrev TaskId := Nat

/-- The queue for a lock, its holder first. -/
structure Lock where
  /-- The tasks in the queue, in order of arrival. -/
  queue : List TaskId := []
  deriving DecidableEq

namespace Lock

/-- The task that holds the lock. -/
def holder? (lock : Lock) : Option TaskId := lock.queue.head?

/-- Whether a task holds the lock. -/
def isHeldBy (lock : Lock) (task : TaskId) : Bool := lock.holder? == some task

/-- Queue up. -/
def join (lock : Lock) (task : TaskId) : Lock := ⟨lock.queue ++ [task]⟩

/-- Leave the queue, wherever in it. -/
def leave (lock : Lock) (task : TaskId) : Lock := ⟨lock.queue.erase task⟩

end Lock

end Cmpp
