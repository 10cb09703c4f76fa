/-!
Results of tasks that run side by side.

Each task has a slot, which takes its result when the task completes. Whoever waits for the tasks
reads the slots in the order of the tasks.
-/

namespace LineAudit.Pool

variable {α : Type}

/-- Puts the result of the task that completes into its slot. -/
def complete (results : List α) (slots : List (Option α)) (task : Nat) : List (Option α) :=
  slots.set task results[task]?

/-- The results of tasks that complete in a given order. -/
def collect (results : List α) (order : List Nat) : List α :=
  (order.foldl (complete results) (results.map fun _ => none)).filterMap id

end LineAudit.Pool
