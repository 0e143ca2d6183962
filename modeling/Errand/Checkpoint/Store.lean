import Errand.Run.Encoding
import Errand.Run.Team

/-!
# Keeping runs in memory

Runs are kept as text, one for each thread, so a run that comes back is a copy that nobody watches.
A thread whose run is being resumed is claimed; it cannot be claimed again until the claim is given
back or the run is removed. A store whose limits leave no room keeps nothing.
-/

set_option autoImplicit false

namespace Errand.Checkpoint

/-- What a store may keep. -/
structure Limits where
  /-- For how many seconds a run is kept. -/
  secondsToLive : Nat := 3600
  /-- How many runs are kept. -/
  maxEntries : Nat := 1000
deriving DecidableEq, Repr

/-- The longest time for which a store can keep runs: a thousand years of 365 days. -/
def Limits.longest : Nat := 1000 * 365 * 86400

/-- Whether a store can have the limits at all. -/
def Limits.feasible (limits : Limits) : Bool :=
  limits.secondsToLive ≤ longest

/-- Whether the limits leave room for a run. -/
def Limits.roomy (limits : Limits) : Bool :=
  limits.secondsToLive != 0 && limits.maxEntries != 0

/-- Runs kept in memory. -/
structure Store where
  /-- What may be kept. -/
  limits : Limits := {}
  /-- The texts of the runs, by thread. -/
  kept : List (String × String) := []
  /-- The threads that are claimed. -/
  claims : List String := []
deriving Repr

namespace Store

/-- Keeps a run. -/
def save (store : Store) (thread : String) (run : Run) : Store :=
  if store.limits.roomy then { store with kept := Entries.set thread run.write store.kept }
  else store

/-- The run that a text stands for. -/
def decode (thread text : String) : Except Fault Run :=
  match Run.read text with
  | .ok run => .ok run
  | .error error =>
    .error (.storage ("Corrupt checkpoint '" ++ thread ++ "': " ++ error.message))

/-- The run of a thread. -/
def load (store : Store) (thread : String) : Except Fault (Option Run) :=
  match store.kept.lookup thread with
  | none => .ok none
  | some text => some <$> decode thread text

/-- The run of a thread, claimed. -/
def claim (store : Store) (thread : String) : Except Fault (Option Run) × Store :=
  if thread ∈ store.claims then
    (.error (.conflict ("Thread '" ++ thread ++ "' is already being resumed")), store)
  else
    match store.load thread with
    | .error fault => (.error fault, store)
    | .ok none => (.ok none, store)
    | .ok (some run) => (.ok (some run), { store with claims := thread :: store.claims })

/-- Gives a claim back. -/
def release (store : Store) (thread : String) : Store :=
  { store with claims := store.claims.filter (· != thread) }

/-- Removes the run of a thread and the claim to it; says whether there was a run. -/
def delete (store : Store) (thread : String) : Bool × Store :=
  ((store.kept.lookup thread).isSome,
    { store.release thread with kept := store.kept.filter (·.1 != thread) })

/-- The number of runs. -/
def size (store : Store) : Nat :=
  store.kept.length

/-- The store as a vault. -/
def vault : Vault Store where
  save thread run := .modify fun store => (.ok (), store.save thread run)
  load thread := .modify fun store => (store.load thread, store)
  claim thread := .modify fun store => store.claim thread
  release thread := .modify fun store => (.ok (), store.release thread)
  delete thread := .modify fun store =>
    let (existed, store) := store.delete thread
    (.ok existed, store)

end Store

end Errand.Checkpoint
