/-
  GuestPorts/Registry/File.lean
  =============================
  **Stores**: where a registry is kept between events.

  A store can do two things: show the registry (`load`), and change it in one step
  (`change`), in which nothing is kept when the change is refused.  All other
  operations come from these two, so stores that agree on them agree on everything.

  In a file the registry is one document; a change reads it, works on it and puts a finished
  document in its place, so that nobody reads a part of one.  Each access takes a lock, which is
  a file of its own beside the document because the document is replaced and the lock is not.

  Before the directory exists nothing can have been kept: reading shows an empty
  registry and leaves no lock behind, while a change is refused.  An absent or blank
  document is an empty registry; any other document that cannot be read stays as it is.
-/
import GuestPorts.Disk.Basic
import GuestPorts.Registry.Json

namespace GuestPorts

inductive StoreError where
  | missingDirectory (path : String)
  | lock (path : String) (reason : OsError)
  | io (path : String) (reason : OsError)
  /-- What is kept cannot be read as a registry. -/
  | unreadable (path : String) (reason : Json.Fault)
  | refused (reason : DeclarationError)
  | unavailable (reason : String)
  deriving DecidableEq, Repr

def StoreError.message : StoreError → String
  | .missingDirectory path => "Store directory does not exist: " ++ path
  | .lock path reason => "Failed to lock store " ++ path ++ ": " ++ reason.message
  | .io path reason => "Store I/O error on " ++ path ++ ": " ++ reason.message
  | .unreadable path reason => "Store " ++ path ++ " is not valid JSON: " ++ reason.message
  | .refused reason => reason.message
  | .unavailable reason => "Store unavailable: " ++ reason

/-- A change of a registry with what it answers; it may be refused. -/
abbrev Change (α : Type) := Registry → Except DeclarationError (α × Registry)

structure Store (σ : Type) where
  load : Effect σ StoreError Registry
  change : {α : Type} → Change α → Effect σ StoreError α

namespace Store

variable {σ τ : Type}

def find (store : Store σ) (vmName : String) : Effect σ StoreError (Option Declaration) := do
  return (← store.load).find? vmName

def upsert (store : Store σ) (d : Declaration) (now : Moment) : Effect σ StoreError Unit :=
  store.change fun r => return ((), ← r.upsert d now)

def merge (store : Store σ) (update : Declaration) (now : Moment) :
    Effect σ StoreError Declaration :=
  store.change fun r => do
    let (r, merged) ← r.merge update now
    return (merged, r)

def remove (store : Store σ) (vmName : String) (now : Moment) : Effect σ StoreError Bool :=
  store.change fun r =>
    let (r, removed) := r.remove vmName now
    .ok (removed, r)

def replace (store : Store σ) (r : Registry) : Effect σ StoreError Unit :=
  store.change fun _ => .ok ((), r)

def inMemory : Store Registry where
  load := fun r => (.ok r, r)
  change f := fun r =>
    match f r with
    | .ok (a, after) => (.ok a, after)
    | .error e => (.error (.refused e), r)

def within (store : Store σ) (get : τ → σ) (set : σ → τ → τ) : Store τ where
  load := Effect.within get set store.load
  change f := Effect.within get set (store.change f)

end Store

/-! ### A store in a file -/

namespace Store

/-- Take the lock; the directory must be there. -/
def takeLock (path : String) : Effect Disk StoreError Unit := do
  let directory := Path.directory path
  if !(← Effect.asks fun d => .ok (d.hasDirectory directory)) then
    throw (.missingDirectory directory)
  Effect.wrap (.lock (Path.lockBeside path)) (Disk.touch (Path.lockBeside path))

/-- The registry of a document; a blank one is empty. -/
def readDocument (path text : String) : Except StoreError Registry :=
  if Text.isBlankText text.toList then .ok {}
  else (Registry.parse text).mapError (.unreadable path)

def readFile (path : String) (d : Disk) : Except StoreError Registry :=
  match d.textAt path with
  | .ok text => readDocument path text
  | .error .notFound => .ok {}
  | .error e => .error (.io path e)

def document (r : Registry) : String := r.text ++ "\n"

def inFile (path : String) : Store Disk where
  load := do
    if !(← Effect.asks fun d => .ok (d.hasDirectory (Path.directory path))) then return {}
    takeLock path
    Effect.asks (readFile path)
  change f := do
    takeLock path
    let before ← Effect.asks (readFile path)
    let (answer, after) ← Effect.ofExcept ((f before).mapError .refused)
    Effect.wrap (.io path) (Disk.replaceText path Disk.privateMode (document after))
    return answer

end Store

end GuestPorts
