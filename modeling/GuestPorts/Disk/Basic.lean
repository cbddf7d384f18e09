/-
  GuestPorts/Disk/Basic.lean
  ==========================
  **A disk as a value**: directories and files by their place, and the directory that
  relative paths start from.

  A path is what is written: names between slashes, absolute if it starts with one.  Joining and
  taking the parent cut and append text and never change it.

  A place is the list of names from the root.  A path is looked up name by name
  (`walk`): every name but the last must lead to a directory, `.` stays and `..` goes
  one up.  What an operation demands of the last name differs, so `locate` reports
  where the path leads and how it is written, and each operation decides.

  `at?` is the view of a disk; `at?_put` and `at?_put_of_ne` say what a change does
  to it.
-/
import GuestPorts.Effect
import GuestPorts.Text.Basic
import GuestPorts.Text.Utf8

namespace GuestPorts

/-! ### What the system refuses -/

inductive OsError where
  | notFound
  | notExecutableFormat
  /-- No more programs can be started. -/
  | exhausted
  | notPermitted
  | busy
  | exists
  | notDirectory
  | isDirectory
  | nameTooLong
  | notEmpty
  /-- Text was wanted and the bytes are not UTF-8. -/
  | notText
  /-- A path cannot hold the character NUL. -/
  | nulInPath
  /-- Nor can a program's name or an argument. -/
  | nulInArgument
  deriving DecidableEq, Repr

def OsError.message : OsError → String
  | .notFound => "No such file or directory (os error 2)"
  | .notExecutableFormat => "Exec format error (os error 8)"
  | .exhausted => "Resource temporarily unavailable (os error 11)"
  | .notPermitted => "Permission denied (os error 13)"
  | .busy => "Device or resource busy (os error 16)"
  | .exists => "File exists (os error 17)"
  | .notDirectory => "Not a directory (os error 20)"
  | .isDirectory => "Is a directory (os error 21)"
  | .nameTooLong => "File name too long (os error 36)"
  | .notEmpty => "Directory not empty (os error 39)"
  | .notText => "stream did not contain valid UTF-8"
  | .nulInPath => "file name contained an unexpected NUL byte"
  | .nulInArgument => "nul byte found in provided data"

/-- The system's words alone, as programs print them. -/
def OsError.words (e : OsError) : String :=
  String.ofList (Text.trimEnd (e.message.toList.takeWhile (· ≠ '(')))

/-! ### Paths -/

namespace Path

def isAbsolute (p : String) : Bool := p.toList.head? = some '/'

def pieces (p : String) : List String :=
  ((Text.splitAt '/' p.toList).filter (· ≠ [])).map String.ofList

def names (p : String) : List String :=
  ((Text.splitAt '/' p.toList).filter fun n => n ≠ [] && n ≠ ['.']).map String.ofList

/-- A path below another; an absolute one stays as it is. -/
def append (base p : String) : String :=
  if isAbsolute p || base.isEmpty then p
  else if base.toList.getLast? = some '/' then base ++ p
  else base ++ "/" ++ p

/-- A path, last character first, without the slashes and dots at its end that do not
    count.  The root stays. -/
def dropTrailing : List Char → List Char
  | ['/'] => ['/']
  | ['.', '/'] => ['/']
  | '/' :: r => dropTrailing r
  | '.' :: '/' :: r => dropTrailing ('/' :: r)
  | r => r

/-- The path without its last name, if there is one; `.` alone counts as a name at the
    start of a path. -/
def parent? (p : String) : Option String :=
  match dropTrailing p.toList.reverse with
  | [] => none
  | ['/'] => none
  | r =>
    match r.dropWhile (· ≠ '/') with
    | [] => some ""
    | rest => some (String.ofList (dropTrailing rest).reverse)

def directory (p : String) : String :=
  match parent? p with
  | some dir => if dir.isEmpty then "." else dir
  | none => "."

def lockBeside (p : String) : String := p ++ ".lock"

def upwardsFor : Nat → String → List String
  | 0, _ => []
  | n + 1, p =>
    if p.isEmpty then []
    else
      match parent? p with
      | some dir => p :: upwardsFor n dir
      | none => [p]

/-- A path and those of the directories above it, nearest first.  Each is shorter than
    the one before. -/
def upwards (p : String) : List String := upwardsFor (p.length + 1) p

end Path

/-! ### Disks -/

/-- The names that lead from the root to a file or directory. -/
abbrev Place := List String

inductive Node where
  | directory
  | file (content : List UInt8) (mode : Nat)
  deriving DecidableEq, Repr

structure Disk where
  /-- What is where, at most once for each place. -/
  nodes : List (Place × Node) := []
  workingDirectory : Place := []
  deriving DecidableEq, Repr, Inhabited

namespace Disk

/-- What is at a place; the root is always there. -/
def at? (d : Disk) (place : Place) : Option Node :=
  if place = [] then some .directory else d.nodes.lookup place

def erase (d : Disk) (place : Place) : Disk :=
  { d with nodes := d.nodes.filter fun entry => entry.1 != place }

def put (d : Disk) (place : Place) (node : Node) : Disk :=
  { d with nodes := (place, node) :: (d.erase place).nodes }

theorem at?_put {d : Disk} {place : Place} (h : place ≠ []) (node : Node) :
    (d.put place node).at? place = some node := by
  simp [at?, put, h]

theorem lookup_filter_ne {place other : Place} (h : other ≠ place) (nodes : List (Place × Node)) :
    (nodes.filter fun entry => entry.1 != place).lookup other = nodes.lookup other := by
  induction nodes with
  | nil => rfl
  | cons entry rest ih =>
    obtain ⟨p, node⟩ := entry
    by_cases hp : p = place
    · subst hp
      have hne : (other == p) = false := by simpa using h
      simp [List.lookup_cons, hne, ih]
    · have hkeep : (p != place) = true := by simpa using hp
      simp only [List.filter_cons, hkeep, if_true, List.lookup_cons, ih]

theorem at?_put_of_ne {d : Disk} {place other : Place} (h : other ≠ place) (node : Node) :
    (d.put place node).at? other = d.at? other := by
  have hne : (other == place) = false := by simpa using h
  simp [at?, put, erase, List.lookup_cons, hne, lookup_filter_ne h]

/-! ### Looking up paths -/

/-- The longest name of a file, and the longest path, in bytes. -/
def maxName : Nat := 255
def maxPath : Nat := 4095

def step (d : Disk) (place : Place) (name : String) : Except OsError Place :=
  if d.at? place ≠ some .directory then .error .notDirectory
  else if name = "." then .ok place
  else if name = ".." then .ok place.dropLast
  else if maxName < name.utf8ByteSize then .error .nameTooLong
  else .ok (place ++ [name])

def walk (d : Disk) : Place → List String → Except OsError Place
  | place, [] => .ok place
  | place, name :: rest => do
    let next ← d.step place name
    match d.at? next with
    | none => .error .notFound
    | some _ => d.walk next rest

structure Spot where
  place : Place
  node : Option Node
  /-- The last name is a name of its own, neither `.` nor `..` nor the root. -/
  isNamed : Bool
  /-- The path ends in a slash, so it means a directory. -/
  hasSlash : Bool
  deriving DecidableEq, Repr

/-- No path is empty or too long or has a NUL in it. -/
def checkPath (path : String) : Except OsError Unit :=
  if path.toList = [] then .error .notFound
  else if path.toList.contains '\x00' then .error .nulInPath
  else if maxPath < path.utf8ByteSize then .error .nameTooLong
  else .ok ()

def start (d : Disk) (path : String) : Place :=
  if Path.isAbsolute path then [] else d.workingDirectory

/-- Follow a path up to its last name, which need not exist. -/
def locate (d : Disk) (path : String) : Except OsError Spot := do
  checkPath path
  match (Path.pieces path).getLast? with
  | none => return { place := [], node := some .directory, isNamed := false, hasSlash := true }
  | some last =>
    let place ← d.step (← d.walk (d.start path) (Path.pieces path).dropLast) last
    return { place, node := d.at? place, isNamed := last ≠ "." && last ≠ ".."
             hasSlash := path.toList.getLast? = some '/' }

def find (d : Disk) (path : String) : Except OsError (Place × Node) := do
  let spot ← d.locate path
  match spot.node with
  | none => throw .notFound
  | some node =>
    if spot.hasSlash && node ≠ .directory then throw .notDirectory
    return (spot.place, node)

def node? (d : Disk) (path : String) : Option Node :=
  match d.find path with
  | .ok (_, node) => some node
  | .error _ => none

def hasPath (d : Disk) (path : String) : Bool := (d.node? path).isSome

def hasDirectory (d : Disk) (path : String) : Bool := d.node? path = some .directory

/-! ### Reading -/

def bytesAt (d : Disk) (path : String) : Except OsError (List UInt8) := do
  match (← d.find path).2 with
  | .directory => throw .isDirectory
  | .file content _ => return content

def textAt (d : Disk) (path : String) : Except OsError String := do
  match Text.decode (← d.bytesAt path) with
  | some cs => return String.ofList cs
  | none => throw .notText

def readText (path : String) : Effect Disk OsError String := Effect.asks (·.textAt path)

/-! ### Writing -/

/-- The mode of a file that is newly made, and that of a newly made temporary one. -/
def plainMode : Nat := 0o644
def privateMode : Nat := 0o600

/-- The place of a file to write and what is in it already; it need not exist. -/
def fileToWrite (d : Disk) (path : String) : Except OsError (Place × List UInt8 × Nat) := do
  let spot ← d.locate path
  if spot.hasSlash || !spot.isNamed then throw .isDirectory
  match spot.node with
  | some .directory => throw .isDirectory
  | some (.file content mode) => return (spot.place, content, mode)
  | none => return (spot.place, [], plainMode)

/-- Change a file's content, making the file if it does not exist. -/
def revise (path : String) (f : List UInt8 → List UInt8) : Effect Disk OsError Unit :=
  Effect.ofFunction fun d =>
    match d.fileToWrite path with
    | .ok (place, content, mode) => (.ok (), d.put place (.file (f content) mode))
    | .error e => (.error e, d)

def touch (path : String) : Effect Disk OsError Unit := revise path id

def writeText (path : String) (text : String) : Effect Disk OsError Unit :=
  revise path fun _ => Text.encode text.toList

def appendText (path : String) (text : String) : Effect Disk OsError Unit :=
  revise path (· ++ Text.encode text.toList)

/-- Put a finished file in the place of whatever file the path leads to, in one step:
    nobody sees a part of it. -/
def replaceText (path : String) (mode : Nat) (text : String) : Effect Disk OsError Unit :=
  Effect.ofFunction fun d =>
    match d.locate path with
    | .error e => (.error e, d)
    | .ok spot =>
      if !spot.isNamed then (.error .busy, d)
      else if spot.hasSlash then (.error .notDirectory, d)
      else if spot.node = some .directory then (.error .isDirectory, d)
      else (.ok (), d.put spot.place (.file (Text.encode text.toList) mode))

def modeAt (d : Disk) (path : String) : Except OsError Nat := do
  match (← d.find path).2 with
  | .directory => return 0o755
  | .file _ mode => return mode

def setMode (path : String) (mode : Nat) : Effect Disk OsError Unit :=
  Effect.ofFunction fun d =>
    match d.find path with
    | .ok (place, .file content _) => (.ok (), d.put place (.file content mode))
    | .ok (_, .directory) => (.ok (), d)
    | .error e => (.error e, d)

/-! ### Directories -/

def makeDirectory (path : String) : Effect Disk OsError Unit :=
  Effect.ofFunction fun d =>
    match d.locate path with
    | .error e => (.error e, d)
    | .ok spot =>
      match spot.node with
      | some _ => (.error .exists, d)
      | none => (.ok (), d.put spot.place .directory)

def ensureDirectory (path : String) : Effect Disk OsError Unit :=
  Effect.ofFunction fun d =>
    match (makeDirectory path).result d with
    | (.error e, d) => if d.hasDirectory path then (.ok (), d) else (.error e, d)
    | r => r

/-- Make the first of some directories, each below the next; the others only when they
    turn out to be missing. -/
def makeNested : List String → Effect Disk OsError Unit
  | [] => pure ()
  | path :: above => Effect.ofFunction fun d =>
    match (ensureDirectory path).result d with
    | (.error .notFound, d) => (do makeNested above; ensureDirectory path : Effect Disk OsError Unit) d
    | r => r

def makeDirectories (path : String) : Effect Disk OsError Unit := makeNested (Path.upwards path)

end Disk

end GuestPorts
