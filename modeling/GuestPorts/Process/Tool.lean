/-
  GuestPorts/Process/Tool.lean
  ============================
  **Small programs** that every host has: they look at their arguments, at what they can
  read and at the disk, and at nothing else.

  A tool's file holds an image that says which tool it is, so a copy of the file is the
  same tool.
-/
import GuestPorts.Process.Host
import GuestPorts.Process.LineTool
import GuestPorts.Shell.Format

namespace GuestPorts

/-- What a tool does, whatever its name. -/
inductive Tool where
  | shell
  | succeed
  | fail
  | echo
  | print
  | condition
  | concatenate
  | list
  | copy
  | move
  | remove
  | makeDirectory
  | touch
  | count
  | choose
  | firstLines
  | lastLines
  /-- What is read goes into files too. -/
  | share
  /-- Another program is run. -/
  | launcher
  deriving DecidableEq, Repr

namespace Tool

def table : List (String × Tool) :=
  [("sh", .shell), ("dash", .shell), ("bash", .shell), ("env", .launcher),
   ("true", .succeed), ("sleep", .succeed), ("false", .fail), ("echo", .echo),
   ("printf", .print), ("test", .condition), ("cat", .concatenate), ("ls", .list), ("cp", .copy),
   ("mv", .move), ("rm", .remove), ("mkdir", .makeDirectory), ("touch", .touch),
   ("wc", .count), ("grep", .choose), ("head", .firstLines), ("tail", .lastLines), ("tee", .share)]

/-- What the file of a tool holds. -/
def image (name : String) : List UInt8 := 0x7F :: Text.encode ("ELF " ++ name).toList

def ofImage? (content : List UInt8) : Option Tool :=
  (table.find? fun entry => image entry.1 = content).map (·.2)

def failure (line : String) : Outcome :=
  { exit := .code 1, errors := Text.encode (line ++ "\n").toList }

def ofStep (complain : OsError → String) (step : Effect Disk OsError Unit) (d : Disk) : Outcome × Disk :=
  match step.result d with
  | (.ok (), d) => ({}, d)
  | (.error e, d) => (failure (complain e), d)

def operands (args : List String) : List String := args.filter fun a => a.toList.head? ≠ some '-'

def isForced (args : List String) : Bool := args.contains "-f"

def lastName (path : String) : String := ((Path.names path).getLast?).getD path

/-- Where a file that is copied or moved to a path goes. -/
def destination (d : Disk) (source target : String) : String :=
  if d.hasDirectory target then Path.append target (lastName source) else target

def shown (path : String) : String := "'" ++ path ++ "'"

/-- Copy the content of a file; the mode of the copy is that of a new file unless it is
    executable. -/
def copyFile (source target : String) (d : Disk) : Outcome × Disk :=
  match d.bytesAt source, d.modeAt source with
  | .ok content, .ok mode =>
    let path := destination d source target
    let isNew := !d.hasPath path
    ofStep (fun e => "cp: cannot create regular file " ++ shown path ++ ": " ++ e.words)
      (do Disk.revise path fun _ => content
          if isNew then Disk.setMode path mode) d
  | .error .isDirectory, _ =>
    (failure ("cp: -r not specified; omitting directory " ++ shown source), d)
  | .error e, _ | _, .error e => (failure ("cp: cannot stat " ++ shown source ++ ": " ++ e.words), d)

def eraseAt (path : String) : Effect Disk OsError Unit :=
  Effect.ofFunction fun d =>
    match d.find path with
    | .error e => (.error e, d)
    | .ok (_, .directory) => (.error .isDirectory, d)
    | .ok (place, .file ..) => (.ok (), d.erase place)

/-- One outcome behind another; a failure of the first one counts. -/
def followedBy (first others : Outcome) : Outcome :=
  { exit := if first.exit.isSuccess then others.exit else first.exit
    output := first.output ++ others.output
    errors := first.errors ++ others.errors }

def removeAll (force : Bool) : List String → Disk → Outcome × Disk
  | [], d => ({}, d)
  | path :: rest, d =>
    let (first, d) :=
      if force && !d.hasPath path then (({} : Outcome), d)
      else ofStep (fun e => "rm: cannot remove " ++ shown path ++ ": " ++ e.words) (eraseAt path) d
    let (others, d) := removeAll force rest d
    (followedBy first others, d)

/-- Work on each of some files, or without any on what can be read. -/
def onEach (complain : String → String) (work : String → List UInt8 → Outcome) (input : List UInt8)
    (d : Disk) (paths : List String) : Outcome :=
  if paths = [] then work "" input
  else
    paths.foldr (fun path others =>
      if path = "-" then followedBy (work "-" input) others
      else
        match d.bytesAt path with
        | .ok content => followedBy (work path content) others
        | .error e => followedBy (failure (complain path ++ ": " ++ e.words)) others) {}

def showAll (input : List UInt8) (args : List String) (d : Disk) : Outcome :=
  onEach ("cat: " ++ ·) (fun _ content => { output := content }) input d args

def countAll (input : List UInt8) (args : List String) (d : Disk) : Outcome :=
  let work (path : String) (content : List UInt8) : Outcome :=
    let n := Text.decimal (LineTool.countOf (LineTool.letters args) content)
    { output := Text.encode ((if path.isEmpty then n else n ++ " " ++ path) ++ "\n").toList }
  onEach ("wc: " ++ ·) work input d (operands args)

def chooseLines (input : List UInt8) (args : List String) (d : Disk) : Outcome :=
  match operands args with
  | [] => { exit := .code 2 }
  | [pattern] => LineTool.choose (LineTool.letters args) pattern input
  | pattern :: path :: _ =>
    match d.bytesAt path with
    | .ok content => LineTool.choose (LineTool.letters args) pattern content
    | .error e => { failure ("grep: " ++ path ++ ": " ++ e.words) with exit := .code 2 }

def showEnd (name : String) (isLast : Bool) (input : List UInt8) (args : List String) (d : Disk) :
    Outcome :=
  let work (_ : String) (content : List UInt8) : Outcome :=
    { output := LineTool.atEnd isLast (LineTool.wanted args) content }
  onEach (fun path => name ++ ": cannot open " ++ shown path ++ " for reading") work input d
    (LineTool.withoutWanted args)

/-- The names in a directory, in order, those that begin with a point left out. -/
def namesIn (d : Disk) (place : Place) : List String :=
  let names := d.nodes.filterMap fun (p, _) => if p.dropLast = place then p.getLast? else none
  (names.filter fun name => name.toList.head? ≠ some '.').mergeSort fun a b => a ≤ b

def listAll (args : List String) (d : Disk) : Outcome :=
  let paths := if operands args = [] then ["."] else operands args
  paths.foldr (fun path others =>
    match d.find path with
    | .ok (place, .directory) =>
      followedBy { output := Text.encode (String.join ((namesIn d place).map (· ++ "\n"))).toList } others
    | .ok _ => followedBy { output := Text.encode (path ++ "\n").toList } others
    | .error e =>
      let first := failure ("ls: cannot access " ++ shown path ++ ": " ++ e.words)
      followedBy { first with exit := .code 2 } others) {}

/-- Whether a condition holds: what a file is, or how two texts compare. -/
def holds (d : Disk) : List String → Bool
  | [] => false
  | [text] => !text.isEmpty
  | ["!", text] => text.isEmpty
  | ["-n", text] => !text.isEmpty
  | ["-z", text] => text.isEmpty
  | ["-e", path] => d.hasPath path
  | ["-d", path] => d.hasDirectory path
  | ["-f", path] => d.hasPath path && !d.hasDirectory path
  | ["-s", path] => match d.bytesAt path with
    | .ok content => !content.isEmpty
    | .error _ => false
  | ["-x", path] => match d.modeAt path with
    | .ok mode => Host.isExecutable mode
    | .error _ => false
  | ["!", unary, path] => !holds d [unary, path]
  | [left, "=", right] => left = right
  | [left, "!=", right] => left ≠ right
  | [left, "-eq", right] => left.toInt? = right.toInt?
  | [left, "-ne", right] => left.toInt? ≠ right.toInt?
  | [left, "-lt", right] => compareNumbers (· < ·) left right
  | [left, "-le", right] => compareNumbers (· ≤ ·) left right
  | [left, "-gt", right] => compareNumbers (· > ·) left right
  | [left, "-ge", right] => compareNumbers (· ≥ ·) left right
  | "!" :: rest => !holds d rest
  | _ => false
where
  compareNumbers (order : Int → Int → Bool) (left right : String) : Bool :=
    match left.toInt?, right.toInt? with
    | some a, some b => order a b
    | _, _ => false

def makeAll (above : Bool) : List String → Disk → Outcome × Disk
  | [], d => ({}, d)
  | path :: rest, d =>
    let step := if above then Disk.makeDirectories path else Disk.makeDirectory path
    let (first, d) :=
      ofStep (fun e => "mkdir: cannot create directory " ++ shown path ++ ": " ++ e.words) step d
    let (others, d) := makeAll above rest d
    (followedBy first others, d)

def touchAll : List String → Disk → Outcome × Disk
  | [], d => ({}, d)
  | path :: rest, d =>
    let (first, d) :=
      if d.hasDirectory path then (({} : Outcome), d)
      else ofStep (fun e => "touch: cannot touch " ++ shown path ++ ": " ++ e.words) (Disk.touch path) d
    let (others, d) := touchAll rest d
    (followedBy first others, d)

def shareAll (keep : Bool) (bytes : List UInt8) : List String → Disk → Outcome × Disk
  | [], d => ({}, d)
  | path :: rest, d =>
    let (first, d) := ofStep (fun e => "tee: " ++ path ++ ": " ++ e.words)
      (Disk.revise path fun old => if keep then old ++ bytes else bytes) d
    let (others, d) := shareAll keep bytes rest d
    (followedBy first others, d)

def moveFile (source target : String) (d : Disk) : Outcome × Disk :=
  match d.find source with
  | .error e => (failure ("mv: cannot stat " ++ shown source ++ ": " ++ e.words), d)
  | .ok _ =>
    let (copied, after) := copyFile source target d
    if copied.exit.isSuccess then removeAll false [source] after else (copied, d)

/-- Run a tool on its arguments.  Those that run other programs are not run here. -/
def run (tool : Tool) (input : List UInt8) (args : List String) (d : Disk) : Outcome × Disk :=
  match tool with
  | .shell | .launcher => ({}, d)
  | .succeed => ({}, d)
  | .fail => ({ exit := .code 1 }, d)
  | .echo =>
    match args with
    | "-n" :: rest => ({ output := Text.encode (Text.joined " " rest).toList }, d)
    | _ => ({ output := Text.encode (Text.joined " " args ++ "\n").toList }, d)
  | .print =>
    match args with
    | f :: rest => ({ output := Shell.format f.toList rest }, d)
    | [] => (failure "printf: missing operand", d)
  | .condition => ({ exit := .code (if holds d args then 0 else 1) }, d)
  | .concatenate => (showAll input (operands args) d, d)
  | .list => (listAll args d, d)
  | .count => (countAll input args d, d)
  | .choose => (chooseLines input args d, d)
  | .firstLines => (showEnd "head" false input args d, d)
  | .lastLines => (showEnd "tail" true input args d, d)
  | .share =>
    let (shared, d) := shareAll (args.contains "-a") input (operands args) d
    ({ shared with output := input }, d)
  | .copy =>
    match operands args with
    | [source, target] => copyFile source target d
    | _ => (failure "cp: missing file operand", d)
  | .move =>
    match operands args with
    | [source, target] => moveFile source target d
    | _ => (failure "mv: missing file operand", d)
  | .remove => removeAll (isForced args) (operands args) d
  | .makeDirectory => makeAll (args.contains "-p") (operands args) d
  | .touch => touchAll (operands args) d

end Tool

def Disk.standard (workingDirectory : Place) : Disk :=
  let directories : List Place :=
    [["bin"], ["usr"], ["usr", "bin"], ["etc"], ["var"], ["var", "lib"], ["var", "log"], ["tmp"],
     ["proc"], ["proc", "sys"], ["proc", "sys", "net"], ["root"], ["home"]]
  let own := (List.range workingDirectory.length).map fun n => workingDirectory.take (n + 1)
  let tools := Tool.table.flatMap fun (name, _) =>
    let file := Node.file (Tool.image name) 0o755
    [(["bin", name], file), (["usr", "bin", name], file)]
  let made := (directories ++ own).foldl (fun d place => d.put place .directory)
    { workingDirectory : Disk }
  tools.foldl (fun d (place, node) => d.put place node) made

end GuestPorts
