/-
  GuestPorts/Shell/Run.lean
  =========================
  **Running scripts and programs** on a host.

  A script is carried out command by command in a session, which holds the host as the
  commands leave it and what they have printed (`Script.carryOut`).  Programs that a
  script calls are given as a function, so carrying out is a recursion on the script;
  `Host.spawnWithin` ties the knot with a bound on how deep programs may call each other.
-/
import GuestPorts.Process.Tool
import GuestPorts.Shell.Expansion
import GuestPorts.Shell.Format
import GuestPorts.Shell.Reader

namespace GuestPorts.Shell

/-- How a program is run on a host: what it can read, its name, and its arguments. -/
abbrev Launch := Host → List UInt8 → String → List String → Except OsError (Outcome × Host)

inductive Sink where
  | output
  | errors
  | file (path : String)
  deriving DecidableEq, Repr

structure Streams where
  input : List UInt8 := []
  output : Sink := .output
  errors : Sink := .errors

structure Session where
  host : Host
  name : String
  arguments : List String := []
  /-- The streams of commands without redirections. -/
  streams : Streams := {}
  /-- Whether a failure ends the script. -/
  isStrict : Bool := false
  status : Nat := 0
  output : List UInt8 := []
  errors : List UInt8 := []
  /-- How the shell ended, if it has. -/
  ended : Option Exit := none

namespace Session

/-- The number under which a shell knows itself. -/
def process : Nat := 4711

def scope (s : Session) : Scope :=
  { name := s.name, arguments := s.arguments, status := s.status, process
    bindings := s.host.environment }

def emit (s : Session) (sink : Sink) (bytes : List UInt8) : Session :=
  match sink with
  | .output => { s with output := s.output ++ bytes }
  | .errors => { s with errors := s.errors ++ bytes }
  | .file path =>
    if path = "/dev/null" then s
    else { s with host := ((Host.onDisk (Disk.revise path (· ++ bytes))).result s.host).2 }

def complaint (s : Session) (line : Nat) (about : String) : List UInt8 :=
  Text.encode (s.name ++ ": " ++ Text.decimal line ++ ": " ++ about ++ "\n").toList

/-- Let a stream go to a file, which is made empty first or kept. -/
def openFile (s : Session) (path : String) (keep : Bool) : Except String Session :=
  if path = "/dev/null" then .ok s
  else
    match (Host.onDisk (Disk.revise path fun old => if keep then old else [])).result s.host with
    | (.ok (), host) => .ok { s with host }
    | (.error .notFound, _) => .error ("cannot create " ++ path ++ ": Directory nonexistent")
    | (.error e, _) => .error ("cannot create " ++ path ++ ": " ++ e.words)

/-- Send a stream, known by its number, elsewhere. -/
def send (k : Streams) (stream : Nat) (sink : Sink) : Streams :=
  match stream with
  | 1 => { k with output := sink }
  | 2 => { k with errors := sink }
  | _ => k

def redirect (s : Session) (k : Streams) : List Redirection → Except String (Session × Streams)
  | [] => .ok (s, k)
  | (stream, .write target) :: rest => do
    let path := target.asText s.scope
    (← s.openFile path false).redirect (send k stream (.file path)) rest
  | (stream, .append target) :: rest => do
    let path := target.asText s.scope
    (← s.openFile path true).redirect (send k stream (.file path)) rest
  | (_, .read source) :: rest =>
    let path := source.asText s.scope
    if path = "/dev/null" then s.redirect { k with input := [] } rest
    else
      match s.host.disk.bytesAt path with
      | .ok input => s.redirect { k with input } rest
      | .error .isDirectory => s.redirect { k with input := [] } rest
      | .error _ => .error ("cannot open " ++ path ++ ": No such file")
  | (stream, .copy other) :: rest =>
    match other.asText s.scope with
    | "1" => s.redirect (send k stream k.output) rest
    | "2" => s.redirect (send k stream k.errors) rest
    | _ => s.redirect k rest

def finish (s : Session) (status : Nat) : Session := { s with status }

def absorb (s : Session) (k : Streams) (o : Outcome) : Session :=
  ((s.emit k.output o.output).emit k.errors o.errors).finish o.exit.status

def signalWords : Exit → String
  | .signal 9 => "Killed\n"
  | .signal 15 => "Terminated\n"
  | _ => ""

/-- What a shell says about a program that it cannot run, and the status for it. -/
def launchComplaint (program : String) : OsError → String × Nat
  | .notFound => (program ++ ": not found", 127)
  | e => (program ++ ": " ++ e.words, 126)

def call (launch : Launch) (line : Nat) (s : Session) (k : Streams) (program : String)
    (args : List String) : Session :=
  match launch s.host k.input program args with
  | .ok (o, host) =>
    ({ s with host }.absorb k { o with errors := o.errors ++ Text.encode (signalWords o.exit).toList })
  | .error e =>
    let (about, status) := launchComplaint program e
    (s.emit k.errors (s.complaint line about)).finish status

/-- Run a program in the shell's place. -/
def become (launch : Launch) (line : Nat) (s : Session) (k : Streams) (program : String)
    (args : List String) : Session :=
  match launch s.host k.input program args with
  | .ok (o, host) => { ({ s with host }.absorb k o) with ended := some o.exit }
  | .error e =>
    let (about, status) := launchComplaint program e
    let s := s.emit k.errors (s.complaint line ("exec: " ++ about))
    { s with status, ended := some (.code status) }

def signalOf (arg : String) : Option Nat :=
  match arg.toList with
  | '-' :: r =>
    match Text.readDigits r with
    | some n => some n
    | none =>
      match String.ofList r with
      | "KILL" | "SIGKILL" => some 9
      | "TERM" | "SIGTERM" => some 15
      | "INT" | "SIGINT" => some 2
      | "HUP" | "SIGHUP" => some 1
      | _ => none
  | _ => none

/-- Send a signal; a shell knows nobody but itself. -/
def kill (line : Nat) (s : Session) (k : Streams) (args : List String) : Session :=
  let (signal, targets) :=
    match args with
    | a :: rest =>
      match signalOf a with
      | some n => (n, rest)
      | none => (15, args)
    | [] => (15, [])
  if targets = [Text.decimal process] then { s with ended := some (.signal signal) }
  else (s.emit k.errors (s.complaint line "kill: No such process")).finish 1

/-- The status that an argument of `exit` names, or else the one of the last command. -/
def exitStatus (s : Session) (args : List String) : Nat :=
  match args with
  | a :: _ => ((Text.readDigits a.toList).getD 2) % 256
  | [] => s.status

def echo (args : List String) : List UInt8 :=
  let (args, feed) := match args with
    | "-n" :: rest => (rest, false)
    | _ => (args, true)
  let (bytes, more) := unescape (Text.joined " " args).toList
  if feed && more then bytes ++ [0x0A] else bytes

def assign (s : Session) (vars : List (String × String)) : Session :=
  { s with host := { s.host with environment := vars.reverse ++ s.host.environment } }

def assignmentOf (arg : String) : Option (String × String) :=
  (Text.cutAt '=' arg.toList).map fun (name, value) => (String.ofList name, String.ofList value)

/-- The environment after a command: what it set stays only if it is one that sets. -/
def environmentAfter (name : Option String) (before after : Session) : Environment :=
  if name = some "export" then after.host.environment else before.host.environment

def perform (launch : Launch) (line : Nat) (s : Session) (k : Streams) : List String → Session
  | [] => s.finish 0
  | name :: args =>
    match name with
    | ":" | "true" => s.finish 0
    | "false" => s.finish 1
    | "exit" => { s with ended := some (.code (s.exitStatus args)) }
    | "set" => { s with isStrict := s.isStrict || args.contains "-e", status := 0 }
    | "export" => (s.assign (args.filterMap assignmentOf)).finish 0
    | "shift" => { s with arguments := s.arguments.drop 1, status := 0 }
    | "echo" => (s.emit k.output (echo args)).finish 0
    | "printf" =>
      match args with
      | f :: rest => (s.emit k.output (format f.toList rest)).finish 0
      | [] => s.finish 2
    | "test" => s.finish (if Tool.holds s.host.disk args then 0 else 1)
    | "[" => s.finish (if Tool.holds s.host.disk args.dropLast then 0 else 1)
    | "kill" => s.kill line k args
    | "exec" =>
      match args with
      | program :: rest => s.become launch line k program rest
      | [] => s.finish 0
    | program => s.call launch line k program args

/-- The session after a part of its script that had a shell of its own. -/
def rejoin (outer inner : Session) : Session :=
  { inner with
    host := { inner.host with environment := outer.host.environment }
    arguments := outer.arguments
    streams := outer.streams
    isStrict := outer.isStrict
    status := (inner.ended.getD (.code inner.status)).status
    ended := inner.ended.filter fun e => match e with
      | .signal _ => true
      | .code _ => false }

end Session

/-- Whether a failure of this part never ends a script by itself. -/
def Script.isGuarded : Script → Bool
  | .both .. | .either .. | .negated _ => true
  | _ => false

mutual

def Script.carryOut (launch : Launch) : Script → Session → Session
  | .nothing, s => s
  | .simple line assignments words redirections, s =>
    let vars := assignments.map fun (name, w) => (name, w.asText s.scope)
    let fields := words.flatMap fun w => w.fields s.scope
    match s.redirect s.streams redirections with
    | .ok (s', k) =>
      if fields = [] then (s'.assign vars).finish 0
      else
        let after := (s'.assign vars).perform launch line k fields
        { after with
          host := { after.host with environment := Session.environmentAfter fields.head? s' after } }
    | .error about => (s.emit s.streams.errors (s.complaint line about)).finish 2
  | .sequence first second, s =>
    let s := first.carryOut launch s
    if s.ended.isSome then s
    else if s.isStrict && s.status ≠ 0 && !first.isGuarded then { s with ended := some (.code s.status) }
    else second.carryOut launch s
  | .both first second, s =>
    let s := first.carryOut launch s
    if s.ended.isSome || s.status ≠ 0 then s else second.carryOut launch s
  | .either first second, s =>
    let s := first.carryOut launch s
    if s.ended.isSome || s.status = 0 then s else second.carryOut launch s
  | .negated script, s =>
    let s := script.carryOut launch s
    if s.ended.isSome then s else s.finish (if s.status = 0 then 1 else 0)
  | .piped first second, s =>
    let a := first.carryOut launch
      { s with output := [], streams := { s.streams with output := .output } }
    let b := second.carryOut launch
      { s with host := { a.host with environment := s.host.environment }, errors := a.errors
               streams := { s.streams with input := a.output } }
    s.rejoin b
  | .grouped isApart body redirections, s =>
    match s.redirect s.streams redirections with
    | .ok (s', streams) =>
      let inner := body.carryOut launch { s' with streams }
      if isApart then s.rejoin inner else { inner with streams := s.streams }
    | .error about => (s.emit s.streams.errors (s.complaint 1 about)).finish 2
  | .each name words body, s =>
    (words.flatMap fun w => w.fields s.scope).foldl
      (fun s value => if s.ended.isSome then s else body.carryOut launch (s.assign [(name, value)]))
      (s.finish 0)
  | .conditional test yes no, s =>
    let s := test.carryOut launch s
    if s.ended.isSome then s
    else if s.status = 0 then yes.carryOut launch s else no.carryOut launch (s.finish 0)
  | .choice subject arms, s => arms.carryOut launch (subject.asText s.scope) (s.finish 0)

def Arms.carryOut (launch : Launch) (subject : String) : Arms → Session → Session
  | .none, s => s
  | .arm patterns body rest, s =>
    if patterns.any fun w => fits (w.pattern s.scope) subject.toList then body.carryOut launch s
    else rest.carryOut launch subject s

end

def Session.outcome (s : Session) : Outcome :=
  { exit := s.ended.getD (.code s.status), output := s.output, errors := s.errors }

/-- Run the text of a script; a text that is no script is refused. -/
def runText (launch : Launch) (begun : Session) (text : List Char) : Outcome × Host :=
  match Script.ofText? text with
  | some script =>
    let s := script.carryOut launch begun
    (s.outcome, { s.host with environment := begun.host.environment })
  | none =>
    ({ exit := .code 2
       errors := Text.encode (begun.name ++ ": 1: Syntax error\n").toList }, begun.host)

def refusal (about : String) : Outcome :=
  { exit := .code 2, errors := Text.encode ("sh: 0: " ++ about ++ "\n").toList }

/-- Run a shell on its arguments: a text behind the option `c`, or the file of a script,
    or else what the shell can read.  The option `e` makes it strict. -/
def runShell (launch : Launch) (begun : Session) : List String → Outcome × Host
  | [] => runText launch { begun with streams := {} } (Text.decodeLossy begun.streams.input)
  | first :: rest =>
    match first.toList with
    | '-' :: letters =>
      let begun := { begun with isStrict := begun.isStrict || letters.contains 'e' }
      if letters.contains 'c' then
        match rest with
        | text :: rest =>
          runText launch { begun with name := rest.headD "sh", arguments := rest.tail } text.toList
        | [] => (refusal "-c requires an argument", begun.host)
      else runShell launch begun rest
    | _ =>
      match begun.host.disk.bytesAt first with
      | .ok content =>
        runText launch { begun with name := first, arguments := rest } (Text.decodeLossy content)
      | .error .notFound => (refusal ("cannot open " ++ first ++ ": No such file"), begun.host)
      | .error e => (refusal ("cannot open " ++ first ++ ": " ++ e.words), begun.host)

def runLauncher (launch : Launch) (h : Host) (input : List UInt8) : List String → Outcome × Host
  | [] => ({}, h)
  | program :: args =>
    match launch h input program args with
    | .ok r => r
    | .error e =>
      ({ exit := .code (if e = .notFound then 127 else 126)
         errors := Text.encode ("env: " ++ Tool.shown program ++ ": " ++ e.words ++ "\n").toList }, h)

/-- The program that a script's first line names, and its one argument if there is one. -/
def interpreter? (content : List UInt8) : Option (List String) :=
  match content with
  | 0x23 :: 0x21 :: rest =>
    let line := Text.trim (Text.decodeLossy (rest.takeWhile (· ≠ 0x0A)))
    let program := line.takeWhile fun c => c ≠ ' ' && c ≠ '\t'
    let argument := Text.trim (line.drop program.length)
    let path := if program.contains '/' then program else ['.', '/'] ++ program
    if program = [] then none
    else some (String.ofList path :: if argument = [] then [] else [String.ofList argument])
  | _ => none

end GuestPorts.Shell
