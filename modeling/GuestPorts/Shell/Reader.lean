/-
  GuestPorts/Shell/Reader.lean
  ============================
  **Reading scripts** from their tokens: lists of commands, chains of `&&` and `||`,
  pipes, `if`, `case`, `for`, groups in braces or parentheses, and commands of their own.

  Every step takes at least one token from the front, so the number of tokens bounds the
  depth of the reading.
-/
import GuestPorts.Shell.Token

namespace GuestPorts.Shell

def isKeyword (word : String) : Token → Bool
  | .word _ w => w.plain? = some word.toList
  | _ => false

def closers : List String := ["then", "elif", "else", "fi", "esac", "\x7d", "do", "done"]

def endsList : List Token → Bool
  | [] => true
  | t :: _ => t = .sign .closing || t = .sign .doubleSemicolon || closers.any (isKeyword · t)

def skipLines (ts : List Token) : List Token := ts.dropWhile (· = .lineEnd)

def expectWord (word : String) : List Token → Option (List Token)
  | t :: rest => if isKeyword word t then some rest else none
  | [] => none

def assignment? : Word → Option (String × Word)
  | .text false cs :: rest =>
    match Text.cutAt '=' cs with
    | some (name, value) =>
      if isName name then some (String.ofList name, .text false value :: rest) else none
    | none => none
  | _ => none

def redirectOf : Arrow → Word → Redirect
  | .write, w => .write w
  | .append, w => .append w
  | .read, w => .read w
  | .copy, w => .copy w

def readSimple : List Token → Option (List Word × List Redirection × List Token)
  | .word _ w :: rest => do
    let (ws, rs, rest) ← readSimple rest
    return (w :: ws, rs, rest)
  | .arrow stream a :: .word _ w :: rest => do
    let (ws, rs, rest) ← readSimple rest
    return (ws, (stream, redirectOf a w) :: rs, rest)
  | .arrow .. :: _ => none
  | rest => some ([], [], rest)

def readRedirections : List Token → List Redirection × List Token
  | .arrow stream a :: .word _ w :: rest =>
    let (rs, rest) := readRedirections rest
    ((stream, redirectOf a w) :: rs, rest)
  | rest => ([], rest)

def groupOf (isApart : Bool) (body : Script) (ts : List Token) : Script × List Token :=
  let (rs, rest) := readRedirections ts
  (if rs = [] && !isApart then body else .grouped isApart body rs, rest)

def readLoopWords : List Token → Option (List Word × List Token)
  | .word _ w :: rest => do
    let (ws, rest) ← readLoopWords rest
    return (w :: ws, rest)
  | .sign .semicolon :: rest | .lineEnd :: rest => some ([], rest)
  | _ => none

/-- The name of a loop's variable and its words; without words it is about all arguments. -/
def readLoopHead : List Token → Option (String × List Word × List Token)
  | .word _ w :: rest => do
    let name ← w.plain?
    if !isName name then none
    match skipLines rest with
    | t :: rest =>
      if isKeyword "in" t then do
        let (ws, rest) ← readLoopWords rest
        return (String.ofList name, ws, rest)
      else
        return (String.ofList name, [[.value true .arguments]],
          if t = .sign .semicolon then rest else t :: rest)
    | [] => none
  | _ => none

def splitAssignments : List Word → List (String × Word) × List Word
  | w :: ws =>
    match assignment? w with
    | some a =>
      let (as, rest) := splitAssignments ws
      (a :: as, rest)
    | none => ([], w :: ws)
  | [] => ([], [])

/-- The patterns of an arm, up to the parenthesis behind them. -/
def readPatterns : List Token → Option (List Word × List Token)
  | .word _ w :: .sign .bar :: rest => do
    let (ws, rest) ← readPatterns rest
    return (w :: ws, rest)
  | .word _ w :: .sign .closing :: rest => some ([w], rest)
  | _ => none

def lineOf : List Token → Nat
  | .word line _ :: _ => line
  | _ :: rest => lineOf rest
  | [] => 1

mutual

def readList : Nat → List Token → Option (Script × List Token)
  | 0, _ => none
  | n + 1, ts =>
    let ts := skipLines ts
    if endsList ts then some (.nothing, ts)
    else do
      let (first, ts) ← readPipeline n ts
      let (first, ts) ← readChain n first ts
      match ts with
      | .sign .semicolon :: rest | .lineEnd :: rest => do
        let (second, ts) ← readList n rest
        return (.sequence first second, ts)
      | ts => if endsList ts then some (first, ts) else none

def readChain : Nat → Script → List Token → Option (Script × List Token)
  | 0, _, _ => none
  | n + 1, first, .sign .both :: rest => do
    let (second, ts) ← readPipeline n (skipLines rest)
    readChain n (.both first second) ts
  | n + 1, first, .sign .either :: rest => do
    let (second, ts) ← readPipeline n (skipLines rest)
    readChain n (.either first second) ts
  | _ + 1, first, ts => some (first, ts)

def readPipeline : Nat → List Token → Option (Script × List Token)
  | 0, _ => none
  | _ + 1, [] => none
  | n + 1, t :: rest =>
    if isKeyword "!" t then do
      let (s, ts) ← readPipeline n rest
      return (.negated s, ts)
    else do
      let (first, ts) ← readCommand n (t :: rest)
      readPipes n first ts

def readPipes : Nat → Script → List Token → Option (Script × List Token)
  | 0, _, _ => none
  | n + 1, first, .sign .bar :: rest => do
    let (second, ts) ← readCommand n (skipLines rest)
    readPipes n (.piped first second) ts
  | _ + 1, first, ts => some (first, ts)

def readCommand : Nat → List Token → Option (Script × List Token)
  | 0, _ => none
  | _ + 1, [] => none
  | n + 1, t :: rest =>
    if isKeyword "\x7b" t then do
      let (s, ts) ← readList n rest
      return groupOf false s (← expectWord "\x7d" ts)
    else if t = .sign .opening then do
      let (s, ts) ← readList n rest
      match ts with
      | .sign .closing :: rest => return groupOf true s rest
      | _ => none
    else if isKeyword "if" t then do
      let (s, ts) ← readBranches n rest
      return groupOf false s ts
    else if isKeyword "for" t then do
      let (name, words, ts) ← readLoopHead rest
      let (body, ts) ← readList n (← expectWord "do" (skipLines ts))
      return groupOf false (.each name words body) (← expectWord "done" ts)
    else if isKeyword "case" t then
      match rest with
      | .word _ subject :: rest => do
        let ts ← expectWord "in" (skipLines rest)
        let (arms, ts) ← readArms n ts
        return groupOf false (.choice subject arms) ts
      | _ => none
    else do
      let (ws, rs, ts) ← readSimple (t :: rest)
      if ws = [] && rs = [] then none
      let (as, ws) := splitAssignments ws
      return (.simple (lineOf (t :: rest)) as ws rs, ts)

def readBranches : Nat → List Token → Option (Script × List Token)
  | 0, _ => none
  | n + 1, ts => do
    let (test, ts) ← readList n ts
    let (yes, ts) ← readList n (← expectWord "then" ts)
    match ts with
    | [] => none
    | t :: rest =>
      if isKeyword "elif" t then do
        let (no, ts) ← readBranches n rest
        return (.conditional test yes no, ts)
      else if isKeyword "else" t then do
        let (no, ts) ← readList n rest
        return (.conditional test yes no, ← expectWord "fi" ts)
      else return (.conditional test yes .nothing, ← expectWord "fi" ts)

def readArms : Nat → List Token → Option (Arms × List Token)
  | 0, _ => none
  | n + 1, ts =>
    match skipLines ts with
    | [] => none
    | t :: rest =>
      if isKeyword "esac" t then some (.none, rest)
      else do
        let (patterns, ts) ← readPatterns (if t = .sign .opening then rest else t :: rest)
        let (body, ts) ← readList n ts
        match skipLines ts with
        | .sign .doubleSemicolon :: rest => do
          let (arms, ts) ← readArms n rest
          return (.arm patterns body arms, ts)
        | ts => return (.arm patterns body .none, ← expectWord "esac" ts)

end

def Script.ofText? (cs : List Char) : Option Script :=
  match tokens cs with
  | none => none
  | some ts =>
    match readList (6 * ts.length + 6) ts with
    | some (s, []) => some s
    | _ => none

end GuestPorts.Shell
