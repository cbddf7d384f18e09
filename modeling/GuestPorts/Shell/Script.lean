/-
  GuestPorts/Shell/Script.lean
  ============================
  **Scripts**: the part of the shell's language that reload commands and wrappers of the
  filter program are written in.

  A word is a row of pieces, each quoted or not, because quoting decides what becomes of
  blanks and of the signs of patterns.
-/

namespace GuestPorts.Shell

inductive Parameter where
  | argument (n : Nat)
  /-- All arguments, each a word of its own. -/
  | arguments
  /-- All arguments in one text. -/
  | joinedArguments
  | count
  | status
  | process
  | named (name : String)
  deriving DecidableEq, Repr

inductive Piece where
  | text (isQuoted : Bool) (cs : List Char)
  | value (isQuoted : Bool) (p : Parameter)
  deriving DecidableEq, Repr

abbrev Word := List Piece

/-- The word as it is written, if nothing in it is quoted or stands for something else. -/
def Word.plain? : Word → Option (List Char)
  | [.text false cs] => some cs
  | _ => none

inductive Redirect where
  | write (target : Word)
  | append (target : Word)
  | read (source : Word)
  /-- It goes where another stream goes. -/
  | copy (other : Word)
  deriving DecidableEq, Repr

abbrev Redirection := Nat × Redirect

mutual

inductive Script where
  | nothing
  /-- A command of its own, on a line of the script. -/
  | simple (line : Nat) (assignments : List (String × Word)) (words : List Word)
      (redirections : List Redirection)
  | sequence (first second : Script)
  /-- The second part only after a success of the first. -/
  | both (first second : Script)
  /-- The second part only after a failure of the first. -/
  | either (first second : Script)
  | negated (s : Script)
  /-- What the first part prints is what the second one reads. -/
  | piped (first second : Script)
  /-- Commands with redirections in common; those in parentheses have a shell of their
      own, which keeps its variables and its end to itself. -/
  | grouped (isApart : Bool) (body : Script) (redirections : List Redirection)
  | conditional (test yes no : Script)
  /-- The body once for each of some words, which a variable stands for. -/
  | each (name : String) (words : List Word) (body : Script)
  | choice (subject : Word) (arms : Arms)

inductive Arms where
  | none
  | arm (patterns : List Word) (body : Script) (rest : Arms)

end

end GuestPorts.Shell
