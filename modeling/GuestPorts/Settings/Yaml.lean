/-
  GuestPorts/Settings/Yaml.lean
  =============================
  **Settings as a YAML file.**  A field that is left out has its default; a field that
  comes twice is refused, and a field that is not known is passed over.  The section of
  the rule file passes over only what means something by itself (`isPassedOver`).

  A text field takes any scalar by its letters, so `5` and `null` are texts there.  The
  three markers of the block are stricter: a plain scalar that means a number, a truth
  value or nothing is refused.
-/
import GuestPorts.Settings.Basic
import GuestPorts.Yaml.Node
import GuestPorts.Yaml.Printer

namespace GuestPorts.Settings

open GuestPorts.Yaml

/-! ### Reading -/

def textOf : Yaml.Node → Option String
  | .scalar _ _ cs => some (String.ofList cs)
  | _ => none

def valueTags : List String := ["bool", "int", "float", "null"].map ("tag:yaml.org,2002:" ++ ·)

def strictTextOf : Yaml.Node → Option String
  | .scalar none .plain cs => if isText cs then some (String.ofList cs) else none
  | .scalar none _ cs => some (String.ofList cs)
  | .scalar (some tag) _ cs =>
    if tag.head? = some '!' || valueTags.contains (String.ofList tag) then none
    else some (String.ofList cs)
  | _ => none

/-- A truth value: a plain word, or a literal block that is tagged as one. -/
def boolOf : Yaml.Node → Option Bool
  | .scalar tag style cs =>
    if style = .plain || (style = .literal && tag = some "tag:yaml.org,2002:bool".toList) then
      Yaml.boolOf cs
    else none
  | _ => none

/-- A mode: its word, or nothing under a tag that is its word. -/
def modeOf : Yaml.Node → Option Mode
  | .scalar (some ('!' :: word)) style cs =>
    if style = .plain && isNull cs then Mode.ofWord? (String.ofList word) else none
  | .scalar _ _ cs => Mode.ofWord? (String.ofList cs)
  | _ => none

/-- A list of texts; it may be left out behind its colon. -/
def textsOf : Yaml.Node → Option (List String)
  | .sequence _ items => items.mapM textOf
  | .scalar _ .plain [] => some []
  | _ => none

def pairsOf : Yaml.Node → Option (List (String × Yaml.Node))
  | .mapping _ pairs => pairs.mapM fun p => (textOf p.1).map (·, p.2)
  | .scalar _ .plain [] => some []
  | _ => none

/-- The value of a field, or its default if it is left out.  It may not come twice. -/
def field {α : Type} (name : String) (read : Yaml.Node → Option α) (fallback : α)
    (pairs : List (String × Yaml.Node)) : Option α :=
  match pairs.filter fun p => p.1 == name with
  | [] => some fallback
  | [p] => read p.2
  | _ => none

/-- Whether a scalar means something by itself: its tag is none of a user's own and is
    true of it, and an integer has 64 bits or is too long for 128. -/
def hasMeaning : Option (List Char) → Style → List Char → Bool
  | some tag, _, cs =>
    match valueTags.findIdx? (· == String.ofList tag) with
    | some 0 => (Yaml.boolOf cs).isSome
    | some 1 => isInteger 64 cs
    | some 2 => isFraction cs
    | some _ => nullWords.contains (String.ofList cs)
    | none => tag.head? ≠ some '!'
  | none, .plain, cs => isInteger 64 cs || !isInteger 128 cs
  | none, _, _ => true

/-- Whether a value that nobody asks for can be passed over in the section of the rule
    file, where it is looked at all the same.  It may be `depth` collections deep. -/
def isPassedOver : Nat → Yaml.Node → Bool
  | _, .scalar tag style cs => hasMeaning tag style cs
  | depth + 1, .sequence tag items =>
    tag.all (·.head? ≠ some '!') && items.all (isPassedOver depth)
  | depth + 1, .mapping tag pairs =>
    tag.all (·.head? ≠ some '!')
      && pairs.all fun p => isPassedOver depth p.1 && isPassedOver depth p.2
  | _, _ => false

def perimeterFields : List String :=
  ["rules_file", "start_marker", "end_marker", "comment_marker", "reload_command"]

/-- How deep collections may lie in each other, below the section itself. -/
def maxNesting : Nat := 126

/-- The markers, which stand among the other fields of their section. -/
def blockOf (pairs : List (String × Yaml.Node)) : Option Perimeter.Block := do
  let d : Perimeter.Block := {}
  return {
    startMarker := ← field "start_marker" strictTextOf d.startMarker pairs
    endMarker := ← field "end_marker" strictTextOf d.endMarker pairs
    commentMarker := ← field "comment_marker" strictTextOf d.commentMarker pairs }

def perimeterOf (n : Yaml.Node) : Option PerimeterSettings := do
  let pairs ← pairsOf n
  let others := pairs.filter fun p => !perimeterFields.contains p.1
  if !others.all (fun p => isPassedOver maxNesting p.2) then none
  let d : PerimeterSettings := {}
  return {
    rulesFile := ← field "rules_file" textOf d.rulesFile pairs
    block := ← blockOf pairs
    reloadCommand := ← field "reload_command" textsOf d.reloadCommand pairs }

def ofNode (n : Yaml.Node) : Option Settings := do
  let pairs ← pairsOf n
  let d : Settings := {}
  return {
    storePath := ← field "store_path" textOf d.storePath pairs
    logDir := ← field "log_dir" textOf d.logDir pairs
    filterProgram := ← field "iptables_path" textOf d.filterProgram pairs
    useSudo := ← field "use_sudo" boolOf d.useSudo pairs
    mode := ← field "mode" modeOf d.mode pairs
    perimeter := ← field "perimeter" perimeterOf d.perimeter pairs }

/-- Read settings; a text without a document leaves the defaults. -/
def ofYaml? (s : String) : Option Settings :=
  match Yaml.Node.ofText? s.toList with
  | some (some n) => ofNode n
  | some none => some {}
  | none => none

/-! ### Writing -/

def fieldLine (indent : Nat) (name : String) (value : String) : List Char :=
  List.replicate indent ' ' ++ name.toList ++ ':' :: ' ' :: writeScalar (indent + 2) value.toList

def wordLine (name word : String) : List Char := name.toList ++ ':' :: ' ' :: (word.toList ++ ['\n'])

def listLines (indent : Nat) (name : String) (items : List String) : List Char :=
  let margin := List.replicate indent ' '
  margin ++ name.toList ++ ':' ::
    (if items.isEmpty then " []\n".toList
      else '\n' :: items.flatMap fun item => margin ++ '-' :: ' ' :: writeScalar (indent + 2) item.toList)

/-- A text that ends in empty lines is marked off from what might follow it. -/
def closing (items : List String) : List Char :=
  match items.getLast? with
  | some item =>
    if styleFor item.toList = .literal && (literalHints item.toList).getLast? = some '+' then
      "...\n".toList
    else []
  | none => []

def toYaml (s : Settings) : String :=
  let p := s.perimeter
  String.ofList <|
    fieldLine 0 "store_path" s.storePath ++ fieldLine 0 "log_dir" s.logDir
      ++ fieldLine 0 "iptables_path" s.filterProgram
      ++ wordLine "use_sudo" (if s.useSudo then "true" else "false")
      ++ wordLine "mode" s.mode.word
      ++ "perimeter:\n".toList
      ++ fieldLine 2 "rules_file" p.rulesFile ++ fieldLine 2 "start_marker" p.block.startMarker
      ++ fieldLine 2 "end_marker" p.block.endMarker
      ++ fieldLine 2 "comment_marker" p.block.commentMarker
      ++ listLines 2 "reload_command" p.reloadCommand ++ closing p.reloadCommand

end GuestPorts.Settings
