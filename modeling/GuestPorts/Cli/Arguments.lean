/-
  GuestPorts/Cli/Arguments.lean
  =============================
  **Reading the arguments of a command line** against a tree of commands.

  A command has options, places for arguments, and subcommands.  Arguments are read
  from left to right and the first one that does not fit ends the reading; so does a
  request for the version or for help.  Options of the root may stand behind any of the
  subcommands.  The variables of the environment stand in for options that are not given,
  and are checked like them.
-/
import GuestPorts.Text.Basic

namespace GuestPorts.Cli

/-- How often an option may be given, and whether a value belongs to it. -/
inductive OptionKind where
  | flag
  | value
  | values
  deriving DecidableEq, Repr

structure OptionSpec where
  long : String
  short : Option Char := none
  kind : OptionKind := .value
  isRequired : Bool := false
  /-- The variable that stands in for the option. -/
  standIn : Option String := none
  /-- Whether a value may be given. -/
  accepts : String → Bool := fun _ => true

structure Slot where
  isRequired : Bool := true
  /-- All further arguments go here, whatever they look like. -/
  takesRest : Bool := false
  accepts : String → Bool := fun _ => true

structure Spec where
  name : String
  options : List OptionSpec := []
  slots : List Slot := []
  subcommands : List Spec := []
  requiresSubcommand : Bool := false

/-- Why there is nothing to carry out. -/
inductive Stop where
  | usage
  | version (command : String)
  | help
  deriving DecidableEq, Repr

structure Given where
  command : String
  options : List (String × String) := []
  arguments : List String := []
  deriving DecidableEq, Repr

namespace Given

def value? (g : Given) (long : String) : Option String :=
  ((g.options.filter (·.1 = long)).getLast?).map (·.2)

def values (g : Given) (long : String) : List String :=
  (g.options.filter (·.1 = long)).map (·.2)

def has (g : Given) (long : String) : Bool := (g.value? long).isSome

end Given

structure Reading where
  options : List (String × String) := []
  arguments : List String := []
  /-- An option that still waits for its value. -/
  waiting : Option OptionSpec := none
  /-- Options are over. -/
  isPlain : Bool := false

inductive Step where
  | go (r : Reading)
  | enter (subcommand : Spec)
  | stop (s : Stop)

namespace Spec

def findLong (spec : Spec) (long : String) : Option OptionSpec :=
  spec.options.find? (·.long = long)

def findShort (spec : Spec) (short : Char) : Option OptionSpec :=
  spec.options.find? (·.short = some short)

def isHelp (long : String) : Bool := long = "help"
def isVersion (long : String) : Bool := long = "version"

def knowsShort (spec : Spec) (c : Char) : Bool :=
  c = 'h' || c = 'V' || (spec.findShort c).isSome

def nextSlot (spec : Spec) (r : Reading) : Option Slot :=
  match spec.slots[r.arguments.length]? with
  | some slot => some slot
  | none =>
    match spec.slots.getLast? with
    | some slot => if slot.takesRest then some slot else none
    | none => none

/-- Whether an argument that looks like an option may go to the next place. -/
def takesAnything (spec : Spec) (r : Reading) : Bool :=
  match spec.nextSlot r with
  | some slot => slot.takesRest
  | none => false

def give (o : OptionSpec) (r : Reading) (value : String) : Step :=
  if r.waiting.isSome then .stop .usage
  else if o.kind ≠ .values && r.options.any (·.1 = o.long) then .stop .usage
  else if !o.accepts value then .stop .usage
  else .go { r with options := r.options ++ [(o.long, value)] }

def giveWaiting (o : OptionSpec) (r : Reading) (value : String) : Step :=
  give o { r with waiting := none } value

/-- An option with the value that is attached to it, if one is. -/
def meet (o : OptionSpec) (r : Reading) (attached : Option String) : Step :=
  match o.kind, attached with
  | .flag, none => give o r ""
  | .flag, some _ => .stop .usage
  | _, some value => give o r value
  | _, none => if r.waiting.isSome then .stop .usage else .go { r with waiting := some o }

def place (spec : Spec) (r : Reading) (arg : String) : Step :=
  match spec.nextSlot r with
  | none => .stop .usage
  | some slot =>
    if !slot.accepts arg then .stop .usage
    else .go { r with arguments := r.arguments ++ [arg], isPlain := r.isPlain || slot.takesRest }

/-- An argument that is no option: the value of one that waits, or else one for its place. -/
def plain (spec : Spec) (r : Reading) (arg : String) : Step :=
  match r.waiting with
  | some o => if r.isPlain then .stop .usage else giveWaiting o r arg
  | none => spec.place r arg

/-- A request that ends the reading; an option that waits has no value then. -/
def halt (r : Reading) (s : Stop) : Step := .stop (if r.waiting.isSome then .usage else s)

def long (spec : Spec) (display : String) (r : Reading) (arg body : String) : Step :=
  let (name, attached) :=
    match Text.cutAt '=' body.toList with
    | some (name, value) => (String.ofList name, some (String.ofList value))
    | none => (body, none)
  match spec.findLong name with
  | some o => meet o r attached
  | none =>
    if isVersion name && attached.isNone then halt r (.version display)
    else if isHelp name && attached.isNone then halt r .help
    else if spec.takesAnything r && !isVersion name && !isHelp name then spec.plain r arg
    else .stop .usage

/-- The letters behind one dash: flags, up to an option that takes the rest as its value. -/
def shorts (spec : Spec) (display : String) (r : Reading) : List Char → Step
  | [] => .go r
  | c :: rest =>
    match spec.findShort c with
    | some o =>
      if o.kind = .flag then
        match give o r "" with
        | .go r => spec.shorts display r rest
        | other => other
      else
        match rest with
        | [] => meet o r none
        | '=' :: value => meet o r (some (String.ofList value))
        | value => meet o r (some (String.ofList value))
    | none =>
      if c = 'V' then halt r (.version display)
      else if c = 'h' then halt r .help
      else .stop .usage

def step (spec : Spec) (display : String) (r : Reading) (arg : String) : Step :=
  if r.isPlain then spec.plain r arg
  else
    let sub := if r.waiting.isSome then none else spec.subcommands.find? (·.name = arg)
    match sub with
    | some child => .enter child
    | none =>
      if r.waiting.isNone && arg = "help" && !spec.subcommands.isEmpty then .stop .help
      else
        match arg.toList with
        | ['-', '-'] => if r.waiting.isSome then .stop .usage else .go { r with isPlain := true }
        | '-' :: '-' :: body => spec.long display r arg (String.ofList body)
        | '-' :: c :: body =>
          if spec.takesAnything r && !(c :: body).all spec.knowsShort then spec.plain r arg
          else spec.shorts display r (c :: body)
        | _ => spec.plain r arg

def isComplete (spec : Spec) (env : String → Option String) (r : Reading) (entered : Bool) : Bool :=
  let standsIn (o : OptionSpec) : Bool :=
    if r.options.any (·.1 = o.long) then true
    else
      match o.standIn.bind env with
      | some value => o.accepts value
      | none => !o.isRequired
  r.waiting.isNone && spec.options.all standsIn
    && (spec.slots.drop r.arguments.length).all (!·.isRequired)
    && (entered || !spec.requiresSubcommand)

def finish (spec : Spec) (env : String → Option String) (r : Reading) (entered : Bool) :
    Except Stop Given :=
  if spec.isComplete env r entered then .ok ⟨spec.name, r.options, r.arguments⟩ else .error .usage

/-- Read the rest of a command line; the commands are listed from the root on. -/
def readFrom (env : String → Option String) (spec : Spec) (display : String) (r : Reading) :
    List String → Except Stop (List Given)
  | [] => do return [← spec.finish env r false]
  | arg :: rest =>
    match spec.step display r arg with
    | .go r => readFrom env spec display r rest
    | .enter child => do
      let deeper ← readFrom env child (display ++ "-" ++ child.name) {} rest
      return (← spec.finish env r true) :: deeper
    | .stop s => .error s

def read (spec : Spec) (env : String → Option String) (args : List String) :
    Except Stop (List Given) :=
  readFrom env spec spec.name {} args

end Spec

/-- The value of an option of the root: the deepest command's counts, and without any
    the environment's. -/
def sharedValue (env : String → Option String) (o : OptionSpec) (line : List Given) : Option String :=
  match (line.filterMap (·.value? o.long)).getLast? with
  | some v => some v
  | none => o.standIn.bind env

end GuestPorts.Cli
