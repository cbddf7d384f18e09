/-
  GuestPorts/Yaml/Node.lean
  =========================
  **From tokens to a tree.**  A node is a scalar, a sequence or a mapping.

  An alias stands for the node with its anchor, which has to come before it; a node
  that is an alias of one around it has no finite form and becomes `Node.endless`.
  Where a node is left out, an empty plain scalar stands for it.

  The recursion spends a unit of fuel for each token it looks at; the number of tokens
  bounds it (`Node.ofTokens?`).
-/
import GuestPorts.Yaml.Token

namespace GuestPorts.Yaml

inductive Node where
  | scalar (tag : Option (List Char)) (style : Style) (text : List Char)
  | sequence (tag : Option (List Char)) (items : List Node)
  | mapping (tag : Option (List Char)) (pairs : List (Node × Node))
  | endless
  deriving Repr

namespace Node

/-- What stands where a node is left out. -/
def missing : Node := .scalar none .plain []

/-- Anchors with their nodes, latest first, and the expansions of tag handles. -/
structure Context where
  anchors : List (List Char × Node) := []
  handles : List (List Char × List Char) :=
    [("!".toList, "!".toList), ("!!".toList, "tag:yaml.org,2002:".toList)]

/-- A value with the tokens behind it and the context after it. -/
abbrev Parsed (α : Type) := Option (α × List Token × Context)

structure Properties where
  anchor : Option (List Char) := none
  tag : Option (List Char) := none

def fullTag (ctx : Context) (handle suffix : List Char) : Option (List Char) :=
  if handle.isEmpty then some suffix else (ctx.handles.lookup handle).map (· ++ suffix)

def readProperties (ctx : Context) : List Token → Option (Properties × List Token)
  | .anchor a :: .tag h s :: rest => do return ({ anchor := a, tag := ← fullTag ctx h s }, rest)
  | .anchor a :: rest => some ({ anchor := a }, rest)
  | .tag h s :: .anchor a :: rest => do return ({ anchor := a, tag := ← fullTag ctx h s }, rest)
  | .tag h s :: rest => do return ({ tag := ← fullTag ctx h s }, rest)
  | rest => some ({}, rest)

def Context.bindAnchor (ctx : Context) (anchor : Option (List Char)) (n : Node) : Context :=
  match anchor with
  | some a => { ctx with anchors := (a, n) :: ctx.anchors }
  | none => ctx

/-- Where a node stands decides which collections it may be. -/
inductive Place where
  | block
  /-- Behind a key or a colon in block form, where a sequence needs no deeper column. -/
  | blockEntryAllowed
  | flow
  deriving DecidableEq, Repr

def nextIsOneOf (ts : List Token) : List Token → Bool
  | t :: _ => ts.contains t
  | [] => false

/-- The tokens behind a comma, which is needed behind an element. -/
def afterComma (first : Bool) : List Token → Option (List Token)
  | .flowEntry :: rest => if first then some (.flowEntry :: rest) else some rest
  | tokens => if first then some tokens else none

/-- A node that is left out behind its properties, of which there has to be one. -/
def absent (props : Properties) (tokens : List Token) (ctx : Context) : Parsed Node :=
  if props.anchor.isNone && props.tag.isNone then none
  else
    let n := Node.scalar props.tag .plain []
    some (n, tokens, ctx.bindAnchor props.anchor n)

def sequenceOf (tag : Option (List Char)) : Parsed (List Node) → Parsed Node
  | some (ns, rest, ctx) => some (.sequence tag ns, rest, ctx)
  | none => none

def mappingOf (tag : Option (List Char)) : Parsed (List (Node × Node)) → Parsed Node
  | some (ps, rest, ctx) => some (.mapping tag ps, rest, ctx)
  | none => none

def consTo {α : Type} (a : α) : Parsed (List α) → Parsed (List α)
  | some (as, rest, ctx) => some (a :: as, rest, ctx)
  | none => none

mutual

def node (place : Place) : Nat → List Token → Context → Parsed Node
  | 0, _, _ => none
  | fuel + 1, tokens, ctx =>
    match tokens with
    | .alias a :: rest =>
      match ctx.anchors.lookup a with
      | some n => some (n, rest, ctx)
      | none => none
    | _ =>
      match readProperties ctx tokens with
      | none => none
      | some (props, tokens) =>
        let begun := ctx.bindAnchor props.anchor .endless
        let close (r : Parsed Node) : Parsed Node :=
          match r with
          | some (n, rest, ctx) => some (n, rest, ctx.bindAnchor props.anchor n)
          | none => none
        match tokens with
        | .scalar style text :: rest =>
          let n := Node.scalar props.tag style text
          some (n, rest, ctx.bindAnchor props.anchor n)
        | .flowSequence :: rest => close (sequenceOf props.tag (flowItems true fuel rest begun))
        | .flowMapping :: rest => close (mappingOf props.tag (flowPairs true fuel rest begun))
        | .blockEntry :: _ =>
          if place = .blockEntryAllowed then close (sequenceOf props.tag (entries fuel tokens begun))
          else absent props tokens ctx
        | .blockSequence :: rest =>
          if place = .flow then absent props tokens ctx
          else close (sequenceOf props.tag (blockItems fuel rest begun))
        | .blockMapping :: rest =>
          if place = .flow then absent props tokens ctx
          else close (mappingOf props.tag (blockPairs fuel rest begun))
        | _ => absent props tokens ctx

def blockItems : Nat → List Token → Context → Parsed (List Node)
  | 0, _, _ => none
  | _ + 1, .blockEnd :: rest, ctx => some ([], rest, ctx)
  | fuel + 1, .blockEntry :: rest, ctx =>
    match orMissing .block [.blockEntry, .blockEnd] fuel rest ctx with
    | some (n, rest, ctx) => consTo n (blockItems fuel rest ctx)
    | none => none
  | _ + 1, _, _ => none

/-- The elements of a sequence in the column of its mapping. -/
def entries : Nat → List Token → Context → Parsed (List Node)
  | 0, _, _ => none
  | fuel + 1, .blockEntry :: rest, ctx =>
    match orMissing .block [.blockEntry, .key, .value, .blockEnd] fuel rest ctx with
    | some (n, rest, ctx) => consTo n (entries fuel rest ctx)
    | none => none
  | _ + 1, rest, ctx => some ([], rest, ctx)

def blockPairs : Nat → List Token → Context → Parsed (List (Node × Node))
  | 0, _, _ => none
  | _ + 1, .blockEnd :: rest, ctx => some ([], rest, ctx)
  | fuel + 1, .key :: rest, ctx =>
    match orMissing .blockEntryAllowed [.key, .value, .blockEnd] fuel rest ctx with
    | none => none
    | some (k, .value :: rest, ctx) =>
      match orMissing .blockEntryAllowed [.key, .value, .blockEnd] fuel rest ctx with
      | some (v, rest, ctx) => consTo (k, v) (blockPairs fuel rest ctx)
      | none => none
    | some (k, rest, ctx) => consTo (k, missing) (blockPairs fuel rest ctx)
  | _ + 1, _, _ => none

def flowItems (first : Bool) : Nat → List Token → Context → Parsed (List Node)
  | 0, _, _ => none
  | fuel + 1, tokens, ctx =>
    match tokens with
    | .flowSequenceEnd :: rest => some ([], rest, ctx)
    | _ =>
      match afterComma first tokens with
      | none => none
      | some (.flowSequenceEnd :: rest) => some ([], rest, ctx)
      | some (.key :: rest) =>
        match flowPair [.value, .flowEntry, .flowSequenceEnd] [.flowEntry, .flowSequenceEnd]
          fuel rest ctx with
        | some (pair, rest, ctx) => consTo (.mapping none [pair]) (flowItems false fuel rest ctx)
        | none => none
      | some tokens =>
        match node .flow fuel tokens ctx with
        | some (n, rest, ctx) => consTo n (flowItems false fuel rest ctx)
        | none => none

def flowPairs (first : Bool) : Nat → List Token → Context → Parsed (List (Node × Node))
  | 0, _, _ => none
  | fuel + 1, tokens, ctx =>
    match tokens with
    | .flowMappingEnd :: rest => some ([], rest, ctx)
    | _ =>
      match afterComma first tokens with
      | none => none
      | some (.flowMappingEnd :: rest) => some ([], rest, ctx)
      | some (.key :: rest) =>
        match flowPair [.value, .flowEntry, .flowMappingEnd] [.flowEntry, .flowMappingEnd]
          fuel rest ctx with
        | some (pair, rest, ctx) => consTo pair (flowPairs false fuel rest ctx)
        | none => none
      | some tokens =>
        match node .flow fuel tokens ctx with
        | some (n, rest, ctx) => consTo (n, missing) (flowPairs false fuel rest ctx)
        | none => none

/-- A key behind its mark and the value behind its colon, both of which may be left
    out in front of some tokens. -/
def flowPair (noKey noValue : List Token) : Nat → List Token → Context → Parsed (Node × Node)
  | 0, _, _ => none
  | fuel + 1, tokens, ctx =>
    match orMissing .flow noKey fuel tokens ctx with
    | none => none
    | some (k, .value :: rest, ctx) =>
      match orMissing .flow noValue fuel rest ctx with
      | some (v, rest, ctx) => some ((k, v), rest, ctx)
      | none => none
    | some (k, rest, ctx) => some ((k, missing), rest, ctx)

/-- A node, or a missing one in front of some tokens. -/
def orMissing (place : Place) (enders : List Token) : Nat → List Token → Context → Parsed Node
  | 0, _, _ => none
  | fuel + 1, tokens, ctx =>
    if nextIsOneOf enders tokens then some (missing, tokens, ctx) else node place fuel tokens ctx

end

def knownVersion (major minor : Nat) : Bool := major = 1 && (minor = 1 || minor = 2)

/-- The directives in front of a document: at most one version, and tag handles that
    differ. -/
def readDirectives (versions : Nat) (handles : List (List Char × List Char)) :
    List Token → Option (List (List Char × List Char) × Bool × List Token)
  | .version major minor :: rest =>
    if versions = 0 && knownVersion major minor then
      (readDirectives 1 handles rest).map fun r => (r.1, true, r.2.2)
    else none
  | .tagHandle h e :: rest =>
    if (handles.lookup h).isSome then none
    else (readDirectives versions ((h, e) :: handles) rest).map fun r => (r.1, true, r.2.2)
  | rest => some (handles, false, rest)

def isFinished : List Token → Bool
  | .documentEnd :: rest => isFinished rest
  | [.streamEnd] => true
  | _ => false

/-- The only document of a token list, `none` inside if there is no document. -/
def ofTokens? (tokens : List Token) : Option (Option Node) :=
  if tokens = [.streamEnd] then some none
  else
    match readDirectives 0 [] tokens with
    | none => none
    | some (handles, any, tokens) =>
      let ctx : Context := { handles := handles ++ ({} : Context).handles }
      let fuel := 4 * tokens.length + 4
      let parsed :=
        match tokens with
        | .documentStart :: rest =>
          if nextIsOneOf [.documentStart, .documentEnd, .streamEnd] rest then
            some (missing, rest, ctx)
          else node .block fuel rest ctx
        | tokens => if any then none else node .block fuel tokens ctx
      match parsed with
      | some (n, rest, _) => if isFinished rest then some (some n) else none
      | none => none

def ofText? (cs : List Char) : Option (Option Node) := (tokens cs).bind ofTokens?

end Node

end GuestPorts.Yaml
