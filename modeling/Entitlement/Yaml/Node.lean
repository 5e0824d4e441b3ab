import Entitlement.Yaml.Token

/-!
# Nodes of a YAML document

The tree that the tokens of a document describe: scalars, sequences and mappings, and aliases that
stand for an earlier node with an anchor.
-/

namespace Entitlement.Yaml

structure Scalar where
  style : Style := .plain
  tag : Option (List Char) := none
  text : List Char := []
deriving DecidableEq, Repr, Inhabited

inductive Node where
  | alias (name : List Char)
  | scalar (anchor : Option (List Char)) (s : Scalar)
  | sequence (anchor : Option (List Char)) (items : List Node)
  | mapping (anchor : Option (List Char)) (entries : List (Node × Node))
deriving Repr, Inhabited

namespace Node

/-- The node that is there although nothing is written. -/
def empty : Node := .scalar none {}

structure Properties where
  anchor : Option (List Char) := none
  tag : Option (List Char) := none
deriving DecidableEq, Repr, Inhabited

/-- The handles in force, with what their tags start with. -/
abbrev Handles := List (List Char × List Char)

def standardHandles : Handles :=
  [(['!'], ['!']), (['!', '!'], "tag:yaml.org,2002:".toList)]

/-- The tag in full; its handle has to be known. -/
def fullTag (handles : Handles) (handle suffix : List Char) : Option (List Char) :=
  if handle.isEmpty then some suffix
  else (handles.lookup handle).map (· ++ suffix)

def properties (handles : Handles) : List Token → Option (Properties × List Token)
  | .anchor name :: .tag handle suffix :: rest => do
    return ({ anchor := some name, tag := some (← fullTag handles handle suffix) }, rest)
  | .anchor name :: rest => some ({ anchor := some name }, rest)
  | .tag handle suffix :: .anchor name :: rest => do
    return ({ anchor := some name, tag := some (← fullTag handles handle suffix) }, rest)
  | .tag handle suffix :: rest => do
    return ({ tag := some (← fullTag handles handle suffix) }, rest)
  | rest => some ({}, rest)

def Properties.scalar (p : Properties) (style : Style) (text : List Char) : Node :=
  .scalar p.anchor { style, tag := p.tag, text }

def endsBlockItem : List Token → Bool
  | .blockEntry :: _ | .blockEnd :: _ => true
  | _ => false

def endsBlockPart : List Token → Bool
  | .key :: _ | .value :: _ | .blockEnd :: _ => true
  | _ => false

def endsLooseItem (tokens : List Token) : Bool :=
  match tokens with
  | .blockEntry :: _ => true
  | _ => endsBlockPart tokens

def endsFlowPart (close : Token) : List Token → Bool
  | .flowEntry :: _ => true
  | t :: _ => t == close
  | [] => false

def endsFlowKey (close : Token) (tokens : List Token) : Bool :=
  match tokens with
  | .value :: _ => true
  | _ => endsFlowPart close tokens

mutual

/-- A node. `block` admits blocks, and `loose` a sequence at the indentation of its key. -/
def read (handles : Handles) (block loose : Bool) : Nat → List Token → Option (Node × List Token)
  | 0, _ => none
  | steps + 1, tokens =>
    match tokens with
    | .alias name :: rest => some (.alias name, rest)
    | _ => do
      let (p, rest) ← properties handles tokens
      match rest with
      | .scalar style text :: rest => return (p.scalar style text, rest)
      | .flowSequenceStart :: rest =>
        let (items, rest) ← flowItems handles true steps rest
        return (.sequence p.anchor items, rest)
      | .flowMappingStart :: rest =>
        let (entries, rest) ← flowEntries handles true steps rest
        return (.mapping p.anchor entries, rest)
      | .blockSequenceStart :: rest =>
        if !block then none
        let (items, rest) ← blockItems handles steps rest
        return (.sequence p.anchor items, rest)
      | .blockMappingStart :: rest =>
        if !block then none
        let (entries, rest) ← blockEntries handles steps rest
        return (.mapping p.anchor entries, rest)
      | _ =>
        if loose && rest.head? == some .blockEntry then
          let (items, rest) ← looseItems handles steps rest
          return (.sequence p.anchor items, rest)
        else if p.anchor.isSome || p.tag.isSome then return (p.scalar .plain [], rest)
        else none

def blockItems (handles : Handles) : Nat → List Token → Option (List Node × List Token)
  | 0, _ => none
  | steps + 1, tokens =>
    match tokens with
    | .blockEnd :: rest => some ([], rest)
    | .blockEntry :: rest => do
      let (item, rest) ←
        if endsBlockItem rest then some (empty, rest) else read handles true false steps rest
      let (others, rest) ← blockItems handles steps rest
      return (item :: others, rest)
    | _ => none

/-- The items of a sequence at the indentation of its key. -/
def looseItems (handles : Handles) : Nat → List Token → Option (List Node × List Token)
  | 0, _ => none
  | steps + 1, tokens =>
    match tokens with
    | .blockEntry :: rest => do
      let (item, rest) ←
        if endsLooseItem rest then some (empty, rest) else read handles true false steps rest
      let (others, rest) ← looseItems handles steps rest
      return (item :: others, rest)
    | _ => some ([], tokens)

def blockEntries (handles : Handles) :
    Nat → List Token → Option (List (Node × Node) × List Token)
  | 0, _ => none
  | steps + 1, tokens =>
    match tokens with
    | .blockEnd :: rest => some ([], rest)
    | .key :: rest => do
      let (key, rest) ←
        if endsBlockPart rest then some (empty, rest) else read handles true true steps rest
      let (value, rest) ← blockValue handles steps rest
      let (others, rest) ← blockEntries handles steps rest
      return ((key, value) :: others, rest)
    | _ => none

def blockValue (handles : Handles) : Nat → List Token → Option (Node × List Token)
  | 0, _ => none
  | steps + 1, tokens =>
    match tokens with
    | .value :: rest =>
      if endsBlockPart rest then some (empty, rest) else read handles true true steps rest
    | _ => some (empty, tokens)

/-- The items of a sequence in brackets. A key among them makes a mapping of one entry. -/
def flowItems (handles : Handles) (first : Bool) :
    Nat → List Token → Option (List Node × List Token)
  | 0, _ => none
  | steps + 1, tokens =>
    match tokens with
    | .flowSequenceEnd :: rest => some ([], rest)
    | _ => do
      let rest ←
        if first then some tokens
        else if tokens.head? == some .flowEntry then some (tokens.drop 1)
        else none
      match rest with
      | .flowSequenceEnd :: rest => return ([], rest)
      | .key :: rest =>
        -- Where the key is missing, the token in its place is lost.
        let (key, rest) ←
          if endsFlowKey .flowSequenceEnd rest then some (empty, rest.drop 1)
          else read handles false false steps rest
        let (value, rest) ← flowValue handles .flowSequenceEnd steps rest
        let (others, rest) ← flowItems handles false steps rest
        return (.mapping none [(key, value)] :: others, rest)
      | _ =>
        let (item, rest) ← read handles false false steps rest
        let (others, rest) ← flowItems handles false steps rest
        return (item :: others, rest)

/-- The entries of a mapping in braces. A node without a question mark before it may be a key
without a value. -/
def flowEntries (handles : Handles) (first : Bool) :
    Nat → List Token → Option (List (Node × Node) × List Token)
  | 0, _ => none
  | steps + 1, tokens =>
    match tokens with
    | .flowMappingEnd :: rest => some ([], rest)
    | _ => do
      let rest ←
        if first then some tokens
        else if tokens.head? == some .flowEntry then some (tokens.drop 1)
        else none
      match rest with
      | .flowMappingEnd :: rest => return ([], rest)
      | .key :: rest =>
        let (key, rest) ←
          if endsFlowKey .flowMappingEnd rest then some (empty, rest)
          else read handles false false steps rest
        let (value, rest) ← flowValue handles .flowMappingEnd steps rest
        let (others, rest) ← flowEntries handles false steps rest
        return ((key, value) :: others, rest)
      | _ =>
        let (key, rest) ← read handles false false steps rest
        let (others, rest) ← flowEntries handles false steps rest
        return ((key, empty) :: others, rest)

def flowValue (handles : Handles) (close : Token) : Nat → List Token → Option (Node × List Token)
  | 0, _ => none
  | steps + 1, tokens =>
    match tokens with
    | .value :: rest =>
      if endsFlowPart close rest then some (empty, rest) else read handles false false steps rest
    | _ => some (empty, tokens)

end

/-! ### Documents -/

/-- The directives before a document: at most one version, 1.1 or 1.2, and each handle once. -/
def directives : List Token → Bool → Handles → Option (Handles × List Token)
  | .directive (.version major minor) :: rest, versioned, handles =>
    if versioned || major ≠ 1 || (minor ≠ 1 && minor ≠ 2) then none
    else directives rest true handles
  | .directive (.tagHandle handle start) :: rest, versioned, handles =>
    if (handles.lookup handle).isSome then none
    else directives rest versioned ((handle, start) :: handles)
  | rest, _, handles => some (handles ++ standardHandles, rest)

/-- The tokens of the stream after its first document: only ends of documents. -/
def isLast : List Token → Bool
  | .documentEnd :: rest => isLast rest
  | [.streamEnd] => true
  | _ => false

/-- The content of a document that was begun explicitly may be missing. -/
def endsDocument : List Token → Bool
  | .directive _ :: _ | .documentStart :: _ | .documentEnd :: _ | .streamEnd :: _ => true
  | _ => false

def ofTokens? (tokens : List Token) : Option (Option Node) := do
  let steps := 2 * tokens.length + 2
  match tokens with
  | [.streamEnd] => return none
  | .directive _ :: _ | .documentStart :: _ =>
    let (handles, rest) ← directives tokens false []
    match rest with
    | .documentStart :: rest =>
      let (node, rest) ←
        if endsDocument rest then some (empty, rest) else read handles true false steps rest
      if isLast rest then return some node else none
    | _ => none
  | _ =>
    let (node, rest) ← read standardHandles true false steps tokens
    if isLast rest then return some node else none

def ofText? (text : String) : Option (Option Node) := Token.ofText? text >>= ofTokens?

end Node

end Entitlement.Yaml
