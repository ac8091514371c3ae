import Reconcile.Yaml.Token.Basic

/-!
# YAML nodes and documents

A document is a tree of scalars, sequences and mappings, in which an alias stands for a node that
carries an anchor elsewhere in the document. `Document.ofTokens?` builds the documents of a stream
from its tokens.

An alias refers to an anchor by number: the number of distinct names that were anchored before it.
Of two nodes with one number the later one counts.
-/

namespace Reconcile.Yaml

/-- A node of a document. -/
inductive Node where
  | scalar (tag : Option String) (style : ScalarStyle) (text : String)
  | sequence (tag : Option String) (items : List Node)
  | mapping (tag : Option String) (entries : List (Node × Node))
  | alias (anchor : Nat)
deriving Inhabited

/-- A node with an anchor: its number and its place in the document. -/
structure Anchored where
  anchor : Nat
  place : Nat
  node : Node

/-- A document; an empty stream holds one without a root. -/
structure Document where
  root : Option Node
  anchored : List Anchored
  /-- How many starts, ends, scalars and aliases the document consists of. -/
  size : Nat

namespace Node

/-- The node that an absent one stands for. -/
def empty : Node := .scalar none .plain ""

/-- What the construction of a document knows on the way. -/
structure Builder where
  tokens : List Token
  /-- The handles of tags and what they stand for. -/
  handles : List (String × String)
  names : List (String × Nat)
  anchored : List Anchored
  size : Nat

/-- Construction of a part of a document. -/
abbrev Build := StateT Builder Option

/-- The next token. -/
def next : Build (Option Token) := do return (← get).tokens.head?

/-- Passes over the next token. -/
def drop : Build Unit := modify fun s => { s with tokens := s.tokens.drop 1 }

/-- Whether the next token is one of these. -/
def nextIs (tokens : List Token) : Build Bool := do
  match ← next with
  | some t => return tokens.contains t
  | none => return false

/-- Counts a start, an end, a scalar or an alias. -/
def count : Build Unit := modify fun s => { s with size := s.size + 1 }

/-- An absent node. -/
def absent : Build Node := do
  count
  return .empty

/-- Gives a name its number. -/
def anchorNumber (name : String) : Build Nat := do
  let s ← get
  let number := s.names.length
  set { s with names := (name, number) :: s.names.filter fun entry => entry.1 != name }
  return number

/-- The tag that a handle and a suffix make; an unknown handle is an error. -/
def tagOf (handle suffix : String) : Build String := do
  if handle == "" then return suffix
  else
    match (← get).handles.lookup handle with
    | some lead => return lead ++ suffix
    | none => failure

/-- Reads the anchor and the tag before a node, in either order. -/
def properties : Build (Option String × Option String) := do
  match ← next with
  | some (.anchor name) => do
    drop
    match ← next with
    | some (.tag handle suffix) => do
      drop
      return (some name, some (← tagOf handle suffix))
    | _ => return (some name, none)
  | some (.tag handle suffix) => do
    drop
    match ← next with
    | some (.anchor name) => do
      drop
      return (some name, some (← tagOf handle suffix))
    | _ => return (none, some (← tagOf handle suffix))
  | _ => return (none, none)

mutual

/-- Reads a node. Block collections are admitted only where `block` says so, and a sequence
without indentation only as the value or key of a block mapping. -/
def read : Nat → Bool → Bool → Build Node
  | 0, _, _ => failure
  | fuel + 1, block, indentless => do
    match ← next with
    | some (.alias name) => do
      drop
      count
      match (← get).names.lookup name with
      | some number => return .alias number
      | none => failure
    | _ => do
      let (name, tag) ← properties
      let number ← name.mapM anchorNumber
      let place := (← get).size
      count
      let node ← readBody fuel block indentless (name.isSome || tag.isSome) tag
      match number with
      | some anchor =>
        modify fun s => { s with anchored := ⟨anchor, place, node⟩ :: s.anchored }
      | none => pure ()
      return node

/-- Reads a node behind its anchor and tag. -/
def readBody : Nat → Bool → Bool → Bool → Option String → Build Node
  | 0, _, _, _, _ => failure
  | fuel + 1, block, indentless, hasProperty, tag => do
    match ← next with
    | some (.scalar style text) => do
      drop
      return .scalar (if tag == some "!" then none else tag) style text
    | some .blockEntry =>
      if indentless then return .sequence tag (← readIndentless fuel)
      else if hasProperty then return .scalar tag .plain ""
      else failure
    | some .flowSequenceStart => do
      drop
      return .sequence tag (← readFlowItems fuel true)
    | some .flowMappingStart => do
      drop
      return .mapping tag (← readFlowEntries fuel true)
    | t =>
      if block && t == some .blockSequenceStart then do
        drop
        return .sequence tag (← readBlockItems fuel)
      else if block && t == some .blockMappingStart then do
        drop
        return .mapping tag (← readBlockEntries fuel)
      else if hasProperty then return .scalar tag .plain ""
      else failure

/-- Reads the items of a block sequence up to its end. -/
def readBlockItems : Nat → Build (List Node)
  | 0 => failure
  | fuel + 1 => do
    match ← next with
    | some .blockEntry => do
      drop
      let item ← if ← nextIs [.blockEntry, .blockEnd] then absent else read fuel true false
      return item :: (← readBlockItems fuel)
    | some .blockEnd => do
      drop
      count
      return []
    | _ => failure

/-- Reads the items of a sequence without indentation. -/
def readIndentless : Nat → Build (List Node)
  | 0 => failure
  | fuel + 1 => do
    match ← next with
    | some .blockEntry => do
      drop
      let item ←
        if ← nextIs [.blockEntry, .key, .value, .blockEnd] then absent else read fuel true false
      return item :: (← readIndentless fuel)
    | _ => do
      count
      return []

/-- Reads the entries of a block mapping up to its end. -/
def readBlockEntries : Nat → Build (List (Node × Node))
  | 0 => failure
  | fuel + 1 => do
    match ← next with
    | some .key => do
      drop
      let key ← if ← nextIs [.key, .value, .blockEnd] then absent else read fuel true true
      let value ←
        if ← nextIs [.value] then do
          drop
          if ← nextIs [.key, .value, .blockEnd] then absent else read fuel true true
        else absent
      return (key, value) :: (← readBlockEntries fuel)
    | some .blockEnd => do
      drop
      count
      return []
    | _ => failure

/-- Reads the items of a flow sequence up to its bracket, each after a comma but the first. An
entry of a mapping may stand as an item. -/
def readFlowItems : Nat → Bool → Build (List Node)
  | 0, _ => failure
  | fuel + 1, first => do
    if ← nextIs [.flowSequenceEnd] then do
      drop
      count
      return []
    else do
      if !first then
        if ← nextIs [.flowEntry] then drop else failure
      match ← next with
      | some .flowSequenceEnd => do
        drop
        count
        return []
      | some .key => do
        drop
        count
        let key ←
          if ← nextIs [.value, .flowEntry, .flowSequenceEnd] then do
            drop
            absent
          else read fuel false false
        let value ←
          if ← nextIs [.value] then do
            drop
            if ← nextIs [.flowEntry, .flowSequenceEnd] then absent else read fuel false false
          else absent
        count
        return .mapping none [(key, value)] :: (← readFlowItems fuel false)
      | _ => do
        let item ← read fuel false false
        return item :: (← readFlowItems fuel false)

/-- Reads the entries of a flow mapping up to its brace, each after a comma but the first. -/
def readFlowEntries : Nat → Bool → Build (List (Node × Node))
  | 0, _ => failure
  | fuel + 1, first => do
    if ← nextIs [.flowMappingEnd] then do
      drop
      count
      return []
    else do
      if !first then
        if ← nextIs [.flowEntry] then drop else failure
      match ← next with
      | some .flowMappingEnd => do
        drop
        count
        return []
      | some .key => do
        drop
        let key ←
          if ← nextIs [.value, .flowEntry, .flowMappingEnd] then absent else read fuel false false
        let value ←
          if ← nextIs [.value] then do
            drop
            if ← nextIs [.flowEntry, .flowMappingEnd] then absent else read fuel false false
          else absent
        return (key, value) :: (← readFlowEntries fuel false)
      | _ => do
        let key ← read fuel false false
        let value ← absent
        return (key, value) :: (← readFlowEntries fuel false)

end

end Node

namespace Document

/-- The directives before a document: whether a version was given, and the handles of tags. -/
def directives : Bool → List (String × String) → List Token → Option (List (String × String) × List Token)
  | versioned, handles, .versionDirective major minor :: rest =>
    if versioned || major != 1 || (minor != 1 && minor != 2) then none
    else directives true handles rest
  | versioned, handles, .tagDirective handle lead :: rest =>
    if (handles.lookup handle).isSome then none
    else directives versioned ((handle, lead) :: handles) rest
  | _, handles, rest => some (handles ++ [("!", "!"), ("!!", "tag:yaml.org,2002:")], rest)

/-- Whether a document that was announced has no content before this token. -/
def isBare (tokens : List Token) : Bool :=
  match tokens with
  | [] | .versionDirective .. :: _ | .tagDirective .. :: _ | .documentStart :: _ | .documentEnd :: _ => true
  | _ => false

/-- Reads the content of a document. -/
def content (handles : List (String × String)) (bare : Bool) (tokens : List Token) :
    Option (Document × List Token) :=
  if bare then some (⟨some .empty, [], 1⟩, tokens)
  else do
    let (root, s) ← Node.read (4 * tokens.length + 4) true false ⟨tokens, handles, [], [], 0⟩
    some (⟨some root, s.anchored, s.size⟩, s.tokens)

/-- Reads documents up to the end of the stream. The first one needs no start marker. -/
def readAll : Nat → Bool → List Token → Option (List Document)
  | 0, _, _ => none
  | fuel + 1, first, tokens =>
    let tokens := if first then tokens else tokens.dropWhile (· == .documentEnd)
    match tokens with
    | [] => some []
    | t :: _ => do
      let announced := match t with
        | .versionDirective .. | .tagDirective .. | .documentStart => true
        | _ => false
      let (handles, rest) ← directives false [] tokens
      let (document, rest) ←
        if announced || !first then
          match rest with
          | .documentStart :: rest => content handles (isBare rest) rest
          | _ => none
        else content handles false rest
      let rest := if rest.head? == some .documentEnd then rest.drop 1 else rest
      return document :: (← readAll fuel false rest)

/-- The documents of a stream; an empty stream holds one without a root. -/
def ofTokens? (tokens : List Token) : Option (List Document) :=
  if tokens.isEmpty then some [⟨none, [], 1⟩] else readAll (tokens.length + 1) true tokens

end Document

end Reconcile.Yaml
