/-
  ScriptReport.Yaml.Node

  From the tokens of a YAML document to its nodes: texts, sequences and mappings with their types.
  A node is known by its number, so an anchor can be used in several places, also inside the node
  that it names.
-/

import ScriptReport.Yaml.Graph
import ScriptReport.Yaml.TokenStream

namespace ScriptReport.Yaml

/-! ## Reading tokens -/

/-- The tokens that are left, the nodes so far, and those that have anchors. -/
structure Reading where
  stream : TokenStream
  graph : Graph := #[]
  anchors : List (Chars × NodeId) := []

/-- Reading nodes from tokens. -/
abbrev Reader := StateT Reading (Except Fault)

namespace Reader

/-- The document is malformed. -/
def refuse {α : Type} : Reader α := throw .malformed

/-- The next token, or none at the end of the text. -/
def next? : Reader (Option Token) := do
  let stream := (← get).stream
  match stream.tokens, stream.fault with
  | token :: _, _ => return some token
  | [], some fault => throw fault
  | [], none => return none

/-- Goes past the next token. -/
def skip : Reader Unit :=
  modify fun r => { r with stream.tokens := r.stream.tokens.tail }

/-- Goes past the next token if it is the given one, and says whether it was. -/
def skipIf (token : Token) : Reader Bool := do
  if (← next?) = some token then
    skip
    return true
  else return false

/-- Goes past the given token, which has to be the next one. -/
def expect (token : Token) : Reader Unit := do
  if !(← skipIf token) then refuse

/-- The next token is one of the given ones, or the end. -/
def isBefore (tokens : List Token) : Reader Bool := do
  match ← next? with
  | none => return true
  | some token => return tokens.contains token

/-- A new node. -/
def add (node : Node) : Reader NodeId := do
  let r ← get
  set { r with graph := r.graph.push node }
  return r.graph.size

/-- A new node where nothing is written. -/
def addNothing : Reader NodeId := add .nothing

/-- Gives a node its anchor. -/
def name (anchor : Option Chars) (node : NodeId) : Reader Unit :=
  match anchor with
  | some anchor => modify fun r => { r with anchors := (anchor, node) :: r.anchors }
  | none => pure ()

/-- Refuses an anchor that another node has. -/
def checkNew (anchor : Option Chars) : Reader Unit := do
  match anchor with
  | some anchor => if ((← get).anchors.lookup anchor).isSome then refuse
  | none => pure ()

end Reader

open Reader

/-! ## Properties -/

/-- What the handles of tags stand for. -/
abbrev Handles := List (Chars × Chars)

/-- The handles that need no directive. -/
def usualHandles : Handles := [("!", "!"), ("!!", commonPrefix)]

/-- The full name of a tag. -/
def fullName (handles : Handles) (tag : TagName) : Reader Chars :=
  match tag.handle with
  | none => pure tag.suffix
  | some handle =>
    match handles.lookup handle with
    | some expansion => pure (expansion ++ tag.suffix)
    | none => refuse

/-- The anchor and the full name of the tag of a node, as far as they are given. -/
structure Properties where
  anchor : Option Chars := none
  tag : Option Chars := none

/-- Nothing is given. -/
def Properties.areMissing (p : Properties) : Bool := p.anchor.isNone && p.tag.isNone

/-- The anchor that stands here, if any. -/
def readAnchor : Reader (Option Chars) := do
  match ← next? with
  | some (.anchor name) =>
    skip
    return some name
  | _ => return none

/-- The tag that stands here, if any. -/
def readTag : Reader (Option TagName) := do
  match ← next? with
  | some (.tag name) =>
    skip
    return some name
  | _ => return none

/-- The properties that stand here, in either order. What the tag stands for is found out last. -/
def readProperties (handles : Handles) : Reader Properties := do
  let first ← readAnchor
  let tag ← readTag
  let anchor ← if first.isNone && tag.isSome then readAnchor else pure first
  return { anchor, tag := ← tag.mapM (fullName handles) }

/-- The tag by which a node without a type of its own is written. -/
def bareTag : Chars := ['!']

/-- The type of a text. Its spelling counts if it has the bare tag, or no tag and no quotes. -/
def scalarTag (tag : Option Chars) (plain : Bool) (text : Text.Wide) : Tag :=
  match tag with
  | some name => if name = bareTag then Tag.ofPlain text.marked else Tag.ofName name
  | none => if plain then Tag.ofPlain text.marked else .text

/-- The type of a collection, `usual` if no other is given. -/
def collectionTag (usual : Tag) : Option Chars → Tag
  | some name => if name = bareTag then usual else Tag.ofName name
  | none => usual

/-- A text with its properties. -/
def addScalar (p : Properties) (plain : Bool) (text : Text.Wide) : Reader NodeId := do
  let node ← add ⟨scalarTag p.tag plain text, .scalar text⟩
  name p.anchor node
  return node

/-- A collection with its properties and its members. It has its number and its anchor before its
    members are read, for they may use it. -/
def addCollection {α : Type} (p : Properties) (usual : Tag) (content : List α → Content)
    (members : Reader (List α)) : Reader NodeId := do
  let node ← add ⟨collectionTag usual p.tag, content []⟩
  name p.anchor node
  let members ← members
  modify fun r => { r with graph := r.graph.setContent node (content members) }
  return node

/-- A sequence. -/
def addSequence (p : Properties) (items : Reader (List NodeId)) : Reader NodeId :=
  addCollection p .sequence .sequence items

/-- A mapping. -/
def addMapping (p : Properties) (entries : Reader (List Entry)) : Reader NodeId :=
  addCollection p .mapping .mapping entries

/-! ## Collections -/

/-- These tokens end a key or value of a block mapping. -/
def blockEnds : List Token := [.key, .value, .blockEnd]

mutual

/-- The node that stands here. Block collections only count if `block` holds, and members without
    indentation of their own only if `bare` holds. An anchor may be given once only. -/
def readNode (handles : Handles) (block bare : Bool) : Nat → Reader NodeId
  | 0 => refuse
  | fuel + 1 => do
    match ← next? with
    | some (.anchorUse name) =>
      skip
      match (← get).anchors.lookup name with
      | some node => return node
      | none => refuse
    | _ =>
      let p ← readProperties handles
      let token ← next?
      checkNew p.anchor
      match token with
      | some (.scalar text plain) =>
        skip
        addScalar p plain text
      | some .flowSequence =>
        skip
        addSequence p (readFlowItems handles true fuel)
      | some .flowMapping =>
        skip
        addMapping p (readFlowEntries handles true fuel)
      | token =>
        if bare && token = some .blockEntry then addSequence p (readBareItems handles fuel)
        else if block && token = some .blockSequence then
          skip
          addSequence p (readBlockItems handles fuel)
        else if block && token = some .blockMapping then
          skip
          addMapping p (readBlockEntries handles fuel)
        else if p.areMissing then refuse
        else addScalar p true []

/-- The node that stands here, or nothing before the given tokens. -/
def readOr (handles : Handles) (block bare : Bool) (ends : List Token) :
    Nat → Reader NodeId
  | 0 => refuse
  | fuel + 1 => do
    if ← isBefore ends then addNothing else readNode handles block bare fuel

/-- The members of a block sequence, up to its end. -/
def readBlockItems (handles : Handles) : Nat → Reader (List NodeId)
  | 0 => refuse
  | fuel + 1 => do
    if ← skipIf .blockEntry then
      let item ← readOr handles true false [.blockEntry, .blockEnd] fuel
      return item :: (← readBlockItems handles fuel)
    else
      expect .blockEnd
      return []

/-- The members of a sequence without indentation of its own. -/
def readBareItems (handles : Handles) : Nat → Reader (List NodeId)
  | 0 => refuse
  | fuel + 1 => do
    if ← skipIf .blockEntry then
      let item ← readOr handles true false (.blockEntry :: blockEnds) fuel
      return item :: (← readBareItems handles fuel)
    else return []

/-- The entries of a block mapping, up to its end. -/
def readBlockEntries (handles : Handles) : Nat → Reader (List Entry)
  | 0 => refuse
  | fuel + 1 => do
    if ← skipIf .blockEnd then return []
    else
      expect .key
      let key ← readOr handles true true blockEnds fuel
      let value ←
        if ← skipIf .value then readOr handles true true blockEnds fuel else addNothing
      return (key, value) :: (← readBlockEntries handles fuel)

/-- A key that is marked as one, and its value, inside a flow collection. -/
def readFlowEntry (handles : Handles) (closing : Token) : Nat → Reader Entry
  | 0 => refuse
  | fuel + 1 => do
    let key ← readOr handles false false [.value, .flowEntry, closing] fuel
    let value ←
      if ← skipIf .value then readOr handles false false [.flowEntry, closing] fuel
      else addNothing
    return (key, value)

/-- The members of a flow sequence, up to its end. A member may be a single entry. -/
def readFlowItems (handles : Handles) (first : Bool) : Nat → Reader (List NodeId)
  | 0 => refuse
  | fuel + 1 => do
    if ← skipIf .flowSequenceEnd then return []
    if !first then expect .flowEntry
    if ← skipIf .flowSequenceEnd then return []
    let item ←
      if ← skipIf .key then
        addMapping {} do return [← readFlowEntry handles .flowSequenceEnd fuel]
      else readNode handles false false fuel
    return item :: (← readFlowItems handles false fuel)

/-- The entries of a flow mapping, up to its end. A key may have no value. -/
def readFlowEntries (handles : Handles) (first : Bool) : Nat → Reader (List Entry)
  | 0 => refuse
  | fuel + 1 => do
    if ← skipIf .flowMappingEnd then return []
    if !first then expect .flowEntry
    if ← skipIf .flowMappingEnd then return []
    let entry ←
      if ← skipIf .key then readFlowEntry handles .flowMappingEnd fuel
      else pure (← readNode handles false false fuel, ← addNothing)
    return entry :: (← readFlowEntries handles false fuel)

end

/-! ## Documents -/

/-- The directives that stand here: whether there is one for the version, and the handles. -/
def readDirectives (hasVersion : Bool) (handles : Handles) : Nat → Reader Handles
  | 0 => refuse
  | fuel + 1 => do
    match ← next? with
    | some (.directive d) =>
      skip
      match d with
      | .version major =>
        if hasVersion || major ≠ 1 then refuse else readDirectives true handles fuel
      | .handle name expansion =>
        if (handles.lookup name).isSome then refuse
        else readDirectives hasVersion ((name, expansion) :: handles) fuel
      | .unknown => readDirectives hasVersion handles fuel
    | _ => return handles

/-- Goes past the lines that end a document. -/
def skipDocumentEnds : Nat → Reader Unit
  | 0 => pure ()
  | fuel + 1 => do if ← skipIf .documentEnd then skipDocumentEnds fuel

/-- The node of the document that starts here. -/
def readDocument (fuel : Nat) : Reader NodeId := do
  match ← next? with
  | some (.directive _) | some .documentStart =>
    let handles ← readDirectives false [] fuel
    expect .documentStart
    match ← next? with
    | some (.directive _) | some .documentStart | some .documentEnd | none => addNothing
    | _ => readNode (handles ++ usualHandles) true false fuel
  | _ => readNode usualHandles true false fuel

/-- The only document in the tokens, if there is any. The beginning of another one is read before
    it is refused. -/
def readOnly (fuel : Nat) : Reader (Option NodeId) := do
  match ← next? with
  | none => return none
  | some _ =>
    let node ← readDocument fuel
    skipDocumentEnds fuel
    match ← next? with
    | none => return some node
    | some _ =>
      let _ ← readDirectives false [] fuel
      expect .documentStart
      refuse

/-- The nodes of a text, and the one that its document consists of, if there is any. No node
    takes more than four steps for each token. -/
def nodesOf (stream : TokenStream) : Except Fault (Option NodeId × Graph) := do
  let fuel := 4 * stream.tokens.length + 4
  let (root, r) ← (readOnly fuel).run { stream }
  return (root, r.graph)

end ScriptReport.Yaml
