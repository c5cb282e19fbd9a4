/-
  ScriptReport.Yaml.Graph

  The nodes of a YAML document, each known by its number. The members of a collection are numbers
  of nodes, so a node can be a member of several collections and even of itself.
-/

import ScriptReport.Text.Wide
import ScriptReport.Yaml.Tag

namespace ScriptReport.Yaml

/-! ## Nodes -/

/-- The number of a node. -/
abbrev NodeId := Nat

/-- A key and its value. -/
abbrev Entry := NodeId × NodeId

/-- What a node consists of. -/
inductive Content where
  | scalar (text : Text.Wide)
  | sequence (items : List NodeId)
  | mapping (entries : List Entry)
  deriving DecidableEq, Repr

/-- A node of a document. -/
structure Node where
  tag : Tag
  content : Content
  deriving DecidableEq, Repr

/-- The node where nothing is written. -/
def Node.nothing : Node := ⟨.null, .scalar []⟩

/-! ## All nodes -/

/-- The nodes of a document in the order of their numbers. -/
abbrev Graph := Array Node

namespace Graph

/-- The node of a number. -/
def node (g : Graph) (id : NodeId) : Node := g.getD id .nothing

/-- The type of a node. -/
def tag (g : Graph) (id : NodeId) : Tag := (g.node id).tag

/-- The entries of a mapping. -/
def entries (g : Graph) (id : NodeId) : List Entry :=
  match (g.node id).content with
  | .mapping entries => entries
  | _ => []

/-- The node is a mapping. -/
def isMapping (g : Graph) (id : NodeId) : Bool :=
  match (g.node id).content with
  | .mapping _ => true
  | _ => false

/-- The nodes with another content of one of them. -/
def setContent (g : Graph) (id : NodeId) (content : Content) : Graph :=
  g.modify id fun node => { node with content }

/-- The nodes with another type of one of them. -/
def setTag (g : Graph) (id : NodeId) (tag : Tag) : Graph :=
  g.modify id fun node => { node with tag }

/-! ## Merging -/

/-- The first value that is merged into a mapping, and the other entries. -/
def cutMerge? (g : Graph) : List Entry → Option (NodeId × List Entry)
  | [] => none
  | (key, value) :: rest =>
    if g.tag key = .merge then some (value, rest)
    else (g.cutMerge? rest).map fun (source, others) => (source, (key, value) :: others)

/-- The keys that stand for a default value become plain texts. -/
def settleDefaults (g : Graph) (entries : List Entry) : Graph :=
  entries.foldl (fun g entry => if g.tag entry.1 = .default then g.setTag entry.1 .text else g) g

/-- The nodes with one mapping in its final form: the mappings that it merges are brought into
    their final form, one after another, and their entries are put in front of its own, after
    those in `merged`. Of a sequence of mappings the last is put first. -/
def flatten : Nat → List Entry → NodeId → Graph → Except Fault Graph
  | 0, _, _, _ => .error .malformed
  | fuel + 1, merged, id, g =>
    let g := g.settleDefaults (g.entries id)
    match g.cutMerge? (g.entries id) with
    | none => .ok (g.setContent id (.mapping (merged ++ g.entries id)))
    | some (source, own) => do
      let g := g.setContent id (.mapping own)
      match (g.node source).content with
      | .scalar _ => .error .malformed
      | .mapping _ =>
        let g ← flatten fuel [] source g
        flatten fuel (merged ++ g.entries source) id g
      | .sequence items =>
        let (g, more) ← items.foldlM (fun (g, more) item => do
          if !g.isMapping item then throw .malformed
          let g ← flatten fuel [] item g
          return (g, g.entries item ++ more)) (g, [])
        flatten fuel (merged ++ more) id g

/-- The number of entries whose value is merged. -/
def countMerges (g : Graph) : Nat :=
  g.foldl
    (fun count node =>
      match node.content with
      | .mapping entries => count + entries.countP fun entry => g.tag entry.1 = .merge
      | _ => count)
    0

/-- The nodes with one mapping in its final form. Every merge key is used up once, so their number
    bounds the steps. -/
def settle (g : Graph) (id : NodeId) : Except Fault Graph := g.flatten (g.countMerges + 1) [] id

end Graph

end ScriptReport.Yaml
