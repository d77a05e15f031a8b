import VitaeShell.Yaml.Fault
import VitaeShell.Yaml.Tag

/-!
# The nodes of a document

A YAML document is a graph of tagged nodes: an alias stands for a node that is already there, and a
node may even contain itself. The nodes are known by their numbers.

A mapping takes in the pairs of other mappings that its keys `<<` name (`Graph.flatten`). This
changes the node itself, wherever else it is used.
-/

namespace VitaeShell.Yaml

/-- The number of a node in its document. -/
abbrev NodeId := Nat

/-- A key and a value. -/
abbrev NodePair := NodeId × NodeId

/-- What a node holds. -/
inductive Content where
  | scalar (text : String)
  | sequence (items : List NodeId)
  | mapping (pairs : List NodePair)
deriving DecidableEq, Repr

/-- A tagged value. -/
structure Node where
  tag : Tag
  content : Content
deriving DecidableEq, Repr

/-- The node of a value that is left out. -/
def Node.omitted : Node :=
  ⟨.null, .scalar ""⟩

/-- How many nodes can lead on to one another, through keys `<<` or keys `=`: each takes a call out
of a stack that holds a thousand, of which twenty are taken to be in use. -/
def maxDetours : Nat := 980

/-- The nodes of a document, each in the place of its number. -/
structure Graph where
  nodes : Array Node := #[]
deriving Repr

namespace Graph

/-- The number that the next node gets. -/
def size (g : Graph) : Nat :=
  g.nodes.size

/-- The node with a number. -/
def node (g : Graph) (id : NodeId) : Node :=
  (g.nodes[id]?).getD Node.omitted

/-- The tag of a node. -/
def tag (g : Graph) (id : NodeId) : Tag :=
  (g.node id).tag

/-- The pairs of a mapping. -/
def pairs (g : Graph) (id : NodeId) : List NodePair :=
  match (g.node id).content with
  | .mapping pairs => pairs
  | _ => []

/-- The graph with one more node, which gets the next number. -/
def add (g : Graph) (node : Node) : Graph :=
  ⟨g.nodes.push node⟩

/-- Gives a node another content. -/
def fill (g : Graph) (id : NodeId) (content : Content) : Graph :=
  ⟨g.nodes.modify id fun node => { node with content := content }⟩

/-- Gives a node another tag. -/
def retag (g : Graph) (id : NodeId) (tag : Tag) : Graph :=
  ⟨g.nodes.modify id fun node => { node with tag := tag }⟩

/-! ### Merging -/

/-- Takes the first pair with the key `<<` out of a list: its value, and the other pairs. -/
def takeMerge? (g : Graph) : List NodePair → Option (NodeId × List NodePair)
  | [] => none
  | pair :: rest =>
    if g.tag pair.1 = .merge then some (pair.2, rest)
    else (takeMerge? g rest).map fun (value, others) => (value, pair :: others)

/-- Makes texts of the keys `=`, which stand for the mapping in which they are as long as it is not
read as a mapping. -/
def settleKeys (g : Graph) (pairs : List NodePair) : Graph :=
  pairs.foldl (fun g pair => if g.tag pair.1 = .value then g.retag pair.1 .text else g) g

/-- The pairs of each of a list of mappings, once `flatten` has done its work on it. -/
def flattenAll (flatten : Graph → NodeId → Except Fault Graph) (g : Graph) :
    List NodeId → Except Fault (List (List NodePair) × Graph)
  | [] => .ok ([], g)
  | id :: rest => do
    match (g.node id).content with
    | .mapping _ =>
      let g ← flatten g id
      let (others, after) ← flattenAll flatten g rest
      return (g.pairs id :: others, after)
    | _ => .error .malformed

/-- The pairs that the value of a key `<<` stands for: those of a mapping, or of a list of mappings,
of which the first wins over the others. -/
def sources (flatten : Graph → NodeId → Except Fault Graph) (g : Graph) (value : NodeId) :
    Except Fault (List NodePair × Graph) := do
  let ids := match (g.node value).content with
    | .sequence items => items
    | _ => [value]
  let (found, g) ← flattenAll flatten g ids
  return (found.reverse.flatten, g)

/-- Merges into a mapping what its keys `<<` name; `found` has been found before. The pairs of the
mapping itself come last and win. Each round takes out one key `<<`, so that `fuel` is the most that
there are in the document; as many mappings as `depth` can lead on to one another. -/
def flattenFrom : Nat → Nat → List NodePair → Graph → NodeId → Except Fault Graph
  | 0, _, _, _, _ => .error .malformed
  | fuel + 1, depth, found, g, id =>
    match g.takeMerge? (g.pairs id) with
    | none => .ok ((g.settleKeys (g.pairs id)).fill id (.mapping (found ++ g.pairs id)))
    | some (value, others) =>
      if depth = 0 then .error .tooDeep
      else do
        let g := g.fill id (.mapping others)
        let (more, g) ← sources (flattenFrom fuel (depth - 1) []) g value
        flattenFrom fuel depth (found ++ more) g id

/-- The number of keys `<<` in a document. -/
def mergeCount (g : Graph) : Nat :=
  (g.nodes.toList.flatMap fun node => match node.content with
    | .mapping pairs => pairs.filter fun pair => g.tag pair.1 = .merge
    | _ => []).length

/-- Merges into a mapping what its keys `<<` name. -/
def flatten (g : Graph) (id : NodeId) : Except Fault Graph :=
  flattenFrom (g.mergeCount + 1) maxDetours [] g id

end Graph

end VitaeShell.Yaml
