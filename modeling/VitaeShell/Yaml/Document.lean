import VitaeShell.Yaml.Graph
import VitaeShell.Yaml.Lexer
import VitaeShell.Table

/-!
# Documents

The one document of a YAML stream, read off its tokens (`Document.ofTokens`). A value is read right
after its node has got its number and its name, so that an alias within it can stand for it. A
stream without a document has no node.
-/

namespace VitaeShell.Yaml

/-- A document: its nodes, and which of them it consists of. -/
structure Document where
  graph : Graph
  root : NodeId
deriving Repr

/-! ### The state between nodes -/

/-- How many collections can stand within one another: each takes two calls out of a stack that
holds a thousand, of which twenty are taken to be in use. -/
def maxNesting : Nat := 490

/-- The tokens to come, the handles of tags, the nodes so far, and those with a name. -/
structure Reading where
  tokens : List Token
  /-- The number of collections that have started and not ended. -/
  opened : Nat := 0
  handles : List (String × String) := []
  graph : Graph := {}
  anchors : List (String × NodeId) := []

namespace Reading

/-- The handles that every document knows. -/
def commonHandles : List (String × String) :=
  [("!", "!"), ("!!", Tag.home)]

/-- The next token. -/
def look (r : Reading) : Except Fault Token :=
  match r.tokens with
  | [] => .error .malformed
  | .unreadable fault :: _ => .error fault
  | token :: _ => .ok token

/-- What follows the next token. -/
def drop (r : Reading) : Reading :=
  { r with tokens := r.tokens.drop 1 }

/-- Adds a node, with a name if it has one. -/
def add (r : Reading) (anchor : Option String) (node : Node) : NodeId × Reading :=
  let r := match anchor with
    | some name => { r with anchors := Table.set r.anchors name r.graph.size }
    | none => r
  (r.graph.size, { r with graph := r.graph.add node })

/-- Gives a node its content. -/
def fill (r : Reading) (id : NodeId) (content : Content) : Reading :=
  { r with graph := r.graph.fill id content }

/-! ### Properties of a node -/

/-- A tag as it is written, with its handle. -/
abbrev WrittenTag := Option String × String

/-- The anchor and the tag in front of a node, in either order. -/
def properties (r : Reading) : Except Fault (Option String × Option WrittenTag × Reading) := do
  match ← r.look with
  | .anchor name =>
    match ← r.drop.look with
    | .tag handle suffix => return (some name, some (handle, suffix), r.drop.drop)
    | _ => return (some name, none, r.drop)
  | .tag handle suffix =>
    match ← r.drop.look with
    | .anchor name => return (some name, some (handle, suffix), r.drop.drop)
    | _ => return (none, some (handle, suffix), r.drop)
  | _ => return (none, none, r)

/-- The full name of a tag. -/
def tagName (r : Reading) : WrittenTag → Except Fault String
  | (none, suffix) => .ok suffix
  | (some handle, suffix) =>
    match r.handles.lookup handle with
    | some expansion => .ok (expansion ++ suffix)
    | none => .error .malformed

/-- The tag of a node that would have `own` without a written one. A lone `!` leaves it so. -/
def tagOr (own : Tag) : Option String → Tag
  | none => own
  | some name => if name = "!" then own else Tag.ofName name

/-- The tag of a scalar. -/
def scalarTag (text : String) (plain : Bool) : Option String → Tag
  | none => if plain then Tag.ofPlain text else .text
  | some name => if name = "!" then Tag.ofPlain text else Tag.ofName name

/-! ### Nodes -/

/-- Reads a node if the next token starts one, and takes the value as left out if the token is one
of those that stand after it. -/
def nodeUnless (after : List Token) (read : Reading → Except Fault (NodeId × Reading))
    (r : Reading) : Except Fault (NodeId × Reading) := do
  if after.contains (← r.look) then return r.add none Node.omitted else read r

/-- Reads what is in a collection. -/
def inside (r : Reading) (read : Reading → Except Fault (α × Reading)) :
    Except Fault (α × Reading) := do
  if r.opened < maxNesting then
    let (found, r) ← read { r with opened := r.opened + 1 }
    return (found, { r with opened := r.opened - 1 })
  else .error .tooDeep

/-- Adds a sequence and reads its items. -/
def sequence (anchor : Option String) (tag : Tag) (r : Reading)
    (read : Reading → Except Fault (List NodeId × Reading)) : Except Fault (NodeId × Reading) := do
  let (id, r) := r.add anchor ⟨tag, .sequence []⟩
  let (items, r) ← r.inside read
  return (id, r.fill id (.sequence items))

/-- Adds a mapping and reads its pairs. -/
def mapping (anchor : Option String) (tag : Tag) (r : Reading)
    (read : Reading → Except Fault (List NodePair × Reading)) :
    Except Fault (NodeId × Reading) := do
  let (id, r) := r.add anchor ⟨tag, .mapping []⟩
  let (pairs, r) ← r.inside read
  return (id, r.fill id (.mapping pairs))

mutual

/-- The node at the next token. Within brackets (`block` is false) no block may start; where a value
of a mapping is awaited (`unindented`), the items of a sequence may stand unindented. -/
def node : Nat → Bool → Bool → Reading → Except Fault (NodeId × Reading)
  | 0, _, _, _ => .error .malformed
  | fuel + 1, block, unindented, r => do
    if let .alias name := ← r.look then
      match r.anchors.lookup name with
      | some id => return (id, r.drop)
      | none => .error .malformed
    else
      let (anchor, written, r) ← r.properties
      let tag ← written.mapM r.tagName
      let token ← r.look
      if (anchor.bind fun name => r.anchors.lookup name).isSome then .error .malformed
      else
        match token with
        | .scalar text plain =>
          return r.drop.add anchor ⟨scalarTag text plain tag, .scalar text⟩
        | .flowSequenceStart =>
          sequence anchor (tagOr .sequence tag) r.drop (flowItems fuel true)
        | .flowMappingStart => mapping anchor (tagOr .mapping tag) r.drop (flowPairs fuel true)
        | token =>
          if unindented && token = .blockEntry then
            sequence anchor (tagOr .sequence tag) r (unindentedItems fuel)
          else if block && token = .blockSequenceStart then
            sequence anchor (tagOr .sequence tag) r.drop (blockItems fuel)
          else if block && token = .blockMappingStart then
            mapping anchor (tagOr .mapping tag) r.drop (blockPairs fuel)
          else if anchor.isSome || tag.isSome then
            return r.add anchor ⟨tagOr .null tag, .scalar ""⟩
          else .error .malformed

/-- The items of an indented sequence, up to its end. -/
def blockItems : Nat → Reading → Except Fault (List NodeId × Reading)
  | 0, _ => .error .malformed
  | fuel + 1, r => do
    match ← r.look with
    | .blockEntry =>
      let (item, r) ← nodeUnless [.blockEntry, .blockEnd] (node fuel true false) r.drop
      let (items, r) ← blockItems fuel r
      return (item :: items, r)
    | .blockEnd => return ([], r.drop)
    | _ => .error .malformed

/-- The items of a sequence that is not indented. -/
def unindentedItems : Nat → Reading → Except Fault (List NodeId × Reading)
  | 0, _ => .error .malformed
  | fuel + 1, r => do
    match ← r.look with
    | .blockEntry =>
      let (item, r) ←
        nodeUnless [.blockEntry, .key, .value, .blockEnd] (node fuel true false) r.drop
      let (items, r) ← unindentedItems fuel r
      return (item :: items, r)
    | _ => return ([], r)

/-- The value after a key, if a colon stands there. -/
def valueUnless : Nat → Bool → List Token → Reading → Except Fault (NodeId × Reading)
  | 0, _, _, _ => .error .malformed
  | fuel + 1, block, after, r => do
    match ← r.look with
    | .value => nodeUnless after (node fuel block block) r.drop
    | _ => return r.add none Node.omitted

/-- The pairs of an indented mapping, up to its end. -/
def blockPairs : Nat → Reading → Except Fault (List NodePair × Reading)
  | 0, _ => .error .malformed
  | fuel + 1, r => do
    match ← r.look with
    | .key =>
      let (key, r) ← nodeUnless [.key, .value, .blockEnd] (node fuel true true) r.drop
      let (value, r) ← valueUnless fuel true [.key, .value, .blockEnd] r
      let (pairs, r) ← blockPairs fuel r
      return ((key, value) :: pairs, r)
    | .blockEnd => return ([], r.drop)
    | _ => .error .malformed

/-- The items of a sequence in brackets, up to its end. An item that starts with a key is a mapping
of one pair. -/
def flowItems : Nat → Bool → Reading → Except Fault (List NodeId × Reading)
  | 0, _, _ => .error .malformed
  | fuel + 1, first, r => do
    let token ← r.look
    if token = .flowSequenceEnd then return ([], r.drop)
    else if !first && token ≠ .flowEntry then .error .malformed
    else
      let r := if first then r else r.drop
      match ← r.look with
      | .flowSequenceEnd => return ([], r.drop)
      | .key =>
        let (item, r) ← mapping none .mapping r.drop fun r => do
          let (key, r) ← nodeUnless [.value, .flowEntry, .flowSequenceEnd] (node fuel false false) r
          let (value, r) ← valueUnless fuel false [.flowEntry, .flowSequenceEnd] r
          return ([(key, value)], r)
        let (items, r) ← flowItems fuel false r
        return (item :: items, r)
      | _ =>
        let (item, r) ← node fuel false false r
        let (items, r) ← flowItems fuel false r
        return (item :: items, r)

/-- The pairs of a mapping in braces, up to its end. -/
def flowPairs : Nat → Bool → Reading → Except Fault (List NodePair × Reading)
  | 0, _, _ => .error .malformed
  | fuel + 1, first, r => do
    let token ← r.look
    if token = .flowMappingEnd then return ([], r.drop)
    else if !first && token ≠ .flowEntry then .error .malformed
    else
      let r := if first then r else r.drop
      match ← r.look with
      | .flowMappingEnd => return ([], r.drop)
      | .key =>
        let (key, r) ←
          nodeUnless [.value, .flowEntry, .flowMappingEnd] (node fuel false false) r.drop
        let (value, r) ← valueUnless fuel false [.flowEntry, .flowMappingEnd] r
        let (pairs, r) ← flowPairs fuel false r
        return ((key, value) :: pairs, r)
      | _ =>
        let (key, r) ← node fuel false false r
        let (value, r) := r.add none Node.omitted
        let (pairs, r) ← flowPairs fuel false r
        return ((key, value) :: pairs, r)

end

/-! ### Documents -/

/-- The handles that the directives in front of a document define. -/
def directives : List Token → Bool → List (String × String) →
    Except Fault (List (String × String) × List Token)
  | .directive (.version major) :: rest, versioned, handles =>
    if versioned || major ≠ 1 then .error .malformed else directives rest true handles
  | .directive (.tagHandle handle expansion) :: rest, versioned, handles =>
    if (handles.lookup handle).isSome then .error .malformed
    else directives rest versioned (handles ++ [(handle, expansion)])
  | .directive .other :: rest, versioned, handles => directives rest versioned handles
  | tokens, _, handles => .ok (handles ++ commonHandles, tokens)

/-- Reads the document that a stream starts with; `none` if there is none. -/
def document (r : Reading) : Except Fault (Option NodeId × Reading) := do
  let fuel := 4 * r.tokens.length + 8
  match ← r.look with
  | .streamEnd => return (none, r)
  | .directive _ | .documentStart =>
    let (handles, tokens) ← directives r.tokens false []
    let r := { r with tokens := tokens, handles := handles }
    if (← r.look) ≠ .documentStart then .error .malformed
    else
      match ← r.drop.look with
      | .directive _ | .documentStart | .documentEnd | .streamEnd =>
        let (root, r) := r.drop.add none Node.omitted
        return (some root, r)
      | _ =>
        let (root, r) ← node fuel true false r.drop
        return (some root, r)
  | _ =>
    let (root, r) ← node fuel true false { r with handles := commonHandles }
    return (some root, r)

/-- Checks that no second document follows. -/
def finish (r : Reading) : Except Fault Unit := do
  let r := { r with tokens := r.tokens.dropWhile (· = Token.documentEnd) }
  match ← r.look with
  | .streamEnd => return ()
  | _ =>
    let (_, tokens) ← directives r.tokens false []
    let _ ← { r with tokens := tokens }.look
    .error .malformed

end Reading

/-- The one document of a stream of tokens; `none` for a stream without one. -/
def Document.ofTokens (tokens : List Token) : Except Fault (Option Document) := do
  let (root, r) ← Reading.document { tokens := tokens }
  r.finish
  return root.map fun root => ⟨r.graph, root⟩

end VitaeShell.Yaml
