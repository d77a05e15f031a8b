import VitaeShell.Yaml.Datum
import VitaeShell.Yaml.Document
import VitaeShell.Text.Base64
import VitaeShell.Text.Casing

/-!
# From nodes to values

`Yaml.read` gives the value of a source, and `Document.value` that of a document. A node has one
value, which is made when the node is first met. What a collection holds is read in the order in
which collections are met, so that of several faults the outermost is reported, and of several at
one depth the first. When a mapping is read it takes in what it merges, which later uses of its node
see.
-/

namespace VitaeShell.Yaml

/-! ### Scalars -/

/-- The node of the key `=` in a mapping: that of its value. -/
def Graph.standIn? (g : Graph) (pairs : List NodePair) : Option NodeId :=
  (pairs.find? fun pair => g.tag pair.1 = .value).map (·.2)

/-- The text of a scalar; a mapping stands for the value of its key `=`, which `depth` mappings can
do one after the other. One that comes back to itself in this way goes too deep. -/
def Graph.textFrom (g : Graph) : Nat → NodeId → Except Fault String
  | 0, _ => .error .tooDeep
  | depth + 1, id =>
    match (g.node id).content with
    | .scalar text => .ok text
    | .sequence _ => .error .malformed
    | .mapping pairs =>
      match g.standIn? pairs with
      | some value => textFrom g depth value
      | none => .error .malformed

/-- The text that a node stands for. -/
def Graph.text (g : Graph) (id : NodeId) : Except Fault String :=
  g.textFrom maxDetours id

/-- The truth values by name. -/
def truthValues : List (String × Bool) :=
  [("yes", true), ("no", false), ("true", true), ("false", false), ("on", true), ("off", false)]

/-- The truth value with a name in any case. -/
def truthValue (text : String) : Except Fault Bool :=
  match truthValues.lookup (Text.lowercase text) with
  | some value => .ok value
  | none => .error .unknownTruthValue

/-- A whole number in a base. -/
def wholeIn (base : Nat) (cs : List Char) : Except Fault Int :=
  match Numeral.intIn? base (String.ofList cs) with
  | some value => .ok value
  | none => .error .badValue

/-- The characters of a number without the underscores. -/
def withoutSpacers (text : String) : List Char :=
  text.toList.filter (· ≠ '_')

/-- A whole number in base two, eight, ten, sixteen or sixty. -/
def wholeNumber (text : String) : Except Fault Int := do
  let cs := withoutSpacers text
  let sign : Int := if cs.head? = some '-' then -1 else 1
  let magnitude ←
    match Tag.unsigned cs with
    | [] => .error .emptyNumeral
    | ['0'] => .ok 0
    | '0' :: 'b' :: digits => wholeIn 2 digits
    | '0' :: 'x' :: digits => wholeIn 16 digits
    | '0' :: digits => wholeIn 8 ('0' :: digits)
    | digits =>
      if digits.contains ':' then do
        let parts ← (digits.splitOn ':').mapM (wholeIn 10)
        pure (parts.foldl (fun acc part => acc * 60 + part) 0)
      else wholeIn 10 digits
  return sign * magnitude

/-- A floating-point number in decimal. -/
def decimal (cs : List Char) : Except Fault Binary64 :=
  match Numeral.float? (String.ofList cs) with
  | some value => .ok value
  | none => .error .badValue

/-- The sum of parts in base sixty, the last one first, each rounded as it is added. -/
def sixtieths (total : Binary64) (weight : Nat) : List Binary64 → Except Fault Binary64
  | [] => .ok total
  | part :: rest =>
    match Binary64.ofInt weight with
    | .infinite _ => .error .valueTooLarge
    | scale => sixtieths (total.add (part.mul scale)) (weight * 60) rest

/-- A floating-point number in decimal or in base sixty, or an infinity. -/
def floatNumber (text : String) : Except Fault Binary64 := do
  let cs := Text.lower (withoutSpacers text)
  let body := Tag.unsigned cs
  if cs.isEmpty then .error .emptyNumeral
  else
    let magnitude ←
      if body = ".inf".toList then pure (Binary64.infinite false)
      else if body.contains ':' then do
        let parts ← (body.splitOn ':').mapM decimal
        sixtieths (.zero false) 1 parts.reverse
      else decimal body
    return if cs.head? = some '-' then magnitude.neg else magnitude

/-- Bytes written in base 64. -/
def binary (text : String) : Except Fault (List UInt8) :=
  if text.toList.all (·.toNat < 0x80) then
    match Text.base64? text.toList with
    | some bytes => .ok bytes
    | none => .error .malformed
  else .error .malformed

/-- The value of a node that is a floating-point number. All the nodes written `.nan` have one
value, but what else turns out to be no number has a value of its own. -/
def floatDatum (id : NodeId) (text : String) : Except Fault Datum :=
  if Tag.unsigned (Text.lower (withoutSpacers text)) = ".nan".toList then .ok (.float .nan)
  else do
    match ← floatNumber text with
    | .nan => return .nan id
    | value => return .float value

/-- The point in time that a node stands for, which has to be a scalar itself. -/
def Graph.moment (g : Graph) (id : NodeId) : Except Fault Moment := do
  let text ← g.text id
  match (g.node id).content with
  | .scalar _ => Moment.ofText text
  | _ => .error .timestampOfMapping

/-- The value of a node that is no collection. -/
def Graph.scalarDatum (g : Graph) (id : NodeId) : Except Fault Datum :=
  match g.tag id with
  | .null => do
    let _ ← g.text id
    return .null
  | .bool => do return .bool (← truthValue (← g.text id))
  | .int => do return .int (← wholeNumber (← g.text id))
  | .float => do floatDatum id (← g.text id)
  | .binary => do return .bytes (← binary (← g.text id))
  | .timestamp => do return .moment (← g.moment id)
  | .text => do return .text (← g.text id)
  | _ => .error .malformed

/-! ### Collections -/

/-- A document on the way to its value. -/
structure Construction where
  graph : Graph
  /-- The values made so far, each in the place of its node. -/
  made : Array (Option Datum)
  /-- What is in the collections read so far, each in the place of its node. -/
  collections : Array Collection
  /-- The collections that are still to be read, the one met last in front. -/
  waiting : List NodeId := []

namespace Construction

/-- A document of which nothing has been met. -/
def ofGraph (graph : Graph) : Construction where
  graph := graph
  made := Array.replicate graph.size none
  collections := Array.replicate graph.size (.list [])

/-- The value of a node, a collection being read later. -/
def meet (c : Construction) (id : NodeId) : Except Fault (Datum × Construction) :=
  match c.made[id]? with
  | some (some datum) => .ok (datum, c)
  | _ => do
    let isCollection := (c.graph.tag id).isCollection
    let datum ← if isCollection then pure (Datum.collection id) else c.graph.scalarDatum id
    return (datum, { c with
      made := c.made.setIfInBounds id (some datum)
      waiting := if isCollection then id :: c.waiting else c.waiting })

/-- The values of nodes, in their order. -/
def meetAll (c : Construction) : List NodeId → Except Fault (List Datum × Construction)
  | [] => .ok ([], c)
  | id :: rest => do
    let (datum, c) ← c.meet id
    let (data, c) ← c.meetAll rest
    return (datum :: data, c)

/-- The entries that pairs make. A collection is no key. -/
def meetEntries (c : Construction) :
    List NodePair → Except Fault (List (Datum × Datum) × Construction)
  | [] => .ok ([], c)
  | (key, value) :: rest => do
    match ← c.meet key with
    | (.collection _, _) => .error .malformed
    | (key, c) =>
      let (value, c) ← c.meet value
      let (entries, c) ← c.meetEntries rest
      return ((key, value) :: entries, c)

/-- The parts of an ordered mapping, each of which is a mapping of a single pair. -/
def meetPairs (c : Construction) : List NodeId → Except Fault (List Datum × Construction)
  | [] => .ok ([], c)
  | id :: rest => do
    match (c.graph.node id).content with
    | .mapping [(key, value)] =>
      let (key, c) ← c.meet key
      let (value, c) ← c.meet value
      let (parts, c) ← c.meetPairs rest
      return (.pair key value :: parts, c)
    | _ => .error .malformed

/-- The entries of a mapping, with what is merged into it. -/
def entries (c : Construction) (id : NodeId) :
    Except Fault (List (Datum × Datum) × Construction) := do
  match (c.graph.node id).content with
  | .mapping _ =>
    let graph ← c.graph.flatten id
    let (found, c) ← { c with graph := graph }.meetEntries (graph.pairs id)
    return (Datum.ofSettings found, c)
  | _ => .error .malformed

/-- What is in a collection. -/
def contents (c : Construction) (id : NodeId) : Except Fault (Collection × Construction) := do
  match c.graph.tag id, (c.graph.node id).content with
  | .sequence, .sequence items =>
    let (items, c) ← c.meetAll items
    return (.list items, c)
  | .orderedMap, .sequence items | .pairs, .sequence items =>
    let (parts, c) ← c.meetPairs items
    return (.list parts, c)
  | .mapping, _ =>
    let (entries, c) ← c.entries id
    return (.mapping entries, c)
  | .set, _ =>
    let (entries, c) ← c.entries id
    return (.set (entries.map (·.1)), c)
  | _, _ => .error .malformed

/-- Reads a collection. -/
def read (c : Construction) (id : NodeId) : Except Fault Construction := do
  let (found, c) ← c.contents id
  return { c with collections := c.collections.setIfInBounds id found }

/-- Reads the collections that wait, and then those that were met meanwhile. As every node is met
once, there are at most as many rounds as nodes. -/
def readAll : Nat → Construction → Except Fault Construction
  | 0, c => .ok c
  | rounds + 1, c =>
    if c.waiting.isEmpty then .ok c
    else do readAll rounds (← c.waiting.reverse.foldlM read { c with waiting := [] })

end Construction

/-- The value of a document. -/
def Document.value (document : Document) : Except Fault Value := do
  let (datum, c) ← (Construction.ofGraph document.graph).meet document.root
  let c ← c.readAll document.graph.size
  return ⟨datum, c.collections⟩

/-- The value of a YAML source, which is null for one without a document. -/
def read (source : Text.Source) : Except Fault Value := do
  match ← Document.ofTokens (tokens source) with
  | some document => document.value
  | none => return { datum := .null }

end VitaeShell.Yaml
