import VitaeShell.Proofs.Fallible
import VitaeShell.Yaml.Document

/-!
# How deep a document is nested

The tokens of a source are read into a document collection by collection. Reading fails where they
make none, where one of them marks a fault, and where collections stand within one another too deep.
For the last there have to be tokens enough that a collection can start with (`openings`): the
reader counts what is open around it, and has passed one of them for each (`Reading.Within`).

## Main results

* `Reading.sound`: every reader ends within the tokens, or in a fault of them.
* `Document.ends_ofTokens`: so does reading a whole document.
-/

namespace VitaeShell.Yaml

/-- Whether a collection can start with a mark. The items of a sequence may stand unindented, and
a pair on its own may be an item in brackets, so a hyphen or a key can start one, too. -/
def Token.opens : Token → Bool
  | .flowSequenceStart | .flowMappingStart | .blockSequenceStart | .blockMappingStart => true
  | .blockEntry | .key => true
  | _ => false

/-- The number of marks that a collection can start with. -/
def openings (tokens : List Token) : Nat :=
  tokens.countP Token.opens

/-- What can be wrong about tokens of which collections may start `height` times within one
another. -/
inductive StreamFault (tokens : List Token) (height : Nat) : Fault → Prop
  | malformed : StreamFault tokens height .malformed
  | marked {fault : Fault} : .unreadable fault ∈ tokens → StreamFault tokens height fault
  | tooDeep : maxNesting < height → StreamFault tokens height .tooDeep

namespace Reading

/-- A reading of tokens **within** which `opened` collections have started, and at most `height` can
start within one another before the tokens end. -/
structure Within (tokens : List Token) (opened height : Nat) (r : Reading) : Prop where
  tokens_suffix : r.tokens <:+ tokens
  opened_eq : r.opened = opened
  opened_le : r.opened + openings r.tokens ≤ height

/-- What is read of tokens ends within them, or in a fault of them. -/
abbrev Reads {α : Type} (tokens : List Token) (opened height : Nat)
    (r : Except Fault (α × Reading)) : Prop :=
  Ends (StreamFault tokens height) (fun found => found.2.Within tokens opened height) r

section

variable {tokens : List Token} {opened height : Nat} {r : Reading}

/-! ### Tokens -/

/-- Looking at the next token finds no nesting that is too deep. -/
theorem Within.look {limit : Nat} (h : r.Within tokens opened height) :
    Ends (StreamFault tokens limit) (fun token => ∃ rest, r.tokens = token :: rest) r.look := by
  rw [Reading.look]
  split
  · exact .error .malformed
  · next fault rest heq =>
      exact .error (.marked (h.tokens_suffix.subset (heq ▸ .head _)))
  · next token rest _ heq => exact .ok ⟨rest, heq⟩

/-- Whatever is left of the tokens is within them. -/
theorem Within.of_suffix {r' : Reading} (h : r.Within tokens opened height)
    (htokens : r'.tokens <:+ r.tokens) (hopened : r'.opened = r.opened) :
    r'.Within tokens opened height where
  tokens_suffix := htokens.trans h.tokens_suffix
  opened_eq := hopened.trans h.opened_eq
  opened_le := by
    have hle : openings r'.tokens ≤ openings r.tokens := htokens.sublist.countP_le
    have hbound := h.opened_le
    omega

/-- To drop a token stays within the tokens. -/
theorem Within.drop (h : r.Within tokens opened height) : r.drop.Within tokens opened height :=
  h.of_suffix (List.drop_suffix 1 _) rfl

/-- So does adding a node. -/
theorem Within.add (h : r.Within tokens opened height) (anchor : Option String) (node : Node) :
    (r.add anchor node).2.Within tokens opened height := by
  cases anchor with
  | none => exact ⟨h.tokens_suffix, h.opened_eq, h.opened_le⟩
  | some name => exact ⟨h.tokens_suffix, h.opened_eq, h.opened_le⟩

/-- So does giving it its content. -/
theorem Within.fill (h : r.Within tokens opened height) (id : NodeId) (content : Content) :
    (r.fill id content).Within tokens opened height :=
  ⟨h.tokens_suffix, h.opened_eq, h.opened_le⟩

/-- A comma is in front of every item but the first. -/
theorem Within.dropUnless (h : r.Within tokens opened height) (first : Bool) :
    (if first then r else r.drop).Within tokens opened height := by
  split
  · exact h
  · exact h.drop

/-- Behind a mark that a collection can start with, one less can start. -/
theorem Within.drop_opened_lt (h : r.Within tokens opened height) {token : Token}
    {rest : List Token} (hr : r.tokens = token :: rest) (htoken : token.opens = true) :
    r.drop.opened + openings r.drop.tokens < height := by
  have hle := h.opened_le
  rw [hr, openings, List.countP_cons_of_pos htoken] at hle
  simp only [Reading.drop, hr, List.drop_one, List.tail_cons, openings]
  omega

/-! ### Properties of a node -/

/-- The properties of a node are read within the tokens. -/
theorem Within.properties (h : r.Within tokens opened height) :
    Ends (StreamFault tokens height) (fun found => found.2.2.Within tokens opened height)
      r.properties := by
  rw [Reading.properties]
  refine h.look.bind fun token _ => ?_
  split
  · refine h.drop.look.bind fun token _ => ?_
    split
    · exact .ok h.drop.drop
    · exact .ok h.drop
  · refine h.drop.look.bind fun token _ => ?_
    split
    · exact .ok h.drop.drop
    · exact .ok h.drop
  · exact .ok h

/-- A tag is resolved, or the stream is at fault. -/
theorem ends_tagName (r : Reading) (written : WrittenTag) :
    Ends (StreamFault tokens height) (fun _ => True) (r.tagName written) := by
  rw [tagName.eq_def]
  split
  · exact .ok trivial
  · split
    · exact .ok trivial
    · exact .error .malformed

/-! ### Collections -/

/-- A node that may be missing is read as one that is there, or is empty. -/
theorem Within.nodeUnless (h : r.Within tokens opened height) (after : List Token)
    {read : Reading → Except Fault (NodeId × Reading)}
    (hread : Reads tokens opened height (read r)) :
    Reads tokens opened height (r.nodeUnless after read) := by
  rw [Reading.nodeUnless]
  exact h.look.bind fun token _ => .ite (fun _ => .ok (h.add _ _)) fun _ => hread

/-- A collection **starts** where there is room for one more, and what is in it may start `inner`
collections. -/
structure Starts (height inner : Nat) (r : Reading) : Prop where
  opened_lt : r.opened < height
  opened_lt_inner : r.opened + openings r.tokens < inner
  inner_le : inner ≤ height + 1

/-- What a reader comes to that reads what is in a collection, one level further down. -/
abbrev ReadsInside {α : Type} (tokens : List Token) (opened height inner : Nat)
    (read : Reading → Except Fault (α × Reading)) : Prop :=
  ∀ r : Reading, r.Within tokens (opened + 1) inner →
    Ends (StreamFault tokens height) (fun found => found.2.Within tokens (opened + 1) inner)
      (read r)

/-- **What is in a collection** is read where there is room for one more. -/
theorem Within.inside {α : Type} {read : Reading → Except Fault (α × Reading)} {inner : Nat}
    (h : r.Within tokens opened height) (hstarts : r.Starts height inner)
    (hread : ReadsInside tokens opened height inner read) :
    Reads tokens opened height (r.inside read) := by
  obtain ⟨hlt, hinner, hle⟩ := hstarts
  have hopened := h.opened_eq
  rw [Reading.inside]
  refine .ite (fun _ => ?_) fun hdeep => .error (.tooDeep (by omega))
  have hdown : { r with opened := r.opened + 1 }.Within tokens (opened + 1) inner :=
    ⟨h.tokens_suffix, by dsimp only; omega, by dsimp only; omega⟩
  refine (hread _ hdown).bind ?_
  rintro ⟨found, last⟩ ⟨hsuffix, hlast, hbound⟩
  dsimp only at hsuffix hlast hbound
  exact .ok ⟨hsuffix, by dsimp only; omega, by dsimp only; omega⟩

/-- A node that is added leaves the room there is. -/
theorem Starts.add {inner : Nat} (h : r.Starts height inner) (anchor : Option String)
    (node : Node) : (r.add anchor node).2.Starts height inner := by
  cases anchor with
  | none => exact ⟨h.opened_lt, h.opened_lt_inner, h.inner_le⟩
  | some name => exact ⟨h.opened_lt, h.opened_lt_inner, h.inner_le⟩

/-- A sequence is read as its items are. -/
theorem Within.sequence {read : Reading → Except Fault (List NodeId × Reading)} {inner : Nat}
    (h : r.Within tokens opened height) (hstarts : r.Starts height inner) (anchor : Option String)
    (tag : Tag) (hread : ReadsInside tokens opened height inner read) :
    Reads tokens opened height (Reading.sequence anchor tag r read) := by
  rw [Reading.sequence]
  exact ((h.add _ _).inside (hstarts.add _ _) hread).bind fun found hfound =>
    .ok (hfound.fill _ _)

/-- A mapping is read as its pairs are. -/
theorem Within.mapping {read : Reading → Except Fault (List NodePair × Reading)} {inner : Nat}
    (h : r.Within tokens opened height) (hstarts : r.Starts height inner) (anchor : Option String)
    (tag : Tag) (hread : ReadsInside tokens opened height inner read) :
    Reads tokens opened height (Reading.mapping anchor tag r read) := by
  rw [Reading.mapping]
  exact ((h.add _ _).inside (hstarts.add _ _) hread).bind fun found hfound =>
    .ok (hfound.fill _ _)

/-- A mark in front of a collection makes room for it. -/
theorem Within.starts_drop (h : r.Within tokens opened height) {token : Token} {rest : List Token}
    (hr : r.tokens = token :: rest) (htoken : token.opens = true) :
    r.drop.Starts height height := by
  have hlt := h.drop_opened_lt hr htoken
  exact ⟨by omega, hlt, Nat.le_succ _⟩

/-- So does a hyphen that is an item's own. -/
theorem Within.starts (h : r.Within tokens opened height) {token : Token} {rest : List Token}
    (hr : r.tokens = token :: rest) (htoken : token.opens = true) :
    r.Starts height (height + 1) := by
  have hle := h.opened_le
  have hpos : 0 < openings r.tokens := by
    rw [hr, openings, List.countP_cons_of_pos htoken]
    omega
  exact ⟨by omega, by omega, Nat.le_refl _⟩

/-! ### Nodes -/

/-- What every reader of nodes, items and pairs comes to, with so much fuel. -/
structure Sound (fuel : Nat) : Prop where
  node : ∀ {tokens opened height r} (block unindented : Bool), Within tokens opened height r →
    Reads tokens opened height (node fuel block unindented r)
  blockItems : ∀ {tokens opened height r}, Within tokens opened height r →
    Reads tokens opened height (blockItems fuel r)
  /-- The hyphen in front of the first item has not been passed when the sequence starts. -/
  unindentedItems : ∀ {tokens opened height r}, Within tokens opened (height + 1) r →
    Ends (StreamFault tokens height) (fun found => found.2.Within tokens opened (height + 1))
      (unindentedItems fuel r)
  valueUnless : ∀ {tokens opened height r} (block : Bool) (after : List Token),
    Within tokens opened height r → Reads tokens opened height (valueUnless fuel block after r)
  blockPairs : ∀ {tokens opened height r}, Within tokens opened height r →
    Reads tokens opened height (blockPairs fuel r)
  flowItems : ∀ {tokens opened height r} (first : Bool), Within tokens opened height r →
    Reads tokens opened height (flowItems fuel first r)
  flowPairs : ∀ {tokens opened height r} (first : Bool), Within tokens opened height r →
    Reads tokens opened height (flowPairs fuel first r)

/-- Without fuel every reader takes the stream for malformed. -/
theorem Sound.zero : Sound 0 := by
  constructor <;> intros <;> exact .error .malformed

/-- **A node**, if what stands further down is sound. -/
theorem Sound.node_succ {fuel : Nat} (h : Sound fuel) (block unindented : Bool)
    (hr : r.Within tokens opened height) :
    Reads tokens opened height (Reading.node (fuel + 1) block unindented r) := by
  rw [Reading.node]
  refine hr.look.bind fun token _ => ?_
  split
  · split
    · exact .ok hr.drop
    · exact .error .malformed
  · refine hr.properties.bind fun ⟨anchor, written, r⟩ hr => ?_
    have htag : Ends (StreamFault tokens height) (fun _ => True) (written.mapM r.tagName) := by
      cases written with
      | none => exact .ok trivial
      | some written => exact (ends_tagName r written).map fun _ _ => trivial
    refine htag.bind fun tag _ => hr.look.bind fun token htoken => ?_
    obtain ⟨rest, hrest⟩ := htoken
    refine .ite (fun _ => .error .malformed) fun _ => ?_
    split
    · exact .ok (hr.drop.add _ _)
    · exact hr.drop.sequence (hr.starts_drop hrest rfl) _ _ fun r' hr' => h.flowItems true hr'
    · exact hr.drop.mapping (hr.starts_drop hrest rfl) _ _ fun r' hr' => h.flowPairs true hr'
    · refine .ite (fun hentry => ?_) fun _ => .ite (fun hstart => ?_) fun _ =>
        .ite (fun hstart => ?_) fun _ => ?_
      · obtain ⟨-, rfl⟩ := by simpa using hentry
        exact hr.sequence (hr.starts hrest rfl) _ _ fun r' hr' => h.unindentedItems hr'
      · obtain ⟨-, rfl⟩ := by simpa using hstart
        exact hr.drop.sequence (hr.starts_drop hrest rfl) _ _ fun r' hr' => h.blockItems hr'
      · obtain ⟨-, rfl⟩ := by simpa using hstart
        exact hr.drop.mapping (hr.starts_drop hrest rfl) _ _ fun r' hr' => h.blockPairs hr'
      · exact .ite (fun _ => .ok (hr.add _ _)) fun _ => .error .malformed

/-- The items of a block, one after the other. -/
theorem Sound.blockItems_succ {fuel : Nat} (h : Sound fuel)
    (hr : r.Within tokens opened height) :
    Reads tokens opened height (Reading.blockItems (fuel + 1) r) := by
  rw [Reading.blockItems]
  refine hr.look.bind fun token _ => ?_
  split
  · refine (hr.drop.nodeUnless _ (h.node _ _ hr.drop)).bind fun ⟨item, r⟩ hr => ?_
    exact (h.blockItems hr).bind fun found hfound => .ok hfound
  · exact .ok hr.drop
  · exact .error .malformed

/-- Items that stand where their key does. -/
theorem Sound.unindentedItems_succ {fuel : Nat} (h : Sound fuel)
    (hr : r.Within tokens opened (height + 1)) :
    Ends (StreamFault tokens height) (fun found => found.2.Within tokens opened (height + 1))
      (Reading.unindentedItems (fuel + 1) r) := by
  rw [Reading.unindentedItems]
  refine hr.look.bind fun token htoken => ?_
  obtain ⟨rest, hrest⟩ := htoken
  split
  · have hdrop : r.drop.Within tokens opened height :=
      ⟨hr.drop.tokens_suffix, hr.drop.opened_eq, Nat.lt_succ_iff.mp (hr.drop_opened_lt hrest rfl)⟩
    refine (hdrop.nodeUnless _ (h.node _ _ hdrop)).bind fun ⟨item, r⟩ hr => ?_
    have hnext : r.Within tokens opened (height + 1) :=
      ⟨hr.tokens_suffix, hr.opened_eq, Nat.le_succ_of_le hr.opened_le⟩
    exact (h.unindentedItems hnext).bind fun found hfound => .ok hfound
  · exact .ok hr

/-- A value that may be missing. -/
theorem Sound.valueUnless_succ {fuel : Nat} (h : Sound fuel) (block : Bool) (after : List Token)
    (hr : r.Within tokens opened height) :
    Reads tokens opened height (Reading.valueUnless (fuel + 1) block after r) := by
  rw [Reading.valueUnless]
  refine hr.look.bind fun token _ => ?_
  split
  · exact hr.drop.nodeUnless _ (h.node _ _ hr.drop)
  · exact .ok (hr.add _ _)

/-- The pairs of a block, one after the other. -/
theorem Sound.blockPairs_succ {fuel : Nat} (h : Sound fuel)
    (hr : r.Within tokens opened height) :
    Reads tokens opened height (Reading.blockPairs (fuel + 1) r) := by
  rw [Reading.blockPairs]
  refine hr.look.bind fun token _ => ?_
  split
  · refine (hr.drop.nodeUnless _ (h.node _ _ hr.drop)).bind fun ⟨key, r⟩ hr => ?_
    refine (h.valueUnless _ _ hr).bind fun ⟨value, r⟩ hr => ?_
    exact (h.blockPairs hr).bind fun found hfound => .ok hfound
  · exact .ok hr.drop
  · exact .error .malformed

/-- The items between brackets. -/
theorem Sound.flowItems_succ {fuel : Nat} (h : Sound fuel) (first : Bool)
    (hr : r.Within tokens opened height) :
    Reads tokens opened height (Reading.flowItems (fuel + 1) first r) := by
  rw [Reading.flowItems]
  refine hr.look.bind fun token _ => ?_
  refine .ite (fun _ => .ok hr.drop) fun _ => .ite (fun _ => .error .malformed) fun _ => ?_
  extract_lets r'
  have hr' : r'.Within tokens opened height := hr.dropUnless first
  refine hr'.look.bind fun token htoken => ?_
  obtain ⟨rest, hrest⟩ := htoken
  split
  · exact .ok hr'.drop
  · refine (hr'.drop.mapping (hr'.starts_drop hrest rfl) _ _ fun r hr => ?_).bind ?_
    · refine (hr.nodeUnless _ (h.node _ _ hr)).bind fun ⟨key, r⟩ hr => ?_
      exact (h.valueUnless _ _ hr).bind fun found hfound => .ok hfound
    · rintro ⟨item, r⟩ hr
      exact (h.flowItems _ hr).bind fun found hfound => .ok hfound
  · refine (h.node _ _ hr').bind fun ⟨item, r⟩ hr => ?_
    exact (h.flowItems _ hr).bind fun found hfound => .ok hfound

/-- The pairs between braces. -/
theorem Sound.flowPairs_succ {fuel : Nat} (h : Sound fuel) (first : Bool)
    (hr : r.Within tokens opened height) :
    Reads tokens opened height (Reading.flowPairs (fuel + 1) first r) := by
  rw [Reading.flowPairs]
  refine hr.look.bind fun token _ => ?_
  refine .ite (fun _ => .ok hr.drop) fun _ => .ite (fun _ => .error .malformed) fun _ => ?_
  extract_lets r'
  have hr' : r'.Within tokens opened height := hr.dropUnless first
  refine hr'.look.bind fun token _ => ?_
  split
  · exact .ok hr'.drop
  · refine (hr'.drop.nodeUnless _ (h.node _ _ hr'.drop)).bind fun ⟨key, r⟩ hr => ?_
    refine (h.valueUnless _ _ hr).bind fun ⟨value, r⟩ hr => ?_
    exact (h.flowPairs _ hr).bind fun found hfound => .ok hfound
  · refine (h.node _ _ hr').bind fun ⟨key, r⟩ hr => ?_
    have hadded := h.flowPairs false (hr.add none Node.omitted)
    exact hadded.bind fun found hfound => .ok hfound

/-- **Every reader is sound**, with any amount of fuel. -/
theorem sound (fuel : Nat) : Sound fuel := by
  induction fuel with
  | zero => exact .zero
  | succ fuel ih =>
      exact ⟨ih.node_succ, ih.blockItems_succ, ih.unindentedItems_succ, ih.valueUnless_succ,
        ih.blockPairs_succ, ih.flowItems_succ, ih.flowPairs_succ⟩

/-! ### Documents -/

/-- Directives are read of the marks in front of a document. -/
theorem ends_directives (marks : List Token) (versioned : Bool)
    (handles : List (String × String)) :
    Ends (StreamFault tokens height) (fun found => found.2 <:+ marks)
      (directives marks versioned handles) := by
  fun_induction directives marks versioned handles with
  | case1 | case3 => exact .error .malformed
  | case2 _ _ _ _ _ ih | case4 _ _ _ _ _ _ ih | case5 _ _ _ ih =>
      exact ih.imp (fun _ => id) fun _ hfound => hfound.trans (List.suffix_cons _ _)
  | case6 => exact .ok List.suffix_rfl

/-- A document is read of the tokens, or the stream is at fault. -/
theorem ends_document (tokens : List Token) :
    Ends (StreamFault tokens (openings tokens))
      (fun found => found.2.Within tokens 0 (openings tokens))
      (document { tokens := tokens }) := by
  have hr : Within tokens 0 (openings tokens) { tokens := tokens } :=
    ⟨List.suffix_rfl, rfl, Nat.le_of_eq (Nat.zero_add _)⟩
  unfold document
  extract_lets fuel
  have hbare : Within tokens 0 (openings tokens) { tokens := tokens, handles := commonHandles } :=
    hr.of_suffix List.suffix_rfl rfl
  refine hr.look.bind fun token _ => ?_
  split
  case h_1 => exact .ok hr
  case h_4 =>
    exact ((sound fuel).node true false hbare).bind fun found hfound => .ok hfound
  case h_2 | h_3 =>
    -- the marks in front of the document count as well
    refine (ends_directives _ _ _).bind fun ⟨handles, rest⟩ hrest => ?_
    have hr : Within tokens 0 (openings tokens) { tokens := rest, handles := handles } :=
      hr.of_suffix hrest rfl
    refine hr.look.bind fun token _ => .ite (fun _ => .error .malformed) fun _ => ?_
    refine hr.drop.look.bind fun token _ => ?_
    split
    case h_5 =>
      exact ((sound fuel).node true false hr.drop).bind fun found hfound => .ok hfound
    all_goals exact .ok (hr.drop.add none Node.omitted)

/-- Behind a document the stream ends, or it is at fault. -/
theorem ends_finish (hr : r.Within tokens opened height) :
    Ends (StreamFault tokens height) (fun _ => .streamEnd ∈ tokens) r.finish := by
  unfold finish
  extract_lets r'
  have hr' : r'.Within tokens opened height := hr.of_suffix (List.dropWhile_suffix _) rfl
  refine hr'.look.bind fun token htoken => ?_
  obtain ⟨rest, hrest⟩ := htoken
  split
  · exact .ok (hr'.tokens_suffix.subset (hrest ▸ .head _))
  · refine (ends_directives _ _ _).bind fun ⟨handles, rest⟩ hrest => ?_
    have hr'' : { r' with tokens := rest }.Within tokens opened height := hr'.of_suffix hrest rfl
    exact hr''.look.bind fun _ _ => .error .malformed

end

end Reading

/-- **The document of a stream** is read up to the end of the stream. It fails to be read only for a
fault that its tokens mark, or for more marks that collections can start with than may stand within
one another. -/
theorem Document.ends_ofTokens (tokens : List Token) :
    Ends (StreamFault tokens (openings tokens)) (fun _ => .streamEnd ∈ tokens)
      (Document.ofTokens tokens) := by
  rw [ofTokens]
  refine (Reading.ends_document tokens).bind fun ⟨root, r⟩ hr => ?_
  exact (Reading.ends_finish hr).bind fun _ hend => .ok hend

end VitaeShell.Yaml
