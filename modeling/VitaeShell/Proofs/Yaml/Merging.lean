import VitaeShell.Proofs.Fallible
import VitaeShell.Yaml.Graph

/-!
# What merging leaves of a document

Mappings are merged in place, so that a document changes while it is read. Little of it does
(`Descends`): a mapping may get pairs of other mappings, but no key `<<` and no key `=` that it has
not had from the start; a key `=` may become a text; everything else stays. What is said about the
keys of the document that was written can thus be said at any time.

Mappings that are merged into one another lead on through keys `<<` (`Detour`), which merging
follows no further than `maxDetours`.

## Main results

* `ends_flattenFrom`: a document that has been merged into descends from the one before, and the
  mapping that was merged into has no key `<<` or `=` left.
* `ends_flatten`: merging fails only for too long a detour, if the document is not malformed.
-/

namespace VitaeShell.Yaml.Graph

/-! ### Detours -/

/-- A mapping **leads on** through a key of a tag, to the value of that key. Through a key `<<` it
also leads on to the items of a list. -/
inductive LeadsOn (g : Graph) (tag : Tag) (id : NodeId) : NodeId → Prop
  | value {pairs : List NodePair} {pair : NodePair} : (g.node id).content = .mapping pairs →
      pair ∈ pairs → g.tag pair.1 = tag → LeadsOn g tag id pair.2
  | item {pairs : List NodePair} {pair : NodePair} {items : List NodeId} {item : NodeId} :
      (g.node id).content = .mapping pairs → pair ∈ pairs → g.tag pair.1 = tag → tag = .merge →
      (g.node pair.2).content = .sequence items → item ∈ items → LeadsOn g tag id item

/-- A **detour** from a node: so many steps through keys of a tag, each from where the one before
leads. -/
inductive Detour (g : Graph) (tag : Tag) : Nat → NodeId → Prop
  | stay (id : NodeId) : Detour g tag 0 id
  | step {n : Nat} {id next : NodeId} : g.LeadsOn tag id next → Detour g tag n next →
      Detour g tag (n + 1) id

/-! ### Changing a node -/

section

variable {g : Graph} {id other : NodeId}

/-- Content that is given to a node changes no tag. -/
theorem tag_fill (g : Graph) (id other : NodeId) (content : Content) :
    (g.fill id content).tag other = g.tag other := by
  simp only [tag, node, fill, Array.getElem?_modify]
  split
  · cases g.nodes[other]? <;> rfl
  · rfl

/-- Nor does it change what other nodes hold. -/
theorem content_fill_of_ne (h : other ≠ id) (content : Content) :
    ((g.fill id content).node other).content = (g.node other).content := by
  simp only [node, fill, Array.getElem?_modify, if_neg h.symm]

/-- A mapping is a node of its document, and has the content that it gets. -/
theorem content_fill_self {pairs : List NodePair} (h : (g.node id).content = .mapping pairs)
    (content : Content) : ((g.fill id content).node id).content = content := by
  simp only [node, fill, Array.getElem?_modify, if_pos] at h ⊢
  cases hnode : g.nodes[id]? with
  | none =>
      rw [hnode] at h
      cases h
  | some node => rfl

/-- Another tag changes no content. -/
theorem content_retag (g : Graph) (id other : NodeId) (tag : Tag) :
    ((g.retag id tag).node other).content = (g.node other).content := by
  simp only [node, retag, Array.getElem?_modify]
  split
  · cases g.nodes[other]? <;> rfl
  · rfl

/-- Nor does it change the tags of other nodes. -/
theorem tag_retag_of_ne (h : other ≠ id) (tag : Tag) :
    (g.retag id tag).tag other = g.tag other := by
  simp only [Graph.tag, node, retag, Array.getElem?_modify, if_neg h.symm]

/-- A node whose tag was not left out has the tag that it gets. -/
theorem tag_retag_self (h : g.tag id ≠ .null) (tag : Tag) : (g.retag id tag).tag id = tag := by
  simp only [Graph.tag, node, retag, Array.getElem?_modify, if_pos] at h ⊢
  cases hnode : g.nodes[id]? with
  | none =>
      rw [hnode] at h
      exact absurd rfl h
  | some node => rfl

/-! ### Descent -/

/-- A key `<<` or a key `=`, which stands for something else. -/
def IsDetour (g : Graph) (key : NodeId) : Prop :=
  g.tag key = .merge ∨ g.tag key = .value

/-- What becomes of the content of a node: a mapping gets no keys that stand for something else. -/
inductive Keeps (isDetour : NodeId → Prop) : Content → Content → Prop
  | scalar (text : String) : Keeps isDetour (.scalar text) (.scalar text)
  | sequence (items : List NodeId) : Keeps isDetour (.sequence items) (.sequence items)
  | mapping {before after : List NodePair} :
      (∀ pair ∈ after, isDetour pair.1 → pair ∈ before) →
      Keeps isDetour (.mapping before) (.mapping after)

/-- A document **descends** from one of which less has been merged. -/
structure Descends (g g' : Graph) : Prop where
  tag_cases : ∀ id, g'.tag id = g.tag id ∨ g.tag id = .value ∧ g'.tag id = .text
  keeps : ∀ id, Keeps g'.IsDetour (g.node id).content (g'.node id).content

variable {g' g'' : Graph}

theorem Keeps.refl (isDetour : NodeId → Prop) (content : Content) :
    Keeps isDetour content content := by
  cases content with
  | scalar text => exact .scalar text
  | sequence items => exact .sequence items
  | mapping pairs => exact .mapping fun pair hpair _ => hpair

theorem Descends.refl (g : Graph) : g.Descends g :=
  ⟨fun _ => .inl rfl, fun _ => .refl _ _⟩

/-- A key that stands for something else has done so from the start. -/
theorem Descends.tag_eq (h : g.Descends g') {key : NodeId} (hkey : g'.IsDetour key) :
    g'.tag key = g.tag key := by
  rcases h.tag_cases key with hsame | ⟨-, htext⟩
  · exact hsame
  · rcases hkey with hmerge | hvalue
    · rw [htext] at hmerge
      cases hmerge
    · rw [htext] at hvalue
      cases hvalue

/-- A key that stands for something else did so before. -/
theorem Descends.isDetour (h : g.Descends g') {key : NodeId} (hkey : g'.IsDetour key) :
    g.IsDetour key := by
  have htag := h.tag_eq hkey
  rwa [IsDetour, htag] at hkey

/-- What descends from a descendant is a descendant. -/
theorem Descends.trans (h : g.Descends g') (h' : g'.Descends g'') : g.Descends g'' where
  tag_cases id := by
    rcases h'.tag_cases id with hsame | ⟨hvalue, htext⟩
    · rw [hsame]
      exact h.tag_cases id
    · rcases h.tag_cases id with hsame | ⟨-, htext'⟩
      · exact .inr ⟨hsame ▸ hvalue, htext⟩
      · rw [htext'] at hvalue
        cases hvalue
  keeps id := by
    have hkeeps := h.keeps id
    have hkeeps' := h'.keeps id
    generalize (g.node id).content = first at hkeeps
    generalize (g'.node id).content = second at hkeeps hkeeps'
    generalize (g''.node id).content = third at hkeeps'
    cases hkeeps with
    | scalar text =>
        cases hkeeps'
        exact .scalar text
    | sequence items =>
        cases hkeeps'
        exact .sequence items
    | mapping hpairs =>
        cases hkeeps' with
        | mapping hpairs' =>
            exact .mapping fun pair hpair hdetour =>
              hpairs pair (hpairs' pair hpair hdetour) (h'.isDetour hdetour)

/-! ### Looking back -/

/-- A text has been that text from the start. -/
theorem Descends.scalar_eq (h : g.Descends g') {text : String}
    (htext : (g'.node id).content = .scalar text) : (g.node id).content = .scalar text := by
  have hkeeps := h.keeps id
  rw [htext] at hkeeps
  generalize (g.node id).content = content at hkeeps
  cases hkeeps
  rfl

/-- A list has had these items from the start. -/
theorem Descends.sequence_eq (h : g.Descends g') {items : List NodeId}
    (hitems : (g'.node id).content = .sequence items) : (g.node id).content = .sequence items := by
  have hkeeps := h.keeps id
  rw [hitems] at hkeeps
  generalize (g.node id).content = content at hkeeps
  cases hkeeps
  rfl

/-- A mapping has been one from the start, with all keys that stand for something else. -/
theorem Descends.exists_mapping (h : g.Descends g') {pairs : List NodePair}
    (hpairs : (g'.node id).content = .mapping pairs) :
    ∃ before, (g.node id).content = .mapping before ∧
      ∀ pair ∈ pairs, g'.IsDetour pair.1 → pair ∈ before := by
  have hkeeps := h.keeps id
  rw [hpairs] at hkeeps
  generalize (g.node id).content = content at hkeeps
  cases hkeeps with
  | mapping hbefore => exact ⟨_, rfl, hbefore⟩

/-- A mapping stays one. -/
theorem Descends.exists_mapping_after (h : g.Descends g') {pairs : List NodePair}
    (hpairs : (g.node id).content = .mapping pairs) :
    ∃ after, (g'.node id).content = .mapping after := by
  have hkeeps := h.keeps id
  rw [hpairs] at hkeeps
  generalize (g'.node id).content = content at hkeeps
  cases hkeeps
  exact ⟨_, rfl⟩

/-- What a key stands for, it has stood for from the start. -/
theorem Descends.leadsOn (h : g.Descends g') {tag : Tag} (htag : tag = .merge ∨ tag = .value)
    {next : NodeId} (hleads : g'.LeadsOn tag id next) : g.LeadsOn tag id next := by
  cases hleads with
  | @value pairs pair hpairs hpair hkey =>
      obtain ⟨before, hbefore, hmem⟩ := h.exists_mapping hpairs
      have hdetour : g'.IsDetour pair.1 := by rwa [IsDetour, hkey]
      exact .value hbefore (hmem _ hpair hdetour) (by rw [← h.tag_eq hdetour, hkey])
  | @item pairs pair items item hpairs hpair hkey hmerge hitems hitem =>
      obtain ⟨before, hbefore, hmem⟩ := h.exists_mapping hpairs
      have hdetour : g'.IsDetour pair.1 := by rwa [IsDetour, hkey]
      exact .item hbefore (hmem _ hpair hdetour) (by rw [← h.tag_eq hdetour, hkey]) hmerge
        (h.sequence_eq hitems) hitem

/-! ### Merging -/

/-- A mapping gets other pairs, but no keys that stand for something else. -/
theorem descends_fill {before after : List NodePair}
    (hid : (g.node id).content = .mapping before)
    (hafter : ∀ pair ∈ after, g.IsDetour pair.1 → pair ∈ before) :
    g.Descends (g.fill id (.mapping after)) where
  tag_cases other := .inl (tag_fill g id other _)
  keeps other := by
    by_cases hother : other = id
    · subst hother
      rw [content_fill_self hid, hid]
      refine .mapping fun pair hpair hdetour => hafter pair hpair ?_
      rwa [IsDetour, tag_fill] at hdetour
    · rw [content_fill_of_ne hother]
      exact .refl _ _

/-- A key `=` becomes a text. -/
theorem descends_retag (hid : g.tag id = .value) : g.Descends (g.retag id .text) where
  tag_cases other := by
    by_cases hother : other = id
    · subst hother
      exact .inr ⟨hid, tag_retag_self (by rw [hid]; decide) _⟩
    · exact .inl (tag_retag_of_ne hother _)
  keeps other := by
    rw [content_retag]
    exact .refl _ _

/-- Where keys `=` become texts, a document descends, holds what it held, and has no such key among
the pairs. -/
theorem descends_settleKeys (g : Graph) (pairs : List NodePair) :
    g.Descends (g.settleKeys pairs) ∧
      (∀ other, ((g.settleKeys pairs).node other).content = (g.node other).content) ∧
      ∀ pair ∈ pairs, (g.settleKeys pairs).tag pair.1 ≠ .value := by
  induction pairs generalizing g with
  | nil => exact ⟨.refl g, fun _ => rfl, by simp⟩
  | cons pair pairs ih =>
      rw [settleKeys, List.foldl_cons, ← settleKeys]
      set g' := if g.tag pair.1 = .value then g.retag pair.1 .text else g with hg'
      obtain ⟨hdescends, hcontent, hpairs⟩ := ih g'
      have hfirst : g.Descends g' ∧ (∀ other, (g'.node other).content = (g.node other).content) ∧
          g'.tag pair.1 ≠ .value := by
        rw [hg']
        split
        · next hvalue =>
            refine ⟨descends_retag hvalue, fun other => content_retag g _ other _, ?_⟩
            rw [tag_retag_self (by rw [hvalue]; decide)]
            decide
        · next hvalue => exact ⟨.refl g, fun _ => rfl, hvalue⟩
      refine ⟨hfirst.1.trans hdescends, fun other => (hcontent other).trans (hfirst.2.1 other), ?_⟩
      refine List.forall_mem_cons.mpr ⟨fun hvalue => hfirst.2.2 ?_, hpairs⟩
      rw [← hvalue, hdescends.tag_eq (.inr hvalue)]

/-- The key `<<` that is taken out stands in the mapping, and so does all that is left. -/
theorem exists_of_takeMerge? {pairs others : List NodePair} {value : NodeId}
    (h : g.takeMerge? pairs = some (value, others)) :
    (∃ key, (key, value) ∈ pairs ∧ g.tag key = .merge) ∧ others ⊆ pairs := by
  induction pairs generalizing value others with
  | nil => cases h
  | cons pair pairs ih =>
      rw [takeMerge?] at h
      split at h
      · next hkey =>
          cases h
          exact ⟨⟨pair.1, .head _, hkey⟩, List.subset_cons_self _ _⟩
      · obtain ⟨⟨found, rest⟩, hfound, hsame⟩ := Option.map_eq_some_iff.mp h
        cases hsame
        obtain ⟨⟨key, hmem, hkey⟩, hrest⟩ := ih hfound
        exact ⟨⟨key, .tail _ hmem, hkey⟩, List.cons_subset_cons _ hrest⟩

/-- Where no key `<<` can be taken out, there is none. -/
theorem tag_ne_of_takeMerge? {pairs : List NodePair} (h : g.takeMerge? pairs = none) :
    ∀ pair ∈ pairs, g.tag pair.1 ≠ .merge := by
  induction pairs with
  | nil => simp
  | cons pair pairs ih =>
      rw [takeMerge?] at h
      split at h
      · cases h
      · next hkey => exact List.forall_mem_cons.mpr ⟨hkey, ih (Option.map_eq_none_iff.mp h)⟩

end

/-- Pairs without a key that stands for something else. -/
def Settled (g : Graph) (pairs : List NodePair) : Prop :=
  ∀ pair ∈ pairs, ¬g.IsDetour pair.1

/-- Pairs stay settled in whatever descends. -/
theorem Settled.of_descends {g g' : Graph} {pairs : List NodePair} (h : g.Settled pairs)
    (hdescends : g.Descends g') : g'.Settled pairs :=
  fun pair hpair hdetour => h pair hpair (hdescends.isDetour hdetour)

/-- Where merging goes wrong: the document is malformed, or a detour from the mapping is longer than
merging can follow it. -/
inductive MergeFault (g : Graph) (depth : Nat) (id : NodeId) : Fault → Prop
  | malformed : MergeFault g depth id .malformed
  | tooDeep : g.Detour .merge (depth + 1) id → MergeFault g depth id .tooDeep

/-- What merging into a mapping comes to, in a document that descends from the one that was
written. -/
abbrev Merges (g₀ g : Graph) (depth : Nat) (id : NodeId) (r : Except Fault Graph) : Prop :=
  Ends (g₀.MergeFault depth id) (fun g' => g.Descends g' ∧ g'.Settled (g'.pairs id)) r

section

variable {g₀ g : Graph} {id : NodeId}

/-- The pairs of a mapping are those it holds. -/
theorem pairs_of_content {pairs : List NodePair} (h : (g.node id).content = .mapping pairs) :
    g.pairs id = pairs := by
  rw [Graph.pairs, h]

/-- Where every key `<<` has been taken out, what was found takes its place. -/
theorem merges_last {pairs found : List NodePair} (hid : (g.node id).content = .mapping pairs)
    (hnone : g.takeMerge? (g.pairs id) = none) (hfound : g.Settled found) (depth : Nat) :
    Merges g₀ g depth id
      (.ok ((g.settleKeys (g.pairs id)).fill id (.mapping (found ++ g.pairs id)))) := by
  obtain ⟨hdescends, hcontent, hvalue⟩ := descends_settleKeys g (g.pairs id)
  have hmerge := tag_ne_of_takeMerge? hnone
  set g' := g.settleKeys (g.pairs id)
  have hown : g'.Settled (g.pairs id) := by
    rintro pair hpair (htag | htag)
    · exact hmerge pair hpair (by rw [← hdescends.tag_eq (.inl htag), htag])
    · exact hvalue pair hpair htag
  have hall : g'.Settled (found ++ g.pairs id) :=
    List.forall_mem_append.mpr ⟨hfound.of_descends hdescends, hown⟩
  have hfill : g'.Descends (g'.fill id (.mapping (found ++ g.pairs id))) :=
    descends_fill ((hcontent id).trans hid) fun pair hpair hdetour =>
      absurd hdetour (hall pair hpair)
  refine .ok ⟨hdescends.trans hfill, ?_⟩
  rw [pairs_of_content (content_fill_self ((hcontent id).trans hid) _)]
  exact hall.of_descends hfill

/-- The mappings that are merged, each once it has been merged into itself. -/
theorem ends_flattenAll {F : Fault → Prop} {flatten : Graph → NodeId → Except Fault Graph}
    (hF : F .malformed) {ids : List NodeId}
    (hflatten : ∀ next ∈ ids, ∀ g', g.Descends g' →
      (∃ pairs, (g'.node next).content = .mapping pairs) →
      Ends F (fun g'' => g'.Descends g'' ∧ g''.Settled (g''.pairs next)) (flatten g' next)) :
    Ends F (fun found => g.Descends found.2 ∧ ∀ pairs ∈ found.1, found.2.Settled pairs)
      (flattenAll flatten g ids) := by
  induction ids generalizing g with
  | nil => exact .ok ⟨.refl g, by simp⟩
  | cons first ids ih =>
      rw [flattenAll]
      split
      · next pairs hpairs =>
          refine (hflatten first (.head _) g (.refl g) ⟨pairs, hpairs⟩).bind fun g' hg' => ?_
          have hrest := ih fun next hnext g'' hg'' =>
            hflatten next (.tail _ hnext) g'' (hg'.1.trans hg'')
          refine hrest.bind ?_
          rintro ⟨others, after⟩ ⟨hafter, hothers⟩
          exact .ok ⟨hg'.1.trans hafter,
            List.forall_mem_cons.mpr ⟨hg'.2.of_descends hafter, hothers⟩⟩
      · exact .error hF

/-- What a key `<<` stands for: one mapping, or those of a list. -/
theorem ends_sources {F : Fault → Prop} {flatten : Graph → NodeId → Except Fault Graph}
    (hF : F .malformed) {value : NodeId}
    (hflatten : ∀ next, (next = value ∨
        ∃ items, (g.node value).content = .sequence items ∧ next ∈ items) →
      ∀ g', g.Descends g' → (∃ pairs, (g'.node next).content = .mapping pairs) →
        Ends F (fun g'' => g'.Descends g'' ∧ g''.Settled (g''.pairs next)) (flatten g' next)) :
    Ends F (fun found => g.Descends found.2 ∧ found.2.Settled found.1)
      (sources flatten g value) := by
  unfold sources
  extract_lets ids
  have hids : ∀ next ∈ ids, next = value ∨
      ∃ items, (g.node value).content = .sequence items ∧ next ∈ items := by
    intro next hnext
    unfold ids at hnext
    split at hnext
    · next items hitems => exact .inr ⟨items, hitems, hnext⟩
    · exact .inl (List.mem_singleton.mp hnext)
  refine (ends_flattenAll hF fun next hnext => hflatten next (hids next hnext)).bind ?_
  rintro ⟨found, g'⟩ ⟨hdescends, hsettled⟩
  refine .ok ⟨hdescends, fun pair hpair => ?_⟩
  obtain ⟨pairs, hpairs, hmem⟩ := List.mem_flatten.mp hpair
  exact hsettled pairs (List.mem_reverse.mp hpairs) pair hmem

/-- **Merging into a mapping.** The document that is left descends from the one before, and no key
of the mapping stands for something else. -/
theorem ends_flattenFrom {found : List NodePair} (hg : g₀.Descends g)
    (hid : ∃ pairs, (g.node id).content = .mapping pairs) (hfound : g.Settled found)
    (fuel depth : Nat) : Merges g₀ g depth id (flattenFrom fuel depth found g id) := by
  induction fuel generalizing depth found g id with
  | zero => exact .error .malformed
  | succ fuel ih =>
      obtain ⟨pairs, hpairs⟩ := hid
      rw [flattenFrom]
      split
      · next hnone => exact merges_last hpairs hnone hfound depth
      · next value others hsome =>
          rw [pairs_of_content hpairs] at hsome
          obtain ⟨⟨key, hmem, hkey⟩, hothers⟩ := exists_of_takeMerge? hsome
          have hvalue : g₀.LeadsOn .merge id value :=
            hg.leadsOn (.inl rfl) (.value hpairs hmem hkey)
          have hitem {items : List NodeId} {item : NodeId}
              (hitems : (g.node value).content = .sequence items) (h : item ∈ items) :
              g₀.LeadsOn .merge id item :=
            hg.leadsOn (.inl rfl) (.item hpairs hmem hkey rfl hitems h)
          refine .ite (fun hdepth => .error (.tooDeep ?_)) fun hdepth => ?_
          · exact .step hvalue (hdepth ▸ .stay value)
          · have hfill : g.Descends (g.fill id (.mapping others)) :=
              descends_fill hpairs fun pair hpair _ => hothers hpair
            -- each mapping that is merged may lead on one step less
            have hsources : Ends (g₀.MergeFault depth id)
                (fun found => (g.fill id (.mapping others)).Descends found.2 ∧
                  found.2.Settled found.1)
                (sources (flattenFrom fuel (depth - 1) []) (g.fill id (.mapping others))
                  value) := by
              refine ends_sources .malformed fun next hnext g' hg' hmapping => ?_
              have hleads : g₀.LeadsOn .merge id next := by
                rcases hnext with rfl | ⟨items, hitems, hmem⟩
                · exact hvalue
                · exact hitem (hfill.sequence_eq hitems) hmem
              have hnone : g'.Settled [] := by simp [Settled]
              have hmerges := ih (hg.trans (hfill.trans hg')) hmapping hnone (depth - 1)
              refine hmerges.imp ?_ fun _ h => h
              rintro fault (- | hdetour)
              · exact .malformed
              · refine .tooDeep ?_
                have hstep := Detour.step hleads hdetour
                rwa [Nat.sub_add_cancel (Nat.pos_of_ne_zero hdepth)] at hstep
            refine hsources.bind ?_
            rintro ⟨more, g'⟩ ⟨hdescends, hmore⟩
            have hg' := hfill.trans hdescends
            have hall : g'.Settled (found ++ more) :=
              List.forall_mem_append.mpr ⟨hfound.of_descends hg', hmore⟩
            refine (ih (hg.trans hg') (hg'.exists_mapping_after hpairs) hall depth).imp
              (fun _ h => h) fun g'' hg'' => ⟨hg'.trans hg''.1, hg''.2⟩

/-- **Merging** fails only for a detour that is too long, unless the document is malformed. -/
theorem ends_flatten (hg : g₀.Descends g) {pairs : List NodePair}
    (hid : (g.node id).content = .mapping pairs) : Merges g₀ g maxDetours id (g.flatten id) :=
  ends_flattenFrom hg ⟨pairs, hid⟩ (by simp [Settled]) _ _

end

end VitaeShell.Yaml.Graph
