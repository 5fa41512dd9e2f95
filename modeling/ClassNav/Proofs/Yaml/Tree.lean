import ClassNav.Proofs.Yaml.Flow

/-!
The tree of printed JSON. The composer takes the tokens between brackets for exactly the nodes they stand for.
-/

namespace ClassNav.Yaml

namespace Composer

/-- A token that begins a node without properties. -/
inductive Begins : Token → Prop
  | scalar (plain : Bool) (text : Text) : Begins (.scalar plain text)
  | sequence : Begins .flowSequenceStart
  | mapping : Begins .flowMappingStart

section
variable {t : Token} {rest : List Token} {anchors : List Anchor} {handles : List (Text × Text)}

theorem node_of_begins (begins : Begins t) (block bare : Bool) (fuel : Nat) :
    node block bare (fuel + 1) ⟨t :: rest, anchors, handles⟩ =
      content block bare none false fuel ⟨t :: rest, anchors, handles⟩ := by
  cases begins <;> rfl

theorem content_scalar (block bare plain : Bool) (text : Text) (fuel : Nat) :
    content block bare none false (fuel + 1) ⟨.scalar plain text :: rest, anchors, handles⟩ =
      some (.scalar none plain text, ⟨rest, anchors, handles⟩) := rfl

theorem content_sequence {items : List Node} {s : Composer} {fuel : Nat}
    (read : flowItems true fuel ⟨rest, anchors, handles⟩ = some (items, s)) (block bare : Bool) :
    content block bare none false (fuel + 1) ⟨.flowSequenceStart :: rest, anchors, handles⟩ =
      some (.sequence items, s) := by
  show (flowItems true fuel ⟨rest, anchors, handles⟩).bind _ = _
  rw [read]
  rfl

theorem content_mapping {pairs : List (Node × Node)} {s : Composer} {fuel : Nat}
    (read : flowPairs true fuel ⟨rest, anchors, handles⟩ = some (pairs, s)) (block bare : Bool) :
    content block bare none false (fuel + 1) ⟨.flowMappingStart :: rest, anchors, handles⟩ =
      some (.mapping pairs, s) := by
  show (flowPairs true fuel ⟨rest, anchors, handles⟩).bind _ = _
  rw [read]
  rfl

theorem flowItems_item {first : Bool} (begins : Begins t) {n : Node} {ns : List Node} {s s' : Composer}
    {fuel : Nat} (read : node false false fuel ⟨t :: rest, anchors, handles⟩ = some (n, s))
    (more : flowItems false fuel s = some (ns, s')) :
    flowItems first (fuel + 1) ⟨(if first then [] else [.flowEntry]) ++ t :: rest, anchors, handles⟩ =
      some (n :: ns, s') := by
  cases first <;> cases begins
  all_goals
    show (node false false fuel ⟨_ :: rest, anchors, handles⟩).bind _ = _
    rw [read]
    show (flowItems false fuel s).bind _ = _
    rw [more]
    rfl

theorem flowItems_end (first : Bool) (fuel : Nat) :
    flowItems first (fuel + 1) ⟨.flowSequenceEnd :: rest, anchors, handles⟩ =
      some ([], ⟨rest, anchors, handles⟩) := rfl

theorem flowPairs_pair {first : Bool} {key n : Node} {keyed : List Token} {pairs : List (Node × Node)}
    {s s' : Composer} {fuel : Nat}
    (named : nodeUnless [.value, .flowEntry, .flowMappingEnd] false false fuel ⟨keyed, anchors, handles⟩ =
      some (key, ⟨.value :: rest, anchors, handles⟩))
    (held : nodeUnless [.flowEntry, .flowMappingEnd] false false fuel ⟨rest, anchors, handles⟩ = some (n, s))
    (more : flowPairs false fuel s = some (pairs, s')) :
    flowPairs first (fuel + 1) ⟨(if first then [] else [.flowEntry]) ++ .key :: keyed, anchors, handles⟩ =
      some ((key, n) :: pairs, s') := by
  cases first
  all_goals
    show (nodeUnless [.value, .flowEntry, .flowMappingEnd] false false fuel ⟨keyed, anchors, handles⟩).bind _ = _
    rw [named]
    show (nodeUnless [.flowEntry, .flowMappingEnd] false false fuel ⟨rest, anchors, handles⟩).bind _ = _
    rw [held]
    show (flowPairs false fuel s).bind _ = _
    rw [more]
    rfl

theorem nodeUnless_of_begins (begins : Begins t) (ends : List Token) (fuel : Nat)
    (within : ends ⊆ [.value, .flowEntry, .flowMappingEnd]) :
    nodeUnless ends false false (fuel + 1) ⟨t :: rest, anchors, handles⟩ =
      node false false fuel ⟨t :: rest, anchors, handles⟩ := by
  have other : ends.contains t = false := by
    rw [List.contains_eq_any_beq, List.any_eq_false]
    intro u listed
    have sign := within listed
    simp only [List.mem_cons, List.not_mem_nil, or_false] at sign
    obtain rfl | rfl | rfl := sign <;> cases begins <;> simp
  show (if ends.contains t then _ else node false false fuel : Compose Node) _ = _
  rw [other]
  rfl

theorem flowPairs_end (first : Bool) (fuel : Nat) :
    flowPairs first (fuel + 1) ⟨.flowMappingEnd :: rest, anchors, handles⟩ =
      some ([], ⟨rest, anchors, handles⟩) := rfl

end

/-- Wherever the tokens stand they are read as this node. -/
structure Composes (ts : List Token) (n : Node) : Prop where
  begins : ∃ t rest, ts = t :: rest ∧ Begins t
  composed : ∀ (fuel : Nat) (rest : List Token) (anchors : List Anchor) (handles : List (Text × Text))
    (block bare : Bool), 2 * ts.length ≤ fuel →
    node block bare fuel ⟨ts ++ rest, anchors, handles⟩ = some (n, ⟨rest, anchors, handles⟩)

theorem intercalate_cons {x : List Token} {xs : List (List Token)} (separator : Token) :
    [separator].intercalate (x :: xs) = x ++ xs.flatMap (separator :: ·) := by
  induction xs generalizing x with
  | nil => simp
  | cons y xs ih => rw [List.intercalate_cons_cons, ih, List.flatMap_cons]; simp

theorem composes_scalar (plain : Bool) (text : Text) :
    Composes [.scalar plain text] (.scalar none plain text) where
  begins := ⟨_, _, rfl, .scalar plain text⟩
  composed := by
    intro fuel rest anchors handles block bare enough
    obtain ⟨fuel, rfl⟩ : ∃ n, fuel = n + 2 := ⟨fuel - 2, by simp at enough; omega⟩
    exact (node_of_begins (.scalar ..) block bare _).trans (content_scalar ..)

/-- A pair of a quoted key and a value. -/
inductive ComposesPair : List Token → Node × Node → Prop
  | mk (key : Text) {ts : List Token} {n : Node} (value : Composes ts n) :
      ComposesPair ([.key, .scalar false key, .value] ++ ts) (.scalar none false key, n)

section
variable (first : Bool) {rest : List Token} {anchors : List Anchor} {handles : List (Text × Text)}
  {s : Composer} {fuel : Nat}

theorem flowItems_composes {ts : List Token} {n : Node} {ns : List Node} (composes : Composes ts n)
    (enough : 2 * ts.length ≤ fuel) (more : flowItems false fuel ⟨rest, anchors, handles⟩ = some (ns, s)) :
    flowItems first (fuel + 1) ⟨(if first then [] else [.flowEntry]) ++ (ts ++ rest), anchors, handles⟩ =
      some (n :: ns, s) := by
  have read := composes.composed fuel rest anchors handles false false enough
  obtain ⟨t, more', rfl, begins⟩ := composes.begins
  exact flowItems_item begins read more

theorem flowPairs_composes {ts : List Token} {pair : Node × Node} {pairs : List (Node × Node)}
    (composes : ComposesPair ts pair) (enough : 2 * ts.length ≤ fuel)
    (more : flowPairs false fuel ⟨rest, anchors, handles⟩ = some (pairs, s)) :
    flowPairs first (fuel + 1) ⟨(if first then [] else [.flowEntry]) ++ (ts ++ rest), anchors, handles⟩ =
      some (pair :: pairs, s) := by
  obtain @⟨key, ts, n, value⟩ := composes
  simp only [List.length_append, List.length_cons, List.length_nil] at enough
  obtain ⟨fuel, rfl⟩ : ∃ n, fuel = n + 1 := ⟨fuel - 1, by omega⟩
  have named := (nodeUnless_of_begins (.scalar false key) _ fuel (List.Subset.refl _)).trans
    ((composes_scalar false key).composed fuel (.value :: (ts ++ rest)) anchors handles false false
      (by simp; omega))
  have held := value.composed fuel rest anchors handles false false (by omega)
  obtain ⟨t, more', rfl, begins⟩ := value.begins
  have held' := (nodeUnless_of_begins begins [.flowEntry, .flowMappingEnd] fuel (by simp)).trans held
  exact flowPairs_pair named held' more

end

/-- A list between brackets is read part by part, each after a comma but the first. -/
theorem read_separated {α : Type} {read : Bool → Nat → Compose (List α)} {stop : Token}
    {part : List Token → α → Prop} (fuel : Nat) (rest : List Token) (anchors : List Anchor)
    (handles : List (Text × Text))
    (ends : ∀ (first : Bool) (fuel : Nat), read first (fuel + 1) ⟨stop :: rest, anchors, handles⟩ =
      some ([], ⟨rest, anchors, handles⟩))
    (next : ∀ (first : Bool) {fuel : Nat} {ts rest : List Token} {a : α} {as : List α} {s : Composer},
      part ts a → 2 * ts.length ≤ fuel → read false fuel ⟨rest, anchors, handles⟩ = some (as, s) →
      read first (fuel + 1) ⟨(if first then [] else [.flowEntry]) ++ (ts ++ rest), anchors, handles⟩ =
        some (a :: as, s))
    {parts : List (List Token)} {as : List α} (each : List.Forall₂ part parts as)
    (enough : 2 * ([Token.flowEntry].intercalate parts).length + 1 < fuel) :
    read true fuel ⟨[Token.flowEntry].intercalate parts ++ stop :: rest, anchors, handles⟩ =
      some (as, ⟨rest, anchors, handles⟩) := by
  -- every part but the first has its comma in front
  have later : ∀ {parts as}, List.Forall₂ part parts as → ∀ fuel,
      2 * (parts.flatMap (Token.flowEntry :: ·)).length < fuel →
      read false fuel ⟨parts.flatMap (Token.flowEntry :: ·) ++ stop :: rest, anchors, handles⟩ =
        some (as, ⟨rest, anchors, handles⟩) := by
    intro parts as each
    induction each with
    | nil =>
      intro fuel enough
      obtain ⟨fuel, rfl⟩ := Nat.exists_eq_add_one_of_ne_zero (Nat.ne_of_gt enough)
      exact ends false fuel
    | @cons ts a parts as first _ ih =>
      intro fuel enough
      simp only [List.flatMap_cons, List.length_append, List.length_cons] at enough
      obtain ⟨fuel, rfl⟩ := Nat.exists_eq_add_one_of_ne_zero (Nat.ne_of_gt (Nat.zero_lt_of_lt enough))
      simpa using next false first (by omega) (ih fuel (by omega))
  cases each with
  | nil =>
    obtain ⟨fuel, rfl⟩ := Nat.exists_eq_add_one_of_ne_zero (Nat.ne_of_gt (Nat.zero_lt_of_lt enough))
    exact ends true fuel
  | cons first others =>
    rw [intercalate_cons, List.length_append] at enough
    obtain ⟨fuel, rfl⟩ := Nat.exists_eq_add_one_of_ne_zero (Nat.ne_of_gt (Nat.zero_lt_of_lt enough))
    rw [intercalate_cons]
    simpa using next true first (by omega) (later others fuel (by omega))

theorem composes_sequence {parts : List (List Token)} {nodes : List Node}
    (each : List.Forall₂ Composes parts nodes) :
    Composes (.flowSequenceStart :: [Token.flowEntry].intercalate parts ++ [.flowSequenceEnd])
      (.sequence nodes) where
  begins := ⟨_, _, rfl, .sequence⟩
  composed := by
    intro fuel rest anchors handles block bare enough
    obtain ⟨fuel, rfl⟩ : ∃ n, fuel = n + 2 := ⟨fuel - 2, by simp at enough; omega⟩
    have read := read_separated fuel rest anchors handles flowItems_end
      (fun first => flowItems_composes first) each (by simp at enough; omega)
    simpa using (node_of_begins .sequence block bare _).trans (content_sequence read block bare)

theorem composes_mapping {parts : List (List Token)} {pairs : List (Node × Node)}
    (each : List.Forall₂ ComposesPair parts pairs) :
    Composes (.flowMappingStart :: [Token.flowEntry].intercalate parts ++ [.flowMappingEnd])
      (.mapping pairs) where
  begins := ⟨_, _, rfl, .mapping⟩
  composed := by
    intro fuel rest anchors handles block bare enough
    obtain ⟨fuel, rfl⟩ : ∃ n, fuel = n + 2 := ⟨fuel - 2, by simp at enough; omega⟩
    have read := read_separated fuel rest anchors handles flowPairs_end
      (fun first => flowPairs_composes first) each (by simp at enough; omega)
    simpa using (node_of_begins .mapping block bare _).trans (content_mapping read block bare)

/-- A text with one node and nothing else is a document. -/
theorem document_of_begins {t : Token} (begins : Begins t) {rest : List Token} {handles : List (Text × Text)}
    {n : Node} {fuel : Nat}
    (read : node true false fuel ⟨t :: rest, [], handles⟩ = some (n, ⟨[], [], handles⟩)) :
    document fuel ⟨t :: rest, [], handles⟩ = some (some n, ⟨[], [], handles⟩) := by
  cases begins
  all_goals
    show (node true false fuel ⟨_ :: rest, [], handles⟩).bind _ = _
    rw [read]
    rfl

theorem composes_tokens {j : Json} (portable : j.Portable) : Composes j.tokens j.node := by
  induction portable with
  | null =>
    rw [Json.tokens, Json.node]
    exact composes_scalar ..
  | bool b =>
    rw [Json.tokens, Json.node]
    exact composes_scalar ..
  | natural n =>
    rw [Json.nat, Json.tokens, Json.node]
    exact composes_scalar ..
  | string =>
    rw [Json.tokens, Json.node]
    exact composes_scalar ..
  | @array items _ ih =>
    rw [Json.tokens, Json.node]
    refine composes_sequence ?_
    rw [List.forall₂_map_left_iff, List.forall₂_map_right_iff, List.forall₂_same]
    exact ih
  | @object fields _ _ _ ih =>
    rw [Json.tokens, Json.node]
    refine composes_mapping ?_
    rw [List.forall₂_map_left_iff, List.forall₂_map_right_iff, List.forall₂_same]
    exact fun f listed => .mk f.1 (ih f listed)

end Composer

/-- **A printed object is read as a tree of the same shape.** -/
theorem parse?_render {fields : List (Text × Json)} (portable : (Json.object fields).Portable) (depth : Nat) :
    parse? (Json.render depth (.object fields)) = some (some (Json.object fields).node) := by
  have composed := Composer.composes_tokens portable
  have read := composed.composed (4 * (Json.object fields).tokens.length + 4) [] [] Composer.standardHandles
    true false (by omega)
  obtain ⟨t, rest, tokens, begins⟩ := composed.begins
  rw [parse?, Json.tokens?_render portable]
  rw [List.append_nil, tokens] at read
  show Option.map _ (Composer.document _ ⟨(Json.object fields).tokens, [], Composer.standardHandles⟩) = _
  rw [tokens, Composer.document_of_begins begins read]
  rfl

end ClassNav.Yaml
