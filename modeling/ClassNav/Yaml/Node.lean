import ClassNav.Yaml.Tokens

/-!
The document of a YAML text as a tree. Aliases are replaced by what they name.
-/

namespace ClassNav.Yaml

inductive Node
  | scalar (tag : Option Text) (plain : Bool) (text : Text)
  | sequence (items : List Node)
  | mapping (pairs : List (Node × Node))
  /-- An alias inside the very node that it names. -/
  | cycle

namespace Node

/-- The empty plain scalar, which stands for a node that was left out. -/
def absent : Node := scalar none true []

end Node

/-- A named node. While it is being read there is no node yet. -/
structure Anchor where
  name : Text
  node : Option Node

/-- The state of composing a document: the tokens left, the anchors so far, latest first, and what the
tag handles stand for. -/
structure Composer where
  tokens : List Token
  anchors : List Anchor
  handles : List (Text × Text)

namespace Composer

abbrev Compose := StateT Composer Option

def peek? : Compose (Option Token) := do return (← get).tokens.head?

def skip : Compose Unit := modify fun s => { s with tokens := s.tokens.drop 1 }

/-- Take the token if it is the next one. -/
def accept (t : Token) : Compose Bool := do
  if (← peek?) == some t then
    skip
    return true
  else return false

/-- Whether the next token is one of those given, or none is left. -/
def beforeAny (ts : List Token) : Compose Bool := do
  match ← peek? with
  | some t => return ts.contains t
  | none => return true

def expect (t : Token) : Compose Unit := do
  if ← accept t then return () else failure

/-- The anchor and the tag in front of a node, in either order. -/
structure Properties where
  anchor : Option Text
  tag : Option (Text × Text)

def anchorHere : Compose (Option Text) := do
  match ← peek? with
  | some (.anchor name) => skip; return some name
  | _ => return none

def tagHere : Compose (Option (Text × Text)) := do
  match ← peek? with
  | some (.tag handle suffix) => skip; return some (handle, suffix)
  | _ => return none

def properties : Compose Properties := do
  match ← anchorHere with
  | some name => return ⟨some name, ← tagHere⟩
  | none =>
    let tag ← tagHere
    return ⟨← if tag.isSome then anchorHere else pure none, tag⟩

/-- The full tag. A handle must have been declared. -/
def resolveTag : Option (Text × Text) → Compose (Option Text)
  | none => return none
  | some ([], suffix) => return some suffix
  | some (handle, suffix) => do
    match (← get).handles.lookup handle with
    | some lead => return some (lead ++ suffix)
    | none => failure

/-- Open an anchor; the answer is how many anchors stand before it. -/
def openAnchor (name : Text) : Compose Nat := do
  let s ← get
  set { s with anchors := ⟨name, none⟩ :: s.anchors }
  return s.anchors.length

/-- Give an anchor its node. -/
def closeAnchor (before : Nat) (node : Node) : Compose Unit :=
  modify fun s =>
    let i := s.anchors.length - 1 - before
    { s with anchors := s.anchors.modify i fun a => { a with node := some node } }

/-- The node of the latest anchor of a name. -/
def aliased (name : Text) : Compose Node := do
  match (← get).anchors.find? fun a => a.name == name with
  | some a => return a.node.getD .cycle
  | none => failure

mutual

/-- A node. Blocks count only where `block` holds; `bare` also allows the entries of a sequence without
indentation of their own. -/
def node (block bare : Bool) : Nat → Compose Node
  | 0 => failure
  | fuel + 1 => do
    if let some (.alias name) ← peek? then
      skip
      aliased name
    else
      let properties ← properties
      let tag ← resolveTag properties.tag
      match properties.anchor with
      | none => content block bare tag false fuel
      | some name =>
        let before ← openAnchor name
        let found ← content block bare tag true fuel
        closeAnchor before found
        return found

/-- What a node holds, after its properties. -/
def content (block bare : Bool) (tag : Option Text) (anchored : Bool) : Nat → Compose Node
  | 0 => failure
  | fuel + 1 => do
    match ← peek? with
    | some (.scalar plain text) =>
      skip
      return .scalar (if tag = some ['!'] then none else tag) plain text
    | some .flowSequenceStart => skip; return .sequence (← flowItems true fuel)
    | some .flowMappingStart => skip; return .mapping (← flowPairs true fuel)
    | some .blockEntry =>
      if bare then return .sequence (← bareItems fuel) else missing tag anchored
    | some .blockSequenceStart =>
      if block then do skip; return .sequence (← blockItems fuel) else missing tag anchored
    | some .blockMappingStart =>
      if block then do skip; return .mapping (← blockPairs fuel) else missing tag anchored
    | _ => missing tag anchored
where
  /-- A node with properties may have no content. -/
  missing (tag : Option Text) (anchored : Bool) : Compose Node :=
    if anchored || tag.isSome then return .scalar tag true [] else failure

/-- A node, unless one of the tokens that can follow it is next. -/
def nodeUnless (ends : List Token) (block bare : Bool) : Nat → Compose Node
  | 0 => failure
  | fuel + 1 => do
    if ← beforeAny ends then return .absent else node block bare fuel

def blockItems : Nat → Compose (List Node)
  | 0 => failure
  | fuel + 1 => do
    if ← accept .blockEntry then
      let item ← nodeUnless [.blockEntry, .blockEnd] true false fuel
      return item :: (← blockItems fuel)
    else
      expect .blockEnd
      return []

def bareItems : Nat → Compose (List Node)
  | 0 => failure
  | fuel + 1 => do
    if ← accept .blockEntry then
      let item ← nodeUnless [.blockEntry, .key, .value, .blockEnd] true false fuel
      return item :: (← bareItems fuel)
    else return []

def blockPairs : Nat → Compose (List (Node × Node))
  | 0 => failure
  | fuel + 1 => do
    if ← accept .blockEnd then return []
    else
      let ends := [Token.key, .value, .blockEnd]
      expect .key
      let key ← nodeUnless ends true true fuel
      let value ← if ← accept .value then nodeUnless ends true true fuel else pure .absent
      return (key, value) :: (← blockPairs fuel)

/-- The items of a sequence between brackets. A key among them makes a mapping of one pair. -/
def flowItems (first : Bool) : Nat → Compose (List Node)
  | 0 => failure
  | fuel + 1 => do
    if ← accept .flowSequenceEnd then return []
    else
      if !first then expect .flowEntry
      if ← accept .flowSequenceEnd then return []
      else if ← accept .key then
        let ends := [Token.flowEntry, .flowSequenceEnd]
        let key ← if ← beforeAny (.value :: ends) then do skip; pure .absent
          else node false false fuel
        let value ← if ← accept .value then nodeUnless ends false false fuel else pure .absent
        return .mapping [(key, value)] :: (← flowItems false fuel)
      else
        let item ← node false false fuel
        return item :: (← flowItems false fuel)

def flowPairs (first : Bool) : Nat → Compose (List (Node × Node))
  | 0 => failure
  | fuel + 1 => do
    if ← accept .flowMappingEnd then return []
    else
      if !first then expect .flowEntry
      if ← accept .flowMappingEnd then return []
      else
        let ends := [Token.flowEntry, .flowMappingEnd]
        if ← accept .key then
          let key ← nodeUnless (.value :: ends) false false fuel
          let value ← if ← accept .value then nodeUnless ends false false fuel else pure .absent
          return (key, value) :: (← flowPairs false fuel)
        else
          let key ← node false false fuel
          return (key, .absent) :: (← flowPairs false fuel)

end

/-- The directives of a document: at most one version, and no handle declared twice. -/
def directives : Nat → (version : Bool) → List (Text × Text) → Compose (List (Text × Text))
  | 0, _, _ => failure
  | fuel + 1, version, handles => do
    match ← peek? with
    | some (.versionDirective major minor) =>
      if version || major != 1 || (minor != 1 && minor != 2) then failure
      else do skip; directives fuel true handles
    | some (.tagDirective handle lead) =>
      if (handles.lookup handle).isSome then failure
      else do skip; directives fuel version ((handle, lead) :: handles)
    | _ => return handles

def isDirective : Token → Bool
  | .versionDirective _ _ | .tagDirective _ _ => true
  | _ => false

def standardHandles : List (Text × Text) :=
  [(['!'], ['!']), (['!', '!'], "tag:yaml.org,2002:".toList)]

/-- The only document of a text, if it has one. -/
def document (fuel : Nat) : Compose (Option Node) := do
  match ← peek? with
  | none => return none
  | some t =>
    let explicit := isDirective t || t == .documentStart
    if explicit then
      let handles ← directives fuel false []
      modify fun s => { s with handles := handles ++ standardHandles }
      expect .documentStart
    let empty ← match ← peek? with
      | none => pure explicit
      | some t => pure (explicit && (isDirective t || t == .documentStart || t == .documentEnd))
    let root ← if empty then pure .absent else node true false fuel
    modify fun s => { s with tokens := s.tokens.dropWhile (· == .documentEnd) }
    if (← peek?).isNone then return some root else failure

end Composer

/-- The document of a text: none if it is malformed, and an inner none if it holds no document at all.
A text with several documents counts as malformed. -/
def parse? (t : Text) : Option (Option Node) :=
  (tokens? t).bind fun tokens =>
    ((Composer.document (4 * tokens.length + 4)).run ⟨tokens, [], Composer.standardHandles⟩).map (·.1)

end ClassNav.Yaml
