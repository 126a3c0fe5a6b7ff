import Formula.Yaml.TokenStream
import Formula.Yaml.Form

/-!
The nodes of a document. An alias stands for a node that was named before, even for one that is not
complete yet; so nodes are kept in a table, and collections hold places in it.
-/

set_option autoImplicit false

namespace Formula.Yaml

abbrev NodePlace := Nat

inductive Content where
  | scalar (text : ScalarText)
  | sequence (items : List NodePlace)
  | mapping (entries : List (NodePlace × NodePlace))

/-- A node with its tag. Entries that a mapping takes over from others are listed apart as well. -/
structure Node where
  tag : String
  content : Content
  merged : Option (List (NodePlace × NodePlace)) := none

instance : Inhabited Node := ⟨{ tag := "", content := .sequence [] }⟩

/-- What has been read: the tokens still to come, a bound on their number, the nodes so far, and the
meanings of names and of tag handles. -/
structure Reading where
  tokens : TokenStream
  fuel : Nat
  nodes : Array Node := #[]
  anchors : List (String × NodePlace) := []
  handles : List (String × String) := standardHandles

abbrev Reader := StateT Reading (Except ReadError)

namespace Reader

def malformed {α : Type} : Reader α := throw .malformed

def peek : Reader Token := do
  let s ← get
  let tokens ← s.tokens.prepare
  set { s with tokens }
  return tokens.first

def drop : Reader Unit := modify fun s => { s with tokens := s.tokens.drop }

def version : Reader Version := do return (← get).tokens.version

structure Properties where
  anchor : Option String := none
  tag : Option String := none

def nameOf (tag : WrittenTag) : Reader String := do
  match tag.name? (← get).handles with
  | some name => return name
  | none => malformed

def properties : Reader Properties := do
  match ← peek with
  | .anchor name =>
    drop
    match ← peek with
    | .tag tag =>
      drop
      return { anchor := some name, tag := some (← nameOf tag) }
    | _ => return { anchor := some name }
  | .tag tag =>
    drop
    match ← peek with
    | .anchor name =>
      drop
      return { anchor := some name, tag := some (← nameOf tag) }
    | _ => return { tag := some (← nameOf tag) }
  | _ => return {}

def Properties.isEmpty (p : Properties) : Bool := p.anchor.isNone && p.tag.isNone

def Properties.tagName? (p : Properties) : Option String := p.tag.filter (· ≠ "!")

def add (p : Properties) (n : Node) : Reader NodePlace := do
  let place := (← get).nodes.size
  modify fun s => { s with
    nodes := s.nodes.push n
    anchors := match p.anchor with
      | some name => (name, place) :: s.anchors
      | none => s.anchors }
  return place

/-- Adds a scalar. Its form decides on the tag if it is plain, or if the tag leaves
the choice open. -/
def addScalar (p : Properties) (plain : Bool) (text : ScalarText) : Reader NodePlace := do
  let version ← version
  let formed := match text, plain && p.tag.isNone || p.tag == some "!" with
    | .whole text, true => tagOfForm version text.toList
    | _, _ => coreTags ++ "str"
  add p { tag := p.tagName?.getD formed, content := .scalar text }

def addEmpty (p : Properties) : Reader NodePlace := addScalar p true (.whole "")

def complete (place : NodePlace) (content : Content) : Reader Unit :=
  modify fun s => { s with nodes := s.nodes.modify place fun n => { n with content } }

def sequence (p : Properties) (items : Reader (List NodePlace)) : Reader NodePlace := do
  let place ← add p { tag := p.tagName?.getD (coreTags ++ "seq"), content := .sequence [] }
  complete place (.sequence (← items))
  return place

def mapping (p : Properties) (entries : Reader (List (NodePlace × NodePlace))) :
    Reader NodePlace := do
  let place ← add p { tag := p.tagName?.getD (coreTags ++ "map"), content := .mapping [] }
  complete place (.mapping (← entries))
  return place

def orEmpty (absent : Token → Bool) (node : Reader NodePlace) : Reader NodePlace := do
  if absent (← peek) then addEmpty {} else node

def endsItem (indentless : Bool) : Token → Bool
  | .item | .blockEnd => true
  | .key | .value => indentless
  | _ => false

/-- The items of a block sequence. Inside a mapping of the same column there is no token for the
end. -/
def blockItems (indentless : Bool) (node : Reader NodePlace) (items : List NodePlace) :
    (fuel : Nat) → Reader (List NodePlace)
  | 0 => malformed
  | fuel + 1 => do
    match ← peek with
    | .item =>
      drop
      let item ← orEmpty (endsItem indentless) node
      blockItems indentless node (item :: items) fuel
    | .blockEnd =>
      if !indentless then drop
      return items.reverse
    | _ => if indentless then return items.reverse else malformed

def endsBlockPart : Token → Bool
  | .key | .value | .blockEnd => true
  | _ => false

/-- The entries of a block mapping. In the earlier version of the language each has a key. -/
def blockEntries (node : Reader NodePlace) (entries : List (NodePlace × NodePlace)) :
    (fuel : Nat) → Reader (List (NodePlace × NodePlace))
  | 0 => malformed
  | fuel + 1 => do
    let key? ← match ← peek, ← version with
      | .key, _ => do
        drop
        some <$> orEmpty endsBlockPart node
      | .value, .oneTwo => some <$> addEmpty {}
      | .blockEnd, _ => do
        drop
        pure none
      | _, _ => malformed
    match key? with
    | none => return entries.reverse
    | some key =>
      let value ← match ← peek with
        | .value => do
          drop
          orEmpty endsBlockPart node
        | _ => addEmpty {}
      blockEntries node ((key, value) :: entries) fuel

def flowValue (endsPart : Token → Bool) (node : Reader NodePlace) : Reader NodePlace := do
  match ← peek with
  | .value =>
    drop
    orEmpty endsPart node
  | _ => addEmpty {}

def endsSequencePart : Token → Bool
  | .comma | .flowSequenceEnd => true
  | _ => false

def endsMappingPart : Token → Bool
  | .comma | .flowMappingEnd => true
  | _ => false

def isValueOr (endsPart : Token → Bool) (t : Token) : Bool := t.isValue || endsPart t

/-- Moves over the comma between parts of a flow collection; the first part has none in front. -/
def separator (first : Bool) : Reader Unit := do
  if !first then
    match ← peek with
    | .comma => drop
    | _ => malformed

/-- The items of a flow sequence; a single entry makes a mapping. -/
def flowItems (node : Reader NodePlace) (items : List NodePlace) :
    (fuel : Nat) → Reader (List NodePlace)
  | 0 => malformed
  | fuel + 1 => do
    match ← peek with
    | .flowSequenceEnd =>
      drop
      return items.reverse
    | _ =>
      separator items.isEmpty
      match ← peek with
      | .flowSequenceEnd =>
        drop
        return items.reverse
      | .key =>
        let item ← mapping {} do
          drop
          let key ← orEmpty (isValueOr endsSequencePart) node
          return [(key, ← flowValue endsSequencePart node)]
        flowItems node (item :: items) fuel
      | _ => flowItems node ((← node) :: items) fuel

def flowEntry (node : Reader NodePlace) : Reader (NodePlace × NodePlace) := do
  match ← peek, ← version with
  | .key, _ =>
    drop
    let key ← orEmpty (isValueOr endsMappingPart) node
    return (key, ← flowValue endsMappingPart node)
  | .value, .oneTwo =>
    let key ← addEmpty {}
    return (key, ← flowValue endsMappingPart node)
  | _, _ =>
    let key ← node
    return (key, ← addEmpty {})

def flowEntries (node : Reader NodePlace) (entries : List (NodePlace × NodePlace)) :
    (fuel : Nat) → Reader (List (NodePlace × NodePlace))
  | 0 => malformed
  | fuel + 1 => do
    match ← peek with
    | .flowMappingEnd =>
      drop
      return entries.reverse
    | _ =>
      separator entries.isEmpty
      match ← peek with
      | .flowMappingEnd =>
        drop
        return entries.reverse
      | _ => flowEntries node ((← flowEntry node) :: entries) fuel

def reference (name : String) : Reader NodePlace := do
  match (← get).anchors.find? fun entry => entry.1 == name with
  | some (_, place) => return place
  | none => malformed

/-- Where a node stands: anywhere in a flow collection, in a block, or behind the key of a block
mapping, where a sequence may begin at the column of the key. -/
inductive Position where
  | inFlow
  | inBlock
  | behindKey
  deriving DecidableEq

def node (position : Position) : (depth : Nat) → Reader NodePlace
  | 0 => throw .tooDeep
  | depth + 1 => do
    -- Each part takes a token at least, so that no list of parts outlasts the tokens.
    let fuel := (← get).fuel
    match ← peek with
    | .reference name =>
      drop
      reference name
    | _ =>
      let p ← properties
      match ← peek, position with
      | .item, .behindKey => sequence p (blockItems true (node .inBlock depth) [] fuel)
      | .scalar plain text, _ =>
        drop
        addScalar p plain text
      | .flowSequence, _ => sequence p do
        drop
        flowItems (node .inFlow depth) [] fuel
      | .flowMapping, _ => mapping p do
        drop
        flowEntries (node .inFlow depth) [] fuel
      | .blockSequence, .inBlock | .blockSequence, .behindKey => sequence p do
        drop
        blockItems false (node .inBlock depth) [] fuel
      | .blockMapping, .inBlock | .blockMapping, .behindKey => mapping p do
        drop
        blockEntries (node .behindKey depth) [] fuel
      | _, _ => if p.isEmpty then malformed else addEmpty p

structure Settings where
  version : Option (Nat × Nat) := none
  handles : List (String × String) := []

def directives (settings : Settings) : (fuel : Nat) → Reader Settings
  | 0 => malformed
  | fuel + 1 => do
    match ← peek with
    | .directive (.version major minor) =>
      drop
      if settings.version.isSome || major ≠ 1 then malformed
      else directives { settings with version := some (major, minor) } fuel
    | .directive (.handle handle front) =>
      drop
      if settings.handles.any fun entry => entry.1 == handle then malformed
      else directives { settings with handles := (handle, front) :: settings.handles } fuel
    | .directive .other =>
      drop
      directives settings fuel
    | _ => return settings

def start (fuel : Nat) : Reader Unit := do
  let settings ← directives {} fuel
  let version ← match settings.version with
    | none => pure .oneTwo
    | some (_, 1) => pure .oneOne
    | some (_, 2) => pure .oneTwo
    | some (major, minor) => throw (.version major minor)
  modify fun s => { s with
    tokens := { s.tokens with version }, handles := settings.handles ++ standardHandles }
  match ← peek with
  | .documentStart => drop
  | _ => malformed

def dropEnds : (fuel : Nat) → Reader Unit
  | 0 => malformed
  | fuel + 1 => do
    match ← peek with
    | .documentEnd =>
      drop
      dropEnds fuel
    | _ => pure ()

/-- There has to be nothing behind the document but, in the earlier version of the language, more
markers that end one. -/
def finish (fuel : Nat) : Reader Unit := do
  match ← peek with
  | .documentEnd => drop
  | _ => pure ()
  if (← version) = .oneOne then dropEnds fuel
  match ← peek with
  | .finish => pure ()
  | .directive _ =>
    -- A second document is refused, but directives in front of it may be at fault themselves.
    start fuel
    malformed
  | _ => malformed

/-- How deep nodes may lie inside each other. -/
def depthLimit : Nat := 488

def document : Reader (Option NodePlace) := do
  let fuel := (← get).fuel
  match ← peek with
  | .finish => return none
  | .directive _ | .documentStart =>
    start fuel
    let place ← match ← peek with
      | .directive _ | .documentStart | .documentEnd | .finish => addEmpty {}
      | _ => node .inBlock depthLimit
    finish fuel
    return some place
  | _ =>
    let place ← node .inBlock depthLimit
    finish fuel
    return some place

end Reader

structure Graph where
  nodes : Array Node
  root : NodePlace
  version : Version

def isAllowed (c : Char) : Bool :=
  let code := c.toNat
  code = 9 || code = 10 || code = 13 || (32 ≤ code && code ≤ 126) || code = 0x85
    || (0xa0 ≤ code && code ≠ 0xfffe && code ≠ 0xffff)

def readGraph (text : List Char) : Except ReadError (Option Graph) :=
  if text.all isAllowed then
    let cursor := Cursor.ofText (if text.head? = some '\uFEFF' then text.drop 1 else text)
    (Reader.document.run { tokens := { cursor }, fuel := 4 * cursor.left + 8 }).map
      fun (place, s) => place.map fun root =>
        { nodes := s.nodes, root, version := s.tokens.version }
  else .error .malformed

end Formula.Yaml
