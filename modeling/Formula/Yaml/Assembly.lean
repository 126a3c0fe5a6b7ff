import Formula.Base64
import Formula.Yaml.Graph
import Formula.Yaml.Numeral
import Formula.Yaml.Store

/-!
From nodes to data. A collection is put into the table at once and gets its parts later, after the
collections that were met before it; only keys are completed at once. Merge keys are replaced by the
entries that they stand for before a mapping gets its parts.
-/

set_option autoImplicit false

namespace Formula.Yaml

open Formula.Text

/-- The state of assembling data: nodes, data, where the datum of a node is, the nodes whose data
are being made, the collections still to get their parts, the latest first, and whether collections
get their parts at once. -/
structure Assembly where
  version : Version
  nodes : Array Node
  store : Store := #[]
  places : Array (Option Place)
  active : List NodePlace := []
  pending : List (NodePlace × Place) := []
  deep : Bool := false

abbrev Assembler := StateT Assembly (Except ReadError)

namespace Assembler

def malformed {α : Type} : Assembler α := throw .malformed

def nodeAt (place : NodePlace) : Assembler Node := do return (← get).nodes.getD place default

def modifyNode (place : NodePlace) (change : Node → Node) : Assembler Unit :=
  modify fun s => { s with nodes := s.nodes.modify place change }

def contentAt (place : NodePlace) : Assembler Content := do return (← nodeAt place).content

def entriesAt (place : NodePlace) : Assembler (List (NodePlace × NodePlace)) := do
  match ← contentAt place with
  | .mapping entries => return entries
  | _ => malformed

def add (cell : Cell) : Assembler Place := do
  let place := (← get).store.size
  modify fun s => { s with store := s.store.push cell }
  return place

def complete (place : Place) (cell : Cell) : Assembler Unit :=
  modify fun s => { s with store := s.store.modify place fun _ => cell }

def mergeTag : String := coreTags ++ "merge"

def valueTag : String := coreTags ++ "value"

def textTag : String := coreTags ++ "str"

mutual

/-- Carries out the merge keys of a mapping node from the given entry on. There may be one only,
unless those before it stand for nothing. A single equals sign is a text where it is a key. -/
def flattenFrom (place : NodePlace) (index : Nat) (merged : List (NodePlace × NodePlace))
    (fuel : Nat) : Assembler Unit :=
  match fuel with
  | 0 => malformed
  | fuel + 1 => do
    let entries ← entriesAt place
    match entries[index]? with
    | none =>
      if !merged.isEmpty then
        modifyNode place fun n =>
          { n with content := .mapping (merged ++ entries), merged := some merged }
    | some (key, value) =>
      let tag := (← nodeAt key).tag
      if tag = mergeTag then
        if !merged.isEmpty then malformed
        else
          -- The next entry now has this index.
          modifyNode place fun n => { n with content := .mapping (entries.eraseIdx index) }
          let more ← match ← contentAt value with
            | .mapping _ => sourceEntries value fuel
            | .sequence items => mergeSources [] items fuel
            | .scalar _ => malformed
          flattenFrom place index more fuel
      else
        if tag = valueTag then modifyNode key fun n => { n with tag := textTag }
        flattenFrom place (index + 1) merged fuel
termination_by structural fuel

def sourceEntries (place : NodePlace) (fuel : Nat) : Assembler (List (NodePlace × NodePlace)) :=
  match fuel with
  | 0 => malformed
  | fuel + 1 => do
    flattenFrom place 0 [] fuel
    entriesAt place
termination_by structural fuel

/-- The entries of several mapping nodes, those of the last node first. -/
def mergeSources (entries : List (NodePlace × NodePlace)) (places : List NodePlace) (fuel : Nat) :
    Assembler (List (NodePlace × NodePlace)) :=
  match fuel, places with
  | 0, _ => malformed
  | _ + 1, [] => return entries
  | fuel + 1, place :: rest => do
    let more ← sourceEntries place fuel
    mergeSources (more ++ entries) rest fuel
termination_by structural fuel

end

/-- The most steps that carrying out merge keys may take. -/
def flattenFuel : Assembler Nat := do
  let size := (← get).nodes.size
  return (size + 2) * (size + 2) + 1000

/-- The text of a scalar node, or of the value that a mapping node has behind an equals sign. -/
def scalarText (place : NodePlace) : (fuel : Nat) → Assembler ScalarText
  | 0 => malformed
  | fuel + 1 => do
    match ← contentAt place with
    | .scalar text => return text
    | .sequence _ => malformed
    | .mapping entries =>
      match ← entries.findM? fun (key, _) => do return (← nodeAt key).tag == valueTag with
      | some (_, value) => scalarText value fuel
      | none => malformed

def dropSign (codes : List Nat) : List Nat :=
  match codes with
  | code :: rest => if code = '+'.toNat || code = '-'.toNat then rest else codes
  | [] => []

def numberPart (codes : List Nat) : List Nat := dropSign (codes.filter (· ≠ '_'.toNat))

def lowerCodes (codes : List Nat) : List Nat :=
  codes.flatMap fun code =>
    if code.isValidChar then (lowerChar (Char.ofNat code)).map Char.toNat else [code]

def scalarDatum (version : Version) (tag : String) (text : ScalarText) : Except ReadError Datum :=
  match tag, text with
  | "null", _ => .ok .absent
  | "str", .whole text => .ok (.text text)
  | "str", .broken codes => .ok (.broken codes)
  | "bool", .whole text => (readTruth text.toList).map .truth
  | "bool", .broken codes => .error (.notTruth (quoteCodes (lowerCodes codes)))
  | "int", .whole text => (readInteger version text.toList).map .integer
  | "int", .broken codes => .error (.notInteger 10 (quoteCodes (numberPart codes)))
  | "float", .whole text => (readDouble version text.toList).map .double
  | "float", .broken codes => .error (.notDouble (quoteCodes (lowerCodes (numberPart codes))))
  | "binary", .whole text =>
    if text.toList.all fun c => c.toNat < 128 then
      match Base64.decode? text.toList with
      | some bytes => .ok (.bytes bytes)
      | none => .error .malformed
    else .error .malformed
  | _, _ => .error .malformed

def timestampDatum : Content → Except ReadError Datum
  | .scalar (.whole text) =>
    let chars := text.toList
    let line := if chars.getLast? = some '\n' then chars.dropLast else chars
    match readTimestamp? line with
    | some t => t.toDatum.mapError .calendar
    | none => .error .malformed
  | _ => .error .malformed

inductive Collection where
  | list
  | mapping
  | set
  | ordered
  | pairs

def collection? : String → Option Collection
  | "seq" => some .list
  | "map" => some .mapping
  | "set" => some .set
  | "omap" => some .ordered
  | "pairs" => some .pairs
  | _ => none

def Collection.empty : Collection → Cell
  | .list => .list []
  | .mapping => .mapping []
  | .set => .set []
  | .ordered => .ordered []
  | .pairs => .list []

/-- A datum as a key: a list becomes a tuple, and other collections can not be keys. -/
def toKey (place : Place) : Assembler Place := do
  match (← get).store.cell place with
  | .list elements => add (.tuple elements)
  | .scalar _ | .tuple _ => return place
  | _ => malformed

/-- Where a key is, if it is among entries. The parts of a key must be fit for that. -/
def lookUp (entries : List (Place × Place)) (key : Place) : Assembler (Option Place) := do
  -- Parts that are collections other than tuples have no place among keys.
  let store := (← get).store
  match store.unfit? (store.size + 1) key with
  | some kind => throw (.noKey kind)
  | none => return store.find? entries key

/-- A key that occurs twice is an error of the text, which is reported with its values; they must
not be too long for that. -/
def refuseRepeated (parts : List Place) : Assembler Unit := do
  let store := (← get).store
  if (parts.map store.datum).all Datum.isShowable then malformed
  else throw (.longInteger none)

/-- Adds entries to those already there. A key that is there already is refused if `distinct`, and
gets the new value otherwise. -/
def addEntries (build : Bool → NodePlace → Assembler Place) (distinct : Bool)
    (entries : List (Place × Place)) :
    List (NodePlace × NodePlace) → Assembler (List (Place × Place))
  | [] => return entries
  | (keyNode, valueNode) :: rest => do
    let key ← toKey (← build true keyNode)
    let value ← build false valueNode
    match ← lookUp entries key with
    | none => addEntries build distinct (entries ++ [(key, value)]) rest
    | some previous =>
      if distinct then refuseRepeated [key, value, previous]
      addEntries build distinct ((← get).store.put entries key value) rest

/-- The entries of a mapping node. Entries that were taken over come first, and nothing is refused
among them. -/
def mappingEntries (build : Bool → NodePlace → Assembler Place) (place : NodePlace) :
    Assembler (List (Place × Place)) := do
  -- What is no mapping is refused before any merge key is carried out.
  discard (entriesAt place)
  flattenFrom place 0 [] (← flattenFuel)
  let entries ← entriesAt place
  match (← nodeAt place).merged with
  | none => addEntries build true [] entries
  | some merged =>
    let inherited ← addEntries build false [] merged
    -- The node's entries hold those taken over as well, which keep their places here.
    let own ← addEntries build false [] entries
    let store := (← get).store
    return own.foldl (fun all (key, value) => store.put all key value) inherited

def singleEntry (place : NodePlace) : Assembler (NodePlace × NodePlace) := do
  match ← contentAt place with
  | .mapping [entry] => return entry
  | _ => malformed

def itemsAt (place : NodePlace) : Assembler (List NodePlace) := do
  match ← contentAt place with
  | .sequence items => return items
  | _ => malformed

/-- Gives an ordered mapping its entries, of which no two may have the same key. -/
def fillOrdered (build : Bool → NodePlace → Assembler Place) (place : Place)
    (entries : List (Place × Place)) : List NodePlace → Assembler Unit
  | [] => pure ()
  | item :: rest => do
    let (keyNode, valueNode) ← singleEntry item
    let key ← build false keyNode
    if (← lookUp entries key).isSome then throw .repeatedEntry
    let value ← build false valueNode
    let entries := entries ++ [(key, value)]
    complete place (.ordered entries)
    fillOrdered build place entries rest

def fillPairs (build : Bool → NodePlace → Assembler Place) (place : Place) (pairs : List Place) :
    List NodePlace → Assembler Unit
  | [] => pure ()
  | item :: rest => do
    let (keyNode, valueNode) ← singleEntry item
    let key ← build false keyNode
    let value ← build false valueNode
    let pairs := pairs ++ [← add (.tuple [key, value])]
    complete place (.list pairs)
    fillPairs build place pairs rest

/-- Gives a collection its parts, which are built by `build`, at once or not. -/
def fill (build : Bool → NodePlace → Assembler Place) (kind : Collection) (node : NodePlace)
    (place : Place) : Assembler Unit := do
  match kind with
  | .list =>
    let elements ← (← itemsAt node).mapM (build false)
    complete place (.list elements)
  | .mapping => complete place (.mapping (← mappingEntries build node))
  | .set => complete place (.set ((← mappingEntries build node).map (·.1)))
  | .ordered => fillOrdered build place [] (← itemsAt node)
  | .pairs => fillPairs build place [] (← itemsAt node)

def coreName? (tag : String) : Option String := (tag.dropPrefix? coreTags).map (·.toString)

def collectionAt? (node : NodePlace) : Assembler (Option Collection) := do
  return (coreName? (← nodeAt node).tag).bind collection?

def construct (build : Bool → NodePlace → Assembler Place) (node : NodePlace) :
    Assembler Place := do
  let n ← nodeAt node
  let name ← match coreName? n.tag with
    | some name => pure name
    | none => malformed
  match collection? name with
  | some kind =>
    let place ← add kind.empty
    if (← get).deep then fill build kind node place
    else modify fun s => { s with pending := (node, place) :: s.pending }
    return place
  | none =>
    if name = "timestamp" then
      add (.scalar (← timestampDatum n.content))
    else if ["null", "str", "bool", "int", "float", "binary"].contains name then
      let text ← scalarText node ((← get).nodes.size + 1)
      add (.scalar (← scalarDatum (← get).version name text))
    else malformed

/-- The datum of a node. A node inside itself that is not complete yet has the absent datum; `deep`
asks for collections to get their parts at once. -/
def build : (fuel : Nat) → (deep : Bool) → NodePlace → Assembler Place
  | 0, _, _ => malformed
  | fuel + 1, deep, node => do
    let s ← get
    match s.places.getD node none with
    | some place => return place
    | none =>
      if deep then modify fun s => { s with deep := true }
      -- Only keys have their parts made at once, so only a key can be met inside itself.
      if s.active.contains node then add (.scalar .absent)
      else
        modify fun s => { s with active := node :: s.active }
        let place ← construct (build fuel) node
        modify fun s' => { s' with
          places := s'.places.setIfInBounds node (some place), active := s'.active.erase node
          deep := if deep then s.deep else s'.deep }
        return place

def fillAll (build : Bool → NodePlace → Assembler Place) : (fuel : Nat) → Assembler Unit
  | 0 => malformed
  | fuel + 1 => do
    let pending := (← get).pending
    if pending.isEmpty then return
    -- Filling these may put further collections on the list.
    modify fun s => { s with pending := [] }
    for (node, place) in pending.reverse do
      match ← collectionAt? node with
      | some kind => fill build kind node place
      | none => malformed
    fillAll build fuel

def assemble (root : NodePlace) : Assembler Place := do
  let size := (← get).nodes.size
  let place ← build (2 * size + 2) false root
  fillAll (build (2 * size + 2)) (size + 2)
  return place

end Assembler

/-- A text that holds nothing has the absent datum. -/
def read : TextReader := fun text => do
  match ← readGraph text with
  | none => return { store := #[.scalar .absent], root := 0 }
  | some graph =>
    let (root, s) ← (Assembler.assemble graph.root).run
      { version := graph.version, nodes := graph.nodes
        places := Array.replicate graph.nodes.size none }
    return { store := s.store, root }

end Formula.Yaml
