import Formula.Yaml.Token
import Formula.Yaml.Scalar.Plain
import Formula.Yaml.Scalar.Block

/-!
Tokens on demand. A node may turn out to be a key only when the colon behind it is met, and a key's
token stands in front of it; so tokens wait in a queue for as long as the first of them may belong
to such a node. A node in front of a colon is a key only if both are on one line, not too far apart.
-/

set_option autoImplicit false

namespace Formula.Yaml

/-- A place where a node has begun that may be a key: the number of its first token, whether it has
to be one, and where it is. -/
structure Candidate where
  number : Nat
  required : Bool
  left : Nat
  line : Nat
  column : Nat

/-- A text that is being cut into tokens. `flows` tells of the open flow collections, innermost
first, whether they are sequences, and `outer` the columns of the blocks around the innermost one.
Candidates are kept with the number of open flow collections. -/
structure TokenStream where
  cursor : Cursor
  version : Version := .oneTwo
  flows : List Bool := []
  queue : List Token := []
  taken : Nat := 0
  indent : Int := -1
  outer : List Int := []
  keyAllowed : Bool := true
  candidates : List (Nat × Candidate) := []
  done : Bool := false

/-- How far behind the start of a key its colon may be. -/
def keyLimit : Nat := 1024

namespace TokenStream

def inFlow (s : TokenStream) : Bool := !s.flows.isEmpty

def push (t : Token) (s : TokenStream) : TokenStream := { s with queue := s.queue ++ [t] }

def moveTo (c : Cursor) (s : TokenStream) : TokenStream := { s with cursor := c }

def allowKey (allowed : Bool) (s : TokenStream) : TokenStream := { s with keyAllowed := allowed }

def dropStale (s : TokenStream) : Except ReadError TokenStream :=
  let (fresh, stale) := s.candidates.partition fun (_, k) =>
    k.line == s.cursor.line && k.left - s.cursor.left ≤ keyLimit
  if stale.any fun (_, k) => k.required then .error .malformed
  else .ok { s with candidates := fresh }

def level (s : TokenStream) : Nat := s.flows.length

def candidate? (s : TokenStream) : Option Candidate := s.candidates.lookup s.level

def forgetCandidate (s : TokenStream) : TokenStream :=
  let level := s.level
  { s with candidates := s.candidates.filter fun (other, _) => other != level }

def dropCandidate (s : TokenStream) : Except ReadError TokenStream :=
  if s.candidate?.any (·.required) then .error .malformed else .ok s.forgetCandidate

/-- Remembers that the next token may begin a key. A node at the column of its block has
to be one. -/
def saveCandidate (s : TokenStream) : Except ReadError TokenStream :=
  if s.keyAllowed then do
    let s ← s.dropCandidate
    let k : Candidate := {
      number := s.taken + s.queue.length
      required := !s.inFlow && s.indent == s.cursor.column
      left := s.cursor.left, line := s.cursor.line, column := s.cursor.column }
    return { s with candidates := (s.level, k) :: s.candidates }
  else .ok s

/-- The blocks that are left when those beyond a column have ended, and how many of
them there are. -/
def unwindFrom (column : Int) (ended : Nat) (indent : Int) : List Int → Int × List Int × Nat
  | [] => (indent, [], ended)
  | around :: outer =>
    if column < indent then unwindFrom column (ended + 1) around outer
    else (indent, around :: outer, ended)

/-- Ends the blocks beyond a column; inside flow collections indentation does not count. -/
def unwind (column : Int) (s : TokenStream) : TokenStream :=
  if s.inFlow then s
  else
    let (indent, outer, ended) := unwindFrom column 0 s.indent s.outer
    { s with indent, outer, queue := s.queue ++ List.replicate ended .blockEnd }

def isDeeper (column : Nat) (s : TokenStream) : Bool := s.indent < column

def indentTo (column : Nat) (s : TokenStream) : TokenStream :=
  { s with indent := column, outer := s.indent :: s.outer }

def openBlock (t : Token) (s : TokenStream) : TokenStream :=
  if s.isDeeper s.cursor.column then (s.indentTo s.cursor.column).push t else s

/-- Moves over blanks, comments and line ends. Tabs count as blanks only inside flow collections,
and outside of them a key may follow a line end. -/
def toTokenFrom (s : TokenStream) : (fuel : Nat) → TokenStream
  | 0 => s
  | fuel + 1 =>
    let c := s.cursor.dropWhile fun char => char = ' ' || s.inFlow && char = '\t'
    let c' := if c.head? = some '#' then c.toLineEnd.2 else c
    match c'.breakLine? with
    | none => s.moveTo c'
    | some (_, next) => toTokenFrom ((s.moveTo next).allowKey (s.keyAllowed || !s.inFlow)) fuel

def toToken (s : TokenStream) : TokenStream := s.toTokenFrom (s.cursor.left + 1)

def takeIndicator (t : Token) (width : Nat) (s : TokenStream) : TokenStream :=
  (s.moveTo (s.cursor.skip width)).push t

def fetchEnd (s : TokenStream) : Except ReadError TokenStream := do
  let s ← (s.unwind (-1)).dropCandidate
  return { (s.allowKey false).push .finish with candidates := [], done := true }

def fetchDirective (s : TokenStream) : Except ReadError TokenStream := do
  let s ← (s.unwind (-1)).dropCandidate
  let (directive, next) ← readDirective s.version s.cursor
  return ((s.allowKey false).moveTo next).push (.directive directive)

def fetchMarker (t : Token) (s : TokenStream) : Except ReadError TokenStream := do
  let s ← (s.unwind (-1)).dropCandidate
  return (s.allowKey false).takeIndicator t 3

def fetchFlowStart (sequence : Bool) (s : TokenStream) : Except ReadError TokenStream := do
  let s ← s.saveCandidate
  return ({ s with flows := sequence :: s.flows }.allowKey true).takeIndicator
    (if sequence then .flowSequence else .flowMapping) 1

def fetchFlowEnd (t : Token) (s : TokenStream) : Except ReadError TokenStream := do
  let s ← s.dropCandidate
  return ({ s with flows := s.flows.drop 1 }.allowKey false).takeIndicator t 1

def fetchComma (s : TokenStream) : Except ReadError TokenStream := do
  let s ← s.dropCandidate
  return (s.allowKey true).takeIndicator .comma 1

/-- Items and explicit keys outside of flow collections may begin a block, but only where a key may
stand. -/
def beginBlock (t : Token) (s : TokenStream) : Except ReadError TokenStream :=
  if s.inFlow then .ok s
  else if s.keyAllowed then .ok (s.openBlock t)
  else .error .malformed

def fetchItem (s : TokenStream) : Except ReadError TokenStream := do
  let s ← (← s.beginBlock .blockSequence).dropCandidate
  return (s.allowKey true).takeIndicator .item 1

def fetchKey (s : TokenStream) : Except ReadError TokenStream := do
  let s ← (← s.beginBlock .blockMapping).dropCandidate
  return (s.allowKey (!s.inFlow)).takeIndicator .key 1

def insertBefore (k : Candidate) (t : Token) (s : TokenStream) : TokenStream :=
  { s with queue := s.queue.insertIdx (k.number - s.taken) t }

/-- A colon makes a key of the candidate, if there is one. -/
def fetchValue (s : TokenStream) : Except ReadError TokenStream := do
  match s.candidate? with
  | some k =>
    let s := s.forgetCandidate.insertBefore k .key
    -- A key beyond the innermost block begins a block, whose token goes in front of the key's.
    let s := if !s.inFlow && s.isDeeper k.column then
        (s.indentTo k.column).insertBefore k .blockMapping
      else s
    return (s.allowKey false).takeIndicator .value 1
  | none =>
    let s ← (← s.beginBlock .blockMapping).dropCandidate
    return (s.allowKey (!s.inFlow)).takeIndicator .value 1

def fetchLeaf (s : TokenStream) (read : TokenStream → Except ReadError (Token × Cursor)) :
    Except ReadError TokenStream := do
  let s ← s.saveCandidate
  let (t, next) ← read s
  return ((s.allowKey false).moveTo next).push t

def fetchQuoted (double : Bool) (s : TokenStream) : Except ReadError TokenStream :=
  s.fetchLeaf fun s => do
    let (codes, next) ← quotedScalar double s.cursor
    return (.scalar false (.ofCodes codes), next)

def fetchBlockScalar (folded : Bool) (s : TokenStream) : Except ReadError TokenStream := do
  let s ← (s.allowKey true).dropCandidate
  let (text, next) ← blockScalar folded s.indent s.cursor
  return (s.moveTo next).push (.scalar false (.whole (String.ofList text)))

/-- Behind a plain scalar a key may follow only on another line. -/
def fetchPlain (s : TokenStream) : Except ReadError TokenStream := do
  let s ← s.saveCandidate
  let found := plainScalar s.version s.inFlow (s.indent + 1) s.cursor
  return ((s.allowKey found.crossed).moveTo found.next).push
    (.scalar true (.whole (String.ofList found.text)))

/-- Whether a colon stands for itself and does not begin a scalar. Inside a flow sequence it must be
set off, and inside a flow mapping only behind another colon. -/
def isValueSign (s : TokenStream) : Bool :=
  let setOff := isCut s.cursor.second?
  match s.flows with
  | [] => setOff
  | sequence :: _ =>
    s.version == .oneOne || setOff || !(sequence || s.queue.getLast?.any Token.isValue)

/-- Characters that no plain scalar begins with, unless it is one of the first three and goes on. -/
def indicators : List Char :=
  ['-', '?', ':', ',', '[', ']', '\x7b', '\x7d', '#', '&', '*', '!', '|', '>', '\'', '"', '%', '@',
    '\x60']

def startsPlain (s : TokenStream) (char : Char) : Bool :=
  let setOff := isCut s.cursor.second?
  -- In the later version a colon inside a flow collection may begin a scalar, unless a blank
  -- follows.
  let colon := char = ':' && s.inFlow && s.version == .oneTwo
  if !isWhite char && !isBreak char && !indicators.contains char then true
  else if colon && !s.cursor.second?.any isWhite then true
  else !setOff && (char = '-' || !s.inFlow && (char = '?' || char = ':'))

def fetch (s : TokenStream) : Except ReadError TokenStream := do
  let s ← s.toToken.dropStale
  -- Blocks end where a token stands in front of them, whatever the token is.
  let s := s.unwind s.cursor.column
  let setOff := isCut s.cursor.second?
  match s.cursor.head? with
  | none => s.fetchEnd
  | some char =>
    if char = '%' && s.cursor.column = 0 then s.fetchDirective
    else if char = '-' && s.cursor.atMarker then s.fetchMarker .documentStart
    else if char = '.' && s.cursor.atMarker then s.fetchMarker .documentEnd
    else if char = '[' then s.fetchFlowStart true
    else if char = '\x7b' then s.fetchFlowStart false
    else if char = ']' then s.fetchFlowEnd .flowSequenceEnd
    else if char = '\x7d' then s.fetchFlowEnd .flowMappingEnd
    else if char = ',' then s.fetchComma
    else if char = '-' && setOff then s.fetchItem
    else if char = '?' && (s.inFlow || setOff) then s.fetchKey
    else if char = ':' && s.isValueSign then s.fetchValue
    else if char = '*' then s.fetchLeaf fun s => do
      let (name, next) ← readAnchor s.cursor
      return (.reference name, next)
    else if char = '&' then s.fetchLeaf fun s => do
      let (name, next) ← readAnchor s.cursor
      return (.anchor name, next)
    else if char = '!' then s.fetchLeaf fun s => do
      let (tag, next) ← readTag s.version s.cursor
      return (.tag tag, next)
    else if char = '|' && !s.inFlow then s.fetchBlockScalar false
    else if char = '>' && !s.inFlow then s.fetchBlockScalar true
    else if char = '\'' then s.fetchQuoted false
    else if char = '"' then s.fetchQuoted true
    else if s.startsPlain char then s.fetchPlain
    else .error .malformed

def isWaiting (s : TokenStream) : Bool := s.candidates.any fun (_, k) => k.number == s.taken

/-- Fetches tokens until it is known which one is the first. -/
def prepareFrom (s : TokenStream) : (fuel : Nat) → Except ReadError TokenStream
  | 0 => .ok s
  | fuel + 1 => do
    if s.done then return s
    else if s.queue.isEmpty then prepareFrom (← s.fetch) fuel
    else
      -- The first token may still get the token of a key or a block in front of it.
      let s ← s.dropStale
      if s.isWaiting then prepareFrom (← s.fetch) fuel else return s

def prepare (s : TokenStream) : Except ReadError TokenStream :=
  s.prepareFrom (s.cursor.left + 2)

def first (s : TokenStream) : Token := s.queue.headD .finish

def drop (s : TokenStream) : TokenStream :=
  { s with queue := s.queue.drop 1, taken := s.taken + 1 }

end TokenStream

end Formula.Yaml
