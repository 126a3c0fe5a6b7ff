import Formula.Yaml.Scalar.Quoted

/-!
Tags as they are written: a handle that stands for the front of a name, and the rest of the name
with some characters written as bytes. Directives give handles a meaning and ask for a version.
-/

set_option autoImplicit false

namespace Formula.Yaml

def coreTags : String := "tag:yaml.org,2002:"

/-- A tag as written; without a handle the rest is the whole name. -/
structure WrittenTag where
  handle : Option String
  rest : String

inductive Directive where
  | version (major minor : Nat)
  | handle (handle front : String)
  | other

def isWordChar (c : Char) : Bool := c.isAlphanum || c = '-' || c = '_'

def isUriChar (version : Version) (c : Char) : Bool :=
  c.isAlphanum || "-;/?:@&=+$,_.!~*'()[]%".toList.contains c || c = '#' && version == .oneTwo

/-- Whether bytes, latest first, spell characters. -/
def spellText (bytes : List UInt8) : Bool := (String.fromUTF8? ⟨bytes.reverse.toArray⟩).isSome

/-- Whether every percent sign is followed by two hexadecimal digits, and bytes in a row spell
characters. -/
def escapesValid (bytes : List UInt8) : List Char → Bool
  | [] => spellText bytes
  | '%' :: high :: low :: rest =>
    match hexNumber? [high, low] with
    | some byte => escapesValid (UInt8.ofNat byte :: bytes) rest
    | none => false
  | c :: rest => c ≠ '%' && spellText bytes && escapesValid [] rest

def unescapeUri : List Char → List Char
  | '%' :: high :: low :: rest =>
    Char.ofNat ((hexNumber? [high, low]).getD 0) :: unescapeUri rest
  | c :: rest => c :: unescapeUri rest
  | [] => []

def readUri (version : Version) (c : Cursor) : Except ReadError (String × Cursor) :=
  let (chars, next) := c.takeWhile (isUriChar version)
  if !chars.isEmpty && escapesValid [] chars then .ok (String.ofList chars, next)
  else .error .malformed

def readHandle (c : Cursor) : Except ReadError (String × Cursor) :=
  match c.rest with
  | '!' :: rest =>
    if rest.head? = some ' ' then .ok ("!", c.step)
    else
      let word := rest.takeWhile isWordChar
      if (rest.drop word.length).head? = some '!' then
        .ok (String.ofList ('!' :: word ++ ['!']), c.skip (word.length + 2))
      else .error .malformed
  | _ => .error .malformed

/-- Reads the tag whose last leading exclamation mark is at the place. -/
def readTagBody (version : Version) (shortHandle : String) (c : Cursor) :
    Except ReadError (WrittenTag × Cursor) := do
  if c.second? = some '<' then
    let (rest, next) ← readUri version (c.skip 2)
    if next.head? = some '>' then return ({ handle := none, rest }, next.step)
    else .error .malformed
  else if isCut c.second? then return ({ handle := none, rest := shortHandle }, c.step)
  else
    let (handle, next) ←
      if ((c.rest.drop 1).takeWhile fun char => !endsWord (some char)).contains '!' then
        readHandle c
      else pure (shortHandle, c.step)
    let (rest, next) ← readUri version next
    return ({ handle := some handle, rest }, next)

/-- Reads a tag; it must be set off from what follows it. -/
def readTag (version : Version) (c : Cursor) : Except ReadError (WrittenTag × Cursor) := do
  let (tag, next) ← if c.second? = some '!' then readTagBody version "!!" c.step
    else readTagBody version "!" c
  if endsWord next.head? then return (tag, next) else .error .malformed

def WrittenTag.name? (handles : List (String × String)) (tag : WrittenTag) : Option String :=
  let rest := String.ofList (unescapeUri tag.rest.toList)
  match tag.handle with
  | none => some rest
  | some handle => (handles.find? fun entry => entry.1 == handle).map (·.2 ++ rest)

def standardHandles : List (String × String) := [("!", "!"), ("!!", coreTags)]

def isAnchorChar (c : Char) : Bool :=
  let code := c.toNat
  !([',', '[', ']', '\x7b', '\x7d'].contains c) &&
    ((0x21 ≤ code && code ≤ 0x7e) || (0xa0 ≤ code && code ≤ 0xfffd && c ≠ '\uFEFF')
      || 0x10000 ≤ code)

def endsAnchor : Option Char → Bool
  | none => true
  | some c => isWhite c || isBreak c || "?:,[]%@\x60".toList.contains c || c = '\x7b' || c = '\x7d'

def readAnchor (c : Cursor) : Except ReadError (String × Cursor) :=
  let (name, next) := c.step.takeWhile isAnchorChar
  if name.isEmpty || !endsAnchor next.head? then .error .malformed
  else .ok (String.ofList name, next)

def readNumber (c : Cursor) : Except ReadError (Nat × Cursor) :=
  let (digits, next) := c.takeWhile Char.isDigit
  if digits.isEmpty then .error .malformed else .ok (Nat.ofDigitChars 10 digits 0, next)

def readVersion (c : Cursor) : Except ReadError (Directive × Cursor) := do
  let (major, next) ← readNumber c.skipSpaces
  if next.head? ≠ some '.' then .error .malformed
  let (minor, next) ← readNumber next.step
  if endsWord next.head? then return (.version major minor, next) else .error .malformed

def readHandleDirective (version : Version) (c : Cursor) :
    Except ReadError (Directive × Cursor) := do
  let (handle, next) ← readHandle c.skipSpaces
  if next.head? ≠ some ' ' then .error .malformed
  let (front, next) ← readUri version next.skipSpaces
  if endsWord next.head? then return (.handle handle front, next) else .error .malformed

def readDirective (version : Version) (c : Cursor) : Except ReadError (Directive × Cursor) := do
  let (name, next) := c.step.takeWhile fun char => isWordChar char || char = ':' || char = '.'
  if name.isEmpty || !endsWord next.head? then .error .malformed
  let (directive, next) ← match String.ofList name with
    | "YAML" => readVersion next
    | "TAG" => readHandleDirective version next
    | _ => pure (.other, next.toLineEnd.2)
  let behind := next.skipSpaces
  let behind := if behind.head? = some '#' then behind.toLineEnd.2 else behind
  if endsLine behind.head? then return (directive, behind.step) else .error .malformed

end Formula.Yaml
