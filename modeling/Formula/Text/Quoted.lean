import Formula.Text.Class

/-!
Quoted text, as messages show it: single quotes, or double quotes where only single quotes occur
inside, and an escape for the quote, the backslash and every character without a visible form. Code
points that are no characters and bytes are quoted by the same rule.
-/

set_option autoImplicit false

namespace Formula.Text

def hexDigits (width code : Nat) : List Char :=
  (List.range width).reverse.map fun place => Nat.digitChar (code.shiftRight (4 * place) % 16)

def escape (quote c : Char) : List Char :=
  if c = quote || c = '\\' then ['\\', c]
  else if c = '\n' then ['\\', 'n']
  else if c = '\r' then ['\\', 'r']
  else if c = '\t' then ['\\', 't']
  else if isVisible c then [c]
  else if c.toNat < 0x100 then '\\' :: 'x' :: hexDigits 2 c.toNat
  else if c.toNat < 0x10000 then '\\' :: 'u' :: hexDigits 4 c.toNat
  else '\\' :: 'U' :: hexDigits 8 c.toNat

/-- Double quotes are used only where they save escaping a single quote. -/
def quoteFor (text : List Char) : Char :=
  if text.contains '\'' && !text.contains '"' then '"' else '\''

def quoteChars (text : List Char) : List Char :=
  let quote := quoteFor text
  quote :: text.flatMap (escape quote) ++ [quote]

def quote (text : String) : String := String.ofList (quoteChars text.toList)

def quoteChar (c : Char) : String := quote (String.singleton c)

/-- One code point between quotes; half of a surrogate pair is no character and is escaped. -/
def escapeCode (quote : Char) (code : Nat) : List Char :=
  if code.isValidChar then escape quote (Char.ofNat code) else '\\' :: 'u' :: hexDigits 4 code

def quoteCodes (codes : List Nat) : String :=
  let quote := quoteFor (codes.map Char.ofNat)
  String.ofList (quote :: codes.flatMap (escapeCode quote) ++ [quote])

def escapeByte (quote : Char) (byte : UInt8) : List Char :=
  if byte.toNat < 0x7f then escape quote (Char.ofNat byte.toNat)
  else '\\' :: 'x' :: hexDigits 2 byte.toNat

def quoteBytes (bytes : List UInt8) : String :=
  let quote := quoteFor (bytes.map fun byte => Char.ofNat byte.toNat)
  String.ofList ('b' :: quote :: bytes.flatMap (escapeByte quote) ++ [quote])

end Formula.Text
