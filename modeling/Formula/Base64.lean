/-!
Bytes written with sixty-four characters, four of them for three bytes. Characters of other kinds
are skipped, and equals signs fill up the last group of four.
-/

set_option autoImplicit false

namespace Formula.Base64

def sextet? (c : Char) : Option Nat :=
  if 'A' ≤ c && c ≤ 'Z' then some (c.toNat - 65)
  else if 'a' ≤ c && c ≤ 'z' then some (c.toNat - 71)
  else if '0' ≤ c && c ≤ '9' then some (c.toNat + 4)
  else if c = '+' then some 62
  else if c = '/' then some 63
  else none

/-- Decodes a text from inside a group: `place` characters of it have been read, `carry` holds their
bits that are not put out yet, and `fill` equals signs have followed. The bytes put out so far come
latest first. -/
def decodeFrom (place carry fill : Nat) (out : List UInt8) : List Char → Option (List UInt8)
  | [] => if place = 0 then some out.reverse else none
  | c :: rest =>
    if c = '=' then
      if 2 ≤ place then
        if 4 ≤ place + fill + 1 then some out.reverse
        else decodeFrom place carry (fill + 1) out rest
      else decodeFrom place carry fill out rest
    else match sextet? c with
      | none => decodeFrom place carry fill out rest
      | some bits =>
        match place with
        | 0 => decodeFrom 1 bits 0 out rest
        | 1 => decodeFrom 2 (bits % 16) 0 (UInt8.ofNat (carry * 4 + bits / 16) :: out) rest
        | 2 => decodeFrom 3 (bits % 4) 0 (UInt8.ofNat (carry * 16 + bits / 4) :: out) rest
        | _ => decodeFrom 0 0 0 (UInt8.ofNat (carry * 64 + bits) :: out) rest

def decode? (text : List Char) : Option (List UInt8) := decodeFrom 0 0 0 [] text

end Formula.Base64
