import Scratchpad.Text.Basic

/-!
The inside of a quoted JSON string. `encode` writes a text with as few escapes as the format
allows; `decode?` reads every legal escape, joins surrogate pairs and refuses what stands for no
text: a bare quote, a control character, a lone surrogate. `wellFormed` only checks that the
escapes are spelled legally, which is all that is asked of a string that nobody reads.
-/

set_option autoImplicit false
set_option relaxedAutoImplicit false

namespace Scratchpad.Json.Quoted

def hexDigit (n : Nat) : Char :=
  Nat.digitChar n

def hexValue? (c : Char) : Option Nat :=
  if '0' ≤ c ∧ c ≤ '9' then some (c.toNat - '0'.toNat)
  else if 'a' ≤ c ∧ c ≤ 'f' then some (c.toNat - 'a'.toNat + 10)
  else if 'A' ≤ c ∧ c ≤ 'F' then some (c.toNat - 'A'.toNat + 10)
  else none

/-- One character as it stands inside the quotes: the quote, the backslash and the control
characters are escaped, by their short form where they have one. -/
def escape (c : Char) : Text :=
  if c = '"' then ['\\', '"']
  else if c = '\\' then ['\\', '\\']
  else if c = '\x08' then ['\\', 'b']
  else if c = '\x0c' then ['\\', 'f']
  else if c = '\n' then ['\\', 'n']
  else if c = '\r' then ['\\', 'r']
  else if c = '\t' then ['\\', 't']
  else if c.toNat < 0x20 then
    ['\\', 'u', '0', '0', hexDigit (c.toNat / 16), hexDigit (c.toNat % 16)]
  else [c]

def encode (t : Text) : Text :=
  t.flatMap escape

def shortEscape? (c : Char) : Option Char :=
  if c = '"' then some '"'
  else if c = '\\' then some '\\'
  else if c = '/' then some '/'
  else if c = 'b' then some '\x08'
  else if c = 'f' then some '\x0c'
  else if c = 'n' then some '\n'
  else if c = 'r' then some '\r'
  else if c = 't' then some '\t'
  else none

def unit? (a b c d : Char) : Option Nat := do
  let a ← hexValue? a
  let b ← hexValue? b
  let c ← hexValue? c
  let d ← hexValue? d
  return ((a * 16 + b) * 16 + c) * 16 + d

def isHighSurrogate (n : Nat) : Bool :=
  0xD800 ≤ n && n < 0xDC00

def isLowSurrogate (n : Nat) : Bool :=
  0xDC00 ≤ n && n < 0xE000

def decode? : Text → Option Text
  | [] => some []
  | '\\' :: 'u' :: a :: b :: c :: d :: r => do
    let n ← unit? a b c d
    if isLowSurrogate n then none
    else if isHighSurrogate n then
      match r with
      | '\\' :: 'u' :: a' :: b' :: c' :: d' :: r' => do
        let n' ← unit? a' b' c' d'
        if isLowSurrogate n' then
          return Char.ofNat (0x10000 + (n - 0xD800) * 0x400 + (n' - 0xDC00)) :: (← decode? r')
        else none
      | _ => none
    else return Char.ofNat n :: (← decode? r)
  | '\\' :: e :: r => do
    let c ← shortEscape? e
    return c :: (← decode? r)
  | c :: r => if c = '"' ∨ c = '\\' ∨ c.toNat < 0x20 then none else (decode? r).map (c :: ·)

/-- Whether every escape is spelled legally and no control character stands bare. -/
def wellFormed : Text → Bool
  | [] => true
  | '\\' :: 'u' :: a :: b :: c :: d :: r => (unit? a b c d).isSome && wellFormed r
  | '\\' :: e :: r => (shortEscape? e).isSome && wellFormed r
  | c :: r => c != '"' && c != '\\' && 0x20 ≤ c.toNat && wellFormed r

end Scratchpad.Json.Quoted
