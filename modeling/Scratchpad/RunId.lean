import Scratchpad.Json.Quoted

/-!
Identifiers of runs: numbers of 128 bits, written as 32 hexadecimal digits, plain or in groups with
hyphens between them.
-/

set_option autoImplicit false
set_option relaxedAutoImplicit false

namespace Scratchpad

structure RunId where
  bits : BitVec 128
  deriving DecidableEq

namespace RunId

def groupLengths : List Nat :=
  [8, 4, 4, 4, 12]

def hexDigits : (count : Nat) → (n : Nat) → Text
  | 0, _ => []
  | k + 1, n => hexDigits k (n / 16) ++ [Json.Quoted.hexDigit (n % 16)]

def simple (id : RunId) : Text :=
  hexDigits 32 id.bits.toNat

def grouped : List Nat → Text → List Text
  | [], _ => []
  | n :: ns, t => t.take n :: grouped ns (t.drop n)

def hyphenated (id : RunId) : Text :=
  List.intercalate ['-'] (grouped groupLengths id.simple)

def hexNumber? : (n : Nat) → Text → Option Nat
  | n, [] => some n
  | n, c :: t => Json.Quoted.hexValue? c >>= fun d => hexNumber? (n * 16 + d) t

def ofSimple? (t : Text) : Option RunId :=
  if t.length = 32 then (hexNumber? 0 t).map fun n => ⟨BitVec.ofNat 128 n⟩ else none

def ofHyphenated? (t : Text) : Option RunId :=
  let groups := t.splitOn '-'
  if groups.map List.length = groupLengths then ofSimple? groups.flatten else none

def betweenBraces? (t : Text) : Option Text :=
  match t with
  | '\x7b' :: t => if t.getLast? = some '\x7d' then some t.dropLast else none
  | _ => none

/-- What follows the mark of a uniform resource name, in letters of either case. -/
def afterName? (t : Text) : Option Text :=
  let mark := "urn:uuid:".toList
  if Text.lower (t.take mark.length) = mark then some (t.drop mark.length) else none

/-- Reads an identifier: plain, hyphenated, hyphenated in braces or as a uniform resource name; the
digits may be of either case. -/
def parse? (t : Text) : Option RunId :=
  match ofSimple? t with
  | some id => some id
  | none =>
    match betweenBraces? t with
    | some t => ofHyphenated? t
    | none => ofHyphenated? ((afterName? t).getD t)

/-- The identifier made of random bits, with the four bits of the version and the two of the variant
set as for random identifiers. -/
def ofRandom (bits : BitVec 128) : RunId :=
  ⟨(bits &&& ~~~(0xF000#128 <<< 64) &&& ~~~(0xC#128 <<< 60)) ||| (0x4000#128 <<< 64) |||
    (0x8#128 <<< 60)⟩

def isRandom (id : RunId) : Bool :=
  id.bits &&& (0xF000#128 <<< 64) == (0x4000#128 <<< 64) &&
    id.bits &&& (0xC#128 <<< 60) == (0x8#128 <<< 60)

end RunId

end Scratchpad
