import Scratchpad.Text.Basic

/-!
Reading bytes as UTF-8. Bytes that make no character do not stop the reading: each longest start of
a character that is not completed, and each byte that starts none, gives one replacement character.
-/

set_option autoImplicit false
set_option relaxedAutoImplicit false

namespace Scratchpad.Text.Utf8

def replacement : Char := '\ufffd'

structure Started where
  bits : Nat
  missing : Nat
  low : Nat
  high : Nat

/-- What a byte gives that does not go on with a character: a character, or the start of one. -/
def lead (b : Nat) : Text × Option Started :=
  if b < 0x80 then ([Char.ofNat b], none)
  else if b < 0xC2 then ([replacement], none)
  else if b < 0xE0 then ([], some ⟨b - 0xC0, 1, 0x80, 0xBF⟩)
  else if b = 0xE0 then ([], some ⟨0, 2, 0xA0, 0xBF⟩)
  else if b = 0xED then ([], some ⟨0xD, 2, 0x80, 0x9F⟩)
  else if b < 0xF0 then ([], some ⟨b - 0xE0, 2, 0x80, 0xBF⟩)
  else if b = 0xF0 then ([], some ⟨0, 3, 0x90, 0xBF⟩)
  else if b < 0xF4 then ([], some ⟨b - 0xF0, 3, 0x80, 0xBF⟩)
  else if b = 0xF4 then ([], some ⟨4, 3, 0x80, 0x8F⟩)
  else ([replacement], none)

def step (s : Option Started) (b : Nat) : Text × Option Started :=
  match s with
  | none => lead b
  | some p =>
    if p.low ≤ b ∧ b ≤ p.high then
      let bits := p.bits * 64 + (b - 0x80)
      if p.missing ≤ 1 then ([Char.ofNat bits], none)
      else ([], some ⟨bits, p.missing - 1, 0x80, 0xBF⟩)
    else
      let (t, s) := lead b
      (replacement :: t, s)

def decodeFrom (s : Option Started) : List UInt8 → Text
  | [] => if s.isSome then [replacement] else []
  | b :: bs =>
    let (t, s) := step s b.toNat
    t ++ decodeFrom s bs

def decode (bs : List UInt8) : Text :=
  decodeFrom none bs

end Scratchpad.Text.Utf8
