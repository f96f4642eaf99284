import Scratchpad.Text.Basic

/-!
Blank characters are those with the Unicode property `White_Space`. Trimming takes them off the ends
of a text.
-/

set_option autoImplicit false
set_option relaxedAutoImplicit false

namespace Scratchpad.Text

/-- A character with the Unicode property `White_Space`. -/
def isBlank (c : Char) : Bool :=
  let n := c.toNat
  (0x9 ≤ n && n ≤ 0xD) || n == 0x20 || n == 0x85 || n == 0xA0 || n == 0x1680 ||
    (0x2000 ≤ n && n ≤ 0x200A) || n == 0x2028 || n == 0x2029 || n == 0x202F || n == 0x205F ||
    n == 0x3000

def trimStart (t : Text) : Text :=
  t.dropWhile isBlank

def trimEndWhile (p : Char → Bool) (t : Text) : Text :=
  (t.reverse.dropWhile p).reverse

def trimEnd (t : Text) : Text :=
  trimEndWhile isBlank t

def trim (t : Text) : Text :=
  trimEnd (trimStart t)

def indentation (t : Text) : Text :=
  t.takeWhile isBlank

def isAllBlank (t : Text) : Bool :=
  t.all isBlank

theorem indentation_append_trimStart (t : Text) : indentation t ++ trimStart t = t :=
  List.takeWhile_append_dropWhile

end Scratchpad.Text
