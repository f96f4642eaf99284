/-!
A text is the list of its characters. This module holds the searches that the other modules share:
the first occurrence of a word, the parts around it, and the replacement of every occurrence.
-/

set_option autoImplicit false
set_option relaxedAutoImplicit false

namespace Scratchpad

/-- A text is the list of its characters. -/
abbrev Text := List Char

namespace Text

def after? : Text → Text → Option Text
  | [], t => some t
  | a :: w, c :: t => if a = c then after? w t else none
  | _ :: _, [] => none

def startsWith (w t : Text) : Bool :=
  (after? w t).isSome

def endsWith (w t : Text) : Bool :=
  startsWith w.reverse t.reverse

/-- The part of a text from the first occurrence of `w` on. -/
def seek? (w : Text) : Text → Option Text
  | [] => if startsWith w [] then some [] else none
  | c :: t => if startsWith w (c :: t) then some (c :: t) else seek? w t

/-- The parts of a text before and after the first occurrence of `w`. -/
def cut? (w t : Text) : Option (Text × Text) :=
  (seek? w t).map fun s => (t.take (t.length - s.length), s.drop w.length)

def occurs (w t : Text) : Bool :=
  (seek? w t).isSome

/-- Replaces `w` by `r` wherever it occurs, from the left and without overlap, after leaving out the
first `skip` characters. -/
def replaceFrom (w r : Text) : (skip : Nat) → Text → Text
  | _, [] => []
  | k + 1, _ :: t => replaceFrom w r k t
  | 0, c :: t =>
    if startsWith w (c :: t) then r ++ replaceFrom w r (w.length - 1) t
    else c :: replaceFrom w r 0 t

def replace (w r t : Text) : Text :=
  replaceFrom w r 0 t

def firstAt? (words : List Text) (t : Text) : Option Text :=
  words.find? (startsWith · t)

def ofStrings (ts : List String) : List Text :=
  ts.map String.toList

/-- Letters `A` to `Z` become small; all else stays. -/
def lower (t : Text) : Text :=
  t.map Char.toLower

theorem after?_eq_some_iff {w t r : Text} : after? w t = some r ↔ t = w ++ r := by
  induction w generalizing t with
  | nil => simp [after?, eq_comm]
  | cons a w ih =>
    cases t with
    | nil => simp [after?]
    | cons c t =>
      by_cases h : a = c
      · simp [after?, h, ih]
      · simp [after?, h, Ne.symm h]

theorem startsWith_iff {w t : Text} : startsWith w t = true ↔ w <+: t := by
  simp only [startsWith, Option.isSome_iff_exists, after?_eq_some_iff]
  exact ⟨fun ⟨r, h⟩ => ⟨r, h.symm⟩, fun ⟨r, h⟩ => ⟨r, h.symm⟩⟩

end Text

end Scratchpad
