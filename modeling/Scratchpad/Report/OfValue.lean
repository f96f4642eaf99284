import Scratchpad.Report.Fields

/-!
Taking a report from a JSON value. A value has no repeated keys and its depth is settled, so only
the shapes of the fields are at stake.
-/

set_option autoImplicit false
set_option relaxedAutoImplicit false

namespace Scratchpad.Report

open Json (Value)

namespace OfValue

def fields? (names : List Text) : Value → Option (List (Slot Value))
  | .object members => Slot.ofMembers? names members
  | .array items => Slot.ofItems? names.length items
  | _ => none

def list? {α : Type} (f : Value → Option α) : Value → Option (List α)
  | .array items => items.mapM f
  | _ => none

def nullable? {α : Type} (f : Value → Option α) : Value → Option (Option α)
  | .null => some none
  | v => (f v).map some

def text? : Value → Option Text
  | .string t => some t
  | _ => none

def int? : Value → Option Int
  | .number (.int n) => some n
  | _ => none

def nat? : Value → Option Nat
  | .number (.int (.ofNat n)) => some n
  | _ => none

def kind? : Value → Option OutputKind
  | .string t => OutputKind.named? t
  | .object [(key, .null)] => OutputKind.named? key
  | _ => none

def entry? (v : Value) : Option Entry := do
  match ← fields? entryFields v with
  | [kind, text] => return ⟨← kind.required? kind?, ← text.required? text?⟩
  | _ => none

def fault? (v : Value) : Option Fault := do
  match ← fields? faultFields v with
  | [message, stack] =>
    return ⟨← message.required? text?, ← stack.orElse? none (nullable? text?)⟩
  | _ => none

def reading? (v : Value) : Option Reading := do
  match ← fields? readingFields v with
  | [line, expression, value, error] =>
    return {
      line := ← line.required? nat?
      expression := ← expression.required? text?
      value := ← value.orElse? none (nullable? some)
      error := ← error.orElse? none (nullable? text?) }
  | _ => none

def stats? (v : Value) : Option Stats := do
  match ← fields? statsFields v with
  | [duration, exitCode] =>
    return {
      nanoseconds := ← duration.required? fun v => (nat? v).map nanosecondsOf
      exitCode := ← exitCode.absentOr? none (nullable? fun v => int? v >>= exitCode?) }
  | _ => none

end OfValue

open OfValue in
/-- The report that a value stands for. -/
def ofValue? (v : Value) : Option Report := do
  match ← fields? reportFields v with
  | [output, value, error, probes, stats] =>
    return {
      output := ← output.orElse? [] (list? entry?)
      value := ← value.orElse? none fun v => some (some v)
      error := ← error.orElse? none (nullable? fault?)
      probes := ← probes.orElse? [] (list? reading?)
      stats := ← stats.orElse? none (nullable? stats?) }
  | _ => none

end Scratchpad.Report
