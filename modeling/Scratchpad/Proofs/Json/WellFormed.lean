import Scratchpad.Json.Layout
import Scratchpad.Json.Value
import Scratchpad.Proofs.Json.Numeral
import Scratchpad.Proofs.Json.Quoted
import Scratchpad.Proofs.Json.Unreadable

/-!
Well-formed trees, whose numbers are numerals and whose strings are spelled legally. Whatever is
written for a text, a number or a value is well-formed, and the compact text of a well-formed tree
holds no control character (`Tree.WellFormed.not_isControl`), so that it stands on one line.
-/

set_option autoImplicit false
set_option relaxedAutoImplicit false

namespace Scratchpad.Json

private theorem Numeral.not_isControl_of_isPart {c : Char} (h : isPart c = true) :
    isControl c = false := by
  simp only [isPart, Scanner.isNumeralChar, Bool.or_eq_true, beq_iff_eq] at h
  rcases h with ((((h | rfl) | rfl) | rfl) | rfl) | rfl
  · have h0 : 48 ≤ c.toNat := by
      simp only [Char.isDigit, Bool.and_eq_true, decide_eq_true_eq] at h
      exact h.1
    simp only [isControl, decide_eq_false_iff_not]
    omega
  all_goals rfl

namespace Tree

/-- A tree whose numbers are numerals and whose strings are spelled legally. -/
inductive WellFormed : Tree → Prop
  | null : WellFormed .null
  | bool (b : Bool) : WellFormed (.bool b)
  | number {n : Text} (h : (Numeral.read? n).isSome = true) : WellFormed (.number n)
  | string {body : Text} (h : Quoted.wellFormed body = true) : WellFormed (.string body)
  | array {ts : List Tree} (h : ∀ t ∈ ts, WellFormed t) : WellFormed (.array ts)
  | object {ms : List (Text × Tree)} (hkey : ∀ m ∈ ms, Quoted.wellFormed m.1 = true)
      (h : ∀ m ∈ ms, WellFormed m.2) : WellFormed (.object ms)

theorem wellFormed_ofText (t : Text) : (ofText t).WellFormed :=
  .string (Quoted.wellFormed_encode t)

theorem wellFormed_ofNat (n : Nat) : (ofNat n).WellFormed := by
  have h := Numeral.read?_text (Numeral.isLegal_ofNat false n)
  rw [Numeral.text_ofNat, if_neg Bool.false_ne_true, List.nil_append] at h
  exact .number (by rw [h, Option.isSome_some])

theorem wellFormed_ofInt (n : Int) : (ofInt n).WellFormed :=
  .number (Number.isSome_read?_text (.int n))

theorem wellFormed_ofMembers {ms : List (Text × Tree)} (h : ∀ m ∈ ms, m.2.WellFormed) :
    (ofMembers ms).WellFormed := by
  refine .object (fun m hm => ?_) fun m hm => ?_ <;> obtain ⟨n, hn, rfl⟩ := List.mem_map.1 hm
  · exact Quoted.wellFormed_encode n.1
  · exact h n hn

end Tree

namespace Value

mutual

theorem wellFormed_toTree : ∀ v : Value, v.toTree.WellFormed
  | .null => .null
  | .bool b => .bool b
  | .number n => .number n.isSome_read?_text
  | .string t => Tree.wellFormed_ofText t
  | .array vs => .array (wellFormed_toTrees vs)
  | .object ms => .object (fun m hm => (wellFormed_toMembers ms m hm).1)
      fun m hm => (wellFormed_toMembers ms m hm).2

private theorem wellFormed_toTrees : ∀ vs : List Value, ∀ t ∈ toTrees vs, t.WellFormed
  | [] => by simp [toTrees]
  | v :: vs => by
    rw [toTrees, List.forall_mem_cons]
    exact ⟨wellFormed_toTree v, wellFormed_toTrees vs⟩

private theorem wellFormed_toMembers : ∀ ms : List (Text × Value), ∀ m ∈ toMembers ms,
    Quoted.wellFormed m.1 = true ∧ m.2.WellFormed
  | [] => by simp [toMembers]
  | (k, v) :: ms => by
    rw [toMembers, List.forall_mem_cons]
    exact ⟨⟨Quoted.wellFormed_encode k, wellFormed_toTree v⟩, wellFormed_toMembers ms⟩

end

end Value

namespace Tree

theorem compactItems_cons_cons (t u : Tree) (ts : List Tree) :
    compactItems (t :: u :: ts) = compact t ++ ',' :: compactItems (u :: ts) := by
  rw [compactItems]
  simp

theorem compactMembers_cons_cons (m n : Text × Tree) (ms : List (Text × Tree)) :
    compactMembers (m :: n :: ms) =
      quote m.1 ++ ':' :: (compact m.2 ++ ',' :: compactMembers (n :: ms)) := by
  rw [compactMembers]
  simp

private theorem forall_mem_compactItems {p : Char → Prop} (hcomma : p ',') {ts : List Tree}
    (h : ∀ t ∈ ts, ∀ c ∈ compact t, p c) : ∀ c ∈ compactItems ts, p c := by
  induction ts with
  | nil => simp [compactItems]
  | cons t ts ih =>
    rw [List.forall_mem_cons] at h
    cases ts with
    | nil => simpa [compactItems] using h.1
    | cons u ts =>
      rw [compactItems_cons_cons, List.forall_mem_append, List.forall_mem_cons]
      exact ⟨h.1, hcomma, ih h.2⟩

private theorem forall_mem_quote {p : Char → Prop} (hquote : p '"') {body : Text}
    (h : ∀ c ∈ body, p c) : ∀ c ∈ quote body, p c := by
  rw [quote, List.cons_append, List.forall_mem_cons, List.forall_mem_append]
  exact ⟨hquote, h, by simpa using hquote⟩

private theorem forall_mem_compactMembers {p : Char → Prop} (hquote : p '"') (hcolon : p ':')
    (hcomma : p ',') {ms : List (Text × Tree)} (hkey : ∀ m ∈ ms, ∀ c ∈ m.1, p c)
    (h : ∀ m ∈ ms, ∀ c ∈ compact m.2, p c) : ∀ c ∈ compactMembers ms, p c := by
  induction ms with
  | nil => simp [compactMembers]
  | cons m ms ih =>
    rw [List.forall_mem_cons] at hkey h
    have hm := forall_mem_quote hquote hkey.1
    cases ms with
    | nil =>
      rw [compactMembers, List.forall_mem_append, List.forall_mem_cons]
      exact ⟨hm, hcolon, h.1⟩
    | cons n ms =>
      rw [compactMembers_cons_cons, List.forall_mem_append, List.forall_mem_cons,
        List.forall_mem_append, List.forall_mem_cons]
      exact ⟨hm, hcolon, h.1, hcomma, ih hkey.2 h.2⟩

theorem WellFormed.not_isControl {t : Tree} (h : t.WellFormed) :
    ∀ c ∈ t.compact, isControl c = false := by
  induction h with
  | null => simp [compact, isControl]
  | bool b => cases b <;> simp [compact, isControl]
  | @number n h =>
    obtain ⟨parts, hn⟩ := Option.isSome_iff_exists.1 h
    exact fun c hc => Numeral.not_isControl_of_isPart (Numeral.isPart_of_read? hn c hc)
  | @string body h =>
    exact forall_mem_quote (by decide) (Quoted.not_isControl_of_wellFormed h)
  | @array ts h ih =>
    rw [compact, List.cons_append, List.forall_mem_cons, List.forall_mem_append]
    exact ⟨by decide, forall_mem_compactItems (by decide) ih, List.forall_mem_singleton.2 (by decide)⟩
  | @object ms hkey h ih =>
    rw [compact, List.cons_append, List.forall_mem_cons, List.forall_mem_append]
    exact ⟨by decide, forall_mem_compactMembers (by decide) (by decide) (by decide)
      (fun m hm => Quoted.not_isControl_of_wellFormed (hkey m hm)) ih,
      List.forall_mem_singleton.2 (by decide)⟩

end Tree

end Scratchpad.Json
