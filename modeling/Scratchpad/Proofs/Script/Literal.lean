import Scratchpad.Harness
import Scratchpad.Proofs.Json.WellFormed
import Scratchpad.Proofs.Text.PrefixFree

/-!
Literals read back. A reader of each kind of literal gives the text that the literal was written for
and what stands behind it, whatever that is (`readSingle?_append`, `readJson?_append`). So no text
can break out of its literal, and the literals of snippets and of lists of probes are prefix-free.
-/

set_option autoImplicit false
set_option relaxedAutoImplicit false

namespace Scratchpad

namespace Json.Quoted

/-- What stands before the quote that ends a string, and what stands behind it. A backslash keeps
the character after it from ending the string. -/
def close? : Text → Option (Text × Text)
  | [] => none
  | '"' :: r => some ([], r)
  | '\\' :: c :: r => (close? r).map fun p => ('\\' :: c :: p.1, p.2)
  | c :: r => (close? r).map fun p => (c :: p.1, p.2)

private theorem close?_cons {c : Char} (hquote : c ≠ '"') (hslash : c ≠ '\\') (t : Text) :
    close? (c :: t) = (close? t).map fun p => (c :: p.1, p.2) := by
  simp [close?, hslash]

private theorem close?_plain_append {w : Text} (hw : ∀ c ∈ w, c ≠ '"' ∧ c ≠ '\\') (s : Text) :
    close? (w ++ s) = (close? s).map fun p => (w ++ p.1, p.2) := by
  induction w with
  | nil => simp
  | cons c w ih =>
    rw [List.forall_mem_cons] at hw
    rw [List.cons_append, close?_cons hw.1.1 hw.1.2, ih hw.2, Option.map_map]
    rfl

theorem close?_wellFormed_append {b : Text} (h : wellFormed b = true) (r : Text) :
    close? (b ++ '"' :: r) = some (b, r) := by
  have hslash : ∀ (e : Char) (s : Text), close? ('\\' :: e :: s) =
      (close? s).map fun p => ('\\' :: e :: p.1, p.2) := fun _ _ => rfl
  fun_induction wellFormed b with
  | case1 => rfl
  | case2 a b c d s ih =>
    rw [Bool.and_eq_true] at h
    have hunit := close?_plain_append (not_quote_of_unit? h.1) (s ++ '"' :: r)
    rw [ih h.2] at hunit
    simp only [List.cons_append, List.nil_append, Option.map_some] at hunit ⊢
    rw [hslash, hunit, Option.map_some]
  | case3 e s hu ih =>
    rw [Bool.and_eq_true] at h
    rw [List.cons_append, List.cons_append, hslash, ih h.2, Option.map_some]
  | case4 c s h1 h2 ih =>
    simp only [Bool.and_eq_true, bne_iff_ne] at h
    rw [List.cons_append, close?_cons h.1.1.1 h.1.1.2, ih h.2, Option.map_some]

end Json.Quoted

namespace Literal

open Text (PrefixFree)

/-- Reads a literal with the escapes of JSON: the text that it stands for, and what follows. -/
def readJson? : Text → Option (Text × Text)
  | '"' :: r => do
    let (body, r) ← Json.Quoted.close? r
    let t ← Json.Quoted.decode? body
    return (t, r)
  | _ => none

theorem readJson?_append (t u : Text) : readJson? (json t ++ u) = some (t, u) := by
  have hbody := Json.Quoted.close?_wellFormed_append (Json.Quoted.wellFormed_encode t) u
  simp [readJson?, json, hbody, Json.Quoted.decode?_encode]

private theorem prefixFree_json : PrefixFree json :=
  .of_read readJson? readJson?_append

/-- Reads a literal in single quotes of which the first quote has been read. A backslash stands for
itself unless a quote or another backslash follows. -/
def closeSingle? : Text → Option (Text × Text)
  | [] => none
  | '\x27' :: r => some ([], r)
  | '\\' :: '\\' :: r => (closeSingle? r).map fun p => ('\\' :: p.1, p.2)
  | '\\' :: '\x27' :: r => (closeSingle? r).map fun p => ('\x27' :: p.1, p.2)
  | c :: r => (closeSingle? r).map fun p => (c :: p.1, p.2)

def readSingle? : Text → Option (Text × Text)
  | '\x27' :: r => closeSingle? r
  | _ => none

private theorem closeSingle?_escape_append (c : Char) (t : Text) :
    closeSingle? (escapeSingle c ++ t) = (closeSingle? t).map fun p => (c :: p.1, p.2) := by
  unfold escapeSingle
  split_ifs with hc
  · rcases hc with rfl | rfl <;> rfl
  · rw [not_or] at hc
    simp [closeSingle?, hc.1, hc.2]

theorem readSingle?_append (t u : Text) : readSingle? (singleQuoted t ++ u) = some (t, u) := by
  have hbody : closeSingle? (t.flatMap escapeSingle ++ '\x27' :: u) = some (t, u) := by
    induction t with
    | nil => rfl
    | cons c t ih =>
      rw [List.flatMap_cons, List.append_assoc, closeSingle?_escape_append, ih, Option.map_some]
  simp [readSingle?, singleQuoted, hbody]

private theorem prefixFree_singleQuoted : PrefixFree singleQuoted :=
  .of_read readSingle? readSingle?_append

end Literal

private theorem Json.Tree.compact_array (ts : List Json.Tree) :
    (Json.Tree.array ts).compact = ['['] ++ (List.intercalate [','] (ts.map compact) ++ [']']) := by
  have hitems : compactItems ts = List.intercalate [','] (ts.map compact) := by
    induction ts with
    | nil => rfl
    | cons t ts ih =>
      cases ts with
      | nil => simp [compactItems]
      | cons u ts =>
        rw [compactItems_cons_cons, ih, List.map_cons, List.map_cons, List.map_cons,
          List.intercalate_cons_cons, List.append_assoc, List.singleton_append]
  rw [compact, hitems]
  rfl

namespace Harness

open Text (PrefixFree)

private theorem prefixFree_probes {lit : Text → Text} (hlit : PrefixFree lit) {item : Probe → Text}
    {opening : Char} (hopening : opening ≠ ']') (first between last sep : Text)
    (hitem : ∀ p, item p = opening :: first ++
      (Nat.toDigits 10 p.line ++ [','] ++ (between ++ (lit p.expression ++ last)))) :
    PrefixFree fun ps : List Probe =>
      ['['] ++ (List.intercalate (',' :: sep) (ps.map item) ++ [']']) := by
  have hparts : Function.Injective fun p : Probe => (p.line, p.expression) := by
    rintro ⟨n, e⟩ ⟨m, d⟩ h
    obtain ⟨rfl, rfl⟩ := Prod.mk.inj h
    rfl
  have hpair := (PrefixFree.toDigits (by decide : ','.isDigit = false)).prod
    ((hlit.append last).prepend between)
  have hfree : PrefixFree item := by
    rw [funext hitem]
    exact (hpair.comp hparts).prepend (opening :: first)
  have hstart : ∀ p, ∃ c w, item p = c :: w ∧ c ≠ ']' := fun p => ⟨opening, _, hitem p, hopening⟩
  exact (hfree.separated hstart (by decide) sep).prepend ['[']

private theorem prefixFree_probeObjects : PrefixFree probeObjects := by
  have hlist : probeObjects = fun ps => ['['] ++
      (List.intercalate [','] (ps.map fun p => (Report.probeTree p).compact) ++ [']']) := by
    funext ps
    rw [probeObjects, Json.Tree.compact_array, List.map_map]
    rfl
  rw [hlist]
  refine prefixFree_probes Literal.prefixFree_json (by decide : '{' ≠ ']')
    (Json.Tree.quote (Json.Quoted.encode "line".toList) ++ [':'])
    (Json.Tree.quote (Json.Quoted.encode "expression".toList) ++ [':']) ['}'] [] fun p => ?_
  rw [Report.probeTree, Json.Tree.ofMembers, List.map_cons, List.map_singleton, Json.Tree.compact,
    Json.Tree.compactMembers_cons_cons, Json.Tree.compactMembers]
  simp only [Json.Tree.ofNat, Json.Tree.ofText, Json.Tree.compact, Literal.json, Json.Tree.quote,
    List.append_assoc, List.cons_append, List.nil_append]

private theorem prefixFree_probePairs : PrefixFree probePairs := by
  have hlist : probePairs = fun ps => ['['] ++ (List.intercalate [','] (ps.map fun p =>
      (Json.Tree.array [.ofNat p.line, .ofText p.expression]).compact) ++ [']']) := by
    funext ps
    rw [probePairs, Json.Tree.compact_array, List.map_map]
    rfl
  rw [hlist]
  refine prefixFree_probes Literal.prefixFree_json (by decide : '[' ≠ ']') [] [] [']'] []
    fun p => ?_
  rw [Json.Tree.compact_array, List.map_cons, List.map_singleton, List.intercalate_cons_cons,
    List.intercalate_singleton]
  simp only [Json.Tree.ofNat, Json.Tree.ofText, Json.Tree.compact, Literal.json, Json.Tree.quote,
    List.append_assoc, List.cons_append, List.nil_append]

private theorem prefixFree_quotedPairs : PrefixFree quotedPairs := by
  refine prefixFree_probes Literal.prefixFree_singleQuoted (by decide : '[' ≠ ']') [] [' '] [']']
    [' '] fun p => ?_
  rw [bracketed, List.intercalate_cons_cons, List.intercalate_singleton]
  simp only [List.append_assoc, List.cons_append, List.nil_append]

end Harness

namespace Language

open Text (PrefixFree)

theorem prefixFree_literal (l : Language) : PrefixFree l.literal := by
  cases l with
  | javaScript => exact Literal.prefixFree_json
  | python => exact Literal.prefixFree_json
  | php => exact Literal.prefixFree_singleQuoted
  | ruby => exact Literal.prefixFree_singleQuoted

theorem prefixFree_probesLiteral (l : Language) : PrefixFree l.probesLiteral := by
  cases l with
  | javaScript => exact Harness.prefixFree_probeObjects
  | python => exact Literal.prefixFree_json.comp Harness.prefixFree_probePairs.injective
  | php => exact Harness.prefixFree_quotedPairs
  | ruby => exact Harness.prefixFree_quotedPairs.append ".freeze".toList

end Language

end Scratchpad
