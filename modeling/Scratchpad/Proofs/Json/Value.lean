import Scratchpad.Json.Value
import Scratchpad.Proofs.Json.Numeral
import Scratchpad.Proofs.Json.Quoted

/-!
Values read back. A value in which every number is an integer of 64 bits (`Value.HasWords`) is what
its tree means (`Value.ofTree?_toTree`), if there is room for the depth of the tree. The keys of its
objects have to be in order (`Value.Ordered`), as they are in every value that is read
(`Value.ordered_of_ofTree?`).
-/

set_option autoImplicit false
set_option relaxedAutoImplicit false

namespace Scratchpad.Json

namespace Number

/-- An integer of 64 bits, with or without a sign. -/
def IsWord : Number → Prop
  | .int n => -(Nat.pow 2 63 : Int) ≤ n ∧ n ≤ Numeral.maxWord
  | .real _ => False

instance (n : Number) : Decidable n.IsWord :=
  match n with
  | .int n => inferInstanceAs (Decidable (-(Nat.pow 2 63 : Int) ≤ n ∧ n ≤ Numeral.maxWord))
  | .real _ => inferInstanceAs (Decidable False)

theorem isWord_int {n : Int} :
    (int n).IsWord ↔ -9223372036854775808 ≤ n ∧ n ≤ 18446744073709551615 := Iff.rfl

private theorem read?_intText {n : Int} (h : (int n).IsWord) : read? (intText n) = some (.int n)
    := by
  obtain ⟨hlow, hhigh⟩ := isWord_int.1 h
  have hread := Numeral.read?_text (Numeral.isLegal_ofNat (decide (n < 0)) n.natAbs)
  rw [Numeral.text_ofNat] at hread
  simp only [decide_eq_true_eq] at hread
  rw [read?, intText, hread, Option.bind_eq_bind, Option.bind_some, Numeral.number?]
  have hdigits : Nat.ofDigitChars 10 (Nat.toDigits 10 n.natAbs) 0 = n.natAbs :=
    Nat.ofDigitChars_ten_toDigits
  simp only [Numeral.ofNat, Option.isSome_none, Bool.false_eq_true, or_self, if_false,
    decide_eq_true_eq, hdigits]
  by_cases hneg : n < 0
  · have hfits : 0 < n.natAbs ∧ n.natAbs ≤ Nat.pow 2 63 := by
      have hpow : Nat.pow 2 63 = 9223372036854775808 := rfl
      omega
    rw [if_pos hneg, if_pos hfits]
    congr 2
    omega
  · have hfits : n.natAbs ≤ Numeral.maxWord := by
      have hmax : Numeral.maxWord = 18446744073709551615 := rfl
      omega
    rw [if_neg hneg, if_pos hfits]
    congr 2
    omega

end Number

namespace Tree

theorem text?_ofText (t : Text) : (ofText t).text? = some t :=
  Quoted.decode?_encode t

theorem int?_ofInt {n : Int} (h : (Number.int n).IsWord) : (ofInt n).int? = some n := by
  rw [ofInt, int?, Number.read?_intText h]

theorem nat?_ofNat {n : Nat} (h : n ≤ Numeral.maxWord) : (ofNat n).nat? = some n := by
  have hword : (Number.int n).IsWord := by
    rw [Number.isWord_int]
    have hmax : Numeral.maxWord = 18446744073709551615 := rfl
    omega
  have hsame : ofNat n = ofInt n := by
    rw [ofNat, ofInt, Number.intText, if_neg (by omega), List.nil_append, Int.natAbs_natCast]
  rw [nat?, hsame, int?_ofInt hword]

mutual

/-- The containers that are open around each other at the deepest place of a tree. -/
def depth : Tree → Nat
  | .null => 0
  | .bool _ => 0
  | .number _ => 0
  | .string _ => 0
  | .array items => itemsDepth items + 1
  | .object members => membersDepth members + 1

def itemsDepth : List Tree → Nat
  | [] => 0
  | t :: ts => max (depth t) (itemsDepth ts)

def membersDepth : List (Text × Tree) → Nat
  | [] => 0
  | (_, t) :: ms => max (depth t) (membersDepth ms)

end

theorem depth_lt_array {ts : List Tree} : ∀ t ∈ ts, t.depth < (array ts).depth := by
  induction ts with
  | nil => simp
  | cons t ts ih =>
    simp only [depth, itemsDepth, List.forall_mem_cons] at ih ⊢
    constructor
    · omega
    · intro u hu
      have hlt := ih u hu
      omega

private theorem depth_lt_object {ms : List (Text × Tree)} : ∀ m ∈ ms, m.2.depth < (object ms).depth
    := by
  induction ms with
  | nil => simp
  | cons m ms ih =>
    simp only [depth, membersDepth, List.forall_mem_cons] at ih ⊢
    constructor
    · omega
    · intro n hn
      have hlt := ih n hn
      omega

theorem depth_lt_ofMembers {ms : List (Text × Tree)} :
    ∀ m ∈ ms, m.2.depth < (ofMembers ms).depth := fun m hm =>
  depth_lt_object (Quoted.encode m.1, m.2) (List.mem_map_of_mem hm)

end Tree

namespace Value

inductive HasWords : Value → Prop
  | null : HasWords .null
  | bool (b : Bool) : HasWords (.bool b)
  | number {n : Number} (h : n.IsWord) : HasWords (.number n)
  | string (t : Text) : HasWords (.string t)
  | array {vs : List Value} (h : ∀ v ∈ vs, HasWords v) : HasWords (.array vs)
  | object {ms : List (Text × Value)} (h : ∀ m ∈ ms, HasWords m.2) : HasWords (.object ms)

def HasOrderedKeys (ms : List (Text × Value)) : Prop :=
  ms.Pairwise fun m n => compare m.1 n.1 = .lt

instance (ms : List (Text × Value)) : Decidable (HasOrderedKeys ms) :=
  inferInstanceAs (Decidable (ms.Pairwise fun m n => compare m.1 n.1 = .lt))

/-- The keys of every object increase. -/
inductive Ordered : Value → Prop
  | null : Ordered .null
  | bool (b : Bool) : Ordered (.bool b)
  | number (n : Number) : Ordered (.number n)
  | string (t : Text) : Ordered (.string t)
  | array {vs : List Value} (h : ∀ v ∈ vs, Ordered v) : Ordered (.array vs)
  | object {ms : List (Text × Value)} (hkeys : HasOrderedKeys ms) (h : ∀ m ∈ ms, Ordered m.2) :
      Ordered (.object ms)

private theorem insert_eq_append {k : Text} {v : Value} {ms : List (Text × Value)}
    (h : ∀ m ∈ ms, compare m.1 k = .lt) : insert k v ms = ms ++ [(k, v)] := by
  induction ms with
  | nil => rfl
  | cons m ms ih =>
    rw [List.forall_mem_cons] at h
    have hgt : compare k m.1 = .gt := Std.OrientedCmp.gt_of_lt h.1
    rw [insert, hgt]
    exact congrArg (m :: ·) (ih h.2)

theorem mem_insert {k : Text} {v : Value} {ms : List (Text × Value)} :
    ∀ m ∈ insert k v ms, m = (k, v) ∨ m ∈ ms := by
  induction ms with
  | nil => simp [insert]
  | cons n ms ih =>
    intro m hm
    rw [insert] at hm
    split at hm
    · simpa using hm
    · rcases List.mem_cons.1 hm with h | h
      · exact Or.inl h
      · exact Or.inr (List.mem_cons_of_mem _ h)
    · rcases List.mem_cons.1 hm with h | h
      · exact Or.inr (h ▸ List.mem_cons_self ..)
      · exact (ih m h).imp_right (List.mem_cons_of_mem _)

theorem HasOrderedKeys.insert {k : Text} {v : Value} {ms : List (Text × Value)}
    (h : HasOrderedKeys ms) : HasOrderedKeys (insert k v ms) := by
  induction ms with
  | nil => exact List.pairwise_singleton ..
  | cons n ms ih =>
    obtain ⟨hn, hms⟩ := List.pairwise_cons.1 h
    rw [Value.insert]
    split
    next hlt =>
      refine List.pairwise_cons.2 ⟨List.forall_mem_cons.2 ⟨hlt, fun m hm => ?_⟩, h⟩
      exact Std.TransCmp.lt_trans hlt (hn m hm)
    next heq =>
      refine List.pairwise_cons.2 ⟨fun m hm => ?_, hms⟩
      rw [Std.LawfulEqCmp.eq_of_compare heq]
      exact hn m hm
    next hgt =>
      refine List.pairwise_cons.2 ⟨fun m hm => ?_, ih hms⟩
      rcases mem_insert m hm with rfl | hm
      · exact Std.OrientedCmp.gt_iff_lt.1 hgt
      · exact hn m hm

mutual

/-- Every value that is read is ordered. -/
theorem ordered_of_ofTree? : ∀ {room : Nat} {v : Value} (t : Tree), ofTree? room t = some v →
    v.Ordered
  | _, _, .null, h => Option.some.inj h ▸ .null
  | _, _, .bool b, h => Option.some.inj h ▸ .bool b
  | _, _, .number _, h => by
    obtain ⟨n, -, rfl⟩ := Option.map_eq_some_iff.1 h
    exact .number n
  | _, _, .string _, h => by
    obtain ⟨t, -, rfl⟩ := Option.map_eq_some_iff.1 h
    exact .string t
  | 0, _, .array _, h => nomatch h
  | _ + 1, _, .array ts, h => by
    obtain ⟨vs, hvs, rfl⟩ := Option.map_eq_some_iff.1 h
    exact .array (ordered_of_ofItems? ts hvs)
  | 0, _, .object _, h => nomatch h
  | _ + 1, _, .object ms, h => by
    obtain ⟨ns, hns, rfl⟩ := Option.map_eq_some_iff.1 h
    have hordered := ordered_of_ofMembers? ms hns List.Pairwise.nil (by simp)
    exact .object hordered.1 hordered.2

private theorem ordered_of_ofItems? : ∀ {room : Nat} {vs : List Value} (ts : List Tree),
    ofItems? room ts = some vs → ∀ v ∈ vs, v.Ordered
  | _, _, [], h => by
    obtain rfl := Option.some.inj h
    simp
  | _, _, t :: ts, h => by
    simp only [ofItems?, Option.bind_eq_bind, Option.bind_eq_some_iff] at h
    obtain ⟨v, hv, vs, hvs, h⟩ := h
    obtain rfl := Option.some.inj h
    exact List.forall_mem_cons.2 ⟨ordered_of_ofTree? t hv, ordered_of_ofItems? ts hvs⟩

private theorem ordered_of_ofMembers? : ∀ {room : Nat} {before ns : List (Text × Value)}
    (ms : List (Text × Tree)), ofMembers? room before ms = some ns → HasOrderedKeys before →
    (∀ m ∈ before, m.2.Ordered) → HasOrderedKeys ns ∧ ∀ m ∈ ns, m.2.Ordered
  | _, _, _, [], h, hkeys, hvalues => Option.some.inj h ▸ ⟨hkeys, hvalues⟩
  | _, _, _, (_, t) :: ms, h, hkeys, hvalues => by
    simp only [ofMembers?, Option.bind_eq_bind, Option.bind_eq_some_iff] at h
    obtain ⟨k, -, v, hv, h⟩ := h
    refine ordered_of_ofMembers? ms h hkeys.insert fun m hm => ?_
    rcases mem_insert m hm with rfl | hm
    · exact ordered_of_ofTree? t hv
    · exact hvalues m hm

end

private theorem toTrees_eq_map (vs : List Value) : toTrees vs = vs.map toTree := by
  induction vs with
  | nil => rfl
  | cons v vs ih => rw [toTrees, ih, List.map_cons]

private theorem toMembers_eq_map (ms : List (Text × Value)) :
    toMembers ms = ms.map fun m => (Quoted.encode m.1, m.2.toTree) := by
  induction ms with
  | nil => rfl
  | cons m ms ih => rw [toMembers, ih, List.map_cons]

private theorem ofItems?_toTrees {room : Nat} {vs : List Value}
    (h : ∀ v ∈ vs, ofTree? room v.toTree = some v) : ofItems? room (toTrees vs) = some vs := by
  induction vs with
  | nil => rfl
  | cons v vs ih =>
    rw [List.forall_mem_cons] at h
    rw [toTrees, ofItems?, h.1, ih h.2]
    rfl

private theorem ofMembers?_toMembers {room : Nat} {before ms : List (Text × Value)}
    (hkeys : HasOrderedKeys (before ++ ms))
    (h : ∀ m ∈ ms, ofTree? room m.2.toTree = some m.2) :
    ofMembers? room before (toMembers ms) = some (before ++ ms) := by
  induction ms generalizing before with
  | nil => rw [toMembers, ofMembers?, List.append_nil]
  | cons m ms ih =>
    rw [List.forall_mem_cons] at h
    -- the members that have been read stand before this one
    have hlast : insert m.1 m.2 before = before ++ [m] := insert_eq_append fun n hn =>
      (List.pairwise_append.1 hkeys).2.2 n hn m (List.mem_cons_self ..)
    have hsplit : before ++ m :: ms = before ++ [m] ++ ms := by simp
    rw [hsplit] at hkeys ⊢
    rw [toMembers, ofMembers?, Quoted.decode?_encode, Option.bind_eq_bind, Option.bind_some, h.1,
      Option.bind_eq_bind, Option.bind_some, hlast]
    exact ih hkeys h.2

theorem ofTree?_toTree {v : Value} (hwords : v.HasWords) (hordered : v.Ordered) {room : Nat}
    (hroom : v.toTree.depth ≤ room) : ofTree? room v.toTree = some v := by
  induction hwords generalizing room with
  | null => rfl
  | bool b => rfl
  | @number n h =>
    cases n with
    | int n => rw [toTree, Number.text, ofTree?, Number.read?_intText h, Option.map_some]
    | real x => exact h.elim
  | string t => rw [toTree, Tree.ofText, ofTree?, Quoted.decode?_encode, Option.map_some]
  | @array vs h ih =>
    cases hordered with
    | array hvs =>
      obtain _ | room := room
      · cases hroom
      · have hitems : ofItems? room (toTrees vs) = some vs := by
          apply ofItems?_toTrees
          intro v hv
          have hmem : v.toTree ∈ toTrees vs := toTrees_eq_map vs ▸ List.mem_map_of_mem hv
          have hlt := (Tree.depth_lt_array _ hmem).trans_le hroom
          exact ih v hv (hvs v hv) (Nat.le_of_lt_succ hlt)
        rw [toTree, ofTree?, hitems, Option.map_some]
  | @object ms h ih =>
    cases hordered with
    | object hkeys hms =>
      obtain _ | room := room
      · cases hroom
      · have hmembers : ofMembers? room [] (toMembers ms) = some ([] ++ ms) := by
          refine ofMembers?_toMembers hkeys fun m hm => ?_
          have hmem : (Quoted.encode m.1, m.2.toTree) ∈ toMembers ms :=
            toMembers_eq_map ms ▸ List.mem_map_of_mem hm
          have hlt := (Tree.depth_lt_object _ hmem).trans_le hroom
          exact ih m hm (hms m hm) (Nat.le_of_lt_succ hlt)
        rw [toTree, ofTree?, hmembers, List.nil_append, Option.map_some]

end Value

end Scratchpad.Json
