import Mathlib.Data.List.Forall2
import Mathlib.Data.List.Nodup
import Scratchpad.Proofs.Json.Value

/-!
Trees without repeated keys. A tree *means* a value if no object of it has a key twice and the value
is what the reader makes of it. Then the value has the shape of the tree, part by part
(`Tree.Means.shape`): the items of an array in their order, the members of an object in the order of
their keys.
-/

set_option autoImplicit false
set_option relaxedAutoImplicit false

namespace Scratchpad.Json

namespace Value

private theorem insert_perm {k : Text} {v : Value} {ms : List (Text × Value)}
    (h : ∀ m ∈ ms, m.1 ≠ k) : (insert k v ms).Perm ((k, v) :: ms) := by
  induction ms with
  | nil => exact .refl _
  | cons m ms ih =>
    rw [List.forall_mem_cons] at h
    rw [insert]
    split
    next => exact .refl _
    next heq => exact absurd (Std.LawfulEqCmp.eq_of_compare heq).symm h.1
    next => exact ((ih h.2).cons m).trans (.swap ..)

end Value

namespace Tree

mutual

/-- Whether no object has a key twice, however the key is written. -/
def hasDistinctKeys : Tree → Bool
  | .null => true
  | .bool _ => true
  | .number _ => true
  | .string _ => true
  | .array items => itemsHaveDistinctKeys items
  | .object members =>
    decide (members.map fun m => Quoted.decode? m.1).Nodup && membersHaveDistinctKeys members

def itemsHaveDistinctKeys : List Tree → Bool
  | [] => true
  | t :: ts => t.hasDistinctKeys && itemsHaveDistinctKeys ts

def membersHaveDistinctKeys : List (Text × Tree) → Bool
  | [] => true
  | (_, t) :: ms => t.hasDistinctKeys && membersHaveDistinctKeys ms

end

/-- No object of the tree has a key twice, and with room for so many containers around each other
the tree stands for the value. -/
structure Means (room : Nat) (t : Tree) (v : Value) : Prop where
  eq : Value.ofTree? room t = some v
  distinct : t.hasDistinctKeys = true

/-- A tree and a value of the same shape, whose parts are as they should be. -/
inductive Shape : (room : Nat) → Tree → Value → Prop
  | null {room : Nat} : Shape room .null .null
  | bool {room : Nat} (b : Bool) : Shape room (.bool b) (.bool b)
  | number {room : Nat} {numeral : Text} {n : Number} (h : Number.read? numeral = some n) :
    Shape room (.number numeral) (.number n)
  | string {room : Nat} {body t : Text} (h : Quoted.decode? body = some t) :
    Shape room (.string body) (.string t)
  | array {room : Nat} {ts : List Tree} {vs : List Value} (h : List.Forall₂ (Means room) ts vs) :
    Shape (room + 1) (.array ts) (.array vs)
  | object {room : Nat} {ms : List (Text × Tree)} {ns vs : List (Text × Value)}
    (hkeys : (ns.map Prod.fst).Nodup)
    (h : List.Forall₂ (fun m n => Quoted.decode? m.1 = some n.1 ∧ Means room m.2 n.2) ms ns)
    (hperm : ns.Perm vs) : Shape (room + 1) (.object ms) (.object vs)

private theorem forall₂_of_ofItems? {room : Nat} {ts : List Tree} {vs : List Value}
    (h : Value.ofItems? room ts = some vs) (hdistinct : itemsHaveDistinctKeys ts = true) :
    List.Forall₂ (Means room) ts vs := by
  induction ts generalizing vs with
  | nil =>
    obtain rfl := Option.some.inj h
    exact .nil
  | cons t ts ih =>
    simp only [Value.ofItems?, Option.bind_eq_bind, Option.bind_eq_some_iff] at h
    obtain ⟨v, hv, vs, hvs, h⟩ := h
    obtain rfl := Option.some.inj h
    rw [itemsHaveDistinctKeys, Bool.and_eq_true] at hdistinct
    exact .cons ⟨hv, hdistinct.1⟩ (ih hvs hdistinct.2)

private theorem exists_of_ofMembers? {room : Nat} {before vs : List (Text × Value)}
    {ms : List (Text × Tree)} (h : Value.ofMembers? room before ms = some vs)
    (hkeys : (ms.map fun m => Quoted.decode? m.1).Nodup)
    (hfresh : ∀ m ∈ ms, ∀ n ∈ before, Quoted.decode? m.1 ≠ some n.1)
    (hdistinct : membersHaveDistinctKeys ms = true) :
    ∃ ns : List (Text × Value),
      List.Forall₂ (fun m n => Quoted.decode? m.1 = some n.1 ∧ Means room m.2 n.2) ms ns ∧
      (before ++ ns).Perm vs := by
  induction ms generalizing before with
  | nil =>
    obtain rfl := Option.some.inj h
    exact ⟨[], .nil, by rw [List.append_nil]⟩
  | cons m ms ih =>
    obtain ⟨key, t⟩ := m
    simp only [Value.ofMembers?, Option.bind_eq_bind, Option.bind_eq_some_iff] at h
    obtain ⟨k, hk, v, hv, h⟩ := h
    rw [List.map_cons, List.nodup_cons, hk] at hkeys
    rw [List.forall_mem_cons] at hfresh
    rw [membersHaveDistinctKeys, Bool.and_eq_true] at hdistinct
    have hnew : ∀ n ∈ before, n.1 ≠ k := fun n hn heq => hfresh.1 n hn (heq ▸ hk)
    have hrest : ∀ m ∈ ms, ∀ n ∈ Value.insert k v before, Quoted.decode? m.1 ≠ some n.1 := by
      intro m hm n hn heq
      rcases Value.mem_insert n hn with rfl | hn
      · exact hkeys.1 (heq ▸ List.mem_map_of_mem hm)
      · exact hfresh.2 m hm n hn heq
    obtain ⟨ns, hns, hperm⟩ := ih h hkeys.2 hrest hdistinct.2
    refine ⟨(k, v) :: ns, .cons ⟨hk, hv, hdistinct.1⟩ hns, ?_⟩
    exact (List.perm_middle.trans ((Value.insert_perm hnew).symm.append_right ns)).trans hperm

namespace Means

variable {room : Nat} {t : Tree} {v : Value}

theorem shape (h : Means room t v) : Shape room t v := by
  obtain ⟨heq, hdistinct⟩ := h
  cases t with
  | null => exact Option.some.inj heq ▸ .null
  | bool b => exact Option.some.inj heq ▸ .bool b
  | number numeral =>
    obtain ⟨n, hn, rfl⟩ := Option.map_eq_some_iff.1 heq
    exact .number hn
  | string body =>
    obtain ⟨t, ht, rfl⟩ := Option.map_eq_some_iff.1 heq
    exact .string ht
  | array ts =>
    cases room with
    | zero => cases heq
    | succ room =>
      obtain ⟨vs, hvs, rfl⟩ := Option.map_eq_some_iff.1 heq
      exact .array (forall₂_of_ofItems? hvs hdistinct)
  | object ms =>
    cases room with
    | zero => cases heq
    | succ room =>
      obtain ⟨vs, hvs, rfl⟩ := Option.map_eq_some_iff.1 heq
      rw [hasDistinctKeys, Bool.and_eq_true, decide_eq_true_eq] at hdistinct
      obtain ⟨ns, hns, hperm⟩ := exists_of_ofMembers? hvs hdistinct.1 (by simp) hdistinct.2
      have hall : List.Forall₂ (· = ·) (ms.map fun m => Quoted.decode? m.1)
          (ns.map fun n => some n.1) := by
        rw [List.forall₂_map_left_iff, List.forall₂_map_right_iff]
        exact hns.imp fun _ _ hmn => hmn.1
      have hsame : ms.map (fun m => Quoted.decode? m.1) = (ns.map Prod.fst).map some := by
        rwa [List.map_map, ← List.forall₂_eq_eq_eq]
      exact .object (List.Nodup.of_map some (hsame ▸ hdistinct.1)) hns hperm

end Means

end Tree

end Scratchpad.Json
