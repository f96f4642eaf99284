import Mathlib.Data.Option.Basic
import Scratchpad.Proofs.Json.DistinctKeys
import Scratchpad.Report.OfTree
import Scratchpad.Report.OfValue

/-!
Two ways to a report. A report can be read straight from the tree of a text or taken from the value
that the tree stands for. Where no object has a key twice both ways lead to the same report or to
none (`Report.read?_eq_bind_ofValue?`): each reader of a part agrees with its counterpart
(`Report.Agree`) on every tree and the value that the tree means.
-/

set_option autoImplicit false
set_option relaxedAutoImplicit false

namespace Scratchpad.Report

open Json (Tree Value)
open Json.Tree (Means Shape)

/-- Two readers give the same for a tree and for the value that it means. -/
def Agree {α : Type} (room : Nat) (f : Tree → Option α) (g : Value → Option α) : Prop :=
  ∀ t v, Means room t v → f t = g v

namespace Slot

/-- The same holds in both slots, a tree in the one and what it means in the other. -/
inductive Means (room : Nat) : Slot Tree → Slot Value → Prop
  | given {t : Tree} {v : Value} (h : t.Means room v) : Means room (.given t) (.given v)
  | absent : Means room .absent .absent
  | cutOff : Means room .cutOff .cutOff

variable {α : Type} {room : Nat} {s : Slot Tree} {s' : Slot Value} {f : Tree → Option α}
  {g : Value → Option α}

private theorem Means.required?_eq (h : Means room s s') (hfg : Agree room f g) :
    s.required? f = s'.required? g := by
  cases h with
  | given h => exact hfg _ _ h
  | absent => rfl
  | cutOff => rfl

private theorem Means.orElse?_eq (h : Means room s s') (hfg : Agree room f g) (missing : α) :
    s.orElse? missing f = s'.orElse? missing g := by
  cases h with
  | given h => exact hfg _ _ h
  | absent => rfl
  | cutOff => rfl

private theorem Means.absentOr?_eq (h : Means room s s') (hfg : Agree room f g) (missing : α) :
    s.absentOr? missing f = s'.absentOr? missing g := by
  cases h with
  | given h => exact hfg _ _ h
  | absent => rfl
  | cutOff => rfl

private theorem ofMember?_eq_of_perm {ns vs : List (Text × Value)} (h : ns.Perm vs) {name : Text}
    {s : Slot Value} (hs : ofMember? ns name = some s) : ofMember? vs name = some s := by
  have hfilter := h.filter fun m => decide (m.1 = name)
  unfold ofMember? at hs ⊢
  split at hs
  · next hnil =>
    rw [hnil] at hfilter
    rw [← hfilter.nil_eq]
    exact hs
  · next m hone =>
    rw [hone] at hfilter
    rw [← List.singleton_perm.1 hfilter]
    exact hs
  · cases hs

private theorem ofMember?_cons_of_ne {β : Type} {m : Text × β} {name : Text} (h : m.1 ≠ name)
    (ms : List (Text × β)) : ofMember? (m :: ms) name = ofMember? ms name := by
  rw [ofMember?, List.filter_cons_of_neg (by simpa using h), ← ofMember?]

private theorem ofMember?_cons_self {β : Type} {m : Text × β} {ms : List (Text × β)}
    (h : m.1 ∉ ms.map Prod.fst) : ofMember? (m :: ms) m.1 = some (.given m.2) := by
  have hnone : ms.filter (fun n => n.1 = m.1) = [] := by
    rw [List.filter_eq_nil_iff]
    intro n hn heq
    exact h (of_decide_eq_true heq ▸ List.mem_map_of_mem hn)
  rw [ofMember?, List.filter_cons_of_pos (by simp), hnone]

/-- Members of a tree and members of a value with the same keys, in the same order. -/
abbrev SameMembers (room : Nat) (ks : List (Text × Tree)) (ns : List (Text × Value)) : Prop :=
  List.Forall₂ (fun k n => k.1 = n.1 ∧ k.2.Means room n.2) ks ns

private theorem SameMembers.map_fst_eq {ks : List (Text × Tree)} {ns : List (Text × Value)}
    (h : SameMembers room ks ns) : ks.map Prod.fst = ns.map Prod.fst := by
  induction h with
  | nil => rfl
  | cons hkn _ ih => rw [List.map_cons, List.map_cons, hkn.1, ih]

private theorem exists_ofMember? {ks : List (Text × Tree)} {ns : List (Text × Value)}
    (hkeys : (ns.map Prod.fst).Nodup)
    (h : SameMembers room ks ns) (name : Text) :
    ∃ s s', ofMember? ks name = some s ∧ ofMember? ns name = some s' ∧ Means room s s' := by
  induction h with
  | nil => exact ⟨.absent, .absent, rfl, rfl, .absent⟩
  | @cons k n ks ns hkn hrest ih =>
    obtain ⟨hnew, hkeys⟩ := List.nodup_cons.1 hkeys
    by_cases hname : n.1 = name
    · subst hname
      refine ⟨_, _, ?_, ofMember?_cons_self hnew, .given hkn.2⟩
      rw [← hkn.1] at hnew ⊢
      exact ofMember?_cons_self (SameMembers.map_fst_eq hrest ▸ hnew)
    · obtain ⟨s, s', hs, hs', hmeans⟩ := ih hkeys
      refine ⟨s, s', ?_, ?_, hmeans⟩
      · rw [ofMember?_cons_of_ne (hkn.1 ▸ hname), hs]
      · rw [ofMember?_cons_of_ne hname, hs']

private theorem exists_ofMembers? {ks : List (Text × Tree)} {ns vs : List (Text × Value)}
    (hkeys : (ns.map Prod.fst).Nodup)
    (h : SameMembers room ks ns) (hperm : ns.Perm vs)
    (names : List Text) :
    ∃ ss ss', ofMembers? names ks = some ss ∧ ofMembers? names vs = some ss' ∧
      List.Forall₂ (Means room) ss ss' := by
  induction names with
  | nil => exact ⟨[], [], rfl, rfl, .nil⟩
  | cons name names ih =>
    obtain ⟨s, s', hs, hs', hmeans⟩ := exists_ofMember? hkeys h name
    obtain ⟨ss, ss', hss, hss', hall⟩ := ih
    rw [ofMembers?] at hss hss'
    refine ⟨s :: ss, s' :: ss', ?_, ?_, .cons hmeans hall⟩
    · rw [ofMembers?, List.mapM_cons, hs, hss]
      rfl
    · rw [ofMembers?, List.mapM_cons, ofMember?_eq_of_perm hperm hs', hss']
      rfl

private theorem rel_ofItems? {ts : List Tree} {vs : List Value}
    (h : List.Forall₂ (Tree.Means room) ts vs) (count : Nat) :
    Option.Rel (List.Forall₂ (Means room)) (ofItems? count ts) (ofItems? count vs) := by
  induction count generalizing ts vs with
  | zero =>
    cases h with
    | nil => exact .some .nil
    | cons => exact .none
  | succ count ih =>
    have hmap : ∀ {ss ss'} {s : Slot Tree} {s' : Slot Value}, Means room s s' →
        Option.Rel (List.Forall₂ (Means room)) ss ss' →
        Option.Rel (List.Forall₂ (Means room)) (ss.map (s :: ·)) (ss'.map (s' :: ·)) := by
      rintro _ _ s s' hs (h | _)
      · exact .some (.cons hs h)
      · exact .none
    cases h with
    | nil => exact hmap .cutOff (ih .nil)
    | cons htv hrest => exact hmap (.given htv) (ih hrest)

end Slot

private theorem exists_keyed? {room : Nat} {ms : List (Text × Tree)} {ns : List (Text × Value)}
    (h : List.Forall₂ (fun m n => Json.Quoted.decode? m.1 = some n.1 ∧ m.2.Means room n.2) ms ns) :
    ∃ ks, OfTree.keyed? ms = some ks ∧ Slot.SameMembers room ks ns := by
  induction h with
  | nil => exact ⟨[], rfl, .nil⟩
  | @cons m n ms ns hmn _ ih =>
    obtain ⟨ks, hks, hsame⟩ := ih
    refine ⟨(n.1, m.2) :: ks, ?_, .cons ⟨rfl, hmn.2⟩ hsame⟩
    rw [OfTree.keyed?] at hks ⊢
    rw [List.mapM_cons, hmn.1, hks]
    rfl

private theorem rel_fields? {room : Nat} {t : Tree} {v : Value} (h : t.Means room v)
    (names : List Text) : Option.Rel (List.Forall₂ (Slot.Means (room - 1))) (OfTree.fields? names t)
      (OfValue.fields? names v) := by
  cases h.shape with
  | null => exact .none
  | bool b => exact .none
  | number hnumeral => exact .none
  | string hbody => exact .none
  | array hitems => exact Slot.rel_ofItems? hitems names.length
  | object hkeys hmembers hperm =>
    obtain ⟨ks, hks, hsame⟩ := exists_keyed? hmembers
    obtain ⟨ss, ss', hss, hss', hall⟩ := Slot.exists_ofMembers? hkeys hsame hperm names
    rw [OfTree.fields?, hks, Option.bind_eq_bind, Option.bind_some, hss, OfValue.fields?, hss']
    exact .some hall

private theorem fields?_bind_eq {α : Type} {room : Nat} {t : Tree} {v : Value} (h : t.Means room v)
    (names : List Text) {f : List (Slot Tree) → Option α} {g : List (Slot Value) → Option α}
    (hfg : ∀ ss ss', List.Forall₂ (Slot.Means (room - 1)) ss ss' → f ss = g ss') :
    (OfTree.fields? names t >>= f) = (OfValue.fields? names v >>= g) := by
  have hrel := rel_fields? h names
  generalize OfTree.fields? names t = read, OfValue.fields? names v = taken at hrel
  cases hrel with
  | none => rfl
  | some hall => exact hfg _ _ hall

namespace Agree

variable {α : Type} {room : Nat}

theorem text? : Agree room Tree.text? OfValue.text? := by
  intro t v h
  cases h.shape with
  | string hbody => exact hbody
  | _ => rfl

theorem int? : Agree room Tree.int? OfValue.int? := by
  intro t v h
  cases h.shape with
  | @number _ numeral n hnumeral =>
    rw [Tree.int?, hnumeral]
    cases n <;> rfl
  | _ => rfl

theorem nat? : Agree room Tree.nat? OfValue.nat? := by
  intro t v h
  rw [Tree.nat?, int? t v h]
  cases v with
  | number n => rcases n with (_ | _) | _ <;> rfl
  | _ => rfl

theorem nullable? {f : Tree → Option α} {g : Value → Option α} (h : Agree room f g) :
    Agree room (OfTree.nullable? f) (OfValue.nullable? g) := by
  intro t v hmeans
  have hfg := congrArg (Option.map some) (h t v hmeans)
  cases hmeans.shape with
  | null => rfl
  | _ => exact hfg

theorem list? {f : Tree → Option α} {g : Value → Option α} (h : Agree (room - 1) f g) :
    Agree room (OfTree.list? f) (OfValue.list? g) := by
  intro t v hmeans
  cases hmeans.shape with
  | @array room ts vs hitems =>
    clear hmeans
    rw [OfTree.list?, OfValue.list?]
    induction hitems with
    | nil => rfl
    | cons htv _ ih => rw [List.mapM_cons, List.mapM_cons, h _ _ htv, ih]
  | _ => rfl

theorem kind? : Agree room OfTree.kind? OfValue.kind? := by
  intro t v h
  cases h.shape with
  | string hbody =>
    rw [OfTree.kind?, hbody]
    rfl
  | @object _ ms ns vs hkeys hmembers hperm =>
    -- Only an object with one member can be a kind, and one member stays where it is.
    cases hmembers with
    | nil =>
      rw [← hperm.nil_eq]
      rfl
    | @cons m n _ _ hmn hrest =>
      cases hrest with
      | nil =>
        obtain ⟨key, t⟩ := m
        obtain ⟨k, v⟩ := n
        rw [← List.singleton_perm.1 hperm]
        cases hmn.2.shape with
        | null =>
          rw [OfTree.kind?, hmn.1]
          rfl
        | _ => rfl
      | cons _ _ =>
        match vs, hperm.length_eq with
        | _ :: _ :: _, _ => simp [OfTree.kind?, OfValue.kind?]
  | _ => rfl

theorem entry? : Agree room OfTree.entry? OfValue.entry? := by
  intro t v h
  refine fields?_bind_eq h entryFields ?_
  rintro _ _ (_ | ⟨hkind, _ | ⟨htext, _ | _⟩⟩)
  · rfl
  · rfl
  · simp only [hkind.required?_eq kind?, htext.required?_eq text?]
  · rfl

theorem fault? : Agree room OfTree.fault? OfValue.fault? := by
  intro t v h
  refine fields?_bind_eq h faultFields ?_
  rintro _ _ (_ | ⟨hmessage, _ | ⟨hstack, _ | _⟩⟩)
  · rfl
  · rfl
  · simp only [hmessage.required?_eq text?, hstack.orElse?_eq (nullable? text?)]
  · rfl

theorem stats? : Agree room OfTree.stats? OfValue.stats? := by
  intro t v h
  have hnanoseconds : Agree (room - 1) (fun t => t.nat?.map nanosecondsOf)
      (fun v => (OfValue.nat? v).map nanosecondsOf) :=
    fun t v h => congrArg (Option.map nanosecondsOf) (nat? t v h)
  have hcode : Agree (room - 1) (fun t => t.int? >>= exitCode?)
      (fun v => OfValue.int? v >>= exitCode?) :=
    fun t v h => congrArg (· >>= exitCode?) (int? t v h)
  refine fields?_bind_eq h statsFields ?_
  rintro _ _ (_ | ⟨hduration, _ | ⟨hexitCode, _ | _⟩⟩)
  · rfl
  · rfl
  · simp only [hduration.required?_eq hnanoseconds, hexitCode.absentOr?_eq (nullable? hcode)]
  · rfl

theorem reading? {outer : Nat} (hroom : room - 1 = Json.maxDepth - outer) :
    Agree room (OfTree.reading? outer) OfValue.reading? := by
  intro t v h
  have hany : Agree (room - 1) (Value.ofTree? (Json.maxDepth - outer)) some :=
    fun t v h => hroom ▸ h.eq
  refine fields?_bind_eq h readingFields ?_
  rintro _ _ (_ | ⟨hline, _ | ⟨hexpression, _ | ⟨hvalue, _ | ⟨herror, _ | _⟩⟩⟩⟩)
  · rfl
  · rfl
  · rfl
  · rfl
  · simp only [hline.required?_eq nat?, hexpression.required?_eq text?,
      hvalue.orElse?_eq (nullable? hany), herror.orElse?_eq (nullable? text?)]
  · rfl

end Agree

/-- Reading a report from a tree without repeated keys is taking it from the value of the tree. -/
theorem ofTree?_eq_ofValue? {t : Tree} {v : Value} (h : t.Means Json.maxDepth v) :
    ofTree? t = ofValue? v := by
  have hany : Agree (Json.maxDepth - 1)
      (fun t => (Value.ofTree? (Json.maxDepth - 1) t).map some) (fun v => some (some v)) :=
    fun t v h => congrArg (Option.map some) h.eq
  refine fields?_bind_eq h reportFields ?_
  rintro _ _ (_ | ⟨houtput, _ | ⟨hvalue, _ | ⟨herror, _ | ⟨hprobes, _ | ⟨hstats, _ | _⟩⟩⟩⟩⟩)
  · rfl
  · rfl
  · rfl
  · rfl
  · rfl
  · simp only [houtput.orElse?_eq (Agree.list? Agree.entry?), hvalue.orElse?_eq hany,
      herror.orElse?_eq (Agree.nullable? Agree.fault?),
      hprobes.orElse?_eq (Agree.list? (@Agree.reading? _ 3 rfl)),
      hstats.orElse?_eq (Agree.nullable? Agree.stats?)]
  · rfl

/-- A text that has a value and in which no object has a key twice is read as a report exactly if a
report can be taken from its value, and then both are the same. -/
theorem read?_eq_bind_ofValue? {o : Text} (hvalue : (Value.read? o).isSome = true)
    (hkeys : ∀ t, Tree.read? o = some t → t.hasDistinctKeys = true) :
    read? o = Value.read? o >>= ofValue? := by
  obtain ⟨v, hv⟩ := Option.isSome_iff_exists.1 hvalue
  obtain ⟨t, ht, heq⟩ := Option.bind_eq_some_iff.1 hv
  rw [hv, read?, ht]
  exact ofTree?_eq_ofValue? ⟨heq, hkeys t ht⟩

/-- A report with a piece of output as an array, kinds under other names, and a member that is no
field. -/
def otherForms : Text :=
  ("\x7b\"x\":[1.5],\"output\":[[\"trace\",\"a\"]," ++
    "\x7b\"kind\":\x7b\"warning\":null\x7d,\"text\":\"b\"\x7d]\x7d").toList

theorem read?_otherForms_eq :
    (read? otherForms).map Report.output = some [⟨.log, ['a']⟩, ⟨.warn, ['b']⟩] ∧
      read? otherForms = Value.read? otherForms >>= ofValue? := by
  have hkeys : (Tree.read? otherForms).all Tree.hasDistinctKeys = true := by decide +kernel
  exact ⟨by decide +kernel,
    read?_eq_bind_ofValue? (by decide +kernel) ((Option.all_eq_true _ _).1 hkeys)⟩

/-- A field that is written twice is refused by the one way; the other takes the last of them. -/
example :
    let o := "\x7b\"error\":null,\"error\":null\x7d".toList
    (read? o).isNone ∧ (Value.read? o >>= ofValue?).isSome := by
  decide +kernel

end Scratchpad.Report
