import Scratchpad.Proofs.Json.Compact
import Scratchpad.Proofs.Json.Value
import Scratchpad.Proofs.Report.WellFormed
import Scratchpad.Report.OfTree

/-!
Reports read back. The text of a report is read as this report (`Report.read?_compact_toTree`), but
for two things: a probe has no value in place of null, and the time of the run is a whole number of
milliseconds.
-/

set_option autoImplicit false
set_option relaxedAutoImplicit false

namespace Scratchpad

def Json.Value.isNull : Json.Value → Bool
  | .null => true
  | _ => false

def Reading.asRead (p : Reading) : Reading :=
  { p with value := p.value.filter fun v => !v.isNull }

def Stats.asRead (s : Stats) : Stats :=
  { s with nanoseconds := Report.nanosecondsOf s.milliseconds }

namespace Report

open Json (Tree Value)
open Json.Tree (depth_lt_array depth_lt_ofMembers)

/-- What is read from the text of a report. -/
def asRead (r : Report) : Report :=
  { r with probes := r.probes.map .asRead, stats := r.stats.map .asRead }

def values (r : Report) : List Value :=
  r.value.toList ++ r.probes.filterMap Reading.value

def Slot.ofOption {α : Type} : Option α → Slot α
  | some a => .given a
  | none => .absent

@[simp] theorem Slot.required?_given {α β : Type} (f : α → Option β) (a : α) :
    (Slot.given a).required? f = f a := rfl

@[simp] theorem Slot.orElse?_given {α β : Type} (missing : β) (f : α → Option β) (a : α) :
    (Slot.given a).orElse? missing f = f a := rfl

@[simp] theorem Slot.absentOr?_given {α β : Type} (missing : β) (f : α → Option β) (a : α) :
    (Slot.given a).absentOr? missing f = f a := rfl

private theorem Slot.orElse?_ofOption {α β : Type} {f : α → Tree} {g : Tree → Option (Option β)}
    {h : α → β} {o : Option α} (hread : ∀ a ∈ o, g (f a) = some (some (h a))) :
    (Slot.ofOption (o.map f)).orElse? none g = some (o.map h) := by
  cases o with
  | none => rfl
  | some a => exact hread a rfl

namespace OfTree

private theorem mapM_map_eq_some {α β γ : Type} {f : β → Option γ} {g : α → β} {h : α → γ}
    {as : List α}
    (hread : ∀ a ∈ as, f (g a) = some (h a)) : (as.map g).mapM f = some (as.map h) := by
  induction as with
  | nil => rfl
  | cons a as ih =>
    rw [List.forall_mem_cons] at hread
    rw [List.map_cons, List.mapM_cons, hread.1, ih hread.2]
    rfl

private theorem fields?_ofMembers (names : List Text) (ms : List (Text × Tree)) :
    fields? names (.ofMembers ms) = Slot.ofMembers? names ms := by
  have hkeys : keyed? (ms.map fun m => (Json.Quoted.encode m.1, m.2)) = some (ms.map id) := by
    refine mapM_map_eq_some fun m _ => ?_
    rw [Json.Quoted.decode?_encode, Option.map_some, id]
  rw [Tree.ofMembers, fields?, hkeys, List.map_id, Option.bind_eq_bind, Option.bind_some]

private theorem nullable?_of_ne_null {α : Type} {f : Tree → Option α} {t : Tree} (h : t ≠ .null) :
    nullable? f t = (f t).map some := by
  cases t with
  | null => exact absurd rfl h
  | _ => rfl

private theorem nullable?_orNull {α : Type} {f : Tree → Option α} {g : α → Tree} {o : Option α}
    (hne : ∀ a, g a ≠ .null) (hread : ∀ a ∈ o, f (g a) = some a) :
    nullable? f (orNull g o) = some o := by
  cases o with
  | none => rfl
  | some a => rw [orNull, nullable?_of_ne_null (hne a), hread a rfl, Option.map_some]

private theorem orElse?_text (o : Option Text) :
    (Slot.ofOption (o.map Tree.ofText)).orElse? none (nullable? Tree.text?) = some o := by
  have hread : ∀ t ∈ o, nullable? Tree.text? (.ofText t) = some (some t) := by
    intro t _
    rw [nullable?_of_ne_null (by simp [Tree.ofText]), Json.Tree.text?_ofText, Option.map_some]
  simpa using Slot.orElse?_ofOption (h := id) hread

private theorem nullable?_value {room : Nat} {o : Option Value}
    (hread : ∀ v ∈ o, Value.ofTree? room v.toTree = some v) :
    nullable? (Value.ofTree? room) (orNull Value.toTree o) =
      some (o.filter fun v => !v.isNull) := by
  cases o with
  | none => rfl
  | some v =>
    have hv := hread v rfl
    cases v with
    | null => rfl
    | _ =>
      rw [orNull, nullable?_of_ne_null (by simp [Value.toTree, Tree.ofText]), hv]
      rfl

private theorem kind?_name (k : OutputKind) : kind? (.ofText k.name) = some k := by
  rw [Tree.ofText, kind?, Json.Quoted.decode?_encode, Option.bind_eq_bind, Option.bind_some]
  cases k <;> rfl

private theorem exitCode?_toInt (c : Int32) : exitCode? c.toInt = some c := by
  rw [exitCode?, if_pos ⟨c.minValue_le_toInt, c.toInt_le⟩, Int32.ofInt_toInt]

private theorem fields?_entryTree (e : Entry) : fields? entryFields (entryTree e) =
    some [.given (.ofText e.kind.name), .given (.ofText e.text)] :=
  fields?_ofMembers ..

private theorem entry?_entryTree (e : Entry) : entry? (entryTree e) = some e := by
  unfold entry?
  rw [fields?_entryTree]
  simp only [Option.bind_eq_bind, Option.bind_some, Slot.required?_given, kind?_name,
    Json.Tree.text?_ofText, Option.pure_def]

private theorem fields?_faultTree (f : Fault) : fields? faultFields (faultTree f) =
    some [.given (.ofText f.message), .ofOption (f.stack.map Tree.ofText)] := by
  rw [faultTree, fields?_ofMembers]
  cases f.stack <;> rfl

private theorem fault?_faultTree (f : Fault) : fault? (faultTree f) = some f := by
  rw [fault?, fields?_faultTree]
  simp only [Option.bind_eq_bind, Option.bind_some, Slot.required?_given, Json.Tree.text?_ofText,
    orElse?_text, Option.pure_def]

private theorem fields?_statsTree (s : Stats) : fields? statsFields (statsTree s) =
    some [.given (.ofNat s.milliseconds),
      .given (orNull (fun c : Int32 => .ofInt c.toInt) s.exitCode)] :=
  fields?_ofMembers ..

private theorem stats?_statsTree (s : Stats) : stats? (statsTree s) = some s.asRead := by
  have hle : s.milliseconds ≤ Stats.maxMilliseconds := Nat.min_le_right ..
  have hduration : (Tree.ofNat s.milliseconds).nat? = some s.milliseconds :=
    Json.Tree.nat?_ofNat hle
  have hexit : nullable? (fun t : Tree => t.int?.bind exitCode?)
      (orNull (fun c : Int32 => Tree.ofInt c.toInt) s.exitCode) = some s.exitCode := by
    refine nullable?_orNull (fun c => by simp [Tree.ofInt]) fun c _ => ?_
    have hlow : -2147483648 ≤ c.toInt := c.minValue_le_toInt
    have hhigh : c.toInt ≤ 2147483647 := c.toInt_le
    have hword : (Json.Number.int c.toInt).IsWord := by
      rw [Json.Number.isWord_int]
      omega
    rw [Json.Tree.int?_ofInt hword, Option.bind_some, exitCode?_toInt]
  rw [stats?, fields?_statsTree]
  simp only [Option.bind_eq_bind, Option.bind_some, Slot.required?_given, Slot.absentOr?_given,
    hduration, Option.map_some, hexit, Option.pure_def, Stats.asRead]

private theorem fields?_readingTree (p : Reading) : fields? readingFields (readingTree p) =
    some [.given (.ofNat p.line), .given (.ofText p.expression),
      .given (orNull Value.toTree p.value), .ofOption (p.error.map Tree.ofText)] := by
  rw [readingTree, fields?_ofMembers]
  cases p.error <;> rfl

private theorem reading?_readingTree {outer : Nat} {p : Reading}
    (hline : p.line ≤ Json.Numeral.maxWord)
    (hvalue : ∀ v ∈ p.value, Value.ofTree? (Json.maxDepth - outer) v.toTree = some v) :
    reading? outer (readingTree p) = some p.asRead := by
  have hnat : (Tree.ofNat p.line).nat? = some p.line := Json.Tree.nat?_ofNat hline
  rw [reading?, fields?_readingTree]
  simp only [Option.bind_eq_bind, Option.bind_some, Slot.required?_given, Slot.orElse?_given, hnat,
    Json.Tree.text?_ofText, nullable?_value hvalue, orElse?_text, Option.pure_def, Reading.asRead]

end OfTree

open OfTree

private theorem fields?_toTree (r : Report) : fields? reportFields r.toTree =
    some [.given (.array (r.output.map entryTree)), .ofOption (r.value.map Value.toTree),
      .given (orNull faultTree r.error), .given (.array (r.probes.map readingTree)),
      .ofOption (r.stats.map statsTree)] := by
  rw [toTree, fields?_ofMembers]
  cases r.value <;> cases r.stats <;> rfl

theorem ofTree?_toTree {r : Report} (hlines : ∀ p ∈ r.probes, p.line ≤ Json.Numeral.maxWord)
    (hvalue : ∀ v ∈ r.value, Value.ofTree? (Json.maxDepth - 1) v.toTree = some v)
    (hreading : ∀ p ∈ r.probes, ∀ v ∈ p.value,
      Value.ofTree? (Json.maxDepth - 3) v.toTree = some v) :
    ofTree? r.toTree = some r.asRead := by
  have houtput : list? entry? (.array (r.output.map entryTree)) = some (r.output.map id) :=
    mapM_map_eq_some fun e _ => entry?_entryTree e
  have hpresent : (Slot.ofOption (r.value.map Value.toTree)).orElse? none
      (fun t => (Value.ofTree? (Json.maxDepth - 1) t).map some) = some (r.value.map id) :=
    Slot.orElse?_ofOption fun v hv => by rw [hvalue v hv, Option.map_some, id]
  have herror : nullable? fault? (orNull faultTree r.error) = some r.error :=
    nullable?_orNull (fun f => by simp [faultTree, Tree.ofMembers]) fun f _ => fault?_faultTree f
  have hprobes : list? (reading? 3) (.array (r.probes.map readingTree)) =
      some (r.probes.map Reading.asRead) :=
    mapM_map_eq_some fun p hp => reading?_readingTree (hlines p hp) (hreading p hp)
  have hstats : (Slot.ofOption (r.stats.map statsTree)).orElse? none (nullable? stats?) =
      some (r.stats.map Stats.asRead) := by
    refine Slot.orElse?_ofOption fun s _ => ?_
    rw [nullable?_of_ne_null (by simp [statsTree, Tree.ofMembers]), stats?_statsTree,
      Option.map_some]
  rw [List.map_id] at houtput
  rw [Option.map_id, id] at hpresent
  rw [ofTree?, fields?_toTree]
  simp only [Option.bind_eq_bind, Option.bind_some, Slot.orElse?_given, houtput, hpresent, herror,
    hprobes, hstats, Option.pure_def, asRead]

/-- A report is read back from its text, except for a null as the value of a probe and for parts of
a millisecond. Its numbers have to be integers of 64 bits, the keys of its objects in order as in
every value that has been read, and its containers no deeper than a text may nest. -/
theorem read?_compact_toTree {r : Report} (hlines : ∀ p ∈ r.probes, p.line ≤ Json.Numeral.maxWord)
    (hwords : ∀ v ∈ r.values, v.HasWords) (hordered : ∀ v ∈ r.values, v.Ordered)
    (hdepth : r.toTree.depth ≤ Json.maxDepth) : read? r.toTree.compact = some r.asRead := by
  rw [read?, Json.Tree.read?_compact (wellFormed_toTree r), Option.bind_eq_bind, Option.bind_some]
  apply ofTree?_toTree hlines
  · intro v hv
    have hmem : v ∈ r.values := List.mem_append_left _ (Option.mem_toList.2 hv)
    have hlt : v.toTree.depth < r.toTree.depth :=
      depth_lt_ofMembers ("value".toList, v.toTree) (by rw [Option.mem_def.1 hv]; simp [optional])
    apply Value.ofTree?_toTree (hwords v hmem) (hordered v hmem)
    omega
  · intro p hp v hv
    have hmem : v ∈ r.values := List.mem_append_right _ (List.mem_filterMap.2 ⟨p, hp, hv⟩)
    have hreading : v.toTree.depth < (readingTree p).depth :=
      depth_lt_ofMembers ("value".toList, v.toTree) (by rw [Option.mem_def.1 hv]; simp [orNull])
    have hlist : (readingTree p).depth < (Tree.array (r.probes.map readingTree)).depth :=
      depth_lt_array _ (List.mem_map_of_mem hp)
    have hprobes : (Tree.array (r.probes.map readingTree)).depth < r.toTree.depth :=
      depth_lt_ofMembers ("probes".toList, _) (by simp)
    apply Value.ofTree?_toTree (hwords v hmem) (hordered v hmem)
    omega

/-- A report with something in every field, and null as the value of its first probe. -/
def sample : Report where
  output := [⟨.warn, "a\tb".toList⟩, ⟨.info, []⟩]
  value := some (.object [("k".toList, .array [.null, .number (.int (-9223372036854775808))]),
    ("l".toList, .string "\"\\".toList)])
  error := some ⟨"e".toList, some "at 1".toList⟩
  probes := [⟨1, "x".toList, some .null, none⟩,
    ⟨2, "y".toList, some (.number (.int 18446744073709551615)), some "e".toList⟩]
  stats := some ⟨1999999, some (-1)⟩

theorem read?_compact_toTree_sample :
    ((∀ p ∈ sample.probes, p.line ≤ Json.Numeral.maxWord) ∧ (∀ v ∈ sample.values, v.HasWords) ∧
      (∀ v ∈ sample.values, v.Ordered) ∧ sample.toTree.depth ≤ Json.maxDepth) ∧
    read? sample.toTree.compact = some { sample with
      probes := [⟨1, "x".toList, none, none⟩,
        ⟨2, "y".toList, some (.number (.int 18446744073709551615)), some "e".toList⟩]
      stats := some ⟨1000000, some (-1)⟩ } := by
  have hlines : ∀ p ∈ sample.probes, p.line ≤ Json.Numeral.maxWord := by decide
  have hvalues : sample.values =
      [.object [("k".toList, .array [.null, .number (.int (-9223372036854775808))]),
        ("l".toList, .string "\"\\".toList)], .null, .number (.int 18446744073709551615)] := rfl
  have hwords : ∀ v ∈ sample.values, v.HasWords := by
    rw [hvalues, List.forall_mem_cons, List.forall_mem_cons, List.forall_mem_singleton]
    refine ⟨.object ?_, .null, .number (by decide)⟩
    rw [List.forall_mem_cons, List.forall_mem_singleton]
    refine ⟨.array ?_, .string _⟩
    rw [List.forall_mem_cons, List.forall_mem_singleton]
    exact ⟨.null, .number (by decide)⟩
  have hordered : ∀ v ∈ sample.values, v.Ordered := by
    rw [hvalues, List.forall_mem_cons, List.forall_mem_cons, List.forall_mem_singleton]
    refine ⟨.object (by decide) ?_, .null, .number _⟩
    rw [List.forall_mem_cons, List.forall_mem_singleton]
    refine ⟨.array ?_, .string _⟩
    rw [List.forall_mem_cons, List.forall_mem_singleton]
    exact ⟨.null, .number _⟩
  have hdepth : sample.toTree.depth ≤ Json.maxDepth := by decide
  exact ⟨⟨hlines, hwords, hordered, hdepth⟩,
    read?_compact_toTree hlines hwords hordered hdepth⟩

end Report

end Scratchpad
