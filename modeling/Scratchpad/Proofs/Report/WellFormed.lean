import Scratchpad.Proofs.Json.WellFormed
import Scratchpad.Report

/-!
The tree of a report is well-formed, whatever texts and values the report holds.
-/

set_option autoImplicit false
set_option relaxedAutoImplicit false

namespace Scratchpad.Report

open Json (Tree)
open Json.Tree (wellFormed_ofInt wellFormed_ofMembers wellFormed_ofNat wellFormed_ofText)

private theorem wellFormed_orNull {α : Type} {f : α → Tree} (h : ∀ a, (f a).WellFormed)
    (o : Option α) : (orNull f o).WellFormed := by
  cases o with
  | none => exact .null
  | some a => exact h a

private theorem wellFormed_optional {α : Type} {f : α → Tree} (h : ∀ a, (f a).WellFormed)
    (key : Text) (o : Option α) : ∀ m ∈ optional key f o, m.2.WellFormed := by
  cases o with
  | none => simp [optional]
  | some a => simpa [optional] using h a

private theorem wellFormed_entryTree (e : Entry) : (entryTree e).WellFormed :=
  wellFormed_ofMembers (by simp [wellFormed_ofText])

private theorem wellFormed_faultTree (f : Fault) : (faultTree f).WellFormed :=
  wellFormed_ofMembers (List.forall_mem_cons.2
    ⟨wellFormed_ofText _, wellFormed_optional wellFormed_ofText _ _⟩)

private theorem wellFormed_readingTree (r : Reading) : (readingTree r).WellFormed := by
  refine wellFormed_ofMembers (List.forall_mem_append.2
    ⟨?_, wellFormed_optional wellFormed_ofText _ _⟩)
  simp [wellFormed_ofNat, wellFormed_ofText, wellFormed_orNull Json.Value.wellFormed_toTree]

private theorem wellFormed_statsTree (s : Stats) : (statsTree s).WellFormed :=
  wellFormed_ofMembers (by
    simp [wellFormed_ofNat, wellFormed_orNull fun c : Int32 => wellFormed_ofInt c.toInt])

theorem wellFormed_toTree (r : Report) : r.toTree.WellFormed := by
  have houtput : (Tree.array (r.output.map entryTree)).WellFormed := .array fun t ht => by
    obtain ⟨e, -, rfl⟩ := List.mem_map.1 ht
    exact wellFormed_entryTree e
  have hprobes : (Tree.array (r.probes.map readingTree)).WellFormed := .array fun t ht => by
    obtain ⟨p, -, rfl⟩ := List.mem_map.1 ht
    exact wellFormed_readingTree p
  refine wellFormed_ofMembers ?_
  rw [List.forall_mem_append, List.forall_mem_append, List.forall_mem_append]
  refine ⟨⟨⟨?_, wellFormed_optional Json.Value.wellFormed_toTree _ _⟩, ?_⟩,
    wellFormed_optional wellFormed_statsTree _ _⟩
  · simpa using houtput
  · simpa using ⟨wellFormed_orNull wellFormed_faultTree _, hprobes⟩

end Scratchpad.Report
