import Scratchpad.Registry

/-!
What the operations of a registry do to its entries and to its signals.
-/

set_option autoImplicit false
set_option relaxedAutoImplicit false

namespace Scratchpad.Registry

variable {reg : Registry} {id : RunId}

theorem isSignalled_iff {g : Registration} :
    reg.isSignalled g = true ↔ g.generation ∈ reg.signalled := by
  rw [isSignalled, List.contains_iff_mem]

theorem tracks_iff :
    reg.tracks id = true ↔ ∃ e ∈ reg.entries, e.id = id := by
  simp [tracks]

theorem register_of_tracks (h : reg.tracks id = true) :
    reg.register id = ({ reg with next := reg.next + 1 }, none) := by
  rw [register]
  exact if_pos h

theorem register_of_free (h : reg.tracks id = false) :
    reg.register id = ({ reg with
      next := reg.next + 1
      entries := ⟨id, reg.next⟩ :: reg.entries }, some ⟨id, reg.next⟩) := by
  rw [register]
  exact if_neg (Bool.eq_false_iff.1 h)

theorem signalled_register (reg : Registry) (id : RunId) :
    (reg.register id).1.signalled = reg.signalled := by
  unfold register
  dsimp only
  split <;> rfl

theorem signalled_suffix_cancel (reg : Registry) (id : RunId) :
    reg.signalled <:+ (reg.cancel id).1.signalled := by
  unfold cancel
  split
  · exact List.suffix_cons _ _
  · exact List.suffix_refl _

theorem signalled_suffix_cancelAll (reg : Registry) :
    reg.signalled <:+ reg.cancelAll.1.signalled :=
  List.suffix_append _ _

theorem register_cases (reg : Registry) (id : RunId) :
    (∃ e ∈ reg.entries, e.id = id) ∧ (reg.register id).2 = none ∧
        (reg.register id).1.entries = reg.entries ∨
      (reg.register id).2 = some ⟨id, reg.next⟩ ∧
        (reg.register id).1.entries = ⟨id, reg.next⟩ :: reg.entries := by
  cases htracks : reg.tracks id with
  | true =>
    rw [register_of_tracks htracks]
    exact Or.inl ⟨tracks_iff.1 htracks, rfl, rfl⟩
  | false =>
    rw [register_of_free htracks]
    exact Or.inr ⟨rfl, rfl⟩

theorem mem_entries_cancel {g : Registration} :
    g ∈ (reg.cancel id).1.entries ↔ g ∈ reg.entries ∧ g.id ≠ id := by
  unfold cancel
  split
  · rw [List.mem_filter, decide_eq_true_iff]
  · next hnone =>
    rw [List.find?_eq_none] at hnone
    exact ⟨fun hg => ⟨hg, by simpa using hnone g hg⟩, And.left⟩

theorem tracks_cancel {i : RunId} :
    (reg.cancel id).1.tracks i = true ↔ reg.tracks i = true ∧ i ≠ id := by
  simp only [tracks_iff, mem_entries_cancel]
  constructor
  · rintro ⟨g, ⟨hg, hne⟩, rfl⟩
    exact ⟨⟨g, hg, rfl⟩, hne⟩
  · rintro ⟨⟨g, hg, rfl⟩, hne⟩
    exact ⟨g, ⟨hg, hne⟩, rfl⟩

theorem cancel_eq_tracks : (reg.cancel id).2 = reg.tracks id := by
  unfold cancel
  split
  · next e he =>
    have hid : e.id = id := by simpa using List.find?_some he
    exact (tracks_iff.2 ⟨e, List.mem_of_find?_eq_some he, hid⟩).symm
  · next hnone =>
    rw [List.find?_eq_none] at hnone
    rw [eq_comm, ← Bool.not_eq_true, tracks_iff]
    rintro ⟨e, he, hid⟩
    exact hnone e he (by simpa using hid)

end Scratchpad.Registry
