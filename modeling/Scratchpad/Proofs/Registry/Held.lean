import Mathlib.Data.List.Nodup
import Scratchpad.Proofs.Registry.Basic

/-!
The registry and those who hold its registrations. Whatever is called in whatever order, the entries
are the registrations that are held and not signalled (`Held.Sound`), so that what a call answers and
changes can be told from these alone (`Held.Exact`).
-/

set_option autoImplicit false
set_option relaxedAutoImplicit false

namespace Scratchpad.Registry

/-- A registry with the registrations that are held, the latest first. -/
structure Held where
  registry : Registry := {}
  guards : List Registration := []

inductive Call where
  | register (id : RunId)
  | release (g : Registration)
  | cancel (id : RunId)
  | cancelAll

namespace Held

/-- What a call does. A registration that is not held cannot be let go of. -/
def step (h : Held) : Call → Held
  | .register id => ⟨(h.registry.register id).1, (h.registry.register id).2.toList ++ h.guards⟩
  | .release g => if g ∈ h.guards then ⟨h.registry.release g, h.guards.erase g⟩ else h
  | .cancel id => { h with registry := (h.registry.cancel id).1 }
  | .cancelAll => { h with registry := h.registry.cancelAll.1 }

def run (calls : List Call) : Held :=
  calls.foldl step {}

/-- The registrations that are held and have not been signalled. -/
def live (h : Held) : List Registration :=
  h.guards.filter fun g => !h.registry.isSignalled g

structure Sound (h : Held) : Prop where
  entries_eq : h.registry.entries = h.live
  ids_nodup : (h.live.map (·.id)).Nodup
  generations_nodup : (h.guards.map (·.generation)).Nodup
  generation_lt : ∀ g ∈ h.guards, g.generation < h.registry.next
  signalled_lt : ∀ n ∈ h.registry.signalled, n < h.registry.next

variable {h : Held}

private theorem mem_live {g : Registration} :
    g ∈ h.live ↔ g ∈ h.guards ∧ g.generation ∉ h.registry.signalled := by
  rw [live, List.mem_filter, Bool.not_eq_true', ← Bool.not_eq_true, isSignalled_iff]

private theorem Sound.eq_of_id_eq (hs : h.Sound) {g g' : Registration} (hg : g ∈ h.live)
    (hg' : g' ∈ h.live) (hid : g.id = g'.id) : g = g' :=
  List.inj_on_of_nodup_map hs.ids_nodup hg hg' hid

private theorem Sound.eq_of_generation_eq (hs : h.Sound) {g g' : Registration} (hg : g ∈ h.guards)
    (hg' : g' ∈ h.guards) (hgen : g.generation = g'.generation) : g = g' :=
  List.inj_on_of_nodup_map hs.generations_nodup hg hg' hgen

theorem Sound.tracks_iff (hs : h.Sound) {id : RunId} :
    h.registry.tracks id = true ↔ ∃ g ∈ h.live, g.id = id := by
  rw [Registry.tracks_iff, hs.entries_eq]

private theorem live_register (hs : h.Sound) {id : RunId} (htracks : h.registry.tracks id = false) :
    (h.step (.register id)).live = ⟨id, h.registry.next⟩ :: h.live := by
  have hunsignalled : h.registry.isSignalled ⟨id, h.registry.next⟩ = false := by
    rw [← Bool.not_eq_true, isSignalled_iff]
    exact fun hmem => Nat.lt_irrefl _ (hs.signalled_lt _ hmem)
  rw [step, register_of_free htracks]
  exact List.filter_cons_of_pos (by rw [Bool.not_eq_true']; exact hunsignalled)

theorem Sound.register (hs : h.Sound) (id : RunId) : (h.step (.register id)).Sound := by
  have hgenerations : ∀ g ∈ h.guards, g.generation < h.registry.next + 1 := fun g hg =>
    Nat.lt_succ_of_lt (hs.generation_lt g hg)
  have hsignalled : ∀ n ∈ h.registry.signalled, n < h.registry.next + 1 := fun n hn =>
    Nat.lt_succ_of_lt (hs.signalled_lt n hn)
  cases htracks : h.registry.tracks id with
  -- A refused registration uses up a generation and leaves no guard.
  | true =>
    have hstep : h.step (.register id) =
        ⟨{ h.registry with next := h.registry.next + 1 }, h.guards⟩ := by
      rw [step, register_of_tracks htracks]
      rfl
    rw [hstep]
    exact ⟨hs.entries_eq, hs.ids_nodup, hs.generations_nodup, hgenerations, hsignalled⟩
  | false =>
    have hlive := live_register hs htracks
    have hfree : id ∉ h.live.map (·.id) := by
      intro hmem
      obtain ⟨g, hg, hid⟩ := List.mem_map.1 hmem
      exact Bool.false_ne_true (htracks ▸ hs.tracks_iff.2 ⟨g, hg, hid⟩)
    have hnext : h.registry.next ∉ h.guards.map (·.generation) := by
      intro hmem
      obtain ⟨g, hg, hgen⟩ := List.mem_map.1 hmem
      exact Nat.ne_of_lt (hs.generation_lt g hg) hgen
    have hstep : h.step (.register id) =
        ⟨{ h.registry with
            next := h.registry.next + 1
            entries := ⟨id, h.registry.next⟩ :: h.registry.entries },
          ⟨id, h.registry.next⟩ :: h.guards⟩ := by
      rw [step, register_of_free htracks]
      rfl
    refine ⟨?_, ?_, ?_, ?_, ?_⟩
    · rw [hlive, hstep, hs.entries_eq]
    · rw [hlive]
      exact List.nodup_cons.2 ⟨hfree, hs.ids_nodup⟩
    · rw [hstep]
      exact List.nodup_cons.2 ⟨hnext, hs.generations_nodup⟩
    · rw [hstep, List.forall_mem_cons]
      exact ⟨Nat.lt_succ_self _, hgenerations⟩
    · rw [hstep]
      exact hsignalled

private theorem Sound.of_sublist (hs : h.Sound) {h' : Held}
    (hentries : h'.registry.entries = h'.live)
    (hlive : h'.live.Sublist h.live) (hguards : h'.guards.Sublist h.guards)
    (hnext : h'.registry.next = h.registry.next)
    (hsignalled : ∀ n ∈ h'.registry.signalled, n < h.registry.next) : h'.Sound where
  entries_eq := hentries
  ids_nodup := hs.ids_nodup.sublist (hlive.map _)
  generations_nodup := hs.generations_nodup.sublist (hguards.map _)
  generation_lt g hg := hnext ▸ hs.generation_lt g (hguards.subset hg)
  signalled_lt := hnext ▸ hsignalled

private theorem live_release (hs : h.Sound) {g : Registration} (hg : g ∈ h.guards) :
    (h.step (.release g)).live = h.live.filter fun e => e ≠ g := by
  have hnodup : h.guards.Nodup := hs.generations_nodup.of_map
  rw [step, if_pos hg, live, hnodup.erase_eq_filter, List.filter_comm]
  exact List.filter_congr fun e _ => (decide_not ..).symm

theorem Sound.release (hs : h.Sound) (g : Registration) : (h.step (.release g)).Sound := by
  by_cases hg : g ∈ h.guards
  · have hlive := live_release hs hg
    have hstep : h.step (.release g) = ⟨h.registry.release g, h.guards.erase g⟩ := by
      rw [step, if_pos hg]
    refine hs.of_sublist ?_ (hlive ▸ List.filter_sublist) ?_ ?_ ?_
    · rw [hlive, hstep, ← hs.entries_eq]
      rfl
    · rw [hstep]
      exact List.erase_sublist
    · rw [hstep]
      rfl
    · rw [hstep]
      exact hs.signalled_lt
  · rwa [step, if_neg hg]

private theorem cancel_eq_of_mem (hs : h.Sound) {g : Registration} (hg : g ∈ h.live) :
    h.registry.cancel g.id = ({ h.registry with
      entries := h.registry.entries.filter fun e => e.id ≠ g.id
      signalled := g.generation :: h.registry.signalled }, true) := by
  have hfind : h.registry.entries.find? (fun e => e.id = g.id) = some g := by
    rw [hs.entries_eq]
    have hsome : (h.live.find? fun e => e.id = g.id).isSome = true :=
      List.find?_isSome.2 ⟨g, hg, by simp⟩
    obtain ⟨e, he⟩ := Option.isSome_iff_exists.1 hsome
    have hid : e.id = g.id := by simpa using List.find?_some he
    rw [he, hs.eq_of_id_eq (List.mem_of_find?_eq_some he) hg hid]
  rw [Registry.cancel, hfind]

private theorem cancel_eq_of_forall (hs : h.Sound) {id : RunId} (hid : ∀ g ∈ h.live, g.id ≠ id) :
    h.registry.cancel id = (h.registry, false) := by
  have hfind : h.registry.entries.find? (fun e => e.id = id) = none := by
    rw [hs.entries_eq, List.find?_eq_none]
    simpa using hid
  rw [Registry.cancel, hfind]

private theorem live_cancel (hs : h.Sound) {g : Registration} (hg : g ∈ h.live) :
    (h.step (.cancel g.id)).live = h.live.filter fun e => e.id ≠ g.id := by
  rw [live, step, cancel_eq_of_mem hs hg, live, List.filter_filter]
  refine List.filter_congr fun e he => ?_
  obtain ⟨hheld, hunsignalled⟩ := mem_live.1 hg
  have hkey : e.generation ∉ g.generation :: h.registry.signalled ↔
      e.id ≠ g.id ∧ e.generation ∉ h.registry.signalled := by
    rw [List.mem_cons, not_or]
    -- Generations tell apart all that is held, identifiers only what is live.
    refine and_congr_left fun he' => not_congr ⟨fun hgen => ?_, fun hid => ?_⟩
    · rw [hs.eq_of_generation_eq he hheld hgen]
    · rw [hs.eq_of_id_eq (mem_live.2 ⟨he, he'⟩) hg hid]
  rw [Bool.eq_iff_iff, Bool.and_eq_true, decide_eq_true_iff, Bool.not_eq_true', Bool.not_eq_true',
    ← Bool.not_eq_true, ← Bool.not_eq_true, isSignalled_iff, isSignalled_iff]
  exact hkey

theorem Sound.cancel (hs : h.Sound) (id : RunId) : (h.step (.cancel id)).Sound := by
  by_cases hid : ∃ g ∈ h.live, g.id = id
  · obtain ⟨g, hg, rfl⟩ := hid
    have hlive := live_cancel hs hg
    have hlt := hs.generation_lt g (mem_live.1 hg).1
    have hstep : h.step (.cancel g.id) = { h with registry := { h.registry with
        entries := h.registry.entries.filter fun e => e.id ≠ g.id
        signalled := g.generation :: h.registry.signalled } } := by
      rw [step, cancel_eq_of_mem hs hg]
    refine hs.of_sublist ?_ (hlive ▸ List.filter_sublist) ?_ ?_ ?_
    · rw [hlive, hstep, hs.entries_eq]
    · rw [hstep]
    · rw [hstep]
    · rw [hstep, List.forall_mem_cons]
      exact ⟨hlt, hs.signalled_lt⟩
  · rw [step, cancel_eq_of_forall hs (by simpa using hid)]
    exact hs

private theorem isSignalled_cancelAll (hs : h.Sound) {g : Registration} (hg : g ∈ h.guards) :
    h.registry.cancelAll.1.isSignalled g = true := by
  rw [isSignalled_iff, Registry.cancelAll, List.mem_append, hs.entries_eq]
  by_cases hsignal : g.generation ∈ h.registry.signalled
  · exact Or.inr hsignal
  · exact Or.inl (List.mem_map_of_mem (mem_live.2 ⟨hg, hsignal⟩))

private theorem live_cancelAll (hs : h.Sound) : (h.step .cancelAll).live = [] := by
  rw [live, List.filter_eq_nil_iff]
  intro g hg
  rw [Bool.not_eq_true', Bool.not_eq_false]
  exact isSignalled_cancelAll hs hg

theorem Sound.cancelAll (hs : h.Sound) : (h.step .cancelAll).Sound := by
  have hlive := live_cancelAll hs
  refine hs.of_sublist hlive.symm (hlive ▸ List.nil_sublist _) (List.Sublist.refl _) rfl ?_
  have hentries : ∀ n ∈ h.registry.entries.map (·.generation), n < h.registry.next := by
    rw [hs.entries_eq, List.forall_mem_map]
    exact fun g hg => hs.generation_lt g (mem_live.1 hg).1
  exact List.forall_mem_append.2 ⟨hentries, hs.signalled_lt⟩

theorem Sound.step (hs : h.Sound) (c : Call) : (h.step c).Sound := by
  cases c with
  | register id => exact hs.register id
  | release g => exact hs.release g
  | cancel id => exact hs.cancel id
  | cancelAll => exact hs.cancelAll

private theorem sound_run (calls : List Call) : (run calls).Sound := by
  have hfold : ∀ h : Held, h.Sound → (calls.foldl Held.step h).Sound := by
    induction calls with
    | nil => exact fun h hs => hs
    | cons c calls ih => exact fun h hs => ih _ (hs.step c)
  exact hfold {} ⟨rfl, List.nodup_nil, List.nodup_nil, by simp, by simp⟩

private theorem signalled_suffix_step (h : Held) (c : Call) :
    h.registry.signalled <:+ (h.step c).registry.signalled := by
  cases c with
  | register id => exact (signalled_register h.registry id).symm ▸ List.suffix_refl _
  | release g =>
    rw [step]
    split <;> exact List.suffix_refl _
  | cancel id => exact signalled_suffix_cancel h.registry id
  | cancelAll => exact signalled_suffix_cancelAll h.registry

private theorem signalled_suffix_run (calls more : List Call) :
    (run calls).registry.signalled <:+ (run (calls ++ more)).registry.signalled := by
  rw [run, run, List.foldl_append]
  generalize calls.foldl step {} = h
  induction more generalizing h with
  | nil => exact List.suffix_refl _
  | cons c more ih => exact (h.signalled_suffix_step c).trans (ih _)

/-- What calls answer and change, told by the registrations that are live. -/
structure Exact (h : Held) : Prop where
  size_eq : h.registry.size = h.live.length
  register_none_iff (id : RunId) :
    (h.registry.register id).2 = none ↔ ∃ g ∈ h.live, g.id = id
  /-- A refused registration leaves the entries as they are. -/
  entries_of_none (id : RunId) (hnone : (h.registry.register id).2 = none) :
    (h.registry.register id).1.entries = h.registry.entries
  live_of_some (id : RunId) (g : Registration) (hsome : (h.registry.register id).2 = some g) :
    g.id = id ∧ (h.step (.register id)).live = g :: h.live
  signalled_register (id : RunId) :
    (h.step (.register id)).registry.signalled = h.registry.signalled
  signalled_release (g : Registration) :
    (h.step (.release g)).registry.signalled = h.registry.signalled
  /-- A registration that has been signalled has nothing left to take away. -/
  release_of_isSignalled (g : Registration) (hg : g ∈ h.guards)
    (hsignal : h.registry.isSignalled g = true) : h.registry.release g = h.registry
  cancel_true_iff (id : RunId) :
    (h.registry.cancel id).2 = true ↔ ∃ g ∈ h.live, g.id = id
  cancel_of_mem (g : Registration) (hg : g ∈ h.live) :
    (h.registry.cancel g.id).1.signalled = g.generation :: h.registry.signalled ∧
      (h.step (.cancel g.id)).live = h.live.filter fun e => e ≠ g
  cancel_of_false (id : RunId) (hfalse : (h.registry.cancel id).2 = false) :
    (h.registry.cancel id).1 = h.registry
  cancelAll_count : h.registry.cancelAll.2 = h.live.length
  isSignalled_cancelAll (g : Registration) (hg : g ∈ h.guards) :
    h.registry.cancelAll.1.isSignalled g = true
  live_cancelAll : (h.step .cancelAll).live = []

theorem Sound.exact (hs : h.Sound) : h.Exact where
  size_eq := by rw [size, hs.entries_eq]
  register_none_iff id := by
    rw [← hs.tracks_iff]
    cases htracks : h.registry.tracks id with
    | true => simp [register_of_tracks htracks]
    | false => simp [register_of_free htracks]
  entries_of_none id hnone := by
    cases htracks : h.registry.tracks id with
    | true => rw [register_of_tracks htracks]
    | false =>
      rw [register_of_free htracks] at hnone
      cases hnone
  live_of_some id g hsome := by
    cases htracks : h.registry.tracks id with
    | true =>
      rw [register_of_tracks htracks] at hsome
      cases hsome
    | false =>
      rw [register_of_free htracks] at hsome
      rw [live_register hs htracks, ← Option.some.inj hsome]
      exact ⟨rfl, rfl⟩
  signalled_register id := Registry.signalled_register h.registry id
  signalled_release g := by
    rw [Held.step]
    split <;> rfl
  release_of_isSignalled g hg hsignal := by
    have hgone : ∀ e ∈ h.registry.entries, e ≠ g := by
      rintro e he rfl
      rw [hs.entries_eq, mem_live] at he
      exact he.2 (isSignalled_iff.1 hsignal)
    rw [Registry.release, List.filter_eq_self.2 fun e he => decide_eq_true (hgone e he)]
  cancel_true_iff id := by
    by_cases hid : ∃ g ∈ h.live, g.id = id
    · obtain ⟨g, hg, rfl⟩ := hid
      rw [cancel_eq_of_mem hs hg]
      exact iff_of_true rfl ⟨g, hg, rfl⟩
    · rw [cancel_eq_of_forall hs (by simpa using hid)]
      exact iff_of_false Bool.false_ne_true hid
  cancel_of_mem g hg := by
    refine ⟨by rw [cancel_eq_of_mem hs hg], ?_⟩
    rw [live_cancel hs hg]
    refine List.filter_congr fun e he => decide_eq_decide.2 (not_congr ⟨fun hid => ?_, ?_⟩)
    · exact hs.eq_of_id_eq he hg hid
    · exact congrArg _
  cancel_of_false id hfalse := by
    rw [Registry.cancel] at hfalse ⊢
    split at hfalse
    · cases hfalse
    · rfl
  cancelAll_count := by rw [Registry.cancelAll, hs.entries_eq]
  isSignalled_cancelAll _ hg := Held.isSignalled_cancelAll hs hg
  live_cancelAll := Held.live_cancelAll hs

/-- After whatever calls the entries are the live registrations, calls answer by these, and a signal
stays given. -/
theorem exact_run (calls more : List Call) :
    (run calls).Sound ∧ (run calls).Exact ∧
      (run calls).registry.signalled <:+ (run (calls ++ more)).registry.signalled :=
  ⟨sound_run calls, (sound_run calls).exact, signalled_suffix_run calls more⟩

end Held

end Scratchpad.Registry
