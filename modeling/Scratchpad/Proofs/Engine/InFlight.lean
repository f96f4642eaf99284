import Scratchpad.Engine.Course
import Scratchpad.Proofs.Engine.Step
import Scratchpad.Proofs.Registry.Basic

/-!
The runs in flight. Every entry of the registry is the registration of a run that is not over
(`Engine.EntriesHeld`), and a step makes no run be in flight except by its submission.
-/

set_option autoImplicit false
set_option relaxedAutoImplicit false

namespace Scratchpad.Engine

variable {e e' : Engine} {event : Event}

/-- Every entry is held by a run that is not over. -/
def EntriesHeld (e : Engine) : Prop :=
  ∀ g ∈ e.registry.entries, ∃ (n : Nat) (r : Run), e.runs[n]? = some r ∧ r.registration = g ∧
    r.request.id = g.id ∧ r.answer? = none

theorem isRunning_iff {id : RunId} :
    e.isRunning id = true ↔ ∃ g ∈ e.registry.entries, g.id = id :=
  Registry.tracks_iff

theorem Moves.answer?_eq_none {r : Run} {m : Move} {p : Phase} {files : Files}
    {registry : Registry} (h : Moves e r m p files registry) : r.answer? = none := by
  cases h <;> simp [Run.answer?, *]

private theorem answer?_preparedPhase (e : Engine) (r : Run) (interpreter : Text) :
    Run.answer? { r with phase := e.preparedPhase r interpreter } = none := by
  unfold preparedPhase
  split
  · rfl
  · split <;> rfl

private theorem Moves.registry_cases {r : Run} {m : Move} {p : Phase} {files : Files}
    {registry : Registry} (h : Moves e r m p files registry) :
    registry = e.registry ∧ Run.answer? { r with phase := p } = none ∨
      registry = e.registry.release r.registration := by
  cases h with
  | prepare interpreter h => exact Or.inl ⟨rfl, answer?_preparedPhase e r interpreter⟩
  | leave h => exact Or.inr rfl
  | _ => exact Or.inl ⟨rfl, rfl⟩

theorem Steps.entriesHeld (h : Steps e event e') (he : e.EntriesHeld) : e'.EntriesHeld := by
  intro g hg
  cases h with
  | @accept q g' hg' =>
    rcases e.registry.register_cases q.id with ⟨-, hnone, -⟩ | ⟨hsome, hentries⟩
    · rw [hnone] at hg'
      cases hg'
    · obtain rfl := Option.some.inj (hsome.symm.trans hg')
      rw [hentries, List.mem_cons] at hg
      rcases hg with rfl | hg
      · exact ⟨e.runs.length, _, List.getElem?_concat_length, rfl, rfl, rfl⟩
      · obtain ⟨n, r, hr, hheld⟩ := he g hg
        have hn : n < e.runs.length := (List.getElem?_eq_some_iff.1 hr).1
        exact ⟨n, r, by rwa [List.getElem?_append_left hn], hheld⟩
  | @refuse q hnone =>
    rcases e.registry.register_cases q.id with ⟨-, -, hentries⟩ | ⟨hsome, -⟩
    · exact he g (hentries ▸ hg)
    · rw [hsome] at hnone
      cases hnone
  | @advance n r m p files registry hr hm =>
    have hn : n < e.runs.length := (List.getElem?_eq_some_iff.1 hr).1
    have hset : ∀ k r', k ≠ n → e.runs[k]? = some r' →
        (e.after n r p files registry).runs[k]? = some r' := fun k r' hk hr' => by
      rwa [after, List.getElem?_set_ne hk.symm]
    rcases hm.registry_cases with ⟨rfl, hanswer⟩ | rfl
    · obtain ⟨k, r', hr', hheld, hid, hrun⟩ := he g hg
      by_cases hk : k = n
      · obtain rfl : r' = r := Option.some.inj (by rw [← hr', hk, hr])
        exact ⟨n, _, List.getElem?_set_self hn, hheld, hid, hanswer⟩
      · exact ⟨k, r', hset k r' hk hr', hheld, hid, hrun⟩
    · obtain ⟨hg, hne⟩ := List.mem_filter.1 hg
      obtain ⟨k, r', hr', hheld, hid, hrun⟩ := he g hg
      -- The entry was not that of the run that leaves, so its run is another one.
      have hk : k ≠ n := by
        rintro rfl
        obtain rfl : r' = r := Option.some.inj (hr'.symm.trans hr)
        exact of_decide_eq_true hne hheld.symm
      exact ⟨k, r', hset k r' hk hr', hheld, hid, hrun⟩
  | cancel id => exact he g (Registry.mem_entries_cancel.1 hg).1
  | cancelAll => cases hg

theorem Steps.isRunning (h : Steps e event e') {id : RunId} (hid : e'.isRunning id = true) :
    e.isRunning id = true ∨ ∃ q, event = .submit q ∧ q.id = id := by
  rw [isRunning_iff] at hid ⊢
  obtain ⟨g, hg, rfl⟩ := hid
  cases h with
  | @accept q g' hg' =>
    rcases e.registry.register_cases q.id with ⟨-, -, hentries⟩ | ⟨-, hentries⟩
    · exact Or.inl ⟨g, hentries ▸ hg, rfl⟩
    · rw [hentries, List.mem_cons] at hg
      rcases hg with rfl | hg
      · exact Or.inr ⟨q, rfl, rfl⟩
      · exact Or.inl ⟨g, hg, rfl⟩
  | @refuse q hnone =>
    rcases e.registry.register_cases q.id with ⟨-, -, hentries⟩ | ⟨hsome, -⟩
    · exact Or.inl ⟨g, hentries ▸ hg, rfl⟩
    · rw [hsome] at hnone
      cases hnone
  | advance hr hm =>
    rcases hm.registry_cases with ⟨rfl, -⟩ | rfl
    · exact Or.inl ⟨g, hg, rfl⟩
    · exact Or.inl ⟨g, (List.mem_filter.1 hg).1, rfl⟩
  | cancel id => exact Or.inl ⟨g, (Registry.mem_entries_cancel.1 hg).1, rfl⟩
  | cancelAll => cases hg

theorem submit_runs_cases (e : Engine) (q : Request) :
    (∃ g, (e.submit q).2 = .ok e.runs.length ∧
        (e.submit q).1.runs = e.runs ++ [⟨q, g, .registered⟩]) ∨
      ∃ f, (e.submit q).2 = .error f ∧ (e.submit q).1.runs = e.runs := by
  unfold submit
  split
  · next g _ => exact Or.inl ⟨g, rfl, rfl⟩
  · exact Or.inr ⟨_, rfl, rfl⟩

end Scratchpad.Engine
