import Mathlib.Algebra.Group.Nat.Defs
import Scratchpad.Proofs.Engine.Step
import Scratchpad.Proofs.Files.Directory

/-!
The script files of runs. The file of a run is named for its identifier and its language, and both
can be told from the name (`Engine.scriptName_inj`), so a run touches the files of runs with the same
identifier and language only. What stands at their common path is what these runs have left there
(`Engine.Steps.content?`).
-/

set_option autoImplicit false
set_option relaxedAutoImplicit false

namespace Scratchpad

namespace RunId

private theorem hexDigit_inj :
    ∀ m < 16, ∀ n < 16, Json.Quoted.hexDigit m = Json.Quoted.hexDigit n → m = n := by
  decide

private theorem length_hexDigits (count n : Nat) : (hexDigits count n).length = count := by
  induction count generalizing n with
  | zero => rfl
  | succ k ih => rw [hexDigits, List.length_append, ih, List.length_singleton]

private theorem hexDigits_inj {count m n : Nat} (hm : m < 16 ^ count) (hn : n < 16 ^ count)
    (h : hexDigits count m = hexDigits count n) : m = n := by
  induction count generalizing m n with
  | zero =>
    rw [Nat.pow_zero] at hm hn
    omega
  | succ k ih =>
    rw [hexDigits, hexDigits] at h
    obtain ⟨hinit, hlast⟩ := List.append_inj' h rfl
    rw [Nat.pow_succ] at hm hn
    have hdiv : m / 16 = n / 16 := ih (by omega) (by omega) hinit
    have hmod : m % 16 = n % 16 :=
      hexDigit_inj _ (Nat.mod_lt _ (by decide)) _ (Nat.mod_lt _ (by decide)) (List.cons.inj hlast).1
    omega

private theorem length_simple (id : RunId) : id.simple.length = 32 :=
  length_hexDigits ..

private theorem simple_inj {a b : RunId} (h : a.simple = b.simple) : a = b := by
  have hpow : (16 : Nat) ^ 32 = 2 ^ 128 := by decide
  have hbits : a.bits.toNat = b.bits.toNat :=
    hexDigits_inj (hpow ▸ a.bits.isLt) (hpow ▸ b.bits.isLt) h
  obtain ⟨a⟩ := a
  obtain ⟨b⟩ := b
  exact congrArg RunId.mk (BitVec.eq_of_toNat_eq hbits)

private theorem ne_slash_of_mem_hexDigits (count n : Nat) :
    ∀ c ∈ hexDigits count n, c ≠ '/' := by
  have hdigit : ∀ n < 16, Json.Quoted.hexDigit n ≠ '/' := by decide
  induction count generalizing n with
  | zero => simp [hexDigits]
  | succ k ih =>
    rw [hexDigits, List.forall_mem_append, List.forall_mem_singleton]
    exact ⟨ih _, hdigit _ (Nat.mod_lt _ (by decide))⟩

private theorem slash_notMem_simple (id : RunId) : '/' ∉ id.simple := fun h =>
  ne_slash_of_mem_hexDigits 32 id.bits.toNat '/' h rfl

end RunId

private theorem Language.scriptExtension_inj {a b : Language}
    (h : a.scriptExtension = b.scriptExtension) : a = b := by
  cases a <;> cases b <;> first | rfl | exact absurd h (by decide)

namespace Engine

private theorem scriptName_inj {a b : RunId} {l k : Language} (h : scriptName a l = scriptName b k)
    : a = b ∧ l = k := by
  unfold scriptName at h
  rw [List.append_assoc, List.append_assoc, List.append_cancel_left_eq] at h
  obtain ⟨hid, hext⟩ := List.append_inj h (a.length_simple.trans b.length_simple.symm)
  exact ⟨RunId.simple_inj hid, Language.scriptExtension_inj hext⟩

private theorem isPlain_scriptName (id : RunId) (l : Language) : Path.IsPlain (scriptName id l)
    := by
  have hsub : id.simple.Sublist (scriptName id l) :=
    (List.sublist_append_right _ _).trans (List.sublist_append_left _ _)
  have hlen : 32 ≤ (scriptName id l).length :=
    Nat.le_trans (Nat.le_of_eq id.length_simple.symm) hsub.length_le
  have hne : ∀ t : Text, t.length < 32 → scriptName id l ≠ t := by
    rintro t ht rfl
    exact Nat.not_lt.2 hlen ht
  refine ⟨hne _ (by decide), fun h => ?_, hne _ (by decide), hne _ (by decide)⟩
  rcases List.mem_append.1 h with h | h
  · rcases List.mem_append.1 h with h | h
    · exact absurd h (by decide)
    · exact id.slash_notMem_simple h
  · cases l <;> exact absurd h (by decide)

/-- What a move of a run leaves at the path of its script: the script once it is written, a part if
the writing breaks off, and nothing once it is removed. -/
def leaves : Phase → Move → Option Text → Option Text
  | .prepared script _, .write none, _ => some script.source
  | .prepared _ _, .breakOff part _, _ => some part
  | .decided _ false, .clean, _ => none
  | _, _, left => left

/-- Notes what the runs with an identifier and a language have left at their path. -/
def noteLeft (id : RunId) (l : Language) (e : Engine) : Event → Option Text → Option Text
  | .advance n m, left =>
    match e.runs[n]? with
    | some r => if r.request.id = id ∧ r.request.language = l then leaves r.phase m left else left
    | none => left
  | _, left => left

def pathOf (settings : Settings) (id : RunId) (l : Language) : Text :=
  Path.join settings.tempDir (scriptName id l)

theorem noteLeft_advance {e : Engine} {n : Nat} {r : Run} (hr : e.runs[n]? = some r)
    (id : RunId) (l : Language) (m : Move) (left : Option Text) :
    noteLeft id l e (.advance n m) left =
      if r.request.id = id ∧ r.request.language = l then leaves r.phase m left else left := by
  simp only [noteLeft, hr]

private theorem Moves.content?_self {e : Engine} {r : Run} {m : Move} {p : Phase} {files : Files}
    {registry : Registry} (h : Moves e r m p files registry) :
    files.content? (e.scriptPath r.request) =
      leaves r.phase m (e.files.content? (e.scriptPath r.request)) := by
  cases h with
  | write h hfault => rw [h, leaves, Files.content?_write hfault]
  | breakOff part f h hfault => rw [h, leaves, Files.content?_write hfault]
  | @clean outcome keep h =>
    rw [h]
    cases keep with
    | true => rfl
    | false => rw [leaves, if_neg Bool.false_ne_true, Files.content?_removeFile]
  | prepare interpreter h => rw [h]; rfl
  | writeFault f h => rw [h]; rfl
  | start h => rw [h]; rfl
  | startFault f h => rw [h]; rfl
  | close remains h => rw [h]; rfl
  | stop h hsignal => rw [h]; rfl
  | decide h => rw [h]; rfl
  | leave h => rw [h]; rfl

private theorem Moves.content?_of_apart {e : Engine} {r : Run} {m : Move} {p : Phase}
    {files : Files} {registry : Registry} (h : Moves e r m p files registry) {path : Text}
    (ha : e.files.Apart (e.scriptPath r.request) path) :
    files.content? path = e.files.content? path := by
  cases h with
  | write h hfault => exact Files.content?_write_of_apart hfault ha _
  | breakOff part f h hfault => exact Files.content?_write_of_apart hfault ha _
  | @clean outcome keep h =>
    cases keep with
    | true => rfl
    | false => exact Files.content?_removeFile_of_apart ha
  | _ => rfl

/-- At the path of an identifier and a language stands what its runs have left. -/
theorem Steps.content? {e e' : Engine} {event : Event} (h : Steps e event e') (id : RunId)
    (l : Language) :
    e'.settings = e.settings ∧ e'.files.content? (pathOf e.settings id l) =
      noteLeft id l e event (e.files.content? (pathOf e.settings id l)) := by
  cases h with
  | accept hg => exact ⟨rfl, rfl⟩
  | refuse hg => exact ⟨rfl, rfl⟩
  | @advance n r m p files registry hr hm =>
    refine ⟨rfl, ?_⟩
    rw [noteLeft_advance hr]
    split
    · next hsame =>
      obtain ⟨rfl, rfl⟩ := hsame
      exact hm.content?_self
    · next hother =>
      apply hm.content?_of_apart
      apply Files.apart_of_ne (isPlain_scriptName _ _) (isPlain_scriptName _ _)
      exact fun hname => hother (scriptName_inj hname)
  | cancel id => exact ⟨rfl, rfl⟩
  | cancelAll => exact ⟨rfl, rfl⟩

end Engine

end Scratchpad
