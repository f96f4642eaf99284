import Mathlib.Data.List.Basic
import Scratchpad.Files

/-!
Files with plain names in one directory. Writing and removing files leaves all directories as they
are (`Files.SameDirectories`), so a path leads to the same place before and after. Two plain names in
one directory lead to two places, and what is done to one of them does not touch the other.
-/

set_option autoImplicit false
set_option relaxedAutoImplicit false

namespace Scratchpad

namespace Path

/-- A directory as it stands before a name: with a slash at its end unless it is empty. -/
def lead (base : Text) : Text :=
  if base.isEmpty ∨ base.getLast? = some '/' then base else base ++ ['/']

private theorem join_eq_lead_append {p : Text} (h : isAbsolute p = false) (base : Text) :
    join base p = lead base ++ p := by
  unfold join lead
  rw [if_neg (by simp [h])]
  split
  · rfl
  · simp

private theorem lead_cases (base : Text) : lead base = [] ∨ ∃ q, lead base = q ++ ['/'] := by
  unfold lead
  split
  · next h =>
    rcases h with h | h
    · exact Or.inl (List.isEmpty_iff.1 h)
    · obtain ⟨q, rfl⟩ := List.getLast?_eq_some_iff.1 h
      exact Or.inr ⟨q, rfl⟩
  · exact Or.inr ⟨base, rfl⟩

/-- A name that leads to something below a directory. -/
structure IsPlain (name : Text) : Prop where
  ne_nil : name ≠ []
  no_slash : '/' ∉ name
  ne_dot : name ≠ ['.']
  ne_dots : name ≠ ['.', '.']

private theorem isAbsolute_append_of_no_slash {name : Text} (h : '/' ∉ name) (pre : Text) :
    isAbsolute (pre ++ name) = isAbsolute pre := by
  cases pre with
  | nil =>
    cases name with
    | nil => rfl
    | cons c name =>
      have hc : '/' ≠ c := fun hc => h (hc ▸ List.mem_cons_self ..)
      simp [isAbsolute, Text.startsWith, Text.after?, hc]
  | cons c pre =>
    simp only [isAbsolute, Text.startsWith, List.cons_append, Text.after?]
    split <;> rfl

private theorem exists_join_join (base dir : Text) : ∃ pre : Text,
    (pre = [] ∨ ∃ q, pre = q ++ ['/']) ∧
    ∀ name, '/' ∉ name → join base (join dir name) = pre ++ name := by
  have hinner : ∀ name, '/' ∉ name → join dir name = lead dir ++ name := fun name h =>
    join_eq_lead_append (isAbsolute_append_of_no_slash h []) dir
  cases habs : isAbsolute (lead dir) with
  | true =>
    refine ⟨lead dir, lead_cases dir, fun name h => ?_⟩
    rw [hinner name h, join, if_pos (by rw [isAbsolute_append_of_no_slash h, habs])]
  | false =>
    refine ⟨lead base ++ lead dir, ?_, fun name h => ?_⟩
    · rcases lead_cases dir with hd | ⟨q, hd⟩
      · rw [hd, List.append_nil]
        exact lead_cases base
      · exact Or.inr ⟨lead base ++ q, by rw [hd, List.append_assoc]⟩
    · rw [hinner name h, List.append_assoc]
      exact join_eq_lead_append (by rw [isAbsolute_append_of_no_slash h, habs]) base

private theorem exists_splitOn_join_join (base dir : Text) : ∃ steps :
    List Text, ∀ name, '/' ∉ name → (join base (join dir name)).splitOn '/' = steps ++ [name] := by
  obtain ⟨pre, hpre, hjoin⟩ := exists_join_join base dir
  rcases hpre with rfl | ⟨q, rfl⟩
  · refine ⟨[], fun name h => ?_⟩
    rw [hjoin name h, List.nil_append, List.splitOn_eq_singleton h, List.nil_append]
  · refine ⟨q.splitOn '/', fun name h => ?_⟩
    rw [hjoin name h, List.append_assoc, List.singleton_append,
      List.splitOn_append_cons_of_beq q name (beq_self_eq_true _), List.splitOn_eq_singleton h]

end Path

namespace Files

private theorem next_of_isPlain {name : Text} (h : Path.IsPlain name) (place : List Text) :
    next place name = place ++ [name] := by
  simp [next, h.ne_nil, h.ne_dot, h.ne_dots]

private theorem walk_append (f : Files) (place : List Text) (xs ys : List Text) :
    f.walk place (xs ++ ys) = f.walk place xs >>= fun q => f.walk q ys := by
  induction xs generalizing place with
  | nil => rfl
  | cons c xs ih =>
    rw [List.cons_append, walk, walk]
    split
    · exact ih _
    · rfl
    · rfl

/-- Two states of the files with the same directories. -/
structure SameDirectories (f g : Files) : Prop where
  workingDir : g.workingDir = f.workingDir
  directory : ∀ place, g.at? place = some .directory ↔ f.at? place = some .directory

theorem SameDirectories.refl (f : Files) : SameDirectories f f :=
  ⟨rfl, fun _ => Iff.rfl⟩

theorem SameDirectories.symm {f g : Files} (h : SameDirectories f g) : SameDirectories g f :=
  ⟨h.workingDir.symm, fun place => (h.directory place).symm⟩

theorem SameDirectories.trans {f g k : Files} (h : SameDirectories f g)
    (h' : SameDirectories g k) : SameDirectories f k :=
  ⟨h'.workingDir.trans h.workingDir, fun place => (h'.directory place).trans (h.directory place)⟩

theorem SameDirectories.walk {f g : Files} (h : SameDirectories f g) {steps : List Text}
    {place q : List Text} (hw : f.walk place steps = .ok q) : g.walk place steps = .ok q := by
  induction steps generalizing place with
  | nil => exact hw
  | cons c steps ih =>
    rw [Files.walk] at hw ⊢
    split at hw
    · next hd =>
      rw [(h.directory place).2 hd]
      exact ih hw
    · simp at hw
    · simp at hw

theorem SameDirectories.place {f g : Files} (h : SameDirectories f g) {path : Text}
    {q : List Text} (hp : f.place path = .ok q) : g.place path = .ok q := by
  unfold Files.place at hp ⊢
  split at hp
  · simp at hp
  · next hne =>
    rw [if_neg hne, h.workingDir]
    exact h.walk hp

private theorem lookup_filter_ne {nodes : List (List Text × Node)} {p q : List Text} (h : q ≠ p) :
    (nodes.filter fun e => e.1 ≠ p).lookup q = nodes.lookup q := by
  induction nodes with
  | nil => rfl
  | cons e nodes ih =>
    obtain ⟨k, n⟩ := e
    by_cases hk : k = p
    · have hq : (q == k) = false := beq_false_of_ne (hk ▸ h)
      rw [List.filter_cons_of_neg (by simpa using hk), ih, List.lookup_cons, hq]
    · rw [List.filter_cons_of_pos (by simpa using hk), List.lookup_cons, List.lookup_cons, ih]

private theorem lookup_filter_self (nodes : List (List Text × Node)) (p : List Text) :
    (nodes.filter fun e => e.1 ≠ p).lookup p = none := by
  induction nodes with
  | nil => rfl
  | cons e nodes ih =>
    obtain ⟨k, n⟩ := e
    by_cases hk : k = p
    · rw [List.filter_cons_of_neg (by simpa using hk), ih]
    · have hp : (p == k) = false := beq_false_of_ne (Ne.symm hk)
      rw [List.filter_cons_of_pos (by simpa using hk), List.lookup_cons, hp, ih]

private theorem at?_of_ne_nil (f : Files) {place : List Text} (h : place ≠ []) :
    f.at? place = f.nodes.lookup place := by
  simp [at?, h]

/-- Only what stands at one place may differ, and no directory stands there before or after. -/
structure AgreeExcept (f g : Files) (spot : List Text) : Prop where
  workingDir : g.workingDir = f.workingDir
  before : f.at? spot ≠ some .directory
  after : g.at? spot ≠ some .directory
  elsewhere : ∀ place, place ≠ spot → g.at? place = f.at? place

private theorem AgreeExcept.sameDirectories {f g : Files} {spot : List Text}
    (h : AgreeExcept f g spot) : SameDirectories f g where
  workingDir := h.workingDir
  directory place := by
    by_cases hp : place = spot
    · rw [hp]
      exact ⟨fun ha => absurd ha h.after, fun hb => absurd hb h.before⟩
    · rw [h.elsewhere place hp]

private theorem ne_nil_of_not_directory {f : Files} {spot : List Text}
    (h : f.at? spot ≠ some .directory) : spot ≠ [] := by
  rintro rfl
  exact h rfl

theorem write_of_writeFault? {f : Files} {path : Text} (h : f.writeFault? path = none)
    (content : Text) : ∃ spot, f.place path = .ok spot ∧
      AgreeExcept f (f.write path content) spot ∧
      (f.write path content).at? spot = some (.file content false) := by
  unfold writeFault? at h
  cases hp : f.place path with
  | error fault => simp [hp] at h
  | ok spot =>
    have hnot : f.at? spot ≠ some .directory := by
      intro hd
      simp [hp, hd] at h
    have hne := ne_nil_of_not_directory hnot
    have hwrite : f.write path content = f.put spot (.file content false) := by
      unfold write writeFault?
      rw [hp]
      dsimp only
      split
      · next hs _ =>
        obtain rfl := Except.ok.inj hs
        rfl
      · next hs =>
        exfalso
        apply hs spot rfl
        split
        · next hd => exact absurd hd hnot
        · rfl
    have hat : (f.put spot (.file content false)).at? spot = some (.file content false) := by
      rw [at?_of_ne_nil _ hne, put, List.lookup_cons, beq_self_eq_true]
    refine ⟨spot, rfl, ?_, by rw [hwrite, hat]⟩
    rw [hwrite]
    refine ⟨rfl, hnot, by rw [hat]; simp, fun place hplace => ?_⟩
    have hb : (place == spot) = false := beq_false_of_ne hplace
    simp only [at?, put, List.lookup_cons, hb, lookup_filter_ne hplace]

private theorem read_eq_ok_iff {f : Files} {path content : Text} :
    f.read path = .ok content ↔
      ∃ spot executable, f.place path = .ok spot ∧ f.at? spot = some (.file content executable) := by
  unfold read node
  cases hp : f.place path with
  | error fault => simp [bind, Except.bind]
  | ok spot =>
    cases hn : f.at? spot with
    | none => simp [bind, Except.bind, hn]
    | some n =>
      cases n with
      | directory => simp [bind, Except.bind, hn]
      | file c x => cases x <;> simp [bind, Except.bind, hn]

theorem removeFile_cases (f : Files) (path : Text) :
    (∃ spot, f.place path = .ok spot ∧ AgreeExcept f (f.removeFile path) spot ∧
        (f.removeFile path).at? spot = none) ∨
      (f.removeFile path = f ∧ ∀ content, f.read path ≠ .ok content) := by
  unfold removeFile
  cases hp : f.place path with
  | error fault =>
    refine Or.inr ⟨rfl, fun content hread => ?_⟩
    obtain ⟨spot, x, hspot, -⟩ := read_eq_ok_iff.1 hread
    rw [hp] at hspot
    simp at hspot
  | ok spot =>
    dsimp only
    split
    · next c x hn =>
      have hnot : f.at? spot ≠ some .directory := by simp [hn]
      have hat : at? { f with nodes := f.nodes.filter fun e => e.1 ≠ spot } spot = none := by
        rw [at?_of_ne_nil _ (ne_nil_of_not_directory hnot), lookup_filter_self]
      refine Or.inl ⟨spot, rfl, ⟨rfl, hnot, by rw [hat]; simp, fun place hplace => ?_⟩, hat⟩
      simp only [at?, lookup_filter_ne hplace]
    · next hn =>
      refine Or.inr ⟨rfl, fun content hread => ?_⟩
      obtain ⟨spot', x, hspot, hfile⟩ := read_eq_ok_iff.1 hread
      rw [hp] at hspot
      obtain rfl := Except.ok.inj hspot
      exact hn content x hfile

private theorem AgreeExcept.read_iff {f g : Files} {spot : List Text} (h : AgreeExcept f g spot)
    {path : Text} (hne : f.place path ≠ .ok spot) (content : Text) :
    g.read path = .ok content ↔ f.read path = .ok content := by
  have hsame := h.sameDirectories
  rw [read_eq_ok_iff, read_eq_ok_iff]
  constructor
  · rintro ⟨q, x, hq, hfile⟩
    have hq' := hsame.symm.place hq
    rw [h.elsewhere q fun he => hne (he ▸ hq')] at hfile
    exact ⟨q, x, hq', hfile⟩
  · rintro ⟨q, x, hq, hfile⟩
    rw [← h.elsewhere q fun he => hne (he ▸ hq)] at hfile
    exact ⟨q, x, hsame.place hq, hfile⟩

def content? (f : Files) (path : Text) : Option Text :=
  (f.read path).toOption

theorem content?_eq_some_iff {f : Files} {path content : Text} :
    f.content? path = some content ↔ f.read path = .ok content := by
  unfold content?
  cases f.read path <;> simp [Except.toOption]

theorem isFile_eq_isSome_content? (f : Files) (path : Text) :
    f.isFile path = (f.content? path).isSome := by
  unfold isFile content? read
  cases f.node path with
  | error fault => rfl
  | ok n => cases n <;> rfl

theorem content?_write {f : Files} {path : Text} (h : f.writeFault? path = none)
    (content : Text) : (f.write path content).content? path = some content := by
  obtain ⟨spot, hp, hagree, hfile⟩ := write_of_writeFault? h content
  rw [content?_eq_some_iff, read_eq_ok_iff]
  exact ⟨spot, false, hagree.sameDirectories.place hp, hfile⟩

theorem writeFault?_write {f : Files} {path : Text} (h : f.writeFault? path = none)
    (content : Text) : (f.write path content).writeFault? path = none := by
  obtain ⟨spot, hp, hagree, hfile⟩ := write_of_writeFault? h content
  rw [writeFault?, hagree.sameDirectories.place hp]
  simp only [hfile]

theorem content?_removeFile (f : Files) (path : Text) : (f.removeFile path).content? path = none := by
  rw [Option.eq_none_iff_forall_ne_some]
  intro content hcontent
  rw [content?_eq_some_iff] at hcontent
  rcases removeFile_cases f path with ⟨spot, hp, hagree, hnone⟩ | ⟨he, hne⟩
  · obtain ⟨q, x, hq, hfile⟩ := read_eq_ok_iff.1 hcontent
    rw [hagree.sameDirectories.place hp] at hq
    obtain rfl := Except.ok.inj hq
    rw [hnone] at hfile
    simp at hfile
  · rw [he] at hcontent
    exact hne content hcontent

/-- Two paths that never lead to the same place. -/
def Apart (f : Files) (p q : Text) : Prop :=
  ∀ spot, f.place p = .ok spot → f.place q ≠ .ok spot

theorem content?_write_of_apart {f : Files} {p q : Text} (hw : f.writeFault? p = none)
    (h : f.Apart p q) (content : Text) : (f.write p content).content? q = f.content? q := by
  obtain ⟨spot, hp, hagree, -⟩ := write_of_writeFault? hw content
  apply Option.ext
  intro c
  rw [content?_eq_some_iff, content?_eq_some_iff]
  exact hagree.read_iff (h spot hp) c

theorem content?_removeFile_of_apart {f : Files} {p q : Text} (h : f.Apart p q) :
    (f.removeFile p).content? q = f.content? q := by
  rcases removeFile_cases f p with ⟨spot, hp, hagree, -⟩ | ⟨he, -⟩
  · apply Option.ext
    intro c
    rw [content?_eq_some_iff, content?_eq_some_iff]
    exact hagree.read_iff (h spot hp) c
  · rw [he]

private theorem exists_place_join (f : Files) (dir : Text) : ∃ below : Except Fault (List Text),
    ∀ name, Path.IsPlain name → ∀ spot, f.place (Path.join dir name) = .ok spot →
      ∃ directory, below = .ok directory ∧ spot = directory ++ [name] := by
  obtain ⟨steps, hsteps⟩ := Path.exists_splitOn_join_join f.workingDir dir
  refine ⟨f.walk [] steps, fun name hname spot hp => ?_⟩
  unfold place at hp
  split at hp
  · simp at hp
  · rw [hsteps name hname.no_slash, walk_append] at hp
    cases hw : f.walk [] steps with
    | error fault => simp [hw, bind, Except.bind] at hp
    | ok directory =>
      simp only [hw, bind, Except.bind, walk] at hp
      split at hp
      · exact ⟨directory, rfl, by rw [← Except.ok.inj hp, next_of_isPlain hname]⟩
      · simp at hp
      · simp at hp

theorem apart_of_ne {f : Files} {dir a b : Text} (ha : Path.IsPlain a) (hb : Path.IsPlain b)
    (hne : a ≠ b) : f.Apart (Path.join dir a) (Path.join dir b) := by
  obtain ⟨below, hbelow⟩ := f.exists_place_join dir
  intro spot hpa hpb
  obtain ⟨d, hd, rfl⟩ := hbelow a ha spot hpa
  obtain ⟨d', hd', he⟩ := hbelow b hb _ hpb
  obtain rfl : d = d' := Except.ok.inj (hd.symm.trans hd')
  exact hne (List.cons.inj (List.append_cancel_left he)).1

end Files

end Scratchpad
