import Mathlib.Algebra.Ring.Parity
import Mathlib.Data.List.Infix
import Scratchpad.Proofs.Script.Rendering

/-!
The pieces of a template. A template is cut at successive pairs of at signs, from the left and
without overlap (`Template.IsCut`); every second piece is the name of a placeholder. What a template
renders to, or why it cannot be rendered, is told by its pieces as a whole
(`Template.render_eq_of_pieces`).
-/

set_option autoImplicit false
set_option relaxedAutoImplicit false

namespace Scratchpad.Template

def delimiter : Text :=
  ['@', '@']

/-- A text cut into pieces at successive delimiters. Each delimiter is the first one behind the one
before it. -/
inductive IsCut : Text → List Text → Prop
  | last {p : Text} (h : ¬ delimiter <:+: p) : IsCut p [p]
  | cut {p t : Text} {ps : List Text} (h : ¬ delimiter <:+: p ++ ['@']) (hrest : IsCut t ps) :
    IsCut (p ++ (delimiter ++ t)) (p :: ps)

def pieces : Text → List Text
  | [] => [[]]
  | '@' :: '@' :: t => [] :: pieces t
  | c :: t => (pieces t).modifyHead (c :: ·)

/-- The pieces with odd numbers, when the first has number zero. -/
def everySecond : List Text → List Text
  | _ :: p :: ps => p :: everySecond ps
  | _ => []

variable (values : List (Text × Text))

/-- No placeholder is left open, and there is a text for every name. -/
def IsFillable (ps : List Text) : Prop :=
  Odd ps.length ∧ ∀ name ∈ everySecond ps, name ∈ values.map Prod.fst

instance (ps : List Text) : Decidable (IsFillable values ps) :=
  inferInstanceAs (Decidable (Odd ps.length ∧ ∀ name ∈ everySecond ps, name ∈ values.map Prod.fst))

/-- The pieces one after the other, every second one in exchange for the first text with its
name. -/
def fill : List Text → Text
  | p :: name :: ps => p ++ (values.lookup name).getD [] ++ fill ps
  | [p] => p
  | [] => []

/-- The first name without a text that has a delimiter behind it is at fault; if there is none, it is
the end of the template. -/
def faultOf (ps : List Text) : Fault :=
  match (everySecond ps.dropLast).find? (· ∉ values.map Prod.fst) with
  | some name => .unknown name
  | none => .unterminated

variable {values}

theorem pieces_ne_nil (t : Text) : pieces t ≠ [] := by
  fun_induction pieces t with
  | case1 => simp
  | case2 t ih => simp
  | case3 c t hc ih => simpa [List.modifyHead_eq_nil_iff] using ih

theorem exists_pieces_eq_cons (t : Text) : ∃ p ps, pieces t = p :: ps :=
  List.exists_cons_of_ne_nil (pieces_ne_nil t)

private theorem pieces_cons {c : Char} {t : Text} (h : ¬ delimiter <+: c :: t) :
    pieces (c :: t) = (pieces t).modifyHead (c :: ·) := by
  rw [pieces]
  rintro t' rfl rfl
  exact h (List.prefix_append delimiter t')

theorem IsCut.cons {c : Char} {t p : Text} {ps : List Text} (h : IsCut t (p :: ps))
    (hc : ¬ delimiter <+: c :: t) : IsCut (c :: t) ((c :: p) :: ps) := by
  cases h with
  | last hp =>
    refine .last fun hinfix => ?_
    rcases List.infix_cons_iff.1 hinfix with hstart | hinfix
    · exact hc hstart
    · exact hp hinfix
  | @cut p t ps hp hrest =>
    refine .cut (p := c :: p) (fun hinfix => ?_) hrest
    have hbegin : c :: (p ++ ['@']) <+: c :: (p ++ (delimiter ++ t)) :=
      List.cons_prefix_cons.2 ⟨rfl, (List.prefix_append_right_inj p).2 ⟨'@' :: t, rfl⟩⟩
    rcases List.infix_cons_iff.1 hinfix with hstart | hinfix
    · exact hc (hstart.trans hbegin)
    · exact hp hinfix

private theorem isCut_pieces (t : Text) : IsCut t (pieces t) := by
  fun_induction pieces t with
  | case1 => exact .last (by decide)
  | case2 t ih => exact .cut (p := []) (by decide) ih
  | case3 c t hc ih =>
    obtain ⟨p, ps, hp⟩ := exists_pieces_eq_cons t
    rw [hp] at ih ⊢
    refine ih.cons ?_
    rintro ⟨t', ht'⟩
    obtain ⟨rfl, rfl⟩ := List.cons.inj ht'
    exact hc _ rfl rfl

private theorem pieces_eq_singleton {p : Text} (h : ¬ delimiter <:+: p) : pieces p = [p] := by
  induction p with
  | nil => rfl
  | cons c p ih =>
    rw [List.infix_cons_iff, not_or] at h
    rw [pieces_cons h.1, ih h.2, List.modifyHead_cons]

private theorem pieces_append {p : Text} (h : ¬ delimiter <:+: p ++ ['@']) (t : Text) :
    pieces (p ++ (delimiter ++ t)) = p :: pieces t := by
  induction p with
  | nil => rfl
  | cons c p ih =>
    rw [List.cons_append, List.infix_cons_iff, not_or] at h
    have hbegin : ¬ delimiter <+: c :: (p ++ (delimiter ++ t)) := by
      intro hstart
      have hlen : delimiter.length ≤ (c :: (p ++ ['@'])).length := by simp [delimiter]
      have hlong : c :: (p ++ ['@']) <+: c :: (p ++ (delimiter ++ t)) :=
        List.cons_prefix_cons.2 ⟨rfl, (List.prefix_append_right_inj p).2 ⟨'@' :: t, rfl⟩⟩
      exact h.1 (List.prefix_of_prefix_length_le hstart hlong hlen)
    rw [List.cons_append, pieces_cons hbegin, ih h.2, List.modifyHead_cons]

/-- A template is cut in one way only. -/
theorem isCut_iff {t : Text} {ps : List Text} : IsCut t ps ↔ ps = pieces t := by
  constructor
  · intro h
    induction h with
    | last hp => exact (pieces_eq_singleton hp).symm
    | cut hp hrest ih => rw [pieces_append hp, ← ih]
  · rintro rfl
    exact isCut_pieces t

variable (values)

def renderPieces : List Text → Except Fault Text
  | p :: name :: q :: ps =>
    match values.lookup name with
    | some v => (renderPieces (q :: ps)).map (p ++ v ++ ·)
    | none => .error (.unknown name)
  | [p] => .ok p
  | _ => .error .unterminated

def Place.renderPieces : Place → List Text → Except Fault Text
  | .between, ps => Template.renderPieces values ps
  | .inside name, ps => Template.renderPieces values ([] :: ps.modifyHead (name.reverse ++ ·))

variable {values}

theorem map_map (f g : Text → Text) (x : Except Fault Text) :
    (x.map f).map g = x.map fun t => g (f t) := by
  cases x <;> rfl

private theorem renderPieces_cons_cons (c : Char) (p : Text) (ps : List Text) :
    renderPieces values ((c :: p) :: ps) = (renderPieces values (p :: ps)).map (c :: ·) := by
  match ps with
  | [] => rfl
  | [_] => rfl
  | name :: q :: ps =>
    rw [renderPieces, renderPieces]
    cases values.lookup name with
    | none => rfl
    | some v => rw [map_map]; rfl

private theorem renderFrom_eq (place : Place) (t : Text) :
    renderFrom values place t = place.renderPieces values (pieces t) := by
  fun_induction renderFrom values place t with
  | case1 => rfl
  | case2 t ih =>
    obtain ⟨p, ps, hp⟩ := exists_pieces_eq_cons t
    rw [ih, pieces, hp]
    rfl
  | case3 c t hc ih =>
    obtain ⟨p, ps, hp⟩ := exists_pieces_eq_cons t
    rw [ih, pieces, hp]
    · exact (renderPieces_cons_cons c p ps).symm
    · exact hc
  | case4 name => rfl
  | case5 name t v hv ih =>
    obtain ⟨p, ps, hp⟩ := exists_pieces_eq_cons t
    rw [ih, pieces, hp, Place.renderPieces, Place.renderPieces, List.modifyHead_cons,
      List.append_nil, Template.renderPieces, hv]
    rfl
  | case6 name t hv =>
    obtain ⟨p, ps, hp⟩ := exists_pieces_eq_cons t
    rw [pieces, hp, Place.renderPieces, List.modifyHead_cons, List.append_nil,
      Template.renderPieces, hv]
  | case7 name c t hc ih =>
    obtain ⟨p, ps, hp⟩ := exists_pieces_eq_cons t
    rw [ih, pieces, hp]
    · simp only [Place.renderPieces, List.modifyHead_cons, List.reverse_cons, List.append_assoc,
        List.singleton_append]
    · exact hc

private theorem isSome_lookup_iff {name : Text} :
    (values.lookup name).isSome = true ↔ name ∈ values.map Prod.fst := by
  constructor
  · intro h
    obtain ⟨p, hp, hname⟩ := List.lookup_isSome_iff.1 h
    exact beq_iff_eq.1 hname ▸ List.mem_map_of_mem hp
  · intro h
    obtain ⟨v, hv⟩ := exists_lookup h
    rw [hv, Option.isSome_some]

private theorem isFillable_cons_iff (p name : Text) {ps : List Text} :
    IsFillable values (p :: name :: ps) ↔
      name ∈ values.map Prod.fst ∧ IsFillable values ps := by
  have hodd : Odd (p :: name :: ps).length ↔ Odd ps.length := by
    rw [List.length_cons, List.length_cons, Nat.odd_iff, Nat.odd_iff]
    omega
  rw [IsFillable, IsFillable, hodd, everySecond, List.forall_mem_cons]
  exact and_left_comm

private theorem faultOf_cons_of_mem {name : Text} (h : name ∈ values.map Prod.fst) (p q : Text)
    (ps : List Text) : faultOf values (p :: name :: q :: ps) = faultOf values (q :: ps) := by
  have hkey : decide (name ∉ values.map Prod.fst) = false := by simpa using h
  rw [faultOf, List.dropLast_cons_cons, List.dropLast_cons_cons, everySecond, List.find?_cons, hkey]
  rfl

private theorem faultOf_cons_of_notMem {name : Text} (h : name ∉ values.map Prod.fst) (p q : Text)
    (ps : List Text) : faultOf values (p :: name :: q :: ps) = .unknown name := by
  have hkey : decide (name ∉ values.map Prod.fst) = true := by simpa using h
  rw [faultOf, List.dropLast_cons_cons, List.dropLast_cons_cons, everySecond, List.find?_cons, hkey]

/-- Pieces render one after the other as they do as a whole. -/
theorem renderPieces_eq (ps : List Text) :
    renderPieces values ps =
      if IsFillable values ps then .ok (fill values ps) else .error (faultOf values ps) := by
  fun_induction renderPieces values ps with
  | case1 p name q ps v hv ih =>
    have hmem := isSome_lookup_iff.1 (Option.isSome_of_eq_some hv)
    rw [ih, faultOf_cons_of_mem hmem, fill, hv]
    by_cases hps : IsFillable values (q :: ps)
    · rw [if_pos hps, if_pos ((isFillable_cons_iff ..).2 ⟨hmem, hps⟩)]
      rfl
    · rw [if_neg hps, if_neg fun h => hps ((isFillable_cons_iff ..).1 h).2]
      rfl
  | case2 p name q ps hv =>
    have hnot : name ∉ values.map Prod.fst := by
      rw [← isSome_lookup_iff, hv]
      exact Bool.false_ne_true
    rw [if_neg fun h => hnot ((isFillable_cons_iff ..).1 h).1, faultOf_cons_of_notMem hnot]
  | case3 p =>
    have hone : IsFillable values [p] := ⟨odd_one, by simp [everySecond]⟩
    rw [if_pos hone, fill]
  | case4 ps hmany hone =>
    match ps with
    | [] => rfl
    | [p] => exact absurd rfl (hone p)
    | [p, name] =>
      have hodd : ¬ Odd [p, name].length := Nat.not_odd_iff_even.2 even_two
      rw [if_neg fun h => hodd h.1]
      rfl
    | p :: name :: q :: ps => exact absurd rfl (hmany p name q ps)

/-- A template renders to its pieces with the placeholders filled in, if all of them are closed and
have a text; if not, it is at fault as its pieces tell. -/
theorem render_eq_of_pieces (template : Text) (values : List (Text × Text)) :
    (∀ ps, IsCut template ps ↔ ps = pieces template) ∧
      render template values =
        if IsFillable values (pieces template) then .ok (fill values (pieces template))
        else .error (faultOf values (pieces template)) := by
  refine ⟨fun ps => isCut_iff, ?_⟩
  rw [render, renderFrom_eq]
  exact renderPieces_eq _

-- What is put in is not cut again, and of several at signs the first two are the delimiter.
example :
    render "a@@x@@b@@@@@".toList [("x".toList, "@@y@@".toList), ([], ['1']), ("x".toList, [])] =
      .ok "a@@y@@b1@".toList := by decide

end Scratchpad.Template
