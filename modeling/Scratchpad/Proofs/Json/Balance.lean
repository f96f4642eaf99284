import Scratchpad.Proofs.Json.Unreadable

/-!
The balance of braces in a JSON text: those that open an object less those that close one. The reader
keeps it as the number of objects that are open (`Reader.Steps.depth`). So it is zero for a whole
text (`Tree.balance_eq_zero`), and above zero as long as the object that is the whole text is not
closed (`Tree.balance_pos`).
-/

set_option autoImplicit false
set_option relaxedAutoImplicit false

namespace Scratchpad.Json

namespace Token

def weight : Token → Int
  | .openObject => 1
  | .closeObject => -1
  | _ => 0

def balance : List Token → Int
  | [] => 0
  | t :: ts => t.weight + balance ts

@[simp] theorem balance_nil : balance [] = 0 := rfl

@[simp] theorem balance_cons (t : Token) (ts : List Token) :
    balance (t :: ts) = t.weight + balance ts := rfl

private theorem balance_append (ts us : List Token) : balance (ts ++ us) = balance ts + balance us
    := by
  induction ts with
  | nil => simp
  | cons t ts ih =>
    rw [List.cons_append, balance_cons, balance_cons, ih]
    omega

@[simp] theorem balance_reverse (ts : List Token) : balance ts.reverse = balance ts := by
  induction ts with
  | nil => rfl
  | cons t ts ih =>
    rw [List.reverse_cons, balance_append, ih, balance_cons, balance_cons, balance_nil]
    omega

end Token

def Enclosure.weight : Enclosure → Int
  | .array _ => 0
  | .object _ _ => 1

def Enclosure.weights : List Enclosure → Int
  | [] => 0
  | e :: es => e.weight + weights es

/-- Whether the place is in an object whose next value has not begun. -/
def Place.weight : Place → Int
  | .firstKey => 1
  | .key _ => 1
  | .colon _ _ => 1
  | _ => 0

namespace Reader

/-- What a token does to the reader. -/
inductive Steps : Reader → Token → Reader → Prop
  | value {es : List Enclosure} {token : Token} {place : Place}
      (hweight : place.weight = token.weight) : Steps ⟨es, .value⟩ token ⟨es, place⟩
  | firstItem {es : List Enclosure} {token : Token} {place : Place}
      (hweight : place.weight = token.weight) :
      Steps ⟨es, .firstItem⟩ token ⟨.array [] :: es, place⟩
  | noItem {es : List Enclosure} : Steps ⟨es, .firstItem⟩ .closeArray ⟨es, .done (.array [])⟩
  | noMember {es : List Enclosure} : Steps ⟨es, .firstKey⟩ .closeObject ⟨es, .done (.object [])⟩
  | firstKey {es : List Enclosure} {k : Text} :
      Steps ⟨es, .firstKey⟩ (.quoted k) ⟨es, .colon [] k⟩
  | key {es : List Enclosure} {before : List (Text × Tree)} {k : Text} :
      Steps ⟨es, .key before⟩ (.quoted k) ⟨es, .colon before k⟩
  | colon {es : List Enclosure} {before : List (Text × Tree)} {k : Text} :
      Steps ⟨es, .colon before k⟩ .colon ⟨.object before k :: es, .value⟩
  | nextItem {es : List Enclosure} {before : List Tree} {t : Tree} :
      Steps ⟨.array before :: es, .done t⟩ .comma ⟨.array (t :: before) :: es, .value⟩
  | nextMember {es : List Enclosure} {before : List (Text × Tree)} {k : Text} {t : Tree} :
      Steps ⟨.object before k :: es, .done t⟩ .comma ⟨es, .key ((k, t) :: before)⟩
  | lastItem {es : List Enclosure} {before : List Tree} {t : Tree} :
      Steps ⟨.array before :: es, .done t⟩ .closeArray ⟨es, .done (.array (t :: before).reverse)⟩
  | lastMember {es : List Enclosure} {before : List (Text × Tree)} {k : Text} {t : Tree} :
      Steps ⟨.object before k :: es, .done t⟩ .closeObject
        ⟨es, .done (.object ((k, t) :: before).reverse)⟩

private theorem exists_place_of_value {es : List Enclosure} {token : Token} {r : Reader}
    (h : value es token = some r) :
    ∃ place, place.weight = token.weight ∧ r = ⟨es, place⟩ := by
  unfold value at h
  split at h
  · exact ⟨_, rfl, (Option.some.inj h).symm⟩
  · exact ⟨_, rfl, (Option.some.inj h).symm⟩
  · obtain ⟨t, -, ht⟩ := Option.map_eq_some_iff.1 h
    exact ⟨.done t, rfl, ht.symm⟩
  · split_ifs at h
    exact ⟨_, rfl, (Option.some.inj h).symm⟩
  · split_ifs at h
    exact ⟨_, rfl, (Option.some.inj h).symm⟩
  · cases h

private theorem steps_of_follow {es : List Enclosure} {t : Tree} {token : Token} {r : Reader}
    (h : follow es t token = some r) : Steps ⟨es, .done t⟩ token r := by
  unfold follow at h
  split at h
  · split at h
    · exact Option.some.inj h ▸ .nextItem
    · exact Option.some.inj h ▸ .nextMember
    · cases h
  · split at h
    · exact Option.some.inj h ▸ .lastItem
    · cases h
  · split at h
    · exact Option.some.inj h ▸ .lastMember
    · cases h
  · cases h

private theorem steps_of_step {r r' : Reader} {token : Token} (h : r.step token = some r') :
    Steps r token r' := by
  obtain ⟨es, place⟩ := r
  unfold step at h
  dsimp only at h
  split at h
  · obtain ⟨place, hplace, rfl⟩ := exists_place_of_value h
    exact .value hplace
  · exact Option.some.inj h ▸ .noItem
  · obtain ⟨place, hplace, rfl⟩ := exists_place_of_value h
    exact .firstItem hplace
  · exact Option.some.inj h ▸ .noMember
  · split_ifs at h
    exact Option.some.inj h ▸ .firstKey
  · cases h
  · split_ifs at h
    exact Option.some.inj h ▸ .key
  · cases h
  · exact Option.some.inj h ▸ .colon
  · cases h
  · exact steps_of_follow h

def depth (r : Reader) : Int :=
  Enclosure.weights r.enclosures + r.place.weight

theorem Steps.depth {r r' : Reader} {token : Token} (h : Steps r token r') :
    r'.depth = r.depth + token.weight := by
  cases h with
  | value hweight => simp [Reader.depth, Place.weight, ← hweight]
  | firstItem hweight =>
    simp [Reader.depth, Place.weight, Enclosure.weights, Enclosure.weight, ← hweight]
  | _ =>
    simp only [Reader.depth, Enclosure.weights, Enclosure.weight, Place.weight, Token.weight]
    omega

private theorem depth_run {ts : List Token} {r r' : Reader} (h : ts.foldlM step r = some r') :
    r'.depth = r.depth + Token.balance ts := by
  induction ts generalizing r with
  | nil =>
    obtain rfl := Option.some.inj h
    simp
  | cons t ts ih =>
    rw [List.foldlM_cons] at h
    obtain ⟨r₁, h₁, h₂⟩ := Option.bind_eq_some_iff.1 h
    rw [ih h₂, (steps_of_step h₁).depth, Token.balance_cons]
    omega

/-- What the outermost container that is open adds to the number of open objects. -/
def outermost (r : Reader) : Int :=
  (r.enclosures.map Enclosure.weight).getLast?.getD r.place.weight

private theorem outermost_cons (e : Enclosure) (es : List Enclosure) (place : Place) :
    outermost ⟨e :: es, place⟩ = (es.map Enclosure.weight).getLast?.getD e.weight := by
  rw [outermost, List.map_cons, List.getLast?_cons, Option.getD_some]

private theorem depth_pos_of_outermost {r : Reader} (h : r.outermost = 1) : 0 < r.depth := by
  obtain ⟨es, place⟩ := r
  have hsum : ∀ (es : List Enclosure) (q : Int), 0 ≤ q →
      (es.map Enclosure.weight).getLast?.getD q = 1 → 0 < Enclosure.weights es + q := by
    intro es
    induction es with
    | nil =>
      intro q _ hq
      rw [List.map_nil, List.getLast?_nil, Option.getD_none] at hq
      simp [Enclosure.weights, hq]
    | cons e es ih =>
      intro q hq hlast
      have he : 0 ≤ e.weight := by cases e <;> simp [Enclosure.weight]
      rw [List.map_cons, List.getLast?_cons, Option.getD_some] at hlast
      have hpos := ih e.weight he hlast
      rw [Enclosure.weights]
      omega
  exact hsum es place.weight (by cases place <;> simp [Place.weight]) h

private theorem outermost_done {es : List Enclosure}
    (h : (es.map Enclosure.weight).getLast?.getD 1 = 1) (t : Tree) :
    outermost ⟨es, .done t⟩ = 1 ∨ (finish? ⟨es, .done t⟩).isSome = true := by
  cases es with
  | nil => exact Or.inr rfl
  | cons e es =>
    rw [List.map_cons, List.getLast?_cons, Option.getD_some] at h
    rw [outermost_cons]
    exact Or.inl h

private theorem Steps.outermost {r r' : Reader} {token : Token} (h : Steps r token r')
    (hr : r.outermost = 1) : r'.outermost = 1 ∨ r'.finish?.isSome = true := by
  cases h with
  | @value es token place =>
    cases es with
    | nil => cases hr
    | cons e es =>
      rw [outermost_cons] at hr ⊢
      exact Or.inl hr
  | firstItem => exact Or.inl ((outermost_cons ..).trans hr)
  | noItem => exact Or.inl hr
  | noMember => exact outermost_done hr _
  | firstKey => exact Or.inl hr
  | key => exact Or.inl hr
  | colon => exact Or.inl ((outermost_cons ..).trans hr)
  | nextItem =>
    rw [outermost_cons] at hr ⊢
    exact Or.inl hr
  | nextMember =>
    rw [outermost_cons] at hr
    exact Or.inl hr
  | lastItem =>
    rw [outermost_cons] at hr
    exact Or.inl hr
  | lastMember =>
    rw [outermost_cons] at hr
    exact outermost_done hr _

private theorem step_eq_none_of_finish? {r : Reader} (h : r.finish?.isSome = true) (token : Token) :
    r.step token = none := by
  obtain ⟨es, place⟩ := r
  unfold finish? at h
  split at h
  · next hes hplace =>
    dsimp only at hes hplace
    subst hes hplace
    cases token <;> rfl
  · cases h

private theorem outermost_run {ts : List Token} {r r' : Reader} (h : ts.foldlM step r = some r')
    (hr : r.outermost = 1) : r'.outermost = 1 ∨ r'.finish?.isSome = true := by
  induction ts generalizing r with
  | nil =>
    obtain rfl := Option.some.inj h
    exact Or.inl hr
  | cons t ts ih =>
    rw [List.foldlM_cons] at h
    obtain ⟨r₁, h₁, h₂⟩ := Option.bind_eq_some_iff.1 h
    rcases (steps_of_step h₁).outermost hr with hr₁ | hfinish
    · exact ih h₂ hr₁
    · -- only the last token can complete the value
      cases ts with
      | nil =>
        obtain rfl := Option.some.inj h₂
        exact Or.inr hfinish
      | cons u us =>
        rw [List.foldlM_cons, step_eq_none_of_finish? hfinish] at h₂
        cases h₂

end Reader

namespace Tree

theorem balance_eq_zero {ts : List Token} {t : Tree} (h : ofTokens? ts = some t) :
    Token.balance ts = 0 := by
  obtain ⟨r, hr, hfinish⟩ := Option.bind_eq_some_iff.1 h
  have hdepth := Reader.depth_run hr
  have hzero : r.depth = 0 := by
    unfold Reader.finish? at hfinish
    split at hfinish
    · next hes hplace => rw [Reader.depth, hes, hplace]; rfl
    · cases hfinish
  rw [hzero] at hdepth
  have hstart : Reader.depth {} = 0 := rfl
  omega

theorem balance_pos {x y : List Token} {t : Tree}
    (h : ofTokens? (.openObject :: (x ++ y)) = some t) (hy : y ≠ []) :
    0 < Token.balance (.openObject :: x) := by
  obtain ⟨r, hr, -⟩ := Option.bind_eq_some_iff.1 h
  rw [← List.cons_append, List.foldlM_append] at hr
  obtain ⟨r₁, h₁, h₂⟩ := Option.bind_eq_some_iff.1 hr
  have hdepth := Reader.depth_run h₁
  have hstart : Reader.depth {} = 0 := rfl
  have houtermost : r₁.outermost = 1 := by
    rw [List.foldlM_cons] at h₁
    obtain ⟨r₀, h₀, h₁⟩ := Option.bind_eq_some_iff.1 h₁
    obtain rfl := Option.some.inj h₀
    refine (Reader.outermost_run h₁ rfl).resolve_right fun hfinish => ?_
    obtain ⟨u, us, rfl⟩ := List.exists_cons_of_ne_nil hy
    rw [List.foldlM_cons, Reader.step_eq_none_of_finish? hfinish] at h₂
    cases h₂
  have hpos := Reader.depth_pos_of_outermost houtermost
  omega

end Tree

end Scratchpad.Json
