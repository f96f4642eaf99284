import Scratchpad.Proofs.Json.Compact
import Scratchpad.Proofs.Script.Literal
import Scratchpad.Proofs.Text.Line

/-!
Where a literal ends. Between single quotes stand characters for themselves and escapes of a quote
or a backslash (`Literal.Denotes`); between double quotes stands what the escapes of JSON can be read
in. The readers take just such literals off the front of a text, so they stop where the literal
ends, whatever follows it, and find none in a literal that breaks off (`Takes.eq_none_of_isPrefix`).
So no text can break out of its literal (`Literal.read_exactly`).
-/

set_option autoImplicit false
set_option relaxedAutoImplicit false

namespace Scratchpad

namespace Text

variable {α : Type} {read? : Text → Option (α × Text)} {IsLiteral : Text → α → Prop}

/-- The reader takes a literal off the front of a text and leaves what stands behind it. -/
def Takes (read? : Text → Option (α × Text)) (IsLiteral : Text → α → Prop) : Prop :=
  ∀ ⦃s : Text⦄ ⦃a : α⦄ ⦃r : Text⦄, read? s = some (a, r) ↔ ∃ lit, s = lit ++ r ∧ IsLiteral lit a

theorem Takes.append (h : Takes read? IsLiteral) {s r : Text} {a : α} (hread : read? s = some (a, r))
    (u : Text) : read? (s ++ u) = some (a, r ++ u) := by
  obtain ⟨lit, rfl, hlit⟩ := h.1 hread
  exact h.2 ⟨lit, List.append_assoc .., hlit⟩

/-- A literal that breaks off is none. -/
theorem Takes.eq_none_of_isPrefix (h : Takes read? IsLiteral) {lit w : Text} {a : α}
    (hread : read? lit = some (a, [])) (hw : w <+: lit) (hne : w ≠ lit) : read? w = none := by
  obtain ⟨v, rfl⟩ := hw
  cases hearly : read? w with
  | none => rfl
  | some p =>
    -- A literal in `w` is also the one that is read off the whole, and leaves nothing of it.
    have hwhole : some (p.1, p.2 ++ v) = some (a, []) := (h.append hearly v).symm.trans hread
    have hv : v = [] := (List.append_eq_nil_iff.1 (Prod.mk.inj (Option.some.inj hwhole)).2).2
    rw [hv, List.append_nil] at hne
    exact absurd rfl hne

end Text

private theorem exists_of_map_fst_eq_some {α β γ : Type} {o : Option (α × γ)} {f : α → β} {b : β}
    {r : γ} (h : (o.map fun p => (f p.1, p.2)) = some (b, r)) : ∃ a, o = some (a, r) ∧ f a = b := by
  obtain ⟨⟨a, r'⟩, ho, heq⟩ := Option.map_eq_some_iff.1 h
  obtain ⟨hb, rfl⟩ := Prod.mk.inj heq
  exact ⟨a, ho, hb⟩

namespace Json

namespace Quoted

private theorem eq_append_of_close? {s b r : Text} (h : close? s = some (b, r)) : s = b ++ '"' :: r
    := by
  fun_induction close? s generalizing b with
  | case1 => cases h
  | case2 s =>
    obtain ⟨rfl, rfl⟩ := Prod.mk.inj (Option.some.inj h)
    rfl
  | case3 c s ih =>
    obtain ⟨b', hclose, rfl⟩ := exists_of_map_fst_eq_some (f := fun b => '\\' :: c :: b) h
    rw [ih hclose]
    rfl
  | case4 c s hquote hslash ih =>
    obtain ⟨b', hclose, rfl⟩ := exists_of_map_fst_eq_some h
    rw [ih hclose]
    rfl

private theorem wellFormed_of_decode? {b t : Text} (h : decode? b = some t) : wellFormed b = true
    := by
  fun_induction decode? b generalizing t with
  | case1 => rfl
  | case2 a b c d s ihPair ihSingle =>
    obtain ⟨n, hn, h⟩ := Option.bind_eq_some_iff.1 h
    have hs : wellFormed s = true := by
      split_ifs at h with hlow hhigh
      · -- The unit opens a pair, so that an escape with the other unit follows.
        split at h
        · obtain ⟨n', hn', h⟩ := Option.bind_eq_some_iff.1 h
          split_ifs at h
          obtain ⟨t', ht', -⟩ := Option.bind_eq_some_iff.1 h
          rw [wellFormed, hn', ihPair ht']
          rfl
        · cases h
      · obtain ⟨t', ht', -⟩ := Option.bind_eq_some_iff.1 h
        exact ihSingle ht'
    rw [wellFormed, hn, hs]
    rfl
  | case3 e s hu ih =>
    obtain ⟨c, hc, h⟩ := Option.bind_eq_some_iff.1 h
    obtain ⟨t', ht', -⟩ := Option.bind_eq_some_iff.1 h
    rw [wellFormed, hc, ih ht']
    · rfl
    · exact hu
  | case4 c s h1 h2 hc => cases h
  | case5 c s h1 h2 hc ih =>
    obtain ⟨t', ht', -⟩ := Option.map_eq_some_iff.1 h
    simp only [not_or, Nat.not_lt] at hc
    simp [wellFormed, hc, ih ht']

end Quoted

end Json

namespace Literal

/-- What stands between single quotes, and the text that it stands for: the escape of a quote or a
backslash stands for it, and any other character for itself, also a backslash. -/
inductive Denotes : Text → Text → Prop
  | nil : Denotes [] []
  | plain {c : Char} {b t : Text} (hslash : c ≠ '\\') (hquote : c ≠ '\x27') (h : Denotes b t) :
      Denotes (c :: b) (c :: t)
  | escaped {c : Char} {b t : Text} (hc : c = '\\' ∨ c = '\x27') (h : Denotes b t) :
      Denotes ('\\' :: c :: b) (c :: t)
  | backslash {c : Char} {b t : Text} (hslash : c ≠ '\\') (hquote : c ≠ '\x27')
      (h : Denotes (c :: b) t) : Denotes ('\\' :: c :: b) ('\\' :: t)

private theorem Denotes.closeSingle?_append {b t : Text} (h : Denotes b t) (r : Text) :
    closeSingle? (b ++ '\x27' :: r) = some (t, r) := by
  induction h with
  | nil => rfl
  | plain hslash hquote h ih => simp [closeSingle?, hslash, ih]
  | escaped hc h ih => rcases hc with rfl | rfl <;> simp [closeSingle?, ih]
  | backslash hslash hquote h ih =>
    rw [List.cons_append] at ih ⊢
    simp [closeSingle?, hslash, hquote, ih]

private theorem exists_denotes_of_closeSingle? {s t r : Text} (h : closeSingle? s = some (t, r)) :
    ∃ b, s = b ++ '\x27' :: r ∧ Denotes b t := by
  fun_induction closeSingle? s generalizing t with
  | case1 => cases h
  | case2 s =>
    obtain ⟨rfl, rfl⟩ := Prod.mk.inj (Option.some.inj h)
    exact ⟨[], rfl, .nil⟩
  | case3 s ih =>
    obtain ⟨t', hclose, rfl⟩ := exists_of_map_fst_eq_some h
    obtain ⟨b, rfl, hb⟩ := ih hclose
    exact ⟨'\\' :: '\\' :: b, rfl, .escaped (Or.inl rfl) hb⟩
  | case4 s ih =>
    obtain ⟨t', hclose, rfl⟩ := exists_of_map_fst_eq_some h
    obtain ⟨b, rfl, hb⟩ := ih hclose
    exact ⟨'\\' :: '\x27' :: b, rfl, .escaped (Or.inr rfl) hb⟩
  | case5 c s hquote hslash hslashQuote ih =>
    obtain ⟨t', hclose, rfl⟩ := exists_of_map_fst_eq_some h
    obtain ⟨b, rfl, hb⟩ := ih hclose
    by_cases hc : c = '\\'
    · subst hc
      cases b with
      | nil => exact (hslashQuote r rfl rfl).elim
      | cons d b =>
        have hd : d ≠ '\\' ∧ d ≠ '\x27' := by
          constructor <;> rintro rfl
          · exact hslash _ rfl rfl
          · exact hslashQuote _ rfl rfl
        exact ⟨'\\' :: d :: b, rfl, .backslash hd.1 hd.2 hb⟩
    · exact ⟨c :: b, rfl, .plain hc hquote hb⟩

def IsSingle (lit t : Text) : Prop :=
  ∃ b, lit = '\x27' :: b ++ ['\x27'] ∧ Denotes b t

private theorem takes_readSingle? : Text.Takes readSingle? IsSingle := by
  intro s t r
  constructor
  · intro h
    unfold readSingle? at h
    split at h
    · obtain ⟨b, rfl, hb⟩ := exists_denotes_of_closeSingle? h
      exact ⟨'\x27' :: b ++ ['\x27'], by simp, b, rfl, hb⟩
    · cases h
  · rintro ⟨-, rfl, b, rfl, hb⟩
    rw [List.append_assoc, List.cons_append, List.singleton_append]
    exact hb.closeSingle?_append r

def IsJson (lit t : Text) : Prop :=
  ∃ b, lit = Json.Tree.quote b ∧ Json.Quoted.decode? b = some t

private theorem takes_readJson? : Text.Takes readJson? IsJson := by
  intro s t r
  constructor
  · intro h
    unfold readJson? at h
    split at h
    · obtain ⟨⟨b, r'⟩, hclose, h⟩ := Option.bind_eq_some_iff.1 h
      obtain ⟨t', hdecode, h⟩ := Option.bind_eq_some_iff.1 h
      obtain ⟨rfl, rfl⟩ := Prod.mk.inj (Option.some.inj h)
      rw [Json.Quoted.eq_append_of_close? hclose]
      exact ⟨Json.Tree.quote b, by simp [Json.Tree.quote], b, rfl, hdecode⟩
    · cases h
  · rintro ⟨-, rfl, b, rfl, hdecode⟩
    have hclose :=
      Json.Quoted.close?_wellFormed_append (Json.Quoted.wellFormed_of_decode? hdecode) r
    simp [readJson?, Json.Tree.quote, hclose, hdecode]

private theorem not_isControl_of_mem_json {t : Text} {c : Char} (h : c ∈ json t) :
    Json.isControl c = false :=
  (Json.Tree.wellFormed_ofText t).not_isControl c h

private theorem lines_json (t : Text) : Text.lines (json t) = [json t] := by
  have hfeed : '\n' ∉ json t := fun h => absurd (not_isControl_of_mem_json h) (by decide)
  have hpieces : Text.pieces (json t) = [] ++ [json t] := List.splitOn_eq_singleton hfeed
  rw [Text.lines_eq_of_pieces hpieces, if_neg (by simp [json])]
  rfl

/-- Literals cannot be broken out of. Whatever follows a literal, its reader stops where it ends with
the text that it was written for, and reads nothing if the literal breaks off; the scanner of JSON
texts finds one string for it. A literal in double quotes is one line without control characters. -/
theorem read_exactly (t u : Text) :
    (readSingle? (singleQuoted t ++ u) = some (t, u) ∧
      ∀ w, w <+: singleQuoted t → w ≠ singleQuoted t → readSingle? w = none) ∧
    (readJson? (json t ++ u) = some (t, u) ∧
      ∀ w, w <+: json t → w ≠ json t → readJson? w = none) ∧
    (∃ body, Json.Quoted.decode? body = some t ∧
      Json.Token.scan? (json t ++ u) = (Json.Token.scan? u).map (.quoted body :: ·)) ∧
    (∀ c ∈ json t, 0x20 ≤ c.toNat) ∧ Text.lines (json t) = [json t] := by
  have hsingle := readSingle?_append t []
  have hjson := readJson?_append t []
  rw [List.append_nil] at hsingle hjson
  refine ⟨⟨readSingle?_append t u, fun w => takes_readSingle?.eq_none_of_isPrefix hsingle⟩,
    ⟨readJson?_append t u, fun w => takes_readJson?.eq_none_of_isPrefix hjson⟩,
    ⟨Json.Quoted.encode t, Json.Quoted.decode?_encode t, ?_⟩, fun c hc => ?_, lines_json t⟩
  · exact Json.Token.scan?_quote_append (Json.Quoted.wellFormed_encode t) u
  · simpa [Json.isControl] using not_isControl_of_mem_json hc

def awkward : Text :=
  ['\\', '\x27', '"', '\n', '\\']

/-- Both literals break off at an escaped quote, and quotes stand behind them. -/
theorem read_exactly_awkward :
    (readSingle? (singleQuoted awkward ++ ['\x27', '"']) = some (awkward, ['\x27', '"']) ∧
      ['\x27', '\\', '\\', '\\', '\x27'] <+: singleQuoted awkward ∧
      ['\x27', '\\', '\\', '\\', '\x27'] ≠ singleQuoted awkward ∧
      readSingle? ['\x27', '\\', '\\', '\\', '\x27'] = none) ∧
    (readJson? (json awkward ++ ['\x27', '"']) = some (awkward, ['\x27', '"']) ∧
      ['"', '\\', '\\', '\x27', '\\', '"'] <+: json awkward ∧
      ['"', '\\', '\\', '\x27', '\\', '"'] ≠ json awkward ∧
      readJson? ['"', '\\', '\\', '\x27', '\\', '"'] = none) ∧
    ('n' ∈ json awkward ∧ 0x20 ≤ 'n'.toNat) := by
  obtain ⟨⟨hsingle, hsingleEnd⟩, ⟨hjson, hjsonEnd⟩, -, hcontrol, -⟩ :=
    read_exactly awkward ['\x27', '"']
  have hs : ['\x27', '\\', '\\', '\\', '\x27'] <+: singleQuoted awkward := by decide
  have hs' : ['\x27', '\\', '\\', '\\', '\x27'] ≠ singleQuoted awkward := by decide
  have hj : ['"', '\\', '\\', '\x27', '\\', '"'] <+: json awkward := by decide
  have hj' : ['"', '\\', '\\', '\x27', '\\', '"'] ≠ json awkward := by decide
  have hn : 'n' ∈ json awkward := by decide
  exact ⟨⟨hsingle, hs, hs', hsingleEnd _ hs hs'⟩, ⟨hjson, hj, hj', hjsonEnd _ hj hj'⟩,
    hn, hcontrol _ hn⟩

end Literal

end Scratchpad
