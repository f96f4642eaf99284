import Scratchpad.Proofs.Json.WellFormed

/-!
The compact text of a tree read back. The scanner finds the tokens of the tree in its text
(`Tree.scans_compact`): a numeral and a word have no end of their own, but the mark behind them ends
them. A string has an end, and behind it the scanner goes on as if the text began there
(`Token.scan?_quote_append`). The reader makes the tree out of its tokens
(`Tree.WellFormed.reads`). So every well-formed tree is read from its compact text
(`Tree.read?_compact`).
-/

set_option autoImplicit false
set_option relaxedAutoImplicit false

namespace Scratchpad.Json

section Run

variable {α σ : Type} {f : σ → α → Option σ} {s s' : σ}

private theorem foldlM_cons_of_some {a : α} (h : f s a = some s') (as : List α) :
    (a :: as).foldlM f s = as.foldlM f s' := by
  rw [List.foldlM_cons, h, Option.bind_eq_bind, Option.bind_some]

private theorem foldlM_append_of_some {as : List α} (h : as.foldlM f s = some s') (bs : List α) :
    (as ++ bs).foldlM f s = bs.foldlM f s' := by
  rw [List.foldlM_append, h, Option.bind_eq_bind, Option.bind_some]

end Run

private theorem Numeral.exists_cons_of_read? {t : Text} {n : Numeral} (h : read? t = some n) :
    ∃ c r, t = c :: r ∧ Scanner.isNumeralChar c = true := by
  unfold read? at h
  split at h
  next negative t' hsign =>
  simp only [Option.bind_eq_bind, Option.bind_eq_some_iff] at h
  obtain ⟨⟨whole, t₁⟩, hw, -⟩ := h
  obtain ⟨ht, hdigits⟩ := digits?_eq_some hw
  split at hsign
  · exact ⟨'-', _, rfl, by decide⟩
  · obtain ⟨c, w, rfl⟩ := List.exists_cons_of_ne_nil hdigits.ne_nil
    refine ⟨c, w ++ t₁, (Prod.mk.inj hsign).2.trans ht, ?_⟩
    simp [Scanner.isNumeralChar, hdigits.isDigit c (List.mem_cons_self ..)]

namespace Scanner

/-- The scanner stands behind these tokens, the latest first. The latest may still be open. -/
inductive Behind : Scanner → List Token → Prop
  | blank {found : List Token} : Behind ⟨found, .blank⟩ found
  | word {found : List Token} {acc : Text} :
      Behind ⟨found, .word acc⟩ (.word acc.reverse :: found)
  | numeral {found : List Token} {acc : Text} :
      Behind ⟨found, .numeral acc⟩ (.numeral acc.reverse :: found)

theorem Behind.finish? {s : Scanner} {found : List Token} (h : Behind s found) :
    s.finish? = some found.reverse := by
  cases h <;> rfl

private theorem mem_of_mark? {c : Char} {token : Token} (h : mark? c = some token) :
    c ∈ ['[', ']', '\x7b', '\x7d', ',', ':'] := by
  by_contra hne
  simp only [List.mem_cons, List.not_mem_nil, or_false, not_or] at hne
  simp [mark?, hne] at h

private theorem not_mark_of_isNumeralChar {c : Char} (h : isNumeralChar c = true) : mark? c = none
    := by
  cases hmark : mark? c with
  | none => rfl
  | some token =>
    have hmem := mem_of_mark? hmark
    simp only [List.mem_cons, List.not_mem_nil, or_false] at hmem
    rcases hmem with rfl | rfl | rfl | rfl | rfl | rfl <;> exact absurd h (by decide)

private theorem Behind.step_mark {s : Scanner} {found : List Token} {c : Char} {token : Token}
    (h : Behind s found) (hc : mark? c = some token) :
    s.step c = some ⟨token :: found, .blank⟩ := by
  have hother : isGap c = false ∧ c.isLower = false ∧ Numeral.isPart c = false := by
    have hmem := mem_of_mark? hc
    simp only [List.mem_cons, List.not_mem_nil, or_false] at hmem
    rcases hmem with rfl | rfl | rfl | rfl | rfl | rfl <;> decide
  obtain ⟨hgap, hlower, hpart⟩ := hother
  rw [Numeral.isPart] at hpart
  have hstart : ∀ found, start found c = some ⟨token :: found, .blank⟩ := by
    intro found
    simp [start, hgap, hc]
  cases h with
  | blank => exact hstart found
  | word => simp only [step, hlower, Bool.false_eq_true, if_false, hstart]
  | numeral => simp only [step, hpart, Bool.false_eq_true, if_false, hstart]

/-- The tokens of a text, if the last one may still be open at its end. -/
def Scans (text : Text) (tokens : List Token) : Prop :=
  ∀ found, ∃ s, text.foldlM step ⟨found, .blank⟩ = some s ∧ Behind s (tokens.reverse ++ found)

theorem Scans.scan? {text : Text} {tokens : List Token} (h : Scans text tokens) :
    Token.scan? text = some tokens := by
  obtain ⟨s, hrun, hs⟩ := h []
  rw [Token.scan?, hrun, Option.bind_eq_bind, Option.bind_some, hs.finish?]
  simp

private theorem scans_nil : Scans [] [] := fun _ => ⟨_, rfl, .blank⟩

theorem Scans.mark {x y : Text} {ts us : List Token} {c : Char} {token : Token} (hx : Scans x ts)
    (hc : mark? c = some token) (hy : Scans y us) : Scans (x ++ c :: y) (ts ++ token :: us) := by
  intro found
  obtain ⟨s, hrun, hs⟩ := hx found
  obtain ⟨s', hrun', hs'⟩ := hy (token :: (ts.reverse ++ found))
  refine ⟨s', ?_, by simpa using hs'⟩
  rw [foldlM_append_of_some hrun, foldlM_cons_of_some (hs.step_mark hc), hrun']

theorem Scans.between {x : Text} {ts : List Token} {c d : Char} {opening closing : Token}
    (hc : mark? c = some opening) (hx : Scans x ts) (hd : mark? d = some closing) :
    Scans (c :: x ++ [d]) (opening :: ts ++ [closing]) :=
  scans_nil.mark hc (hx.mark hd scans_nil)

private theorem start_numeral (found : List Token) {c : Char} (h : isNumeralChar c = true) :
    start found c = some ⟨found, .numeral [c]⟩ := by
  have hgap : isGap c = false := by
    rw [← Bool.not_eq_true]
    intro hgap
    simp only [isGap, Bool.or_eq_true, beq_iff_eq] at hgap
    rcases hgap with ((rfl | rfl) | rfl) | rfl <;> exact absurd h (by decide)
  have hquote : c ≠ '"' := by
    rintro rfl
    exact absurd h (by decide)
  simp [start, hgap, not_mark_of_isNumeralChar h, hquote, h]

private theorem run_numeral {t : Text} (h : ∀ c ∈ t, Numeral.isPart c = true) (found : List Token)
    (acc : Text) :
    t.foldlM step ⟨found, .numeral acc⟩ = some ⟨found, .numeral (t.reverse ++ acc)⟩ := by
  induction t generalizing acc with
  | nil => rfl
  | cons c t ih =>
    rw [List.forall_mem_cons] at h
    have hstep : step ⟨found, .numeral acc⟩ c = some ⟨found, .numeral (c :: acc)⟩ := if_pos h.1
    rw [foldlM_cons_of_some hstep, ih h.2, List.reverse_cons, List.append_assoc,
      List.singleton_append]

private theorem scans_numeral {n : Text} (h : (Numeral.read? n).isSome = true) : Scans n
    [.numeral n] := by
  intro found
  obtain ⟨parts, hn⟩ := Option.isSome_iff_exists.1 h
  obtain ⟨c, r, rfl, hc⟩ := Numeral.exists_cons_of_read? hn
  have hparts := Numeral.isPart_of_read? hn
  rw [List.forall_mem_cons] at hparts
  refine ⟨⟨found, .numeral (c :: r).reverse⟩, ?_, ?_⟩
  · have hfirst : step ⟨found, .blank⟩ c = some ⟨found, .numeral [c]⟩ := start_numeral found hc
    rw [foldlM_cons_of_some hfirst, run_numeral hparts.2, List.reverse_cons]
  · have hopen : Behind ⟨found, .numeral (c :: r).reverse⟩
        (.numeral (c :: r).reverse.reverse :: found) := .numeral
    rwa [List.reverse_reverse] at hopen

private theorem run_wellFormed {body : Text} (h : Quoted.wellFormed body = true)
    (found : List Token) (acc : Text) :
    body.foldlM step ⟨found, .quoted acc⟩ = some ⟨found, .quoted (body.reverse ++ acc)⟩ := by
  have hslash : ∀ (e : Char) (r : Text) (acc : Text),
      ('\\' :: e :: r).foldlM step ⟨found, .quoted acc⟩ =
        r.foldlM step ⟨found, .quoted (e :: '\\' :: acc)⟩ := fun _ _ _ => rfl
  fun_induction Quoted.wellFormed body generalizing acc with
  | case1 => rfl
  | case2 a b c d r ih =>
    rw [Bool.and_eq_true] at h
    have hunit := run_quoted (Quoted.not_quote_of_unit? h.1) found ('u' :: '\\' :: acc)
    have happend : a :: b :: c :: d :: r = [a, b, c, d] ++ r := rfl
    rw [hslash, happend, foldlM_append_of_some hunit, ih h.2]
    simp
  | case3 e r hu ih =>
    rw [Bool.and_eq_true] at h
    rw [hslash, ih h.2]
    simp
  | case4 c r h1 h2 ih =>
    simp only [Bool.and_eq_true, bne_iff_ne] at h
    have hplain := run_quoted (List.forall_mem_singleton.2 h.1.1) found acc
    have happend : c :: r = [c] ++ r := rfl
    rw [happend, foldlM_append_of_some hplain, ih h.2]
    simp

private theorem scans_quote {body : Text} (h : Quoted.wellFormed body = true) :
    Scans (Tree.quote body) [.quoted body] := by
  intro found
  refine ⟨⟨.quoted body :: found, .blank⟩, ?_, .blank⟩
  have hopen : step ⟨found, .blank⟩ '"' = some ⟨found, .quoted []⟩ := rfl
  have hclose : step ⟨found, .quoted (body.reverse ++ [])⟩ '"' =
      some ⟨.quoted body :: found, .blank⟩ := by
    simp [step]
  rw [Tree.quote, List.cons_append, foldlM_cons_of_some hopen,
    foldlM_append_of_some (run_wellFormed h found []), foldlM_cons_of_some hclose]
  rfl

/-- The scanner with these tokens found before all others, the latest first. -/
def precededBy (before : List Token) (s : Scanner) : Scanner :=
  { s with found := s.found ++ before }

private theorem start_append (found before : List Token) (c : Char) :
    start (found ++ before) c = (start found c).map (precededBy before) := by
  unfold start
  split
  · rfl
  · split
    · rfl
    · split_ifs <;> rfl

private theorem step_precededBy (before : List Token) (s : Scanner) (c : Char) :
    (s.precededBy before).step c = (s.step c).map (precededBy before) := by
  obtain ⟨found, pending⟩ := s
  cases pending with
  | blank => exact start_append found before c
  | word acc =>
    simp only [step, precededBy]
    split
    · rfl
    · exact start_append (.word acc.reverse :: found) before c
  | numeral acc =>
    simp only [step, precededBy]
    split
    · rfl
    · exact start_append (.numeral acc.reverse :: found) before c
  | quoted acc =>
    simp only [step, precededBy]
    split_ifs <;> rfl
  | escaped acc => rfl

private theorem run_precededBy (before : List Token) (t : Text) (s : Scanner) :
    t.foldlM step (s.precededBy before) = (t.foldlM step s).map (precededBy before) := by
  induction t generalizing s with
  | nil => rfl
  | cons c t ih =>
    rw [List.foldlM_cons, List.foldlM_cons, step_precededBy]
    cases s.step c with
    | none => rfl
    | some s' => exact ih s'

private theorem finish?_precededBy (before : List Token) (s : Scanner) :
    (s.precededBy before).finish? = s.finish?.map (before.reverse ++ ·) := by
  obtain ⟨found, pending⟩ := s
  cases pending <;> simp [precededBy, finish?]

end Scanner

theorem Token.scan?_quote_append {body : Text} (h : Quoted.wellFormed body = true) (u : Text) :
    Token.scan? (Tree.quote body ++ u) = (Token.scan? u).map (.quoted body :: ·) := by
  have hquote : (Tree.quote body).foldlM Scanner.step {} =
      some (Scanner.precededBy [.quoted body] {}) := by
    obtain ⟨s, hrun, hs⟩ := Scanner.scans_quote h []
    cases hs
    exact hrun
  rw [scan?, foldlM_append_of_some hquote, Scanner.run_precededBy, scan?]
  cases u.foldlM Scanner.step {} with
  | none => rfl
  | some s => exact Scanner.finish?_precededBy [.quoted body] s

namespace Tree

mutual

def tokens : Tree → List Token
  | .null => [.word "null".toList]
  | .bool true => [.word "true".toList]
  | .bool false => [.word "false".toList]
  | .number n => [.numeral n]
  | .string body => [.quoted body]
  | .array items => .openArray :: itemTokens items ++ [.closeArray]
  | .object members => .openObject :: memberTokens members ++ [.closeObject]

def itemTokens : List Tree → List Token
  | [] => []
  | [t] => tokens t
  | t :: ts => tokens t ++ .comma :: itemTokens ts

def memberTokens : List (Text × Tree) → List Token
  | [] => []
  | [(k, t)] => .quoted k :: .colon :: tokens t
  | (k, t) :: ms => .quoted k :: .colon :: (tokens t ++ .comma :: memberTokens ms)

end

private theorem itemTokens_cons_cons (t u : Tree) (ts : List Tree) :
    itemTokens (t :: u :: ts) = tokens t ++ .comma :: itemTokens (u :: ts) := by
  rw [itemTokens]
  simp

private theorem memberTokens_cons_cons (m n : Text × Tree) (ms : List (Text × Tree)) :
    memberTokens (m :: n :: ms) =
      .quoted m.1 :: .colon :: (tokens m.2 ++ .comma :: memberTokens (n :: ms)) := by
  rw [memberTokens]
  simp

open Scanner (Scans scans_nil scans_numeral scans_quote)

private theorem scans_compactItems {ts : List Tree} (h : ∀ t ∈ ts, Scans t.compact t.tokens) :
    Scans (compactItems ts) (itemTokens ts) := by
  induction ts with
  | nil => exact scans_nil
  | cons t ts ih =>
    rw [List.forall_mem_cons] at h
    cases ts with
    | nil => exact h.1
    | cons u ts =>
      rw [compactItems_cons_cons, itemTokens_cons_cons]
      exact h.1.mark rfl (ih h.2)

private theorem scans_compactMembers {ms : List (Text × Tree)}
    (hkey : ∀ m ∈ ms, Quoted.wellFormed m.1 = true)
    (h : ∀ m ∈ ms, Scans m.2.compact m.2.tokens) : Scans (compactMembers ms) (memberTokens ms) := by
  induction ms with
  | nil => exact scans_nil
  | cons m ms ih =>
    rw [List.forall_mem_cons] at hkey h
    have hk := scans_quote hkey.1
    cases ms with
    | nil => exact hk.mark (c := ':') rfl h.1
    | cons n ms =>
      rw [compactMembers_cons_cons, memberTokens_cons_cons]
      exact hk.mark (c := ':') rfl (h.1.mark rfl (ih hkey.2 h.2))

private theorem scans_compact {t : Tree} (h : t.WellFormed) : Scans t.compact t.tokens := by
  induction h with
  | null => exact fun _ => ⟨_, rfl, .word⟩
  | bool b => cases b <;> exact fun _ => ⟨_, rfl, .word⟩
  | number h => exact scans_numeral h
  | string h => exact scans_quote h
  | array h ih => exact Scans.between rfl (scans_compactItems ih) rfl
  | object hkey h ih => exact Scans.between rfl (scans_compactMembers hkey ih) rfl

private theorem step_firstItem {es : List Enclosure} {token : Token} {r : Reader}
    (h : Reader.step ⟨.array [] :: es, .value⟩ token = some r) :
    Reader.step ⟨es, .firstItem⟩ token = some r := by
  cases token with
  | closeArray => cases h
  | _ => exact h

/-- The tokens of this tree are read as this tree wherever a value may stand. -/
def Reads (t : Tree) : Prop :=
  ∀ es, t.tokens.foldlM Reader.step ⟨es, .value⟩ = some ⟨es, .done t⟩

private theorem run_itemTokens {ts : List Tree} (h : ∀ t ∈ ts, t.Reads) (hne : ts ≠ [])
    (es : List Enclosure) (before : List Tree) :
    (itemTokens ts ++ [Token.closeArray]).foldlM Reader.step ⟨.array before :: es, .value⟩ =
      some ⟨es, .done (.array (before.reverse ++ ts))⟩ := by
  induction ts generalizing before with
  | nil => exact absurd rfl hne
  | cons t ts ih =>
    rw [List.forall_mem_cons] at h
    cases ts with
    | nil =>
      rw [itemTokens, foldlM_append_of_some (h.1 _)]
      simp [Reader.step, Reader.follow]
    | cons u ts =>
      have hcomma : Reader.step ⟨.array before :: es, .done t⟩ .comma =
          some ⟨.array (t :: before) :: es, .value⟩ := rfl
      rw [itemTokens_cons_cons, List.append_assoc, foldlM_append_of_some (h.1 _), List.cons_append,
        foldlM_cons_of_some hcomma, ih h.2 (List.cons_ne_nil _ _)]
      simp

private theorem run_memberTokens {ms : List (Text × Tree)}
    (hkey : ∀ m ∈ ms, Quoted.wellFormed m.1 = true)
    (h : ∀ m ∈ ms, m.2.Reads) (hne : ms ≠ []) (es : List Enclosure)
    (before : List (Text × Tree)) :
    (memberTokens ms ++ [Token.closeObject]).foldlM Reader.step ⟨es, .key before⟩ =
      some ⟨es, .done (.object (before.reverse ++ ms))⟩ := by
  induction ms generalizing before with
  | nil => exact absurd rfl hne
  | cons m ms ih =>
    rw [List.forall_mem_cons] at hkey h
    have hk : ∀ rest : List Token,
        (.quoted m.1 :: .colon :: rest).foldlM Reader.step ⟨es, .key before⟩ =
          rest.foldlM Reader.step ⟨.object before m.1 :: es, .value⟩ := by
      intro rest
      simp [Reader.step, hkey.1]
    cases ms with
    | nil =>
      rw [memberTokens, List.cons_append, List.cons_append, hk, foldlM_append_of_some (h.1 _)]
      simp [Reader.step, Reader.follow]
    | cons n ms =>
      have hcomma : Reader.step ⟨.object before m.1 :: es, .done m.2⟩ .comma =
          some ⟨es, .key (m :: before)⟩ := rfl
      rw [memberTokens_cons_cons, List.cons_append, List.cons_append, hk, List.append_assoc,
        foldlM_append_of_some (h.1 _), List.cons_append, foldlM_cons_of_some hcomma,
        ih hkey.2 h.2 (List.cons_ne_nil _ _)]
      simp

private theorem reads_array {ts : List Tree} (h : ∀ t ∈ ts, t.Reads) : (array ts).Reads := by
  intro es
  have hopen : ∀ rest : List Token,
      (.openArray :: rest).foldlM Reader.step ⟨es, .value⟩ =
        rest.foldlM Reader.step ⟨es, .firstItem⟩ := fun _ => rfl
  rw [tokens, List.cons_append, hopen]
  cases ts with
  | nil => rfl
  | cons t ts =>
    have hrun := run_itemTokens h (List.cons_ne_nil _ _) es []
    obtain ⟨token, rest, htokens⟩ : ∃ token rest,
        itemTokens (t :: ts) ++ [Token.closeArray] = token :: rest :=
      List.exists_cons_of_ne_nil (by simp)
    rw [htokens, List.foldlM_cons] at hrun ⊢
    obtain ⟨r, hstep, hrest⟩ := Option.bind_eq_some_iff.1 hrun
    rw [step_firstItem hstep]
    exact hrest

private theorem reads_object {ms : List (Text × Tree)}
    (hkey : ∀ m ∈ ms, Quoted.wellFormed m.1 = true)
    (h : ∀ m ∈ ms, m.2.Reads) : (object ms).Reads := by
  intro es
  have hopen : ∀ rest : List Token,
      (.openObject :: rest).foldlM Reader.step ⟨es, .value⟩ =
        rest.foldlM Reader.step ⟨es, .firstKey⟩ := fun _ => rfl
  rw [tokens, List.cons_append, hopen]
  cases ms with
  | nil => rfl
  | cons m ms =>
    have hrun := run_memberTokens hkey h (List.cons_ne_nil _ _) es []
    -- the first key is read like any other
    have hfirst : ∀ rest : List Token,
        (.quoted m.1 :: rest).foldlM Reader.step ⟨es, .firstKey⟩ =
          (.quoted m.1 :: rest).foldlM Reader.step ⟨es, .key []⟩ := fun _ => rfl
    obtain ⟨rest, hrest⟩ : ∃ rest, memberTokens (m :: ms) = .quoted m.1 :: rest := by
      cases ms with
      | nil => exact ⟨_, rfl⟩
      | cons n ms => exact ⟨_, memberTokens_cons_cons m n ms⟩
    rw [hrest, List.cons_append] at hrun ⊢
    rw [hfirst, hrun]
    rfl

private theorem WellFormed.reads {t : Tree} (h : t.WellFormed) : t.Reads := by
  induction h with
  | null => exact fun _ => rfl
  | bool b => cases b <;> exact fun _ => rfl
  | number h =>
    intro es
    simp [tokens, Reader.step, Reader.value, h]
  | string h =>
    intro es
    simp [tokens, Reader.step, Reader.value, h]
  | array h ih => exact reads_array ih
  | object hkey h ih => exact reads_object hkey ih

/-- A well-formed tree is read from its compact text. -/
theorem read?_compact {t : Tree} (h : t.WellFormed) : read? t.compact = some t := by
  have hread := h.reads []
  rw [read?, (scans_compact h).scan?, Option.bind_eq_bind, Option.bind_some, ofTokens?, hread]
  rfl

end Tree

end Scratchpad.Json
