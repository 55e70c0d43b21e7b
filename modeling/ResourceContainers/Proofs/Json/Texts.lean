import Mathlib.Data.List.Chain
import ResourceContainers.Proofs.Json.Documents
import ResourceContainers.Proofs.Json.Lexemes

/-!
# The texts of a value

A JSON value can be written as a text in many ways: there may be blanks before and after every
token, and many tokens can be written in more than one way.  Reading takes all of them to the value,
and nothing else.

* `Spells`: a text is a way to write tokens, one after the other.
* `Writes`: a text is a way to write a value.
* `Token.spells_of_ofText`, `Token.ofText_of_spells`: a text is split into the tokens it writes.
* `parse_eq_some_iff`: **a text is read as the value that it writes.**

## Why numbers may not stand side by side

Other tokens can be told apart without blanks between them, but `1` and `2` without a blank between
them are `12`.  Two numbers never follow each other in a document, since there is at least a comma
between them.
-/

namespace ResourceContainers.Json

/-! ## Ways to write tokens -/

/-- `Spells cs ts`: the text `cs` writes the tokens `ts`, with blanks before, between and after
them. -/
inductive Spells : List Char → List Token → Prop
  | nil {blanks : List Char} (hblanks : ∀ c ∈ blanks, Token.isBlank c = true) : Spells blanks []
  | cons {blanks l cs : List Char} {t : Token} {ts : List Token}
      (hblanks : ∀ c ∈ blanks, Token.isBlank c = true) (hl : t.IsLexeme l) (h : Spells cs ts) :
      Spells (blanks ++ (l ++ cs)) (t :: ts)

/-- `Writes text v`: the text `text` writes the value `v`. -/
def Writes (text : String) (v : Json) : Prop := Spells text.toList (tokens v)

namespace Spells

variable {cs ds : List Char} {ts us : List Token}

theorem empty : Spells [] [] := .nil fun _ hc => absurd hc (by simp)

theorem blanks_append {blanks : List Char} (hblanks : ∀ c ∈ blanks, Token.isBlank c = true)
    (h : Spells cs ts) : Spells (blanks ++ cs) ts := by
  have hboth {more : List Char} (hmore : ∀ c ∈ more, Token.isBlank c = true) :
      ∀ c ∈ blanks ++ more, Token.isBlank c = true := fun c hc =>
    (List.mem_append.mp hc).elim (hblanks c) (hmore c)
  cases h with
  | nil hmore => exact .nil (hboth hmore)
  | cons hmore hl h => rw [← List.append_assoc]; exact .cons (hboth hmore) hl h

theorem append (hcs : Spells cs ts) (hds : Spells ds us) : Spells (cs ++ ds) (ts ++ us) := by
  induction hcs with
  | nil hblanks => exact hds.blanks_append hblanks
  | cons hblanks hl h ih =>
    rw [List.append_assoc, List.append_assoc]
    exact .cons hblanks hl ih

theorem single {t : Token} {l : List Char} (hl : t.IsLexeme l) : Spells l [t] := by
  have h : Spells ([] ++ (l ++ [])) [t] := .cons (by simp) hl .empty
  simpa using h

/-- A text that does not start with a number starts with nothing a number could go on with. -/
theorem stops (h : Spells cs ts) (hts : ∀ t ∈ ts.head?, t.isNumber = false) :
    Stops continues cs := by
  have hblank {c : Char} (hc : Token.isBlank c = true) : continues c = false := by
    simp only [Token.isBlank, Bool.or_eq_true, decide_eq_true_eq] at hc
    rcases hc with ((rfl | rfl) | rfl) | rfl <;> decide
  have hblanks {blanks : List Char} (hblanks : ∀ c ∈ blanks, Token.isBlank c = true) :
      Stops continues blanks := fun c hc => hblank (hblanks c (List.mem_of_mem_head? hc))
  cases h with
  | nil h => exact hblanks h
  | cons h hl _ =>
    obtain ⟨c, l, rfl, -, hc⟩ := hl.exists_head
    exact (hblanks h).append (.cons (hc (hts _ rfl)))

end Spells

/-! ## Splitting -/

namespace Token

theorem ofText_of_blank {cs : List Char} (h : cs.dropWhile isBlank = []) :
    ofText? cs = some [] := by
  rw [ofText?]
  split
  · rfl
  · rename_i heq
    exact absurd (h.symm.trans heq) (by simp)

theorem ofText_cons {cs rest : List Char} {c : Char} (h : cs.dropWhile isBlank = c :: rest) :
    ofText? cs = (next (c :: rest)).bind fun p => (ofText? p.2).map (p.1 :: ·) := by
  rw [ofText?]
  split
  · rename_i heq
    exact absurd (h.symm.trans heq) (by simp)
  · rename_i heq
    rw [h] at heq
    obtain ⟨rfl, rfl⟩ := List.cons.inj heq
    split
    · rename_i hn
      rw [hn]
      rfl
    · rename_i hn
      rw [hn]
      rfl

/-- **A text is split only into tokens that it writes.** -/
theorem spells_of_ofText {cs : List Char} : ∀ {ts : List Token}, ofText? cs = some ts →
    Spells cs ts := by
  induction hn : cs.length using Nat.strong_induction_on generalizing cs with
  | h n ih =>
    intro ts h
    have hblanks : ∀ c ∈ cs.takeWhile isBlank, isBlank c = true :=
      List.all_eq_true.mp List.all_takeWhile
    have hcs : cs.takeWhile isBlank ++ cs.dropWhile isBlank = cs := List.takeWhile_append_dropWhile
    cases hrest : cs.dropWhile isBlank with
    | nil =>
      rw [ofText_of_blank hrest] at h
      obtain rfl := Option.some.inj h
      rw [hrest, List.append_nil] at hcs
      exact .nil (hcs ▸ hblanks)
    | cons c rest =>
      rw [ofText_cons hrest] at h
      obtain ⟨⟨t, rest'⟩, hnext, h⟩ := Option.bind_eq_some_iff.mp h
      obtain ⟨us, hus, rfl⟩ := Option.map_eq_some_iff.mp h
      have hlt : rest'.length < n := by
        have hshort : rest'.length < (c :: rest).length := length_lt_of_next hnext
        rw [← hrest] at hshort
        exact hn ▸ Nat.lt_of_lt_of_le hshort (length_dropWhile_le isBlank cs)
      obtain ⟨l, hl, hlexeme⟩ := exists_lexeme_of_next hnext
      rw [← hcs, hrest, hl]
      exact .cons hblanks hlexeme (ih _ hlt rfl hus)

/-- One of two neighbours is no number. -/
def Apart (s t : Token) : Prop := s.isNumber = false ∨ t.isNumber = false

/-- **A text is split into the tokens that it writes**, if no two numbers stand side by side. -/
theorem ofText_of_spells {cs : List Char} {ts : List Token} (h : Spells cs ts)
    (hts : ts.IsChain Apart) : ofText? cs = some ts := by
  induction h with
  | nil hblanks => exact ofText_of_blank (by simpa using dropWhile_append_of_stops hblanks .nil)
  | @cons blanks l cs t ts hblanks hl h ih =>
    obtain ⟨c, l, rfl, hc, -⟩ := hl.exists_head
    have hdrop : (blanks ++ (c :: l ++ cs)).dropWhile isBlank = c :: (l ++ cs) :=
      dropWhile_append_of_stops hblanks (.cons hc)
    have hnext : next (c :: l ++ cs) = some (t, cs) := next_of_lexeme hl fun ht =>
      h.stops fun s hs => (List.isChain_cons.mp hts).1 s hs |>.resolve_left (by simp [ht])
    rw [ofText_cons hdrop, ← List.cons_append, hnext, Option.bind_some, ih hts.tail]
    rfl

end Token

/-! ## Tokens of a value -/

theorem isChain_cons_of_isNumber {ts : List Token} {t : Token} (ht : t.isNumber = false)
    (hts : ts.IsChain Token.Apart) : (t :: ts).IsChain Token.Apart :=
  List.isChain_cons.mpr ⟨fun _ _ => .inl ht, hts⟩

/-- A token that is no number may stand between any others. -/
theorem isChain_append_cons {ts us : List Token} {t : Token} (ht : t.isNumber = false)
    (hts : ts.IsChain Token.Apart) (hus : us.IsChain Token.Apart) :
    (ts ++ t :: us).IsChain Token.Apart := by
  refine List.isChain_append.mpr ⟨hts, isChain_cons_of_isNumber ht hus, fun s _ t' ht' => ?_⟩
  obtain rfl := Option.some.inj ht'
  exact .inr ht

mutual

/-- No two numbers stand side by side in a value. -/
theorem isChain_tokens : (v : Json) → (tokens v).IsChain Token.Apart
  | null | bool _ | number _ | string _ => List.isChain_singleton _
  | array [] | object [] => isChain_cons_of_isNumber rfl (List.isChain_singleton _)
  | array (v :: vs) => by
    rw [tokens, itemTokens_cons]
    exact isChain_append_cons rfl (isChain_cons_of_isNumber rfl
      (isChain_append_furtherItems (isChain_tokens v) vs)) .nil
  | object ((_, v) :: ms) => by
    rw [tokens, memberTokens_cons]
    exact isChain_append_cons rfl (isChain_cons_of_isNumber rfl (isChain_cons_of_isNumber rfl
      (isChain_cons_of_isNumber rfl (isChain_append_furtherMembers (isChain_tokens v) ms)))) .nil

theorem isChain_append_furtherItems {ts : List Token} (hts : ts.IsChain Token.Apart) :
    (vs : List Json) → (ts ++ furtherItems vs).IsChain Token.Apart
  | [] => by simpa [furtherItems] using hts
  | v :: vs => isChain_append_cons rfl hts (isChain_append_furtherItems (isChain_tokens v) vs)

theorem isChain_append_furtherMembers {ts : List Token} (hts : ts.IsChain Token.Apart) :
    (ms : List (Option String × Json)) → (ts ++ furtherMembers ms).IsChain Token.Apart
  | [] => by simpa [furtherMembers] using hts
  | (_, v) :: ms => isChain_append_cons rfl hts (isChain_cons_of_isNumber rfl
      (isChain_cons_of_isNumber rfl (isChain_append_furtherMembers (isChain_tokens v) ms)))

end

/-- **A text is read as the value that it writes**, and as nothing else. -/
theorem parse_eq_some_iff {text : String} {v : Json} : parse text = some v ↔ Writes text v := by
  constructor
  · intro h
    obtain ⟨ts, hts, hv⟩ := Option.bind_eq_some_iff.mp h
    obtain rfl := ofTokens?_eq_some_iff.mp hv
    exact Token.spells_of_ofText hts
  · intro h
    exact Option.bind_eq_some_iff.mpr
      ⟨_, Token.ofText_of_spells h (isChain_tokens v), ofTokens?_eq_some_iff.mpr rfl⟩

end ResourceContainers.Json
