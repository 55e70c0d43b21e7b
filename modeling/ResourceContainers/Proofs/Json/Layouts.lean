import ResourceContainers.Proofs.Json.Texts

/-!
# What the layouts write

Both layouts of a value write that value, so that they are read back as what they were made from.

* `numeral_toDigits`: the digits of a number write it.
* `Token.isLexeme_spelling`: tokens are spelled in a way to write them.
* `writes_compact`, `writes_pretty`: each layout writes its value.
-/

namespace ResourceContainers.Json

/-! ## Numbers -/

theorem head_toDigits_ne_zero {n : Nat} (hn : 0 < n) : (Nat.toDigits 10 n).head? ≠ some '0' := by
  induction n using Nat.strongRecOn with
  | ind n ih =>
    rw [Nat.toDigits_eq_if (by decide)]
    split
    · rename_i hlt
      intro h0
      have hzero : n.digitChar = '0' := Option.some.inj h0
      have hvalue := Nat.toNat_digitChar_of_lt_ten hlt
      rw [hzero] at hvalue
      have h48 : '0'.toNat = 48 := rfl
      omega
    · rename_i hge
      have hne : Nat.toDigits 10 (n / 10) ≠ [] := Nat.toDigits_ne_nil
      rw [List.head?_append_of_ne_nil _ hne]
      exact ih (n / 10) (by omega) (by omega)

/-- The digits of a number start with a zero only if they are that zero. -/
theorem isWhole_toDigits (n : Nat) : IsWhole (Nat.toDigits 10 n) := by
  rcases Nat.eq_zero_or_pos n with rfl | hn
  · exact .inl (by decide)
  · exact .inr ⟨⟨Nat.toDigits_ne_nil, fun c hc =>
      Nat.isDigit_of_mem_toDigits (by decide) (by decide) hc⟩, head_toDigits_ne_zero hn⟩

theorem ofDigits_toDigits (n : Nat) : ofDigits (Nat.toDigits 10 n) = n :=
  Nat.ofDigitChars_toDigits (by decide) (by decide)

/-- **The digits of a number write it.** -/
theorem numeral_toDigits (n : Nat) : Numeral (Nat.toDigits 10 n) (some n) := by
  have h := Unsigned.mk (isWhole_toDigits n) (.inl rfl) (.inl rfl)
  simp only [List.append_nil, and_self, if_true, ofDigits_toDigits] at h
  exact .unsigned h

/-! ## Strings -/

theorem text?_code_cons {u : Nat} (hu : isLeading u = false ∧ isTrailing u = false)
    (ps : List Piece) :
    Piece.text? (.code u :: ps) = (Piece.text? ps).map (Char.ofNat u :: ·) := by
  cases ps with
  | nil => simp [Piece.text?, hu]
  | cons p ps => cases p <;> simp [Piece.text?, hu]

theorem code?_hexDigit : ∀ n < 0x20,
    code? '0' '0' (hexDigit (n / 16)) (hexDigit (n % 16)) = some n := by
  decide

/-- An escaped character is one piece, which denotes it. -/
theorem exists_piece_of_escape (c : Char) : ∃ p : Piece,
    (∀ l ps, Pieces l ps → Pieces (escape c ++ l) (p :: ps)) ∧
      ∀ ps, Piece.text? (p :: ps) = (Piece.text? ps).map (c :: ·) := by
  unfold escape
  split
  · subst_vars
    exact ⟨.char '"', fun l ps h => .escape rfl h, fun _ => rfl⟩
  split
  · subst_vars
    exact ⟨.char '\\', fun l ps h => .escape rfl h, fun _ => rfl⟩
  split
  · subst_vars
    exact ⟨.char '\n', fun l ps h => .escape rfl h, fun _ => rfl⟩
  split
  · subst_vars
    exact ⟨.char '\r', fun l ps h => .escape rfl h, fun _ => rfl⟩
  split
  · subst_vars
    exact ⟨.char '\t', fun l ps h => .escape rfl h, fun _ => rfl⟩
  split
  · subst_vars
    exact ⟨.char '\x08', fun l ps h => .escape rfl h, fun _ => rfl⟩
  split
  · subst_vars
    exact ⟨.char '\x0c', fun l ps h => .escape rfl h, fun _ => rfl⟩
  split
  · rename_i hcontrol
    have hsurrogate : isLeading c.toNat = false ∧ isTrailing c.toNat = false := by
      simp only [isLeading, isTrailing, Bool.and_eq_false_iff, decide_eq_false_iff_not]
      omega
    refine ⟨.code c.toNat, fun l ps h => .code (code?_hexDigit _ hcontrol) h, fun ps => ?_⟩
    rw [text?_code_cons hsurrogate, Char.ofNat_toNat]
  · rename_i hquote hslash _ _ _ _ _ hcontrol
    exact ⟨.char c, fun l ps h => .plain hquote hslash (Nat.le_of_not_lt hcontrol) h,
      fun _ => rfl⟩

/-- The inside of a literal denotes the text that it was made from. -/
theorem exists_pieces_of_escape (cs : List Char) :
    ∃ ps, Pieces (cs.flatMap escape) ps ∧ Piece.text? ps = some cs := by
  induction cs with
  | nil => exact ⟨[], .nil, rfl⟩
  | cons c cs ih =>
    obtain ⟨ps, hps, htext⟩ := ih
    obtain ⟨p, hp, hpiece⟩ := exists_piece_of_escape c
    refine ⟨p :: ps, hp _ _ hps, ?_⟩
    rw [hpiece, htext]
    rfl

/-! ## Tokens -/

/-- **Tokens are spelled in a way to write them.** -/
theorem Token.isLexeme_spelling (t : Token) : t.IsLexeme t.spelling := by
  cases t with
  | number n =>
    cases n with
    | none => exact .negative (.mk (.inl rfl) (.inl rfl) (.inl rfl))
    | some n => exact numeral_toDigits n
  | string s =>
    cases s with
    | none => exact ⟨['\\', 'u', 'd', '8', '0', '0'], [.code 0xD800], rfl, .code rfl .nil, rfl⟩
    | some s =>
      obtain ⟨ps, hps, htext⟩ := exists_pieces_of_escape s.toList
      exact ⟨_, ps, rfl, hps, by rw [htext, Option.map_some, String.ofList_toList]⟩
  | bool b => cases b <;> rfl
  | _ => rfl

theorem Spells.spelling (t : Token) : Spells t.spelling [t] := .single t.isLexeme_spelling

theorem spells_flatMap_spelling (ts : List Token) : Spells (ts.flatMap Token.spelling) ts := by
  induction ts with
  | nil => exact .empty
  | cons t ts ih => exact (Spells.spelling t).append ih

/-! ## Layouts -/

/-- **The compact layout writes its value.** -/
theorem writes_compact (v : Json) : Writes (String.ofList v.compact) v := by
  rw [Writes, String.toList_ofList]
  exact spells_flatMap_spelling (tokens v)

theorem spells_newLine (level : Nat) : Spells (newLine level) [] := by
  refine .nil fun c hc => ?_
  rcases List.mem_cons.mp hc with rfl | hc
  · decide
  · rw [(List.mem_replicate.mp hc).2]
    decide

theorem spells_prettyMember (level : Nat) (k : Option String) {cs : List Char} {ts : List Token}
    (h : Spells cs ts) :
    Spells (newLine level ++ (Token.string k).spelling ++ ':' :: ' ' :: cs)
      (.string k :: .colon :: ts) := by
  have hblank : Spells [' '] [] := .nil fun c hc => by
    rw [List.mem_singleton.mp hc]
    decide
  exact ((spells_newLine level).append (.spelling (.string k))).append
    ((Spells.spelling .colon).append (hblank.append h))

mutual

theorem spells_prettyAt (level : Nat) : (v : Json) → Spells (prettyAt level v) (tokens v)
  | null => Spells.spelling .null
  | bool b => Spells.spelling (.bool b)
  | number n => Spells.spelling (.number n)
  | string s => Spells.spelling (.string s)
  | array [] => spells_flatMap_spelling [.openArray, .closeArray]
  | object [] => spells_flatMap_spelling [.openObject, .closeObject]
  | array (v :: vs) => by
    have hopen := (Spells.spelling .openArray).append (spells_prettyItems (level + 1) (v :: vs))
    have hclose := (spells_newLine level).append (Spells.spelling .closeArray)
    simpa [prettyAt, tokens, Token.spelling] using hopen.append hclose
  | object (m :: ms) => by
    have hopen := (Spells.spelling .openObject).append (spells_prettyMembers (level + 1) (m :: ms))
    have hclose := (spells_newLine level).append (Spells.spelling .closeObject)
    simpa [prettyAt, tokens, Token.spelling] using hopen.append hclose

theorem spells_prettyItems (level : Nat) :
    (vs : List Json) → Spells (prettyItems level vs) (itemTokens vs)
  | [] => .empty
  | [v] => (spells_newLine level).append (spells_prettyAt level v)
  | v :: w :: vs => by
    have hfirst := (spells_newLine level).append (spells_prettyAt level v)
    have hrest := (Spells.spelling .comma).append (spells_prettyItems level (w :: vs))
    simpa [prettyItems, itemTokens, Token.spelling] using hfirst.append hrest

theorem spells_prettyMembers (level : Nat) :
    (ms : List (Option String × Json)) → Spells (prettyMembers level ms) (memberTokens ms)
  | [] => .empty
  | [(k, v)] => by
    have hfirst := spells_prettyMember level k (spells_prettyAt level v)
    simpa [prettyMembers, memberTokens] using hfirst
  | (k, v) :: m :: ms => by
    have hfirst := spells_prettyMember level k (spells_prettyAt level v)
    have hrest := (Spells.spelling .comma).append (spells_prettyMembers level (m :: ms))
    simpa [prettyMembers, memberTokens, Token.spelling] using hfirst.append hrest

end

/-- **The indented layout writes its value.** -/
theorem writes_pretty (v : Json) : Writes v.pretty v := by
  rw [Writes, pretty, String.toList_ofList]
  exact spells_prettyAt 0 v

/-- **Both layouts are read back.** -/
theorem parse_compact (v : Json) : parse (String.ofList v.compact) = some v :=
  parse_eq_some_iff.mpr (writes_compact v)

theorem parse_pretty (v : Json) : parse v.pretty = some v :=
  parse_eq_some_iff.mpr (writes_pretty v)

end ResourceContainers.Json
