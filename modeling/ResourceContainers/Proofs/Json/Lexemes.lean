import ResourceContainers.Json.Printer

/-!
# How tokens are written

A token of a JSON text may be written in many ways.  A string may escape any of its characters, and
a number that is no natural number may have a sign, a fraction and an exponent.

* `Numeral`, `Pieces`: how numbers and the inside of string literals are written.
* `Token.IsLexeme`: how a token is written.
* `Token.exists_lexeme_of_next`: what is taken off the front of a text is a way to write the token.
* `Token.next_of_lexeme`: every way to write a token is taken off.

## Why something is said about what follows a number

Only a number can go on where it could also end.  If `12` is taken off the front of a text, then the
text does not go on with a digit, a point or the letter of an exponent: otherwise more would have
been taken.  All other tokens end where they end, whatever follows.
-/

namespace ResourceContainers.Json

/-! ## What follows -/

/-- The text does not start with a character of the kind `p`. -/
def Stops (p : Char → Bool) (cs : List Char) : Prop := ∀ c ∈ cs.head?, p c = false

theorem Stops.nil {p : Char → Bool} : Stops p [] := fun _ h => absurd h (by simp)

theorem Stops.cons {p : Char → Bool} {c : Char} {cs : List Char} (h : p c = false) :
    Stops p (c :: cs) := fun _ hd => Option.some.inj hd ▸ h

theorem Stops.mono {p q : Char → Bool} {cs : List Char} (h : Stops p cs)
    (hqp : ∀ c, q c = true → p c = true) : Stops q cs := fun c hc =>
  Bool.eq_false_iff.mpr fun hq => Bool.eq_false_iff.mp (h c hc) (hqp c hq)

theorem Stops.append {p : Char → Bool} {cs rest : List Char} (hcs : Stops p cs)
    (h : Stops p rest) : Stops p (cs ++ rest) := by
  cases cs with
  | nil => exact h
  | cons c cs => exact .cons (hcs c rfl)

theorem Stops.takeWhile {p : Char → Bool} {cs : List Char} (h : Stops p cs) :
    cs.takeWhile p = [] := by
  cases cs with
  | nil => rfl
  | cons c cs => exact List.takeWhile_cons_of_neg (by simp [h c rfl])

theorem Stops.dropWhile {p : Char → Bool} {cs : List Char} (h : Stops p cs) :
    cs.dropWhile p = cs := by
  cases cs with
  | nil => rfl
  | cons c cs => exact List.dropWhile_cons_of_neg (by simp [h c rfl])

theorem takeWhile_append_of_stops {p : Char → Bool} {cs rest : List Char}
    (hcs : ∀ c ∈ cs, p c = true) (h : Stops p rest) : (cs ++ rest).takeWhile p = cs := by
  rw [List.takeWhile_append_of_pos hcs, h.takeWhile, List.append_nil]

theorem dropWhile_append_of_stops {p : Char → Bool} {cs rest : List Char}
    (hcs : ∀ c ∈ cs, p c = true) (h : Stops p rest) : (cs ++ rest).dropWhile p = rest := by
  rw [List.dropWhile_append_of_pos hcs, h.dropWhile]

/-! ## Numbers -/

/-- A run of at least one digit. -/
def IsDigits (cs : List Char) : Prop := cs ≠ [] ∧ ∀ c ∈ cs, c.isDigit = true

/-- The part of a number before its point: a zero alone, or digits of which the first is no zero. -/
def IsWhole (cs : List Char) : Prop := cs = ['0'] ∨ IsDigits cs ∧ cs.head? ≠ some '0'

/-- A point with digits after it. -/
def IsFraction (cs : List Char) : Prop := ∃ ds, cs = '.' :: ds ∧ IsDigits ds

/-- The letter of an exponent, a sign or none, and digits. -/
def IsExponent (cs : List Char) : Prop :=
  ∃ c sign ds, cs = c :: (sign ++ ds) ∧ (c = 'e' ∨ c = 'E') ∧
    (sign = [] ∨ sign = ['+'] ∨ sign = ['-']) ∧ IsDigits ds

/-- `Unsigned cs n`: the number `cs` without its sign, and its value if it is digits alone. -/
inductive Unsigned : List Char → Option Nat → Prop
  | mk {w f e : List Char} (hw : IsWhole w) (hf : f = [] ∨ IsFraction f)
      (he : e = [] ∨ IsExponent e) :
      Unsigned (w ++ (f ++ e)) (if f = [] ∧ e = [] then some (ofDigits w) else none)

/-- `Numeral cs n`: the number `cs`, and its value if it is digits alone. -/
inductive Numeral : List Char → Option Nat → Prop
  | unsigned {cs : List Char} {n : Option Nat} (h : Unsigned cs n) : Numeral cs n
  | negative {cs : List Char} {n : Option Nat} (h : Unsigned cs n) : Numeral ('-' :: cs) none

/-- Whether a number could go on with a character. -/
def continues (c : Char) : Bool := c.isDigit || c = '.' || c = 'e' || c = 'E'

theorem Stops.isDigit {cs : List Char} (h : Stops continues cs) : Stops Char.isDigit cs :=
  h.mono fun c hc => by simp [continues, hc]

theorem Stops.point {cs : List Char} (h : Stops continues cs) : Stops (· = '.') cs :=
  h.mono fun c hc => by simp_all [continues]

theorem isDigits_takeWhile {c : Char} (hc : c.isDigit = true) (cs : List Char) :
    IsDigits (c :: cs.takeWhile Char.isDigit) := by
  refine ⟨by simp, fun d hd => ?_⟩
  rcases List.mem_cons.mp hd with rfl | hd
  · exact hc
  · exact List.all_eq_true.mp List.all_takeWhile d hd

theorem exists_digits_of_skipDigits {cs rest : List Char} (h : skipDigits? cs = some rest) :
    ∃ ds, cs = ds ++ rest ∧ IsDigits ds := by
  cases cs with
  | nil => simp [skipDigits?] at h
  | cons c cs =>
    by_cases hc : c.isDigit
    · simp only [skipDigits?, hc, if_true, Option.some.injEq] at h
      refine ⟨c :: cs.takeWhile Char.isDigit, ?_, isDigits_takeWhile hc cs⟩
      rw [← h, List.cons_append, List.takeWhile_append_dropWhile]
    · simp [skipDigits?, hc] at h

theorem skipDigits_append {ds rest : List Char} (hds : IsDigits ds) (h : Stops Char.isDigit rest) :
    skipDigits? (ds ++ rest) = some rest := by
  obtain ⟨hne, hall⟩ := hds
  cases ds with
  | nil => exact absurd rfl hne
  | cons d ds =>
    rw [List.cons_append, skipDigits?, if_pos (hall d (by simp)),
      dropWhile_append_of_stops (fun c hc => hall c (by simp [hc])) h]

theorem exists_whole_of_whole {cs rest : List Char} {n : Nat} (h : whole? cs = some (n, rest)) :
    ∃ w, cs = w ++ rest ∧ IsWhole w ∧ n = ofDigits w := by
  cases cs with
  | nil => simp [whole?] at h
  | cons c cs =>
    by_cases h0 : c = '0'
    · subst h0
      simp only [whole?, if_true, Option.some.injEq, Prod.mk.injEq] at h
      obtain ⟨rfl, rfl⟩ := h
      exact ⟨['0'], rfl, .inl rfl, rfl⟩
    · by_cases hc : c.isDigit
      · simp only [whole?, if_neg h0, hc, if_true, Option.some.injEq, Prod.mk.injEq] at h
        obtain ⟨rfl, rfl⟩ := h
        refine ⟨c :: cs.takeWhile Char.isDigit, ?_, .inr ⟨isDigits_takeWhile hc cs, ?_⟩, rfl⟩
        · rw [List.cons_append, List.takeWhile_append_dropWhile]
        · simpa using h0
      · simp [whole?, h0, hc] at h

theorem whole_append {w rest : List Char} (hw : IsWhole w) (h : Stops Char.isDigit rest) :
    whole? (w ++ rest) = some (ofDigits w, rest) := by
  rcases hw with rfl | ⟨⟨hne, hall⟩, h0⟩
  · rfl
  · cases w with
    | nil => exact absurd rfl hne
    | cons c w =>
      have hrest : ∀ d ∈ w, d.isDigit = true := fun d hd => hall d (by simp [hd])
      rw [List.cons_append, whole?, if_neg (by simpa using h0), if_pos (hall c (by simp)),
        takeWhile_append_of_stops hrest h, dropWhile_append_of_stops hrest h]

theorem exists_fraction_of_fraction {cs rest : List Char} {b : Bool}
    (h : fraction? cs = some (b, rest)) :
    ∃ f, cs = f ++ rest ∧ (f = [] ∨ IsFraction f) ∧ b = decide (f ≠ []) := by
  unfold fraction? at h
  split at h
  · obtain ⟨r, hr, he⟩ := Option.map_eq_some_iff.mp h
    obtain ⟨rfl, rfl⟩ := Prod.mk.inj he
    obtain ⟨ds, rfl, hds⟩ := exists_digits_of_skipDigits hr
    exact ⟨'.' :: ds, rfl, .inr ⟨ds, rfl, hds⟩, by simp⟩
  · obtain ⟨rfl, rfl⟩ := Prod.mk.inj (Option.some.inj h)
    exact ⟨[], rfl, .inl rfl, by simp⟩

theorem fraction_append {f rest : List Char} (hf : f = [] ∨ IsFraction f)
    (h : Stops Char.isDigit rest) (hpoint : Stops (· = '.') rest) :
    fraction? (f ++ rest) = some (decide (f ≠ []), rest) := by
  rcases hf with rfl | ⟨ds, rfl, hds⟩
  · cases rest with
    | nil => rfl
    | cons c rest =>
      have hc : c ≠ '.' := by simpa using hpoint c rfl
      simp [fraction?, hc]
  · rw [List.cons_append, fraction?, skipDigits_append hds h]
    rfl

theorem skipSign_append {sign ds rest : List Char}
    (hsign : sign = [] ∨ sign = ['+'] ∨ sign = ['-']) (hds : IsDigits ds) :
    skipSign (sign ++ (ds ++ rest)) = ds ++ rest := by
  obtain ⟨hne, hall⟩ := hds
  rcases hsign with rfl | rfl | rfl
  · cases ds with
    | nil => exact absurd rfl hne
    | cons d ds =>
      have hd := hall d (by simp)
      show skipSign (d :: (ds ++ rest)) = d :: (ds ++ rest)
      unfold skipSign
      split
      · rename_i heq
        exact absurd hd (by rw [(List.cons.inj heq).1]; decide)
      · rename_i heq
        exact absurd hd (by rw [(List.cons.inj heq).1]; decide)
      · rfl
  · rfl
  · rfl

theorem exists_sign_of_skipSign (cs : List Char) :
    ∃ sign, cs = sign ++ skipSign cs ∧ (sign = [] ∨ sign = ['+'] ∨ sign = ['-']) := by
  unfold skipSign
  split
  · exact ⟨['+'], rfl, .inr (.inl rfl)⟩
  · exact ⟨['-'], rfl, .inr (.inr rfl)⟩
  · exact ⟨[], rfl, .inl rfl⟩

theorem exists_exponent_of_exponent {cs rest : List Char} {b : Bool}
    (h : exponent? cs = some (b, rest)) :
    ∃ e, cs = e ++ rest ∧ (e = [] ∨ IsExponent e) ∧ b = decide (e ≠ []) := by
  cases cs with
  | nil =>
    obtain ⟨rfl, rfl⟩ := Prod.mk.inj (Option.some.inj h)
    exact ⟨[], rfl, .inl rfl, by simp⟩
  | cons c cs =>
    simp only [exponent?] at h
    split at h
    · rename_i hc
      obtain ⟨r, hr, he⟩ := Option.map_eq_some_iff.mp h
      obtain ⟨rfl, rfl⟩ := Prod.mk.inj he
      obtain ⟨sign, hcs, hsign⟩ := exists_sign_of_skipSign cs
      obtain ⟨ds, hskip, hds⟩ := exists_digits_of_skipDigits hr
      refine ⟨c :: (sign ++ ds), ?_, .inr ⟨c, sign, ds, rfl, hc, hsign, hds⟩, by simp⟩
      rw [hcs, hskip, List.cons_append, List.append_assoc]
    · obtain ⟨rfl, rfl⟩ := Prod.mk.inj (Option.some.inj h)
      exact ⟨[], rfl, .inl rfl, by simp⟩

theorem exponent_append {e rest : List Char} (he : e = [] ∨ IsExponent e)
    (h : Stops continues rest) : exponent? (e ++ rest) = some (decide (e ≠ []), rest) := by
  rcases he with rfl | ⟨c, sign, ds, rfl, hc, hsign, hds⟩
  · cases rest with
    | nil => rfl
    | cons c rest =>
      have hc := h c rfl
      simp only [continues, Bool.or_eq_false_iff, decide_eq_false_iff_not] at hc
      simp [exponent?, hc.1.2, hc.2]
  · rw [List.cons_append, exponent?, if_pos hc, List.append_assoc, skipSign_append hsign hds,
      skipDigits_append hds h.isDigit]
    rfl

/-- Neither a fraction nor an exponent starts with a digit, and an exponent not with a point. -/
theorem stops_fraction {f : List Char} (hf : f = [] ∨ IsFraction f) : Stops Char.isDigit f := by
  rcases hf with rfl | ⟨ds, rfl, -⟩
  · exact .nil
  · exact .cons (by decide)

theorem stops_exponent {e : List Char} (he : e = [] ∨ IsExponent e) {p : Char → Bool}
    (hp : p 'e' = false ∧ p 'E' = false) : Stops p e := by
  rcases he with rfl | ⟨c, sign, ds, rfl, rfl | rfl, -⟩
  · exact .nil
  · exact .cons hp.1
  · exact .cons hp.2

theorem exists_unsigned_of_unsigned {cs rest : List Char} {n : Option Nat}
    (h : unsigned? cs = some (n, rest)) : ∃ l, cs = l ++ rest ∧ Unsigned l n := by
  rw [unsigned?, Option.bind_eq_bind, Option.bind_eq_some_iff] at h
  obtain ⟨⟨m, r₁⟩, hwhole, h⟩ := h
  simp only [Option.bind_eq_bind, Option.bind_eq_some_iff] at h
  obtain ⟨⟨b₁, r₂⟩, hfraction, ⟨b₂, r₃⟩, hexponent, h⟩ := h
  obtain ⟨rfl, rfl⟩ := Prod.mk.inj (Option.some.inj h)
  obtain ⟨w, rfl, hw, rfl⟩ := exists_whole_of_whole hwhole
  obtain ⟨f, rfl, hf, rfl⟩ := exists_fraction_of_fraction hfraction
  obtain ⟨e, rfl, he, rfl⟩ := exists_exponent_of_exponent hexponent
  refine ⟨w ++ (f ++ e), by simp, ?_⟩
  have hvalue : (if (decide (f ≠ []) || decide (e ≠ [])) = true then none
      else some (ofDigits w)) = if f = [] ∧ e = [] then some (ofDigits w) else none := by
    by_cases hf₀ : f = [] <;> by_cases he₀ : e = [] <;> simp [hf₀, he₀]
  exact hvalue ▸ .mk hw hf he

theorem unsigned_append {l rest : List Char} {n : Option Nat} (hl : Unsigned l n)
    (h : Stops continues rest) : unsigned? (l ++ rest) = some (n, rest) := by
  cases hl with
  | @mk w f e hw hf he =>
    have hdigit : Stops Char.isDigit (e ++ rest) :=
      (stops_exponent he ⟨by decide, by decide⟩).append h.isDigit
    have hpoint : Stops (· = '.') (e ++ rest) :=
      (stops_exponent he ⟨by decide, by decide⟩).append h.point
    have hwhole := whole_append hw ((stops_fraction hf).append hdigit)
    have hfraction := fraction_append hf hdigit hpoint
    have hexponent := exponent_append he h
    rw [List.append_assoc, List.append_assoc, unsigned?, hwhole]
    simp only [Option.bind_eq_bind, Option.bind_some, hfraction, hexponent]
    by_cases hf₀ : f = [] <;> by_cases he₀ : e = [] <;> simp [hf₀, he₀]

theorem exists_numeral_of_number {cs rest : List Char} {n : Option Nat}
    (h : number? cs = some (n, rest)) : ∃ l, cs = l ++ rest ∧ Numeral l n := by
  unfold number? at h
  split at h
  · obtain ⟨⟨m, r⟩, hu, he⟩ := Option.map_eq_some_iff.mp h
    obtain ⟨rfl, rfl⟩ := Prod.mk.inj he
    obtain ⟨l, rfl, hl⟩ := exists_unsigned_of_unsigned hu
    exact ⟨'-' :: l, rfl, .negative hl⟩
  · obtain ⟨l, rfl, hl⟩ := exists_unsigned_of_unsigned h
    exact ⟨l, rfl, .unsigned hl⟩

theorem Unsigned.exists_digit {l : List Char} {n : Option Nat} (hl : Unsigned l n) :
    ∃ c cs, l = c :: cs ∧ c.isDigit = true := by
  cases hl with
  | @mk w f e hw hf he =>
    rcases hw with rfl | ⟨⟨hne, hall⟩, -⟩
    · exact ⟨'0', f ++ e, rfl, by decide⟩
    · cases w with
      | nil => exact absurd rfl hne
      | cons c w => exact ⟨c, w ++ (f ++ e), rfl, hall c (by simp)⟩

theorem Numeral.exists_head {l : List Char} {n : Option Nat} (hl : Numeral l n) :
    ∃ c cs, l = c :: cs ∧ (c.isDigit = true ∨ c = '-') := by
  cases hl with
  | unsigned h =>
    obtain ⟨c, cs, rfl, hc⟩ := h.exists_digit
    exact ⟨c, cs, rfl, .inl hc⟩
  | negative h => exact ⟨'-', _, rfl, .inr rfl⟩

theorem number_append {l rest : List Char} {n : Option Nat} (hl : Numeral l n)
    (h : Stops continues rest) : number? (l ++ rest) = some (n, rest) := by
  cases hl with
  | unsigned hl =>
    obtain ⟨c, cs, rfl, hc⟩ := hl.exists_digit
    have hsign : c ≠ '-' := by
      rintro rfl
      exact absurd hc (by decide)
    have hu := unsigned_append hl h
    rw [List.cons_append] at hu ⊢
    simpa [number?, hsign] using hu
  | negative hl => rw [List.cons_append, number?, unsigned_append hl h]; rfl

/-! ## Strings -/

/-- `Pieces cs ps`: the text `cs` between quotation marks has the pieces `ps`. -/
inductive Pieces : List Char → List Piece → Prop
  | nil : Pieces [] []
  | plain {c : Char} {cs : List Char} {ps : List Piece} (hquote : c ≠ '"') (hslash : c ≠ '\\')
      (hc : 0x20 ≤ c.toNat) (h : Pieces cs ps) : Pieces (c :: cs) (.char c :: ps)
  | escape {e c : Char} {cs : List Char} {ps : List Piece} (he : escaped? e = some c)
      (h : Pieces cs ps) : Pieces ('\\' :: e :: cs) (.char c :: ps)
  | code {a b c d : Char} {u : Nat} {cs : List Char} {ps : List Piece}
      (hu : code? a b c d = some u) (h : Pieces cs ps) :
      Pieces ('\\' :: 'u' :: a :: b :: c :: d :: cs) (.code u :: ps)

theorem exists_pieces_of_pieces {cs : List Char} : ∀ {ps : List Piece} {rest : List Char},
    pieces? cs = some (ps, rest) → ∃ l, cs = l ++ '"' :: rest ∧ Pieces l ps := by
  fun_induction pieces? cs with
  | case1 => simp
  | case2 r =>
    intro ps rest h
    obtain ⟨rfl, rfl⟩ := Prod.mk.inj (Option.some.inj h)
    exact ⟨[], rfl, .nil⟩
  | case3 a b c d r ih =>
    intro ps rest h
    obtain ⟨u, hu, h⟩ := Option.bind_eq_some_iff.mp h
    obtain ⟨⟨qs, r'⟩, hqs, h⟩ := Option.bind_eq_some_iff.mp h
    obtain ⟨rfl, rfl⟩ := Prod.mk.inj (Option.some.inj h)
    obtain ⟨l, rfl, hl⟩ := ih hqs
    exact ⟨_, rfl, .code hu hl⟩
  | case4 e r _ ih =>
    intro ps rest h
    obtain ⟨c, he, h⟩ := Option.bind_eq_some_iff.mp h
    obtain ⟨⟨qs, r'⟩, hqs, h⟩ := Option.bind_eq_some_iff.mp h
    obtain ⟨rfl, rfl⟩ := Prod.mk.inj (Option.some.inj h)
    obtain ⟨l, rfl, hl⟩ := ih hqs
    exact ⟨_, rfl, .escape he hl⟩
  | case5 => simp
  | case6 c r hquote hcode hslash hc ih =>
    intro ps rest h
    obtain ⟨⟨qs, r'⟩, hqs, h⟩ := Option.bind_eq_some_iff.mp h
    obtain ⟨rfl, rfl⟩ := Prod.mk.inj (Option.some.inj h)
    obtain ⟨l, rfl, hl⟩ := ih hqs
    refine ⟨_, rfl, .plain ?_ ?_ (Nat.le_of_not_lt hc) hl⟩
    · exact hquote
    · rintro rfl
      cases l with
      | nil => exact hslash _ _ rfl rfl
      | cons e l => exact hslash _ _ rfl rfl

theorem pieces_append {l rest : List Char} {ps : List Piece} (hl : Pieces l ps) :
    pieces? (l ++ '"' :: rest) = some (ps, rest) := by
  induction hl with
  | nil => rfl
  | @plain c cs ps hquote hslash hc h ih =>
    rw [List.cons_append]
    unfold pieces?
    split <;> simp_all
  | @escape e c cs ps he h ih =>
    have hu : e ≠ 'u' := by
      rintro rfl
      exact absurd he (by simp [escaped?])
    simp [pieces?, hu, he, ih]
  | @code a b c d u cs ps hu h ih =>
    simp [pieces?, hu, ih]

/-! ## Tokens -/

namespace Token

/-- Whether a token is a number. -/
def isNumber : Token → Bool
  | number _ => true
  | _ => false

/-- The text `cs` is a way to write the token. -/
def IsLexeme : Token → List Char → Prop
  | number n, cs => Numeral cs n
  | string s, cs => ∃ l ps, cs = '"' :: (l ++ ['"']) ∧ Pieces l ps ∧
      s = (Piece.text? ps).map String.ofList
  | t, cs => cs = t.spelling

/-- **What is taken off the front of a text is a way to write the token.** -/
theorem exists_lexeme_of_next {cs rest : List Char} {t : Token} (h : next cs = some (t, rest)) :
    ∃ l, cs = l ++ rest ∧ t.IsLexeme l := by
  unfold next at h
  split at h
  case h_10 r =>
    obtain ⟨⟨ps, r'⟩, hps, he⟩ := Option.map_eq_some_iff.mp h
    obtain ⟨rfl, rfl⟩ := Prod.mk.inj he
    obtain ⟨l, rfl, hl⟩ := exists_pieces_of_pieces hps
    exact ⟨'"' :: (l ++ ['"']), by simp, l, ps, rfl, hl, rfl⟩
  case h_11 =>
    obtain ⟨⟨n, r'⟩, hn, he⟩ := Option.map_eq_some_iff.mp h
    obtain ⟨rfl, rfl⟩ := Prod.mk.inj he
    exact exists_numeral_of_number hn
  all_goals
    obtain ⟨rfl, rfl⟩ := Prod.mk.inj (Option.some.inj h)
    exact ⟨_, rfl, rfl⟩

/-- A text that starts like a number is no other token. -/
theorem next_of_digit {c : Char} (hc : c.isDigit = true ∨ c = '-') (cs : List Char) :
    next (c :: cs) = (number? (c :: cs)).map fun p => (number p.1, p.2) := by
  have hne {d : Char} (hd : d.isDigit = false ∧ d ≠ '-') : c ≠ d := by
    rintro rfl
    rcases hc with hc | hc
    · exact Bool.false_ne_true (hd.1.symm.trans hc)
    · exact hd.2 hc
  unfold next
  split
  case h_11 => rfl
  all_goals
    rename_i heq
    exact absurd (List.cons.inj heq).1 (hne (by decide))

/-- **Every way to write a token is taken off the front of a text**; if it is a number, the text has
to go on with something else. -/
theorem next_of_lexeme {t : Token} {l rest : List Char} (hl : t.IsLexeme l)
    (h : t.isNumber = true → Stops continues rest) : next (l ++ rest) = some (t, rest) := by
  cases t with
  | number n =>
    have hn := number_append hl (h rfl)
    obtain ⟨c, cs, rfl, hc⟩ := Numeral.exists_head hl
    rw [List.cons_append] at hn ⊢
    rw [next_of_digit hc, hn]
    rfl
  | string s =>
    obtain ⟨body, ps, rfl, hps, rfl⟩ := hl
    have hpieces : pieces? (body ++ '"' :: rest) = some (ps, rest) := pieces_append hps
    rw [List.cons_append, List.append_assoc]
    show (pieces? (body ++ '"' :: rest)).map _ = _
    rw [hpieces]
    rfl
  | bool b => cases b <;> (obtain rfl := hl; rfl)
  | _ => obtain rfl := hl; rfl

/-- A way to write a token starts with no blank, and with nothing a number could go on with unless
it is a number. -/
theorem IsLexeme.exists_head {t : Token} {l : List Char} (hl : t.IsLexeme l) :
    ∃ c cs, l = c :: cs ∧ isBlank c = false ∧ (t.isNumber = false → continues c = false) := by
  cases t with
  | number n =>
    obtain ⟨c, cs, rfl, hc⟩ := Numeral.exists_head hl
    refine ⟨c, cs, rfl, ?_, by simp [isNumber]⟩
    rcases hc with hc | rfl
    · cases hb : isBlank c with
      | false => rfl
      | true =>
        simp only [isBlank, Bool.or_eq_true, decide_eq_true_eq] at hb
        rcases hb with ((rfl | rfl) | rfl) | rfl <;> exact absurd hc (by decide)
    · decide
  | string s =>
    obtain ⟨body, ps, rfl, -, -⟩ := hl
    exact ⟨'"', body ++ ['"'], rfl, by decide, fun _ => by decide⟩
  | bool b =>
    obtain rfl := hl
    cases b with
    | false => exact ⟨'f', _, rfl, by decide, fun _ => by decide⟩
    | true => exact ⟨'t', _, rfl, by decide, fun _ => by decide⟩
  | _ =>
    obtain rfl := hl
    exact ⟨_, _, rfl, by decide, fun _ => by decide⟩

end Token

end ResourceContainers.Json
