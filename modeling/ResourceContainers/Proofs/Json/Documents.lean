import ResourceContainers.Json.Document
import ResourceContainers.Json.Printer

/-!
# What the machine reads

The machine that reads documents keeps everything it has read, in its frames and in what it waits
for.  So the tokens it has read can be told from the state it is in, and a document that it has read
to the end consists of the tokens of its value.

* `Reading.past`: the tokens that lead to a state.
* `Reading.past_step`: a step adds its token to them.
* `Reading.run_tokens`: the machine reads the tokens of a value as that value.
* `ofTokens?_eq_some_iff`: the documents of a value are its tokens.
-/

namespace ResourceContainers.Json

/-! ## Items and members -/

/-- The tokens of the items of an array that is still open, each followed by a comma. -/
def openItems (items : List Json) : List Token := items.flatMap fun v => tokens v ++ [.comma]

/-- The tokens of one member. -/
def fieldTokens (m : Option String × Json) : List Token := .string m.1 :: .colon :: tokens m.2

/-- The tokens of the members of an object that is still open, each followed by a comma. -/
def openMembers (members : List (Option String × Json)) : List Token :=
  members.flatMap fun m => fieldTokens m ++ [.comma]

/-- The tokens of the items of an array after its first one. -/
def furtherItems (items : List Json) : List Token := items.flatMap fun v => .comma :: tokens v

/-- The tokens of the members of an object after its first one. -/
def furtherMembers (members : List (Option String × Json)) : List Token :=
  members.flatMap fun m => .comma :: fieldTokens m

theorem itemTokens_cons (v : Json) (items : List Json) :
    itemTokens (v :: items) = tokens v ++ furtherItems items := by
  induction items generalizing v with
  | nil => simp [itemTokens, furtherItems]
  | cons w items ih => rw [itemTokens, ih w]; rfl

theorem memberTokens_cons (m : Option String × Json) (members : List (Option String × Json)) :
    memberTokens (m :: members) = fieldTokens m ++ furtherMembers members := by
  induction members generalizing m with
  | nil => simp [memberTokens, furtherMembers, fieldTokens]
  | cons p members ih => rw [memberTokens, ih p]; rfl

theorem itemTokens_concat (items : List Json) (v : Json) :
    itemTokens (items ++ [v]) = openItems items ++ tokens v := by
  induction items with
  | nil => rfl
  | cons w items ih =>
    have hcons : itemTokens (w :: (items ++ [v])) =
        tokens w ++ .comma :: itemTokens (items ++ [v]) := by
      cases items <;> rfl
    rw [List.cons_append, hcons, ih]
    simp [openItems]

theorem memberTokens_concat (members : List (Option String × Json)) (m : Option String × Json) :
    memberTokens (members ++ [m]) = openMembers members ++ fieldTokens m := by
  induction members with
  | nil => rfl
  | cons p members ih =>
    have hcons : memberTokens (p :: (members ++ [m])) =
        fieldTokens p ++ .comma :: memberTokens (members ++ [m]) := by
      cases members <;> rfl
    rw [List.cons_append, hcons, ih]
    simp [openMembers]

/-! ## Only the tokens of a value are read -/

/-- The tokens that lead into a frame. -/
def Frame.past : Frame → List Token
  | .array items => .openArray :: openItems items.reverse
  | .object members name => .openObject :: (openMembers members.reverse ++ [.string name, .colon])

/-- The tokens that lead into frames, the innermost of which comes first. -/
def framesPast : List Frame → List Token
  | [] => []
  | f :: fs => framesPast fs ++ f.past

namespace Reading

/-- The tokens that lead to a state of the machine. -/
def past : Reading → List Token
  | value fs => framesPast fs
  | firstItem fs => framesPast fs ++ [.openArray]
  | firstName fs => framesPast fs ++ [.openObject]
  | name fs members => framesPast fs ++ .openObject :: openMembers members.reverse
  | colon fs members k =>
    framesPast fs ++ .openObject :: (openMembers members.reverse ++ [.string k])
  | after fs v => framesPast fs ++ tokens v

theorem past_startValue {fs : List Frame} {t : Token} {r : Reading}
    (h : startValue fs t = some r) : r.past = framesPast fs ++ [t] := by
  cases t <;> simp only [startValue, Option.some.injEq, reduceCtorEq] at h <;> subst h <;>
    simp [past, tokens]

theorem past_afterValue {fs : List Frame} {v : Json} {t : Token} {r : Reading}
    (h : afterValue v fs t = some r) : r.past = framesPast fs ++ tokens v ++ [t] := by
  unfold afterValue at h
  split at h
  · obtain rfl := Option.some.inj h
    simp [past, framesPast, Frame.past, openItems]
  · obtain rfl := Option.some.inj h
    simp [past, framesPast, Frame.past, tokens, itemTokens_concat]
  · obtain rfl := Option.some.inj h
    simp [past, framesPast, Frame.past, openMembers, fieldTokens]
  · obtain rfl := Option.some.inj h
    simp [past, framesPast, Frame.past, tokens, memberTokens_concat, fieldTokens]
  · exact absurd h (by simp)

theorem step_firstItem {fs : List Frame} {t : Token} (ht : t ≠ .closeArray) :
    step (firstItem fs) t = startValue (.array [] :: fs) t := by
  cases t <;> first | rfl | exact absurd rfl ht

/-- **A step adds its token to what has been read.** -/
theorem past_step {r r' : Reading} {t : Token} (h : r.step t = some r') :
    r'.past = r.past ++ [t] := by
  cases r with
  | value fs => exact past_startValue h
  | firstItem fs =>
    by_cases ht : t = .closeArray
    · subst ht
      obtain rfl := Option.some.inj h
      simp [past, tokens, itemTokens]
    · rw [step_firstItem ht] at h
      simpa [past, framesPast, Frame.past, openItems] using past_startValue h
  | firstName fs =>
    cases t <;> simp only [step, Option.some.injEq, reduceCtorEq] at h <;> subst h <;>
      simp [past, tokens, memberTokens, openMembers]
  | name fs members =>
    cases t <;> simp only [step, Option.some.injEq, reduceCtorEq] at h <;> subst h <;> simp [past]
  | colon fs members k =>
    cases t <;> simp only [step, Option.some.injEq, reduceCtorEq] at h <;> subst h <;>
      simp [past, framesPast, Frame.past]
  | after fs v => exact past_afterValue h

/-- What the machine does with several tokens. -/
def run (r : Reading) (ts : List Token) : Option Reading := ts.foldlM step r

theorem run_cons (r : Reading) (t : Token) (ts : List Token) :
    r.run (t :: ts) = (r.step t).bind fun r => r.run ts := List.foldlM_cons

theorem run_append (r : Reading) (ts us : List Token) :
    r.run (ts ++ us) = (r.run ts).bind fun r => r.run us := List.foldlM_append

theorem past_run {ts : List Token} : ∀ {r r' : Reading}, r.run ts = some r' →
    r'.past = r.past ++ ts := by
  induction ts with
  | nil =>
    intro r r' h
    obtain rfl := Option.some.inj h
    simp
  | cons t ts ih =>
    intro r r' h
    rw [run_cons] at h
    obtain ⟨q, hq, h⟩ := Option.bind_eq_some_iff.mp h
    rw [ih h, past_step hq, List.append_assoc]
    rfl

/-! ## The tokens of a value are read -/

/-- No value starts with the end of an array. -/
theorem exists_tokens_cons (v : Json) : ∃ t ts, tokens v = t :: ts ∧ t ≠ .closeArray := by
  cases v <;> exact ⟨_, _, rfl, by simp⟩

/-- Where the first item of an array may come, a value is read as its first item. -/
theorem run_firstItem (fs : List Frame) (v : Json) (ts : List Token) :
    (firstItem fs).run (tokens v ++ ts) = (value (.array [] :: fs)).run (tokens v ++ ts) := by
  obtain ⟨t, us, hus, ht⟩ := exists_tokens_cons v
  rw [hus, List.cons_append, run_cons, run_cons, step_firstItem ht]
  rfl

mutual

/-- **The tokens of a value are read as that value**, whatever is open around it. -/
theorem run_tokens (fs : List Frame) : (v : Json) → (value fs).run (tokens v) = some (after fs v)
  | null | bool _ | number _ | string _ => rfl
  | array [] | object [] => rfl
  | array (v :: vs) => by
    rw [tokens, itemTokens_cons, List.cons_append, run_cons]
    show (firstItem fs).run _ = _
    -- the first item closes over nothing; what follows it finds an open array without items
    rw [List.append_assoc, run_firstItem, run_append, run_tokens (.array [] :: fs) v]
    exact run_furtherItems fs [] v vs
  | object ((k, v) :: ms) => by
    rw [tokens, memberTokens_cons, List.cons_append, run_cons]
    show (value (.object [] k :: fs)).run (tokens v ++ furtherMembers ms ++ [.closeObject]) = _
    rw [List.append_assoc, run_append, run_tokens (.object [] k :: fs) v]
    exact run_furtherMembers fs [] k v ms

/-- The further items of an array are read to its end. -/
theorem run_furtherItems (fs : List Frame) (done : List Json) (v : Json) : (vs : List Json) →
    (after (.array done :: fs) v).run (furtherItems vs ++ [.closeArray]) =
      some (after fs (.array (done.reverse ++ v :: vs)))
  | [] => by
    show some (after fs (.array (v :: done).reverse)) = _
    rw [List.reverse_cons]
  | w :: vs => by
    show (value (.array (v :: done) :: fs)).run (tokens w ++ furtherItems vs ++ [.closeArray]) = _
    rw [List.append_assoc, run_append, run_tokens (.array (v :: done) :: fs) w]
    show (after (.array (v :: done) :: fs) w).run _ = _
    rw [run_furtherItems fs (v :: done) w vs, List.reverse_cons, List.append_assoc]
    rfl

theorem run_furtherMembers (fs : List Frame) (done : List (Option String × Json))
    (k : Option String) (v : Json) : (ms : List (Option String × Json)) →
    (after (.object done k :: fs) v).run (furtherMembers ms ++ [.closeObject]) =
      some (after fs (.object (done.reverse ++ (k, v) :: ms)))
  | [] => by
    show some (after fs (.object ((k, v) :: done).reverse)) = _
    rw [List.reverse_cons]
  | (l, w) :: ms => by
    show (value (.object ((k, v) :: done) l :: fs)).run
      (tokens w ++ furtherMembers ms ++ [.closeObject]) = _
    rw [List.append_assoc, run_append, run_tokens (.object ((k, v) :: done) l :: fs) w]
    show (after (.object ((k, v) :: done) l :: fs) w).run _ = _
    rw [run_furtherMembers fs ((k, v) :: done) l w ms, List.reverse_cons, List.append_assoc]
    rfl

end

end Reading

/-- **The documents of a value are its tokens.** -/
theorem ofTokens?_eq_some_iff {ts : List Token} {v : Json} :
    ofTokens? ts = some v ↔ ts = tokens v := by
  constructor
  · intro h
    obtain ⟨r, hr, hv⟩ := Option.bind_eq_some_iff.mp h
    have hpast : r.past = ts := Reading.past_run hr
    unfold Reading.finish at hv
    split at hv
    · obtain rfl := Option.some.inj hv
      exact hpast.symm
    · exact absurd hv (by simp)
  · rintro rfl
    exact Option.bind_eq_some_iff.mpr ⟨_, Reading.run_tokens [] v, rfl⟩

end ResourceContainers.Json
