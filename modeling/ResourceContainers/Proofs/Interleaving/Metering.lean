import Mathlib.Algebra.Ring.Nat
import ResourceContainers.Proofs.Interleaving.Limiting
import ResourceContainers.Proofs.Weaving

/-!
# What containers consume

A container consumes nothing by itself.  Somebody outside feeds an account, and every container that
was created with that account reports what the account says.  Feeders do not wait for one another,
for threads or for containers: an addition and a setting are one access to one amount each, and a
reset comes to the amounts one after the other.

* `Usage.Touch`: an access to the amount of one resource.  `Usage.touch`: what it does.
* `Usage.Metering`: an operation of a feeder, with its `touches`.
  `Usage.foldl_touches`: an operation that nothing falls into.  `Usage.exists_order`: operations
  that fall into one another.
* `Usage.lastSet`, `Usage.addedSince`: what is left of a history of accesses.
  `Usage.toNat_amount_after`: the amount that it comes to.
* `Pool.SameMeters`, `World.sameMeters_step`: no step of a thread changes what is consumed.
* `Metered.Step`, `Metered.Run`: threads and feeders that step past one another.
* `consumed_of_history`: what each container consumes, at any time.

## Why histories are kept for each account and each resource

A feeder changes one amount at a time, so the amount of a resource knows only the accesses to it, in
the order in which they came.  Where accesses to it are all additions, the order does not matter.
Whoever shares the account, and whether the containers that do still run, has no part in that.

A reset that others fall into has no place of its own in the history of an account.  It has one in
the history of each resource, and that is where it counts.
-/

namespace ResourceContainers

namespace Usage

/-! ## Accesses to an account -/

/-- An access to the amount of one resource.  A reset sets each to zero when it comes to it. -/
inductive Touch
  | add (r : Resource) (a : UInt64)
  | set (r : Resource) (a : UInt64)
  | zero (r : Resource)
  deriving DecidableEq, Repr

namespace Touch

/-- The resource whose amount is accessed. -/
def resource : Touch → Resource
  | add r _ | set r _ | zero r => r

/-- Whether an access adds. -/
def isAdd : Touch → Bool
  | add _ _ => true
  | set _ _ | zero _ => false

/-- What an access makes of the amount. -/
def put (b : UInt64) : Touch → UInt64
  | add _ a => b + a
  | set _ a => a
  | zero _ => 0

/-- What an access adds to the amount of `r`. -/
def add? (r : Resource) : Touch → Option UInt64
  | add q a => if q = r then some a else none
  | set _ _ | zero _ => none

/-- What an access sets the amount of `r` to. -/
def set? (r : Resource) : Touch → Option UInt64
  | set q a => if q = r then some a else none
  | add _ _ | zero _ => none

theorem of_resource_ne {t : Touch} {r : Resource} (h : t.resource ≠ r) :
    t ≠ .zero r ∧ t.set? r = none ∧ t.add? r = none := by
  refine ⟨fun heq => h (heq ▸ rfl), ?_, ?_⟩
  · cases t with
    | set q a => exact if_neg h
    | add q a => rfl
    | zero q => rfl
  · cases t with
    | add q a => exact if_neg h
    | set q a => rfl
    | zero q => rfl

end Touch

/-- Makes an access. -/
def touch (u : Usage) : Touch → Usage
  | .add r a => u.add r a
  | .set r a => u.set r a
  | .zero r => u.set r 0

/-- An operation of a feeder. -/
inductive Metering
  | add (r : Resource) (a : UInt64)
  | set (r : Resource) (a : UInt64)
  | reset
  deriving DecidableEq, Repr

namespace Metering

/-- The accesses of an operation. -/
def touches : Metering → List Touch
  | add r a => [.add r a]
  | set r a => [.set r a]
  | reset => Resource.all.map .zero

/-- The access that an operation makes to the amount of `r`. -/
def on? (r : Resource) : Metering → Option Touch
  | add q a => if q = r then some (.add r a) else none
  | set q a => if q = r then some (.set r a) else none
  | reset => some (.zero r)

/-- An account after an operation that nothing falls into. -/
def result (u : Usage) : Metering → Usage
  | add r a => u.add r a
  | set r a => u.set r a
  | reset => .zero

/-- An operation accesses an amount at most once. -/
theorem filter_touches (op : Metering) (r : Resource) :
    op.touches.filter (·.resource = r) = (op.on? r).toList := by
  cases op with
  | add q a => by_cases h : q = r <;> simp [touches, on?, Touch.resource, h]
  | set q a => by_cases h : q = r <;> simp [touches, on?, Touch.resource, h]
  | reset => cases r <;> rfl

theorem filter_flatten_touches (ops : List Metering) (r : Resource) :
    (ops.map touches).flatten.filter (·.resource = r) = ops.filterMap (on? r) := by
  induction ops with
  | nil => rfl
  | cons op ops ih =>
    rw [List.map_cons, List.flatten_cons, List.filter_append, ih, filter_touches,
      List.filterMap_cons]
    cases op.on? r <;> rfl

end Metering

theorem eq_of_amount {u v : Usage} (h : ∀ r, u.amount r = v.amount r) : u = v := by
  obtain ⟨u⟩ := u
  obtain ⟨v⟩ := v
  congr 1
  have hrank : ∀ i : Fin 7, ∃ r : Resource, r.rank = i := by
    intro i
    exact ⟨Resource.all[i], by revert i; decide⟩
  refine Vector.ext fun i hi => ?_
  obtain ⟨r, hr⟩ := hrank ⟨i, hi⟩
  have hamount := h r
  simp only [amount, Fin.getElem_fin, hr] at hamount
  exact hamount

theorem amount_touch (u : Usage) (t : Touch) (r : Resource) :
    (u.touch t).amount r = if r = t.resource then t.put (u.amount t.resource) else u.amount r := by
  cases t with
  | add q a => exact amount_add u q r a
  | set q a | zero q => exact amount_set u q r _

theorem amount_touch_of_eq (u : Usage) {t : Touch} {r : Resource} (h : t.resource = r) :
    (u.touch t).amount r = t.put (u.amount r) := by
  rw [amount_touch, if_pos h.symm, h]

theorem amount_touch_of_ne (u : Usage) {t : Touch} {r : Resource} (h : t.resource ≠ r) :
    (u.touch t).amount r = u.amount r :=
  (amount_touch u t r).trans (if_neg (Ne.symm h))

/-- An operation that nothing falls into. -/
theorem foldl_touches (u : Usage) (op : Metering) :
    op.touches.foldl touch u = op.result u := by
  cases op with
  | add r a => rfl
  | set r a => rfl
  | reset =>
    refine eq_of_amount fun r => ?_
    simp only [Metering.touches, Metering.result, Resource.all, List.map_cons, List.map_nil,
      List.foldl_cons, List.foldl_nil, touch, amount_set, amount_zero]
    cases r <;> rfl

theorem foldl_result (u : Usage) (ops : List Metering) :
    ops.foldl Metering.result u = (ops.map Metering.touches).flatten.foldl touch u := by
  rw [List.foldl_flatten, List.foldl_map]
  simp only [foldl_touches]

theorem amount_touch_congr {u v : Usage} {r : Resource} (h : u.amount r = v.amount r) (t : Touch) :
    (u.touch t).amount r = (v.touch t).amount r := by
  by_cases hr : t.resource = r
  · rw [amount_touch_of_eq u hr, amount_touch_of_eq v hr, h]
  · rw [amount_touch_of_ne u hr, amount_touch_of_ne v hr, h]

theorem amount_foldl_congr {u v : Usage} {r : Resource} (h : u.amount r = v.amount r)
    (ts : List Touch) : (ts.foldl touch u).amount r = (ts.foldl touch v).amount r := by
  induction ts generalizing u v with
  | nil => exact h
  | cons t ts ih => exact ih (amount_touch_congr h t)

/-- The accesses to an amount are all that it knows. -/
theorem amount_foldl_filter (ts : List Touch) (r : Resource) (u : Usage) :
    ((ts.filter (·.resource = r)).foldl touch u).amount r = (ts.foldl touch u).amount r := by
  induction ts generalizing u with
  | nil => rfl
  | cons t ts ih =>
    by_cases ht : t.resource = r
    · rw [List.filter_cons_of_pos (by simpa using ht)]
      exact ih (u.touch t)
    · rw [List.filter_cons_of_neg (by simpa using ht), ih]
      exact amount_foldl_congr (amount_touch_of_ne u ht).symm ts

/-- **Every amount sees operations that follow one another**, however they fall into one another: in
the order in which they come to that amount. -/
theorem exists_order {ops : List Metering} {ts : List Touch}
    (h : Woven (ops.map Metering.touches) ts) (r : Resource) (u : Usage) :
    ∃ ops' : List Metering, ops'.Perm ops ∧
      ops'.filterMap (Metering.on? r) = ts.filter (·.resource = r) ∧
      (ts.foldl touch u).amount r = (ops'.foldl Metering.result u).amount r := by
  have hperm : (ts.filter (·.resource = r)).Perm (ops.filterMap (Metering.on? r)) := by
    rw [← Metering.filter_flatten_touches]
    exact h.perm_flatten.filter _
  obtain ⟨ops', hops, horder⟩ := exists_perm_of_perm_filterMap hperm
  refine ⟨ops', hops, horder, ?_⟩
  rw [foldl_result, ← amount_foldl_filter, ← horder, ← Metering.filter_flatten_touches,
    amount_foldl_filter]

/-! ## Histories of accesses -/

/-- An account after some accesses, the newest first. -/
def after (ts : List Touch) : Usage := ts.foldr (fun t u => u.touch t) zero

/-- The accesses since the amount of `r` was last reset. -/
def sinceReset (r : Resource) (ts : List Touch) : List Touch := ts.takeWhile (· ≠ .zero r)

/-- What the amount of `r` was last set to since it was last reset, or zero if it was not. -/
def lastSet (r : Resource) (ts : List Touch) : UInt64 :=
  ((sinceReset r ts).findSome? (Touch.set? r)).getD 0

/-- What was added to the amount of `r` after that. -/
def addedSince (r : Resource) (ts : List Touch) : List UInt64 :=
  ((sinceReset r ts).takeWhile fun t => (t.set? r).isNone).filterMap (Touch.add? r)

section History

variable (r : Resource) (ts : List Touch)

theorem after_cons (t : Touch) : after (t :: ts) = (after ts).touch t := rfl

theorem after_eq_foldl : after ts = ts.reverse.foldl touch zero :=
  List.foldl_reverse.symm

theorem sinceReset_zero : sinceReset r (.zero r :: ts) = [] :=
  List.takeWhile_cons_of_neg (by simp)

theorem sinceReset_cons {t : Touch} (h : t ≠ .zero r) :
    sinceReset r (t :: ts) = t :: sinceReset r ts :=
  List.takeWhile_cons_of_pos (by simpa using h)

theorem lastSet_zero : lastSet r (.zero r :: ts) = 0 := by
  rw [lastSet, sinceReset_zero]
  rfl

theorem addedSince_zero : addedSince r (.zero r :: ts) = [] := by
  rw [addedSince, sinceReset_zero]
  rfl

theorem lastSet_cons {t : Touch} (h : t ≠ .zero r) :
    lastSet r (t :: ts) = (t.set? r).getD (lastSet r ts) := by
  rw [lastSet, sinceReset_cons r ts h, List.findSome?_cons]
  cases t.set? r <;> rfl

/-- Setting is the end of what was added before. -/
theorem addedSince_cons_of_isSome {t : Touch} (h : t ≠ .zero r) (hset : (t.set? r).isSome) :
    addedSince r (t :: ts) = [] := by
  have hend : ¬(t.set? r).isNone = true := by
    rw [Option.isNone_iff_eq_none]
    exact Option.isSome_iff_ne_none.mp hset
  rw [addedSince, sinceReset_cons r ts h,
    List.takeWhile_cons_of_neg (p := fun t : Touch => (t.set? r).isNone) hend]
  rfl

theorem addedSince_cons_of_isNone {t : Touch} (h : t ≠ .zero r) (hset : (t.set? r).isNone) :
    addedSince r (t :: ts) = (t.add? r).toList ++ addedSince r ts := by
  rw [addedSince, sinceReset_cons r ts h, List.takeWhile_cons_of_pos (by simpa using hset),
    List.filterMap_cons]
  cases t.add? r <;> rfl

/-- **What a history of accesses comes to**: what an amount was last set to, and all that was added
after that. -/
theorem toNat_amount_after :
    ((after ts).amount r).toNat =
      ((lastSet r ts).toNat + ((addedSince r ts).map UInt64.toNat).sum) % UInt64.size := by
  induction ts with
  | nil => cases r <;> rfl
  | cons t ts ih =>
    by_cases h : t.resource = r
    · rw [after_cons, amount_touch_of_eq _ h]
      cases t with
      | add q a =>
        obtain rfl : q = r := h
        have hadd : (Touch.add q a).add? q = some a := if_pos rfl
        rw [lastSet_cons q ts (by simp), addedSince_cons_of_isNone q ts (by simp) rfl, hadd,
          Touch.put, UInt64.toNat_add, ih]
        show (_ % UInt64.size + a.toNat) % UInt64.size =
          (_ + (a.toNat + ((addedSince q ts).map UInt64.toNat).sum)) % UInt64.size
        rw [Nat.mod_add_mod, Nat.add_assoc, Nat.add_comm a.toNat]
        rfl
      | set q a =>
        obtain rfl : q = r := h
        have hset : (Touch.set q a).set? q = some a := if_pos rfl
        rw [lastSet_cons q ts (by simp),
          addedSince_cons_of_isSome q ts (by simp) (by rw [hset]; rfl), hset]
        exact (Nat.mod_eq_of_lt (UInt64.toNat_lt_size a)).symm
      | zero q =>
        obtain rfl : q = r := h
        rw [lastSet_zero, addedSince_zero]
        rfl
    · obtain ⟨hzero, hset, hadd⟩ := Touch.of_resource_ne h
      rw [after_cons, amount_touch_of_ne _ h, ih, lastSet_cons r ts hzero,
        addedSince_cons_of_isNone r ts hzero (by simp [hset]), hset, hadd]
      rfl

theorem amount_add_eq (u : Usage) (q : Resource) (a : UInt64) :
    (u.add q a).amount r = u.amount r + if r = q then a else 0 := by
  rw [amount_add]
  split
  · subst r
    rfl
  · exact (UInt64.add_zero _).symm

/-- It does not matter which of two additions comes first. -/
theorem touch_comm_of_isAdd (u : Usage) {t t' : Touch} (ht : t.isAdd = true)
    (ht' : t'.isAdd = true) : (u.touch t).touch t' = (u.touch t').touch t := by
  match t, t' with
  | .add q a, .add q' a' =>
    refine eq_of_amount fun r => ?_
    simp only [touch, amount_add_eq, UInt64.add_assoc]
    rw [UInt64.add_comm (ite (r = q) a 0)]

/-- **Additions that nothing else falls into can come in any order.** -/
theorem after_perm_adds {later adds adds' earlier : List Touch}
    (hadds : ∀ t ∈ adds, t.isAdd = true) (hperm : adds.Perm adds') :
    after (later ++ adds ++ earlier) = after (later ++ adds' ++ earlier) := by
  have hcomm : ∀ t ∈ adds, ∀ t' ∈ adds, ∀ u : Usage, (u.touch t).touch t' = (u.touch t').touch t :=
    fun t ht t' ht' u => touch_comm_of_isAdd u (hadds t ht) (hadds t' ht')
  have hsame := hperm.foldr_eq' (f := fun t u => touch u t) hcomm (after earlier)
  simp only [after, List.foldr_append] at hsame ⊢
  rw [hsame]

end History

end Usage

/-! ## What threads leave alone -/

namespace Pool

variable {p p' : Pool}

/-- The accounts are the same, and every container is metered by what it was metered by. -/
structure SameMeters (p p' : Pool) : Prop where
  accounts : p'.accounts = p.accounts
  meter : ∀ n, n < p.containers.size → (p'.container n).meter = (p.container n).meter

theorem SameMeters.refl (p : Pool) : p.SameMeters p := ⟨rfl, fun _ _ => rfl⟩

theorem SameMeters.consumed (h : p.SameMeters p') {n : Nat} (hn : n < p.containers.size)
    (r : Resource) : p'.consumed (.managed n) r = p.consumed (.managed n) r := by
  simp only [Pool.consumed, reading, usage, h.meter n hn, h.accounts]

theorem sameMeters_change (n : Nat) {f : Container → Container}
    (hf : ∀ c, (f c).meter = c.meter) : p.SameMeters (p.change n f) where
  accounts := rfl
  meter m _ := by
    rw [container_change]
    split
    · exact hf _
    · rfl

theorem sameMeters_acquire {n : Nat} (h : p.acquire n = .ok p') : p.SameMeters p' := by
  obtain ⟨-, rfl⟩ := acquire_eq_ok_iff.mp h
  exact sameMeters_change n fun _ => rfl

theorem sameMeters_release (p : Pool) (n : Nat) : p.SameMeters (p.release n) :=
  sameMeters_change n fun _ => rfl

theorem usage_meter (p : Pool) (account name : String) (f : Usage → Usage) :
    (p.meter account f).usage name =
      if account = name then f (p.usage account) else p.usage name := by
  rw [usage, meter, Table.get?_insert]
  by_cases h : account = name
  · rw [if_pos (Std.compare_eq_iff_eq.mpr h.symm), if_pos h]
    rfl
  · rw [if_neg fun heq => h (Std.compare_eq_iff_eq.mp heq).symm, if_neg h]
    rfl

/-- A container reads no account but its own. -/
theorem consumed_meter_of_ne (p : Pool) {account : String} (f : Usage → Usage) {n : Nat}
    (h : (p.container n).meter ≠ .account account) (r : Resource) :
    (p.meter account f).consumed (.managed n) r = p.consumed (.managed n) r := by
  show (p.meter account f).reading (p.container n).meter r = p.reading (p.container n).meter r
  cases hm : (p.container n).meter with
  | account name =>
    have hne : account ≠ name := by
      rintro rfl
      exact h hm
    rw [reading, usage_meter, if_neg hne]
    rfl
  | _ => rfl

end Pool

namespace Interleaving

theorem Request.sameMeters {p p' : Pool} {note : Note} (h : Request p p' note) :
    p.SameMeters p' := by
  cases h with
  | create c m =>
    refine ⟨rfl, fun n hn => ?_⟩
    rw [Pool.container_create, if_neg (Nat.ne_of_lt hn)]
  | @destroy h p' e =>
    cases h with
    | root => exact absurd e (by simp)
    | managed n =>
      obtain ⟨-, -, rfl⟩ := Pool.destroy_eq_ok_iff.mp e
      exact Pool.sameMeters_change n fun _ => rfl
  | @update h k p' e =>
    cases h with
    | root => exact absurd e (by simp [Pool.update])
    | managed n =>
      obtain ⟨-, rfl⟩ := Pool.update_eq_ok_iff.mp e
      exact Pool.sameMeters_change n fun _ => rfl
  | @setPolicy h policy p' e =>
    cases h with
    | root => exact absurd e (by simp [Pool.setPolicy])
    | managed n =>
      obtain rfl := Except.ok.inj e
      exact Pool.sameMeters_change n fun _ => rfl
  | refused h why => exact .refl p

theorem Moves.sameMeters {p : Pool} {s : Slot} {number number' : Nat} {c : Option Call}
    {j : Option Job} {m : Move} (hm : Moves p s number c j m number') : p.SameMeters m.pool := by
  rcases hm.pool_cases with h | ⟨n, h⟩ | ⟨n, h⟩ | h
  · rw [h]
    exact .refl p
  · exact Pool.sameMeters_acquire h
  · rw [h]
    exact Pool.sameMeters_release p n
  · exact h.sameMeters

/-- **No step of a thread changes what is consumed**, whatever it does to containers. -/
theorem World.sameMeters_step {w w' : World} {k : Nat} {a : Act} {note : Note}
    (hs : w.step k a = some (w', note)) : w.pool.SameMeters w'.pool := by
  rcases step_cases hs with ⟨rfl, -⟩ | hmoved
  · exact .refl w.pool
  · cases hmoved with
    | intro Γ hk hm hthreads htasks => exact hm.sameMeters

namespace Metered

/-! ## Threads and feeders -/

/-- What is seen of a step: a step of the world, or an access of a feeder to an account. -/
inductive Occasion
  | happened (e : Event)
  | touched (account : String) (t : Usage.Touch)

/-- **One step**, of a thread or of a feeder.  A feeder can always make an access. -/
inductive Step (w : World) : Occasion → World → Prop
  | act {k : Nat} {a : Act} {note : Note} {w' : World} (hs : w.step k a = some (w', note)) :
      Step w (.happened ⟨k, a, note⟩) w'
  | feed (account : String) (t : Usage.Touch) :
      Step w (.touched account t) { w with pool := w.pool.meter account (·.touch t) }

/-- `Run w os w'`: the steps `os`, the newest first, lead from `w` to `w'`. -/
inductive Run (w : World) : List Occasion → World → Prop
  | nil : Run w [] w
  | cons {os : List Occasion} {o : Occasion} {v v' : World} (hrun : Run w os v)
      (hstep : Step v o v') : Run w (o :: os) v'

/-- The access that is made to an account. -/
def Occasion.touch? (account : String) : Occasion → Option Usage.Touch
  | .touched name t => if name = account then some t else none
  | .happened _ => none

/-- The accesses to an account, the newest first. -/
def touches (account : String) (os : List Occasion) : List Usage.Touch :=
  os.filterMap (Occasion.touch? account)

/-- The container `n` was created with that account. -/
def Fed (n : Nat) (account : String) (os : List Occasion) : Prop :=
  ∃ k c, .happened ⟨k, .perform (.create c (.account account)), .created n⟩ ∈ os

/-- Accounts say what their histories come to, and containers stay with their accounts. -/
structure Accounted (w : World) (os : List Occasion) : Prop where
  usage : ∀ account, w.pool.usage account = Usage.after (touches account os)
  fed : ∀ n account, Fed n account os →
    n < w.pool.containers.size ∧ (w.pool.container n).meter = .account account

section Steps

variable {w w' : World} {os : List Occasion} {o : Occasion}

theorem accounted_start : Accounted .start [] where
  usage _ := rfl
  fed _ _ h := by
    obtain ⟨k, c, hmem⟩ := h
    exact absurd hmem (by simp)

theorem Step.usage (hstep : Step w o w') (account : String) :
    w'.pool.usage account =
      (o.touch? account).elim (w.pool.usage account) fun t => (w.pool.usage account).touch t := by
  cases hstep with
  | act hs =>
    have haccounts := (World.sameMeters_step hs).accounts
    exact congrArg (fun accounts => (accounts.get? account).getD .zero) haccounts
  | feed name t =>
    refine (Pool.usage_meter w.pool name account (·.touch t)).trans ?_
    rw [Occasion.touch?]
    by_cases h : name = account
    · rw [if_pos h, if_pos h, h]
      rfl
    · rw [if_neg h, if_neg h]
      rfl

theorem Accounted.step (h : Accounted w os) (hstep : Step w o w') : Accounted w' (o :: os) where
  usage account := by
    rw [hstep.usage, h.usage, touches, touches, List.filterMap_cons]
    cases o.touch? account <;> rfl
  fed n account hfed := by
    obtain ⟨k, c, hmem⟩ := hfed
    cases hstep with
    | @act k' a note _ hs =>
      rcases List.mem_cons.mp hmem with heq | hmem
      · obtain ⟨rfl, rfl, rfl⟩ := Event.mk.inj (Occasion.happened.inj heq)
        obtain ⟨hnote, hpool⟩ := World.pool_of_create hs
        obtain rfl := Note.created.inj hnote
        rw [hpool, Pool.container_create, if_pos rfl]
        exact ⟨by simp [Pool.create], rfl⟩
      · obtain ⟨hn, hmeter⟩ := h.fed n account ⟨k, c, hmem⟩
        exact ⟨Nat.lt_of_lt_of_le hn (World.size_le_step hs),
          ((World.sameMeters_step hs).meter n hn).trans hmeter⟩
    | feed name t =>
      have hold : Fed n account os := ⟨k, c, (List.mem_cons.mp hmem).resolve_left (by simp)⟩
      exact h.fed n account hold

/-- **All steps.** -/
theorem Run.accounted (hrun : Run .start os w) : Accounted w os := by
  induction hrun with
  | nil => exact accounted_start
  | cons _ hstep ih => exact ih.step hstep

/-- A container reports what its account has come to. -/
theorem Accounted.consumed (h : Accounted w os) {n : Nat} {account : String}
    (hfed : Fed n account os) (r : Resource) :
    w.pool.consumed (.managed n) r = (Usage.after (touches account os)).amount r := by
  show w.pool.reading (w.pool.container n).meter r = _
  rw [(h.fed n account hfed).2, Pool.reading, h.usage]

/-- A step changes what a container consumes of a resource only if it is an access to the amount of
that resource in the account of the container. -/
theorem Step.consumed (hstep : Step w o w') {n : Nat} (hn : n < w.pool.containers.size)
    {r : Resource} (ho : ∀ account t, o = .touched account t →
      (w.pool.container n).meter = .account account → t.resource ≠ r) :
    w'.pool.consumed (.managed n) r = w.pool.consumed (.managed n) r := by
  cases hstep with
  | act hs => exact (World.sameMeters_step hs).consumed hn r
  | feed account t =>
    by_cases hm : (w.pool.container n).meter = .account account
    · show (w.pool.meter account _).reading (w.pool.container n).meter r =
        w.pool.reading (w.pool.container n).meter r
      rw [hm, Pool.reading, Pool.usage_meter, if_pos rfl]
      exact Usage.amount_touch_of_ne _ (ho account t rfl hm)
    · exact w.pool.consumed_meter_of_ne _ hm r

/-- **What a container consumes is what its account was fed.**  Take any steps of any threads, with
accesses of any feeders to any accounts in between.

* What a container reports of a resource is what that was last set to in its account since it was
  last reset, and zero if it was not, with all that was added after that, but for a multiple of
  `UInt64.size`.  It does not matter whether the container runs, or who else has the account.
* When the operations of all feeders of an account are through, a container reports of each resource
  what it would report if they had followed one another, in the order in which they came to that
  resource.
* A step changes what a container reports of a resource only if it is an access to just that
  resource in the account of the container.  So no operation on a container changes any figure.
* If additions come in another order, and no other access to the account falls among them, all
  containers with that account report the same.
* The root container consumes nothing. -/
theorem consumed_of_history (hrun : Run .start os w) :
    (∀ n account, Fed n account os → ∀ r,
      (w.pool.consumed (.managed n) r).toNat =
        ((Usage.lastSet r (touches account os)).toNat +
          ((Usage.addedSince r (touches account os)).map UInt64.toNat).sum) % UInt64.size) ∧
    (∀ account ops, Woven (ops.map Usage.Metering.touches) (touches account os).reverse →
      ∀ n, Fed n account os → ∀ r, ∃ ops' : List Usage.Metering, ops'.Perm ops ∧
        ops'.filterMap (Usage.Metering.on? r) =
          (touches account os).reverse.filter (·.resource = r) ∧
        w.pool.consumed (.managed n) r =
          (ops'.foldl Usage.Metering.result .zero).amount r) ∧
    (∀ o w', Step w o w' → ∀ n, n < w.pool.containers.size → ∀ r,
      (∀ account t, o = .touched account t →
        (w.pool.container n).meter = .account account → t.resource ≠ r) →
      w'.pool.consumed (.managed n) r = w.pool.consumed (.managed n) r) ∧
    (∀ account later adds adds' earlier, (∀ t ∈ adds, t.isAdd = true) → adds.Perm adds' →
      touches account os = later ++ adds ++ earlier →
      ∀ os' w', Run .start os' w' → touches account os' = later ++ adds' ++ earlier →
      ∀ n n', Fed n account os → Fed n' account os' → ∀ r,
        w'.pool.consumed (.managed n') r = w.pool.consumed (.managed n) r) ∧
    ∀ r, w.pool.consumed .root r = 0 := by
  have haccounted := hrun.accounted
  refine ⟨fun n account hfed r => ?_, fun account ops hops n hfed r => ?_,
    fun o w' hstep n hn r ho => hstep.consumed hn ho,
    fun account later adds adds' earlier hadds hperm hos os' w' hrun' hos' n n' hfed hfed' r => ?_,
    fun r => rfl⟩
  · rw [haccounted.consumed hfed]
    exact Usage.toNat_amount_after r _
  · rw [haccounted.consumed hfed, Usage.after_eq_foldl]
    exact Usage.exists_order hops r .zero
  · rw [haccounted.consumed hfed, hrun'.accounted.consumed hfed', hos, hos',
      Usage.after_perm_adds hadds hperm]

end Steps

/-- The operations of several feeders. -/
def overlapping : List Usage.Metering :=
  [.add .memory 5, .reset, .add .cpuTime 3, .add .memory 9, .add .memory 18446744073709551615,
    .add .memory 7, .set .pids 40, .add .pids 2]

/-- Two containers share an account.  One addition falls into a reset behind the access of the reset
to its resource, and one ahead of it; then one of the containers is destroyed. -/
theorem exists_run_overlapping : ∃ os w, Run .start os w ∧ Fed 0 "host" os ∧ Fed 1 "host" os ∧
    Woven (overlapping.map Usage.Metering.touches) (touches "host" os).reverse ∧
    w.pool.phase (.managed 0) = .destroyed ∧ w.pool.phase (.managed 1) = .running ∧
    Usage.lastSet .memory (touches "host" os) = 0 ∧
    Usage.addedSince .memory (touches "host" os) = [7, 18446744073709551615] ∧
    Usage.lastSet .cpuTime (touches "host" os) = 0 ∧
    Usage.addedSince .cpuTime (touches "host" os) = [3] ∧
    Usage.lastSet .pids (touches "host" os) = 40 ∧
    Usage.addedSince .pids (touches "host" os) = [2] := by
  have created := ((Run.nil.cons (@Step.act .start 0
    (.perform (.create Config.empty (.account "host"))) (.created 0) _ rfl)).cons
    (.feed "host" (.add .memory 5))).cons
    (@Step.act _ 0 (.perform (.create Config.empty (.account "host"))) (.created 1) _ rfl)
  have beforeMemory := (((created.cons (.feed "host" (.zero .cpuTime))).cons
    (.feed "host" (.add .cpuTime 3))).cons (.feed "host" (.zero .cpuShares))).cons
    (.feed "host" (.add .memory 9))
  have zeroed := (((((beforeMemory.cons (.feed "host" (.zero .memory))).cons
    (.feed "host" (.add .memory 18446744073709551615))).cons
    (.feed "host" (.zero .memoryHigh))).cons (.feed "host" (.zero .ioTime))).cons
    (.feed "host" (.zero .ioWeight))).cons (.feed "host" (.zero .pids))
  have destroyed := zeroed.cons
    (@Step.act _ 0 (.perform (.destroy (.managed 0))) (.destroyed (.managed 0)) _ rfl)
  have fed := ((destroyed.cons (.feed "host" (.add .memory 7))).cons
    (.feed "host" (.set .pids 40))).cons (.feed "host" (.add .pids 2))
  exact ⟨_, _, fed, ⟨0, Config.empty, by simp⟩, ⟨0, Config.empty, by simp⟩,
    ⟨[0, 1, 2, 1, 3, 1, 4, 1, 1, 1, 1, 5, 6, 7], _, rfl, by decide⟩, rfl, rfl, rfl,
    rfl, rfl, rfl, rfl, rfl⟩

theorem consumed_of_history_overlapping : ∃ os w, Run .start os w ∧
    w.pool.phase (.managed 0) = .destroyed ∧ w.pool.phase (.managed 1) = .running ∧
    (∀ n, n < 2 →
      (w.pool.consumed (.managed n) .memory).toNat = 6 ∧
      (w.pool.consumed (.managed n) .cpuTime).toNat = 3 ∧
      (w.pool.consumed (.managed n) .pids).toNat = 42 ∧
      ∀ r, ∃ ops' : List Usage.Metering, ops'.Perm overlapping ∧
        w.pool.consumed (.managed n) r = (ops'.foldl Usage.Metering.result .zero).amount r) ∧
    w.pool.consumed .root .memory = 0 := by
  obtain ⟨os, w, hrun, hfirst, hsecond, hwoven, hdestroyed, hrunning, hmemory, hmemoryAdded, hcpu,
    hcpuAdded, hpids, hpidsAdded⟩ := exists_run_overlapping
  obtain ⟨hfigure, horder, -, -, hroot⟩ := consumed_of_history hrun
  have hfed : ∀ n, n < 2 → Fed n "host" os := by
    intro n hn
    obtain rfl | rfl : n = 0 ∨ n = 1 := by omega
    · exact hfirst
    · exact hsecond
  refine ⟨os, w, hrun, hdestroyed, hrunning, fun n hn => ⟨?_, ?_, ?_, fun r => ?_⟩, hroot .memory⟩
  · rw [hfigure n _ (hfed n hn), hmemory, hmemoryAdded]
    rfl
  · rw [hfigure n _ (hfed n hn), hcpu, hcpuAdded]
    rfl
  · rw [hfigure n _ (hfed n hn), hpids, hpidsAdded]
    rfl
  · obtain ⟨ops', hperm, -, hamount⟩ := horder "host" overlapping hwoven n (hfed n hn) r
    exact ⟨ops', hperm, hamount⟩

end Metered

end Interleaving

end ResourceContainers
