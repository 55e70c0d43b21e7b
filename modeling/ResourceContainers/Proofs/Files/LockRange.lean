import ResourceContainers.Files.Session
import ResourceContainers.Proofs.Files.Requests

/-!
# The stretch that a lock is asked for

A caller names a stretch of a file with a position and a length, and the greatest length means to
the end.  The operating system gets two numbers as well, but there the length zero means to the end.
Here is what the one has to do with the other.

* `Primitive.Names`: the positions that a caller names.
* `Request.Denotes`: the positions that a request is about.
* `Primitive.denotes_iff_names`: these are the same, except for the length zero.
* `Primitive.lock_range`: what a lock or a gap does, from the call to the operating system.

## The length zero

A caller who gives the length zero names no position.  There is no request about no position, and
the length goes to the operating system as it is, where it means to the end.
-/

namespace ResourceContainers

/-! ## Positions -/

namespace Primitive

/-- The position and the length of a lock or a gap. -/
def range? : Primitive → Option (UInt64 × UInt64)
  | lock _ _ start length _ | release _ start length => some (start, length)
  | _ => none

/-- The length that means to the end. -/
def toEnd : UInt64 := UInt64.ofNat (UInt64.size - 1)

/-- The positions that a caller names: `length` of them from `start` on, or all from `start` on. -/
def Names (start length : UInt64) (i : Nat) : Prop :=
  start.toNat ≤ i ∧ (length = toEnd ∨ i < start.toNat + length.toNat)

/-- The operating system can represent the position and the length. -/
def Representable (start length : UInt64) : Prop :=
  start.toNat ≤ maxOffset ∧ (length = toEnd ∨ length.toNat ≤ maxOffset)

end Primitive

/-- The positions that a request sets a lock or a gap on. -/
def Request.Denotes : Request → Nat → Prop
  | lock _ _ _ start length, i => start ≤ i ∧ (length = 0 ∨ i < start + length)
  | _, _ => False

namespace Primitive

theorem toNat_ne_zero {length : UInt64} (h : length ≠ 0) : length.toNat ≠ 0 :=
  fun hzero => h (UInt64.toNat_inj.mp hzero)

theorem names_start (start : UInt64) {length : UInt64} (h : length ≠ 0) :
    Names start length start.toNat := by
  have hlength := toNat_ne_zero h
  exact ⟨Nat.le_refl _, .inr (by omega)⟩

theorem not_names_zero (start : UInt64) (i : Nat) : ¬ Names start 0 i := by
  rintro ⟨hstart, hend | hlt⟩
  · exact absurd hend (by decide)
  · exact Nat.not_lt.mpr hstart hlt

/-- A stretch that has an end is not inside a shorter one. -/
theorem length_le_of_names {start length length' : UInt64} (h : length' ≠ toEnd)
    (hnames : ∀ i, Names start length i → Names start length' i) :
    length ≠ toEnd ∧ length.toNat ≤ length'.toNat := by
  have hpast : ¬ Names start length (start.toNat + length'.toNat) := by
    intro hin
    obtain hend | hlt := (hnames _ hin).2
    · exact h hend
    · exact Nat.lt_irrefl _ hlt
  refine ⟨fun hend => hpast ⟨Nat.le_add_right _ _, .inl hend⟩, Nat.le_of_not_lt fun hlt => ?_⟩
  exact hpast ⟨Nat.le_add_right _ _, .inr (Nat.add_lt_add_left hlt _)⟩

/-- Different positions and lengths name different stretches, unless they name nothing. -/
theorem eq_of_names_iff {start length start' length' : UInt64} (h : length ≠ 0) (h' : length' ≠ 0)
    (hnames : ∀ i, Names start length i ↔ Names start' length' i) :
    start = start' ∧ length = length' := by
  have hstart : start.toNat = start'.toNat :=
    Nat.le_antisymm ((hnames _).mpr (names_start start' h')).1
      ((hnames _).mp (names_start start h)).1
  obtain rfl := UInt64.toNat_inj.mp hstart
  refine ⟨rfl, ?_⟩
  by_cases hend : length = toEnd
  · by_cases hend' : length' = toEnd
    · exact hend.trans hend'.symm
    · exact absurd hend (length_le_of_names hend' fun i => (hnames i).mp).1
  · obtain ⟨hend', hle'⟩ := length_le_of_names hend fun i => (hnames i).mpr
    obtain ⟨-, hle⟩ := length_le_of_names hend' fun i => (hnames i).mp
    exact UInt64.toNat_inj.mp (Nat.le_antisymm hle hle')

/-! ## Requests -/

/-- A lock whose numbers can be represented is a request with the same position, and with the same
length or, if it goes to the end, the length zero. -/
theorem lockRequest_of_representable (fd : Descriptor) (wait : Bool) (shared : Option Bool)
    {start length : UInt64} (h : Representable start length) :
    lockRequest fd wait shared start length =
      .ok (.lock fd wait shared start.toNat (if length = toEnd then 0 else length.toNat)) := by
  obtain ⟨hstart, hlength⟩ := h
  have hoffset : offset? start = some start.toNat := if_pos hstart
  have hnumber : lockLength? length = some (if length = toEnd then 0 else length.toNat) := by
    by_cases hend : length = toEnd
    · rw [if_pos hend]
      exact if_pos hend
    · rw [if_neg hend]
      exact (if_neg hend).trans (if_pos (hlength.resolve_left hend))
  rw [lockRequest, hoffset, hnumber]

theorem lockRequest_of_not_representable (fd : Descriptor) (wait : Bool) (shared : Option Bool)
    {start length : UInt64} (h : ¬ Representable start length) :
    lockRequest fd wait shared start length = .error (.os .invalid) := by
  unfold lockRequest
  split
  · next n n' hoffset hnumber =>
    refine absurd ⟨?_, ?_⟩ h
    · by_cases hstart : start.toNat ≤ maxOffset
      · exact hstart
      · exact absurd hoffset (by simp [offset?, hstart])
    · by_cases hend : length = toEnd
      · exact .inl hend
      · by_cases hlength : length.toNat ≤ maxOffset
        · exact .inr hlength
        · refine absurd (hnumber.symm.trans (if_neg hend)) ?_
          simp [offset?, hlength]
  · rfl

/-- **A request is about the positions that the caller names**, if the caller names any. -/
theorem denotes_iff_names (fd : Descriptor) (wait : Bool) (shared : Option Bool)
    (start : UInt64) {length : UInt64} (h : length ≠ 0) (i : Nat) :
    (Request.lock fd wait shared start.toNat
      (if length = toEnd then 0 else length.toNat)).Denotes i ↔ Names start length i := by
  have hlength := toNat_ne_zero h
  by_cases hend : length = toEnd
  · simp [Request.Denotes, Names, hend]
  · simp [Request.Denotes, Names, hend, hlength]

theorem denotes_of_zero (fd : Descriptor) (wait : Bool) (shared : Option Bool) (start i : Nat) :
    (Request.lock fd wait shared start 0).Denotes i ↔ start ≤ i := by
  simp [Request.Denotes]

/-- A lock or a gap passes no gate, and its request is one for a lock or a gap. -/
theorem request_of_range {p : Primitive} {start length : UInt64}
    (hp : p.range? = some (start, length)) :
    p.operation? = none ∧ ∃ fd wait shared,
      ∀ buffers, p.request buffers = lockRequest fd wait shared start length := by
  cases p with
  | lock fd wait start' length' shared =>
    cases hp
    exact ⟨rfl, fd, wait, some shared, fun _ => rfl⟩
  | release fd start' length' =>
    cases hp
    exact ⟨rfl, fd, false, none, fun _ => rfl⟩
  | _ => exact absurd hp (by simp [range?])

theorem request_eq_of_range {p : Primitive} {start length : UInt64}
    (hp : p.range? = some (start, length)) {buffers : List (List UInt8)} {r : Request}
    (hr : p.request buffers = .ok r) :
    ∃ fd wait shared,
      r = .lock fd wait shared start.toNat (if length = toEnd then 0 else length.toNat) := by
  obtain ⟨-, fd, wait, shared, hrequest⟩ := request_of_range hp
  rw [hrequest] at hr
  by_cases h : Representable start length
  · rw [lockRequest_of_representable fd wait shared h] at hr
    exact ⟨fd, wait, shared, (Except.ok.inj hr).symm⟩
  · rw [lockRequest_of_not_representable fd wait shared h] at hr
    exact absurd hr (by simp)

theorem perform_of_range {p : Primitive} {start length : UInt64}
    (hp : p.range? = some (start, length)) (m : Metrics) (active : Option Conduct)
    {st : FileState} {r : Request} (hr : p.request st.buffers = .ok r) :
    p.perform m active st = ⟨.returned (p.carryOut r st).1, m, (p.carryOut r st).2⟩ := by
  simp [perform, hr, (request_of_range hp).1]

end Primitive

/-! ## Gaps -/

/-- A lock of a mode is on a position. -/
structure RecordLock.Covers (l : RecordLock) (shared : Bool) (i : Nat) : Prop where
  mode : l.shared = shared
  first : l.stretch.first ≤ i
  last : i ≤ l.stretch.last

/-- What is left of a lock outside a stretch is on all positions outside that the lock was on. -/
theorem RecordLock.Covers.outside {l : RecordLock} {shared : Bool} {i : Nat}
    (h : l.Covers shared i) {s : Stretch} (hi : i < s.first ∨ s.last < i) :
    ∃ l' ∈ RecordLock.outside s l, l'.Covers shared i := by
  obtain ⟨hmode, hfirst, hlast⟩ := h
  unfold RecordLock.outside
  split
  · obtain hbefore | hafter := hi
    · refine ⟨⟨l.shared, ⟨l.stretch.first, s.first - 1⟩⟩, ?_, hmode, hfirst,
        Nat.le_sub_one_of_lt hbefore⟩
      exact List.mem_append_left _ (by simp [Nat.lt_of_le_of_lt hfirst hbefore])
    · refine ⟨⟨l.shared, ⟨s.last + 1, l.stretch.last⟩⟩, ?_, hmode, hafter, hlast⟩
      exact List.mem_append_right _ (by simp [Nat.lt_of_lt_of_le hafter hlast])
  · exact ⟨l, List.mem_singleton_self l, hmode, hfirst, hlast⟩

/-- What a request is not about is outside the stretch that it sets. -/
theorem outside_of_not_denotes {start length : Nat} {stretch : Stretch}
    (h : Stretch.ofLength? start length = some stretch) {fd : Descriptor} {wait : Bool}
    {shared : Option Bool} {i : Nat} (hi : ¬ (Request.lock fd wait shared start length).Denotes i) :
    i < stretch.first ∨ stretch.last < i := by
  have hi' : i < start ∨ (length ≠ 0 ∧ start + length ≤ i) := by
    simp only [Request.Denotes] at hi
    omega
  unfold Stretch.ofLength? at h
  split at h
  · next hzero =>
    cases h
    exact .inl (hi'.resolve_right fun hpast => hpast.1 hzero)
  · split at h
    · cases h
      exact hi'.imp_right fun hpast => Nat.lt_of_lt_of_le (by dsimp only; omega) hpast.2
    · exact absurd h (by simp)

namespace System

/-- This process has a lock of a mode on a position of an object. -/
def Holds (s : System) (o : Nat) (shared : Bool) (i : Nat) : Prop :=
  ∃ l ∈ (s.object o).ours, l.Covers shared i

/-- A lock stays on a position when the locks of an object change to others that are on the position
too. -/
theorem Holds.setOurs {s : System} {o : Nat} {shared : Bool} {i : Nat} (h : s.Holds o shared i)
    {o' : Nat} {locks : List RecordLock}
    (hlocks : ∀ l ∈ (s.object o').ours, l.Covers shared i → ∃ l' ∈ locks, l'.Covers shared i) :
    (s.setOurs o' locks).Holds o shared i := by
  obtain ⟨l, hl, hcovers⟩ := h
  unfold Holds object System.setOurs
  simp only [Array.getD_eq_getD_getElem?, Array.getElem?_modify]
  by_cases hsame : o' = o
  · subst hsame
    cases hobject : s.objects[o']? with
    | none =>
      have hnone : (s.object o').ours = [] := by
        rw [object, Array.getD_eq_getD_getElem?, hobject]
        rfl
      exact absurd hl (by simp [hnone])
    | some x => simpa using hlocks l hl hcovers
  · rw [if_neg hsame]
    rw [object, Array.getD_eq_getD_getElem?] at hl
    exact ⟨l, hl, hcovers⟩

/-- A request for a gap leaves the locks on all positions that it is not about, whatever becomes of
it. -/
theorem Holds.issue_gap {s : System} {o : Nat} {shared : Bool} {i : Nat} (h : s.Holds o shared i)
    {fd : Descriptor} {wait : Bool} {start length : Nat}
    (hi : ¬ (Request.lock fd wait none start length).Denotes i) :
    (s.issue (.lock fd wait none start length)).2.Holds o shared i := by
  unfold issue
  dsimp only
  split
  · exact h
  cases hserve : ({ s with requests := .lock fd wait none start length :: s.requests } :
      System).serve (.lock fd wait none start length) with
  | error e => exact h
  | ok result =>
    obtain ⟨y, s'⟩ := result
    unfold serve at hserve
    split at hserve
    · exact absurd hserve (by simp)
    simp only [serveOpen] at hserve
    obtain ⟨stretch, hstretch, rfl⟩ := serveLock_ok hserve
    refine Holds.setOurs h fun l hl hcovers => ?_
    obtain ⟨l', hl', hcovers'⟩ := hcovers.outside (outside_of_not_denotes hstretch hi)
    exact ⟨l', List.mem_flatMap.mpr ⟨l, hl, hl'⟩, hcovers'⟩

end System

namespace Primitive

/-- **What a lock or a gap is about.**

Take a lock, shared or not, whose caller waits or does not, or a gap, with any position and length.
If both can be represented, then the operating system gets one request, over and over as long as it
is interrupted, and the request is about the positions that the caller names, exactly if the length
is not zero.  For the length zero it is about everything from the position on.  If one of the
numbers cannot be represented, then the caller gets the failure of an invalid argument, and nothing
happens.  Requests that come from different numbers, neither of them with the length zero, are about
different positions.  And a gap whose length is not zero gives up no lock on any position that the
caller does not name. -/
theorem lock_range {p : Primitive} {start length : UInt64} (hp : p.range? = some (start, length))
    (m : Metrics) (active : Option Conduct) (st : FileState) :
    (Representable start length → ∃ r n, p.request st.buffers = .ok r ∧
      (p.perform m active st).state.system.requests =
        List.replicate (n + 1) r ++ st.system.requests ∧
      ((∀ i, r.Denotes i ↔ Names start length i) ↔ length ≠ 0) ∧
      (length = 0 → ∀ i, r.Denotes i ↔ start.toNat ≤ i)) ∧
    (¬ Representable start length →
      p.perform m active st = ⟨.returned (.error (.os .invalid)), m, st⟩) ∧
    (length ≠ 0 → ∀ (p' : Primitive) (start' length' : UInt64) (r r' : Request),
      p'.range? = some (start', length') → length' ≠ 0 →
      p.request st.buffers = .ok r → p'.request st.buffers = .ok r' →
      (∀ i, r.Denotes i ↔ r'.Denotes i) → start = start' ∧ length = length') ∧
    (length ≠ 0 → ∀ fd, p = .release fd start length → ∀ o shared i, ¬ Names start length i →
      st.system.Holds o shared i → (p.perform m active st).state.system.Holds o shared i) := by
  obtain ⟨-, fd, wait, shared, hrequest⟩ := request_of_range hp
  refine ⟨fun h => ?_, fun h => ?_, ?_, ?_⟩
  · have hr := (hrequest st.buffers).trans (lockRequest_of_representable fd wait shared h)
    obtain ⟨n, hrequests⟩ := requests_carryOut p _ st
    refine ⟨_, n, hr, ?_, ⟨fun hiff hzero => ?_, fun hlength i => ?_⟩, ?_⟩
    · rw [perform_of_range hp m active hr]
      exact hrequests
    · subst hzero
      exact not_names_zero start _
        ((hiff start.toNat).mp ((denotes_of_zero fd wait shared _ _).mpr (Nat.le_refl _)))
    · exact denotes_iff_names fd wait shared start hlength i
    · rintro rfl i
      exact denotes_of_zero fd wait shared _ i
  · simp [perform, hrequest, lockRequest_of_not_representable fd wait shared h]
  · intro hlength p' start' length' r r' hp' hlength' hr hr' hdenotes
    obtain ⟨_, _, _, rfl⟩ := request_eq_of_range hp hr
    obtain ⟨_, _, _, rfl⟩ := request_eq_of_range hp' hr'
    refine eq_of_names_iff hlength hlength' fun i => ?_
    rw [← denotes_iff_names _ _ _ _ hlength, hdenotes, denotes_iff_names _ _ _ _ hlength']
  · rintro hlength fd' rfl o mode i hi hholds
    by_cases h : Representable start length
    · have hr := lockRequest_of_representable fd' false none h
      rw [perform_of_range hp m active hr]
      show ((release fd' start length).carryOut _ st).2.system.Holds o mode i
      rw [system_carryOut]
      exact hholds.issue_gap fun hin => hi ((denotes_iff_names _ _ _ _ hlength i).mp hin)
    · simpa [perform, request, lockRequest_of_not_representable fd' false none h] using hholds

/-- A new file with a lock on its first ten bytes. -/
def lockedFile : FileState :=
  ((lock 0 false 0 10 false).perform .zero none ⟨(System.empty.openFile []).1, []⟩).state

/-- A gap in the middle of a lock, and a lock that is too far out. -/
theorem lock_range_middle :
    (∃ r n, (release 0 4 2).request [] = .ok r ∧
      ((release 0 4 2).perform .zero none lockedFile).state.system.requests =
        List.replicate (n + 1) r ++ lockedFile.system.requests ∧
      ∀ i, r.Denotes i ↔ Names 4 2 i) ∧
    (lock 0 true 9223372036854775808 1 true).perform .zero none lockedFile =
      ⟨.returned (.error (.os .invalid)), .zero, lockedFile⟩ ∧
    lockedFile.system.Holds 0 false 6 ∧
    ((release 0 4 2).perform .zero none lockedFile).state.system.Holds 0 false 6 := by
  have hholds : lockedFile.system.Holds 0 false 6 :=
    ⟨⟨false, ⟨0, 9⟩⟩, List.mem_singleton_self _, rfl, by decide, by decide⟩
  have hrepresentable : Representable 4 2 := ⟨by decide, .inr (by decide)⟩
  have hfar : ¬ Representable 9223372036854775808 1 := fun h => absurd h.1 (by decide)
  have hunnamed : ¬ Names 4 2 6 := by
    unfold Names
    decide
  obtain ⟨hsent, -, -, hkept⟩ := lock_range (p := release 0 4 2) rfl .zero none lockedFile
  obtain ⟨-, hrefused, -⟩ :=
    lock_range (p := lock 0 true 9223372036854775808 1 true) rfl .zero none lockedFile
  obtain ⟨r, n, hr, hrequests, hdenotes, -⟩ := hsent hrepresentable
  exact ⟨⟨r, n, hr, hrequests, hdenotes.mpr (by decide)⟩, hrefused hfar, hholds,
    hkept (by decide) 0 rfl 0 false 6 hunnamed hholds⟩

end Primitive

namespace Session

/-- A session that locks the first ten bytes of a new file, asks for a gap of no bytes after the
first four, and looks whether a stranger could lock the seventh byte. -/
def emptyGap : List (Surroundings × Command Unit) :=
  [(.plain, .openFile "f" []), (.plain, .file "f" [] (.lock · false 0 10 false)),
    (.plain, .file "f" [] (.release · 4 0)), (.plain, .probe "f" false 6 1)]

/-- **A gap of no bytes gives up locks**, and a caller who names no byte is not told that there is
no such request. -/
theorem empty_gap_frees :
    ((start false).runAll emptyGap).map (·.1) =
        [.done, .performed (.returned (.ok .acquired)) [],
          .performed (.returned (.ok .nothing)) [], .free] ∧
      ∀ i, ¬ Primitive.Names 4 0 i :=
  ⟨rfl, Primitive.not_names_zero 4⟩

end Session

end ResourceContainers
