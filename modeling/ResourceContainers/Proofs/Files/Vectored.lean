import ResourceContainers.Proofs.Files.Interruptions
import ResourceContainers.Proofs.Files.Joining
import ResourceContainers.Proofs.Io.Answers

/-!
# Vectored transfers

A vectored read fills several buffers with one request, and a vectored write empties several; at
most 1024 of them take part.  On an operating system that joins buffers, the caller of a vectored
primitive gets what a plain one gives for the joined buffers, however many bytes the operating
system cares to transfer.

* `scatter`: `flatten_scatter`, `take_scatter` and `drop_scatter` say what it does to the buffers.
* `FilledWith`: data that went into buffers in order.
* `Primitive.performOn_asGood`: primitives whose requests are answered alike.
* `Primitive.VectoredAsPlain`, `Primitive.vectored_eq_plain`: the main statement.

## Where a transfer may end

A short transfer ends anywhere: inside a buffer, at the end of one, or before a few that are empty.
Nothing depends on it once the buffers are joined, so `scatter` is only ever looked at through
`List.flatten`, which with the lengths of the buffers determines each of them.
-/

namespace ResourceContainers

/-! ## Filling buffers -/

theorem scatter_nil (buffers : List (List UInt8)) : scatter buffers [] = buffers := by
  induction buffers with
  | nil => rfl
  | cons b bs ih => rw [scatter, List.take_nil, List.drop_nil, ih]; rfl

theorem map_length_scatter (buffers : List (List UInt8)) (data : List UInt8) :
    (scatter buffers data).map List.length = buffers.map List.length := by
  induction buffers generalizing data with
  | nil => rfl
  | cons b bs ih =>
    have hlength : (data.take b.length ++ b.drop data.length).length = b.length := by
      rw [List.length_append, List.length_take, List.length_drop]
      omega
    rw [scatter, List.map_cons, List.map_cons, hlength, ih]

/-- **Buffers are filled in order**: joined, they start with the data and go on as they were. -/
theorem flatten_scatter {buffers : List (List UInt8)} {data : List UInt8}
    (h : data.length ≤ buffers.flatten.length) :
    (scatter buffers data).flatten = data ++ buffers.flatten.drop data.length := by
  induction buffers generalizing data with
  | nil =>
    obtain rfl : data = [] := List.eq_nil_of_length_eq_zero (Nat.le_zero.mp h)
    rfl
  | cons b bs ih =>
    rw [List.flatten_cons, List.length_append] at h
    have hrest : (data.drop b.length).length ≤ bs.flatten.length := by
      rw [List.length_drop]
      omega
    rw [scatter, List.flatten_cons, ih hrest, List.flatten_cons, List.length_drop,
      List.drop_append, List.append_assoc]
    -- Either the data ends inside the first buffer, or the first buffer is used up.
    obtain hle | hle := Nat.le_total data.length b.length
    · rw [List.take_of_length_le hle, List.drop_of_length_le hle,
        Nat.sub_eq_zero_of_le hle, List.nil_append]
    · rw [List.drop_of_length_le hle, List.nil_append, List.nil_append, ← List.append_assoc,
        List.take_append_drop]

theorem take_scatter (n : Nat) (buffers : List (List UInt8)) (data : List UInt8) :
    (scatter buffers data).take n = scatter (buffers.take n) data := by
  induction buffers generalizing n data with
  | nil => simp [scatter]
  | cons b bs ih =>
    cases n with
    | zero => rfl
    | succ n => rw [scatter, List.take_succ_cons, ih, List.take_succ_cons, scatter]

theorem drop_scatter (n : Nat) (buffers : List (List UInt8)) (data : List UInt8) :
    (scatter buffers data).drop n =
      scatter (buffers.drop n) (data.drop (buffers.take n).flatten.length) := by
  induction buffers generalizing n data with
  | nil => simp [scatter]
  | cons b bs ih =>
    cases n with
    | zero => rfl
    | succ n =>
      rw [scatter, List.drop_succ_cons, ih, List.drop_succ_cons, List.drop_drop,
        List.take_succ_cons, List.flatten_cons, List.length_append]

theorem scatter_singleton {b data : List UInt8} (h : data.length ≤ b.length) :
    scatter [b] data = [data ++ b.drop data.length] := by
  rw [scatter, List.take_of_length_le h]
  rfl

/-- Data went into the first 1024 of some buffers in order, and everything else in them stayed. -/
structure FilledWith (data : List UInt8) (buffers filled : List (List UInt8)) : Prop where
  fits : data.length ≤ (buffers.take maxBuffers).flatten.length
  content : (filled.take maxBuffers).flatten =
    data ++ (buffers.take maxBuffers).flatten.drop data.length
  lengths : filled.map List.length = buffers.map List.length
  beyond : filled.drop maxBuffers = buffers.drop maxBuffers

theorem filledWith_nil (buffers : List (List UInt8)) : FilledWith [] buffers buffers :=
  ⟨Nat.zero_le _, rfl, rfl, rfl⟩

theorem filledWith_scatter {data : List UInt8} {buffers : List (List UInt8)}
    (h : data.length ≤ (buffers.take maxBuffers).flatten.length) :
    FilledWith data buffers (scatter buffers data) where
  fits := h
  content := by rw [take_scatter, flatten_scatter h]
  lengths := map_length_scatter buffers data
  beyond := by rw [drop_scatter, List.drop_of_length_le h, scatter_nil]

/-! ## What callers get -/

theorem Gate.ok_of_closing {α : Type} {result : Except IoError α} {active : Option Conduct}
    {v : α} (h : (closing result active).ending = .returned (.ok v)) :
    result = .ok v ∧ Runs active := by
  cases active with
  | none => exact ⟨Ending.returned.inj h, nofun⟩
  | some c =>
    obtain ⟨-, hgiven⟩ := closeOffloaded_ok h
    split at hgiven
    · next hc =>
      refine ⟨Option.some.inj hgiven, ?_⟩
      rintro _ ⟨⟩
      exact hc
    · exact absurd hgiven (by simp)

namespace Primitive

variable {σ σ' : Type}

/-- A primitive that passes the gate, given what its request brought. -/
theorem performOn_of_gated {p : Primitive} {K : Kernel σ} {patience : σ → Nat}
    {buffers : List (List UInt8)} {r : Request} (hr : p.request buffers = .ok r)
    (hgated : p.operation?.isSome = true) (m : Metrics) (active : Option Conduct) (s : σ) :
    p.performOn K patience buffers m active s =
      (Gate.closing (p.answer (p.submitOn K (patience s) r s).1) active).dispatched m
        (Gate.left s (p.submitOn K (patience s) r s).2 active) := by
  simp only [performOn, hr, if_pos hgated]
  exact Gate.dispatch_eq_of_result m active fun _ => rfl

/-- Two primitives come to the same: their callers, their counters and what is left of their
states. -/
structure AsGood (R : σ → σ' → Prop) (d : Dispatched σ Value) (d' : Dispatched σ' Value) :
    Prop where
  ending : d.ending = d'.ending
  metrics : d.metrics = d'.metrics
  state : R d.state d'.state

/-- Primitives whose requests are answered alike come to the same. -/
theorem performOn_asGood {p p' : Primitive} {K : Kernel σ} {K' : Kernel σ'} {r r' : Request}
    {R : σ → σ' → Prop} {buffers buffers' : List (List UInt8)} {patience : σ → Nat}
    {patience' : σ' → Nat} {s : σ} {s' : σ'} (h : K.Alike r K' r' R)
    (hr : p.request buffers = .ok r) (hr' : p'.request buffers' = .ok r')
    (hgated : p.operation?.isSome = p'.operation?.isSome) (hpersists : p.persists = p'.persists)
    (hanswer : ∀ out, p.answer out = p'.answer out) (hpatience : patience s = patience' s')
    (hs : R s s') (m : Metrics) (active : Option Conduct) :
    AsGood R (p.performOn K patience buffers m active s)
      (p'.performOn K' patience' buffers' m active s') := by
  obtain ⟨hout, hstate⟩ := h.submitOn hpersists (patience s) hs
  cases hg : p.operation?.isSome with
  | true =>
    rw [performOn_of_gated hr hg, performOn_of_gated hr' (hgated ▸ hg), ← hpatience, ← hanswer,
      ← hout]
    refine ⟨rfl, rfl, ?_⟩
    by_cases hruns : Gate.Runs active
    · simpa only [Gate.Closing.dispatched, Gate.left_of_runs hruns] using hstate
    · simpa only [Gate.Closing.dispatched, Gate.left_of_not_runs hruns] using hs
  | false =>
    have hg' : p'.operation?.isSome = false := hgated ▸ hg
    simp only [performOn, hr, hr', hg, hg', asCallOn, ← hpatience, ← hout, hanswer]
    exact ⟨rfl, rfl, hstate⟩

/-- What a primitive does to files and to the buffers of its caller, which are kept apart. -/
def performApart (p : Primitive) (m : Metrics) (active : Option Conduct) (s : System)
    (buffers : List (List UInt8)) : Dispatched (System × List (List UInt8)) Value :=
  let d := p.perform m active ⟨s, buffers⟩
  ⟨d.ending, d.metrics, d.state.system, d.state.buffers⟩

/-- A primitive on files and pipes is one on an operating system that fills buffers. -/
theorem performApart_eq (p : Primitive) (m : Metrics) (active : Option Conduct) (s : System)
    (buffers : List (List UInt8)) :
    p.performApart m active s buffers =
      p.performOn System.asKernel.filling (·.1.faults.length) buffers m active (s, buffers) := by
  unfold performApart
  rw [perform_eq_performOn]
  cases hr : p.request buffers with
  | error e => simp only [performOn, hr]
  | ok r =>
    have halike : FileState.kernel.Alike r System.asKernel.filling r
        fun st x => (st.system, st.buffers) = x := by
      rintro st _ rfl
      exact ⟨rfl, rfl⟩
    have hgood : AsGood (fun st x => (st.system, st.buffers) = x)
        (p.performOn FileState.kernel FileState.patience buffers m active ⟨s, buffers⟩)
        (p.performOn System.asKernel.filling (·.1.faults.length) buffers m active (s, buffers)) :=
      performOn_asGood halike hr hr rfl rfl (fun _ => rfl) rfl rfl m active
    obtain ⟨hending, hmetrics, hstate⟩ := hgood
    dsimp only
    rw [hending, hmetrics, hstate]

/-! ## Vectored and plain primitives -/

/-- A vectored read comes to the same as a plain one into a single buffer, and fills its buffers
with the bytes that went into that one.  A value that the caller gets is their number. -/
structure ReadAsPlain (Same : σ → σ → Prop) (buffers : List (List UInt8)) (single : List UInt8)
    (d d' : Dispatched (σ × List (List UInt8)) Value) : Prop
    extends AsGood (fun x y => Same x.1 y.1) d d' where
  filled : ∃ data, d'.state.2 = [data ++ single.drop data.length] ∧
    FilledWith data buffers d.state.2 ∧
    ∀ v, d.ending = .returned (.ok v) → v = .number data.length

/-- Vectored primitives on some buffers come to the same as plain ones on the first 1024 of them, if
those are joined. -/
structure VectoredAsPlain (Same : σ → σ → Prop)
    (run : Primitive → σ → List (List UInt8) → Dispatched (σ × List (List UInt8)) Value)
    (fd : Descriptor) (buffers : List (List UInt8)) (s t : σ) : Prop where
  writev : ∀ others, AsGood (fun x y => Same x.1 y.1 ∧ x.2 = y.2)
    (run (.writev fd buffers) s others) (run (.write fd (buffers.take maxBuffers).flatten) t others)
  readv : ∀ single, single.length = (buffers.take maxBuffers).flatten.length →
    ReadAsPlain Same buffers single (run (.readv fd) s buffers) (run (.read fd) t [single])

variable {K : Kernel σ} {fd : Descriptor} {Same : σ → σ → Prop} {s t : σ}

theorem answer_writev (fd : Descriptor) (buffers : List (List UInt8)) (data : List UInt8)
    (out : Except Errno Yield) : (writev fd buffers).answer out = (write fd data).answer out := by
  cases out with
  | ok y => cases y <;> rfl
  | error e => rfl

theorem answer_readv (out : Except Errno Yield) : (readv fd).answer out = (read fd).answer out := by
  cases out with
  | ok y => cases y <;> rfl
  | error e => rfl

theorem foldr_length (buffers : List (List UInt8)) :
    (buffers.map List.length).foldr (· + ·) 0 = buffers.flatten.length := by
  induction buffers with
  | nil => rfl
  | cons b bs ih => rw [List.map_cons, List.foldr_cons, ih, List.flatten_cons, List.length_append]

/-- What a read brought is in the buffers, and its length is the value. -/
theorem exists_filled (fd : Descriptor) {out : Except Errno Yield} {single : List UInt8}
    {buffers : List (List UInt8)}
    (hsingle : single.length = (buffers.take maxBuffers).flatten.length)
    (hbrings : ∀ y, out = .ok y → ∃ data, y = .bytes data ∧ data.length ≤ single.length) :
    ∃ data, FileState.fill [single] out = [data ++ single.drop data.length] ∧
      FilledWith data buffers (FileState.fill buffers out) ∧
      ∀ v, (read fd).answer out = .ok v → v = .number data.length := by
  cases out with
  | ok y =>
    obtain ⟨data, rfl, hfits⟩ := hbrings y rfl
    exact ⟨data, scatter_singleton hfits, filledWith_scatter (hsingle ▸ hfits),
      fun v hv => (Except.ok.inj hv).symm⟩
  | error e => exact ⟨[], rfl, filledWith_nil buffers, fun v hv => absurd hv nofun⟩

/-- **Vectored primitives are plain ones on joined buffers**, if the operating system joins them. -/
theorem vectoredAsPlain (hK : K.Joins fd Same) (patience : σ → Nat)
    (hpatience : ∀ s t, Same s t → patience s = patience t) (hs : Same s t) (m : Metrics)
    (active : Option Conduct) (buffers : List (List UInt8)) :
    VectoredAsPlain Same
      (fun p s buffers => p.performOn K.filling (patience ·.1) buffers m active (s, buffers))
      fd buffers s t where
  writev others := by
    have halike := (hK.writev (buffers.take maxBuffers) (List.length_take_le ..)).filling
    have hanswer := answer_writev fd buffers (buffers.take maxBuffers).flatten
    refine performOn_asGood halike ?_ ?_ ?_ ?_ hanswer ?_ ?_ m active
    · rfl
    · rfl
    · rfl
    · rfl
    · exact hpatience s t hs
    · exact ⟨hs, rfl⟩
  readv single hsingle := by
    let counts := (buffers.take maxBuffers).map List.length
    have hcounts : K.Alike (.readv fd counts) K (.read fd single.length) Same := by
      rw [hsingle, ← foldr_length]
      exact hK.readv counts (by rw [List.length_map]; exact List.length_take_le ..)
    have hread : (read fd).request [single] = .ok (.read fd single.length) := by
      rw [request, List.flatten_singleton]
    have hpersists : (readv fd).persists = (read fd).persists := rfl
    obtain ⟨hout, hstate⟩ := hcounts.submitOn hpersists (patience s) hs
    obtain ⟨data, hone, hfilled, hvalue⟩ := exists_filled fd hsingle fun y hy =>
      hK.submitOn_brings (p := read fd) (n := patience s) (s := t) hy
    rw [performOn_of_gated (r := .readv fd counts) rfl rfl, performOn_of_gated hread rfl,
      Kernel.submitOn_filling, Kernel.submitOn_filling, ← hpatience s t hs, answer_readv, hout]
    -- The request was made if the adapter called its work.  If not, no byte went anywhere.
    by_cases hruns : Gate.Runs active
    · rw [Gate.left_of_runs hruns, Gate.left_of_runs hruns]
      exact ⟨⟨rfl, rfl, hstate⟩, data, hone, hfilled,
        fun v hv => hvalue v (Gate.ok_of_closing hv).1⟩
    · rw [Gate.left_of_not_runs hruns, Gate.left_of_not_runs hruns]
      exact ⟨⟨rfl, rfl, hs⟩, [], rfl, filledWith_nil buffers,
        fun v hv => absurd (Gate.ok_of_closing hv).2 hruns⟩

/-- **Vectored transfers equal plain ones on the joined buffers.**

Take any operating system that joins the buffers of a request, however many bytes it transfers and
however often it interrupts, and any buffers: none, more than 1024, some of them empty.  A vectored
write gives what a write of the first 1024 of them in a row gives, and leaves the same.  A vectored
read gives what a read into a single buffer gives that is as long as those 1024 together, and leaves
the same.  The bytes that went into the single buffer fill the first 1024 buffers in order.  All
bytes behind them and all other buffers stay as they were, and what the caller gets is how many
bytes those are.  All this is so through any gate, with any adapter or none.

The operating system of this library joins buffers, so on its files there is nothing to assume. -/
theorem vectored_eq_plain {K : Kernel σ} {fd : Descriptor} {Same : σ → σ → Prop}
    (hK : K.Joins fd Same) (patience : σ → Nat)
    (hpatience : ∀ s t, Same s t → patience s = patience t) (m : Metrics)
    (active : Option Conduct) (buffers : List (List UInt8)) :
    (∀ s t, Same s t →
      VectoredAsPlain Same
        (fun p s buffers => p.performOn K.filling (patience ·.1) buffers m active (s, buffers))
        fd buffers s t) ∧
    ∀ (fd' : Descriptor) (s : System),
      VectoredAsPlain System.SameFiles (fun p s buffers => p.performApart m active s buffers)
        fd' buffers s s := by
  refine ⟨fun s t hs => vectoredAsPlain hK patience hpatience hs m active buffers, fun fd' s => ?_⟩
  have hapart := vectoredAsPlain (System.joins_asKernel fd') (·.faults.length)
    (fun _ _ h => congrArg List.length h.faults_eq) (System.SameFiles.refl s) m active buffers
  constructor
  · intro others
    rw [performApart_eq, performApart_eq]
    exact hapart.writev others
  · intro single hsingle
    rw [performApart_eq, performApart_eq]
    exact hapart.readv single hsingle

/-- An operating system with one stream of bytes that transfers three bytes at most, and no more
than 1024 buffers. -/
def threeBytes : Kernel (List UInt8)
  | .read _ count, s => (.ok (.bytes (s.take (min 3 count))), s.drop (min 3 count))
  | .readv _ counts, s =>
    let count := counts.foldr (· + ·) 0
    if counts.length ≤ maxBuffers then
      (.ok (.bytes (s.take (min 3 count))), s.drop (min 3 count))
    else (.error .invalid, s)
  | .write _ data, s => (.ok (.number (min 3 data.length)), s ++ data.take 3)
  | .writev _ buffers, s =>
    if buffers.length ≤ maxBuffers then
      (.ok (.number (min 3 buffers.flatten.length)), s ++ buffers.flatten.take 3)
    else (.error .invalid, s)
  | _, s => (.error .invalid, s)

theorem joins_threeBytes (fd : Descriptor) : threeBytes.Joins fd (· = ·) where
  readv counts hcounts := by
    rintro s _ rfl
    simp [threeBytes, hcounts]
  writev buffers hbuffers := by
    rintro s _ rfl
    simp [threeBytes, hbuffers]
  brings count s y hy := by
    obtain rfl := Except.ok.inj hy
    exact ⟨_, rfl, by rw [List.length_take]; omega⟩

/-- Through an adapter that calls its work twice, three of five bytes go into four buffers, two of
which are empty, and three of four bytes are written. -/
theorem vectored_eq_plain_threeBytes :
    let read := (readv 1).performOn threeBytes.filling (fun _ => 0) [[], [0, 0], [], [0, 9]] .zero
      (some .twice) ([1, 2, 3, 4, 5], [[], [0, 0], [], [0, 9]])
    let written := (writev 1 [[6], [], [7, 8, 9]]).performOn threeBytes.filling (fun _ => 0) []
      .zero (some .twice) ([], [])
    read.ending = .returned (.ok (.number 3)) ∧ read.state = ([4, 5], [[], [1, 2], [], [3, 9]]) ∧
      written.ending = .returned (.ok (.number 3)) ∧ written.state.1 = [6, 7, 8] := by
  have hfirst := (vectored_eq_plain (joins_threeBytes 1) (fun _ => 0)
    (fun _ _ _ => rfl) .zero (some .twice) [[], [0, 0], [], [0, 9]]).1 [1, 2, 3, 4, 5] _ rfl
  have hsecond := (vectored_eq_plain (joins_threeBytes 1) (fun _ => 0)
    (fun _ _ _ => rfl) .zero (some .twice) [[6], [], [7, 8, 9]]).1 [] _ rfl
  have hread := hfirst.readv [0, 0, 0, 0] rfl
  have hwrite := hsecond.writev []
  exact ⟨hread.ending, rfl, hwrite.ending, hwrite.state.1⟩

end Primitive

end ResourceContainers
