import UdxFastpath.Dpdk.FwdConfig
import Mathlib.Data.List.Nodup

/-!
# Which core polls which queue

A core runs through the streams of its range and a stream is a receive queue.  With
equally many queues in either direction, one process and every port looped back to
itself, the ranges cut the streams into parts and the streams are the pairs of port and
queue: every queue is polled by exactly one core, and answered on itself
(`eachQueue_polled_once`).
-/

namespace UdxFastpath.Dpdk

open Dealing

/-- The core `c` polls the queue `rxQueue` of the port `rxPort`. -/
def FwdConfig.PollsQueue (cfg : FwdConfig) (c rxPort rxQueue : ℕ) : Prop :=
  ∃ (r : LcoreRange) (n : ℕ) (fs : StreamConfig), cfg.lcores[c]? = some r ∧ r.Polls n ∧
    cfg.streams[n]? = some fs ∧ fs.rxPort = rxPort ∧ fs.rxQueue = rxQueue

/-- **Every queue is polled by exactly one core.**  The ranges of the active cores are not
empty, pairwise disjoint and together all streams; the streams are the pairs of port and queue,
each once; and what is received from a queue is sent on it. -/
structure EachQueueOnce (cfg : FwdConfig) (ids : List ℕ) (Q : ℕ) : Prop where
  active : cfg.lcores.length = cfg.nbFwdLcores
  nonempty : ∀ r ∈ cfg.lcores, 0 < r.streamNb
  disjoint : ∀ (c c' : ℕ) (r r' : LcoreRange), cfg.lcores[c]? = some r →
    cfg.lcores[c']? = some r' → c ≠ c' → ∀ n, ¬ (r.Polls n ∧ r'.Polls n)
  allStreams : ∀ n, (∃ r ∈ cfg.lcores, r.Polls n) ↔ n < cfg.nbFwdStreams
  streams : cfg.streams.length = cfg.nbFwdStreams
  configured : ∀ fs ∈ cfg.streams, fs.rxPort ∈ ids ∧ fs.rxQueue < Q
  oneStream : ∀ port ∈ ids, ∀ queue < Q,
    ∃! n : ℕ, ∃ fs : StreamConfig, cfg.streams[n]? = some fs ∧ fs.rxPort = port ∧
      fs.rxQueue = queue
  loopedBack : ∀ fs ∈ cfg.streams, fs.txPort = fs.rxPort ∧ fs.txQueue = fs.rxQueue
  oneCore : ∀ port ∈ ids, ∀ queue < Q, ∃! c, cfg.PollsQueue c port queue

/-! ## Ranges -/

section Ranges

variable {nbFs nbFc : ℕ}

theorem length_assignStreams (per : ℕ) :
    ∀ n smId, (assignStreams per n smId).1.length = n := by
  intro n
  induction n with
  | zero => intro smId; rfl
  | succ n ih => intro smId; simp only [assignStreams, List.length_cons, ih]

/-- Every active core has a range. -/
theorem length_setupFwdConfigOfEachLcore (hpos : 0 < nbFc) :
    (setupFwdConfigOfEachLcore nbFs nbFc).length = nbFc := by
  have hmod := Nat.mod_lt nbFs hpos
  simp only [setupFwdConfigOfEachLcore, List.length_append, length_assignStreams]
  split <;> omega

variable (hpos : 0 < nbFc) (hle : nbFc ≤ nbFs) (hlt : nbFs < 65536)

include hpos hle in
/-- The cuts between the ranges are in strict order. -/
theorem cuts_strictMono : StrictMono (dealt (nbFs / nbFc) (fewLcores nbFs nbFc)) :=
  dealt_strictMono (Nat.div_pos hle hpos)

include hpos hle hlt in
/-- No range is empty. -/
theorem streamNb_pos {r : LcoreRange} (h : r ∈ setupFwdConfigOfEachLcore nbFs nbFc) :
    0 < r.streamNb := by
  have hshare := Nat.div_pos hle hpos
  obtain ⟨c, hget⟩ := List.mem_iff_getElem?.mp h
  rw [setupFwdConfigOfEachLcore_eq hpos hle hlt] at hget
  split at hget
  · obtain rfl := Option.some.inj hget
    dsimp only
    split <;> omega
  · cases hget

include hpos hle hlt in
/-- No stream is in two ranges. -/
theorem ranges_disjoint {c c' : ℕ} {r r' : LcoreRange}
    (hr : (setupFwdConfigOfEachLcore nbFs nbFc)[c]? = some r)
    (hr' : (setupFwdConfigOfEachLcore nbFs nbFc)[c']? = some r') (hne : c ≠ c') (n : ℕ) :
    ¬ (r.Polls n ∧ r'.Polls n) := by
  rintro ⟨hpolls, hpolls'⟩
  have hpart := (polls_iff_part hpos hle hlt c n).mp ⟨r, hr, hpolls⟩
  have hpart' := (polls_iff_part hpos hle hlt c' n).mp ⟨r', hr', hpolls'⟩
  exact hne (hpart.2.unique (cuts_strictMono hpos hle).monotone hpart'.2)

include hpos hle hlt in
/-- The ranges are all streams. -/
theorem ranges_cover (n : ℕ) :
    (∃ (c : ℕ) (r : LcoreRange), (setupFwdConfigOfEachLcore nbFs nbFc)[c]? = some r ∧ r.Polls n) ↔
      n < nbFs := by
  have htotal : dealt (nbFs / nbFc) (fewLcores nbFs nbFc) nbFc = nbFs := dealt_total hpos
  constructor
  · rintro ⟨c, r, hr, hpolls⟩
    obtain ⟨hc, hpart⟩ := (polls_iff_part hpos hle hlt c n).mp ⟨r, hr, hpolls⟩
    have hcut := (cuts_strictMono hpos hle).monotone (show c + 1 ≤ nbFc from hc)
    exact Nat.lt_of_lt_of_le hpart.2 (hcut.trans_eq htotal)
  · intro hn
    obtain ⟨c, hc, hpart⟩ := exists_inPart (by simp [dealt]) nbFc (hn.trans_eq htotal.symm)
    obtain ⟨r, hr, hpolls⟩ := (polls_iff_part hpos hle hlt c n).mpr ⟨hc, hpart⟩
    exact ⟨c, r, hr, hpolls⟩

end Ranges

/-! ## Streams -/

section Streams

variable {ids : List ℕ} {Q L : ℕ}

theorem length_rssStreams (g : FwdGlobals) (start stop : ℕ) :
    ∀ n rxp rxq, (rssStreams g start stop n rxp rxq).length = n := by
  intro n
  induction n with
  | zero => intro rxp rxq; rfl
  | succ n ih =>
      intro rxp rxq
      rw [rssStreams, List.length_cons]
      split <;> rw [ih]

theorem length_streams (topology : PortTopology) (hports : ids.length < 65536) :
    (fwdConfigSetup (uniform ids Q L topology)).streams.length =
      (fwdConfigSetup (uniform ids Q L topology)).nbFwdStreams := by
  unfold fwdConfigSetup
  split
  · exact length_rssStreams _ _ _ _ _ _
  · simp [simpleFwdConfigSetup, uniform, Nat.mod_eq_of_lt hports]

variable (hids : ids.Nodup) (hports : 0 < ids.length) (hQ : 0 < Q) (hfits : ids.length * Q < 65536)

include hports hQ hfits in
/-- Stream `n` is the pair of its two digits, looped back. -/
theorem getElem?_streams_loop (n : ℕ) (fs : StreamConfig) :
    (fwdConfigSetup (uniform ids Q L .loop)).streams[n]? = some fs ↔
      n < ids.length * Q ∧ fs = streamAt (uniform ids Q L .loop) (n % ids.length)
        (n / ids.length) := by
  have hcount : (fwdConfigSetup (uniform ids Q L .loop)).nbFwdStreams = ids.length * Q := by
    rw [nbFwdStreams_uniform .loop hQ, Nat.mod_eq_of_lt hfits]
  have hlt : ids.length < 65536 := Nat.lt_of_le_of_lt (Nat.le_mul_of_pos_right _ hQ) hfits
  by_cases hn : n < ids.length * Q
  · have hdiv : n / ids.length < Q := Nat.div_lt_of_lt_mul hn
    rw [streams_eq .loop hports hQ (by rw [hcount]; exact hn), Nat.mod_eq_of_lt hdiv,
      and_iff_right hn, Option.some.injEq, eq_comm]
  · rw [List.getElem?_eq_none (by rw [length_streams .loop hlt, hcount]; omega)]
    simp [hn]

include hports in
/-- The port of a stream is the one its number names. -/
theorem getElem?_ids (n rxq : ℕ) :
    ids[n % ids.length]? =
      some (streamAt (uniform ids Q L .loop) (n % ids.length) rxq).rxPort := by
  simp [streamAt, uniform, Nat.mod_lt n hports]

include hids hports hQ hfits in
/-- Each pair of port and queue is one stream. -/
theorem existsUnique_stream {port queue : ℕ} (hport : port ∈ ids) (hqueue : queue < Q) :
    ∃! n : ℕ, ∃ fs : StreamConfig,
      (fwdConfigSetup (uniform ids Q L .loop)).streams[n]? = some fs ∧
        fs.rxPort = port ∧ fs.rxQueue = queue := by
  obtain ⟨p, hget⟩ := List.mem_iff_getElem?.mp hport
  have hp : p < ids.length := (List.getElem?_eq_some_iff.mp hget).1
  have hmod : (ids.length * queue + p) % ids.length = p := by
    rw [Nat.mul_add_mod, Nat.mod_eq_of_lt hp]
  have hdiv : (ids.length * queue + p) / ids.length = queue := by
    rw [Nat.mul_add_div hports, Nat.div_eq_of_lt hp, Nat.add_zero]
  refine ⟨ids.length * queue + p, ⟨_, (getElem?_streams_loop hports hQ hfits _ _).mpr ⟨?_, rfl⟩,
    ?_, hdiv⟩, ?_⟩
  · calc ids.length * queue + p < ids.length * queue + ids.length := by omega
      _ = ids.length * (queue + 1) := (Nat.mul_succ _ _).symm
      _ ≤ ids.length * Q := Nat.mul_le_mul_left _ hqueue
  · have hrx := getElem?_ids (Q := Q) (L := L) hports (ids.length * queue + p)
      ((ids.length * queue + p) / ids.length)
    rw [hmod, hget] at hrx
    rw [hmod]
    exact (Option.some.inj hrx).symm
  · -- the digits of any other stream of the pair are the same
    rintro n ⟨fs, hfs, hrxPort, hrxQueue⟩
    obtain ⟨-, rfl⟩ := (getElem?_streams_loop hports hQ hfits n fs).mp hfs
    have hrx := getElem?_ids (Q := Q) (L := L) hports n (n / ids.length)
    rw [hrxPort, ← hget] at hrx
    have hsame : n % ids.length = p := by
      rw [List.getElem?_eq_getElem (Nat.mod_lt n hports), List.getElem?_eq_getElem hp] at hrx
      exact hids.getElem_inj_iff.mp (Option.some.inj hrx)
    have hdecomp := Nat.div_add_mod n ids.length
    have hqueue' : n / ids.length = queue := hrxQueue
    rw [hsame, hqueue'] at hdecomp
    exact hdecomp.symm

end Streams

/-! ## Every queue, once -/

/-- **Every receive queue is polled by exactly one core**, for any number of ports with distinct
ids, of queues per port and of cores, as long as the streams can be counted in 16 bits. -/
theorem eachQueue_polled_once (ids : List ℕ) (Q L : ℕ) (hids : ids.Nodup) (hports : 1 ≤ ids.length)
    (hQ : 1 ≤ Q) (hfits : ids.length * Q < 65536) (hL : 1 ≤ L) (hL' : L ≤ 255) :
    EachQueueOnce (fwdConfigSetup (uniform ids Q L .loop)) ids Q := by
  have hcount : (fwdConfigSetup (uniform ids Q L .loop)).nbFwdStreams = ids.length * Q := by
    rw [nbFwdStreams_uniform .loop hQ, Nat.mod_eq_of_lt hfits]
  have hlt : ids.length < 65536 := Nat.lt_of_le_of_lt (Nat.le_mul_of_pos_right _ hQ) hfits
  have hstreams := Nat.mul_pos hports hQ
  have hcores : (fwdConfigSetup (uniform ids Q L .loop)).nbFwdLcores = min L (ids.length * Q) := by
    rw [nbFwdLcores_uniform .loop hlt (by omega), hcount]
  have hpos : 0 < min L (ids.length * Q) := by omega
  have hle : min L (ids.length * Q) ≤ ids.length * Q := Nat.min_le_right _ _
  have hranges : (fwdConfigSetup (uniform ids Q L .loop)).lcores = _ := lcores_eq .loop
  rw [hcount, hcores] at hranges
  have hunique := fun {port queue : ℕ} (hport : port ∈ ids) (hqueue : queue < Q) =>
    existsUnique_stream (L := L) hids hports hQ hfits hport hqueue
  constructor
  · rw [hranges, hcores, length_setupFwdConfigOfEachLcore hpos]
  · rw [hranges]
    exact fun r hr => streamNb_pos hpos hle hfits hr
  · rw [hranges]
    exact fun c c' r r' hr hr' hne n => ranges_disjoint hpos hle hfits hr hr' hne n
  · intro n
    rw [hranges, hcount, ← ranges_cover hpos hle hfits n]
    constructor
    · rintro ⟨r, hr, hpolls⟩
      obtain ⟨c, hget⟩ := List.mem_iff_getElem?.mp hr
      exact ⟨c, r, hget, hpolls⟩
    · rintro ⟨c, r, hget, hpolls⟩
      exact ⟨r, List.mem_of_getElem? hget, hpolls⟩
  · exact length_streams .loop hlt
  · intro fs hfs
    obtain ⟨n, hget⟩ := List.mem_iff_getElem?.mp hfs
    obtain ⟨hn, rfl⟩ := (getElem?_streams_loop hports hQ hfits n fs).mp hget
    exact ⟨List.mem_of_getElem? (getElem?_ids hports n _), Nat.div_lt_of_lt_mul hn⟩
  · exact fun port hport queue hqueue => hunique hport hqueue
  · intro fs hfs
    obtain ⟨n, hget⟩ := List.mem_iff_getElem?.mp hfs
    obtain ⟨-, rfl⟩ := (getElem?_streams_loop hports hQ hfits n fs).mp hget
    exact ⟨rfl, rfl⟩
  · intro port hport queue hqueue
    obtain ⟨n, ⟨fs, hfs, hrxPort, hrxQueue⟩, honly⟩ := hunique hport hqueue
    have hn : n < ids.length * Q := ((getElem?_streams_loop hports hQ hfits n fs).mp hfs).1
    obtain ⟨c, r, hget, hpolls⟩ := (ranges_cover hpos hle hfits n).mpr hn
    rw [← hranges] at hget
    refine ⟨c, ⟨r, n, fs, hget, hpolls, hfs, hrxPort, hrxQueue⟩, ?_⟩
    rintro c' ⟨r', n', fs', hget', hpolls', hfs', hrx'⟩
    obtain rfl := honly n' ⟨fs', hfs', hrx'⟩
    by_contra hne
    rw [hranges] at hget hget'
    exact ranges_disjoint hpos hle hfits hget' hget hne n' ⟨hpolls', hpolls⟩

/-- The theorem at two ports with three queues each and four cores. -/
theorem eachQueue_polled_once_six :
    EachQueueOnce (fwdConfigSetup (uniform [1, 0] 3 4 .loop)) [1, 0] 3 :=
  eachQueue_polled_once [1, 0] 3 4 (by decide) (by decide) (by decide) (by decide) (by decide)
    (by decide)

end UdxFastpath.Dpdk
