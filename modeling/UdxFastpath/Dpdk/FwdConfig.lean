import UdxFastpath.Dpdk.RunToCompletion
import UdxFastpath.Foundation.Dealing

/-!
# The forwarding configuration

`fwd_config_setup` of `lib/core/dpdk/config.c`: which streams there are, and which
lcore polls which of them.

A **stream** is a receive queue of a port together with the queue packets are sent
on.  With more than one queue `rss_fwd_config_setup` numbers them in a loop that
steps through the ports and, after each round of ports, to the next queue; with one
queue `simple_fwd_config_setup` has one stream a port.
`setup_fwd_config_of_each_lcore` deals the streams to the lcores in consecutive
ranges.

Stream numbers are 16 bits wide and lcore numbers eight; the narrowing of the source
is written out wherever a product or a sum is stored.

`streams_eq` and `lcores_eq` are the closed forms for one process and equally many
receive and transmit queues: stream `n` is on port `n % P` and queue `n / P % Q`, and
the ranges are those of `Dealing.dealt`.
-/

namespace UdxFastpath.Dpdk

open Dealing

/-! ## What is read and what is set up -/

/-- `PORT_TOPOLOGY_*`. -/
inductive PortTopology
  | paired
  | chained
  | loop
  deriving DecidableEq, Repr

/-- The globals `fwd_config_setup` reads; `fwdPortsIds` is the used prefix of
`fwd_ports_ids`. -/
structure FwdGlobals where
  fwdPortsIds : List ℕ
  nbPorts : ℕ
  nbRxq : ℕ
  nbTxq : ℕ
  nbFwdLcores : ℕ
  portTopology : PortTopology
  procId : ℕ
  numProcs : ℕ

/-- What the setup writes into a `struct fwd_stream`. -/
structure StreamConfig where
  rxPort : ℕ
  rxQueue : ℕ
  txPort : ℕ
  txQueue : ℕ
  peerAddr : ℕ
  deriving DecidableEq, Repr

/-- What the setup writes into a `struct fwd_lcore`. -/
structure LcoreRange where
  streamIdx : ℕ
  streamNb : ℕ
  deriving DecidableEq, Repr

/-- The lcore polls the stream `n`. -/
def LcoreRange.Polls (r : LcoreRange) (n : ℕ) : Prop :=
  r.streamIdx ≤ n ∧ n < r.streamIdx + r.streamNb

/-- `cur_fwd_config`, with the streams and lcores it is about. -/
structure FwdConfig where
  nbFwdStreams : ℕ
  nbFwdLcores : ℕ
  lcores : List LcoreRange
  streams : List StreamConfig

/-! ## The setup -/

/-- `init_fwd_streams`: the number of streams allocated, which is also the number of worker
rings.  Without queues nothing is allocated. -/
def initFwdStreams (g : FwdGlobals) : Option ℕ :=
  let q := max g.nbRxq g.nbTxq
  if q = 0 then none else some (g.nbPorts * q % 65536)

/-- `fwd_topology_tx_port_get`. -/
def fwdTopologyTxPortGet (g : FwdGlobals) (rxp : ℕ) : ℕ :=
  match g.portTopology with
  | .paired =>
      if rxp % 2 = 0 then if rxp + 1 < g.fwdPortsIds.length then rxp + 1 else rxp else rxp - 1
  | .chained => (rxp + 1) % g.fwdPortsIds.length
  | .loop => rxp

/-- The stream of queue `rxq` of the forwarding port `rxp`. -/
def streamAt (g : FwdGlobals) (rxp rxq : ℕ) : StreamConfig :=
  let txp := fwdTopologyTxPortGet g rxp
  { rxPort := g.fwdPortsIds.getD rxp 0
    rxQueue := rxq
    txPort := g.fwdPortsIds.getD txp 0
    txQueue := rxq
    peerAddr := g.fwdPortsIds.getD txp 0 }

/-- One of the two loops of `setup_fwd_config_of_each_lcore`: the ranges, and the number of
the next stream. -/
def assignStreams (nbFsPerLcore : ℕ) : ℕ → ℕ → List LcoreRange × ℕ
  | 0, smId => ([], smId)
  | n + 1, smId =>
      let rest := assignStreams nbFsPerLcore n ((smId + nbFsPerLcore) % 65536)
      (⟨smId, nbFsPerLcore⟩ :: rest.1, rest.2)

/-- `setup_fwd_config_of_each_lcore`. -/
def setupFwdConfigOfEachLcore (nbFs nbFc : ℕ) : List LcoreRange :=
  let nbFsPerLcore := if nbFs ≤ nbFc then 1 else nbFs / nbFc
  let nbExtra := if nbFs ≤ nbFc then 0 else nbFs % nbFc
  let nbLc := nbFc - nbExtra
  let r := assignStreams nbFsPerLcore nbLc 0
  r.1 ++ (assignStreams (nbFsPerLcore + 1) nbExtra r.2).1

/-- `simple_fwd_config_setup`: one stream a port. -/
def simpleFwdConfigSetup (g : FwdGlobals) : FwdConfig :=
  let nbFwdPorts := g.fwdPortsIds.length
  let nbFwdStreams := nbFwdPorts % 65536
  let nbFwdLcores := if nbFwdPorts < g.nbFwdLcores then nbFwdPorts % 256 else g.nbFwdLcores
  { nbFwdStreams := nbFwdStreams
    nbFwdLcores := nbFwdLcores
    lcores := setupFwdConfigOfEachLcore nbFwdStreams nbFwdLcores
    streams := (List.range nbFwdPorts).map fun i => streamAt g i 0 }

/-- The loop of `rss_fwd_config_setup` over the streams still to be set up, with its two
counters. -/
def rssStreams (g : FwdGlobals) (start stop : ℕ) : ℕ → ℕ → ℕ → List StreamConfig
  | 0, _, _ => []
  | n + 1, rxp, rxq =>
      streamAt g rxp rxq ::
        if rxp + 1 < g.fwdPortsIds.length then rssStreams g start stop n (rxp + 1) rxq
        else rssStreams g start stop n 0 (if stop ≤ rxq + 1 then start else rxq + 1)

/-- `rss_fwd_config_setup`. -/
def rssFwdConfigSetup (g : FwdGlobals) : FwdConfig :=
  let nbQ := min g.nbRxq g.nbTxq
  let nbFwdStreams := nbQ * g.fwdPortsIds.length % 65536
  let nbFwdLcores := if nbFwdStreams < g.nbFwdLcores then nbFwdStreams % 256 else g.nbFwdLcores
  let start := g.procId * nbQ / g.numProcs
  { nbFwdStreams := nbFwdStreams
    nbFwdLcores := nbFwdLcores
    lcores := setupFwdConfigOfEachLcore nbFwdStreams nbFwdLcores
    streams := rssStreams g start (start + nbQ / g.numProcs) nbFwdStreams 0 start }

/-- `fwd_config_setup`. -/
def fwdConfigSetup (g : FwdGlobals) : FwdConfig :=
  if 1 < g.nbRxq ∧ 1 < g.nbTxq then rssFwdConfigSetup g else simpleFwdConfigSetup g

/-! ## Lcores -/

section Lcores

/-- One loop in closed form, as long as the stream number does not wrap. -/
theorem assignStreams_eq (per : ℕ) :
    ∀ n smId, smId + n * per < 65536 →
      assignStreams per n smId =
        ((List.range n).map fun c => ⟨smId + c * per, per⟩, smId + n * per) := by
  intro n
  induction n with
  | zero => intro smId _; simp [assignStreams]
  | succ n ih =>
      intro smId hlt
      have hmul : (n + 1) * per = n * per + per := Nat.succ_mul n per
      have hshift : ∀ c, smId + per + c * per = smId + (c + 1) * per := by
        intro c
        rw [Nat.succ_mul]
        omega
      simp only [assignStreams]
      rw [Nat.mod_eq_of_lt (show smId + per < 65536 by omega), ih (smId + per) (by omega),
        List.range_succ_eq_map]
      simp [hshift]

/-- The number of lcores that get no extra stream. -/
def fewLcores (nbFs nbFc : ℕ) : ℕ := nbFc - nbFs % nbFc

/-- The ranges are a dealing: part `c` of it is polled by lcore `c`. -/
theorem setupFwdConfigOfEachLcore_eq {nbFs nbFc : ℕ} (hpos : 0 < nbFc) (hle : nbFc ≤ nbFs)
    (hlt : nbFs < 65536) (c : ℕ) :
    (setupFwdConfigOfEachLcore nbFs nbFc)[c]? =
      if c < nbFc then
        some ⟨dealt (nbFs / nbFc) (fewLcores nbFs nbFc) c,
          if c < fewLcores nbFs nbFc then nbFs / nbFc else nbFs / nbFc + 1⟩
      else none := by
  have hmod := Nat.mod_lt nbFs hpos
  have hper : (if nbFs ≤ nbFc then 1 else nbFs / nbFc) = nbFs / nbFc := by
    split
    · rw [show nbFs = nbFc by omega, Nat.div_self hpos]
    · rfl
  have hextra : (if nbFs ≤ nbFc then 0 else nbFs % nbFc) = nbFs % nbFc := by
    split
    · rw [show nbFs = nbFc by omega, Nat.mod_self]
    · rfl
  -- the streams of the first loop and those of the second are all streams
  have htotal := @shares_total nbFs nbFc hpos
  have hfew : fewLcores nbFs nbFc = nbFc - nbFs % nbFc := rfl
  simp only [setupFwdConfigOfEachLcore, hper, hextra]
  rw [assignStreams_eq _ _ 0 (by omega), assignStreams_eq _ _ _ (by omega), ← hfew]
  by_cases hc : c < fewLcores nbFs nbFc
  · rw [List.getElem?_append_left (by simpa using hc), if_pos (by omega), if_pos hc]
    simp [hc, dealt, hc.le]
  · obtain ⟨k, rfl⟩ : ∃ k, c = fewLcores nbFs nbFc + k := ⟨c - fewLcores nbFs nbFc, by omega⟩
    rw [List.getElem?_append_right (by simp), if_neg hc]
    by_cases hk : k < nbFs % nbFc
    · have hstart : dealt (nbFs / nbFc) (fewLcores nbFs nbFc) (fewLcores nbFs nbFc + k) =
          fewLcores nbFs nbFc * (nbFs / nbFc) + k * (nbFs / nbFc + 1) := by
        cases k with
        | zero => simp [dealt]
        | succ k => simp [dealt]
      rw [if_pos (by omega), hstart]
      simp [hk]
    · rw [if_neg (by omega)]
      simpa using Nat.le_of_not_lt hk

/-- Lcore `c` polls exactly the items of part `c`. -/
theorem polls_iff_part {nbFs nbFc : ℕ} (hpos : 0 < nbFc) (hle : nbFc ≤ nbFs) (hlt : nbFs < 65536)
    (c n : ℕ) :
    (∃ r, (setupFwdConfigOfEachLcore nbFs nbFc)[c]? = some r ∧ r.Polls n) ↔
      c < nbFc ∧ InPart (dealt (nbFs / nbFc) (fewLcores nbFs nbFc)) c n := by
  rw [setupFwdConfigOfEachLcore_eq hpos hle hlt, InPart, dealt_succ]
  by_cases hc : c < nbFc
  · simp [hc, LcoreRange.Polls]
  · simp [hc]

end Lcores

/-! ## Streams -/

section Streams

/-- The loop over the streams is an odometer over ports and queues. -/
theorem rssStreams_eq (g : FwdGlobals) {Q : ℕ} (hports : 0 < g.fwdPortsIds.length) (hQ : 0 < Q) :
    ∀ n t, rssStreams g 0 Q n (t % g.fwdPortsIds.length) (t / g.fwdPortsIds.length % Q) =
      (List.range n).map fun k => streamAt g ((t + k) % g.fwdPortsIds.length)
        ((t + k) / g.fwdPortsIds.length % Q) := by
  intro n
  induction n with
  | zero => intro t; rfl
  | succ n ih =>
      intro t
      have hlt := Nat.mod_lt t hports
      have hltQ := Nat.mod_lt (t / g.fwdPortsIds.length) hQ
      have hrest := ih (t + 1)
      rw [succ_mod, succ_div hports] at hrest
      have htail : (fun k => streamAt g ((t + 1 + k) % g.fwdPortsIds.length)
          ((t + 1 + k) / g.fwdPortsIds.length % Q)) =
          (fun k => streamAt g ((t + k) % g.fwdPortsIds.length)
            ((t + k) / g.fwdPortsIds.length % Q)) ∘ Nat.succ := by
        funext k
        simp only [Function.comp_apply, Nat.succ_eq_add_one, Nat.add_assoc, Nat.add_comm 1 k]
      rw [htail] at hrest
      rw [rssStreams, List.range_succ_eq_map, List.map_cons, List.map_map, ← hrest, Nat.add_zero]
      congr 1
      by_cases hcarry : t % g.fwdPortsIds.length + 1 = g.fwdPortsIds.length
      · -- the ports are through: next queue
        rw [if_neg (by omega), if_pos hcarry, if_pos hcarry, succ_mod]
        congr 1
        by_cases hlast : t / g.fwdPortsIds.length % Q + 1 = Q
        · rw [if_pos (by omega), if_pos hlast]
        · rw [if_neg (by omega), if_neg hlast]
      · rw [if_pos (by omega), if_neg hcarry, if_neg hcarry]

end Streams

/-! ## One process, equally many queues in both directions -/

/-- The globals of a single process with `Q` queues in either direction on every port. -/
def uniform (ids : List ℕ) (Q L : ℕ) (topology : PortTopology) : FwdGlobals :=
  ⟨ids, ids.length, Q, Q, L, topology, 0, 1⟩

section Uniform

variable {ids : List ℕ} {Q L : ℕ} (topology : PortTopology)

theorem nbFwdStreams_uniform (hQ : 0 < Q) :
    (fwdConfigSetup (uniform ids Q L topology)).nbFwdStreams = ids.length * Q % 65536 := by
  unfold fwdConfigSetup
  split
  · simp [rssFwdConfigSetup, uniform, Nat.mul_comm]
  · rename_i hsimple
    obtain rfl : Q = 1 := by
      simp only [uniform] at hsimple
      omega
    simp [simpleFwdConfigSetup, uniform]

/-- There are as many worker rings as streams. -/
theorem initFwdStreams_uniform (hQ : 0 < Q) :
    initFwdStreams (uniform ids Q L topology) =
      some (fwdConfigSetup (uniform ids Q L topology)).nbFwdStreams := by
  rw [nbFwdStreams_uniform topology hQ]
  simp only [initFwdStreams, uniform, Nat.max_self]
  rw [if_neg (by omega)]

/-- Stream `n` is on port `n % P` and queue `n / P % Q`. -/
theorem streams_eq (hports : 0 < ids.length) (hQ : 0 < Q) {n : ℕ}
    (hn : n < (fwdConfigSetup (uniform ids Q L topology)).nbFwdStreams) :
    (fwdConfigSetup (uniform ids Q L topology)).streams[n]? =
      some (streamAt (uniform ids Q L topology) (n % ids.length) (n / ids.length % Q)) := by
  by_cases hrss : 1 < Q
  · have hmany : 1 < (uniform ids Q L topology).nbRxq ∧ 1 < (uniform ids Q L topology).nbTxq :=
      ⟨hrss, hrss⟩
    rw [fwdConfigSetup, if_pos hmany] at hn ⊢
    have hloop := rssStreams_eq (uniform ids Q L topology) hports hQ
      (rssFwdConfigSetup (uniform ids Q L topology)).nbFwdStreams 0
    simp only [Nat.zero_mod, Nat.zero_div, Nat.zero_add] at hloop
    have hstreams : (rssFwdConfigSetup (uniform ids Q L topology)).streams =
        rssStreams (uniform ids Q L topology) 0 Q
          (rssFwdConfigSetup (uniform ids Q L topology)).nbFwdStreams 0 0 := by
      simp [rssFwdConfigSetup, uniform]
    rw [hstreams, hloop, List.getElem?_map, List.getElem?_range hn]
    rfl
  · obtain rfl : Q = 1 := by omega
    have hsimple : ¬ (1 < (uniform ids 1 L topology).nbRxq ∧
        1 < (uniform ids 1 L topology).nbTxq) := fun h => hrss h.1
    rw [fwdConfigSetup, if_neg hsimple] at hn ⊢
    have hlt : n < ids.length := Nat.lt_of_lt_of_le hn (Nat.mod_le _ _)
    simp [simpleFwdConfigSetup, uniform, hlt, Nat.mod_eq_of_lt hlt, Nat.mod_one]

theorem narrowed_min {n L : ℕ} (hL : L < 256) : (if n < L then n % 256 else L) = min L n := by
  split <;> omega

/-- As many lcores are used as there are streams for. -/
theorem nbFwdLcores_uniform (hports : ids.length < 65536) (hL : L < 256) :
    (fwdConfigSetup (uniform ids Q L topology)).nbFwdLcores =
      min L (fwdConfigSetup (uniform ids Q L topology)).nbFwdStreams := by
  unfold fwdConfigSetup
  split
  · exact narrowed_min hL
  · refine (narrowed_min (n := ids.length) hL).trans ?_
    rw [simpleFwdConfigSetup, show (uniform ids Q L topology).fwdPortsIds = ids from rfl,
      Nat.mod_eq_of_lt hports]

/-- The ranges of the lcores are those of the closed form. -/
theorem lcores_eq :
    (fwdConfigSetup (uniform ids Q L topology)).lcores =
      setupFwdConfigOfEachLcore (fwdConfigSetup (uniform ids Q L topology)).nbFwdStreams
        (fwdConfigSetup (uniform ids Q L topology)).nbFwdLcores := by
  unfold fwdConfigSetup
  split <;> rfl

end Uniform

end UdxFastpath.Dpdk
