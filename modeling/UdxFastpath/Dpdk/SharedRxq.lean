import UdxFastpath.Dpdk.QueuePolling

/-!
# Receive queues that ports share

A device can let several ports share a receive queue, and what arrives for any of them
is then handed to whoever polls the queue.  `pkt_fwd_shared_rxq_check` of
`lib/core/dpdk/config.c` is the last look at the configuration before the cores are
launched: it refuses one in which two lcores poll the same shared queue.

* `pktFwdSharedRxqCheck_iff`: the check passes exactly when no two lcores do, although
  the loops only ever look at the lcores behind the one they are at.
* `sharedRxqCheck_iff_dvd`: with the queues that `rxtx_port_config` sets up, it passes
  when the lcores in use divide the queues, and when all ports are in one group, only
  then.  The advice that the check prints, as many cores as there are queues, is the
  case `nbFwdLcores = nbRxq`.
-/

namespace UdxFastpath.Dpdk

open Dealing

/-! ## What is checked -/

/-- What `dev_info` says about sharing: `RTE_ETH_DEV_CAPA_RXQ_SHARE`, the switch domain and
the defaults of a receive queue. -/
structure SharingInfo where
  canShare : Bool
  domainId : ℕ
  defaultShareGroup : ℕ
  defaultShareQid : ℕ

/-- What is read of a `struct rte_eth_rxconf`. -/
structure RxqConf where
  shareGroup : ℕ
  shareQid : ℕ

/-- The option `rxq-share` and the ports it is about. -/
structure Sharing where
  rxqShare : ℕ
  info : ℕ → SharingInfo

/-- What `rxtx_port_config` sets in a receive queue for sharing. -/
def Sharing.rxqConf (t : Sharing) (pid qid : ℕ) : RxqConf :=
  if 0 < t.rxqShare ∧ (t.info pid).canShare then
    ⟨pid / t.rxqShare + 1, qid⟩
  else
    ⟨(t.info pid).defaultShareGroup, (t.info pid).defaultShareQid⟩

/-- The test both loops make: the queue of a stream is a shared one. -/
def Sharing.isShared (t : Sharing) (fs : StreamConfig) : Bool :=
  (t.info fs.rxPort).canShare && (t.rxqConf fs.rxPort fs.rxQueue).shareGroup != 0

/-- The streams of an lcore, in the order in which they are gone through. -/
def FwdConfig.streamsOf (cfg : FwdConfig) (fc : LcoreRange) : List StreamConfig :=
  (cfg.streams.drop fc.streamIdx).take fc.streamNb

/-- `fwd_stream_on_other_lcores`, over the lcores behind the one that is checked. -/
def fwdStreamOnOtherLcores (t : Sharing) (cfg : FwdConfig) (domainId shareGroup shareRxq : ℕ) :
    List LcoreRange → Bool
  | [] => false
  | fc :: rest =>
      (cfg.streamsOf fc).any (fun fs =>
        t.isShared fs && domainId == (t.info fs.rxPort).domainId &&
          (t.rxqConf fs.rxPort fs.rxQueue).shareGroup == shareGroup &&
          (t.rxqConf fs.rxPort fs.rxQueue).shareQid == shareRxq) ||
        fwdStreamOnOtherLcores t cfg domainId shareGroup shareRxq rest

/-- The loop of `pkt_fwd_shared_rxq_check` over the lcores. -/
def sharedRxqCheckFrom (t : Sharing) (cfg : FwdConfig) : List LcoreRange → Bool
  | [] => true
  | fc :: rest =>
      (cfg.streamsOf fc).all (fun fs =>
        !t.isShared fs ||
          !fwdStreamOnOtherLcores t cfg (t.info fs.rxPort).domainId
            (t.rxqConf fs.rxPort fs.rxQueue).shareGroup
            (t.rxqConf fs.rxPort fs.rxQueue).shareQid rest) &&
        sharedRxqCheckFrom t cfg rest

/-- `pkt_fwd_shared_rxq_check`. -/
def pktFwdSharedRxqCheck (t : Sharing) (cfg : FwdConfig) : Bool :=
  if t.rxqShare = 0 then true else sharedRxqCheckFrom t cfg cfg.lcores

/-! ## No queue in two hands -/

/-- Two streams receive from the same shared queue. -/
structure Sharing.SameQueue (t : Sharing) (fs fs' : StreamConfig) : Prop where
  left : t.isShared fs = true
  right : t.isShared fs' = true
  domain : (t.info fs.rxPort).domainId = (t.info fs'.rxPort).domainId
  group : (t.rxqConf fs'.rxPort fs'.rxQueue).shareGroup =
    (t.rxqConf fs.rxPort fs.rxQueue).shareGroup
  queue : (t.rxqConf fs'.rxPort fs'.rxQueue).shareQid =
    (t.rxqConf fs.rxPort fs.rxQueue).shareQid

/-- No stream of the one lcore shares its queue with a stream of the other. -/
def Sharing.Apart (t : Sharing) (cfg : FwdConfig) (fc fc' : LcoreRange) : Prop :=
  ∀ fs ∈ cfg.streamsOf fc, ∀ fs' ∈ cfg.streamsOf fc', ¬ t.SameQueue fs fs'

section Check

variable (t : Sharing) (cfg : FwdConfig)

theorem Sharing.SameQueue.symm {t : Sharing} {fs fs' : StreamConfig} (h : t.SameQueue fs fs') :
    t.SameQueue fs' fs :=
  ⟨h.right, h.left, h.domain.symm, h.group.symm, h.queue.symm⟩

/-- The streams of an lcore are those it polls. -/
theorem FwdConfig.mem_streamsOf {cfg : FwdConfig} {fc : LcoreRange} {fs : StreamConfig} :
    fs ∈ cfg.streamsOf fc ↔ ∃ n, fc.Polls n ∧ cfg.streams[n]? = some fs := by
  unfold streamsOf LcoreRange.Polls
  rw [List.mem_iff_getElem?]
  constructor
  · rintro ⟨k, hk⟩
    rw [List.getElem?_take] at hk
    split at hk
    · rw [List.getElem?_drop] at hk
      exact ⟨fc.streamIdx + k, ⟨by omega, by omega⟩, hk⟩
    · cases hk
  · rintro ⟨n, ⟨hle, hlt⟩, hn⟩
    refine ⟨n - fc.streamIdx, ?_⟩
    rw [List.getElem?_take, if_pos (by omega), List.getElem?_drop, Nat.add_sub_cancel' hle]
    exact hn

theorem fwdStreamOnOtherLcores_iff {fs : StreamConfig} (hfs : t.isShared fs = true)
    (rest : List LcoreRange) :
    fwdStreamOnOtherLcores t cfg (t.info fs.rxPort).domainId
        (t.rxqConf fs.rxPort fs.rxQueue).shareGroup
        (t.rxqConf fs.rxPort fs.rxQueue).shareQid rest = true ↔
      ∃ fc ∈ rest, ∃ fs' ∈ cfg.streamsOf fc, t.SameQueue fs fs' := by
  induction rest with
  | nil => simp [fwdStreamOnOtherLcores]
  | cons fc rest ih =>
      simp only [fwdStreamOnOtherLcores, Bool.or_eq_true, List.any_eq_true, ih,
        List.exists_mem_cons_iff, Bool.and_eq_true, beq_iff_eq]
      refine or_congr_left (exists_congr fun fs' => and_congr_right fun _ => ?_)
      constructor
      · rintro ⟨⟨⟨hright, hdomain⟩, hgroup⟩, hqueue⟩
        exact ⟨hfs, hright, hdomain, hgroup, hqueue⟩
      · intro h
        exact ⟨⟨⟨h.right, h.domain⟩, h.group⟩, h.queue⟩

/-- The loop passes exactly when every lcore is apart from all behind it. -/
theorem sharedRxqCheckFrom_iff (l : List LcoreRange) :
    sharedRxqCheckFrom t cfg l = true ↔ l.Pairwise (t.Apart cfg) := by
  induction l with
  | nil => simp [sharedRxqCheckFrom]
  | cons fc rest ih =>
      rw [sharedRxqCheckFrom, Bool.and_eq_true, List.all_eq_true, ih, List.pairwise_cons]
      refine and_congr_left fun _ => ?_
      constructor
      · intro h fc' hfc' fs hfs fs' hfs' hsame
        have hno := h fs hfs
        rw [hsame.left, Bool.not_true, Bool.false_or, Bool.not_eq_true'] at hno
        have hother := (fwdStreamOnOtherLcores_iff t cfg hsame.left rest).mpr
          ⟨fc', hfc', fs', hfs', hsame⟩
        rw [hno] at hother
        cases hother
      · intro h fs hfs
        cases hshared : t.isShared fs with
        | false => rfl
        | true =>
            rw [Bool.not_true, Bool.false_or, Bool.not_eq_true', ← Bool.not_eq_true,
              fwdStreamOnOtherLcores_iff t cfg hshared]
            rintro ⟨fc', hfc', fs', hfs', hsame⟩
            exact h fc' hfc' fs hfs fs' hfs' hsame

/-- **The check passes exactly when no two lcores poll the same shared queue**, or sharing is
off. -/
theorem pktFwdSharedRxqCheck_iff :
    pktFwdSharedRxqCheck t cfg = true ↔ t.rxqShare = 0 ∨
      ∀ (c c' : ℕ) (fc fc' : LcoreRange), cfg.lcores[c]? = some fc → cfg.lcores[c']? = some fc' →
        c ≠ c' → t.Apart cfg fc fc' := by
  unfold pktFwdSharedRxqCheck
  split
  · rename_i hoff
    simp [hoff]
  · rename_i hon
    rw [sharedRxqCheckFrom_iff, or_iff_right hon, List.pairwise_iff_getElem]
    constructor
    · intro h c c' fc fc' hc hc' hne
      obtain ⟨hlt, rfl⟩ := List.getElem?_eq_some_iff.mp hc
      obtain ⟨hlt', rfl⟩ := List.getElem?_eq_some_iff.mp hc'
      rcases Nat.lt_or_gt_of_ne hne with hbefore | hbehind
      · exact h c c' hlt hlt' hbefore
      · intro fs hfs fs' hfs' hsame
        exact h c' c hlt' hlt hbehind fs' hfs' fs hfs hsame.symm
    · intro h c c' hlt hlt' hbefore
      exact h c c' _ _ (List.getElem?_eq_getElem hlt) (List.getElem?_eq_getElem hlt')
        (Nat.ne_of_lt hbefore)

end Check

/-! ## As many lcores as divide the queues -/

/-- All ports share, in one switch domain and one group. -/
structure Sharing.OneGroup (t : Sharing) (ids : List ℕ) (domain group : ℕ) : Prop where
  on : 0 < t.rxqShare
  canShare : ∀ p ∈ ids, (t.info p).canShare = true
  domain : ∀ p ∈ ids, (t.info p).domainId = domain
  group : ∀ p ∈ ids, p / t.rxqShare = group

section Uniform

variable {ids : List ℕ} {Q L : ℕ} {topology : PortTopology} {t : Sharing}

/-- A shared queue keeps its number. -/
theorem shareQid_of_isShared {fs : StreamConfig} (hon : t.rxqShare ≠ 0)
    (hfs : t.isShared fs = true) : (t.rxqConf fs.rxPort fs.rxQueue).shareQid = fs.rxQueue := by
  unfold Sharing.isShared at hfs
  rw [Bool.and_eq_true] at hfs
  rw [Sharing.rxqConf, if_pos ⟨Nat.pos_of_ne_zero hon, hfs.1⟩]

/-- The cuts between the streams of the lcores, for `P` ports. -/
def lcoreCut (P Q L : ℕ) : ℕ → ℕ :=
  dealt (P * Q / min L (P * Q)) (fewLcores (P * Q) (min L (P * Q)))

variable (hports : 0 < ids.length) (hQ : 0 < Q) (hfits : ids.length * Q < 65536)

include hports hQ hfits in
/-- The streams are those of port `n % P` and queue `n / P`. -/
theorem getElem?_streams (topology : PortTopology) {n : ℕ} {fs : StreamConfig} :
    (fwdConfigSetup (uniform ids Q L topology)).streams[n]? = some fs ↔
      n < ids.length * Q ∧
        fs = streamAt (uniform ids Q L topology) (n % ids.length) (n / ids.length) := by
  have hcount : (fwdConfigSetup (uniform ids Q L topology)).nbFwdStreams = ids.length * Q := by
    rw [nbFwdStreams_uniform topology hQ, Nat.mod_eq_of_lt hfits]
  have hlt : ids.length < 65536 := Nat.lt_of_le_of_lt (Nat.le_mul_of_pos_right _ hQ) hfits
  by_cases hn : n < ids.length * Q
  · rw [streams_eq topology hports hQ (by rw [hcount]; exact hn),
      Nat.mod_eq_of_lt (Nat.div_lt_of_lt_mul hn), and_iff_right hn, Option.some.injEq, eq_comm]
  · rw [List.getElem?_eq_none (by rw [length_streams topology hlt, hcount]; omega)]
    simp [hn]

include hports in
theorem rxPort_streamAt_mem (rxp rxq : ℕ) :
    (streamAt (uniform ids Q L topology) (rxp % ids.length) rxq).rxPort ∈ ids := by
  have hlt := Nat.mod_lt rxp hports
  simp [streamAt, uniform, hlt]

include hports hQ hfits in
/-- An lcore polls the streams of its part. -/
theorem polled_iff_part (topology : PortTopology) (hL : 0 < L) (hL' : L < 256) (c n : ℕ) :
    (∃ fc, (fwdConfigSetup (uniform ids Q L topology)).lcores[c]? = some fc ∧ fc.Polls n) ↔
      c < min L (ids.length * Q) ∧ InPart (lcoreCut ids.length Q L) c n := by
  have hcount : (fwdConfigSetup (uniform ids Q L topology)).nbFwdStreams = ids.length * Q := by
    rw [nbFwdStreams_uniform topology hQ, Nat.mod_eq_of_lt hfits]
  have hlt : ids.length < 65536 := Nat.lt_of_le_of_lt (Nat.le_mul_of_pos_right _ hQ) hfits
  have hstreams := Nat.mul_pos hports hQ
  rw [lcores_eq topology, nbFwdLcores_uniform topology hlt hL', hcount]
  exact polls_iff_part (by omega) (Nat.min_le_right _ _) hfits c n

include hports hQ in
theorem lcoreCut_strictMono (hL : 0 < L) : StrictMono (lcoreCut ids.length Q L) := by
  have hstreams := Nat.mul_pos hports hQ
  apply dealt_strictMono
  exact Nat.div_pos (Nat.min_le_right _ _) (by omega)

include hports hQ in
/-- Nothing is dealt past the last stream. -/
theorem lt_of_part (hL : 0 < L) {c n : ℕ} (hc : c < min L (ids.length * Q))
    (hpart : InPart (lcoreCut ids.length Q L) c n) : n < ids.length * Q := by
  have hstreams := Nat.mul_pos hports hQ
  have hmono := lcoreCut_strictMono hports hQ hL
  have htotal : lcoreCut ids.length Q L (min L (ids.length * Q)) = ids.length * Q :=
    dealt_total (by omega)
  have hcut := hmono.monotone (show c + 1 ≤ min L (ids.length * Q) from hc)
  exact Nat.lt_of_lt_of_le hpart.2 (hcut.trans_eq htotal)

include hports hQ hfits in
/-- Whole queues to every lcore are enough, whichever ports share. -/
theorem check_of_groupsWhole (hL : 0 < L) (hL' : L < 256)
    (h : GroupsWhole (lcoreCut ids.length Q L) ids.length (min L (ids.length * Q))) :
    pktFwdSharedRxqCheck t (fwdConfigSetup (uniform ids Q L topology)) = true := by
  rw [pktFwdSharedRxqCheck_iff]
  by_cases hoff : t.rxqShare = 0
  · exact .inl hoff
  · right
    intro c c' fc fc' hc hc' hne fs hfs fs' hfs' hsame
    obtain ⟨n, hpolls, hn⟩ := FwdConfig.mem_streamsOf.mp hfs
    obtain ⟨n', hpolls', hn'⟩ := FwdConfig.mem_streamsOf.mp hfs'
    obtain ⟨hlt, hpart⟩ := (polled_iff_part hports hQ hfits topology hL hL' c n).mp ⟨fc, hc, hpolls⟩
    obtain ⟨hlt', hpart'⟩ :=
      (polled_iff_part hports hQ hfits topology hL hL' c' n').mp ⟨fc', hc', hpolls'⟩
    have hqueue := hsame.queue
    rw [shareQid_of_isShared hoff hsame.left, shareQid_of_isShared hoff hsame.right] at hqueue
    obtain ⟨-, rfl⟩ := (getElem?_streams hports hQ hfits topology).mp hn
    obtain ⟨-, rfl⟩ := (getElem?_streams hports hQ hfits topology).mp hn'
    exact hne (h c hlt c' hlt' n n' hpart hpart' hqueue.symm)

/-- In one group every port has the same shared queues. -/
theorem Sharing.OneGroup.sameQueue {domain group : ℕ} (h : t.OneGroup ids domain group)
    {fs fs' : StreamConfig} (hport : fs.rxPort ∈ ids) (hport' : fs'.rxPort ∈ ids)
    (hqueue : fs.rxQueue = fs'.rxQueue) : t.SameQueue fs fs' := by
  have hconf : ∀ {gs : StreamConfig}, gs.rxPort ∈ ids →
      t.rxqConf gs.rxPort gs.rxQueue = ⟨group + 1, gs.rxQueue⟩ := by
    intro gs hgs
    rw [Sharing.rxqConf, if_pos ⟨h.on, h.canShare _ hgs⟩, h.group _ hgs]
  have hshared : ∀ {gs : StreamConfig}, gs.rxPort ∈ ids → t.isShared gs = true := by
    intro gs hgs
    simp [Sharing.isShared, h.canShare _ hgs, hconf hgs]
  constructor
  · exact hshared hport
  · exact hshared hport'
  · rw [h.domain _ hport, h.domain _ hport']
  · rw [hconf hport, hconf hport']
  · rw [hconf hport, hconf hport', hqueue]

include hports hQ hfits in
/-- In one group, whole queues are also necessary. -/
theorem groupsWhole_of_check {domain group : ℕ} (hone : t.OneGroup ids domain group) (hL : 0 < L)
    (hL' : L < 256)
    (h : pktFwdSharedRxqCheck t (fwdConfigSetup (uniform ids Q L topology)) = true) :
    GroupsWhole (lcoreCut ids.length Q L) ids.length (min L (ids.length * Q)) := by
  rcases (pktFwdSharedRxqCheck_iff t _).mp h with hoff | hapart
  · exact absurd hoff (Nat.pos_iff_ne_zero.mp hone.on)
  · intro c hc c' hc' n n' hpart hpart' hgroup
    by_contra hne
    obtain ⟨fc, hfc, hpolls⟩ :=
      (polled_iff_part hports hQ hfits topology hL hL' c n).mpr ⟨hc, hpart⟩
    obtain ⟨fc', hfc', hpolls'⟩ :=
      (polled_iff_part hports hQ hfits topology hL hL' c' n').mpr ⟨hc', hpart'⟩
    have hfs := (getElem?_streams (L := L) hports hQ hfits topology).mpr
      ⟨lt_of_part hports hQ hL hc hpart, rfl⟩
    have hfs' := (getElem?_streams (L := L) hports hQ hfits topology).mpr
      ⟨lt_of_part hports hQ hL hc' hpart', rfl⟩
    apply hapart c c' fc fc' hfc hfc' hne
    · exact FwdConfig.mem_streamsOf.mpr ⟨n, hpolls, hfs⟩
    · exact FwdConfig.mem_streamsOf.mpr ⟨n', hpolls', hfs'⟩
    · apply hone.sameQueue
      · exact rxPort_streamAt_mem hports n _
      · exact rxPort_streamAt_mem hports n' _
      · exact hgroup

include hports hQ in
/-- Every lcore has whole queues when the lcores in use divide the queues, and with more than
one port only then. -/
theorem groupsWhole_iff_dvd (hL : 0 < L) :
    GroupsWhole (lcoreCut ids.length Q L) ids.length (min L (ids.length * Q)) ↔
      ids.length = 1 ∨ min L (ids.length * Q) ∣ Q := by
  have hstreams := Nat.mul_pos hports hQ
  have hpos : 0 < min L (ids.length * Q) := by omega
  have hmono := lcoreCut_strictMono hports hQ hL
  have hmod := Nat.mod_lt (ids.length * Q) hpos
  have hfew : 0 < fewLcores (ids.length * Q) (min L (ids.length * Q)) := by
    unfold fewLcores
    omega
  have hall : fewLcores (ids.length * Q) (min L (ids.length * Q)) +
      ids.length * Q % min L (ids.length * Q) = min L (ids.length * Q) :=
    Nat.sub_add_cancel hmod.le
  have hcuts := @dealt_dvd_iff (ids.length * Q / min L (ids.length * Q))
    (fewLcores (ids.length * Q) (min L (ids.length * Q))) ids.length
    (ids.length * Q % min L (ids.length * Q)) (.inl hfew)
  rw [hall] at hcuts
  rw [groupsWhole_iff hmono hports, ← share_dvd_iff hports hpos]
  exact hcuts

end Uniform

/-- **As many lcores as divide the queues.**  With `Q` queues on every port the check passes
whenever there is one port or the number of lcores in use divides `Q`; when all ports are in one
group, in no other case. -/
theorem sharedRxqCheck_iff_dvd (t : Sharing) (ids : List ℕ) (Q L : ℕ) (topology : PortTopology)
    (hports : 1 ≤ ids.length) (hQ : 1 ≤ Q) (hfits : ids.length * Q < 65536) (hL : 1 ≤ L)
    (hL' : L ≤ 255) :
    (ids.length = 1 ∨ min L (ids.length * Q) ∣ Q →
        pktFwdSharedRxqCheck t (fwdConfigSetup (uniform ids Q L topology)) = true) ∧
      ∀ domain group, t.OneGroup ids domain group →
        (pktFwdSharedRxqCheck t (fwdConfigSetup (uniform ids Q L topology)) = true ↔
          ids.length = 1 ∨ min L (ids.length * Q) ∣ Q) := by
  have hwhole := groupsWhole_iff_dvd hports hQ hL
  have henough : ids.length = 1 ∨ min L (ids.length * Q) ∣ Q →
      pktFwdSharedRxqCheck t (fwdConfigSetup (uniform ids Q L topology)) = true := fun h =>
    check_of_groupsWhole hports hQ hfits hL (by omega) (hwhole.mpr h)
  refine ⟨henough, fun domain group hone => ⟨fun h => ?_, henough⟩⟩
  exact hwhole.mp (groupsWhole_of_check hports hQ hfits hone hL (by omega) h)

/-- Two ports in one group, as `--rxq-share=2` makes them. -/
def pairSharing : Sharing := ⟨2, fun _ => ⟨true, 0, 0, 0⟩⟩

/-- Two lcores divide four queues, and do not divide one. -/
theorem sharedRxqCheck_iff_dvd_pair :
    pktFwdSharedRxqCheck pairSharing (fwdConfigSetup (uniform [0, 1] 4 2 .loop)) = true ∧
      pktFwdSharedRxqCheck pairSharing (fwdConfigSetup (uniform [0, 1] 1 2 .loop)) ≠ true := by
  have hone : pairSharing.OneGroup [0, 1] 0 0 :=
    ⟨by decide, fun _ _ => rfl, fun _ _ => rfl, by decide⟩
  constructor
  · exact (sharedRxqCheck_iff_dvd pairSharing [0, 1] 4 2 .loop (by decide) (by decide) (by decide)
      (by decide) (by decide)).1 (.inr (by decide))
  · intro h
    have hdvd := ((sharedRxqCheck_iff_dvd pairSharing [0, 1] 1 2 .loop (by decide) (by decide)
      (by decide) (by decide) (by decide)).2 0 0 hone).mp h
    exact absurd hdvd (by decide)

end UdxFastpath.Dpdk
