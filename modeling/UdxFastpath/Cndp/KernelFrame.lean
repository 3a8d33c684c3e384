import UdxFastpath.Cndp.RunToCompletion

/-!
# CNDP frames for the kernel

CNDP `run_to_completion` writes to the TAP device in three places: for an ARP
reply, for a packet the filter diverts, and for a packet with the verdict
`KERNEL`.  All three put a packet information prefix of four bytes in front and
aim the frame at the TAP device, and each does it in an order of its own:

* for an ARP reply the addresses are rewritten **before** the prefix is there;
* for a diverted packet the pointer to the Ethernet header is taken before, and
  written through after, so it still points at the frame;
* for the verdict the pointer is taken after, so it points at the **prefix**: four
  bytes of the address land there and two on the first bytes of the frame.

`ToKernel` lists the three paths with the frame that should arrive, and
`tapWrites_eq_iff` says which of them deliver it.
-/

namespace UdxFastpath.Cndp

open ByteWindow

variable {σ : Type*}

/-- The length of the packet information prefix a packet gets: none without the
headroom for it. -/
def piLen (b : Window) : ℕ := if PI_LEN ≤ b.off then PI_LEN else 0

/-- Overwriting the first six bytes of the **prefixed** frame leaves the frame as if its
own first six bytes had been overwritten. -/
def AimedAlike (mac : EtherAddr) (g : Window) : Prop :=
  ∀ j < g.len, j < ETH_ALEN →
    (if j < 2 then mac.toList.getD (PI_LEN + j) 0 else g.byte j) = mac.toList.getD j 0

/-! ## The two prefixed writes -/

section Frames

variable (dm : DataPlaneManager) (b : Window)

/-- Reading behind the prefix reads the packet. -/
theorem prependData_of_le (h : PI_LEN ≤ b.off) :
    (prependData b PI_LEN).len = b.len + PI_LEN ∧ b.off - (prependData b PI_LEN).off = PI_LEN ∧
      ∀ j, (prependData b PI_LEN).byte (PI_LEN + j) = b.byte j := by
  obtain ⟨c, hc, hmem, hoff, hlen⟩ := b.prepend_eq_some h
  have hpre : prependData b PI_LEN = c := by rw [prependData, hc, Option.getD_some]
  rw [hpre]
  refine ⟨hlen, by omega, fun j => ?_⟩
  rw [Window.byte, Window.byte, hmem]
  exact congrArg b.mem (by omega)

theorem prependData_of_lt (h : b.off < PI_LEN) : prependData b PI_LEN = b := by
  rw [prependData, (b.prepend_eq_none_iff _).mpr h, Option.getD_none]

/-- A filtered packet is written readdressed to the TAP device, behind its prefix. -/
theorem filtered_bytes :
    (((prependData b PI_LEN).store (b.off - (prependData b PI_LEN).off)
      dm.tapMacAddr.toList).bytes).drop (piLen b) = (b.store 0 dm.tapMacAddr.toList).bytes := by
  by_cases h : PI_LEN ≤ b.off
  · obtain ⟨hlen, hoff, hbyte⟩ := prependData_of_le b h
    rw [piLen, if_pos h, hoff, Window.drop_bytes_eq_iff (by simpa using hlen)]
    intro j _
    rw [Window.byte_store, Window.byte_store, if_pos (by omega), if_pos (by omega), hbyte]
    simp
  · rw [piLen, if_neg h, prependData_of_lt b (by omega), Nat.sub_self, List.drop_zero]

/-- A packet with verdict `KERNEL` is written as the worker writes it exactly when the
prefix does no harm. -/
theorem kernelFrame_bytes_eq_iff :
    (kernelFrame dm b).bytes.drop (piLen b) = (b.store 0 dm.tapMacAddr.toList).bytes ↔
      b.off < PI_LEN ∨ AimedAlike dm.tapMacAddr b := by
  by_cases h : PI_LEN ≤ b.off
  · obtain ⟨hlen, -, hbyte⟩ := prependData_of_le b h
    rw [piLen, if_pos h, kernelFrame,
      Window.drop_bytes_eq_iff (by simpa [PI_LEN] using hlen), or_iff_right (by omega)]
    refine forall₂_congr fun j _ => ?_
    rw [Window.byte_store, Window.byte_store, if_pos (by omega), if_pos (by omega)]
    simp only [PI_LEN, Nat.sub_zero] at hbyte ⊢
    rw [hbyte j]
    by_cases hj : j < ETH_ALEN
    · -- the six bytes the address is written over
      simp only [ETH_ALEN] at hj
      interval_cases j <;> simp [EtherAddr.toList, ETH_ALEN]
    · simp only [ETH_ALEN] at hj
      rw [List.getElem?_eq_none (by simp; omega), List.getElem?_eq_none (by simp; omega)]
      simp [ETH_ALEN, hj]
  · rw [piLen, if_neg h, List.drop_zero, kernelFrame]
    have hself : prependData b 4 = b := prependData_of_lt b (by omega)
    simp only [hself, true_iff]
    exact .inl (by omega)

end Frames

/-! ## The three paths -/

/-- The bytes written to the TAP device, in order. -/
def tapWrites (evs : List Event) : List (List UInt8) :=
  evs.filterMap fun
    | .tapWrite _ bytes => some bytes
    | _ => none

/-- **The ways to the kernel.**  `ToKernel env b s f image`: the iteration on `b` sends
the frame `f` to the kernel, where it should arrive as `image`. -/
inductive ToKernel (env : Env σ) (b : Window) (s : σ) : Window → Window → Prop
  | arpReply (harp : getEtherType b = .l2EtherArp) (hreply : DataPlaneManager.IsArpReply b) :
      ToKernel env b s b ((b.store 0 env.dm.tapMacAddr.toList).store (ETH_HLEN + 18)
        env.dm.tapMacAddr.toList)
  | filtered (harp : getEtherType b ≠ .l2EtherArp) (hdiverted : Diverted env.dm b) :
      ToKernel env b s b (b.store 0 env.dm.tapMacAddr.toList)
  | verdict (harp : getEtherType b ≠ .l2EtherArp) (hdiverted : ¬ Diverted env.dm b)
      (hkernel : (env.packetProcessor s b env.lport.lpid).1 = KERNEL) :
      ToKernel env b s (env.packetProcessor s b env.lport.lpid).2.1
        ((env.packetProcessor s b env.lport.lpid).2.1.store 0 env.dm.tapMacAddr.toList)

/-- The iteration writes `image` once, behind a prefix of four bytes. -/
def WritesPrefixed (env : Env σ) (i : ℕ) (b : Window) (s : σ) (image : Window) : Prop :=
  ∃ pi : List UInt8, pi.length = PI_LEN ∧
    tapWrites (rtcPacket env i b s).1 = [pi ++ image.bytes]

section Paths

variable (env : Env σ) (i : ℕ) (b : Window) (s : σ)

/-- Every write is on one of the three paths.  The exception takes a logical port
whose number is the verdict `KERNEL`: an ARP request answered there goes to the TAP
device. -/
theorem toKernel_of_mem_tapWrites {bytes : List UInt8}
    (h : bytes ∈ tapWrites (rtcPacket env i b s).1) :
    (∃ f image, ToKernel env b s f image) ∨ env.lport.lpid = KERNEL := by
  rw [rtcPacket] at h
  split at h
  · rename_i harp
    by_cases hreply : DataPlaneManager.IsArpReply b
    · exact .inl ⟨_, _, .arpReply harp hreply⟩
    · by_cases hask : env.dm.AsksForTap b
      · by_contra hcon
        have hne : ¬ env.lport.lpid = KERNEL := fun hk => hcon (.inr hk)
        simp only [arpStage, DataPlaneManager.arpHandler_of_asksForTap hask, hne, if_false] at h
        split at h <;> simp [tapWrites] at h
      · simp [arpStage, DataPlaneManager.arpHandler_of_neither hask hreply, tapWrites,
          show DROP ≠ KERNEL by decide] at h
  · rename_i harp
    split at h
    · rename_i hdiverted
      exact .inl ⟨_, _, .filtered harp hdiverted⟩
    · rename_i hdiverted
      by_cases hkernel : (env.packetProcessor s b env.lport.lpid).1 = KERNEL
      · exact .inl ⟨_, _, .verdict harp hdiverted hkernel⟩
      · simp only [verdictStage, hkernel, if_false] at h
        split at h
        · simp [tapWrites] at h
        · split at h <;> simp [tapWrites] at h

end Paths

/-- Splitting a fixed number of bytes off the front. -/
theorem exists_append_eq_iff {l x : List UInt8} {n : ℕ} (hle : n ≤ l.length) :
    (∃ pi : List UInt8, pi.length = n ∧ l = pi ++ x) ↔ l.drop n = x := by
  constructor
  · rintro ⟨pi, rfl, rfl⟩
    exact List.drop_left
  · rintro rfl
    exact ⟨l.take n, List.length_take_of_le hle, (List.take_append_drop n l).symm⟩

section Delivery

variable {env : Env σ} {b f image : Window} {s : σ}

/-- A write of `c` delivers `image` when what is behind the prefix is `image`. -/
theorem writesPrefixed_iff {i : ℕ} {c : Window}
    (hwrite : tapWrites (rtcPacket env i b s).1 = [c.bytes]) (hlen : c.len = image.len + PI_LEN) :
    WritesPrefixed env i b s image ↔ c.bytes.drop PI_LEN = image.bytes := by
  simp only [WritesPrefixed, hwrite, List.cons.injEq, and_true]
  exact exists_append_eq_iff (by rw [Window.length_bytes]; omega)

/-- **All paths write the same frame, except the verdict.**  With headroom for the
prefix, an iteration that sends `f` to the kernel writes four bytes and then `f`
aimed at the TAP device exactly when `f` is an ARP reply or was diverted, or when it
does not matter to `f` where the address is put. -/
theorem tapWrites_eq_iff (i : ℕ) (hpath : ToKernel env b s f image) (hroom : PI_LEN ≤ f.off) :
    WritesPrefixed env i b s image ↔
      getEtherType b = .l2EtherArp ∨ Diverted env.dm b ∨ AimedAlike env.dm.tapMacAddr f := by
  cases hpath with
  | arpReply harp hreply =>
      rw [iff_true_right (.inl harp)]
      have hstage : tapWrites (rtcPacket env i b s).1 =
          [(prependData ((b.store 0 env.dm.tapMacAddr.toList).store (ETH_HLEN + 18)
            env.dm.tapMacAddr.toList) PI_LEN).bytes] := by
        rw [rtcPacket, if_pos harp, arpStage, DataPlaneManager.arpHandler_of_isArpReply_eq hreply]
        rfl
      obtain ⟨hlen, -, hbyte⟩ := prependData_of_le ((b.store 0 env.dm.tapMacAddr.toList).store
        (ETH_HLEN + 18) env.dm.tapMacAddr.toList) hroom
      rw [writesPrefixed_iff hstage hlen, Window.drop_bytes_eq_iff hlen]
      exact fun j _ => hbyte j
  | filtered harp hdiverted =>
      rw [iff_true_right (.inr (.inl hdiverted))]
      have hstage : tapWrites (rtcPacket env i b s).1 =
          [((prependData b PI_LEN).store (b.off - (prependData b PI_LEN).off)
            env.dm.tapMacAddr.toList).bytes] := by
        rw [rtcPacket, if_neg harp, if_pos hdiverted]
        rfl
      have hbytes := filtered_bytes env.dm b
      rw [piLen, if_pos hroom] at hbytes
      rw [writesPrefixed_iff hstage (by exact (prependData_of_le b hroom).1)]
      exact hbytes
  | verdict harp hdiverted hkernel =>
      rw [or_iff_right harp, or_iff_right hdiverted]
      have hstage : tapWrites (rtcPacket env i b s).1 =
          [(kernelFrame env.dm (env.packetProcessor s b env.lport.lpid).2.1).bytes] := by
        rw [rtcPacket, if_neg harp, if_neg hdiverted]
        simp only [verdictStage, hkernel, if_true]
        rfl
      have hbytes := kernelFrame_bytes_eq_iff env.dm (env.packetProcessor s b env.lport.lpid).2.1
      rw [piLen, if_pos hroom, or_iff_right (by omega)] at hbytes
      rw [writesPrefixed_iff hstage (by exact (prependData_of_le _ hroom).1)]
      exact hbytes

end Delivery

/-! ## A packet for the kernel -/

/-- One lport, no filter, TAP MAC address `02:00:00:00:00:01`, and a handler that sends
everything to the kernel. -/
def kernelAll : Env Unit where
  dm := ⟨false, ∅, 1, ⟨fun i => [0x02, 0, 0, 0, 0, 0x01].getD i 0⟩, [default]⟩
  jinfo := forwardAll.jinfo
  lport := forwardAll.lport
  lport_lt := forwardAll.lport_lt
  packetProcessor := fun s b _ => (KERNEL, b, s)

/-- **The verdict `KERNEL` damages the frame**: behind the four bytes it starts with the
last two bytes of the TAP address, and its destination is not the TAP device. -/
theorem kernelAll_misaims :
    ToKernel kernelAll (udpFrame 80) () (udpFrame 80)
        ((udpFrame 80).store 0 kernelAll.dm.tapMacAddr.toList) ∧
      PI_LEN ≤ (udpFrame 80).off ∧
      ¬ WritesPrefixed kernelAll 0 (udpFrame 80) ()
        ((udpFrame 80).store 0 kernelAll.dm.tapMacAddr.toList) := by
  refine ⟨.verdict (by decide) (by decide) rfl, by decide, ?_⟩
  rintro ⟨pi, hpi, hwrite⟩
  have hbytes := (exists_append_eq_iff (by decide)).mp ⟨pi, hpi, List.cons.inj hwrite |>.1⟩
  exact absurd hbytes (by decide)

/-- The iff at an ARP reply. -/
theorem kernelAll_delivers_arpReply :
    WritesPrefixed kernelAll 0 (arpFrame 2 0) ()
      (((arpFrame 2 0).store 0 kernelAll.dm.tapMacAddr.toList).store (ETH_HLEN + 18)
        kernelAll.dm.tapMacAddr.toList) :=
  (tapWrites_eq_iff (s := ()) 0 (.arpReply (by decide) (by decide)) (by decide)).mpr
    (.inl (by decide))

end UdxFastpath.Cndp
