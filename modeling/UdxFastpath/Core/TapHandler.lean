import UdxFastpath.Dpdk.RunToCompletion
import UdxFastpath.Foundation.ByteFields

/-!
# The TAP threads

`tap_handler_cndp` and `tap_handler_dpdk`: read a frame from the TAP device,
classify it, and send it out.  An ARP frame goes to every logical port, each copy
with that port's address in it; for any other frame the registered `tap_processor`
names the port.

Both threads read into one array of 2048 bytes and never clear it, so behind a
frame lie the remains of earlier ones: the iterations carry the array from frame
to frame.

The device is created with `IFF_NO_PI`: **one read returns the frame**, nothing in
front of it.  The DPDK thread takes the frame at the start of the array.  The CNDP
thread takes it `PI_LEN` bytes later, and everything it looks at or sends lacks the
first four bytes of the frame (`tapHandler_framed`).
-/

namespace UdxFastpath

open ByteWindow

/-! ## Frames and actions -/

/-- A frame one read returns: not empty, and no longer than the array. -/
structure TapFrame where
  bytes : List UInt8
  pos : 0 < bytes.length
  le : bytes.length ≤ 2048

/-- An action of a TAP thread.  The two questions are recorded with the bytes they are
about, `overrun` is a copy of negative length, and `wild` an access past the end of an
array. -/
inductive TapAction
  | getEtherType (bytes : List UInt8) (ptype : PType)
  | tapProcessor (bytes : List UInt8) (verdict : ℕ)
  | transmit (lport : ℕ) (bytes : List UInt8)
  | overrun (lport : ℕ)
  | wild (index : ℕ)
  deriving DecidableEq

/-- A registered `tap_processor`: from its own state, the frame and the length it is told
to a verdict and its next state.  It is not expected to rewrite the frame. -/
abbrev TapProcessor (σ : Type*) := σ → Window → ℤ → ℕ × σ

/-- The array `buffer` after a read, seen from `offset` on: the frame, behind it what the
array held before. -/
def readFrame (buffer : ℕ → UInt8) (f : TapFrame) (offset : ℕ) (hoff : offset ≤ PI_LEN) :
    Window where
  mem a := f.bytes.getD a (buffer a)
  off := offset
  len := f.bytes.length - offset
  fits := by
    have hle := f.le
    have hpi : PI_LEN = 4 := rfl
    omega

/-- The data seen from `offset` on is the frame without its first `offset` bytes. -/
theorem bytes_readFrame (buffer : ℕ → UInt8) (f : TapFrame) (offset : ℕ) (hoff : offset ≤ PI_LEN) :
    (readFrame buffer f offset hoff).bytes = f.bytes.drop offset := by
  refine List.ext_getElem? fun j => ?_
  rw [Window.getElem?_bytes, List.getElem?_drop]
  by_cases hj : offset + j < f.bytes.length
  · rw [if_pos (by simp only [readFrame]; omega), List.getElem?_eq_getElem hj]
    simp only [Window.byte, readFrame, List.getD_eq_getElem _ _ hj]
  · rw [if_neg (by simp only [readFrame]; omega), List.getElem?_eq_none (by omega)]

/-! ## ARP frames -/

/-- Put a port's address into an ARP frame, as ARP sender and as Ethernet source. -/
def relabel (mac : EtherAddr) (b : Window) : Window :=
  (b.store (ETH_HLEN + 8) mac.toList).store ETH_ALEN mac.toList

/-- The loop over the logical ports from `lport` on: the frame is relabelled **in place** and
sent once for each of them. -/
def fanOut (send : Window → ℕ → List TapAction) :
    List EtherAddr → ℕ → Window → List TapAction × Window
  | [], _, b => ([], b)
  | mac :: macs, lport, b =>
      let b := relabel mac b
      let rest := fanOut send macs (lport + 1) b
      (send b lport ++ rest.1, rest.2)

/-- The loop of either thread over the frames it reads: the actions, frame by frame. -/
def tapLoop {S : Type*} (body : TapFrame → S → List TapAction × S) :
    List TapFrame → S → List (List TapAction)
  | [], _ => []
  | f :: rest, st => (body f st).1 :: tapLoop body rest (body f st).2

/-- What a thread does with a frame is one iteration, from whatever state it is in by
then. -/
theorem getElem?_tapLoop {S : Type*} (body : TapFrame → S → List TapAction × S)
    (frames : List TapFrame) :
    ∀ (j : ℕ) (st : S) {f : TapFrame}, frames[j]? = some f →
      ∃ st', (tapLoop body frames st)[j]? = some (body f st').1 := by
  induction frames with
  | nil => intro j st f h; simp at h
  | cons f₀ rest ih =>
      intro j st f h
      cases j with
      | zero =>
          rw [List.getElem?_cons_zero, Option.some.injEq] at h
          subst h
          exact ⟨st, rfl⟩
      | succ j =>
          rw [List.getElem?_cons_succ] at h
          exact ih j _ h

/-! ## CNDP -/

namespace Cndp

/-- What the thread reads: the addresses of the logical ports in the order of
`cndp_lport_mac`, for each forwarding thread the id of its first lport, and the registered
handler. -/
structure TapEnv (σ : Type*) where
  cndpLportMac : List EtherAddr
  threadLport : List ℕ
  tapProcessor : TapProcessor σ

variable {σ : Type*}

/-- `send_single_packet_cndp`: send on the first lport of the thread `lpid`.  A buffer is
available. -/
def sendSinglePacket (env : TapEnv σ) (readLen : ℤ) (b : Window) (lpid : ℕ) : List TapAction :=
  match env.threadLport[lpid]? with
  | none => [.wild lpid]
  | some lport => if readLen < 0 then [.overrun lport] else [.transmit lport b.bytes]

/-- One iteration of `tap_handler_cndp`: actions, array and handler state. -/
def tapPacket (env : TapEnv σ) (f : TapFrame) (st : (ℕ → UInt8) × σ) :
    List TapAction × (ℕ → UInt8) × σ :=
  let readLen : ℤ := f.bytes.length - PI_LEN
  let b := readFrame st.1 f PI_LEN le_rfl
  let etherType := getEtherType b
  let classified := TapAction.getEtherType b.bytes etherType
  if etherType = .l2EtherArp then
    let r := fanOut (sendSinglePacket env readLen) env.cndpLportMac 0 b
    (classified :: r.1, r.2.mem, st.2)
  else
    let r := env.tapProcessor st.2 b readLen
    let asked := TapAction.tapProcessor b.bytes r.1
    if r.1 = DROP ∨ r.1 = KERNEL then ([classified, asked], b.mem, r.2)
    else (classified :: asked :: sendSinglePacket env readLen b r.1, b.mem, r.2)

/-- `tap_handler_cndp` on the frames it reads. -/
def tapHandler (env : TapEnv σ) (frames : List TapFrame) (st : (ℕ → UInt8) × σ) :
    List (List TapAction) :=
  tapLoop (tapPacket env) frames st

end Cndp

/-! ## DPDK -/

namespace Dpdk

/-- What the thread reads: the configured prefix of `lports`, the devices' addresses in the
same order, and the registered handler. -/
structure TapEnv (σ : Type*) where
  lports : List ℕ
  lports_le : lports.length ≤ RTE_MAX_ETHPORTS
  dpdkPortMac : List EtherAddr
  length_eq : dpdkPortMac.length = lports.length
  tapProcessor : TapProcessor σ

variable {σ : Type*}

/-- `send_single_packet_dpdk`: send on the device of the logical port `lpid`, queue 0.  A
buffer is available. -/
def sendSinglePacket (b : Window) (lpid : ℕ) : List TapAction :=
  if lpid < RTE_MAX_ETHPORTS then [.transmit lpid b.bytes] else [.wild lpid]

/-- One iteration of `tap_handler_dpdk`: actions, array and handler state. -/
def tapPacket (env : TapEnv σ) (f : TapFrame) (st : (ℕ → UInt8) × σ) :
    List TapAction × (ℕ → UInt8) × σ :=
  let b := readFrame st.1 f 0 (Nat.zero_le _)
  let etherType := getEtherType b
  let classified := TapAction.getEtherType b.bytes etherType
  if etherType = .l2EtherArp then
    let r := fanOut sendSinglePacket env.dpdkPortMac 0 b
    (classified :: r.1, r.2.mem, st.2)
  else
    let r := env.tapProcessor st.2 b f.bytes.length
    let asked := TapAction.tapProcessor b.bytes r.1
    if r.1 = DROP ∨ r.1 = KERNEL then ([classified, asked], b.mem, r.2)
    else
      match env.dpdkPortMac[r.1]? with
      | none => ([classified, asked, .wild r.1], b.mem, r.2)
      | some mac =>
          let b := b.store ETH_ALEN mac.toList
          (classified :: asked :: sendSinglePacket b r.1, b.mem, r.2)

/-- `tap_handler_dpdk` on the frames it reads. -/
def tapHandler (env : TapEnv σ) (frames : List TapFrame) (st : (ℕ → UInt8) × σ) :
    List (List TapAction) :=
  tapLoop (tapPacket env) frames st

end Dpdk

/-! ## Framing -/

/-- **Framing from the kernel to the wire.**  A thread with `n` logical ports classifies `f`
itself, and if `f` is no ARP frame it asks the handler about `f` itself and, when the verdict
is a port, sends `image port` there and nothing else. -/
def Framed (n : ℕ) (image : ℕ → List UInt8) (f : List UInt8) (acts : List TapAction) : Prop :=
  ∃ ptype rest, acts = .getEtherType f ptype :: rest ∧
    (ptype ≠ .l2EtherArp → ∃ verdict rest', rest = .tapProcessor f verdict :: rest' ∧
      (verdict < n → rest' = [.transmit verdict (image verdict)]))

/-- The frame DPDK should send on a port: its source is the port's address. -/
def Dpdk.TapEnv.image {σ : Type*} (env : Dpdk.TapEnv σ) (f : List UInt8) (port : ℕ) : List UInt8 :=
  overwrite f ETH_ALEN (env.dpdkPortMac.getD port default).toList

section Framing

variable {σ τ : Type*}

/-- A port of the DPDK thread is neither of the special verdicts. -/
theorem Dpdk.TapEnv.ne_special (env : Dpdk.TapEnv σ) {port : ℕ} (h : port < env.lports.length) :
    port ≠ DROP ∧ port ≠ KERNEL := by
  have hle := env.lports_le
  have hmax : Dpdk.RTE_MAX_ETHPORTS = 32 := rfl
  have hdrop : DROP = 3000 := rfl
  have hkernel : KERNEL = 1000 := rfl
  omega

/-- The DPDK thread frames every frame. -/
theorem Dpdk.framed_tapPacket (env : Dpdk.TapEnv σ) (f : TapFrame) (st : (ℕ → UInt8) × σ) :
    Framed env.lports.length (env.image f.bytes) f.bytes (Dpdk.tapPacket env f st).1 := by
  have hbytes : (readFrame st.1 f 0 (Nat.zero_le _)).bytes = f.bytes := by
    rw [bytes_readFrame, List.drop_zero]
  simp only [Dpdk.tapPacket, hbytes]
  split_ifs with harp hspecial
  · exact ⟨_, _, rfl, fun hne => absurd harp hne⟩
  · -- dropped, or back to the kernel: the verdict is no port
    refine ⟨_, _, rfl, fun _ => ⟨_, _, rfl, fun hlt => ?_⟩⟩
    have hne := env.ne_special hlt
    exact absurd hspecial (not_or.mpr hne)
  · split
    · rename_i hnone
      refine ⟨_, _, rfl, fun _ => ⟨_, _, rfl, fun hlt => ?_⟩⟩
      rw [List.getElem?_eq_none_iff, env.length_eq] at hnone
      omega
    · rename_i mac hmac
      refine ⟨_, _, rfl, fun _ => ⟨_, _, rfl, fun hlt => ?_⟩⟩
      rw [Dpdk.sendSinglePacket, if_pos (Nat.lt_of_lt_of_le hlt env.lports_le), bytes_store, hbytes,
        Dpdk.TapEnv.image, List.getD_eq_getElem?_getD, hmac, Option.getD_some]

/-- The CNDP thread classifies the frame without its first four bytes. -/
theorem Cndp.classified_tapPacket (env : Cndp.TapEnv σ) (f : TapFrame) (st : (ℕ → UInt8) × σ) :
    ∃ ptype rest,
      (Cndp.tapPacket env f st).1 = .getEtherType (f.bytes.drop PI_LEN) ptype :: rest := by
  simp only [Cndp.tapPacket, bytes_readFrame]
  split_ifs <;> exact ⟨_, _, rfl⟩

/-- …which is never the frame itself. -/
theorem Cndp.not_framed_tapPacket (env : Cndp.TapEnv σ) (f : TapFrame) (st : (ℕ → UInt8) × σ)
    (n : ℕ) (image : ℕ → List UInt8) : ¬ Framed n image f.bytes (Cndp.tapPacket env f st).1 := by
  rintro ⟨ptype, rest, hacts, -⟩
  obtain ⟨ptype', rest', hacts'⟩ := Cndp.classified_tapPacket env f st
  rw [hacts'] at hacts
  injection hacts with hhead
  injection hhead with hdrop
  have hlen := congrArg List.length hdrop
  have hpos := f.pos
  have hpi : PI_LEN = 4 := rfl
  rw [List.length_drop] at hlen
  omega

/-- **The DPDK thread frames every frame, the CNDP thread none.**  In every run of the two
threads over frames the kernel wrote, whatever the array held and whatever the handlers do:
the DPDK thread classifies each frame itself and sends it complete, with the port's address as
its source; the CNDP thread classifies what is left of it behind the first four bytes, and
that is not the frame. -/
theorem tapHandler_framed (cndp : Cndp.TapEnv σ) (dpdk : Dpdk.TapEnv τ) (frames : List TapFrame)
    (st : (ℕ → UInt8) × σ) (st' : (ℕ → UInt8) × τ) (n : ℕ) (j : ℕ) (f : TapFrame)
    (hget : frames[j]? = some f) :
    ∃ acts acts', (Cndp.tapHandler cndp frames st)[j]? = some acts ∧
      (Dpdk.tapHandler dpdk frames st')[j]? = some acts' ∧
      Framed dpdk.lports.length (dpdk.image f.bytes) f.bytes acts' ∧
      ¬ Framed n (fun _ => f.bytes) f.bytes acts ∧
      ∃ ptype rest, acts = .getEtherType (f.bytes.drop PI_LEN) ptype :: rest := by
  obtain ⟨s, hacts⟩ := getElem?_tapLoop (Cndp.tapPacket cndp) frames j st hget
  obtain ⟨s', hacts'⟩ := getElem?_tapLoop (Dpdk.tapPacket dpdk) frames j st' hget
  exact ⟨_, _, hacts, hacts', Dpdk.framed_tapPacket dpdk f s',
    Cndp.not_framed_tapPacket cndp f s n _, Cndp.classified_tapPacket cndp f s⟩

end Framing

/-! ## A frame for port 0 -/

/-- One lport with its own thread, and a handler that sends everything there. -/
def Cndp.tapToZero : Cndp.TapEnv Unit := ⟨[default], [0], fun s _ _ => (0, s)⟩

/-- …and the same for DPDK. -/
def Dpdk.tapToZero : Dpdk.TapEnv Unit :=
  ⟨[0], Nat.le_of_ble_eq_true rfl, [default], rfl, fun s _ _ => (0, s)⟩

/-- A minimum-size frame from the kernel. -/
def udpTapFrame : TapFrame := ⟨(udpFrame 80).bytes, by decide, by decide⟩

/-- **CNDP sends a frame that starts four bytes late**: the same verdict for the same frame,
60 bytes from DPDK and 56 from CNDP. -/
theorem tapToZero_shifted :
    (Cndp.tapPacket Cndp.tapToZero udpTapFrame (fun _ => 0, ())).1 =
        [.getEtherType (udpTapFrame.bytes.drop 4) .l2Ether,
          .tapProcessor (udpTapFrame.bytes.drop 4) 0, .transmit 0 (udpTapFrame.bytes.drop 4)] ∧
      ¬ Framed 1 (fun _ => udpTapFrame.bytes) udpTapFrame.bytes
        (Cndp.tapPacket Cndp.tapToZero udpTapFrame (fun _ => 0, ())).1 :=
  ⟨by decide +kernel, Cndp.not_framed_tapPacket _ _ _ _ _⟩

/-- The theorem at a run over one frame. -/
theorem tapHandler_framed_udp :
    ∃ acts', (Dpdk.tapHandler Dpdk.tapToZero [udpTapFrame] (fun _ => 0, ()))[0]? = some acts' ∧
      Framed 1 (Dpdk.tapToZero.image udpTapFrame.bytes) udpTapFrame.bytes acts' := by
  obtain ⟨acts, acts', -, hget, hframed, -⟩ := tapHandler_framed Cndp.tapToZero Dpdk.tapToZero
    [udpTapFrame] (fun _ => 0, ()) (fun _ => 0, ()) 1 0 udpTapFrame rfl
  exact ⟨acts', hget, hframed⟩

end UdxFastpath
