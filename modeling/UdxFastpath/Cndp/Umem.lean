import UdxFastpath.Foundation.Tiling
import Mathlib.Algebra.BigOperators.Ring.List

/-!
# The regions of a UMEM

The branch of `process_callback` for a UMEM: the buffer counts of the regions have to add
up to that of the UMEM, the UMEM is allocated, and every region gets the next stretch of
it and a buffer pool there.

Counts and sizes have 32 bits, and so has everything computed from them before it is added
to an address.  `tilesUmem_iff` says what that leaves of the tiling.
-/

namespace UdxFastpath.Cndp

open Tiling

/-- The UMEM as configured; `rinfo` has the buffer counts of the regions. -/
structure JcfgUmem where
  bufcnt : UInt32
  bufsz : UInt32
  rinfo : List UInt32

/-- A region as set up, with the pool made for it. -/
structure RegionInfo where
  bufcnt : UInt32
  addr : ℕ
  pool : ℕ
  deriving DecidableEq

/-- What is called: `mmap_alloc` with `mmap_addr`, and `pktmbuf_pool_create`.  Either can
fail. -/
structure UmemCalls where
  mmapAlloc : UInt32 → UInt32 → Option ℕ
  pktmbufPoolCreate : ℕ → UInt32 → UInt32 → UInt32 → Option ℕ
  cacheSz : UInt32

/-- The first loop: the buffer counts, added up in 32 bits. -/
def totalRegionCnt (rinfo : List UInt32) : UInt32 := rinfo.foldl (· + ·) 0

/-- The second loop from `umem_addr` on.  The product is one of 32 bits. -/
def createRegions (calls : UmemCalls) (bufsz : UInt32) :
    ℕ → List UInt32 → Option (List RegionInfo)
  | _, [] => some []
  | umemAddr, bufcnt :: rest => do
      let pool ← calls.pktmbufPoolCreate umemAddr bufcnt bufsz calls.cacheSz
      let regions ← createRegions calls bufsz (umemAddr + (bufcnt * bufsz).toNat) rest
      return ⟨bufcnt, umemAddr, pool⟩ :: regions

/-- `process_callback` on a UMEM: its base and its regions, or nothing on an error. -/
def processUmem (calls : UmemCalls) (umem : JcfgUmem) : Option (ℕ × List RegionInfo) :=
  if totalRegionCnt umem.rinfo ≠ umem.bufcnt then none
  else do
    let umemAddr ← calls.mmapAlloc umem.bufcnt umem.bufsz
    let regions ← createRegions calls umem.bufsz umemAddr umem.rinfo
    return (umemAddr, regions)

/-- The stretch of memory a region has, in exact arithmetic. -/
def RegionInfo.range (bufsz : UInt32) (r : RegionInfo) : ℕ × ℕ :=
  (r.addr, r.bufcnt.toNat * bufsz.toNat)

/-- **The regions tile the UMEM**: they lie end to end from the base to the end of what was
allocated, and no address belongs to two of them. -/
structure TilesUmem (umem : JcfgUmem) (base : ℕ) (regions : List RegionInfo) : Prop where
  consecutive : Consecutive base (regions.map (·.range umem.bufsz))
    (base + umem.bufcnt.toNat * umem.bufsz.toNat)
  disjoint : (regions.map (·.range umem.bufsz)).Pairwise fun p q =>
    ∀ x, ¬ ((p.1 ≤ x ∧ x < p.1 + p.2) ∧ q.1 ≤ x ∧ x < q.1 + q.2)

section Regions

variable {calls : UmemCalls} {bufsz : UInt32} {rinfo : List UInt32} {regions : List RegionInfo}

/-- The second loop lays the regions down, with a cursor that moves by the length modulo
`2 ^ 32`. -/
theorem range_createRegions {umemAddr : ℕ}
    (h : createRegions calls bufsz umemAddr rinfo = some regions) :
    regions.map (·.range bufsz) =
      lay (· % 4294967296) umemAddr (rinfo.map fun cnt => cnt.toNat * bufsz.toNat) := by
  induction rinfo generalizing umemAddr regions with
  | nil =>
      obtain rfl := Option.some.inj h
      rfl
  | cons cnt rest ih =>
      rw [createRegions] at h
      obtain ⟨pool, -, h⟩ := Option.bind_eq_some_iff.mp h
      obtain ⟨tail, htail, h⟩ := Option.bind_eq_some_iff.mp h
      obtain rfl := Option.some.inj h
      rw [List.map_cons, List.map_cons, lay, ih htail, UInt32.toNat_mul]
      rfl

/-- What was accepted. -/
theorem processUmem_eq_some {umem : JcfgUmem} {base : ℕ}
    (h : processUmem calls umem = some (base, regions)) :
    createRegions calls umem.bufsz base umem.rinfo = some regions := by
  unfold processUmem at h
  split at h
  · cases h
  · obtain ⟨umemAddr, -, h⟩ := Option.bind_eq_some_iff.mp h
    obtain ⟨made, hmade, h⟩ := Option.bind_eq_some_iff.mp h
    obtain ⟨rfl, rfl⟩ := Prod.mk.inj (Option.some.inj h)
    exact hmade

end Regions

/-- **When the regions of an accepted UMEM tile it**: the bytes of every region but the last can
be counted in 32 bits, and the buffer counts add up exactly, not just in 32 bits, or the
buffers have no bytes. -/
theorem tilesUmem_iff (calls : UmemCalls) (umem : JcfgUmem) (base : ℕ) (regions : List RegionInfo)
    (h : processUmem calls umem = some (base, regions)) :
    TilesUmem umem base regions ↔
      (∀ cnt ∈ umem.rinfo.dropLast, cnt.toNat * umem.bufsz.toNat < 4294967296) ∧
        ((umem.rinfo.map UInt32.toNat).sum = umem.bufcnt.toNat ∨ umem.bufsz = 0) := by
  have hsum : (umem.rinfo.map fun cnt => cnt.toNat * umem.bufsz.toNat).sum =
      (umem.rinfo.map UInt32.toNat).sum * umem.bufsz.toNat :=
    List.sum_map_mul_right umem.rinfo UInt32.toNat umem.bufsz.toNat
  have hmod : ∀ n, n % 4294967296 = n ↔ n < 4294967296 := fun n => by omega
  have hzero : umem.bufsz.toNat = 0 ↔ umem.bufsz = 0 := by
    rw [← UInt32.toNat_inj]
    rfl
  have hconsecutive : Consecutive base (regions.map (·.range umem.bufsz))
      (base + umem.bufcnt.toNat * umem.bufsz.toNat) ↔
      (∀ cnt ∈ umem.rinfo.dropLast, cnt.toNat * umem.bufsz.toNat < 4294967296) ∧
        ((umem.rinfo.map UInt32.toNat).sum = umem.bufcnt.toNat ∨ umem.bufsz = 0) := by
    rw [range_createRegions (processUmem_eq_some h), consecutive_lay_iff, hsum,
      Nat.add_left_cancel_iff, mul_eq_mul_right_iff, hzero, ← List.map_dropLast,
      List.forall_mem_map]
    simp only [hmod]
  rw [← hconsecutive]
  refine ⟨TilesUmem.consecutive, fun htiled => ⟨htiled, htiled.pairwise.imp ?_⟩⟩
  intro p q hle x hboth
  omega

/-- Calls that succeed, with the UMEM at address `0x10000`. -/
def succeeding : UmemCalls := ⟨fun _ _ => some 65536, fun _ _ _ _ => some 1, 256⟩

/-- The iff at the regions of the template. -/
theorem tilesUmem_template :
    TilesUmem ⟨512, 2048, [256, 256]⟩ 65536 [⟨256, 65536, 1⟩, ⟨256, 589824, 1⟩] :=
  (tilesUmem_iff succeeding ⟨512, 2048, [256, 256]⟩ 65536
    [⟨256, 65536, 1⟩, ⟨256, 589824, 1⟩] (by decide)).mpr
      ⟨List.forall_mem_singleton.mpr (by decide), .inl (by decide)⟩

/-- **Two regions of four gigabytes are one**: both start at the base. -/
theorem bigRegions_overlap :
    processUmem succeeding ⟨2097152, 4096, [1048576, 1048576]⟩ =
        some (65536, [⟨1048576, 65536, 1⟩, ⟨1048576, 65536, 1⟩]) ∧
      ¬ TilesUmem ⟨2097152, 4096, [1048576, 1048576]⟩ 65536
        [⟨1048576, 65536, 1⟩, ⟨1048576, 65536, 1⟩] := by
  refine ⟨by decide, fun h => ?_⟩
  have hapart := (List.pairwise_pair.mp h.disjoint) 65536
  exact hapart (by decide)

end UdxFastpath.Cndp
