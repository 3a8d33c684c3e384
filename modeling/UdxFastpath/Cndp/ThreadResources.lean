import UdxFastpath.Cndp.Cleanup
import Mathlib.Data.List.GetD

/-!
# What a forwarding thread creates and destroys

Behind the barrier `rx_tx_thread` creates a TX buffer for every lport, in an array that
hangs on `thd->priv_`, and, if the thread has an idle timeout, an idle manager.  Then it
polls its lports until it is told to quit or a call fails.  Every failure on the way goes
to one of two labels, which destroy what there is, or ends the process.

* `Equipped`: what a thread has as long as it polls.
* `rxTxThread_accounted`: however a thread ends, all it has created is destroyed, each
  once, and it has gone through no null pointer; while it polls it has a TX buffer for
  every lport, to whichever of them a packet is forwarded.
-/

namespace UdxFastpath.Cndp

open EarlyExit Ledgers

/-! ## The thread -/

/-- Where a thread keeps what it creates: `thd->priv_`, the array in it and the entries of the
array, and `imgr`. -/
inductive ThreadSlot
  | priv
  | txbuffs
  | txbuff (i : ℕ)
  | imgr
  deriving DecidableEq, Repr

/-- The lports all threads share, and which of them have a `fwd_port`. -/
structure FwdLports where
  pktApi : PktApi
  numLports : ℕ
  hasPort : ℕ → Bool

/-- A thread that forwards. -/
structure FwdThd where
  lports : List ℕ
  idleTimeout : ℕ

/-- What the calls of a thread come to. -/
structure ThreadAnswers where
  barrierWait : Bool
  callocPriv : Bool
  callocTxbuffs : Bool
  txbuffCreate : ℕ → Bool
  idlemgrCreate : Bool
  getFd : ℕ → Option ℤ
  idlemgrAdd : ℕ → Bool

/-- What a thread has created, and whether it has gone through a null pointer. -/
structure ThreadState where
  ledger : Ledger ThreadSlot
  null : Bool

def ThreadState.init : ThreadState := ⟨Ledger.empty ThreadSlot, false⟩

/-- A round of the loop: `quit` or `pause` is found set, or the model returns the number of packets
and `idlemgr_process` goes well or not. -/
inductive Round
  | quit
  | pause
  | poll (nPkts : ℤ) (idle : Bool)
  deriving DecidableEq, Repr

/-- How far a thread has come: it polls, it waits behind its loop, or it has ended the process. -/
inductive ThreadEnd
  | polling
  | waiting
  | exited
  deriving DecidableEq, Repr

section Thread

variable (fwd : FwdLports) (thd : FwdThd) (ans : ThreadAnswers)

/-- A use of `lport->priv_`. -/
def ThreadState.usePort (s : ThreadState) (l : ℕ) : ThreadState :=
  { s with null := s.null || !fwd.hasPort l }

/-- `_create_txbuff`. -/
def createTxbuff (s : ThreadState) (idx : ℕ) : Except ThreadState ThreadState :=
  if !fwd.hasPort idx then .error s
  else
    match fwd.pktApi with
    | .xskdev | .pktdev =>
        if ans.txbuffCreate idx then .ok { s with ledger := s.ledger.acquire (.txbuff idx) }
        else .error { s with ledger := s.ledger.lose (.txbuff idx) }
    | .unknown => .error { s with ledger := s.ledger.lose (.txbuff idx) }

/-- `destroy_per_thread_txbuff`. -/
def destroyPerThreadTxbuff (s : ThreadState) : ThreadState :=
  if (s.ledger.held .priv).isSome then
    { s with
      ledger := ((((List.range fwd.numLports).map ThreadSlot.txbuff).foldl Ledger.release
        s.ledger).release .txbuffs).release .priv }
  else s

/-- `create_per_thread_txbuff`. -/
def createPerThreadTxbuff (s : ThreadState) : Except ThreadState ThreadState :=
  if (s.ledger.held .priv).isSome then .error s
  else if !ans.callocPriv then .error s
  else
    let s := { s with ledger := s.ledger.acquire .priv }
    if !ans.callocTxbuffs then .error { s with ledger := s.ledger.release .priv }
    else
      match (List.range fwd.numLports).foldlM (createTxbuff fwd ans)
          { s with ledger := s.ledger.acquire .txbuffs } with
      | .error s => .error (destroyPerThreadTxbuff fwd s)
      | .ok s => .ok (thd.lports.foldl (ThreadState.usePort fwd) s)

/-- A round of the loop that adds file descriptors to the idle manager; `fd` is the one of the
round before. -/
def addFd (r : ThreadState × ℤ) (l : ℕ) : Except ThreadState (ThreadState × ℤ) :=
  let got : Except ThreadState (ThreadState × ℤ) :=
    match fwd.pktApi with
    | .xskdev =>
        match ans.getFd l with
        | none => .error (r.1.usePort fwd l)
        | some fd => .ok (r.1.usePort fwd l, fd)
    | .pktdev =>
        match ans.getFd l with
        | none => .error r.1
        | some fd => .ok (r.1, fd)
    | .unknown => .ok r
  match got with
  | .error s => .error s
  | .ok (s, fd) =>
      if fd = -1 then .ok (s, fd)
      else if ans.idlemgrAdd l then .ok (s, fd)
      else .error s

/-- The part under `idle_timeout`. -/
def setUpIdle (s : ThreadState) : Except ThreadState ThreadState :=
  if thd.idleTimeout = 0 then .ok s
  else if !ans.idlemgrCreate then .error s
  else
    match thd.lports.foldlM (addFd fwd ans) ({ s with ledger := s.ledger.acquire .imgr }, -1) with
    | .error s => .error s
    | .ok r => .ok r.1

/-- The label `leave_no_lport`. -/
def leaveNoLport (s : ThreadState) : ThreadState := { s with ledger := s.ledger.release .imgr }

/-- The label `leave`. -/
def leave (s : ThreadState) : ThreadState := leaveNoLport (destroyPerThreadTxbuff fwd s)

/-- The loop, from the `k`-th lport on. -/
def pollLoop : List Round → ℕ → ThreadState → ThreadEnd × ThreadState
  | [], _, s => (.polling, s)
  | .quit :: _, _, s => (.waiting, leave fwd s)
  | .pause :: rest, k, s => pollLoop rest ((k + 1) % thd.lports.length) s
  | .poll nPkts idle :: rest, k, s =>
      let s := s.usePort fwd (thd.lports.getD k 0)
      if nPkts < 0 then (.waiting, leave fwd s)
      else if thd.idleTimeout ≠ 0 ∧ idle = false then (.waiting, leave fwd s)
      else pollLoop rest ((k + 1) % thd.lports.length) s

/-- `rx_tx_thread`, up to the wait for `quit`. -/
def rxTxThread (rounds : List Round) : ThreadEnd × ThreadState :=
  if !ans.barrierWait then (.waiting, leave fwd .init)
  else if thd.lports = [] then (.waiting, leaveNoLport .init)
  else
    match createPerThreadTxbuff fwd thd ans .init with
    | .error s => (.exited, s)
    | .ok s =>
        match setUpIdle fwd thd ans s with
        | .error s => (.waiting, leave fwd s)
        | .ok s => pollLoop fwd thd rounds 0 s

end Thread

/-! ## What there is to destroy -/

section Invariants

variable {fwd : FwdLports} {thd : FwdThd} {ans : ThreadAnswers} {s s' : ThreadState}

/-- Nothing is lost or destroyed twice, the entries are those of an array that is there, as long
as there is anything, and no null pointer has been gone through. -/
structure Tidy (fwd : FwdLports) (s : ThreadState) : Prop where
  proper : s.ledger.Proper
  complete : s.ledger.Complete
  entries : ∀ i, (s.ledger.held (.txbuff i)).isSome →
    i < fwd.numLports ∧ (s.ledger.held .priv).isSome
  array : (s.ledger.held .txbuffs).isSome → (s.ledger.held .priv).isSome
  pointers : s.null = false

theorem tidy_init (fwd : FwdLports) : Tidy fwd .init where
  proper := Ledger.proper_empty
  complete := Ledger.complete_empty
  entries := nofun
  array := nofun
  pointers := rfl

/-- Where nothing is held, nothing is out of place. -/
theorem Tidy.of_empty (hproper : s.ledger.Proper) (hcomplete : s.ledger.Complete)
    (hnone : ∀ slot, s.ledger.held slot = none) (hnull : s.null = false) : Tidy fwd s where
  proper := hproper
  complete := hcomplete
  entries i hi := absurd hi (by simp [hnone])
  array ha := absurd ha (by simp [hnone])
  pointers := hnull

/-- An empty slot is filled. -/
theorem Tidy.acquire (h : Tidy fwd s) {slot : ThreadSlot} (hempty : s.ledger.held slot = none)
    (hentry : ∀ i, slot = .txbuff i → i < fwd.numLports ∧ (s.ledger.held .priv).isSome)
    (harray : slot = .txbuffs → (s.ledger.held .priv).isSome) :
    Tidy fwd { s with ledger := s.ledger.acquire slot } := by
  have hpriv : (s.ledger.held .priv).isSome → ((s.ledger.acquire slot).held .priv).isSome := by
    intro hsome
    by_cases hslot : ThreadSlot.priv = slot
    · rw [hslot, Ledger.held_acquire_self]
      rfl
    · rwa [Ledger.held_acquire_of_ne hslot]
  refine ⟨h.proper.acquire slot, h.complete.acquire hempty, fun i hi => ?_, fun harr => ?_,
    h.pointers⟩
  · by_cases hslot : ThreadSlot.txbuff i = slot
    · obtain ⟨hlt, hsome⟩ := hentry i hslot.symm
      exact ⟨hlt, hpriv hsome⟩
    · have hi' : (s.ledger.held (.txbuff i)).isSome := by
        have hheld := Ledger.held_acquire_of_ne (l := s.ledger) hslot
        rwa [← hheld]
      exact ⟨(h.entries i hi').1, hpriv (h.entries i hi').2⟩
  · by_cases hslot : ThreadSlot.txbuffs = slot
    · exact hpriv (harray hslot.symm)
    · have harr' : (s.ledger.held .txbuffs).isSome := by
        have hheld := Ledger.held_acquire_of_ne (l := s.ledger) hslot
        rwa [← hheld]
      exact hpriv (h.array harr')

/-- The TX buffers are destroyed with the array and what it hangs on; the rest is left alone. -/
theorem Tidy.destroy (h : Tidy fwd s) :
    Tidy fwd (destroyPerThreadTxbuff fwd s) ∧
      (∀ slot, slot ≠ .imgr → (destroyPerThreadTxbuff fwd s).ledger.held slot = none) ∧
      (destroyPerThreadTxbuff fwd s).ledger.held .imgr = s.ledger.held .imgr := by
  unfold destroyPerThreadTxbuff
  by_cases hpriv : (s.ledger.held .priv).isSome = true
  · rw [if_pos hpriv]
    have hclears := ((Ledger.clears_foldl_release
      ((List.range fwd.numLports).map ThreadSlot.txbuff) s.ledger).trans
        (Ledger.clears_release _ .txbuffs)).trans (Ledger.clears_release _ .priv)
    have hnone : ∀ slot, slot ≠ .imgr → ((((List.range fwd.numLports).map
        ThreadSlot.txbuff).foldl Ledger.release s.ledger).release .txbuffs |>.release
          .priv).held slot = none := by
      intro slot hslot
      cases slot with
      | priv => exact hclears.cleared _ (.inr rfl)
      | txbuffs => exact hclears.cleared _ (.inl (.inr rfl))
      | imgr => exact absurd rfl hslot
      | txbuff i =>
          by_cases hi : i < fwd.numLports
          · exact hclears.cleared _
              (.inl (.inl (List.mem_map_of_mem (List.mem_range.mpr hi))))
          · -- there is no such entry
            rw [hclears.kept _ (by simp [hi])]
            by_contra hheld
            exact hi (h.entries i (Option.isSome_iff_ne_none.mpr hheld)).1
    refine ⟨⟨hclears.proper h.proper, hclears.complete h.complete, fun i hi => ?_, fun ha => ?_,
      h.pointers⟩, hnone, hclears.kept _ (by simp)⟩
    · exact absurd hi (by simp [hnone (.txbuff i)])
    · exact absurd ha (by simp [hnone .txbuffs])
  · rw [if_neg hpriv]
    refine ⟨h, fun slot hslot => ?_, rfl⟩
    by_contra hnone
    have hheld : (s.ledger.held slot).isSome := Option.isSome_iff_ne_none.mpr hnone
    cases slot with
    | priv => exact hpriv hheld
    | txbuffs => exact hpriv (h.array hheld)
    | txbuff i => exact hpriv (h.entries i hheld).2
    | imgr => exact hslot rfl

/-- **Behind the labels nothing is left.** -/
theorem Tidy.behindLabels (h : Tidy fwd s) :
    Tidy fwd (leave fwd s) ∧ ∀ slot, (leave fwd s).ledger.held slot = none := by
  obtain ⟨htidy, hnone, -⟩ := h.destroy
  have hall : ∀ slot, (leave fwd s).ledger.held slot = none := by
    intro slot
    show ((destroyPerThreadTxbuff fwd s).ledger.release .imgr).held slot = none
    rw [Ledger.held_release]
    split_ifs with hslot
    · rfl
    · exact hnone slot hslot
  exact ⟨.of_empty (htidy.proper.release _) (htidy.complete.release _) hall htidy.pointers, hall⟩

/-- What a thread has as long as it polls. -/
structure Equipped (fwd : FwdLports) (s : ThreadState) : Prop extends Tidy fwd s where
  ports : ∀ l < fwd.numLports, fwd.hasPort l = true
  buffers : ∀ l < fwd.numLports, (s.ledger.held (.txbuff l)).isSome

/-- The pointer to a port is not null. -/
theorem Equipped.usePort (h : Equipped fwd s) {l : ℕ} (hl : l < fwd.numLports) :
    s.usePort fwd l = s := by
  unfold ThreadState.usePort
  rw [h.ports l hl, Bool.not_true, Bool.or_false]

theorem Equipped.foldl_usePort (h : Equipped fwd s) {ls : List ℕ}
    (hls : ∀ l ∈ ls, l < fwd.numLports) : ls.foldl (ThreadState.usePort fwd) s = s := by
  induction ls with
  | nil => rfl
  | cons l ls ih =>
      rw [List.forall_mem_cons] at hls
      rw [List.foldl_cons, h.usePort hls.1]
      exact ih hls.2

/-! ## Getting there -/

/-- A TX buffer is created in its entry, or nothing has changed. -/
theorem createTxbuff_cases (fwd : FwdLports) (ans : ThreadAnswers) {idx : ℕ}
    (hempty : s.ledger.held (.txbuff idx) = none) :
    createTxbuff fwd ans s idx = .error s ∨
      (fwd.hasPort idx = true ∧ createTxbuff fwd ans s idx =
        .ok { s with ledger := s.ledger.acquire (.txbuff idx) }) := by
  have hlose : { s with ledger := s.ledger.lose (.txbuff idx) } = s := by
    rw [Ledger.lose_of_empty hempty]
  unfold createTxbuff
  rw [hlose]
  cases hport : fwd.hasPort idx with
  | false => exact .inl rfl
  | true =>
      rw [Bool.not_true, if_neg Bool.false_ne_true]
      cases fwd.pktApi with
      | unknown => exact .inl rfl
      | xskdev =>
          cases ans.txbuffCreate idx with
          | true => exact .inr ⟨rfl, rfl⟩
          | false => exact .inl rfl
      | pktdev =>
          cases ans.txbuffCreate idx with
          | true => exact .inr ⟨rfl, rfl⟩
          | false => exact .inl rfl

/-- What the loop over the lports comes to. -/
structure Filling (fwd : FwdLports) (idxs : List ℕ) (s s' : ThreadState) : Prop where
  tidy : Tidy fwd s'
  priv : (s'.ledger.held .priv).isSome
  imgr : s'.ledger.held .imgr = s.ledger.held .imgr
  kept : ∀ i, (s.ledger.held (.txbuff i)).isSome → (s'.ledger.held (.txbuff i)).isSome
  filled : ∀ i ∈ idxs, fwd.hasPort i = true ∧ (s'.ledger.held (.txbuff i)).isSome

/-- The entries are filled in turn, up to the first that fails. -/
theorem foldlM_createTxbuff (fwd : FwdLports) (ans : ThreadAnswers) (idxs : List ℕ)
    (hnodup : idxs.Nodup) (hlt : ∀ i ∈ idxs, i < fwd.numLports) :
    ∀ {s : ThreadState}, Tidy fwd s → (s.ledger.held .priv).isSome →
      (∀ i ∈ idxs, s.ledger.held (.txbuff i) = none) →
      (∃ s', idxs.foldlM (createTxbuff fwd ans) s = .error s' ∧ Filling fwd [] s s') ∨
        ∃ s', idxs.foldlM (createTxbuff fwd ans) s = .ok s' ∧ Filling fwd idxs s s' := by
  induction idxs with
  | nil => exact fun htidy hpriv _ => .inr ⟨_, rfl, htidy, hpriv, rfl, fun _ => id, nofun⟩
  | cons idx idxs ih =>
      intro s htidy hpriv hempty
      rw [List.nodup_cons] at hnodup
      rw [List.forall_mem_cons] at hlt hempty
      rw [List.foldlM_cons]
      rcases createTxbuff_cases fwd ans hempty.1 with herror | ⟨hport, hok⟩
      · rw [herror]
        exact .inl ⟨s, rfl, htidy, hpriv, rfl, fun _ => id, nofun⟩
      · rw [hok, ok_bind]
        have htidy' := htidy.acquire hempty.1
          (fun i hi => by
            obtain rfl := ThreadSlot.txbuff.inj hi
            exact ⟨hlt.1, hpriv⟩) nofun
        have hpriv' : ((s.ledger.acquire (.txbuff idx)).held .priv).isSome := by
          simpa [Ledger.held_acquire_of_ne] using hpriv
        have hkept : ∀ i, (s.ledger.held (.txbuff i)).isSome →
            ((s.ledger.acquire (.txbuff idx)).held (.txbuff i)).isSome := by
          intro i hi
          rwa [Ledger.held_acquire_of_ne]
          rintro heq
          rw [heq, hempty.1] at hi
          cases hi
        have hempty' : ∀ i ∈ idxs, (s.ledger.acquire (.txbuff idx)).held (.txbuff i) = none := by
          intro i hi
          rw [Ledger.held_acquire_of_ne]
          · exact hempty.2 i hi
          · rintro heq
            obtain rfl := ThreadSlot.txbuff.inj heq
            exact hnodup.1 hi
        have himgr : (s.ledger.acquire (.txbuff idx)).held .imgr = s.ledger.held .imgr :=
          Ledger.held_acquire_of_ne nofun
        rcases ih hnodup.2 hlt.2 htidy' hpriv' hempty' with ⟨s', hrest, hfilling⟩ |
          ⟨s', hrest, hfilling⟩
        · exact .inl ⟨s', hrest, hfilling.tidy, hfilling.priv, hfilling.imgr.trans himgr,
            fun i hi => hfilling.kept i (hkept i hi), nofun⟩
        · refine .inr ⟨s', hrest, hfilling.tidy, hfilling.priv, hfilling.imgr.trans himgr,
            fun i hi => hfilling.kept i (hkept i hi), ?_⟩
          rw [List.forall_mem_cons]
          refine ⟨⟨hport, hfilling.kept idx ?_⟩, hfilling.filled⟩
          show ((s.ledger.acquire (.txbuff idx)).held (.txbuff idx)).isSome = true
          rw [Ledger.held_acquire_self]
          rfl

/-- The array, with nothing in it. -/
def arrayOnly : Ledger ThreadSlot := ((Ledger.empty ThreadSlot).acquire .priv).acquire .txbuffs

theorem tidy_arrayOnly (fwd : FwdLports) : Tidy fwd ⟨arrayOnly, false⟩ := by
  have hpriv : (((Ledger.empty ThreadSlot).acquire .priv).held .priv).isSome := by
    rw [Ledger.held_acquire_self]
    rfl
  have htidy : Tidy fwd ⟨(Ledger.empty ThreadSlot).acquire .priv, false⟩ :=
    (tidy_init fwd).acquire rfl nofun nofun
  exact htidy.acquire (Ledger.held_acquire_of_ne (by decide)) nofun fun _ => hpriv

theorem held_arrayOnly {slot : ThreadSlot} (hpriv : slot ≠ .priv) (harray : slot ≠ .txbuffs) :
    arrayOnly.held slot = none :=
  (Ledger.held_acquire_of_ne harray).trans (Ledger.held_acquire_of_ne hpriv)

/-- `create_per_thread_txbuff` leaves nothing behind when it fails. -/
theorem createPerThreadTxbuff_cases (ans : ThreadAnswers)
    (hlports : ∀ l ∈ thd.lports, l < fwd.numLports) :
    (∃ s, createPerThreadTxbuff fwd thd ans .init = .error s ∧ Tidy fwd s ∧
        ∀ slot, s.ledger.held slot = none) ∨
      ∃ s, createPerThreadTxbuff fwd thd ans .init = .ok s ∧ Equipped fwd s ∧
        s.ledger.held .imgr = none := by
  have hcreate : createPerThreadTxbuff fwd thd ans .init =
      if !ans.callocPriv then .error .init
      else if !ans.callocTxbuffs then
        .error ⟨((Ledger.empty ThreadSlot).acquire .priv).release .priv, false⟩
      else
        match (List.range fwd.numLports).foldlM (createTxbuff fwd ans) ⟨arrayOnly, false⟩ with
        | .error s => .error (destroyPerThreadTxbuff fwd s)
        | .ok s => .ok (thd.lports.foldl (ThreadState.usePort fwd) s) := rfl
  rw [hcreate]
  split_ifs with hpriv harray
  · exact .inl ⟨_, rfl, tidy_init fwd, fun _ => rfl⟩
  · have hnone : ∀ slot, (((Ledger.empty ThreadSlot).acquire .priv).release .priv).held slot =
        none := by
      intro slot
      rw [Ledger.held_release]
      split_ifs with hslot
      · rfl
      · exact Ledger.held_acquire_of_ne hslot
    refine .inl ⟨_, rfl, .of_empty ?_ ?_ hnone rfl, hnone⟩
    · exact (Ledger.proper_empty.acquire ThreadSlot.priv).release ThreadSlot.priv
    · exact (Ledger.complete_empty.acquire rfl).release ThreadSlot.priv
  · have hheld : (arrayOnly.held .priv).isSome := by
      rw [arrayOnly, Ledger.held_acquire_of_ne (by decide), Ledger.held_acquire_self]
      rfl
    rcases foldlM_createTxbuff fwd ans (List.range fwd.numLports) List.nodup_range
        (fun i => List.mem_range.mp) (tidy_arrayOnly fwd) hheld
        (fun i _ => held_arrayOnly nofun nofun) with
      ⟨s, hfold, hfilling⟩ | ⟨s, hfold, hfilling⟩
    · rw [hfold]
      obtain ⟨hgone, hnone, hkept⟩ := hfilling.tidy.destroy
      refine .inl ⟨_, rfl, hgone, fun slot => ?_⟩
      by_cases hslot : slot = .imgr
      · rw [hslot, hkept, hfilling.imgr]
        exact held_arrayOnly nofun nofun
      · exact hnone slot hslot
    · rw [hfold]
      have hequipped : Equipped fwd s :=
        { hfilling.tidy with
          ports := fun l hl => (hfilling.filled l (List.mem_range.mpr hl)).1
          buffers := fun l hl => (hfilling.filled l (List.mem_range.mpr hl)).2 }
      exact .inr ⟨s, congrArg Except.ok (hequipped.foldl_usePort hlports), hequipped,
        hfilling.imgr.trans (held_arrayOnly nofun nofun)⟩

/-- A round that adds a file descriptor changes nothing that has been created. -/
theorem addFd_cases (ans : ThreadAnswers) (h : Equipped fwd s) {l : ℕ} (hl : l < fwd.numLports)
    (fd : ℤ) :
    addFd fwd ans (s, fd) l = .error s ∨ ∃ fd', addFd fwd ans (s, fd) l = .ok (s, fd') := by
  have hadd : ∀ fd : ℤ, (if fd = -1 then .ok (s, fd) else if ans.idlemgrAdd l then .ok (s, fd)
      else .error s : Except ThreadState (ThreadState × ℤ)) = .error s ∨
        ∃ fd', (if fd = -1 then .ok (s, fd) else if ans.idlemgrAdd l then .ok (s, fd)
          else .error s : Except ThreadState (ThreadState × ℤ)) = .ok (s, fd') := by
    intro fd
    split_ifs
    · exact .inr ⟨fd, rfl⟩
    · exact .inr ⟨fd, rfl⟩
    · exact .inl rfl
  unfold addFd
  rw [h.usePort hl]
  cases fwd.pktApi with
  | unknown => exact hadd fd
  | xskdev =>
      cases ans.getFd l with
      | none => exact .inl rfl
      | some fd => exact hadd fd
  | pktdev =>
      cases ans.getFd l with
      | none => exact .inl rfl
      | some fd => exact hadd fd

theorem foldlM_addFd (ans : ThreadAnswers) (h : Equipped fwd s) :
    ∀ (ls : List ℕ) (fd : ℤ), (∀ l ∈ ls, l < fwd.numLports) →
      ls.foldlM (addFd fwd ans) (s, fd) = .error s ∨
        ∃ fd', ls.foldlM (addFd fwd ans) (s, fd) = .ok (s, fd') := by
  intro ls
  induction ls with
  | nil => exact fun fd _ => .inr ⟨fd, rfl⟩
  | cons l ls ih =>
      intro fd hls
      rw [List.forall_mem_cons] at hls
      rw [List.foldlM_cons]
      rcases addFd_cases ans h hls.1 fd with herror | ⟨fd', hok⟩
      · rw [herror]
        exact .inl rfl
      · rw [hok, ok_bind]
        exact ih fd' hls.2

/-- A thread with a manager, or without one if it has no timeout. -/
theorem Equipped.acquire_imgr (h : Equipped fwd s) (hnone : s.ledger.held .imgr = none) :
    Equipped fwd { s with ledger := s.ledger.acquire .imgr } :=
  { h.toTidy.acquire hnone nofun nofun with
    ports := h.ports
    buffers := fun l hl => by
      simpa [Ledger.held_acquire_of_ne] using h.buffers l hl }

/-- The idle manager is there exactly if there is a timeout. -/
theorem setUpIdle_cases (h : Equipped fwd s) (hnone : s.ledger.held .imgr = none)
    (ans : ThreadAnswers) (hlports : ∀ l ∈ thd.lports, l < fwd.numLports) :
    (∃ s', setUpIdle fwd thd ans s = .error s' ∧ Equipped fwd s') ∨
      ∃ s', setUpIdle fwd thd ans s = .ok s' ∧ Equipped fwd s' ∧
        ((s'.ledger.held .imgr).isSome ↔ thd.idleTimeout ≠ 0) := by
  unfold setUpIdle
  split_ifs with htimeout hcreate
  · exact .inr ⟨s, rfl, h, by simp [hnone, htimeout]⟩
  · exact .inl ⟨s, rfl, h⟩
  · have hequipped := h.acquire_imgr hnone
    rcases foldlM_addFd ans hequipped thd.lports (-1) hlports with hfold | ⟨fd, hfold⟩
    · rw [hfold]
      exact .inl ⟨_, rfl, hequipped⟩
    · rw [hfold]
      exact .inr ⟨_, rfl, hequipped, by simp [Ledger.held_acquire_self, htimeout]⟩

/-- A thread keeps what it has until it leaves the loop, and then has nothing. -/
theorem pollLoop_cases (h : Equipped fwd s) (hlports : ∀ l ∈ thd.lports, l < fwd.numLports)
    (rounds : List Round) :
    ∀ k < thd.lports.length, pollLoop fwd thd rounds k s = (.polling, s) ∨
      pollLoop fwd thd rounds k s = (.waiting, leave fwd s) := by
  induction rounds with
  | nil => exact fun k _ => .inl rfl
  | cons round rounds ih =>
      intro k hk
      have hnext : (k + 1) % thd.lports.length < thd.lports.length :=
        Nat.mod_lt _ (Nat.zero_lt_of_lt hk)
      cases round with
      | quit => exact .inr rfl
      | pause => exact ih _ hnext
      | poll nPkts idle =>
          have hport : thd.lports.getD k 0 < fwd.numLports := by
            rw [List.getD_eq_getElem _ _ hk]
            exact hlports _ (List.getElem_mem hk)
          unfold pollLoop
          rw [h.usePort hport]
          split_ifs
          · exact .inr rfl
          · exact .inr rfl
          · exact ih _ hnext

end Invariants

/-! ## However it ends -/

/-- What is asked of a thread, wherever it is: it destroys nothing twice, loses nothing and goes
through no null pointer; what it has created is destroyed when it does not poll any more; and when
it polls it has a TX buffer for every lport, and an idle manager if it has a timeout. -/
structure Accounted (fwd : FwdLports) (thd : FwdThd) (r : ThreadEnd × ThreadState) : Prop where
  proper : r.2.ledger.Proper
  complete : r.2.ledger.Complete
  pointers : r.2.null = false
  gone : r.1 ≠ .polling → ∀ slot, r.2.ledger.held slot = none
  buffers : r.1 = .polling → ∀ l < fwd.numLports, (r.2.ledger.held (.txbuff l)).isSome
  imgr : r.1 = .polling → ((r.2.ledger.held .imgr).isSome ↔ thd.idleTimeout ≠ 0)

section Ends

variable {fwd : FwdLports} {thd : FwdThd} {s : ThreadState} {e : ThreadEnd}

theorem Accounted.of_gone (h : Tidy fwd s) (hnone : ∀ slot, s.ledger.held slot = none)
    (he : e ≠ .polling) : Accounted fwd thd (e, s) where
  proper := h.proper
  complete := h.complete
  pointers := h.pointers
  gone _ := hnone
  buffers hpolling := absurd hpolling he
  imgr hpolling := absurd hpolling he

theorem accounted_leave (h : Tidy fwd s) : Accounted fwd thd (.waiting, leave fwd s) :=
  .of_gone h.behindLabels.1 h.behindLabels.2 nofun

/-- **However a thread ends, nothing it has created is left**, whatever the calls come to and
however often it polls. -/
theorem rxTxThread_accounted (fwd : FwdLports) (thd : FwdThd) (ans : ThreadAnswers)
    (rounds : List Round) (hlports : ∀ l ∈ thd.lports, l < fwd.numLports) :
    Accounted fwd thd (rxTxThread fwd thd ans rounds) := by
  unfold rxTxThread
  split_ifs with hbarrier hempty
  · exact accounted_leave (tidy_init fwd)
  · -- the label behind the one that destroys the TX buffers
    have hnone : ∀ slot, (leaveNoLport .init).ledger.held slot = none := by
      intro slot
      rw [show leaveNoLport .init = .init from rfl]
      rfl
    exact .of_gone (tidy_init fwd) hnone nofun
  · rcases createPerThreadTxbuff_cases ans hlports with
      ⟨s, hcreate, htidy, hnone⟩ | ⟨s, hcreate, hequipped, himgr⟩
    · rw [hcreate]
      exact .of_gone htidy hnone nofun
    · rw [hcreate]
      dsimp only
      rcases setUpIdle_cases hequipped himgr ans hlports with
        ⟨s', hidle, hequipped'⟩ | ⟨s', hidle, hequipped', himgr'⟩
      · rw [hidle]
        exact accounted_leave hequipped'.toTidy
      · rw [hidle]
        dsimp only
        have hlen : 0 < thd.lports.length := List.length_pos_iff.mpr hempty
        rcases pollLoop_cases hequipped' hlports rounds 0 hlen with hloop | hloop
        · rw [hloop]
          exact
            { proper := hequipped'.proper
              complete := hequipped'.complete
              pointers := hequipped'.pointers
              gone := fun hpolling => absurd rfl hpolling
              buffers := fun _ => hequipped'.buffers
              imgr := fun _ => himgr' }
        · rw [hloop]
          exact accounted_leave hequipped'.toTidy

/-- Two lports; the TX buffer for the second cannot be created. -/
theorem rxTxThread_accounted_noBuffer :
    let ans : ThreadAnswers := ⟨true, true, true, fun i => i == 0, true, fun _ => some 3,
      fun _ => true⟩
    Accounted ⟨.xskdev, 2, fun _ => true⟩ ⟨[0], 10⟩
        (rxTxThread ⟨.xskdev, 2, fun _ => true⟩ ⟨[0], 10⟩ ans [.pause]) ∧
      (rxTxThread ⟨.xskdev, 2, fun _ => true⟩ ⟨[0], 10⟩ ans [.pause]).1 = .exited ∧
      (rxTxThread ⟨.xskdev, 2, fun _ => true⟩ ⟨[0], 10⟩ ans [.pause]).2.ledger.destroyed =
        [2, 1, 0] :=
  ⟨rxTxThread_accounted _ _ _ _ (by decide), by decide +kernel, by decide +kernel⟩

end Ends

end UdxFastpath.Cndp
