import UdxFastpath.Foundation.ByteWindow

/-!
# Writers that push headers

A packet is encapsulated by extending its window into the headroom and then
filling the new front **field by field**.  Whatever is not filled keeps the byte
the headroom held before, so the header that comes out is a function of two
things: the length of the packet and the old headroom.

* `before b k` is the byte `k` places in front of the window.
* `Edited n c d`: `d` is `c` after stores inside its first `n` bytes.
* `Pushes f n hdr` is the specification of a whole writer `f`: with `n` bytes of
  headroom it pushes the `n` bytes `hdr len before`, with fewer it faults, and
  the header looks no further than the `n` bytes it covers.
* `Pushes.comp` runs one writer after another.  The second one sees a longer
  packet and a headroom that starts further away; otherwise the headers are just
  concatenated.
-/

namespace ByteWindow

/-- The byte `k` places in front of the window. -/
def Window.before (b : Window) (k : ℕ) : UInt8 := b.mem (b.off - k)

/-- Inside the header just pushed on, offset `i` was `n - i` places in front. -/
theorem Window.byte_eq_before {b c : Window} {n i : ℕ} (hmem : c.mem = b.mem)
    (hoff : c.off + n = b.off) (hi : i ≤ n) : c.byte i = b.before (n - i) := by
  rw [Window.byte, Window.before, hmem]
  exact congrArg b.mem (by omega)

/-! ## Filling in a header -/

/-- `d` is `c` after stores that stayed inside the first `n` bytes. -/
structure Edited (n : ℕ) (c d : Window) : Prop where
  off_eq : d.off = c.off
  len_eq : d.len = c.len
  mem_eq : ∀ a, a < c.off ∨ c.off + n ≤ a → d.mem a = c.mem a

namespace Edited

theorem refl (n : ℕ) (c : Window) : Edited n c c := ⟨rfl, rfl, fun _ _ => rfl⟩

/-- One more store. -/
theorem store {n : ℕ} {c d : Window} (h : Edited n c d) {i : ℕ} {bs : List UInt8}
    (hi : i + bs.length ≤ n) : Edited n c (d.store i bs) where
  off_eq := h.off_eq
  len_eq := h.len_eq
  mem_eq := by
    intro a ha
    have hoff := h.off_eq
    rw [Window.mem_store_of_notMem d i bs (by omega), h.mem_eq a ha]

/-- A prepend followed by edits of the new front is a push of whatever the front
then holds. -/
theorem pushed {n : ℕ} {b c d : Window} {hdr : List UInt8} (h : Edited n c d)
    (hmem : c.mem = b.mem) (hoff : c.off + n = b.off) (hlen : c.len = b.len + n)
    (hn : hdr.length = n) (hhead : ∀ i (hi : i < hdr.length), d.byte i = hdr[i]) :
    Pushed b d hdr where
  off_eq := by rw [h.off_eq, hn, hoff]
  len_eq := by rw [h.len_eq, hn, hlen]
  head := hhead
  above := by
    intro a ha
    rw [h.mem_eq a (by omega), hmem]
  below := by
    intro a ha
    rw [h.off_eq] at ha
    rw [h.mem_eq a (by omega), hmem]

end Edited

/-! ## Whole writers -/

/-- The writer `f` **pushes** the `n` bytes `hdr len headroom`: with room for them
it does exactly that, without it the fault `e` is raised. -/
structure Pushes {ε : Type*} (e : ε) (f : Window → Except ε Window) (n : ℕ)
    (hdr : ℕ → (ℕ → UInt8) → List UInt8) : Prop where
  length_eq : ∀ len st, (hdr len st).length = n
  local_eq : ∀ len st st', (∀ k, 1 ≤ k → k ≤ n → st k = st' k) → hdr len st = hdr len st'
  ok : ∀ b, n ≤ b.off → ∃ c, f b = .ok c ∧ Pushed b c (hdr b.len b.before)
  fault : ∀ b, b.off < n → f b = .error e

namespace Pushes

variable {ε : Type*} {e : ε} {f g : Window → Except ε Window} {n m : ℕ}
variable {hdr hdr' : ℕ → (ℕ → UInt8) → List UInt8}

/-- The headroom in front of a freshly pushed header is the old one, seen from
further back. -/
theorem before_pushed {b c : Window} {h : List UInt8} (hp : Pushed b c h) {k : ℕ} (hk : 1 ≤ k)
    (hle : k ≤ c.off) : c.before k = b.before (k + h.length) := by
  have hoff := hp.off_eq
  rw [Window.before, Window.before, hp.below _ (by omega)]
  exact congrArg b.mem (by omega)

/-- One writer after another. -/
theorem comp (hf : Pushes e f n hdr) (hg : Pushes e g m hdr') :
    Pushes e (fun b => f b >>= g) (n + m)
      (fun len st => hdr' (len + n) (fun k => st (k + n)) ++ hdr len st) where
  length_eq := by
    intro len st
    rw [List.length_append, hf.length_eq, hg.length_eq, Nat.add_comm]
  local_eq := by
    intro len st st' hst
    rw [hf.local_eq len st st' fun k hk hle => hst k hk (by omega),
      hg.local_eq (len + n) _ (fun k => st' (k + n)) fun k hk hle => hst (k + n) (by omega)
        (by omega)]
  ok := by
    intro b hroom
    obtain ⟨c, hfb, hc⟩ := hf.ok b (by omega)
    have hoff := hc.off_eq
    have hlen := hc.len_eq
    rw [hf.length_eq] at hoff hlen
    obtain ⟨d, hgc, hd⟩ := hg.ok c (by omega)
    refine ⟨d, by rw [hfb]; exact hgc, ?_⟩
    -- the second header, written against `c`, read against `b`
    have hhdr : hdr' c.len c.before = hdr' (b.len + n) fun k => b.before (k + n) := by
      rw [hlen]
      refine hg.local_eq _ _ _ fun k hk hle => ?_
      rw [before_pushed hc hk (by omega), hf.length_eq]
    rw [← hhdr]
    exact hc.trans hd
  fault := by
    intro b hroom
    by_cases hfirst : b.off < n
    · rw [hf.fault b hfirst]
      rfl
    · obtain ⟨c, hfb, hc⟩ := hf.ok b (by omega)
      have hoff := hc.off_eq
      rw [hf.length_eq] at hoff
      rw [hfb]
      exact hg.fault c (by omega)

end Pushes

end ByteWindow
