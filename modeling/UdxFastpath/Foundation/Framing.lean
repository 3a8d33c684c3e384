import Mathlib.Data.List.Basic

/-!
# Frames with their length in front

Netlink messages and the attributes in them are packed in the same way: each frame
begins with a header that holds the length of the frame, header included, and the next
frame starts at the next multiple of the alignment.

A reader goes from frame to frame as long as the length in the header makes sense.  It
finds the frames that have been packed (`split_join_append`), also when the padding
behind the last of them is missing (`split_self`).
-/

namespace Framing

/-- A way of packing: the length of the header, the alignment, and what is read as the length of
the frame at the beginning of a string. -/
structure Format where
  header : ℕ
  align : ℕ
  lengthAt : List UInt8 → ℕ
  header_pos : 0 < header
  align_pos : 0 < align

namespace Format

variable (F : Format)

/-- The next multiple of the alignment. -/
def alignUp (n : ℕ) : ℕ := (n + (F.align - 1)) / F.align * F.align

theorem le_alignUp (n : ℕ) : n ≤ F.alignUp n := by
  have hlt := Nat.lt_div_mul_add F.align_pos (a := n + (F.align - 1))
  rw [alignUp]
  omega

/-- The frames of a string, each of them without its padding. -/
def split (bytes : List UInt8) : List (List UInt8) :=
  if _h : F.header ≤ F.lengthAt bytes ∧ F.lengthAt bytes ≤ bytes.length then
    bytes.take (F.lengthAt bytes) :: split (bytes.drop (F.alignUp (F.lengthAt bytes)))
  else []
termination_by bytes.length
decreasing_by
  have hpos := F.header_pos
  have hle := F.le_alignUp (F.lengthAt bytes)
  rw [List.length_drop]
  omega

/-- A frame with its padding. -/
def pad (frame : List UInt8) : List UInt8 :=
  frame ++ List.replicate (F.alignUp frame.length - frame.length) 0

/-- The frames one behind the other. -/
def join (frames : List (List UInt8)) : List UInt8 := frames.flatMap F.pad

/-- The header of a frame tells its length, whatever follows. -/
structure WellFramed (frame : List UInt8) : Prop where
  header_le : F.header ≤ frame.length
  lengthAt : ∀ rest, F.lengthAt (frame ++ rest) = frame.length

variable {F} {frame : List UInt8} {frames : List (List UInt8)}

theorem length_pad : (F.pad frame).length = F.alignUp frame.length := by
  have hle := F.le_alignUp frame.length
  rw [pad, List.length_append, List.length_replicate]
  omega

/-- One round of the reader takes one frame. -/
theorem split_pad_append (h : F.WellFramed frame) (rest : List UInt8) :
    F.split (F.pad frame ++ rest) = frame :: F.split rest := by
  have hlength : F.lengthAt (F.pad frame ++ rest) = frame.length := by
    rw [pad, List.append_assoc]
    exact h.lengthAt _
  have hfits : frame.length ≤ (F.pad frame ++ rest).length := by
    rw [List.length_append, length_pad]
    exact Nat.le_trans (F.le_alignUp _) (Nat.le_add_right ..)
  have htake : (F.pad frame ++ rest).take frame.length = frame := by
    rw [pad, List.append_assoc]
    exact List.take_left
  have hdrop : (F.pad frame ++ rest).drop (F.alignUp frame.length) = rest := by
    rw [← length_pad]
    exact List.drop_left
  rw [split, hlength, dif_pos ⟨h.header_le, hfits⟩, htake, hdrop]

/-- …also the last one, without its padding. -/
theorem split_self (h : F.WellFramed frame) : F.split frame = [frame] := by
  have hlength : F.lengthAt frame = frame.length := by
    simpa using h.lengthAt []
  have hempty : F.split [] = [] := by
    have hpos := F.header_pos
    rw [split, dif_neg (by rw [List.length_nil]; omega)]
  rw [split, hlength, dif_pos ⟨h.header_le, Nat.le_refl _⟩, List.take_length,
    List.drop_eq_nil_of_le (F.le_alignUp _), hempty]

/-- **What has been packed is found again**, in front of anything. -/
theorem split_join_append (h : ∀ frame ∈ frames, F.WellFramed frame) (rest : List UInt8) :
    F.split (F.join frames ++ rest) = frames ++ F.split rest := by
  induction frames with
  | nil => rfl
  | cons frame frames ih =>
      obtain ⟨hframe, hframes⟩ := List.forall_mem_cons.mp h
      rw [join, List.flatMap_cons, List.append_assoc, split_pad_append hframe]
      exact congrArg _ (ih hframes)

end Format

end Framing
