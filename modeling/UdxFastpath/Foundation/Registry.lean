import Mathlib.Data.List.Basic
import UdxFastpath.Foundation.EarlyExit

/-!
# Registering under a name

Things are registered one after the other, each under its own key.  A registration fails
when the key is taken, or when it is not granted.

* `lookup_of_registerAll`: what has been registered is found under its key, and what was
  there before still is.
* `registerAll_ok_iff`: all registrations go through when they are granted, and no key is
  wanted twice or taken already.
-/

namespace Registries

open EarlyExit

universe u v

variable {κ : Type u} {α : Type v} [DecidableEq κ] (key : α → κ)

/-- What is registered under a key. -/
def lookup (registry : List α) (k : κ) : Option α := registry.find? fun a => key a = k

/-- The registration fails with the key. -/
def register (granted : α → Bool) (registry : List α) (a : α) : Except κ (List α) :=
  if (lookup key registry (key a)).isSome ∨ granted a = false then .error (key a)
  else .ok (registry ++ [a])

/-- One registration after the other. -/
def registerAll (granted : α → Bool) (registry : List α) (wanted : List α) :
    Except κ (List α) :=
  wanted.foldlM (register key granted) registry

variable {key} {granted : α → Bool} {registry registry' wanted : List α} {a b : α} {k : κ}

theorem lookup_eq_none_iff : lookup key registry k = none ↔ ∀ a ∈ registry, key a ≠ k := by
  simp [lookup]

theorem lookup_append (h : lookup key registry k = some a) :
    lookup key (registry ++ registry') k = some a := by
  unfold lookup at h ⊢
  rw [List.find?_append, h]
  rfl

theorem register_ok_iff :
    register key granted registry a = .ok registry' ↔
      lookup key registry (key a) = none ∧ granted a = true ∧ registry' = registry ++ [a] := by
  unfold register
  split_ifs with h
  · refine iff_of_false nofun ?_
    rintro ⟨hfree, hgranted, -⟩
    rw [hfree, hgranted] at h
    simp at h
  · rw [not_or, Bool.not_eq_true, Option.isSome_eq_false_iff, Option.isNone_iff_eq_none,
      Bool.not_eq_false] at h
    rw [and_iff_right h.1, and_iff_right h.2]
    exact ⟨fun heq => (Except.ok.inj heq).symm, fun heq => heq ▸ rfl⟩

theorem lookup_register_self (h : register key granted registry a = .ok registry') :
    lookup key registry' (key a) = some a := by
  obtain ⟨hfree, -, rfl⟩ := register_ok_iff.mp h
  unfold lookup at hfree ⊢
  rw [List.find?_append, hfree]
  simp

/-- **What has been registered is found.** -/
theorem lookup_of_registerAll (h : registerAll key granted registry wanted = .ok registry') :
    (∀ k a, lookup key registry k = some a → lookup key registry' k = some a) ∧
      ∀ a ∈ wanted, lookup key registry' (key a) = some a := by
  induction wanted generalizing registry with
  | nil =>
      obtain rfl := Except.ok.inj h
      exact ⟨fun _ _ hfound => hfound, nofun⟩
  | cons a wanted ih =>
      rw [registerAll, List.foldlM_cons] at h
      obtain ⟨registry₁, hfirst, hrest⟩ := bind_eq_ok_iff.mp h
      obtain ⟨hkept, hfound⟩ := ih hrest
      refine ⟨fun k b hb => hkept k b ?_, ?_⟩
      · obtain ⟨-, -, rfl⟩ := register_ok_iff.mp hfirst
        exact lookup_append hb
      · rw [List.forall_mem_cons]
        exact ⟨hkept _ _ (lookup_register_self hfirst), hfound⟩

/-- **When all registrations go through.** -/
theorem registerAll_ok_iff :
    registerAll key granted registry wanted = .ok registry' ↔
      (∀ a ∈ wanted, granted a = true) ∧ (wanted.map key).Nodup ∧
        (∀ a ∈ wanted, lookup key registry (key a) = none) ∧ registry' = registry ++ wanted := by
  induction wanted generalizing registry with
  | nil =>
      have hsame : registerAll key granted registry [] = .ok registry := rfl
      rw [hsame, Except.ok.injEq, List.append_nil]
      exact ⟨fun h => ⟨nofun, List.nodup_nil, nofun, h.symm⟩, fun h => h.2.2.2.symm⟩
  | cons a wanted ih =>
      rw [registerAll, List.foldlM_cons, bind_eq_ok_iff, List.map_cons, List.nodup_cons,
        List.forall_mem_cons, List.forall_mem_cons]
      have hfree : ∀ b, lookup key (registry ++ [a]) (key b) = none ↔
          lookup key registry (key b) = none ∧ key a ≠ key b := by
        intro b
        rw [lookup_eq_none_iff, lookup_eq_none_iff, List.forall_mem_append,
          List.forall_mem_singleton]
      have hapart : key a ∉ wanted.map key ↔ ∀ b ∈ wanted, key a ≠ key b := by
        rw [List.mem_map, not_exists]
        exact ⟨fun h b hb hkey => h b ⟨hb, hkey.symm⟩, fun h b hb => h b hb.1 hb.2.symm⟩
      constructor
      · rintro ⟨registry₁, hfirst, hrest⟩
        obtain ⟨hnone, hgranted, rfl⟩ := register_ok_iff.mp hfirst
        obtain ⟨hall, hnodup, hfrees, rfl⟩ := ih.mp hrest
        refine ⟨⟨hgranted, hall⟩, ⟨?_, hnodup⟩, ⟨hnone, ?_⟩, List.append_cons .. |>.symm⟩
        · exact hapart.mpr fun b hb => ((hfree b).mp (hfrees b hb)).2
        · exact fun b hb => ((hfree b).mp (hfrees b hb)).1
      · rintro ⟨⟨hgranted, hall⟩, ⟨hnot, hnodup⟩, ⟨hnone, hfrees⟩, rfl⟩
        refine ⟨registry ++ [a], register_ok_iff.mpr ⟨hnone, hgranted, rfl⟩, ih.mpr
          ⟨hall, hnodup, fun b hb => (hfree b).mpr ⟨hfrees b hb, hapart.mp hnot b hb⟩, ?_⟩⟩
        exact List.append_cons ..

end Registries
