import Mathlib.Data.List.Pairwise
import Mathlib.Data.List.Sort

/-!
# Objects with ordered keys

The members of an **ordered object** are kept, visited and printed in the order of
their keys, whatever the order in which they were set.

* `OrderedObject` is the list of members, with its order as a field; `set` replaces
  or inserts, and `setAll` sets one after the other.
* `entries_perm_setAll`: setting new and distinct keys adds exactly those members, and
  `mem_setAll`: so does setting a key twice, if it is to the same value.
* An object is often filled from a numbered family `key 0, key 1, …`.  `arranged key n`
  is the list of numbers in the order of their keys, and `entries_eq_arranged` says
  that this is how the members lie.

Two families over the same numbers arrange alike exactly when they order every two
numbers alike (`arranged_eq_iff`).  That is the question to ask when several objects
are filled in one loop and later read by position.
-/

/-- Members in the strict order of their keys. -/
structure OrderedObject (κ α : Type*) [LT κ] where
  entries : List (κ × α)
  sorted : entries.Pairwise fun a b => a.1 < b.1

namespace OrderedObject

instance {κ α : Type*} [LT κ] : Inhabited (OrderedObject κ α) := ⟨⟨[], .nil⟩⟩

variable {κ α : Type*} [LinearOrder κ]

/-! ## Setting a member -/

/-- Set a member of a list: replace it, or put it where its key belongs. -/
def setEntry (k : κ) (v : α) : List (κ × α) → List (κ × α)
  | [] => [(k, v)]
  | (k', v') :: rest =>
      if k < k' then (k, v) :: (k', v') :: rest
      else if k = k' then (k, v) :: rest
      else (k', v') :: setEntry k v rest

theorem mem_of_mem_setEntry {k : κ} {v : α} {e : κ × α} :
    ∀ {l : List (κ × α)}, e ∈ setEntry k v l → e = (k, v) ∨ e ∈ l := by
  intro l
  induction l with
  | nil => intro h; simpa [setEntry] using h
  | cons head rest ih =>
      intro h
      rw [setEntry] at h
      split_ifs at h with hlt heq
      · exact List.mem_cons.mp h
      · exact (List.mem_cons.mp h).imp_right (List.mem_cons_of_mem _)
      · rcases List.mem_cons.mp h with rfl | h
        · exact .inr List.mem_cons_self
        · exact (ih h).imp_right (List.mem_cons_of_mem _)

theorem pairwise_setEntry (k : κ) (v : α) :
    ∀ {l : List (κ × α)}, l.Pairwise (fun a b => a.1 < b.1) →
      (setEntry k v l).Pairwise fun a b => a.1 < b.1 := by
  intro l
  induction l with
  | nil => intro _; simp [setEntry]
  | cons head rest ih =>
      intro h
      obtain ⟨hhead, hrest⟩ := List.pairwise_cons.mp h
      rw [setEntry]
      split_ifs with hlt heq
      · refine List.pairwise_cons.mpr ⟨fun e he => ?_, h⟩
        rcases List.mem_cons.mp he with rfl | he
        · exact hlt
        · exact hlt.trans (hhead e he)
      · refine List.pairwise_cons.mpr ⟨fun e he => ?_, hrest⟩
        rw [heq]
        exact hhead e he
      · refine List.pairwise_cons.mpr ⟨fun e he => ?_, ih hrest⟩
        rcases mem_of_mem_setEntry he with rfl | he
        · exact lt_of_le_of_ne (not_lt.mp hlt) (Ne.symm heq)
        · exact hhead e he

/-- A new key adds a member and changes no other. -/
theorem setEntry_perm {k : κ} (v : α) :
    ∀ {l : List (κ × α)}, k ∉ l.map Prod.fst → (setEntry k v l).Perm ((k, v) :: l) := by
  intro l
  induction l with
  | nil => intro _; exact .refl _
  | cons head rest ih =>
      intro h
      rw [List.map_cons, List.mem_cons, not_or] at h
      rw [setEntry]
      split_ifs with hlt heq
      · exact .refl _
      · exact absurd heq h.1
      · exact ((ih h.2).cons head).trans (.swap _ _ _)

/-- The object without members. -/
def empty : OrderedObject κ α := ⟨[], .nil⟩

/-- `object[k] = v`. -/
def set (o : OrderedObject κ α) (k : κ) (v : α) : OrderedObject κ α :=
  ⟨setEntry k v o.entries, pairwise_setEntry k v o.sorted⟩

/-- Set one member after the other. -/
def setAll (o : OrderedObject κ α) (l : List (κ × α)) : OrderedObject κ α :=
  l.foldl (fun o e => o.set e.1 e.2) o

/-- **Distinct new keys are all there, and nothing else is.** -/
theorem entries_perm_setAll :
    ∀ (l : List (κ × α)) (o : OrderedObject κ α),
      (o.entries.map Prod.fst ++ l.map Prod.fst).Nodup →
        (o.setAll l).entries.Perm (o.entries ++ l) := by
  intro l
  induction l with
  | nil => intro o _; rw [List.append_nil]; exact .refl _
  | cons e rest ih =>
      intro o hnodup
      have hnew : e.1 ∉ o.entries.map Prod.fst := by
        intro hmem
        exact List.disjoint_of_nodup_append hnodup hmem List.mem_cons_self
      have hset : (o.set e.1 e.2).entries.Perm (e :: o.entries) := setEntry_perm e.2 hnew
      have hmiddle : (e :: o.entries ++ rest).Perm (o.entries ++ e :: rest) :=
        List.perm_middle.symm
      have hrest : ((o.set e.1 e.2).entries.map Prod.fst ++ rest.map Prod.fst).Nodup := by
        rw [← List.map_append] at hnodup ⊢
        exact (((hset.append_right rest).trans hmiddle).map Prod.fst).nodup_iff.mpr hnodup
      exact (ih _ hrest).trans ((hset.append_right rest).trans hmiddle)

/-- Setting a key leaves every other member as it was. -/
theorem mem_setEntry {k : κ} {v : α} {e : κ × α} :
    ∀ {l : List (κ × α)}, l.Pairwise (fun a b => a.1 < b.1) →
      (e ∈ setEntry k v l ↔ e = (k, v) ∨ e ∈ l ∧ e.1 ≠ k) := by
  intro l
  induction l with
  | nil => intro _; simp [setEntry]
  | cons head rest ih =>
      intro h
      obtain ⟨hhead, hrest⟩ := List.pairwise_cons.mp h
      rw [setEntry]
      split_ifs with hlt heq
      · -- the key is below all others, so it was not there
        have hne : ∀ e ∈ head :: rest, e.1 ≠ k := by
          intro e he
          rcases List.mem_cons.mp he with rfl | he
          · exact hlt.ne'
          · exact (hlt.trans (hhead e he)).ne'
        rw [List.mem_cons]
        exact or_congr_right ⟨fun he => ⟨he, hne e he⟩, And.left⟩
      · have hne : ∀ e ∈ rest, e.1 ≠ k := by
          intro e he
          rw [heq]
          exact (hhead e he).ne'
        rw [List.mem_cons, List.mem_cons]
        constructor
        · exact Or.imp_right fun he => ⟨.inr he, hne e he⟩
        · rintro (he | ⟨rfl | he, hk⟩)
          · exact .inl he
          · exact absurd heq.symm hk
          · exact .inr he
      · rw [List.mem_cons, List.mem_cons, ih hrest]
        constructor
        · rintro (rfl | he | ⟨he, hk⟩)
          · exact .inr ⟨.inl rfl, Ne.symm heq⟩
          · exact .inl he
          · exact .inr ⟨.inr he, hk⟩
        · rintro (he | ⟨rfl | he, hk⟩)
          · exact .inr (.inl he)
          · exact .inl rfl
          · exact .inr (.inr ⟨he, hk⟩)

/-- **Keys may be set again, as long as it is to the same value**: then everything that was set
is there, and so is what was there under other keys. -/
theorem mem_setAll {e : κ × α} :
    ∀ (l : List (κ × α)) (o : OrderedObject κ α),
      (∀ a ∈ l, ∀ b ∈ l, a.1 = b.1 → a = b) →
        (e ∈ (o.setAll l).entries ↔ e ∈ l ∨ e ∈ o.entries ∧ ∀ a ∈ l, e.1 ≠ a.1) := by
  intro l
  induction l with
  | nil => intro o _; simp [setAll]
  | cons head rest ih =>
      intro o hsame
      have hrest : ∀ a ∈ rest, ∀ b ∈ rest, a.1 = b.1 → a = b := fun a ha b hb =>
        hsame a (List.mem_cons_of_mem _ ha) b (List.mem_cons_of_mem _ hb)
      have hset : e ∈ (o.set head.1 head.2).entries ↔ e = head ∨ e ∈ o.entries ∧ e.1 ≠ head.1 :=
        mem_setEntry o.sorted
      have hcons : o.setAll (head :: rest) = (o.set head.1 head.2).setAll rest := rfl
      rw [hcons, ih _ hrest, hset, List.mem_cons, List.forall_mem_cons]
      constructor
      · rintro (he | ⟨he | he, hother⟩)
        · exact .inl (.inr he)
        · exact .inl (.inl he)
        · exact .inr ⟨he.1, he.2, hother⟩
      · rintro ((he | he) | ⟨he, hk, hother⟩)
        · -- set here, and perhaps again later
          by_cases hlater : ∀ a ∈ rest, e.1 ≠ a.1
          · exact .inr ⟨.inl he, hlater⟩
          · simp only [not_forall, not_not] at hlater
            obtain ⟨a, ha, hka⟩ := hlater
            have heq : e = a := hsame e (he ▸ List.mem_cons_self) a (List.mem_cons_of_mem _ ha) hka
            exact .inl (heq ▸ ha)
        · exact .inl he
        · exact .inr ⟨.inr ⟨he, hk⟩, hother⟩

/-- A key has one value. -/
theorem eq_of_mem_entries (o : OrderedObject κ α) {k : κ} {v v' : α} (h : (k, v) ∈ o.entries)
    (h' : (k, v') ∈ o.entries) : v = v' := by
  have hnodup : o.entries.Pairwise fun a b => a.1 ≠ b.1 := o.sorted.imp ne_of_lt
  by_contra hne
  have hsymm : Std.Symm fun a b : κ × α => a.1 ≠ b.1 := ⟨fun _ _ => Ne.symm⟩
  exact hnodup.forall h h' (fun heq => hne (congrArg Prod.snd heq)) rfl

/-- The members are determined by what they are. -/
theorem entries_eq_of_perm (o : OrderedObject κ α) {l : List (κ × α)}
    (hl : l.Pairwise fun a b => a.1 < b.1) (h : o.entries.Perm l) : o.entries = l :=
  h.eq_of_pairwise (fun _ _ _ _ hab hba => absurd hab hba.asymm) o.sorted hl

/-! ## Numbered families -/

/-- The numbers below `n` in the order of their keys. -/
def arranged (key : ℕ → κ) (n : ℕ) : List ℕ :=
  (List.range n).insertionSort fun a b => key a ≤ key b

section Arranged

variable {key : ℕ → κ} {n : ℕ}

theorem arranged_perm (key : ℕ → κ) (n : ℕ) : (arranged key n).Perm (List.range n) :=
  List.perm_insertionSort _ _

theorem length_arranged (key : ℕ → κ) (n : ℕ) : (arranged key n).length = n := by
  rw [(arranged_perm key n).length_eq, List.length_range]

theorem mem_arranged {a : ℕ} : a ∈ arranged key n ↔ a < n := by
  rw [(arranged_perm key n).mem_iff, List.mem_range]

/-- The keys below `n` are distinct. -/
def Distinct (key : ℕ → κ) (n : ℕ) : Prop := ∀ a < n, ∀ b < n, key a = key b → a = b

theorem pairwise_arranged (h : Distinct key n) :
    (arranged key n).Pairwise fun a b => key a < key b := by
  have htotal : Std.Total fun a b => key a ≤ key b := ⟨fun a b => le_total (key a) (key b)⟩
  have htrans : IsTrans ℕ fun a b => key a ≤ key b := ⟨fun _ _ _ => le_trans⟩
  have hle := List.pairwise_insertionSort (fun a b => key a ≤ key b) (List.range n)
  have hnodup : (arranged key n).Nodup := (arranged_perm key n).nodup_iff.mpr List.nodup_range
  refine List.Pairwise.imp_of_mem ?_ (hle.and hnodup)
  intro a b ha hb hab
  exact lt_of_le_of_ne hab.1 fun heq => hab.2 (h a (mem_arranged.mp ha) b (mem_arranged.mp hb) heq)

/-- **How the members of a numbered family lie.** -/
theorem entries_eq_arranged (o : OrderedObject κ α) (h : Distinct key n) {value : ℕ → α}
    (hperm : o.entries.Perm ((List.range n).map fun a => (key a, value a))) :
    o.entries = (arranged key n).map fun a => (key a, value a) := by
  refine o.entries_eq_of_perm ?_ (hperm.trans ((arranged_perm key n).map _).symm)
  exact List.pairwise_map.mpr (pairwise_arranged h)

/-- Keys that increase with the number arrange in the order of the numbers. -/
theorem arranged_eq_range (h : ∀ a b, a < b → b < n → key a < key b) :
    arranged key n = List.range n := by
  refine List.Pairwise.insertionSort_eq (List.Pairwise.imp_of_mem ?_ List.pairwise_lt_range)
  intro a b _ hb hab
  exact (h a b hab (List.mem_range.mp hb)).le

/-- **Two families arrange alike exactly when they order every two numbers alike.** -/
theorem arranged_eq_iff {κ' : Type*} [LinearOrder κ'] {key' : ℕ → κ'} (h : Distinct key n)
    (h' : Distinct key' n) :
    arranged key n = arranged key' n ↔
      ∀ a < n, ∀ b < n, key a < key b → key' a < key' b := by
  constructor
  · intro heq a ha b hb hlt
    -- whichever of the two comes first is below the other in both orders
    have hboth : (arranged key n).Pairwise fun a b => key a < key b ∧ key' a < key' b :=
      (pairwise_arranged h).and (heq ▸ pairwise_arranged h')
    have hsymm : (arranged key n).Pairwise fun a b =>
        (key a < key b ∧ key' a < key' b) ∨ (key b < key a ∧ key' b < key' a) :=
      hboth.imp .inl
    have hne : a ≠ b := by
      rintro rfl
      exact lt_irrefl _ hlt
    have hswap : Std.Symm fun a b : ℕ =>
        (key a < key b ∧ key' a < key' b) ∨ (key b < key a ∧ key' b < key' a) :=
      ⟨fun _ _ => Or.symm⟩
    have hor := hsymm.forall (mem_arranged.mpr ha) (mem_arranged.mpr hb) hne
    rcases hor with hab | hba
    · exact hab.2
    · exact absurd hlt hba.1.asymm
  · intro hmono
    refine List.Perm.eq_of_pairwise (fun _ _ _ _ hab hba => absurd hab hba.asymm) ?_
      (pairwise_arranged h') ((arranged_perm key n).trans (arranged_perm key' n).symm)
    refine List.Pairwise.imp_of_mem ?_ (pairwise_arranged h)
    intro a b ha hb hab
    exact hmono a (mem_arranged.mp ha) b (mem_arranged.mp hb) hab

end Arranged

end OrderedObject
