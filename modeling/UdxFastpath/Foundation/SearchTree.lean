import Mathlib.Data.List.Induction
import Mathlib.Data.List.Pairwise
import Mathlib.Logic.Function.Basic
import Mathlib.Order.Lattice
import Mathlib.Order.RelClasses

/-!
# Search trees under a comparison

An ordered map as the standard containers have it: a binary tree of entries that is
searched and filled by nothing but a comparison `lt` of two keys.

* `find` goes down to the first entry whose key is not below the one looked for, and
  asks once more whether the two are the same; `insertUnique` goes down to where the key
  belongs and inserts it if there is none like it.
* After an insertion the container may turn the tree as it likes.  `Filled` is the trees
  a sequence of insertions can lead to: it fixes the entries and their order, not the
  shape.
* `stored` is what the insertions mean: a table by keys.

Under a strict total order every tree is searched correctly, whatever its shape:
`find_of_filled`.
-/

/-- A binary tree with an entry at every node. -/
inductive SearchTree (α : Type*)
  | leaf
  | node (left : SearchTree α) (entry : α) (right : SearchTree α)

namespace SearchTree

variable {α κ : Type*}

/-- The entries from left to right. -/
def toList : SearchTree α → List α
  | leaf => []
  | node left entry right => left.toList ++ entry :: right.toList

@[simp] theorem toList_leaf : (leaf : SearchTree α).toList = [] := rfl

@[simp] theorem toList_node (left right : SearchTree α) (entry : α) :
    (node left entry right).toList = left.toList ++ entry :: right.toList := rfl

/-- Change the entries in their places. -/
def map (f : α → α) : SearchTree α → SearchTree α
  | leaf => leaf
  | node left entry right => node (left.map f) (f entry) (right.map f)

theorem toList_map (f : α → α) (t : SearchTree α) : (t.map f).toList = t.toList.map f := by
  induction t with
  | leaf => rfl
  | node left entry right ihl ihr =>
      rw [map, toList_node, ihl, ihr, toList_node, List.map_append, List.map_cons]

/-! ## Searching and inserting -/

section Operations

variable (lt : κ → κ → Bool)

/-- The first entry whose key is not below `k`, or the one seen last on the way down. -/
def lowerBound (k : κ) : SearchTree (κ × α) → Option (κ × α) → Option (κ × α)
  | leaf, seen => seen
  | node left entry right, seen =>
      if lt entry.1 k then lowerBound k right seen else lowerBound k left (some entry)

/-- `find`. -/
def find (k : κ) (t : SearchTree (κ × α)) : Option (κ × α) :=
  match lowerBound lt k t none with
  | none => none
  | some entry => if lt k entry.1 then none else some entry

/-- The last entry on the way down that `k` is not below: what comes before the place of `k`. -/
def previous (k : κ) : SearchTree (κ × α) → Option (κ × α) → Option (κ × α)
  | leaf, seen => seen
  | node left entry right, seen =>
      if lt k entry.1 then previous k left seen else previous k right (some entry)

/-- Put a new node where `k` belongs. -/
def place (k : κ) (v : α) : SearchTree (κ × α) → SearchTree (κ × α)
  | leaf => node leaf (k, v) leaf
  | node left entry right =>
      if lt k entry.1 then node (place k v left) entry right
      else node left entry (place k v right)

/-- `insert`: nothing happens unless the entry in front of the place has a smaller key. -/
def insertUnique (k : κ) (v : α) (t : SearchTree (κ × α)) : SearchTree (κ × α) :=
  match previous lt k t none with
  | none => place lt k v t
  | some entry => if lt entry.1 k then place lt k v t else t

end Operations

/-- An insertion that keeps what is there under the key, or one that replaces it. -/
inductive Insertion (κ α : Type*)
  | insert (k : κ) (v : α)
  | assign (k : κ) (v : α)

/-- The key of an insertion. -/
def Insertion.key : Insertion κ α → κ
  | insert k _ => k
  | assign k _ => k

/-- What an insertion does to the tree, before the tree is turned.  An assignment through
`operator[]` writes over the value of the entry that neither key is below. -/
def apply (lt : κ → κ → Bool) : Insertion κ α → SearchTree (κ × α) → SearchTree (κ × α)
  | .insert k v, t => insertUnique lt k v t
  | .assign k v, t =>
      match find lt k t with
      | none => insertUnique lt k v t
      | some _ => t.map fun e => if lt e.1 k || lt k e.1 then e else (e.1, v)

/-- The trees a sequence of insertions can lead to.  Each step may turn the tree: it keeps the
entries in their order. -/
inductive Filled (lt : κ → κ → Bool) : List (Insertion κ α) → SearchTree (κ × α) → Prop
  | empty : Filled lt [] leaf
  | step {ops : List (Insertion κ α)} {t t' : SearchTree (κ × α)} (op : Insertion κ α)
      (filled : Filled lt ops t) (turned : t'.toList = (apply lt op t).toList) :
      Filled lt (ops ++ [op]) t'

/-! ## What the insertions mean -/

section Stored

variable [DecidableEq κ]

/-- An insertion into a table by keys. -/
def Insertion.store : Insertion κ α → (κ → Option α) → κ → Option α
  | insert k v, table => if (table k).isSome then table else Function.update table k (some v)
  | assign k v, table => Function.update table k (some v)

/-- The table after a sequence of insertions. -/
def stored (ops : List (Insertion κ α)) : κ → Option α :=
  ops.foldl (fun table op => op.store table) fun _ => none

theorem stored_concat (ops : List (Insertion κ α)) (op : Insertion κ α) :
    stored (ops ++ [op]) = op.store (stored ops) := by
  rw [stored, List.foldl_append]
  rfl

/-- An insertion under another key changes nothing. -/
theorem Insertion.store_of_ne {op : Insertion κ α} {k : κ} (h : op.key ≠ k)
    (table : κ → Option α) : op.store table k = table k := by
  cases op with
  | insert k' v =>
      rw [store]
      split
      · rfl
      · exact Function.update_of_ne (Ne.symm h) _ _
  | assign k' v => exact Function.update_of_ne (Ne.symm h) _ _

/-- An insertion under the key depends on what was there under it, and on nothing else. -/
theorem Insertion.store_congr {op : Insertion κ α} {k : κ} {table table' : κ → Option α}
    (h : table k = table' k) : op.store table k = op.store table' k := by
  by_cases hkey : op.key = k
  · subst hkey
    cases op with
    | insert k v =>
        have hk : table k = table' k := h
        simp only [store, key, hk]
        split
        · exact hk
        · rw [Function.update_self, Function.update_self]
    | assign k v => simp only [store, key, Function.update_self]
  · rw [store_of_ne hkey, store_of_ne hkey, h]

/-- **What is stored under a key is what the insertions under that key make of it.** -/
theorem stored_filter (ops : List (Insertion κ α)) (k : κ) :
    stored (ops.filter fun op => op.key = k) k = stored ops k := by
  induction ops using List.reverseRecOn with
  | nil => rfl
  | append_singleton ops op ih =>
      rw [List.filter_append, stored_concat]
      by_cases hkey : op.key = k
      · rw [List.filter_cons_of_pos (by simpa using hkey), List.filter_nil, stored_concat]
        exact Insertion.store_congr ih
      · rw [List.filter_cons_of_neg (by simpa using hkey), List.filter_nil, List.append_nil, ih,
          Insertion.store_of_ne hkey]

end Stored

/-! ## Comparisons -/

/-- A comparison of images in a linear order, if no two keys have one image. -/
theorem isStrictTotalOrder_of_lt_iff {β : Type*} [LinearOrder β] {lt : κ → κ → Bool} {f : κ → β}
    (hf : Function.Injective f) (h : ∀ a b, lt a b = true ↔ f a < f b) :
    IsStrictTotalOrder κ (lt · ·) := by
  have heq : (fun a b => lt a b = true) = Function.onFun (· < ·) f := by
    funext a b
    exact propext (h a b)
  rw [heq]
  exact hf.isStrictTotalOrder_onFun (r := (· < ·))

/-! ## Sorted trees -/

section Order

variable {lt : κ → κ → Bool} [IsStrictTotalOrder κ (lt · ·)] {k : κ} {e : κ × α}
  {t : SearchTree (κ × α)}

/-- The keys ascend from left to right. -/
def Sorted (lt : κ → κ → Bool) (t : SearchTree (κ × α)) : Prop :=
  t.toList.Pairwise fun a b => lt a.1 b.1 = true

/-- Keys neither of which is below the other are the same. -/
theorem lt_or_lt_of_ne {a b : κ} (h : a ≠ b) : lt a b = true ∨ lt b a = true := by
  by_contra hnot
  rw [not_or] at hnot
  exact h (Std.Trichotomous.trichotomous (r := (lt · ·)) a b hnot.1 hnot.2)

theorem sorted_node_iff {left right : SearchTree (κ × α)} :
    Sorted lt (node left e right) ↔ Sorted lt left ∧ Sorted lt right ∧
      (∀ a ∈ left.toList, lt a.1 e.1 = true) ∧ ∀ b ∈ right.toList, lt e.1 b.1 = true := by
  rw [Sorted, toList_node, List.pairwise_append, List.pairwise_cons]
  constructor
  · rintro ⟨hleft, ⟨hroot, hright⟩, hcross⟩
    exact ⟨hleft, hright, fun a ha => hcross a ha e List.mem_cons_self, hroot⟩
  · rintro ⟨hleft, hright, hbelow, habove⟩
    refine ⟨hleft, ⟨habove, hright⟩, fun a ha b hb => ?_⟩
    rcases List.mem_cons.mp hb with rfl | hb
    · exact hbelow a ha
    · exact trans_of (lt · ·) (hbelow a ha) (habove b hb)

/-- Going down finds the first entry whose key is not below. -/
theorem lowerBound_eq (h : Sorted lt t) (seen : Option (κ × α)) :
    lowerBound lt k t seen = (t.toList.find? fun e => !lt e.1 k).or seen := by
  induction t generalizing seen with
  | leaf => rfl
  | node left e right ihl ihr =>
      obtain ⟨hleft, hright, hbelow, -⟩ := sorted_node_iff.mp h
      rw [lowerBound, toList_node, List.find?_append]
      cases hlt : lt e.1 k with
      | true =>
          have hnone : (left.toList.find? fun e => !lt e.1 k) = none := by
            rw [List.find?_eq_none]
            intro a ha
            have hak : lt a.1 k = true := trans_of (lt · ·) (hbelow a ha) hlt
            simp [hak]
          rw [if_pos rfl, ihr hright, hnone, List.find?_cons_of_neg (by simp [hlt]), Option.none_or]
      | false =>
          rw [if_neg Bool.false_ne_true, ihl hleft, List.find?_cons_of_pos (by simp [hlt]),
            Option.or_assoc, Option.some_or]

/-- …and inserting goes down to the last entry that is not above. -/
theorem previous_eq (h : Sorted lt t) (seen : Option (κ × α)) :
    previous lt k t seen = (t.toList.reverse.find? fun e => !lt k e.1).or seen := by
  induction t generalizing seen with
  | leaf => rfl
  | node left e right ihl ihr =>
      obtain ⟨hleft, hright, -, habove⟩ := sorted_node_iff.mp h
      rw [previous, toList_node, List.reverse_append, List.reverse_cons, List.append_assoc,
        List.singleton_append, List.find?_append]
      cases hlt : lt k e.1 with
      | true =>
          have hnone : (right.toList.reverse.find? fun e => !lt k e.1) = none := by
            rw [List.find?_eq_none]
            intro b hb
            have hkb : lt k b.1 = true :=
              trans_of (lt · ·) hlt (habove b (List.mem_reverse.mp hb))
            simp [hkb]
          rw [if_pos rfl, ihl hleft, hnone, List.find?_cons_of_neg (by simp [hlt]), Option.none_or]
      | false =>
          rw [if_neg Bool.false_ne_true, ihr hright, List.find?_cons_of_pos (by simp [hlt]),
            Option.or_assoc, Option.some_or]

/-- An entry is the first whose key is not below its own, -/
theorem find?_of_mem (h : Sorted lt t) (he : e ∈ t.toList) :
    (t.toList.find? fun a => !lt a.1 e.1) = some e := by
  obtain ⟨before, after, hlist⟩ := List.append_of_mem he
  rw [Sorted, hlist, List.pairwise_append] at h
  obtain ⟨-, -, hcross⟩ := h
  have hself : ¬ lt e.1 e.1 = true := irrefl_of (lt · ·) e.1
  refine List.find?_eq_some_iff_append.mpr ⟨by simpa using hself, before, after, hlist, ?_⟩
  intro a ha
  simpa using hcross a ha e List.mem_cons_self

/-- …and the last whose key is not above it. -/
theorem find?_reverse_of_mem (h : Sorted lt t) (he : e ∈ t.toList) :
    (t.toList.reverse.find? fun a => !lt e.1 a.1) = some e := by
  obtain ⟨before, after, hlist⟩ := List.append_of_mem he
  rw [Sorted, hlist, List.pairwise_append, List.pairwise_cons] at h
  obtain ⟨-, ⟨habove, -⟩, -⟩ := h
  have hself : ¬ lt e.1 e.1 = true := irrefl_of (lt · ·) e.1
  refine List.find?_eq_some_iff_append.mpr
    ⟨by simpa using hself, after.reverse, before.reverse, by simp [hlist], ?_⟩
  intro b hb
  simpa using habove b (List.mem_reverse.mp hb)

/-- **A sorted tree is searched correctly**, whatever its shape. -/
theorem find_eq_some_iff (h : Sorted lt t) : find lt k t = some e ↔ e ∈ t.toList ∧ e.1 = k := by
  rw [find, lowerBound_eq h, Option.or_none]
  constructor
  · intro hfind
    split at hfind
    · cases hfind
    · rename_i first hfirst
      split at hfind
      · cases hfind
      · rename_i habove
        obtain rfl := Option.some.inj hfind
        refine ⟨List.mem_of_find?_eq_some hfirst, ?_⟩
        have hbelow : ¬ lt first.1 k = true := by simpa using List.find?_some hfirst
        by_contra hne
        exact (lt_or_lt_of_ne hne).elim hbelow habove
  · rintro ⟨he, rfl⟩
    have hself : ¬ lt e.1 e.1 = true := irrefl_of (lt · ·) e.1
    simp only [find?_of_mem h he, if_neg hself]

/-! ## Inserting -/

/-- Nothing is inserted under a key that is there. -/
theorem insertUnique_of_mem (h : Sorted lt t) (he : e ∈ t.toList) (v : α) :
    insertUnique lt e.1 v t = t := by
  have hself : ¬ lt e.1 e.1 = true := irrefl_of (lt · ·) e.1
  rw [insertUnique, previous_eq h, Option.or_none, find?_reverse_of_mem h he]
  exact if_neg hself

/-- A key that is not there gets its node. -/
theorem insertUnique_of_notMem (h : Sorted lt t) (hk : ∀ a ∈ t.toList, a.1 ≠ k) (v : α) :
    insertUnique lt k v t = place lt k v t := by
  rw [insertUnique, previous_eq h, Option.or_none]
  cases hlast : t.toList.reverse.find? fun a => !lt k a.1 with
  | none => rfl
  | some last =>
      have hmem : last ∈ t.toList := List.mem_reverse.mp (List.mem_of_find?_eq_some hlast)
      have hnot := List.find?_some hlast
      simp only [Bool.not_eq_true'] at hnot
      have horder : lt last.1 k = true ∨ lt k last.1 = true := lt_or_lt_of_ne (hk last hmem)
      rcases horder with hlt | hlt
      · simp only [hlt, if_true]
      · rw [hlt] at hnot
        cases hnot

omit [IsStrictTotalOrder κ (lt · ·)] in
theorem mem_place {v : α} : e ∈ (place lt k v t).toList ↔ e = (k, v) ∨ e ∈ t.toList := by
  induction t with
  | leaf => simp [place]
  | node left entry right ihl ihr =>
      rw [place]
      split
      · rw [toList_node, List.mem_append, ihl, toList_node, List.mem_append, or_assoc]
      · rw [toList_node, List.mem_append, List.mem_cons, ihr, toList_node, List.mem_append,
          List.mem_cons, or_left_comm (a := e = entry), or_left_comm (a := e ∈ left.toList)]

theorem sorted_place (h : Sorted lt t) (hk : ∀ a ∈ t.toList, a.1 ≠ k) (v : α) :
    Sorted lt (place lt k v t) := by
  induction t with
  | leaf => exact List.pairwise_singleton _ _
  | node left entry right ihl ihr =>
      obtain ⟨hleft, hright, hbelow, habove⟩ := sorted_node_iff.mp h
      simp only [toList_node, List.forall_mem_append, List.forall_mem_cons] at hk
      obtain ⟨hkleft, hkroot, hkright⟩ := hk
      rw [place]
      split
      · rename_i hlt
        refine sorted_node_iff.mpr ⟨ihl hleft hkleft, hright, fun a ha => ?_, habove⟩
        rcases mem_place.mp ha with rfl | ha
        · exact hlt
        · exact hbelow a ha
      · rename_i hlt
        refine sorted_node_iff.mpr ⟨hleft, ihr hright hkright, hbelow, fun b hb => ?_⟩
        rcases mem_place.mp hb with rfl | hb
        · exact (lt_or_lt_of_ne hkroot).resolve_right hlt
        · exact habove b hb

/-! ## The tree and the table -/

variable [DecidableEq κ]

/-- The tree is sorted and its entries are those of the table. -/
structure Represents (lt : κ → κ → Bool) (t : SearchTree (κ × α)) (table : κ → Option α) :
    Prop where
  sorted : Sorted lt t
  mem_iff : ∀ e, e ∈ t.toList ↔ table e.1 = some e.2

variable {table : κ → Option α}

omit [IsStrictTotalOrder κ (lt · ·)] [DecidableEq κ] in
/-- Turning a tree changes nothing. -/
theorem Represents.of_toList_eq {t' : SearchTree (κ × α)} (h : Represents lt t table)
    (heq : t'.toList = t.toList) : Represents lt t' table :=
  ⟨by rw [Sorted, heq]; exact h.sorted, fun e => by rw [heq]; exact h.mem_iff e⟩

omit [DecidableEq κ] in
/-- Looking up a key in the tree is looking it up in the table. -/
theorem Represents.find_eq (h : Represents lt t table) (k : κ) :
    find lt k t = (table k).map (k, ·) := by
  refine Option.ext fun e => ?_
  rw [find_eq_some_iff h.sorted, h.mem_iff, Option.map_eq_some_iff]
  constructor
  · rintro ⟨he, rfl⟩
    exact ⟨e.2, he, rfl⟩
  · rintro ⟨v, hv, rfl⟩
    exact ⟨hv, rfl⟩

/-- A new key. -/
theorem Represents.place (h : Represents lt t table) (hk : table k = none) (v : α) :
    Represents lt (place lt k v t) (Function.update table k (some v)) := by
  have hnew : ∀ a ∈ t.toList, a.1 ≠ k := by
    rintro a ha rfl
    rw [(h.mem_iff a).mp ha] at hk
    cases hk
  refine ⟨sorted_place h.sorted hnew v, fun e => ?_⟩
  rw [mem_place, h.mem_iff]
  by_cases hek : e.1 = k
  · rw [hek, Function.update_self, hk]
    constructor
    · rintro (rfl | hnone)
      · rfl
      · cases hnone
    · exact fun hv => .inl (Prod.ext hek (Option.some.inj hv).symm)
  · rw [Function.update_of_ne hek]
    exact or_iff_right fun heq => hek (congrArg Prod.fst heq)

/-- A new value for a key that is there. -/
theorem Represents.overwrite (h : Represents lt t table) {old : α} (hk : table k = some old)
    (v : α) :
    Represents lt (t.map fun e => if lt e.1 k || lt k e.1 then e else (e.1, v))
      (Function.update table k (some v)) := by
  -- the entry neither key is below is the one under `k`
  have hsame : ∀ e : κ × α,
      (if lt e.1 k || lt k e.1 then e else (e.1, v)) = if e.1 = k then (k, v) else e := by
    intro e
    by_cases hek : e.1 = k
    · have hirrefl : ¬ lt k k = true := irrefl_of (lt · ·) k
      rw [if_pos hek, hek, Bool.or_self, if_neg hirrefl]
    · rw [if_neg hek, if_pos]
      exact Bool.or_eq_true_iff.mpr (lt_or_lt_of_ne hek)
  have hkey : ∀ e : κ × α, (if e.1 = k then (k, v) else e).1 = e.1 := by
    intro e
    split
    · rename_i hek
      exact hek.symm
    · rfl
  simp only [hsame]
  constructor
  · rw [Sorted, toList_map, List.pairwise_map]
    refine h.sorted.imp fun {a b} hab => ?_
    rw [hkey, hkey]
    exact hab
  · intro e
    rw [toList_map, List.mem_map]
    by_cases hek : e.1 = k
    · rw [hek, Function.update_self]
      constructor
      · rintro ⟨a, ha, rfl⟩
        rw [hkey] at hek
        rw [if_pos hek]
      · intro hv
        refine ⟨(k, old), (h.mem_iff _).mpr hk, ?_⟩
        rw [if_pos rfl]
        exact Prod.ext hek.symm (Option.some.inj hv)
    · rw [Function.update_of_ne hek, ← h.mem_iff]
      constructor
      · rintro ⟨a, ha, rfl⟩
        rw [hkey] at hek
        rwa [if_neg hek]
      · exact fun he => ⟨e, he, if_neg hek⟩

/-- **An insertion into the tree is one into the table.** -/
theorem Represents.apply (h : Represents lt t table) (op : Insertion κ α) :
    Represents lt (apply lt op t) (op.store table) := by
  have hinsert : ∀ k v, table k = none →
      Represents lt (insertUnique lt k v t) (Function.update table k (some v)) := by
    intro k v hk
    rw [insertUnique_of_notMem h.sorted]
    · exact h.place hk v
    · rintro a ha rfl
      rw [(h.mem_iff a).mp ha] at hk
      cases hk
  cases op with
  | insert k v =>
      rw [SearchTree.apply, Insertion.store]
      cases hk : table k with
      | none =>
          rw [if_neg (by simp)]
          exact hinsert k v hk
      | some old =>
          rw [insertUnique_of_mem h.sorted ((h.mem_iff (k, old)).mpr hk) v]
          exact h
  | assign k v =>
      rw [SearchTree.apply, Insertion.store, h.find_eq]
      cases hk : table k with
      | none => exact hinsert k v hk
      | some old => exact h.overwrite hk v

/-- Every tree that can come about represents the table of the insertions. -/
theorem represents_of_filled {ops : List (Insertion κ α)} (h : Filled lt ops t) :
    Represents lt t (stored ops) := by
  induction h with
  | empty => exact ⟨.nil, fun e => by simp [stored]⟩
  | step op filled turned ih =>
      rw [stored_concat]
      exact (ih.apply op).of_toList_eq turned

/-- **A tree filled by insertions is searched as the table is.** -/
theorem find_of_filled {ops : List (Insertion κ α)} (h : Filled lt ops t) (k : κ) :
    find lt k t = (stored ops k).map (k, ·) :=
  (represents_of_filled h).find_eq k

end Order

end SearchTree
