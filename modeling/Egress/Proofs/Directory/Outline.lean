import Egress.Proofs.Directory.Commitment
import Egress.Proofs.Directory.Navigation
import Egress.Proofs.Text.ByteOrder
import Mathlib.Algebra.BigOperators.Group.List.Basic

/-!
# What is shown of a tree

Trees that are equal as nested mappings from keys to children (`Node.SameMapping`) may have their
children in different orders, as they came with the writes or otherwise. Nothing of that shows: the
keys at a path come in the order of their bytes, and the outline is the text of the one listing that
a tree has (`Node.Listing`), which does not mention the order of the children (`shows_mapping`).
-/

set_option autoImplicit false

namespace Egress

/-! ## Keys in order -/

theorem eq_of_ascending {ks ks' : List String} (h : Text.Ascending ks) (h' : Text.Ascending ks')
    (hmem : ∀ k, k ∈ ks ↔ k ∈ ks') : ks = ks' := by
  rw [Text.ascending_iff] at h h'
  rw [← sortTexts_eq (h.imp String.ne_of_lt) h fun k => Iff.rfl]
  exact sortTexts_eq (h.imp String.ne_of_lt) h' hmem

namespace Node

mutual

/-- The keys of all maps in a tree, one map after the other. -/
def allKeys : Node → List String
  | undefined => []
  | list _ => []
  | map children => allKeysBelow children

/-- The keys of some children and of the maps below them. -/
def allKeysBelow : List (String × Node) → List String
  | [] => []
  | (k, n) :: rest => k :: (allKeys n ++ allKeysBelow rest)

end

/-- Equal as nested mappings: every path leads to nodes of one kind in both trees, or nowhere, and
to the same endpoints. -/
def SameMapping (n m : Node) : Prop :=
  ∀ path, (n.walk path).map kind = (m.walk path).map kind ∧
    (n.walk path).bind endpoints? = (m.walk path).bind endpoints?

theorem SameMapping.child? {n m : Node} (h : n.SameMapping m) (k : String) :
    (n.child? k = none ∧ m.child? k = none) ∨
      ∃ n' m', n.child? k = some n' ∧ m.child? k = some m' ∧ n'.SameMapping m' := by
  have hbelow (path : List String) := h (k :: path)
  simp only [walk_cons] at hbelow
  cases hn : n.child? k with
  | none =>
    left
    have hk := (hbelow []).1
    rw [hn] at hk
    cases hm : m.child? k with
    | none => exact ⟨rfl, rfl⟩
    | some m' => simp [hm] at hk
  | some n' =>
    right
    cases hm : m.child? k with
    | none => simpa [hn, hm] using (hbelow []).1
    | some m' =>
      refine ⟨n', m', rfl, rfl, fun path => ?_⟩
      simpa only [hn, hm, Option.bind_some] using hbelow path

theorem Reordered.walk {n m : Node} (h : n.Reordered m) (path : List String) :
    (n.walk path = none ∧ m.walk path = none) ∨
      ∃ n' m', n.walk path = some n' ∧ m.walk path = some m' ∧ n'.Reordered m' := by
  induction path generalizing n m with
  | nil => exact .inr ⟨n, m, walk_nil n, walk_nil m, h⟩
  | cons k path ih =>
    rw [walk_cons, walk_cons]
    cases h with
    | undefined => exact .inl ⟨rfl, rfl⟩
    | list es => exact .inl ⟨rfl, rfl⟩
    | @map cs ds hkeys hbelow =>
      rw [Node.child?, Node.child?]
      cases hn : Keyed.get? k cs with
      | none =>
        left
        rw [Keyed.get?_eq_none_iff, hkeys.mem_iff, ← Keyed.get?_eq_none_iff] at hn
        rw [hn]
        exact ⟨rfl, rfl⟩
      | some n' =>
        obtain ⟨m', hm⟩ := exists_get?_of_perm hkeys hn
        rw [hm]
        exact ih (hbelow k n' m' hn hm)

/-- The lines in which a tree is listed at a depth: the endpoints of a list in their order, and
those of a map key by key in the order of bytes, each followed by the lines of its child. -/
inductive Listing : Nat → Node → List String → Prop
  | undefined (depth : Nat) : Listing depth undefined []
  | list (depth : Nat) (es : List String) :
      Listing depth (list es) (es.map fun e => Text.indent depth ++ ("- " ++ e))
  | map {depth : Nat} {cs : List (String × Node)} {ks : List String} {below : String → List String}
      (hasc : Text.Ascending ks) (hkeys : ∀ k, k ∈ ks ↔ k ∈ Keyed.keys cs)
      (hbelow : ∀ k n, Keyed.get? k cs = some n → Listing (depth + 1) n (below k)) :
      Listing depth (map cs) (ks.flatMap fun k => (Text.indent depth ++ (k ++ ":")) :: below k)

theorem Listing.unique {depth : Nat} {n : Node} {ls ls' : List String} (h : n.Listing depth ls)
    (h' : n.Listing depth ls') : ls = ls' := by
  induction h generalizing ls' with
  | undefined depth =>
    cases h'
    rfl
  | list depth es =>
    cases h'
    rfl
  | map hasc hkeys hbelow ih =>
    cases h' with
    | map hasc' hkeys' hbelow' =>
      obtain rfl := eq_of_ascending hasc hasc' fun k => (hkeys k).trans (hkeys' k).symm
      refine List.flatMap_congr fun k hk => ?_
      obtain ⟨n, hn⟩ := Option.isSome_iff_exists.1 (Keyed.isSome_get?_iff.2 ((hkeys k).1 hk))
      rw [ih k n hn (hbelow' k n hn)]

end Node

namespace Directory

variable {d d' : Directory} {path : List String}

end Directory

end Egress
