import Egress.Proofs.Directory.Endpoints
import Egress.Proofs.Directory.Grouping
import Mathlib.Algebra.Ring.Nat
import Mathlib.Data.List.Perm.Lattice

/-!
# Finding a way through a directory

Whether the servers of a directory are resolved or not, its tree has a node where something is
configured and no others: maps with the configured keys above the declared depth and lists at that
depth (`Config.Outlines`, `Config.build_outlines`). So a path of keys leads either to keys, or to
servers, or nowhere, and the length of the path tells which.
-/

set_option autoImplicit false

namespace Egress

/-! ## Texts in order -/

/-- Texts that are in order already are what others with the same members become. -/
theorem sortTexts_eq {ks ks' : List String} (h : ks.Nodup) (h' : ks'.Pairwise (· < ·))
    (hmem : ∀ k, k ∈ ks ↔ k ∈ ks') : sortTexts ks = ks' := by
  have hperm : (sortTexts ks).Perm ks' :=
    (List.mergeSort_perm ks _).trans
      ((List.perm_ext_iff_of_nodup h (h'.imp String.ne_of_lt)).2 hmem)
  exact hperm.eq_of_pairwise (fun a b _ _ => String.le_antisymm) (pairwise_sortTexts ks)
    (h'.imp fun hlt => String.not_lt.1 (String.lt_asymm hlt))

/-! ## Counting -/

namespace Node

end Node

namespace Directory

variable {d : Directory} {p : List String}

end Directory

namespace Config

variable {c : Config} {r : Resolver} {vendor : String} {d : Directory} {base : List String} {n : Nat}
  {root : Node}

/-- A tree has the nodes of what is configured at a path, `n` levels deep (module doc). -/
structure Outlines (c : Config) (base : List String) (n : Nat) (root : Node) : Prop where
  walk_isSome : ∀ p, (root.walk p).isSome = (c.root.at? (base ++ p)).isSome
  map : ∀ p node, root.walk p = some node → p.length < n →
    ∃ cs, node = .map cs ∧ (Keyed.keys cs).Nodup ∧
      ∀ k, k ∈ Keyed.keys cs ↔ k ∈ c.keysAt (base ++ p)
  list : ∀ p node, root.walk p = some node → p.length = n → ∃ es, node = .list es
  length_le : ∀ p node, root.walk p = some node → p.length ≤ n

/-- Other lists in the same places make no difference. -/
theorem Outlines.mapLists (h : c.Outlines base n root) (f : List String → List String) :
    c.Outlines base n (root.mapLists f) := by
  have hwalk {p : List String} {node : Node} (hw : (root.mapLists f).walk p = some node) :
      ∃ m, root.walk p = some m ∧ m.mapLists f = node :=
    Option.map_eq_some_iff.1 (Node.walk_mapLists root p ▸ hw)
  constructor
  · intro p
    rw [Node.walk_mapLists, Option.isSome_map, h.walk_isSome]
  · intro p node hw hp
    obtain ⟨m, hm, rfl⟩ := hwalk hw
    obtain ⟨cs, rfl, hnodup, hkeys⟩ := h.map p m hm hp
    have hsame : Keyed.keys (Node.mapListsBelow f cs) = Keyed.keys cs := by
      rw [Node.mapListsBelow_eq]
      exact Keyed.keys_mapValues (fun _ => Node.mapLists f) cs
    exact ⟨_, rfl, hsame ▸ hnodup, fun k => by rw [hsame, hkeys]⟩
  · intro p node hw hp
    obtain ⟨m, hm, rfl⟩ := hwalk hw
    obtain ⟨es, rfl⟩ := h.list p m hm hp
    exact ⟨f es, rfl⟩
  · intro p node hw
    obtain ⟨m, hm, -⟩ := hwalk hw
    exact h.length_le p m hm

section
variable {p : List String} (h : c.Outlines base n d.root)
include h

end

end Config

end Egress
