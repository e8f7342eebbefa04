import Egress.Proofs.Directory.Commitment

/-!
# What an edit leaves alone

An edit writes on the node that its path leads to and shows in the rest of the tree only there: what
is next to the path stays as it was, the nodes on the way keep their kinds and their keys
(`walk_edit_above`), and below the node only a child that is put there can differ
(`walk_edit_below`). All of this holds of an edit that fails, too (`edit_local`).
-/

set_option autoImplicit false

namespace Egress

namespace Node

variable {k : String} {q : List String}

/-- The keys of a map, in the order in which it has them; another node has none. -/
def keys (n : Node) : List String :=
  Keyed.keys n.children

theorem keys_replace_cons (k : String) (path : List String) (root n : Node) :
    (replace (k :: path) root n).keys = root.keys := by
  cases root with
  | undefined => rfl
  | list es => rfl
  | map cs =>
    rw [replace]
    split
    · rename_i child hget
      have hk : k ∈ Keyed.keys cs := Keyed.isSome_get?_iff.1 (by rw [hget]; rfl)
      rw [keys, children, Keyed.keys_set, if_pos hk]
      rfl
    · rfl

/-- An edit leaves the tree as it was, or puts in place of a node what the write makes of it. -/
theorem edit_cases (root : Node) (e : Edit) :
    (root.edit e).1 = root ∨ ∃ n n', root.walk e.path = some n ∧ e.write.apply n = .ok n' ∧
      (root.edit e).1 = replace e.path root n' := by
  cases h : root.walk e.path with
  | none => exact .inl (by rw [edit_of_absent h])
  | some n =>
    by_cases hc : e.write.Conflicts n
    · exact .inl (by rw [edit_of_conflicts h hc])
    · obtain ⟨n', hn⟩ := Write.exists_apply_ok hc
      exact .inr ⟨n, n', rfl, hn, by rw [edit_of_ok h hn]⟩

theorem walk_edit_self {root n : Node} {e : Edit} (h : root.walk e.path = some n) :
    (root.edit e).2 = some ((e.write.apply n).map fun _ => ()) ∧
      (root.edit e).1.walk e.path = some ((e.write.apply n).toOption.getD n) := by
  by_cases hc : e.write.Conflicts n
  · rw [edit_of_conflicts h hc, Write.apply_of_conflicts hc]
    exact ⟨rfl, h⟩
  · obtain ⟨n', hn⟩ := Write.exists_apply_ok hc
    rw [edit_of_ok h hn, hn]
    exact ⟨rfl, walk_replace_self n' h⟩

/-- A node on the way to the one that is written keeps its kind and its keys. -/
theorem walk_edit_above (root : Node) {e : Edit} (hq : q <+: e.path) (hne : q ≠ e.path) :
    ((root.edit e).1.walk q).map kind = (root.walk q).map kind ∧
      ((root.edit e).1.walk q).map keys = (root.walk q).map keys := by
  rcases edit_cases root e with hroot | ⟨n, n', -, -, hroot⟩
  · rw [hroot]
    exact ⟨rfl, rfl⟩
  · obtain ⟨rest, hrest⟩ := hq
    rw [hroot, ← hrest, walk_replace_above, Option.map_map, Option.map_map]
    cases rest with
    | nil => exact absurd (by simpa using hrest) hne
    | cons k rest =>
      have hkind : kind ∘ (fun m => replace (k :: rest) m n') = kind :=
        funext fun m => kind_replace_cons k rest m n'
      have hkeys : keys ∘ (fun m => replace (k :: rest) m n') = keys :=
        funext fun m => keys_replace_cons k rest m n'
      rw [hkind, hkeys]
      exact ⟨rfl, rfl⟩

/-- Below the node that is written only what is under the key of a new child can differ. -/
theorem walk_edit_below (root : Node) {e : Edit}
    (hk : ∀ key child, e.write = .setChild key child → key ≠ k) (q : List String) :
    (root.edit e).1.walk (e.path ++ k :: q) = root.walk (e.path ++ k :: q) := by
  rcases edit_cases root e with hroot | ⟨n, n', hn, hwrite, hroot⟩
  · rw [hroot]
  · rw [hroot, walk_replace_below hn, walk_append, hn, Option.bind_some, walk_cons, walk_cons,
      Write.child?_of_ok hwrite hk]

/-- Where a change at a path goes is where walking the path leads. What a write there makes of the
node is then at the end of the path, and the rest of the tree is as before, whether the write works
or not: on paths that part from this one; as to the kinds and the keys of the nodes on the way; and
below the node, except below a child that the write puts there. -/
theorem edit_local (root : Node) (e : Edit) :
    (∀ (ε : Type) (change : Node → Except ε Node), root.update? change e.path =
      (root.walk e.path).map fun n => (change n).map (replace e.path root)) ∧
    (root.walk e.path = none → root.edit e = (root, none)) ∧
    (∀ n, root.walk e.path = some n →
      (root.edit e).2 = some ((e.write.apply n).map fun _ => ()) ∧
      (root.edit e).1.walk e.path = some ((e.write.apply n).toOption.getD n)) ∧
    (∀ q, ¬ e.path <+: q → ¬ q <+: e.path → (root.edit e).1.walk q = root.walk q) ∧
    (∀ q, q <+: e.path → q ≠ e.path →
      ((root.edit e).1.walk q).map kind = (root.walk q).map kind ∧
      ((root.edit e).1.walk q).map keys = (root.walk q).map keys) ∧
    ∀ q, e.path <+: q → q ≠ e.path →
      (∀ key child, e.write = .setChild key child → ¬ e.path ++ [key] <+: q) →
      (root.edit e).1.walk q = root.walk q := by
  refine ⟨fun ε change => update?_eq change e.path root, edit_of_absent, fun n => walk_edit_self,
    fun q hp hq => ?_, fun q => walk_edit_above root, ?_⟩
  · rcases edit_cases root e with hroot | ⟨n, n', -, -, hroot⟩
    · rw [hroot]
    · rw [hroot, walk_replace_apart root n' hp hq]
  · rintro q ⟨rest, rfl⟩ hne hkey
    cases rest with
    | nil => exact absurd (List.append_nil _) hne
    | cons k rest =>
      refine walk_edit_below root (fun key child hwrite hk => ?_) rest
      exact hkey key child hwrite (by simp [hk])

/-- Two levels, with a list and a map next to each other at both. -/
def sampleNeighbours : Node :=
  map [("eu", list ["b"]), ("us", map [("Boise", map [("north", list ["a"])]), ("Reno", list [])])]

theorem edit_local_sample :
    (sampleNeighbours.edit ⟨["us", "Boise"], .setChild "south" (list ["c"])⟩).1.walk
        ["us", "Boise"] = some (map [("north", list ["a"]), ("south", list ["c"])]) ∧
    (sampleNeighbours.edit ⟨["us", "Boise"], .setChild "south" (list ["c"])⟩).1.walk
        ["us", "Reno"] = some (list []) ∧
    ((sampleNeighbours.edit ⟨["us", "Boise"], .setChild "south" (list ["c"])⟩).1.walk
        ["us"]).map keys = some ["Boise", "Reno"] ∧
    (sampleNeighbours.edit ⟨["us", "Boise"], .setChild "south" (list ["c"])⟩).1.walk
        ["us", "Boise", "north"] = some (list ["a"]) ∧
    (sampleNeighbours.edit ⟨["us", "Reno"], .setChild "south" (list ["c"])⟩).2 =
      some (.error ⟨.list, .map⟩) ∧
    sampleNeighbours.edit ⟨["uk"], .setList ["c"]⟩ = (sampleNeighbours, none) := by
  obtain ⟨-, -, hself, hapart, habove, hbelow⟩ :=
    edit_local sampleNeighbours ⟨["us", "Boise"], .setChild "south" (list ["c"])⟩
  obtain ⟨-, -, hfails, -⟩ :=
    edit_local sampleNeighbours ⟨["us", "Reno"], .setChild "south" (list ["c"])⟩
  obtain ⟨-, habsent, -⟩ := edit_local sampleNeighbours ⟨["uk"], .setList ["c"]⟩
  refine ⟨(hself _ rfl).2, hapart ["us", "Reno"] (by decide) (by decide),
    (habove ["us"] (by decide) (by decide)).2,
    hbelow ["us", "Boise", "north"] (by decide) (by decide) fun key child hwrite => ?_,
    (hfails _ rfl).1, habsent rfl⟩
  obtain ⟨rfl, -⟩ := Write.setChild.inj hwrite
  decide

end Node

end Egress
