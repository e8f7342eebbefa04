import Egress.Proofs.Directory.Mirror
import Egress.Proofs.Directory.Search
import Egress.Proofs.Document.Ordered

/-!
# The lists of a tree

The lists of a tree in order of the children: their paths (`Node.listPaths`), what they hold taken
together (`Node.held`), and the tree with each of them changed (`Node.mapLists`), in which every path
leads to the same place as before (`walk_mapLists`). The paths noted while a tree is built are those
of its lists (`Config.nodeAt_listPaths`).
-/

set_option autoImplicit false

namespace Egress

namespace Node

mutual

/-- Paths of the lists in a tree. -/
def listPaths : Node → List (List String)
  | undefined => []
  | list _ => [[]]
  | map children => listPathsBelow children

/-- Paths of the lists below some children. -/
def listPathsBelow : List (String × Node) → List (List String)
  | [] => []
  | (k, n) :: rest => (listPaths n).map (k :: ·) ++ listPathsBelow rest

end

mutual

/-- The endpoints in the lists of a tree, one list after the other. -/
def held : Node → List String
  | undefined => []
  | list endpoints => endpoints
  | map children => heldBelow children

/-- The endpoints in the lists below some children. -/
def heldBelow : List (String × Node) → List String
  | [] => []
  | (_, n) :: rest => held n ++ heldBelow rest

end

mutual

/-- The tree with each of its lists changed. -/
def mapLists (f : List String → List String) : Node → Node
  | undefined => undefined
  | list endpoints => list (f endpoints)
  | map children => map (mapListsBelow f children)

/-- The children with each of the lists below them changed. -/
def mapListsBelow (f : List String → List String) : List (String × Node) → List (String × Node)
  | [] => []
  | (k, n) :: rest => (k, mapLists f n) :: mapListsBelow f rest

end

mutual

/-- Induction over a tree: what holds of all children of a map, holds of the map. -/
theorem induction {motive : Node → Prop} (undefined : motive .undefined)
    (list : ∀ es, motive (.list es)) (map : ∀ cs, (∀ e ∈ cs, motive e.2) → motive (.map cs)) :
    ∀ n, motive n
  | .undefined => undefined
  | .list es => list es
  | .map cs => map cs (induction_below undefined list map cs)

theorem induction_below {motive : Node → Prop} (undefined : motive .undefined)
    (list : ∀ es, motive (.list es)) (map : ∀ cs, (∀ e ∈ cs, motive e.2) → motive (.map cs)) :
    ∀ cs : List (String × Node), ∀ e ∈ cs, motive e.2
  | [], _, he => absurd he List.not_mem_nil
  | (_, n) :: cs, e, he => by
    rcases List.mem_cons.1 he with rfl | he
    · exact induction undefined list map n
    · exact induction_below undefined list map cs e he

end

section
variable {f : List String → List String} {cs : List (String × Node)}

theorem mapListsBelow_eq (f : List String → List String) (cs : List (String × Node)) :
    mapListsBelow f cs = cs.map fun e => (e.1, e.2.mapLists f) := by
  induction cs with
  | nil => rfl
  | cons e cs ih => rw [mapListsBelow, ih, List.map_cons]

theorem heldBelow_eq (cs : List (String × Node)) : heldBelow cs = cs.flatMap fun e => e.2.held := by
  induction cs with
  | nil => rfl
  | cons e cs ih => rw [heldBelow, ih, List.flatMap_cons]

theorem listPathsBelow_append (cs ds : List (String × Node)) :
    listPathsBelow (cs ++ ds) = listPathsBelow cs ++ listPathsBelow ds := by
  induction cs with
  | nil => rfl
  | cons e cs ih => rw [List.cons_append, listPathsBelow, listPathsBelow, ih, List.append_assoc]

theorem child?_mapLists (k : String) (n : Node) :
    (n.mapLists f).child? k = (n.child? k).map (mapLists f) := by
  cases n with
  | undefined => rfl
  | list es => rfl
  | map cs =>
    rw [mapLists, child?, child?, mapListsBelow_eq]
    exact Keyed.get?_mapValues (fun _ => mapLists f) k cs

/-- A path leads to the same place when the lists are changed. -/
theorem walk_mapLists (n : Node) (path : List String) :
    (n.mapLists f).walk path = (n.walk path).map (mapLists f) := by
  induction path generalizing n with
  | nil => simp
  | cons k path ih =>
    rw [walk_cons, walk_cons, child?_mapLists]
    cases n.child? k with
    | none => rfl
    | some child => exact ih child

end

/-- What the lists hold is what paths lead to. -/
theorem mem_held_iff {n : Node} (hd : n.Distinct) {x : String} :
    x ∈ n.held ↔ ∃ path, n.LeadsTo path x := by
  induction n using induction with
  | undefined => simp [held]
  | list es => simp [held]
  | map cs ih =>
    obtain ⟨hnodup, hbelow⟩ := distinct_map_iff.1 hd
    rw [held, heldBelow_eq, List.mem_flatMap]
    constructor
    · rintro ⟨e, he, hx⟩
      obtain ⟨path, hl⟩ := (ih e he (hbelow e he)).1 hx
      exact ⟨e.1 :: path, leadsTo_map.2 ⟨_, _, _, rfl, Keyed.get?_of_mem hnodup he, hl⟩⟩
    · rintro ⟨path, hl⟩
      obtain ⟨k, n, rest, rfl, hn, hl⟩ := leadsTo_map.1 hl
      have he := Keyed.mem_of_get? hn
      exact ⟨(k, n), he, (ih _ he (hbelow _ he)).2 ⟨rest, hl⟩⟩

end Node

/-! ## Building -/

namespace Config

theorem keysAt_ascending {c : Config} (ho : c.root.Ordered) {path : List String} :
    (c.keysAt path).Pairwise (· < ·) := by
  rw [keysAt]
  cases hv : c.root.at? path with
  | none => exact .nil
  | some v => exact (ho.at? hv).ascending_keys

theorem keysAt_nodup {c : Config} (ho : c.root.Ordered) {path : List String} :
    (c.keysAt path).Nodup :=
  (keysAt_ascending ho).imp String.ne_of_lt

/-- The paths noted with the children of a map are those of the lists below them. -/
theorem foldlM_addChild_listPaths
    {build : String → Except DirectoryError (Node × List (List String))}
    (hbuild : ∀ k y, build k = .ok y → y.2 = y.1.listPaths) {keys : List String}
    (hkeys : keys.Nodup) {cs : List (String × Node)} {lists : List (List String)}
    (hnew : ∀ k ∈ keys, k ∉ Keyed.keys cs) (hlists : lists = Node.listPathsBelow cs)
    {x : Node × List (List String)}
    (h : keys.foldlM (addChild build) (.map cs, lists) = .ok x) : x.2 = x.1.listPaths := by
  induction keys generalizing cs lists with
  | nil =>
    obtain rfl := Except.ok.inj h
    exact hlists
  | cons key keys ih =>
    obtain ⟨hkey, hkeys⟩ := List.nodup_cons.1 hkeys
    rw [List.foldlM_cons, bind_eq_ok] at h
    obtain ⟨x', hx', h⟩ := h
    rw [addChild_map] at hx'
    cases hb : build key with
    | error e => rw [hb] at hx'; cases hx'
    | ok y =>
      rw [hb] at hx'
      obtain rfl := Except.ok.inj hx'
      -- the key is new, so its child comes last
      have hset := Keyed.set_of_not_mem y.1 (hnew key List.mem_cons_self)
      refine ih hkeys (fun k hk hmem => ?_) ?_ h
      · rw [hset, Keyed.keys, List.map_append, List.mem_append] at hmem
        rcases hmem with hmem | hmem
        · exact hnew k (List.mem_cons_of_mem key hk) hmem
        · obtain rfl := List.mem_singleton.1 hmem
          exact hkey hk
      · rw [hset, Node.listPathsBelow_append, hlists, hbuild key y hb, Node.listPathsBelow,
          Node.listPathsBelow, List.append_nil]

/-- The paths noted while a tree is built are those of its lists. -/
theorem nodeAt_listPaths {c : Config} (ho : c.root.Ordered) {levels path : List String}
    {x : Node × List (List String)} (h : c.nodeAt levels path = .ok x) : x.2 = x.1.listPaths := by
  induction levels generalizing path x with
  | nil =>
    rw [nodeAt_nil] at h
    split at h
    · cases h
    · cases h
    · obtain rfl := Except.ok.inj h
      rfl
  | cons level deeper ih =>
    rw [nodeAt_cons] at h
    split at h
    · cases h
    · exact foldlM_addChild_listPaths (fun _ _ => ih) (keysAt_nodup ho) (by simp [Keyed.keys]) rfl h
    · cases h

end Config

end Egress
