import Egress.Directory.Node

/-!
# Nodes commit to a kind

`root.edit e`: the tree after a write on the node at a path, and how the write went. Of a tree that
grows from one undefined node by any writes at any paths (`Node.grown`): a write conflicts exactly
with a node that is committed to the other kind, and then nothing changes in the whole tree; and once
a node is committed, the path to it keeps leading to a node of its kind, until a child on the way is
replaced by another (`Edit.Displaces`).
-/

set_option autoImplicit false

namespace Egress

/-! ## Writes -/

/-- A write on a node. -/
inductive Write where
  | setList (endpoints : List String)
  | appendList (endpoints : List String)
  | setChild (key : String) (child : Node)

namespace Write

/-- The kind a write commits a node to. -/
def kind : Write → NodeKind
  | setList _ | appendList _ => .list
  | setChild .. => .map

/-- The node after a write. -/
def apply : Write → Node → Except Conflict Node
  | setList es, n => n.setList es
  | appendList es, n => n.appendList es
  | setChild key child, n => n.setChild key child

/-- The node is committed, and not to the kind of the write. -/
def Conflicts (w : Write) (n : Node) : Prop :=
  n.kind ≠ .undefined ∧ n.kind ≠ w.kind

/-- What a node has after a write, in terms of what it had before. -/
def Wrote : Write → Node → Node → Prop
  | setList es, _, n' => n' = .list es
  | appendList es, n, n' => n' = .list (n.endpoints?.getD [] ++ es)
  | setChild key child, n, n' =>
    n'.kind = .map ∧ ∀ k, n'.child? k = if key = k then some child else n.child? k

variable {w : Write} {n n' : Node}

theorem apply_of_conflicts (h : w.Conflicts n) : w.apply n = .error ⟨n.kind, w.kind⟩ := by
  cases n with
  | undefined => exact absurd rfl h.1
  | list es =>
    cases w with
    | setList _ | appendList _ => exact absurd rfl h.2
    | setChild key child => rfl
  | map cs =>
    cases w with
    | setList _ | appendList _ => rfl
    | setChild key child => exact absurd rfl h.2

theorem exists_apply_ok (h : ¬w.Conflicts n) : ∃ n', w.apply n = .ok n' := by
  cases n with
  | undefined => cases w <;> exact ⟨_, rfl⟩
  | list es =>
    cases w with
    | setList _ | appendList _ => exact ⟨_, rfl⟩
    | setChild key child => exact absurd ⟨nofun, nofun⟩ h
  | map cs =>
    cases w with
    | setList _ | appendList _ => exact absurd ⟨nofun, nofun⟩ h
    | setChild key child => exact ⟨_, rfl⟩

theorem not_conflicts_of_ok (h : w.apply n = .ok n') : ¬w.Conflicts n := by
  intro hc
  rw [apply_of_conflicts hc] at h
  cases h

theorem wrote_of_ok (h : w.apply n = .ok n') : w.Wrote n n' := by
  cases w with
  | setList es => cases n <;> cases h <;> rfl
  | appendList es => cases n <;> cases h <;> rfl
  | setChild key child =>
    cases n with
    | undefined =>
      cases h
      exact ⟨rfl, fun k => rfl⟩
    | list es => cases h
    | map cs =>
      cases h
      exact ⟨rfl, fun k => Keyed.get?_set key k child cs⟩

theorem Wrote.kind_eq (h : w.Wrote n n') : n'.kind = w.kind := by
  cases w with
  | setList es => exact congrArg Node.kind h
  | appendList es => exact congrArg Node.kind h
  | setChild key child => exact h.1

/-- Only under the key of a new child can there be another child. -/
theorem child?_of_ok {k : String} (h : w.apply n = .ok n')
    (hk : ∀ key child, w = .setChild key child → key ≠ k) : n'.child? k = n.child? k := by
  have hwrote := wrote_of_ok h
  cases w with
  | setList es =>
    obtain rfl : n' = .list es := hwrote
    cases n with
    | map cs => cases h
    | _ => rfl
  | appendList es =>
    obtain rfl : n' = .list (n.endpoints?.getD [] ++ es) := hwrote
    cases n with
    | map cs => cases h
    | _ => rfl
  | setChild key child => rw [hwrote.2 k, if_neg (hk key child rfl)]

/-- A node that is committed keeps its kind when it is written. -/
theorem kind_of_ok (hn : n.kind ≠ .undefined) (h : w.apply n = .ok n') : n'.kind = n.kind := by
  rw [(wrote_of_ok h).kind_eq]
  exact (Decidable.not_not.1 fun hk => not_conflicts_of_ok h ⟨hn, hk⟩).symm

end Write

/-! ## Writing below a path -/

namespace Node

/-- The tree with another node at the end of a path, if the path leads somewhere. -/
def replace : List String → Node → Node → Node
  | [], _, n => n
  | k :: path, map children, n => match Keyed.get? k children with
    | some child => map (Keyed.set k (replace path child n) children)
    | none => map children
  | _ :: _, root, _ => root

/-- Changing a node is to go there and to put what it becomes in its place. -/
theorem update?_eq {ε : Type} (change : Node → Except ε Node) (path : List String) (root : Node) :
    root.update? change path =
      (root.walk path).map fun n => (change n).map (replace path root) := by
  induction path generalizing root with
  | nil =>
    rw [walk_nil, Option.map_some, update?]
    cases change root <;> rfl
  | cons k path ih =>
    cases root with
    | undefined => rfl
    | list es => rfl
    | map cs =>
      rw [update?, walk_cons, child?]
      cases hget : Keyed.get? k cs with
      | none => rfl
      | some child =>
        rw [Option.bind_some, Option.bind_some, ih]
        cases child.walk path with
        | none => rfl
        | some n =>
          cases hn : change n with
          | error e => simp [hn, Except.map]
          | ok n' => simp [hn, Except.map, replace, hget]

/-- One step along the path and there is another node at the end of the rest; next to it there is
what was there. -/
theorem child?_replace_cons (k : String) (path : List String) (root n : Node) (k' : String) :
    (replace (k :: path) root n).child? k' =
      if k = k' then (root.child? k').map fun child => replace path child n
      else root.child? k' := by
  cases root with
  | undefined => simp [replace, child?]
  | list es => simp [replace, child?]
  | map cs =>
    rw [replace]
    by_cases hk : k = k'
    · subst hk
      cases hget : Keyed.get? k cs with
      | none => simp [child?, hget]
      | some child => simp [child?, hget, Keyed.get?_set]
    · cases hget : Keyed.get? k cs with
      | none => simp [hk]
      | some child => simp [child?, hk, Keyed.get?_set]

theorem kind_replace_cons (k : String) (path : List String) (root n : Node) :
    (replace (k :: path) root n).kind = root.kind := by
  cases root with
  | undefined => rfl
  | list es => rfl
  | map cs =>
    rw [replace]
    split <;> rfl

/-- Where paths part, nothing has changed. -/
theorem walk_replace_apart {path q : List String} (root n : Node) (hp : ¬ path <+: q)
    (hq : ¬ q <+: path) : (replace path root n).walk q = root.walk q := by
  induction path generalizing root q with
  | nil => exact absurd List.nil_prefix hp
  | cons k path ih =>
    cases q with
    | nil => exact absurd List.nil_prefix hq
    | cons k' q =>
      rw [walk_cons, walk_cons, child?_replace_cons]
      by_cases hk : k = k'
      · subst hk
        rw [if_pos rfl]
        cases root.child? k with
        | none => rfl
        | some child =>
          exact ih child (fun h => hp (List.cons_prefix_cons.2 ⟨rfl, h⟩))
            fun h => hq (List.cons_prefix_cons.2 ⟨rfl, h⟩)
      · rw [if_neg hk]

/-- On the way, there is the other node at the end of the rest of the path. -/
theorem walk_replace_above (q path : List String) (root n : Node) :
    (replace (q ++ path) root n).walk q = (root.walk q).map fun m => replace path m n := by
  induction q generalizing root with
  | nil => simp
  | cons k q ih =>
    rw [List.cons_append, walk_cons, walk_cons, child?_replace_cons, if_pos rfl]
    cases root.child? k with
    | none => rfl
    | some child => exact ih child

theorem walk_replace_self {path : List String} {root n : Node} (n' : Node)
    (h : root.walk path = some n) : (replace path root n').walk path = some n' := by
  have habove := walk_replace_above path [] root n'
  rwa [List.append_nil, h] at habove

theorem walk_replace_below {path : List String} {root n : Node} (h : root.walk path = some n)
    (n' : Node) (q : List String) : (replace path root n').walk (path ++ q) = n'.walk q := by
  rw [walk_append, walk_replace_self n' h, Option.bind_some]

/-- Where a committed node is after a write: a node of its kind, unless a child on the way was
replaced. -/
theorem kind_walk_replace {w : Write} {path p : List String} {root n n' m : Node}
    (h : root.walk path = some n) (hn : w.apply n = .ok n') (hp : root.walk p = some m)
    (hm : m.kind ≠ .undefined) :
    ((replace path root n').walk p).map kind = some m.kind ∨
      ∃ key child, w = .setChild key child ∧ path ++ [key] <+: p := by
  by_cases hbelow : path <+: p
  · obtain ⟨rest, rfl⟩ := hbelow
    rw [walk_append, h, Option.bind_some] at hp
    rw [walk_replace_below h]
    cases rest with
    | nil =>
      obtain rfl : n = m := Option.some.inj ((walk_nil n).symm.trans hp)
      exact .inl (by rw [walk_nil, Option.map_some, Write.kind_of_ok hm hn])
    | cons k rest =>
      by_cases hk : ∃ child, w = .setChild k child
      · obtain ⟨child, rfl⟩ := hk
        exact .inr ⟨k, child, rfl, by simp⟩
      · have hother : ∀ key child, w = .setChild key child → key ≠ k := by
          rintro key child hw rfl
          exact hk ⟨child, hw⟩
        left
        rw [walk_cons, Write.child?_of_ok hn hother, ← walk_cons, hp, Option.map_some]
  · left
    by_cases habove : p <+: path
    · obtain ⟨rest, rfl⟩ := habove
      cases rest with
      | nil => exact absurd (by simp) hbelow
      | cons k rest =>
        rw [walk_replace_above, hp, Option.map_some, Option.map_some, kind_replace_cons]
    · rw [walk_replace_apart root n' hbelow habove, hp, Option.map_some]

end Node

/-! ## Edits -/

/-- A write on the node at the end of a path. -/
structure Edit where
  path : List String
  write : Write

namespace Node

/-- The tree after an edit, and how it went, if there is a node to write on. -/
def edit (root : Node) (e : Edit) : Node × Option (Except Conflict Unit) :=
  match root.update? e.write.apply e.path with
  | none => (root, none)
  | some (.ok root') => (root', some (.ok ()))
  | some (.error c) => (root, some (.error c))

/-- The tree after some edits. -/
def edited (root : Node) (es : List Edit) : Node :=
  es.foldl (fun root e => (root.edit e).1) root

/-- What some edits make of a node that was never written. -/
def grown (es : List Edit) : Node :=
  undefined.edited es

/-- An edit puts a child in place of one on the way along a path, or at its end. -/
def Displaces (root : Node) (e : Edit) (p : List String) : Prop :=
  ∃ key child, e.write = .setChild key child ∧ e.path ++ [key] <+: p ∧
    (root.edit e).2 = some (.ok ())

variable {root n n' m : Node} {e : Edit} {p : List String}

theorem edit_of_absent (h : root.walk e.path = none) : root.edit e = (root, none) := by
  rw [edit, update?_eq, h]
  rfl

theorem edit_of_conflicts (h : root.walk e.path = some n) (hc : e.write.Conflicts n) :
    root.edit e = (root, some (.error ⟨n.kind, e.write.kind⟩)) := by
  rw [edit, update?_eq, h, Option.map_some, Write.apply_of_conflicts hc]
  rfl

theorem edit_of_ok (h : root.walk e.path = some n) (hn : e.write.apply n = .ok n') :
    root.edit e = (replace e.path root n', some (.ok ())) := by
  rw [edit, update?_eq, h, Option.map_some, hn]
  rfl

/-- One edit keeps the kind of a committed node, or displaces it. -/
theorem kind_edit (e : Edit) (hp : root.walk p = some m) (hm : m.kind ≠ .undefined) :
    ((root.edit e).1.walk p).map kind = some m.kind ∨ root.Displaces e p := by
  cases h : root.walk e.path with
  | none =>
    left
    rw [edit_of_absent h, hp, Option.map_some]
  | some n =>
    by_cases hc : e.write.Conflicts n
    · left
      rw [edit_of_conflicts h hc, hp, Option.map_some]
    · obtain ⟨n', hn⟩ := Write.exists_apply_ok hc
      rw [Displaces, edit_of_ok h hn]
      refine (kind_walk_replace h hn hp hm).imp_right ?_
      rintro ⟨key, child, hw, hprefix⟩
      exact ⟨key, child, hw, hprefix, rfl⟩

theorem edited_append (root : Node) (es es' : List Edit) :
    root.edited (es ++ es') = (root.edited es).edited es' :=
  List.foldl_append

/-- Edits keep the kind of a committed node, up to the first that displaces it. -/
theorem kind_edited (later : List Edit) (hp : root.walk p = some m) (hm : m.kind ≠ .undefined) :
    ((root.edited later).walk p).map kind = some m.kind ∨
      ∃ before e after, later = before ++ e :: after ∧
        ((root.edited before).walk p).map kind = some m.kind ∧
        (root.edited before).Displaces e p := by
  induction later generalizing root m with
  | nil =>
    left
    rw [edited, List.foldl_nil, hp, Option.map_some]
  | cons e later ih =>
    rcases kind_edit e hp hm with hkind | hdisplaced
    · obtain ⟨m', hp', hkind⟩ := Option.map_eq_some_iff.1 hkind
      rw [← hkind] at hm ⊢
      refine (ih hp' hm).imp_right ?_
      rintro ⟨before, e', after, rfl, hbefore, hdisplaced⟩
      exact ⟨e :: before, e', after, rfl, hbefore, hdisplaced⟩
    · exact .inr ⟨[], e, later, rfl, by rw [edited, List.foldl_nil, hp, Option.map_some], hdisplaced⟩

/-- Whatever edits a tree has grown by: an edit of a node in it fails if and only if the node is
committed to the other kind, it then leaves the whole tree as it was, and otherwise the node has the
kind and the content that was written. A committed node keeps its kind under all later edits, up to
the first that puts another child on its path. -/
theorem edits_commit (done : List Edit) :
    (∀ e n, (grown done).walk e.path = some n →
      ((∃ c, ((grown done).edit e).2 = some (.error c)) ↔ e.write.Conflicts n) ∧
      (e.write.Conflicts n →
        (grown done).edit e = (grown done, some (.error ⟨n.kind, e.write.kind⟩))) ∧
      (¬e.write.Conflicts n → ((grown done).edit e).2 = some (.ok ()) ∧
        ∃ n', ((grown done).edit e).1.walk e.path = some n' ∧ n'.kind = e.write.kind ∧
          e.write.Wrote n n')) ∧
    ∀ p n, (grown done).walk p = some n → n.kind ≠ .undefined → ∀ later,
      ((grown (done ++ later)).walk p).map kind = some n.kind ∨
        ∃ before e after, later = before ++ e :: after ∧
          ((grown (done ++ before)).walk p).map kind = some n.kind ∧
          (grown (done ++ before)).Displaces e p := by
  constructor
  · intro e n h
    have hfails (hc : e.write.Conflicts n) := edit_of_conflicts h hc
    have hworks (hc : ¬e.write.Conflicts n) : ((grown done).edit e).2 = some (.ok ()) ∧
        ∃ n', ((grown done).edit e).1.walk e.path = some n' ∧ n'.kind = e.write.kind ∧
          e.write.Wrote n n' := by
      obtain ⟨n', hn⟩ := Write.exists_apply_ok hc
      rw [edit_of_ok h hn]
      exact ⟨rfl, n', walk_replace_self n' h, (Write.wrote_of_ok hn).kind_eq,
        Write.wrote_of_ok hn⟩
    refine ⟨⟨?_, fun hc => ⟨_, congrArg Prod.snd (hfails hc)⟩⟩, hfails, hworks⟩
    rintro ⟨c, hc⟩
    refine Classical.byContradiction fun hnot => ?_
    rw [(hworks hnot).1] at hc
    cases hc
  · intro p n hp hn later
    simp only [grown, edited_append]
    exact kind_edited later hp hn

/-- Edits that give a node one child, an empty list. -/
def sampleEdits : List Edit :=
  [⟨[], .setChild "us" undefined⟩, ⟨["us"], .setList []⟩]

theorem edits_commit_sample :
    (grown sampleEdits).walk ["us"] = some (list []) ∧
    (grown sampleEdits).edit ⟨["us"], .setChild "Denver" undefined⟩ =
      (grown sampleEdits, some (.error ⟨.list, .map⟩)) ∧
    (((grown sampleEdits).edit ⟨["us"], .appendList ["a"]⟩).1.walk ["us"]) = some (list ["a"]) ∧
    ((grown (sampleEdits ++ [⟨[], .setChild "eu" (map [])⟩])).walk ["us"]).map kind =
      some .list := by
  have hus : (grown sampleEdits).walk ["us"] = some (list []) := rfl
  obtain ⟨hedit, hkeeps⟩ := edits_commit sampleEdits
  obtain ⟨-, hfails, -⟩ := hedit ⟨["us"], .setChild "Denver" undefined⟩ _ hus
  obtain ⟨-, -, hworks⟩ := hedit ⟨["us"], .appendList ["a"]⟩ _ hus
  obtain ⟨-, n', hn', -, rfl⟩ := hworks fun hc => hc.2 rfl
  refine ⟨hus, hfails ⟨nofun, nofun⟩, hn', ?_⟩
  rcases hkeeps ["us"] _ hus nofun [⟨[], .setChild "eu" (map [])⟩] with hkind | hdisplaced
  · exact hkind
  · obtain ⟨before, e, after, hlater, -, key, child, hw, hprefix, -⟩ := hdisplaced
    obtain ⟨rfl, rfl, rfl⟩ : before = [] ∧ ⟨[], .setChild "eu" (map [])⟩ = e ∧ after = [] := by
      cases before with
      | nil => simpa [eq_comm] using hlater
      | cons b before => simp at hlater
    obtain ⟨rfl, -⟩ := Write.setChild.inj hw
    exact absurd hprefix (by decide)

end Node

end Egress
