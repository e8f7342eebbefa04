import Egress.Config.Basic

/-!
# Dotted paths and paths of keys

A dotted path stands for the keys between its dots. Keys without a dot are found again in the path
that joins them (`segments_intercalate`), so both ways to read a configuration find the same
(`Config.path_and_keys_read_alike`). The exception is one empty key alone: joined it is the empty
path, and that is the whole document. No dotted path leads through a key that has a dot: what such
keys lead to can be taken out of the document and every dotted path finds what it found before
(`Config.get?_undotted`).
-/

set_option autoImplicit false

namespace Egress

open Document

/-! ## Keys of a path -/

theorem segments_eq_split {path : String} (hne : path ≠ "") :
    segments path = (path.split '.').toList.map String.Slice.copy := by
  rw [segments, if_neg hne, Text.pieces_eq_splitOn, String.toList_split_char]

theorem not_mem_of_mem_segments {path key : String} (h : key ∈ segments path) :
    '.' ∉ key.toList := by
  rw [segments] at h
  split at h
  · cases h
  · obtain ⟨p, hp, rfl⟩ := List.mem_map.1 h
    simpa using Text.not_mem_of_mem_pieces hp

/-- Keys without a dot are those of the path that joins them, but for one empty key alone. -/
theorem segments_intercalate {keys : List String} (hdots : ∀ k ∈ keys, '.' ∉ k.toList)
    (hne : keys ≠ [""]) : segments (".".intercalate keys) = keys := by
  by_cases hnil : keys = []
  · subst hnil
    rfl
  · have hsplit : ((".".intercalate keys).split '.').toList.map String.Slice.copy = keys :=
      (String.toList_split_intercalate hdots).trans (if_neg hnil)
    have hpath : ".".intercalate keys ≠ "" := by
      -- the empty text is split into one empty key
      intro he
      rw [he, String.toList_split_char] at hsplit
      exact hne hsplit.symm
    rw [segments_eq_split hpath, hsplit]

example : segments (".".intercalate [""]) = [] := by decide

/-! ## Values without dotted keys -/

namespace Document

mutual

/-- The value without those entries of its tables whose key has a dot. No path leads into a list,
which stays as it is. -/
def Value.undotted : Value → Value
  | .table es => .table (undottedEntries es)
  | v => v

/-- The entries of a table whose key has no dot, with their values taken likewise. -/
def undottedEntries : Table → Table
  | [] => []
  | (k, v) :: rest =>
    if '.' ∈ k.toList then undottedEntries rest else (k, v.undotted) :: undottedEntries rest

end

theorem get?_undottedEntries (key : String) (es : Table) :
    Keyed.get? key (undottedEntries es) =
      if '.' ∈ key.toList then none else (Keyed.get? key es).map Value.undotted := by
  induction es with
  | nil => simp [undottedEntries]
  | cons e rest ih =>
    obtain ⟨k, v⟩ := e
    by_cases hk : k = key
    · subst hk
      by_cases hdot : '.' ∈ k.toList
      · rw [undottedEntries, if_pos hdot, ih, if_pos hdot, if_pos hdot]
      · simp [undottedEntries, Keyed.get?, hdot]
    · have hrest : Keyed.get? key (undottedEntries ((k, v) :: rest)) =
          Keyed.get? key (undottedEntries rest) := by
        rw [undottedEntries]
        split
        · rfl
        · rw [Keyed.get?, if_neg hk]
      rw [hrest, ih, Keyed.get?, if_neg hk]

theorem keys_undottedEntries (es : Table) :
    Keyed.keys (undottedEntries es) = (Keyed.keys es).filter fun k => '.' ∉ k.toList := by
  induction es with
  | nil => rfl
  | cons e rest ih =>
    obtain ⟨k, v⟩ := e
    simp only [Keyed.keys] at ih
    by_cases hdot : '.' ∈ k.toList <;> simp [undottedEntries, Keyed.keys, hdot, ih]

namespace Value

theorem child?_undotted (v : Value) (key : String) :
    v.undotted.child? key =
      if '.' ∈ key.toList then none else (v.child? key).map undotted := by
  cases v with
  | table es => exact get?_undottedEntries key es
  | _ => simp [undotted, child?]

/-- Keys without a dot lead to what they led to, without its own dotted keys. -/
theorem at?_undotted {path : List String} (hdots : ∀ k ∈ path, '.' ∉ k.toList) (v : Value) :
    v.undotted.at? path = (v.at? path).map undotted := by
  induction path generalizing v with
  | nil => simp
  | cons k path ih =>
    have hk : '.' ∉ k.toList := hdots k List.mem_cons_self
    rw [at?_cons, at?_cons, child?_undotted, if_neg hk]
    cases v.child? k with
    | none => rfl
    | some w => exact ih (fun k' hk' => hdots k' (List.mem_cons_of_mem k hk')) w

/-- A key with a dot leads nowhere. -/
theorem at?_undotted_eq_none {path : List String} (hdot : ∃ k ∈ path, '.' ∈ k.toList)
    (v : Value) : v.undotted.at? path = none := by
  induction path generalizing v with
  | nil =>
    obtain ⟨k, hk, -⟩ := hdot
    cases hk
  | cons k path ih =>
    rw [at?_cons, child?_undotted]
    by_cases hk : '.' ∈ k.toList
    · rw [if_pos hk]
      rfl
    · have hrest : ∃ k ∈ path, '.' ∈ k.toList := by simpa [hk] using hdot
      rw [if_neg hk]
      cases v.child? k with
      | none => rfl
      | some w => exact ih hrest w

@[simp] theorem scalarText?_undotted (v : Value) : v.undotted.scalarText? = v.scalarText? := by
  cases v <;> rfl

@[simp] theorem texts_undotted (v : Value) : v.undotted.texts = v.texts := by
  cases v <;> rfl

@[simp] theorem keys_undotted (v : Value) :
    v.undotted.keys = v.keys.filter fun k => '.' ∉ k.toList := by
  cases v with
  | table es => exact keys_undottedEntries es
  | _ => rfl

end Value

end Document

namespace Config

section

variable {c : Config} {path : List String}

/-! ## Values at paths of keys -/

theorem mem_keysAt_iff {k : String} :
    k ∈ c.keysAt path ↔ (c.root.at? (path ++ [k])).isSome = true := by
  rw [keysAt, Value.at?_append]
  cases c.root.at? path with
  | none => simp
  | some v => cases v <;> simp [Value.keys, Value.at?, Value.child?, Keyed.isSome_get?_iff]

theorem shapeAt?_isSome : (c.shapeAt? path).isSome = (c.root.at? path).isSome := by
  simp [shapeAt?]

/-- What has a value below it is a table with the next key. -/
theorem mem_keysAt_of_below {k : String} {p : List String}
    (h : (c.root.at? (path ++ k :: p)).isSome = true) : k ∈ c.keysAt path := by
  rw [mem_keysAt_iff]
  rw [List.append_cons, Value.at?_append] at h
  cases hv : c.root.at? (path ++ [k]) with
  | none => simp [hv] at h
  | some v => rfl

theorem keysAt_of_ne_table (h : c.shapeAt? path ≠ some .table) : c.keysAt path = [] := by
  unfold shapeAt? at h
  unfold keysAt
  cases hv : c.root.at? path with
  | none => rfl
  | some v => cases v <;> simp_all [Value.keys, Value.shape]

end

/-! ## Both ways to read -/

variable {c : Config} {path : String} {keys : List String}

/-- A dotted path and a path of keys lead to a value both or neither, and to the same one as far as
reading tells. -/
structure ReadAlike (c : Config) (path : String) (keys : List String) : Prop where
  mem : c.mem path = true ↔ (c.shapeAt? keys).isSome = true
  strings : c.strings path = c.stringsAt keys
  keys : c.keys path = c.keysAt keys

theorem readAlike_of_segments (h : segments path = keys) : c.ReadAlike path keys := by
  have hget : c.get? path = c.root.at? keys := by rw [get?, h]
  constructor
  · rw [mem, shapeAt?, hget, Option.isSome_map]
  · rw [strings, stringsAt, hget]
  · rw [Config.keys, keysAt, hget]

/-- The configuration without what is under keys with a dot. -/
def undotted (c : Config) : Config :=
  ⟨c.root.undotted⟩

theorem get?_undotted (c : Config) (path : String) :
    c.undotted.get? path = (c.get? path).map Value.undotted :=
  Value.at?_undotted (fun _ => not_mem_of_mem_segments) c.root

/-- A key with a dot leads nowhere in it, and neither does what comes after the key. -/
theorem shapeAt?_undotted_eq_none (c : Config) {key : String} (hdot : '.' ∈ key.toList)
    (keys below : List String) : c.undotted.shapeAt? (keys ++ key :: below) = none := by
  have hpath : ∃ k ∈ keys ++ key :: below, '.' ∈ k.toList := ⟨key, by simp, hdot⟩
  rw [shapeAt?, undotted, Value.at?_undotted_eq_none hpath, Option.map_none]

/-- A dotted path reads the same without what is under keys with a dot; only the keys themselves are
missing where the keys of a table are read. -/
structure ReadsUndotted (c : Config) (path : String) : Prop where
  mem : c.undotted.mem path = c.mem path
  string? : c.undotted.string? path = c.string? path
  strings : c.undotted.strings path = c.strings path
  integer? : c.undotted.integer? path = c.integer? path
  flag : c.undotted.flag path = c.flag path
  keys : c.undotted.keys path = (c.keys path).filter fun k => '.' ∉ k.toList

theorem reads_undotted (c : Config) (path : String) : c.ReadsUndotted path := by
  have hget := get?_undotted c path
  cases hv : c.get? path with
  | none =>
    rw [hv, Option.map_none] at hget
    constructor <;> simp [mem, string?, strings, integer?, flag, Config.keys, hget, hv]
  | some v =>
    rw [hv, Option.map_some] at hget
    constructor
    · simp [mem, hget, hv]
    · simp [string?, hget, hv]
    · simp [strings, hget, hv]
    · rw [integer?, integer?, hget, hv]
      cases v <;> rfl
    · rw [flag, flag, hget, hv]
      cases v <;> rfl
    · simp [Config.keys, hget, hv]

/-- Keys without a dot and the path that joins them read alike, unless they are one empty key, and
so do a path that is not empty and the keys it is split into; no keys and the empty path are the
whole document. Under a key with a dot no dotted path finds anything, and paths of keys do. -/
theorem path_and_keys_read_alike (c : Config) :
    (∀ keys : List String, (∀ k ∈ keys, '.' ∉ k.toList) → keys ≠ [""] →
      c.ReadAlike (".".intercalate keys) keys) ∧
    (c.ReadAlike "" [] ∧ c.shapeAt? [] = some c.root.shape ∧ c.stringsAt [] = c.root.texts ∧
      c.keysAt [] = c.root.keys) ∧
    (∀ path : String, path ≠ "" →
      c.ReadAlike path ((path.split '.').toList.map String.Slice.copy)) ∧
    (∀ path : String, c.ReadsUndotted path) ∧
    (∀ (keys : List String) (key : String), '.' ∈ key.toList → key ∈ c.keysAt keys →
      (c.shapeAt? (keys ++ [key])).isSome = true ∧
        ∀ below, c.undotted.shapeAt? (keys ++ key :: below) = none) := by
  refine ⟨fun keys hdots hne => ?_, ⟨readAlike_of_segments rfl, ?_, ?_, ?_⟩, fun path hne => ?_,
    c.reads_undotted, fun keys key hdot hmem => ⟨?_, c.shapeAt?_undotted_eq_none hdot keys⟩⟩
  · exact readAlike_of_segments (segments_intercalate hdots hne)
  · rw [shapeAt?, Value.at?_nil, Option.map_some]
  · rw [stringsAt, Value.at?_nil, Option.map_some, Option.getD_some]
  · rw [keysAt, Value.at?_nil, Option.map_some, Option.getD_some]
  · exact readAlike_of_segments (segments_eq_split hne)
  · rw [shapeAt?_isSome]
    exact mem_keysAt_iff.1 hmem

/-- A list under two empty keys, and a key with a dot next to the keys it would be split into. -/
def sampleDots : Config :=
  ⟨.table [("", .table [("", .list [.text "x"])]),
    ("St", .table [(" Louis", .list [.text "split.example.com"])]),
    ("St. Louis", .list [.text "stl.example.com"])]⟩

theorem path_and_keys_read_alike_sample :
    (∀ k ∈ ["", ""], '.' ∉ k.toList) ∧ ["", ""] ≠ [""] ∧ sampleDots.strings "." = ["x"] ∧
    "St. Louis" ≠ "" ∧ sampleDots.strings "St. Louis" = ["split.example.com"] ∧
    '.' ∈ "St. Louis".toList ∧ "St. Louis" ∈ sampleDots.keysAt [] ∧
    sampleDots.stringsAt ["St. Louis"] = ["stl.example.com"] ∧
    sampleDots.undotted.strings "St. Louis" = ["split.example.com"] ∧
    sampleDots.undotted.shapeAt? ["St. Louis"] = none := by
  obtain ⟨hjoined, -, hsplit, hundotted, hdotted⟩ := path_and_keys_read_alike sampleDots
  have hdots : ∀ k ∈ ["", ""], '.' ∉ k.toList := by decide
  have hmarks : sampleDots.strings "." = ["x"] := (hjoined ["", ""] hdots (by decide)).strings
  have hlouis : sampleDots.strings "St. Louis" = ["split.example.com"] := by
    rw [(hsplit "St. Louis" (by decide)).strings, String.toList_split_char]
    rfl
  have hdot : '.' ∈ "St. Louis".toList := by decide
  have hkey : "St. Louis" ∈ sampleDots.keysAt [] := by decide
  refine ⟨hdots, by decide, hmarks, by decide, hlouis, hdot, hkey, rfl, ?_, ?_⟩
  · rw [(hundotted "St. Louis").strings, hlouis]
  · exact (hdotted [] "St. Louis" hdot hkey).2 []

end Config

end Egress
