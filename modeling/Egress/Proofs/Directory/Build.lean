import Egress.Directory.Build
import Egress.Proofs.Config.Paths
import Egress.Proofs.Except

/-!
# The steps of a build

A build checks what the configuration has at dotted paths that start with the vendor's name, plans
the tree below the servers (`Config.plan_checks`) and settles the plan (`Config.build_value`). A
dotted path cuts the name at every dot (`dottedKeys`) before it comes to the field.
-/

set_option autoImplicit false

namespace Egress

/-! ## Fields by dotted path -/

/-- The keys that a text stands for in front of a field. -/
def dottedKeys (text : String) : List String :=
  (Text.pieces '.' text.toList).map String.ofList

theorem segments_of_ne_empty {text : String} (hne : text ≠ "") :
    segments text = dottedKeys text := by
  rw [segments, if_neg hne, dottedKeys]

theorem segments_field {field : String} (text : String) (hfield : '.' ∉ field.toList) :
    segments (text ++ "." ++ field) = dottedKeys text ++ [field] := by
  have hne : text ++ "." ++ field ≠ "" := by
    intro he
    simpa using congrArg String.toList he
  have hl : (text ++ "." ++ field).toList = text.toList ++ '.' :: field.toList := by simp
  rw [segments_of_ne_empty hne, dottedKeys, hl, Text.pieces_append_mark,
    Text.pieces_of_not_mem hfield, List.map_append]
  simp [dottedKeys]

theorem dottedKeys_of_not_mem {text : String} (h : '.' ∉ text.toList) :
    dottedKeys text = [text] := by
  rw [dottedKeys, Text.pieces_of_not_mem h]
  simp

/-- A text with a dot in it is none of the keys it stands for. -/
theorem not_mem_dottedKeys {text : String} (h : '.' ∈ text.toList) : text ∉ dottedKeys text := by
  have hne : text ≠ "" := by
    rintro rfl
    cases h
  rw [← segments_of_ne_empty hne]
  exact fun hm => not_mem_of_mem_segments hm h

namespace Config

variable {c : Config} {r : Resolver} {vendor : String}

/-- A field of a vendor by dotted path. -/
theorem get?_field (c : Config) (vendor field : String) (hfield : '.' ∉ field.toList) :
    c.get? (vendor ++ ("." ++ field)) = c.root.at? (dottedKeys vendor ++ [field]) := by
  rw [← String.append_assoc, get?, segments_field vendor hfield]

theorem get?_servers (c : Config) (vendor : String) :
    c.get? (vendor ++ ".servers") = c.root.at? (dottedKeys vendor ++ ["servers"]) :=
  get?_field c vendor "servers" (by decide)

theorem get?_levels (c : Config) (vendor : String) :
    c.get? (vendor ++ ".levels") = c.root.at? (dottedKeys vendor ++ ["levels"]) :=
  get?_field c vendor "levels" (by decide)

theorem get?_resolve (c : Config) (vendor : String) :
    c.get? (vendor ++ ".resolve_servers") =
      c.root.at? (dottedKeys vendor ++ ["resolve_servers"]) :=
  get?_field c vendor "resolve_servers" (by decide)

/-! ## Planning and building -/

/-- Planning a directory is to check what is there and then to build the tree below the servers. -/
theorem plan_checks (c : Config) (vendor : String) :
    c.plan vendor =
      if c.mem vendor = true then
        if c.mem (vendor ++ ".servers") = true then
          if maxLevels < (c.strings (vendor ++ ".levels")).length then
            .error (.config (.unsupportedDepth vendor (c.strings (vendor ++ ".levels")).length))
          else (c.nodeAt (c.strings (vendor ++ ".levels")) [vendor, "servers"]).map fun x =>
            ⟨c.strings (vendor ++ ".levels"), c.flag (vendor ++ ".resolve_servers"), x.1, x.2⟩
        else .error (.config (.missing (vendor ++ ".servers")))
      else .error (.config (.unknownVendor vendor)) := by
  simp only [plan]
  cases c.mem vendor with
  | false => rfl
  | true =>
    cases c.mem (vendor ++ ".servers") with
    | false => rfl
    | true =>
      by_cases hl : maxLevels < (c.strings (vendor ++ ".levels")).length
      · simp only [hl]
        rfl
      · simp only [hl]
        rfl

/-- What is planned is a tree below the servers, with the levels and the flag of the vendor. -/
theorem plan_ok {p : Plan} (h : c.plan vendor = .ok p) :
    ∃ x, c.nodeAt (c.strings (vendor ++ ".levels")) [vendor, "servers"] = .ok x ∧
      p = ⟨c.strings (vendor ++ ".levels"), c.flag (vendor ++ ".resolve_servers"), x.1, x.2⟩ := by
  rw [plan_checks] at h
  split at h
  · split at h
    · split at h
      · cases h
      · obtain ⟨x, hx, rfl⟩ := map_eq_ok.1 h
        exact ⟨x, hx, rfl⟩
    · cases h
  · cases h

/-- A directory is built from a plan that can be settled. -/
theorem build_value (c : Config) (r : Resolver) (vendor : String) :
    (c.build r vendor).value = (c.plan vendor).bind fun p =>
      (p.settle r vendor).value.map fun x =>
        { name := vendor, levels := p.levels, resolve := p.resolve, root := x.1, resolved := x.2 } := by
  simp only [build, Report.value_bind]
  cases c.plan vendor with
  | error e => rfl
  | ok p =>
    simp only [Report.value_bind, Except.bind]
    cases (p.settle r vendor).value <;> rfl

/-- What is built is the tree below the servers with its lists settled. -/
theorem build_ok {d : Directory} (h : (c.build r vendor).value = .ok d) :
    ∃ p x, c.plan vendor = .ok p ∧ (p.settle r vendor).value = .ok x ∧
      d = { name := vendor, levels := p.levels, resolve := p.resolve, root := x.1,
            resolved := x.2 } := by
  rw [build_value] at h
  cases hp : c.plan vendor with
  | error e => rw [hp] at h; cases h
  | ok p =>
    rw [hp] at h
    obtain ⟨x, hx, rfl⟩ := map_eq_ok.1 h
    exact ⟨p, x, rfl, hx, rfl⟩

end Config

end Egress
