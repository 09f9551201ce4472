import BindingIndex.Proofs.Config.Valid

/-!
# Validation as a projection

Validation takes data to the valid configurations and leaves these where they are: what it gives is
valid (`valid_of_validate`), and a valid configuration, as data, passes as it is (`Valid.validate`).

What the data holds under other names than those of the fields has no say in this. `pruned` leaves
such entries out, on the top level and in both sections. A check looks up the names of its fields
only (`lookup_filter`), so it finds the same in the pruned data; where something is at fault, only
the data that is shown with a missing field can differ. So checks are compared by their `outcome`,
which tells a fault by its place and its kind, and each check of the pruned data comes to the same
outcome as that of the data (`outcome_whole_pruned`).

Together: `validate_projects`.
-/

namespace BindingIndex.Config

/-! ## Data without unknown keys -/

/-- Is the entry under the name of a field? -/
def Subject.knows (s : Subject) : Value × Value → Bool
  | (.text name, _) => s.fields.contains name
  | _ => false

/-- The data of a section without its unknown keys. What is no mapping has none. -/
def Subject.pruned (s : Subject) : Value → Value
  | .dict label entries => .dict label (entries.filter s.knows)
  | v => v

/-- The value under a name of the whole configuration, without unknown keys if it is a section. -/
def prunedValue (name : String) (v : Value) : Value :=
  if name = "generation" then Subject.generation.pruned v
  else if name = "output" then Subject.output.pruned v
  else v

def prunedEntry : Value × Value → Value × Value
  | (.text name, v) => (.text name, prunedValue name v)
  | e => e

/-- The data of a configuration without unknown keys, on whatever level. -/
def pruned (entries : List (Value × Value)) : List (Value × Value) :=
  (entries.filter Subject.whole.knows).map prunedEntry

theorem lookup_filter {s : Subject} {name : String} (h : name ∈ s.fields)
    (entries : List (Value × Value)) :
    Value.lookup name (entries.filter s.knows) = Value.lookup name entries := by
  induction entries with
  | nil => rfl
  | cons e rest ih =>
    obtain ⟨k, v⟩ := e
    cases hk : s.knows (k, v) with
    | true =>
      rw [List.filter_cons_of_pos hk]
      cases k <;> simp only [Value.lookup, ih]
    | false =>
      rw [List.filter_cons_of_neg (by simp [hk]), ih]
      cases k with
      | text other =>
        have hne : other ≠ name := by
          rintro rfl
          have hin : s.fields.contains other = true := List.contains_iff_mem.2 h
          rw [Subject.knows, hin] at hk
          cases hk
        rw [Value.lookup, if_neg hne]
      | _ => rfl

theorem lookup_map_prunedEntry (name : String) (entries : List (Value × Value)) :
    Value.lookup name (entries.map prunedEntry) =
      (Value.lookup name entries).map (prunedValue name) := by
  induction entries with
  | nil => rfl
  | cons e rest ih =>
    obtain ⟨k, v⟩ := e
    cases k with
    | text other =>
      by_cases hname : other = name
      · subst hname
        simp [prunedEntry, Value.lookup]
      · simp [prunedEntry, Value.lookup, hname, ih]
    | _ => exact ih

theorem lookup_pruned {name : String} (h : name ∈ Subject.whole.fields)
    (entries : List (Value × Value)) :
    Value.lookup name (pruned entries) = (Value.lookup name entries).map (prunedValue name) := by
  rw [pruned, lookup_map_prunedEntry, lookup_filter h]

/-! ## Outcomes -/

section
variable {α β : Type}

/-- What a check comes to: its value, or where something is at fault and what kind of fault it is.
The data that is shown with a fault is left out. -/
def outcome (x : Checked α) : Except (List (List Step × FaultKind)) α :=
  x.mapError (List.map fun f => (f.place, f.kind))

@[simp] theorem outcome_ok (a : α) : outcome (.ok a) = .ok a := rfl

@[simp] theorem outcome_error (faults : List Fault) :
    outcome (.error faults : Checked α) = .error (faults.map fun f => (f.place, f.kind)) := rfl

theorem outcome_eq_ok_iff {x : Checked α} {a : α} : outcome x = .ok a ↔ x = .ok a := by
  cases x <;> simp

theorem outcome_map (f : α → β) (x : Checked α) : outcome (x.map f) = (outcome x).map f := by
  cases x <;> rfl

theorem outcome_both {x x' : Checked α} {y y' : Checked β} (hx : outcome x' = outcome x)
    (hy : outcome y' = outcome y) :
    outcome (Check.both x' y') = outcome (Check.both x y) := by
  cases x <;> cases x' <;> cases y <;> cases y' <;>
    simp_all [Check.both, Check.faults]

variable {entries entries' : List (Value × Value)} {name : String} {place : List Step}
  {check : List Step → Value → Checked α} {change : Value → Value}

theorem outcome_required {label label' : Option Nat}
    (hlookup : Value.lookup name entries' = (Value.lookup name entries).map change)
    (hcheck : ∀ at' v, outcome (check at' (change v)) = outcome (check at' v)) :
    outcome (Check.required place entries' label' name check) =
      outcome (Check.required place entries label name check) := by
  rw [Check.required, Check.required, hlookup]
  cases Value.lookup name entries with
  | none => rfl
  | some v => exact hcheck _ v

theorem outcome_optional {default : α}
    (hlookup : Value.lookup name entries' = (Value.lookup name entries).map change)
    (hcheck : ∀ at' v, outcome (check at' (change v)) = outcome (check at' v)) :
    outcome (Check.optional place entries' name default check) =
      outcome (Check.optional place entries name default check) := by
  rw [Check.optional, Check.optional, hlookup]
  cases Value.lookup name entries with
  | none => rfl
  | some v => exact hcheck _ v

end

/-! ## Checks of pruned data -/

theorem outcome_generation_pruned (place : List Step) (v : Value) :
    outcome (Check.generation place (Subject.generation.pruned v)) =
      outcome (Check.generation place v) := by
  cases v with
  | dict label entries =>
    have hlookup : ∀ name ∈ Subject.generation.fields,
        Value.lookup name (entries.filter Subject.generation.knows) =
          (Value.lookup name entries).map id := fun name hname => by
      rw [lookup_filter hname, Option.map_id, id]
    show outcome (Check.generationFields place label _) =
      outcome (Check.generationFields place label entries)
    rw [Check.generationFields, Check.generationFields, outcome_map, outcome_map]
    refine congrArg _ (outcome_both ?_ ?_)
    · exact outcome_required (hlookup _ (by decide)) fun _ _ => rfl
    · exact outcome_optional (hlookup _ (by decide)) fun _ _ => rfl
  | _ => rfl

theorem outcome_output_pruned (place : List Step) (v : Value) :
    outcome (Check.output place (Subject.output.pruned v)) = outcome (Check.output place v) := by
  cases v with
  | dict label entries =>
    have hlookup : Value.lookup "output_dir" (entries.filter Subject.output.knows) =
        Value.lookup "output_dir" entries := lookup_filter (by decide) entries
    show outcome (Check.outputFields place _) = outcome (Check.outputFields place entries)
    rw [Check.outputFields, Check.outputFields, Check.optional, Check.optional, hlookup]
  | _ => rfl

/-- **Unknown keys** change no outcome. -/
theorem outcome_whole_pruned (entries : List (Value × Value)) :
    outcome (Check.whole (pruned entries)) = outcome (Check.whole entries) := by
  rw [Check.whole, Check.whole, outcome_map, outcome_map]
  refine congrArg _ (outcome_both ?_ (outcome_both ?_ (outcome_both ?_ ?_)))
  · exact outcome_required (lookup_pruned (by decide) entries) outcome_generation_pruned
  · exact outcome_optional (lookup_pruned (by decide) entries) outcome_output_pruned
  · exact outcome_optional (lookup_pruned (by decide) entries) fun _ _ => rfl
  · exact outcome_optional (lookup_pruned (by decide) entries) fun _ _ => rfl

/-! ## The projection -/

theorem validate_eq_ok_iff {entries : List (Value × Value)} {c : Config} :
    validate entries = .ok c ↔ outcome (Check.whole entries) = .ok c := by
  rw [validate, report_eq_ok_iff, outcome_eq_ok_iff]

/-- **Validation is a projection.** The configurations that it gives are the valid ones with a
package that is Unicode, and each of them, written out as data, is accepted and given back, whatever
data it came from. Unknown keys at any level of the data count for nothing: without them the same
configuration is given, or the same checks fail at the same places. -/
theorem validate_projects :
    (∀ c, (∃ entries, validate entries = .ok c) ↔
      Valid c ∧ c.generation.packageName.IsUnicode) ∧
    (∀ entries c, validate entries = .ok c →
      ∃ own, c.toValue = .dict none own ∧ validate own = .ok c) ∧
    ∀ entries, outcome (Check.whole (pruned entries)) = outcome (Check.whole entries) ∧
      ∀ c, validate (pruned entries) = .ok c ↔ validate entries = .ok c := by
  have hagain : ∀ c, Valid c → c.generation.packageName.IsUnicode → validate c.entries = .ok c :=
    fun c h hu => h.validate.trans (if_pos hu)
  refine ⟨fun c => ⟨?_, fun ⟨h, hu⟩ => ⟨_, hagain c h hu⟩⟩, fun entries c h => ?_,
    fun entries => ⟨outcome_whole_pruned entries, fun c => ?_⟩⟩
  · rintro ⟨entries, h⟩
    exact valid_of_validate h
  · obtain ⟨hvalid, hu⟩ := valid_of_validate h
    exact ⟨c.entries, c.toValue_eq, hagain c hvalid hu⟩
  · rw [validate_eq_ok_iff, validate_eq_ok_iff, outcome_whole_pruned]

/-- Data with unknown keys on both levels, a text given as bytes and a truth value as a word. -/
def loose : List (Value × Value) :=
  [(.text "version", .int 2),
    (.text "generation", .dict (some 1) [(.text "use_final", .text "OFF"), (.text "package", .null),
      (.null, .null), (.text "package_name", .bytes [0x61, 0x70, 0x70])]),
    (.text "output", .dict none [(.text "dir", .text "out")]),
    (.text "properties_file", .text ".//names/./list.txt")]

def looseConfig : Config :=
  ⟨⟨"app", false⟩, defaultOutputDir, [], some ⟨.relative, ["names", "list.txt"]⟩⟩

theorem validate_projects_loose :
    validate loose = .ok looseConfig ∧
    (∃ own, looseConfig.toValue = .dict none own ∧ validate own = .ok looseConfig) ∧
    (pruned loose).length = 3 ∧ validate (pruned loose) = .ok looseConfig :=
  have hloose : validate loose = .ok looseConfig := ok_of_toOption (by decide +kernel)
  ⟨hloose, validate_projects.2.1 loose looseConfig hloose, rfl,
    (validate_projects.2.2 loose).2 looseConfig |>.2 hloose⟩

end BindingIndex.Config
