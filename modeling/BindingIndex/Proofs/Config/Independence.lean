import BindingIndex.Proofs.Config.Findings

/-!
# Faults beside each other

A fault in one part of the data neither hides a fault in another part nor adds to it: `Local find`
says that what is told of a part depends on the value of this part alone, whatever stands beside it.
That holds of single values, of the items of a list and of the fields of a section, hence of a whole
configuration (`local_whole`).

So validation finds what the declared fields have wrong on their own, one after another, and nothing
else; and it says how much that is (`validate_finds`).
-/

namespace BindingIndex

namespace Value

/-- The part of a value that one step leads to. -/
def step? (v : Value) : Config.Step → Option Value
  | .field name => v.entries?.bind (lookup name)
  | .item i => v.items?.bind (·[i]?)

/-- The part of a value at a place. -/
def part? : List Config.Step → Value → Option Value
  | [], v => some v
  | s :: place, v => (v.step? s).bind (part? place)

end Value

namespace Config

open Finding (below isBelow)

/-! ## Parts -/

/-- What is told of a part of a value depends on nothing but that part. -/
def Local (find : Value → List Finding) : Prop :=
  ∀ place v w part, Value.part? place v = some part → Value.part? place w = some part →
    (find v).filter (isBelow place) = (find w).filter (isBelow place)

variable {find : Value → List Finding}

theorem items?_of_entries? {v : Value} {entries : List (Value × Value)}
    (h : v.entries? = some entries) : v.items? = none := by
  cases v <;> simp_all [Value.entries?, Value.items?]

theorem entries?_of_items? {v : Value} {items : List Value} (h : v.items? = some items) :
    v.entries? = none := by
  cases v <;> simp_all [Value.entries?, Value.items?]

theorem local_of_place_eq_nil (h : ∀ v, ∀ f ∈ find v, f.place = []) : Local find := by
  intro place v w part hv hw
  cases place with
  | nil =>
    cases hv
    cases hw
    rfl
  | cons s rest =>
    have hnone : ∀ u, (find u).filter (isBelow (s :: rest)) = [] := fun u => by
      rw [List.filter_eq_nil_iff]
      intro f hf
      simp [isBelow, h u f hf]
    rw [hnone, hnone]

theorem Declared.filter_findings_of_ne {d : Declared} {name : String} (h : name ≠ d.name)
    (rest : List Step) (entries : List (Value × Value)) :
    (d.findings entries).filter (isBelow (.field name :: rest)) = [] :=
  Finding.filter_map_below_of_ne (fun he => h (Step.field.inj he)) rest _

theorem Declared.filter_findings {d : Declared} (h : Local d.find) {name : String}
    {rest : List Step} {entries entries' : List (Value × Value)} {v w part : Value}
    (hv : Value.lookup name entries = some v) (hw : Value.lookup name entries' = some w)
    (hpart : Value.part? rest v = some part) (hpart' : Value.part? rest w = some part) :
    (d.findings entries).filter (isBelow (.field name :: rest)) =
      (d.findings entries').filter (isBelow (.field name :: rest)) := by
  by_cases hname : name = d.name
  · subst hname
    have hsame := h rest v w part hpart hpart'
    rw [Declared.findings, Declared.findings, Finding.filter_map_below,
      Finding.filter_map_below, hv, hw]
    exact congrArg _ hsame
  · rw [filter_findings_of_ne hname, filter_findings_of_ne hname]

theorem local_inSection (s : Subject) {fields : List Declared} (h : ∀ d ∈ fields, Local d.find) :
    Local (inSection s fields) := by
  intro place v w part hv hw
  cases place with
  | nil =>
    cases hv
    cases hw
    rfl
  | cons step rest =>
    obtain ⟨a, ha, hpart⟩ := Option.bind_eq_some_iff.1 hv
    obtain ⟨b, hb, hpart'⟩ := Option.bind_eq_some_iff.1 hw
    cases step with
    | field name =>
      obtain ⟨entries, hentries, hlookup⟩ := Option.bind_eq_some_iff.1 ha
      obtain ⟨entries', hentries', hlookup'⟩ := Option.bind_eq_some_iff.1 hb
      rw [inSection, inSection, hentries, hentries']
      dsimp only
      rw [inEntries, inEntries, List.filter_flatMap, List.filter_flatMap, List.flatMap_def,
        List.flatMap_def]
      refine congrArg _ (List.map_congr_left fun d hd => ?_)
      exact d.filter_findings (h d hd) hlookup hlookup' hpart hpart'
    | item i =>
      -- neither value is a mapping
      obtain ⟨items, hitems, -⟩ := Option.bind_eq_some_iff.1 ha
      obtain ⟨items', hitems', -⟩ := Option.bind_eq_some_iff.1 hb
      rw [inSection, inSection, entries?_of_items? hitems, entries?_of_items? hitems']

theorem filter_inItems_of_lt (find : Value → List Finding) {i k : Nat} (h : i < k)
    (rest : List Step) (items : List Value) :
    (inItems find k items).filter (isBelow (.item i :: rest)) = [] := by
  induction items generalizing k with
  | nil => rfl
  | cons v items ih =>
    have hne : Step.item i ≠ .item k := fun he => by
      have := Step.item.inj he
      omega
    have hrest := ih (k := k + 1) (by omega)
    rw [inItems] at hrest ⊢
    rw [List.zipIdx_cons, List.flatMap_cons, List.filter_append, hrest,
      Finding.filter_map_below_of_ne hne]
    rfl

theorem filter_inItems (find : Value → List Finding) {items : List Value} {i k : Nat} {v : Value}
    (h : items[i]? = some v) (rest : List Step) :
    (inItems find k items).filter (isBelow (.item (k + i) :: rest)) =
      ((find v).filter (isBelow rest)).map (below [.item (k + i)]) := by
  induction items generalizing i k with
  | nil => simp at h
  | cons w items ih =>
    rw [inItems, List.zipIdx_cons, List.flatMap_cons, List.filter_append]
    cases i with
    | zero =>
      obtain rfl : w = v := by simpa using h
      have htail := filter_inItems_of_lt find (Nat.lt_succ_self k) rest items
      rw [inItems] at htail
      rw [Nat.add_zero, Finding.filter_map_below, htail, List.append_nil]
    | succ i =>
      have hne : Step.item (k + (i + 1)) ≠ .item k := fun he => by
        have := Step.item.inj he
        omega
      have htail := ih (i := i) (k := k + 1) (by simpa using h)
      rw [inItems, Nat.add_right_comm k 1 i, Nat.add_assoc] at htail
      rw [Finding.filter_map_below_of_ne hne, htail, List.nil_append]

theorem local_inList (h : Local find) : Local (inList find) := by
  intro place v w part hv hw
  cases place with
  | nil =>
    cases hv
    cases hw
    rfl
  | cons step rest =>
    obtain ⟨a, ha, hpart⟩ := Option.bind_eq_some_iff.1 hv
    obtain ⟨b, hb, hpart'⟩ := Option.bind_eq_some_iff.1 hw
    cases step with
    | field name =>
      -- neither value is a list
      obtain ⟨entries, hentries, -⟩ := Option.bind_eq_some_iff.1 ha
      obtain ⟨entries', hentries', -⟩ := Option.bind_eq_some_iff.1 hb
      rw [inList, inList, items?_of_entries? hentries, items?_of_entries? hentries']
    | item i =>
      obtain ⟨items, hitems, hget⟩ := Option.bind_eq_some_iff.1 ha
      obtain ⟨items', hitems', hget'⟩ := Option.bind_eq_some_iff.1 hb
      have hfound := filter_inItems find (k := 0) hget rest
      have hfound' := filter_inItems find (k := 0) hget' rest
      rw [Nat.zero_add] at hfound hfound'
      rw [inList, inList, hitems, hitems']
      dsimp only
      rw [hfound, hfound', h rest a b part hpart hpart']

theorem Single.isLocal {α : Type} {check : List Step → Value → Checked α} (h : Single check) :
    Local (own check) := local_of_place_eq_nil fun _ _ => h.place_eq_nil

theorem local_whole : Local (inSection .whole wholeDeclared) := by
  have hgeneration : Local (inSection .generation generationDeclared) := by
    refine local_inSection _ fun d hd => ?_
    simp only [generationDeclared, List.mem_cons, List.not_mem_nil, or_false] at hd
    rcases hd with rfl | rfl
    · exact single_packageName.isLocal
    · exact single_bool.isLocal
  have houtput : Local (inSection .output outputDeclared) := by
    refine local_inSection _ fun d hd => ?_
    obtain rfl := List.mem_singleton.1 hd
    exact single_path.isLocal
  refine local_inSection _ fun d hd => ?_
  simp only [wholeDeclared, List.mem_cons, List.not_mem_nil, or_false] at hd
  rcases hd with rfl | rfl | rfl | rfl
  · exact hgeneration
  · exact houtput
  · exact local_inList single_text.isLocal
  · exact single_optionalPath.isLocal

/-! ## The report -/

theorem intercalate_cons (sep line : String) (lines : List String) :
    sep.intercalate (line :: lines) = line ++ String.join (lines.map (sep ++ ·)) := by
  induction lines generalizing line with
  | nil => simp
  | cons next lines ih =>
    rw [String.intercalate_cons_cons, ih, List.map_cons, String.join_cons]
    simp [String.append_assoc]

theorem findings_validate (entries : List (Value × Value)) :
    findings (validate entries) = inEntries wholeDeclared entries :=
  (comes_whole entries).findings_report .whole

theorem findings_validateGeneration (entries : List (Value × Value)) :
    findings (validateGeneration entries) = inEntries generationDeclared entries := by
  have hcomes := comes_generationFields [] none entries
  rw [Finding.below_nil, List.map_id] at hcomes
  exact hcomes.findings_report .generation

theorem findings_validateOutput (entries : List (Value × Value)) :
    findings (validateOutput entries) = inEntries outputDeclared entries := by
  have hcomes := comes_outputFields [] entries
  rw [Finding.below_nil, List.map_id] at hcomes
  exact hcomes.findings_report .output

theorem subject_of_report {α : Type} {subject : Subject} {x : Checked α} {r : Report}
    (h : report subject x = .error r) : r.subject = subject := by
  cases x with
  | ok a => cases h
  | error faults =>
    cases h
    rfl

theorem message_validate {entries : List (Value × Value)} {r : Report}
    (h : validate entries = .error r) :
    r.message = toString (findings (validate entries)).length ++ " validation error" ++
      (if (findings (validate entries)).length = 1 then "" else "s") ++ " for BRGenConfig" ++
      String.join ((r.faults.flatMap Fault.lines).map ("\n" ++ ·)) := by
  have hsubject : r.subject = .whole := subject_of_report h
  have hname : " for " ++ Subject.whole.name = " for BRGenConfig" := by decide
  have hlength : (findings (validate entries)).length = r.faults.length := by
    rw [h, findings, List.length_map]
  rw [hlength, Report.message, hsubject, intercalate_cons, ← hname]
  simp only [String.append_assoc]

/-- **Validation finds every fault, and only faults.** What is reported of the entries of a mapping
is what its fields have wrong on their own, in the order in which they are declared: a section that
is missing or no mapping counts once, and otherwise as if it was validated by itself; a list counts
item by item. So what is found at a place and below it depends on the data there only. The report
announces as many faults as it lists, and there is none exactly if the data is accepted. -/
theorem validate_finds (entries : List (Value × Value)) :
    findings (validate entries) = inEntries wholeDeclared entries ∧
    (∀ es, findings (validateGeneration es) = inEntries generationDeclared es) ∧
    (∀ es, findings (validateOutput es) = inEntries outputDeclared es) ∧
    (∀ entries' place part, Value.part? place (.dict none entries) = some part →
      Value.part? place (.dict none entries') = some part →
      (findings (validate entries)).filter (isBelow place) =
        (findings (validate entries')).filter (isBelow place)) ∧
    (∀ r, validate entries = .error r →
      r.message = toString (findings (validate entries)).length ++ " validation error" ++
        (if (findings (validate entries)).length = 1 then "" else "s") ++ " for BRGenConfig" ++
        String.join ((r.faults.flatMap Fault.lines).map ("\n" ++ ·))) ∧
    (findings (validate entries) = [] ↔ ∃ c, validate entries = .ok c) := by
  refine ⟨findings_validate entries, findings_validateGeneration, findings_validateOutput,
    fun entries' place part hv hw => ?_, fun r hr => message_validate hr, fun hnone => ?_,
    fun ⟨c, hc⟩ => ?_⟩
  · rw [findings_validate, findings_validate]
    exact local_whole place _ _ part hv hw
  · rw [findings_validate] at hnone
    obtain ⟨c, hc⟩ := (comes_whole entries).accepts hnone
    exact ⟨c, report_eq_ok_iff.2 hc⟩
  · rw [hc]
    rfl

/-- Faults in all fields, with a section that is no mapping. -/
example : findings (validate
      [(.text "properties", .list none [.text "a", .int 1, .bytes [0xFF]]),
        (.text "output", .null), (.text "version", .int 2), (.text "properties_file", .bool true),
        (.text "generation", .dict none [(.text "use_final", .text "maybe")])]) =
    [⟨[.field "generation", .field "package_name"], .missing⟩,
      ⟨[.field "generation", .field "use_final"], .unknownBoolWord⟩,
      ⟨[.field "output"], .notSection .output⟩,
      ⟨[.field "properties", .item 1], .notText⟩,
      ⟨[.field "properties", .item 2], .notUtf8⟩,
      ⟨[.field "properties_file"], .notPath⟩] := by decide

end Config

end BindingIndex
