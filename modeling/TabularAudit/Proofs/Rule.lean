import TabularAudit.Proofs.Bag
import TabularAudit.Proofs.Run.Violations

/-!
Rules are read back from their entries. Reading fills in what is missing, so that a rule that was read names its
id, its name and its category, and holds the null value where a field without a default is empty.
-/

namespace TabularAudit

namespace Value

variable {v fallback : Value}

theorem display_ne_empty_of_isEmpty_eq_false (filled : v.isEmpty = false) : v.display ≠ "" := by
  intro nothing
  rw [display_eq_empty_iff] at nothing
  rw [nothing] at filled
  exact absurd filled (by decide)

theorem orElse_of_isEmpty (given : (v.orElse fallback).isEmpty = true) :
    v.orElse fallback = fallback := by
  rw [orElse] at given ⊢
  split
  · rfl
  · next filled =>
      rw [if_neg filled] at given
      exact absurd given filled

theorem orElse_eq_self (filled : v.isEmpty = true → v = fallback) : v.orElse fallback = v := by
  rw [orElse]
  split
  · next nothing => exact (filled nothing).symm
  · rfl

theorem orElse_text {s : String} (filled : s ≠ "") (fallback : Value) : (text s).orElse fallback = text s := by
  apply orElse_eq_self
  intro nothing
  simp [isEmpty_text, filled] at nothing

end Value

namespace Rule

variable {r : Rule} {raw : Value}

structure IsFilled (r : Rule) : Prop extends IsRead r where
  id : r.id ≠ ""
  name : r.name ≠ ""
  category : r.category ≠ ""
  scope : r.scope.isEmpty = true → r.scope = .text ""
  expression : ∃ s, r.expression = .text s
  fixExpression : r.fixExpression.isEmpty = true → r.fixExpression = .null
  compatibilityLevel : r.compatibilityLevel = .null ∨ ∃ n, r.compatibilityLevel = .int n
  aggregate : r.aggregate.isEmpty = true → r.aggregate = .null

theorem textOr_ne_empty {b : Bag} {field : String} {fallback : Value} (filled : fallback.isEmpty = false) :
    textOr b field fallback ≠ "" := by
  rw [textOr]
  apply Value.display_ne_empty_of_isEmpty_eq_false
  rw [Value.orElse]
  split
  · exact filled
  · simp_all

theorem isFilled_of_ofValue (read : ofValue raw = .ok r) : r.IsFilled := by
  have isRead := isRead_of_ofValue read
  obtain ⟨b, -, read⟩ := exists_of_bind_eq_ok read
  simp only [ofBag] at read
  split at read
  · cases read
  · next identified =>
      rw [Bool.not_eq_true] at identified
      obtain ⟨severity, -, read⟩ := exists_of_bind_eq_ok read
      obtain ⟨level, readLevel, read⟩ := exists_of_bind_eq_ok read
      obtain ⟨threshold, -, read⟩ := exists_of_bind_eq_ok read
      cases read
      exact {
        toIsRead := isRead
        id := Value.display_ne_empty_of_isEmpty_eq_false identified
        name := textOr_ne_empty identified
        category := textOr_ne_empty (by decide)
        scope := Value.orElse_of_isEmpty
        expression := ⟨_, rfl⟩
        fixExpression := Value.orElse_of_isEmpty
        compatibilityLevel := eq_null_or_int_of_wholeOrNull (eq_ok_of_inField readLevel)
        aggregate := Value.orElse_of_isEmpty }

def restored (r : Rule) : Rule :=
  { r with
    severity := r.severity.orElse (.int 2)
    aggregate := if r.isThreshold then r.aggregate else .null }

theorem distinct_entries (r : Rule) : (r.entries.map fun e => Bag.fold e.1).Nodup := by
  have distinct : (["ID", "Name", "Category", "Severity", "Description", "Scope", "Expression"] ++ ["FixExpression"] ++
      ["CompatibilityLevel"] ++ ["Threshold", "Aggregate"] |>.map Bag.fold).Nodup := by decide
  refine List.Nodup.sublist ?_ distinct
  simp only [entries, List.map_append]
  refine ((List.Sublist.refl _).append ?_ |>.append ?_).append ?_
  · split <;> simp
  · split <;> simp
  · split <;> simp

theorem get_required {field : String} {v : Value}
    (found : Bag.findFolded (r.entries.take 7) (Bag.fold field) = some v) : (Bag.mk r.entries).get field = v := by
  rw [Bag.get, Bag.find?]
  conv_lhs => rw [← List.take_append_drop 7 r.entries, Bag.findFolded_append, found]
  rfl

theorem get_optional {field : String} (missing : Bag.findFolded (r.entries.take 7) (Bag.fold field) = none) :
    (Bag.mk r.entries).get field = (Bag.mk (r.entries.drop 7)).get field := by
  rw [Bag.get, Bag.find?]
  conv_lhs => rw [← List.take_append_drop 7 r.entries, Bag.findFolded_append, missing]
  rfl

/-- A field that was left out reads as null, which is what a rule that was read has there. -/
theorem get_optional_entries (filled : r.IsFilled) :
    (Bag.mk (r.entries.drop 7)).get "FixExpression" = r.fixExpression ∧
      (Bag.mk (r.entries.drop 7)).get "CompatibilityLevel" = r.compatibilityLevel ∧
      (Bag.mk (r.entries.drop 7)).get "Threshold" = r.threshold ∧
      (Bag.mk (r.entries.drop 7)).get "Aggregate" = if r.isThreshold then r.aggregate else .null := by
  have folded : Bag.fold "FixExpression" = "fixexpression" ∧ Bag.fold "CompatibilityLevel" = "compatibilitylevel" ∧
      Bag.fold "Threshold" = "threshold" ∧ Bag.fold "Aggregate" = "aggregate" := by decide
  have fix : r.hasAutoFix = false → r.fixExpression = .null := by
    intro missing
    exact filled.fixExpression (by simpa [hasAutoFix] using missing)
  have threshold : r.isThreshold = false → r.threshold = .null := by
    intro missing
    rcases filled.threshold with threshold | ⟨n, threshold⟩
    · exact threshold
    · rw [isThreshold, threshold] at missing
      cases missing
  cases fixable : r.hasAutoFix <;> cases limited : r.isThreshold <;>
    rcases filled.compatibilityLevel with level | ⟨n, level⟩ <;>
    simp [entries, Bag.get, Bag.find?, Bag.findFolded, folded, fixable, limited, level, fix, threshold]

theorem ofBag_entries (filled : r.IsFilled) : ofBag ⟨r.entries⟩ = .ok r.restored := by
  have id : (Bag.mk r.entries).get "ID" = .text r.id := get_required (by rfl)
  have name : (Bag.mk r.entries).get "Name" = .text r.name := get_required (by rfl)
  have category : (Bag.mk r.entries).get "Category" = .text r.category := get_required (by rfl)
  have severity : (Bag.mk r.entries).get "Severity" = r.severity := get_required (by rfl)
  have description : (Bag.mk r.entries).get "Description" = .text r.description := get_required (by rfl)
  have scope : (Bag.mk r.entries).get "Scope" = r.scope := get_required (by rfl)
  have expression : (Bag.mk r.entries).get "Expression" = r.expression := get_required (by rfl)
  have optional := get_optional_entries filled
  have fix : (Bag.mk r.entries).get "FixExpression" = r.fixExpression := (get_optional (by rfl)).trans optional.1
  have level : (Bag.mk r.entries).get "CompatibilityLevel" = r.compatibilityLevel :=
    (get_optional (by rfl)).trans optional.2.1
  have threshold : (Bag.mk r.entries).get "Threshold" = r.threshold := (get_optional (by rfl)).trans optional.2.2.1
  have aggregate : (Bag.mk r.entries).get "Aggregate" = r.restored.aggregate :=
    (get_optional (by rfl)).trans optional.2.2.2
  have identified : (Value.text r.id).isEmpty = false := by simpa [Value.isEmpty_text] using filled.id
  have whole : ∀ v, (v = Value.null ∨ ∃ n, v = .int n) → wholeOrNull v = .ok v := by
    rintro v (rfl | ⟨n, rfl⟩) <;> rfl
  have anyText : ∀ s, (Value.text s).orElse (.text "") = .text s := by
    intro s
    apply Value.orElse_eq_self
    simp [Value.isEmpty_text]
  have aggregateFilled : r.restored.aggregate.orElse .null = r.restored.aggregate := by
    apply Value.orElse_eq_self
    rw [restored]
    split
    · exact filled.aggregate
    · exact fun _ => rfl
  obtain ⟨n, severityRead⟩ : ∃ n, r.restored.severity = .int n := by
    obtain ⟨n, severity⟩ := filled.severity
    rw [restored, severity, Value.orElse]
    split
    · exact ⟨2, rfl⟩
    · exact ⟨n, rfl⟩
  have severityAgain : (r.severity.orElse (.int 2)).toInt = .ok n := by
    change r.restored.severity.toInt = .ok n
    rw [severityRead]
    rfl
  obtain ⟨text, expressionText⟩ := filled.expression
  simp only [ofBag, textOr, id, name, category, severity, description, scope, expression, fix, level, threshold, aggregate,
    identified, severityAgain, whole _ filled.compatibilityLevel, whole _ filled.threshold, Value.orElse_text filled.name,
    Value.orElse_text filled.category, anyText, Value.orElse_eq_self filled.scope, Value.orElse_eq_self filled.fixExpression, aggregateFilled,
    expressionText, Value.display_text]
  change Except.ok _ = _
  rw [← severityRead, ← expressionText]
  rfl

theorem ofValue_entries (filled : r.IsFilled) : ofValue (.map r.entries) = .ok r.restored := by
  have read : Bag.ofValue (.map r.entries) = .ok ⟨r.entries⟩ :=
    congrArg Except.ok (Bag.ofEntries_of_distinct r.distinct_entries)
  rw [ofValue, read]
  exact ofBag_entries filled

/-- A rule that was read, written and read again is the rule it was, but for an aggregate that stood beside no
threshold: it is not written. -/
theorem read_back_of_read (read : ofValue raw = .ok r) :
    ∃ back, ofValue (.map r.entries) = .ok back ∧
      back = { r with
        severity := back.severity
        aggregate := if r.isThreshold then r.aggregate else .null } ∧
      (r.severity ≠ .int 0 → back.severity = r.severity) := by
  have filled := isFilled_of_ofValue read
  refine ⟨r.restored, ofValue_entries filled, rfl, ?_⟩
  intro rated
  apply Value.orElse_eq_self
  intro nothing
  obtain ⟨n, severity⟩ := filled.severity
  rw [severity] at nothing rated
  simp only [Value.isEmpty, beq_iff_eq] at nothing
  exact absurd (congrArg Value.int nothing) rated

theorem read_back_of_table_count :
    ∃ r back, ofValue (.map [("id", .text "R"), ("Severity", .text "3"), ("threshold", .float (.finite false 5 (-1))),
        ("Aggregate", .text "TableCount")]) = .ok r ∧ ofValue (.map r.entries) = .ok back ∧
      back = { r with severity := back.severity, aggregate := if r.isThreshold then r.aggregate else .null } ∧
      back.severity = .int 3 ∧ back.threshold = .int 2 ∧ back.aggregate = .text "TableCount" := by
  have read : ofValue (.map [("id", .text "R"), ("Severity", .text "3"), ("threshold", .float (.finite false 5 (-1))),
      ("Aggregate", .text "TableCount")]) = .ok {
        id := "R", name := "R", category := "Uncategorized", severity := .int 3, description := "", scope := .text "",
        threshold := .int 2, aggregate := .text "TableCount" } := by rfl
  obtain ⟨back, again, same, rated⟩ := read_back_of_read read
  have severity : back.severity = .int 3 := rated (by decide)
  refine ⟨_, back, read, again, same, severity, ?_, ?_⟩
  · rw [same]
  · rw [same]
    rfl

/-- An aggregate beside no threshold does not come back. -/
theorem aggregate_lost_of_no_threshold :
    ∃ r, ofValue (.map [("ID", .text "R"), ("Aggregate", .text "TableCount")]) = .ok r ∧
      ofValue (.map r.entries) ≠ .ok r := by
  have read : ofValue (.map [("ID", .text "R"), ("Aggregate", .text "TableCount")]) = .ok {
      id := "R", name := "R", category := "Uncategorized", severity := .int 2, description := "", scope := .text "",
      aggregate := .text "TableCount" } := by rfl
  refine ⟨_, read, ?_⟩
  rw [ofValue_entries (isFilled_of_ofValue read)]
  intro same
  exact absurd (congrArg Rule.aggregate (Except.ok.inj same)) (by decide)

end Rule

end TabularAudit
