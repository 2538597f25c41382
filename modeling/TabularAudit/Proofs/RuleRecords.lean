import TabularAudit.Json.Reader
import TabularAudit.Proofs.Faults
import TabularAudit.Proofs.Rule
import TabularAudit.Rule.Given

/-!
Which records are rules. A record is read if it has an id and the numbers that it gives are integers. One that has no
id, or gives what is no number, is reported as a fault of the catalog; an infinity ends the reading with a fault of its
own.
-/

namespace TabularAudit

namespace Rule

variable {raw : Entries} {fault : Fault}

theorem get_ofEntries (raw : Entries) (name : String) : (Bag.ofEntries raw).get name = given raw name := by
  rw [Bag.get, Bag.find?_ofEntries, given]

/-- What becomes of a fault in a field of the rule with this id. -/
def reported (id : Value) : Fault → Fault
  | .wrongKind | .badNumeral => .catalog (.malformedField id.literal)
  | fault => fault

theorem of?_inField {α : Type} (id : Value) (x : Except Fault α) :
    Fault.of? (inField id x) = (Fault.of? x).map (reported id) := by
  cases x with
  | ok a => rfl
  | error fault => cases fault <;> rfl

theorem of?_severity (v : Value) :
    Fault.of? (v.orElse (.int 2)).toInt = ([v].filter fun v => !v.isEmpty).findSome? Value.integerFault? := by
  rw [Value.of?_toInt, Value.orElse]
  cases empty : v.isEmpty with
  | true => simp [empty, Value.integerFault?]
  | false => simp [empty]

theorem of?_wholeOrNull (v : Value) :
    Fault.of? (wholeOrNull v) = ([v].filter fun v => v ≠ .null).findSome? Value.integerFault? := by
  by_cases null : v = .null
  · subst null
    rfl
  · have given : wholeOrNull v = v.toInt.map .int := by
      cases v with
      | null => exact absurd rfl null
      | _ => rfl
    rw [given, Fault.of?_map, Value.of?_toInt]
    simp [null]

theorem numberFault?_eq (raw : Entries) : numberFault? raw =
    (([given raw "Severity"].filter fun v => !v.isEmpty).findSome? Value.integerFault?).or
      ((([given raw "CompatibilityLevel"].filter fun v => v ≠ .null).findSome? Value.integerFault?).or
        (([given raw "Threshold"].filter fun v => v ≠ .null).findSome? Value.integerFault?)) := by
  have apart : [given raw "CompatibilityLevel", given raw "Threshold"] =
      [given raw "CompatibilityLevel"] ++ [given raw "Threshold"] := rfl
  rw [numberFault?, numbers, apart, List.filter_append, List.findSome?_append, List.findSome?_append]

theorem of?_ofValue (raw : Entries) : Fault.of? (ofValue (.map raw)) =
    if (given raw "ID").isEmpty then some (.catalog (.withoutId (given raw "Name").literal))
    else (numberFault? raw).map (reported (given raw "ID")) := by
  have bag : ofValue (.map raw) = ofBag (Bag.ofEntries raw) := rfl
  rw [bag, ofBag]
  simp only [get_ofEntries]
  split
  · rfl
  · calc _
      _ = (Fault.of? (inField (given raw "ID") ((given raw "Severity").orElse (.int 2)).toInt)).or
          ((Fault.of? (inField (given raw "ID") (wholeOrNull (given raw "CompatibilityLevel")))).or
            ((Fault.of? (inField (given raw "ID") (wholeOrNull (given raw "Threshold")))).or none)) := by
          apply Fault.of?_bind
          intro severity _
          apply Fault.of?_bind
          intro level _
          apply Fault.of?_bind
          intro threshold _
          rfl
      _ = (numberFault? raw).map (reported (given raw "ID")) := by
          rw [of?_inField, of?_inField, of?_inField, of?_severity, of?_wholeOrNull, of?_wholeOrNull, Option.or_none,
            ← Option.map_or, ← Option.map_or, numberFault?_eq]

/-- A record is read exactly if it has an id and every number that it gives is an integer; the rule then has an id, a
name and a whole severity. What is refused is refused as a fault of the catalog, unless the first number that is not
read is an infinity. -/
theorem record_is_read_or_refused (raw : Entries) :
    let id := given raw "ID"
    ((∃ r, ofValue (.map raw) = .ok r) ↔ id.isEmpty = false ∧ ∀ v ∈ numbers raw, v.integerFault? = none) ∧
      (∀ r, ofValue (.map raw) = .ok r → r.id ≠ "" ∧ r.name ≠ "" ∧ ∃ n, r.severity = .int n) ∧
      (ofValue (.map raw) = .error (.catalog (.withoutId (given raw "Name").literal)) ↔ id.isEmpty = true) ∧
      (ofValue (.map raw) = .error (.catalog (.malformedField id.literal)) ↔
        id.isEmpty = false ∧ ∃ fault, numberFault? raw = some fault ∧ fault ≠ .tooLarge) ∧
      (ofValue (.map raw) = .error .tooLarge ↔ id.isEmpty = false ∧ numberFault? raw = some .tooLarge) ∧
      ∀ fault, ofValue (.map raw) = .error fault → (∃ cause, fault = .catalog cause) ∨ fault = .tooLarge := by
  intro id
  have whole : numberFault? raw = none ↔ ∀ v ∈ numbers raw, v.integerFault? = none := List.findSome?_eq_none_iff
  have kinds : ∀ fault, numberFault? raw = some fault → fault = .tooLarge ∨ fault = .badNumeral ∨ fault = .wrongKind := by
    intro fault found
    obtain ⟨v, -, failed⟩ := List.exists_of_findSome?_eq_some found
    exact Value.cases_of_integerFault failed
  have read : ∀ r, ofValue (.map raw) = .ok r → r.id ≠ "" ∧ r.name ≠ "" ∧ ∃ n, r.severity = .int n := by
    intro r ok
    have filled := isFilled_of_ofValue ok
    exact ⟨filled.id, filled.name, filled.severity⟩
  refine ⟨?_, read, ?_⟩
  · rw [← Fault.of?_eq_none_iff, of?_ofValue, ← whole]
    cases id.isEmpty <;> simp
  simp only [← Fault.of?_eq_some_iff, of?_ofValue]
  cases (given raw "ID").isEmpty with
  | true => simp
  | false =>
      cases found : numberFault? raw with
      | none => simp
      | some fault =>
          rcases kinds fault found with rfl | rfl | rfl <;> simp [reported, id]

/-- The numeral is read, and is greater than any float. -/
theorem infinite_severity_escapes :
    ∃ raw, Json.read "\x7b\"ID\": \"R\", \"Severity\": 1e999\x7d" = .ok (.map raw) ∧
      ofValue (.map raw) = .error .tooLarge := by
  refine ⟨[("ID", .text "R"), ("Severity", .float (.infinite false))], ?_, ?_⟩
  · decide +kernel
  · decide +kernel

end Rule

end TabularAudit
