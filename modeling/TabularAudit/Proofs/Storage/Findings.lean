import TabularAudit.Proofs.Faults
import TabularAudit.Proofs.Storage.Document
import TabularAudit.Run.Comparison
import TabularAudit.Storage.Findings

/-!
Which files of findings are read, and which of them can be compared. Only the outer shape of a document is refused as
that of a file without findings; a record that cannot be read ends the reading with the fault of its own, and an object
that is a list or a map is read and stops the comparison.
-/

namespace TabularAudit

namespace Finding

variable {raw : Value} {f : Finding} {fs : List Finding} {records : List Value} {fault : Fault}

theorem of?_ofValue (raw : Value) : Fault.of? (ofValue raw) = recordFault? raw := by
  cases raw with
  | map r =>
      calc Fault.of? (ofEntries r)
        _ = (Fault.of? (field r "severity" (.int 1)).toInt).or none := by
            apply Fault.of?_bind
            intro severity _
            rfl
        _ = recordFault? (.map r) := by
            rw [Option.or_none, Value.of?_toInt, field, Value.orElse, recordFault?]
            cases ((Entries.find? r "severity").getD .null).isEmpty <;> rfl
  | _ => rfl

theorem cases_of_recordFault (found : recordFault? raw = some fault) :
    fault = .notRecord ∨ fault = .tooLarge ∨ fault = .badNumeral ∨ fault = .wrongKind := by
  cases raw with
  | map r =>
      rw [recordFault?] at found
      split at found
      · cases found
      · exact .inr (Value.cases_of_integerFault found)
  | _ =>
      cases found
      exact .inl rfl

theorem isAtom_of_ofValue (read : ofValue raw = .ok f) : f.affectedObject.isAtom = namesAtom raw := by
  cases raw with
  | map r =>
      obtain ⟨severity, -, read⟩ := exists_of_bind_eq_ok read
      cases read
      rw [namesAtom]
      change (Value.orElse _ _).isAtom = _
      rw [Value.orElse]
      split
      · next empty =>
          rw [empty]
          rfl
      · next filled =>
          rw [Bool.not_eq_true] at filled
          rw [filled, Bool.false_or]
  | _ => cases read

theorem isKeyed_of_read (read : List.Forall₂ (fun raw f => ofValue raw = .ok f) records fs) :
    Comparison.isKeyed fs = records.all namesAtom := by
  induction read with
  | nil => rfl
  | cons first _ ih =>
      rw [Comparison.isKeyed, List.all_cons, List.all_cons, isAtom_of_ofValue first]
      exact congrArg _ ih

end Finding

namespace Disk

open Document Finding

variable {d : Disk} {p q : Path} {v w : Value} {records : List Value} {content : ByteArray} {fault : Fault}

theorem findings_of_holds (holds : d.Holds p v) : d.findings p =
    match findingRecords? v with
    | some records => records.mapM ofValue
    | none => .error (.snapshot (.notFindings p.text)) := by
  rw [findings, snapshotDocument, document_of_holds holds]
  cases v with
  | map entries =>
      simp only [findingRecords?, bind, Except.bind]
      cases Entries.find? entries "findings" with
      | none => rfl
      | some records => cases records <;> rfl
  | _ => rfl

/-- A file that holds no document is refused if its text is none; any other fault of reading it is left as it is. -/
theorem findings_of_parse_eq_error (file : d.read? p = some content) (failed : parse content = .error fault)
    (other : fault ≠ .notJson) : d.findings p = .error fault := by
  have document : d.snapshotDocument p = .error fault := by
    rw [snapshotDocument, Disk.document, file]
    cases fault with
    | notJson => exact absurd rfl other
    | _ => simp only [failed]
  rw [findings, document]
  rfl

theorem of?_findings (holds : d.Holds p v) (listed : findingRecords? v = some records) :
    Fault.of? (d.findings p) = records.findSome? recordFault? := by
  rw [findings_of_holds holds, listed]
  simp only [Fault.of?_mapM, of?_ofValue]

theorem forall₂_of_findings {fs : List Finding} (holds : d.Holds p v) (read : d.findings p = .ok fs) :
    ∃ records, findingRecords? v = some records ∧ List.Forall₂ (fun raw f => ofValue raw = .ok f) records fs := by
  rw [findings_of_holds holds] at read
  cases listed : findingRecords? v with
  | none =>
      rw [listed] at read
      cases read
  | some records =>
      rw [listed] at read
      exact ⟨records, rfl, mapM_eq_ok_iff.1 read⟩

theorem findings_eq_snapshot_iff (holds : d.Holds p v) :
    (∃ cause, d.findings p = .error (.snapshot cause)) ↔ findingRecords? v = none := by
  cases listed : findingRecords? v with
  | none =>
      rw [findings_of_holds holds, listed]
      exact iff_of_true ⟨_, rfl⟩ rfl
  | some records =>
      refine iff_of_false ?_ nofun
      rintro ⟨cause, refused⟩
      rw [← Fault.of?_eq_some_iff, of?_findings holds listed] at refused
      obtain ⟨raw, -, found⟩ := List.exists_of_findSome?_eq_some refused
      rcases cases_of_recordFault found with same | same | same | same <;> cases same

/-- Findings are read from a file that holds a document exactly if the document lists records and none of them has a
fault, and then there is one for each record, in their order. A document that lists no records is refused as such; any
other fault is that of the first record that has one. A file that is not decoded, or holds a numeral of too many digits,
ends the reading with that fault. Findings of two files are compared exactly if all their objects can stand in keys. -/
theorem findings_of_documents (now : d.Holds p v) (before : d.Holds q w) :
    ((∃ fs, d.findings p = .ok fs) ↔
        ∃ records, findingRecords? v = some records ∧ ∀ raw ∈ records, recordFault? raw = none) ∧
      (∀ fs, d.findings p = .ok fs → ∃ records, findingRecords? v = some records ∧
        List.Forall₂ (fun raw f => ofValue raw = .ok f) records fs) ∧
      ((∃ cause, d.findings p = .error (.snapshot cause)) ↔ findingRecords? v = none) ∧
      (∀ records fault, findingRecords? v = some records →
        (d.findings p = .error fault ↔ records.findSome? recordFault? = some fault)) ∧
      (∀ path content fault, d.read? path = some content → parse content = .error fault → fault ≠ .notJson →
        d.findings path = .error fault) ∧
      ∀ fs gs, d.findings p = .ok fs → d.findings q = .ok gs →
        ∃ records records', findingRecords? v = some records ∧ findingRecords? w = some records' ∧
          ((∃ c, Comparison.ofRuns fs gs = .ok c) ↔ ∀ raw ∈ records ++ records', namesAtom raw = true) ∧
          (Comparison.ofRuns fs gs = .error .wrongKind ↔ ∃ raw ∈ records ++ records', namesAtom raw = false) := by
  have whole : ∀ records, findingRecords? v = some records →
      ((∃ fs, d.findings p = .ok fs) ↔ ∀ raw ∈ records, recordFault? raw = none) := by
    intro records listed
    rw [← Fault.of?_eq_none_iff, of?_findings now listed]
    exact List.findSome?_eq_none_iff
  refine ⟨?_, fun fs read => forall₂_of_findings now read, findings_eq_snapshot_iff now, ?_, ?_, ?_⟩
  · constructor
    · rintro ⟨fs, read⟩
      obtain ⟨records, listed, -⟩ := forall₂_of_findings now read
      exact ⟨records, listed, (whole records listed).1 ⟨fs, read⟩⟩
    · rintro ⟨records, listed, sound⟩
      exact (whole records listed).2 sound
  · intro records fault listed
    rw [← Fault.of?_eq_some_iff, of?_findings now listed]
  · intro path content fault file failed other
    exact findings_of_parse_eq_error file failed other
  · intro fs gs read read'
    obtain ⟨records, listed, one⟩ := forall₂_of_findings now read
    obtain ⟨records', listed', one'⟩ := forall₂_of_findings before read'
    refine ⟨records, records', listed, listed', ?_⟩
    have keyed : (Comparison.isKeyed fs && Comparison.isKeyed gs) = (records ++ records').all namesAtom := by
      rw [isKeyed_of_read one, isKeyed_of_read one', List.all_append]
    have odd : (records ++ records').all namesAtom = false ↔ ∃ raw ∈ records ++ records', namesAtom raw = false := by
      simp only [List.all_eq_false, Bool.not_eq_true]
    rw [Comparison.ofRuns, keyed, ← List.all_eq_true, ← odd]
    cases (records ++ records').all namesAtom <;> simp

def ofText (name text : String) : Disk := ⟨[(⟨"", [name]⟩, .file text.toUTF8)]⟩

theorem holds_ofText (name : String) {text : String} (parsed : parse text.toUTF8 = .ok v) :
    (ofText name text).Holds ⟨"", [name]⟩ v := by
  refine ⟨text.toUTF8, ?_, parsed⟩
  simp [read?, entry?, spelled?, ofText]

/-- A record names its object by a list. It is read, and cannot be compared with itself. -/
theorem findings_of_documents_of_listed_object :
    let d := ofText "f.json" "[\x7b\"ruleId\": \"R\", \"affectedObject\": [\"Sales\"]\x7d]"
    ∃ fs, d.findings ⟨"", ["f.json"]⟩ = .ok fs ∧ Comparison.ofRuns fs fs = .error .wrongKind := by
  intro d
  have parsed : parse "[\x7b\"ruleId\": \"R\", \"affectedObject\": [\"Sales\"]\x7d]".toUTF8 =
      .ok (.list [.map [("ruleId", .text "R"), ("affectedObject", .list [.text "Sales"])]]) :=
    (parse_toUTF8 (by decide) _).trans (by decide +kernel)
  have holds := holds_ofText "f.json" parsed
  obtain ⟨read, -, -, -, -, compared⟩ := findings_of_documents holds holds
  obtain ⟨fs, found⟩ := read.2 ⟨_, rfl, by decide⟩
  obtain ⟨records, records', listed, listed', -, stopped⟩ := compared fs fs found found
  cases listed
  cases listed'
  exact ⟨fs, found, stopped.2 ⟨_, List.mem_cons_self, rfl⟩⟩

/-- A severity that is given by its word is no fault of the file, but one of a numeral. -/
theorem findings_of_severity_word :
    (ofText "f.json" "[\x7b\"ruleId\": \"R\", \"severity\": \"high\"\x7d]").findings ⟨"", ["f.json"]⟩ =
      .error .badNumeral := by
  have parsed : parse "[\x7b\"ruleId\": \"R\", \"severity\": \"high\"\x7d]".toUTF8 =
      .ok (.list [.map [("ruleId", .text "R"), ("severity", .text "high")]]) :=
    (parse_toUTF8 (by decide) _).trans (by decide +kernel)
  rw [← Fault.of?_eq_some_iff, of?_findings (holds_ofText "f.json" parsed) rfl]
  decide

end Disk

end TabularAudit
