import TabularAudit.Proofs.Report.Groups
import TabularAudit.Proofs.Snapshot
import TabularAudit.Report.Table

/-!
The tables that a page makes of the records of findings are those of the findings themselves, and none of them fails.
-/

namespace TabularAudit

namespace Report

theorem severityWord_record (f : Finding) :
    severityWord (member? f.record "severity") = .ok (severityName f.severity) := by
  have stored : member? f.record "severity" = some (.int f.severity) := rfl
  have whole : ((Value.int f.severity).orElse (.int 0)).toInt = .ok f.severity := by
    rw [Value.orElse]
    split
    · next zero =>
        have nothing : f.severity = 0 := by simpa [Value.isEmpty] using zero
        rw [nothing]
        rfl
    · rfl
  rw [severityWord, stored, Option.getD_some, whole]
  simp only [bind, Except.bind]
  split <;> simp [severityName, pure, Except.pure, *]

theorem findingRow_record (f : Finding) : findingRow f.record = .ok (rowOf f) := by
  have flag : isSet (member? f.record "hasAutoFix") = f.hasAutoFix := by
    have stored : member? f.record "hasAutoFix" = some (.bool f.hasAutoFix) := rfl
    rw [stored]
    cases f.hasAutoFix <;> rfl
  rw [findingRow, severityWord_record, flag]
  rfl

theorem groupTable_records (group : String × List Finding) :
    groupTable ⟨.text group.1, group.2.map Finding.record⟩ = .ok (tableOf group) := by
  have rows : (group.2.map Finding.record).mapM findingRow = .ok (group.2.map rowOf) := by
    rw [List.mapM_map]
    exact mapM_eq_ok_map fun f _ => findingRow_record f
  rw [groupTable, rows]
  simp only [bind, Except.bind]
  rw [List.length_map]
  rfl

theorem groupTables_records (groups : List (String × List Finding)) :
    ∃ rest, groupTables (groups.map fun group => ⟨.text group.1, group.2.map Finding.record⟩) =
      .ok (groups.flatMap tableOf ++ rest) ∧ rowStart ∉ rest := by
  cases groups with
  | nil => exact ⟨_, rfl, by decide⟩
  | cons group groups =>
      refine ⟨[], ?_, List.not_mem_nil⟩
      have tables : ((group :: groups).map fun group => ⟨.text group.1, group.2.map Finding.record⟩).mapM groupTable =
          .ok ((group :: groups).map tableOf) := by
        rw [List.mapM_map]
        exact mapM_eq_ok_map fun group _ => groupTable_records group
      rw [groupTables, tables, List.append_nil]
      rfl

end Report

end TabularAudit
