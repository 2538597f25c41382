import TabularAudit.Proofs.Audit
import TabularAudit.Proofs.Report.Page

/-!
Which results an audit leaves behind. Catalog and snapshot are read before anything is written; the findings of an
earlier audit are not, so that an audit that cannot read them leaves its own findings and summary.
-/

namespace TabularAudit

def Fault.isOfInput : Fault → Bool
  | catalog _ | snapshot _ => true
  | _ => false

namespace Effect

variable {α β : Type} {d e : Disk} {f : α → Effect β} {result : Except Fault β}

theorem cases_of_run_look_bind {g : Disk → Except Fault α} (ran : (look g >>= f).run.run d = (result, e)) :
    (∃ fault, g d = .error fault ∧ result = .error fault ∧ e = d) ∨
      ∃ a, g d = .ok a ∧ (f a).run.run d = (result, e) := by
  rw [run_bind, run_look] at ran
  cases found : g d with
  | error fault =>
      rw [found] at ran
      cases ran
      exact .inl ⟨fault, rfl, rfl, rfl⟩
  | ok a =>
      rw [found] at ran
      exact .inr ⟨a, rfl, ran⟩

theorem cases_of_run_ofResult_bind {r : Except Fault α} (ran : (ofResult r >>= f).run.run d = (result, e)) :
    (∃ fault, r = .error fault ∧ result = .error fault ∧ e = d) ∨
      ∃ a, r = .ok a ∧ (f a).run.run d = (result, e) :=
  cases_of_run_look_bind ran

theorem cases_of_run_change_bind {g : Disk → Except Fault Disk} {f : Unit → Effect β}
    (ran : (change g >>= f).run.run d = (result, e)) :
    (∃ fault, g d = .error fault ∧ result = .error fault ∧ e = d) ∨
      ∃ m, g d = .ok m ∧ (f ()).run.run m = (result, e) := by
  rw [run_bind, run_change] at ran
  cases made : g d with
  | error fault =>
      rw [made] at ran
      cases ran
      exact .inl ⟨fault, rfl, rfl, rfl⟩
  | ok m =>
      rw [made] at ran
      exact .inr ⟨m, rfl, ran⟩

end Effect

namespace Disk

variable {d : Disk} {fault : Fault}

theorem isOfInput_of_makeDirectories {ps : List Path} (failed : d.makeDirectories ps = .error fault) :
    fault.isOfInput = false := by
  induction ps generalizing d with
  | nil => cases failed
  | cons p ps ih =>
      rw [makeDirectories] at failed
      split at failed
      · exact ih failed
      · cases failed
        split <;> rfl
      · exact ih failed

theorem isOfInput_of_write {p : Path} {text : String} (failed : d.write p text = .error fault) :
    fault.isOfInput = false := by
  rw [write] at failed
  split at failed <;> cases failed <;> rfl

end Disk

namespace Audit

def resultNames : List String := ["findings.json", "summary.json", "comparison.json", "report.html"]

/-- Of the results of an audit, its directory holds those of these names and no others. -/
def Request.Leaves (q : Request) (names : List String) (d : Disk) : Prop :=
  ∀ name ∈ resultNames, (d.read? (q.out.child name)).isSome = true ↔ name ∈ names

def Request.Refuses (q : Request) (d : Disk) (fault : Fault) : Prop :=
  ∃ p r e, q.previous = some p ∧ (record q).run.run d = (.ok r, e) ∧ e.findings p = .error fault

variable {q : Request} {d e m : Disk} {r : Record} {names : List String} {fault : Fault}

theorem leaves_write {name text : String} (left : q.Leaves names d)
    (written : d.write (q.out.child name) text = .ok e) : q.Leaves (names ++ [name]) e := by
  intro other member
  by_cases same : other = name
  · subst same
    rw [Disk.read?_write_self written]
    exact iff_of_true rfl (by simp)
  · have down : other ≠ ".." := by
      rintro rfl
      revert member
      decide
    rw [Disk.read?_write_child written down same, left other member, List.mem_append,
      List.mem_singleton, or_iff_left same]

/-- A fault of an input is met before anything is written. -/
theorem makeDirectory_of_record_eq_error (failed : (record q).run.run d = (.error fault, e))
    (input : fault.isOfInput = true) : d.makeDirectory q.out = .ok e := by
  rcases Effect.cases_of_run_change_bind failed with ⟨other, directory, same, -⟩ | ⟨made, directory, failed⟩
  · cases same
    rw [Disk.isOfInput_of_makeDirectories directory] at input
    cases input
  rcases Effect.cases_of_run_look_bind failed with ⟨-, -, -, rfl⟩ | ⟨catalog, -, failed⟩
  · exact directory
  rcases Effect.cases_of_run_look_bind failed with ⟨-, -, -, rfl⟩ | ⟨snapshot, -, failed⟩
  · exact directory
  rcases Effect.cases_of_run_ofResult_bind failed with ⟨-, -, -, rfl⟩ | ⟨objects, -, failed⟩
  · exact directory
  rcases Effect.cases_of_run_ofResult_bind failed with ⟨-, -, -, rfl⟩ | ⟨bundle, -, failed⟩
  · exact directory
  rcases Effect.cases_of_run_change_bind failed with ⟨other, saved, same, -⟩ | ⟨written, -, failed⟩
  · cases same
    rw [Disk.isOfInput_of_write saved] at input
    cases input
  rcases Effect.cases_of_run_change_bind failed with ⟨other, summed, same, -⟩ | ⟨last, -, done⟩
  · cases same
    rw [Disk.isOfInput_of_write summed] at input
    cases input
  · cases done

theorem leaves_record (fresh : ∀ made, d.makeDirectory q.out = .ok made → q.Leaves [] made)
    (ok : (record q).run.run d = (.ok r, e)) : q.Leaves ["findings.json", "summary.json"] e := by
  obtain ⟨made, written, objects, directory, -, -, -, -, -, saved, summed⟩ := record_eq_ok ok
  exact leaves_write (leaves_write (fresh made directory) saved) summed

theorem html_document (model : String) (b : Bundle) (c : Option Comparison) :
    ∃ page, Report.html (document model b) (comparisonValue c) = .ok page := by
  obtain ⟨m, -, made, -, -⟩ := Report.samePieces_page (rfl : Report.Shape.of b c = Report.Shape.of b c) model model
  exact ⟨m.text, by rw [Report.html, made]; rfl⟩

theorem findings_of_compareWith_eq_error {run : Run} (failed : compareWith d run q.previous = .error fault)
    (input : fault.isOfInput = true) : ∃ p, q.previous = some p ∧ d.findings p = .error fault := by
  cases given : q.previous with
  | none =>
      rw [given] at failed
      cases failed
  | some p =>
      refine ⟨p, rfl, ?_⟩
      rw [given, compareWith] at failed
      cases read : d.findings p with
      | error other =>
          rw [read] at failed
          cases failed
          rfl
      | ok previous =>
          rw [read] at failed
          change (Comparison.ofRuns run.findings previous).map some = _ at failed
          rw [Comparison.ofRuns] at failed
          split at failed
          · cases failed
          · cases failed
            cases input

theorem isSome_of_compareWith {run : Run} {comparison : Option Comparison}
    (compared : compareWith d run q.previous = .ok comparison) : comparison.isSome = q.previous.isSome := by
  cases given : q.previous with
  | none =>
      rw [given] at compared
      cases compared
      rfl
  | some p =>
      rw [given] at compared
      obtain ⟨previous, -, compared⟩ := exists_of_bind_eq_ok compared
      obtain ⟨c, -, rfl⟩ := exists_of_map_eq_ok compared
      rfl

theorem cases_of_page {comparison : Option Comparison} {result : Except Fault Outcome} (left : q.Leaves names d)
    (ran : (do
      let html ← Effect.ofResult (Report.html (document r.model r.bundle) (comparisonValue comparison))
      Effect.write (q.out.child "report.html") html
      return (⟨r.model, r.bundle, comparison⟩ : Outcome) : Effect Outcome).run.run d = (result, e)) :
    (∃ fault, result = .error fault ∧ fault.isOfInput = false) ∨
      (∃ o, result = .ok o) ∧ q.Leaves (names ++ ["report.html"]) e := by
  obtain ⟨page, made⟩ := html_document r.model r.bundle comparison
  rw [Effect.run_ofResult_bind made] at ran
  rcases Effect.cases_of_run_change_bind ran with ⟨fault, failed, same, -⟩ | ⟨written, saved, done⟩
  · exact .inl ⟨fault, same, Disk.isOfInput_of_write failed⟩
  · cases done
    exact .inr ⟨⟨_, rfl⟩, leaves_write left saved⟩

theorem cases_of_publish {result : Except Fault Outcome} (left : q.Leaves names d)
    (ran : (publish q r).run.run d = (result, e)) :
    (∃ p fault, q.previous = some p ∧ d.findings p = .error fault ∧ result = .error fault ∧ e = d) ∨
      (∃ fault, result = .error fault ∧ fault.isOfInput = false) ∨
      (∃ o, result = .ok o) ∧
        q.Leaves (names ++ (if q.previous.isSome then ["comparison.json"] else []) ++ ["report.html"]) e := by
  rw [publish] at ran
  rcases Effect.cases_of_run_look_bind ran with ⟨fault, failed, rfl, rfl⟩ | ⟨comparison, compared, ran⟩
  · cases input : fault.isOfInput with
    | false => exact .inr (.inl ⟨fault, rfl, input⟩)
    | true =>
        obtain ⟨p, given, refused⟩ := findings_of_compareWith_eq_error failed input
        exact .inl ⟨p, fault, given, refused, rfl, rfl⟩
  · rw [← isSome_of_compareWith compared]
    cases comparison with
    | none =>
        rw [Option.isSome_none, if_neg Bool.false_ne_true, List.append_nil]
        exact .inr (cases_of_page left ran)
    | some c =>
        rcases Effect.cases_of_run_change_bind ran with ⟨fault, failed, same, -⟩ | ⟨written, saved, ran⟩
        · exact .inr (.inl ⟨fault, same, Disk.isOfInput_of_write failed⟩)
        · exact .inr (cases_of_page (leaves_write left saved) ran)

theorem perform_of_refused {p : Path} (given : q.previous = some p) (ok : (record q).run.run d = (.ok r, e))
    (refused : e.findings p = .error fault) : (perform q).run.run d = (.error fault, e) := by
  rw [perform, Effect.run_bind_of_eq_ok ok, publish, given, Effect.run_bind, Effect.run_look, compareWith, refused]
  rfl

theorem cases_of_perform {result : Except Fault Outcome} (done : (perform q).run.run d = (result, e)) :
    (∃ fault, (record q).run.run d = (.error fault, e) ∧ result = .error fault) ∨
      ∃ r m, (record q).run.run d = (.ok r, m) ∧ (publish q r).run.run m = (result, e) := by
  rw [perform, Effect.run_bind] at done
  split at done
  · next r m ok => exact .inr ⟨r, m, ok, done⟩
  · next fault m failed =>
      cases done
      exact .inl ⟨fault, failed, rfl⟩

/-- An audit that ends leaves all its results, and the summary is that of the findings file. One that fails with a fault
of an input leaves none, unless it is the file of the earlier findings that it refuses: these are looked at when its own
findings and summary are written already. -/
theorem results_of_audit {result : Except Fault Outcome}
    (fresh : ∀ made, d.makeDirectory q.out = .ok made → q.Leaves [] made)
    (done : (perform q).run.run d = (result, e)) :
    (∀ fault, result = .error fault → fault.isOfInput = true → ¬ q.Refuses d fault → q.Leaves [] e) ∧
    (∀ fault, q.Refuses d fault → result = .error fault ∧ q.Leaves ["findings.json", "summary.json"] e) ∧
    (∀ o, result = .ok o →
      q.Leaves (["findings.json", "summary.json"] ++ (if q.previous.isSome then ["comparison.json"] else []) ++
        ["report.html"]) e ∧
      ∃ document summary, e.read? (q.out.child "findings.json") = some (Json.text (.map document)).toUTF8 ∧
        e.read? (q.out.child "summary.json") = some (Json.text summary).toUTF8 ∧
        Entries.find? document "summary" = some summary) := by
  refine ⟨?_, ?_, ?_⟩
  · rintro fault rfl input accepted
    rcases cases_of_perform done with ⟨other, failed, same⟩ | ⟨r, m, ok, published⟩
    · cases same
      exact fresh e (makeDirectory_of_record_eq_error failed input)
    · rcases cases_of_publish (leaves_record fresh ok) published with
        ⟨p, other, given, refused, same, -⟩ | ⟨other, same, other'⟩ | ⟨⟨o, ended⟩, -⟩
      · cases same
        exact absurd ⟨p, r, m, given, ok, refused⟩ accepted
      · cases same
        rw [other'] at input
        cases input
      · cases ended
  · rintro fault ⟨p, r, m, given, ok, refused⟩
    obtain ⟨rfl, rfl⟩ := Prod.mk.inj (done.symm.trans (perform_of_refused given ok refused))
    exact ⟨rfl, leaves_record fresh ok⟩
  · rintro o rfl
    rcases cases_of_perform done with ⟨fault, -, failed⟩ | ⟨r, m, ok, published⟩
    · cases failed
    · rcases cases_of_publish (leaves_record fresh ok) published with
        ⟨p, fault, -, -, failed, -⟩ | ⟨fault, failed, -⟩ | ⟨-, left⟩
      · cases failed
      · cases failed
      · have findings := read?_perform ok
        have summary := read?_summary ok
        rw [done] at findings summary
        exact ⟨left, _, _, findings, summary, rfl⟩

/-! A rule catalog is given as the findings of an earlier audit. -/

def notFindings : Request := atDesk "before.json" "second" (some ⟨"", ["rules.json"]⟩)

theorem refuses_rules : notFindings.Refuses (desk none) (.snapshot (.notFindings "rules.json")) := by
  obtain ⟨r, e, ok, -⟩ := record_without_tables (some ⟨"", ["rules.json"]⟩) (.inr rfl)
  have apart : ∀ name ∈ ["findings.json", "summary.json"],
      e.leads ⟨"", ["rules.json"]⟩ ≠ e.leads (Path.child ⟨"", ["second"]⟩ name) := by
    intro name member
    rw [Disk.leads_of_plain (by simp [Disk.IsPlain])]
    rcases List.mem_pair.1 member with rfl | rfl <;>
      rw [Disk.leads_of_plain (by simp [Path.child, Disk.IsPlain])] <;> decide
  have there : (desk none).read? ⟨"", ["rules.json"]⟩ = some (Json.text (.map catalogFile)).toUTF8 := rfl
  obtain ⟨catalogRead, -⟩ := readBack_desk
  refine ⟨_, r, e, rfl, ok, ?_⟩
  rw [Disk.findings, Disk.snapshotDocument,
    Disk.document_of_holds (Disk.holds_of_text (read?_record ok there apart) ((Document.read_text _).trans catalogRead))]
  rfl

theorem leaves_nothing_at_desk : ∀ made, (desk none).makeDirectory notFindings.out = .ok made →
    notFindings.Leaves [] made := by
  intro made directory
  have same : (desk none).makeDirectory notFindings.out = .ok (desk none) := rfl
  cases same.symm.trans directory
  have free : ∀ name ∈ resultNames, (Disk.read? (desk none) (notFindings.out.child name)).isSome = false := by decide
  intro name member
  simp [free name member]

theorem results_of_audit_given_rules :
    ∃ e, (perform notFindings).run.run (desk none) = (.error (.snapshot (.notFindings "rules.json")), e) ∧
      notFindings.Leaves ["findings.json", "summary.json"] e := by
  cases done : (perform notFindings).run.run (desk none) with
  | mk result e =>
      obtain ⟨-, refused, -⟩ := results_of_audit leaves_nothing_at_desk done
      obtain ⟨failed, left⟩ := refused _ refuses_rules
      exact ⟨e, by rw [failed], left⟩

/-- A fault of an input does not always come before the first result. -/
theorem results_left_by_failed_audit :
    ¬ ∀ (q : Request) (d e : Disk) (fault : Fault),
      (∀ made, d.makeDirectory q.out = .ok made → q.Leaves [] made) →
      (perform q).run.run d = (.error fault, e) → fault.isOfInput = true → q.Leaves [] e := by
  intro claim
  obtain ⟨p, r, e, given, ok, refused⟩ := refuses_rules
  have left := leaves_record leaves_nothing_at_desk ok
  have nothing := claim _ _ _ _ leaves_nothing_at_desk (perform_of_refused given ok refused) rfl
  have there := (left "findings.json" (by decide)).2 (by decide)
  exact absurd ((nothing "findings.json" (by decide)).1 there) (by decide)

end Audit

end TabularAudit
