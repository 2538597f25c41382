import TabularAudit.Audit
import TabularAudit.Proofs.Run.Comparison
import TabularAudit.Proofs.Run.Summary
import TabularAudit.Proofs.Storage.Document

/-!
Audits that are compared with an earlier one. What an audit saves is what a later audit reads, as long as it
has not written over it.
-/

namespace TabularAudit

namespace Comparison

variable {current previous : List Finding}

theorem occursIn_map_restored (f : Finding) (fs : List Finding) :
    occursIn f (fs.map Finding.restored) = occursIn f fs := by
  rw [occursIn, occursIn, List.any_map]
  rfl

theorem split_restored (current previous : List Finding) :
    split current (previous.map Finding.restored) =
      { split current previous with resolved := (split current previous).resolved.map Finding.restored } := by
  have others : (fun f => !occursIn f current) ∘ Finding.restored = fun f => !occursIn f current := rfl
  simp only [split, occursIn_map_restored, List.filter_map, others]

theorem entries_split_restored (current previous : List Finding) :
    (split current (previous.map Finding.restored)).entries = (split current previous).entries := by
  have briefs_restored : ∀ fs : List Finding, briefs (fs.map Finding.restored) = briefs fs := by
    intro fs
    rw [briefs, briefs, List.map_map]
    rfl
  rw [split_restored, entries, entries, briefs_restored, List.length_map]

theorem namesObject_restored (named : ∀ f ∈ previous, f.NamesObject) :
    ∀ f ∈ previous.map Finding.restored, f.NamesObject := by
  intro f member
  obtain ⟨g, inside, rfl⟩ := List.mem_map.1 member
  exact named g inside

theorem split_of_perm (named : ∀ f ∈ current, f.NamesObject) (perm : previous.Perm current) :
    split current previous = { recurring := current } := by
  have member : ∀ f ∈ current, occursIn f previous = true := by
    intro f here
    rw [occursIn_eq (named f here) fun g there => named g (perm.mem_iff.1 there)]
    exact decide_eq_true (List.mem_map_of_mem (perm.mem_iff.2 here))
  have member' : ∀ f ∈ previous, occursIn f current = true := by
    intro f there
    have here := perm.mem_iff.1 there
    rw [occursIn_eq (named f here) named]
    exact decide_eq_true (List.mem_map_of_mem here)
  have resolved : previous.filter (fun f => !occursIn f current) = [] := by
    apply List.filter_eq_nil_iff.2
    intro f there
    simp [member' f there]
  have fresh : current.filter (fun f => !occursIn f previous) = [] := by
    apply List.filter_eq_nil_iff.2
    intro f here
    simp [member f here]
  rw [split, resolved, fresh, List.filter_eq_self.2 member]

end Comparison

namespace Audit

variable {q : Request} {d e : Disk} {r : Record}

theorem record_eq_ok (ok : (record q).run.run d = (.ok r, e)) :
    ∃ made written objects, d.makeDirectory q.out = .ok made ∧ catalogFor made q.rules = .ok r.catalog ∧
      made.snapshot q.metadata = .ok r.snapshot ∧ Snapshot.objects r.snapshot = .ok objects ∧
      r.run = Run.ofRules r.catalog.rules objects ∧ Bundle.ofRun r.run = .ok r.bundle ∧
      made.write (q.out.child "findings.json") (Json.text (document r.model r.bundle)) = .ok written ∧
      written.write (q.out.child "summary.json") (Json.text (.map r.bundle.summary.entries)) = .ok e := by
  obtain ⟨made, directory, ok⟩ := Effect.exists_of_run_change_bind_eq_ok ok
  obtain ⟨catalog, readCatalog, ok⟩ := Effect.exists_of_run_look_bind_eq_ok ok
  obtain ⟨snapshot, readSnapshot, ok⟩ := Effect.exists_of_run_look_bind_eq_ok ok
  obtain ⟨objects, accepted, ok⟩ := Effect.exists_of_run_ofResult_bind_eq_ok ok
  obtain ⟨bundle, bundled, ok⟩ := Effect.exists_of_run_ofResult_bind_eq_ok ok
  obtain ⟨written, saved, ok⟩ := Effect.exists_of_run_change_bind_eq_ok ok
  obtain ⟨last, summed, ok⟩ := Effect.exists_of_run_change_bind_eq_ok ok
  cases ok
  exact ⟨made, written, objects, directory, readCatalog, readSnapshot, accepted, rfl, bundled, saved, summed⟩

theorem run_record {made written : Disk} {catalog : Catalog} {snapshot : Value} {objects : List ModelObject}
    {bundle : Bundle} (directory : d.makeDirectory q.out = .ok made)
    (readCatalog : catalogFor made q.rules = .ok catalog) (readSnapshot : made.snapshot q.metadata = .ok snapshot)
    (accepted : Snapshot.objects snapshot = .ok objects)
    (bundled : Bundle.ofRun (Run.ofRules catalog.rules objects) = .ok bundle)
    (saved : made.write (q.out.child "findings.json")
      (Json.text (document (Index.ofObjects objects).modelName bundle)) = .ok written)
    (summed : written.write (q.out.child "summary.json") (Json.text (.map bundle.summary.entries)) = .ok e) :
    (record q).run.run d =
      (.ok ⟨catalog, snapshot, (Index.ofObjects objects).modelName, Run.ofRules catalog.rules objects, bundle⟩, e) := by
  rw [record, Effect.makeDirectory, Effect.run_change_bind directory, Effect.run_look_bind readCatalog,
    Effect.run_look_bind readSnapshot, Effect.run_ofResult_bind accepted, Effect.run_ofResult_bind bundled,
    Effect.write, Effect.run_change_bind saved, Effect.write, Effect.run_change_bind summed]
  rfl

theorem publish_keeps (q : Request) (r : Record) {name : String} (down : name ≠ "..")
    (apart : name ∉ ["comparison.json", "report.html"]) (c : ByteArray) :
    (publish q r).Keeps fun d => d.read? (q.out.child name) = some c := by
  have beside : ∀ other text, other ∈ ["comparison.json", "report.html"] →
      (Effect.write (q.out.child other) text).Keeps fun d => d.read? (q.out.child name) = some c := by
    intro other text member
    apply Effect.keeps_change
    intro d e written before
    rw [Disk.read?_write_child written down fun same => apart (same ▸ member)]
    exact before
  rw [publish]
  refine Effect.keeps_bind (Effect.keeps_look _) ?_
  intro comparison
  have page : (do
      let html ← Effect.ofResult (Report.html (document r.model r.bundle) (comparisonValue comparison))
      Effect.write (q.out.child "report.html") html
      return (⟨r.model, r.bundle, comparison⟩ : Outcome) : Effect Outcome).Keeps
        fun d => d.read? (q.out.child name) = some c := by
    refine Effect.keeps_bind (Effect.keeps_ofResult _) ?_
    intro html
    refine Effect.keeps_bind (beside "report.html" html (by simp)) ?_
    intro _
    exact Effect.keeps_ofResult _
  cases comparison with
  | none => exact page
  | some found =>
      refine Effect.keeps_bind (beside "comparison.json" _ (by simp)) ?_
      intro _
      exact page

theorem read?_saved (ok : (record q).run.run d = (.ok r, e)) :
    e.read? (q.out.child "findings.json") = some (Json.text (document r.model r.bundle)).toUTF8 := by
  obtain ⟨made, written, objects, -, -, -, -, -, -, saved, summed⟩ := record_eq_ok ok
  rw [Disk.read?_write_child summed (by decide) (by decide)]
  exact Disk.read?_write_self saved

theorem read?_perform (ok : (record q).run.run d = (.ok r, e)) :
    (((perform q).run.run d).2).read? (q.out.child "findings.json") =
      some (Json.text (document r.model r.bundle)).toUTF8 := by
  rw [perform, Effect.run_bind_of_eq_ok ok]
  exact publish_keeps q r (by decide) (by decide) _ e (read?_saved ok)

theorem read?_summary (ok : (record q).run.run d = (.ok r, e)) :
    (((perform q).run.run d).2).read? (q.out.child "summary.json") =
      some (Json.text (.map r.bundle.summary.entries)).toUTF8 := by
  obtain ⟨made, written, objects, -, -, -, -, -, -, -, summed⟩ := record_eq_ok ok
  rw [perform, Effect.run_bind_of_eq_ok ok]
  exact publish_keeps q r (by decide) (by decide) _ e (Disk.read?_write_self summed)

theorem read?_record {p : Path} {c : ByteArray} (ok : (record q).run.run d = (.ok r, e)) (read : d.read? p = some c)
    (apart : ∀ name ∈ ["findings.json", "summary.json"], e.leads p ≠ e.leads (q.out.child name)) :
    e.read? p = some c := by
  obtain ⟨made, written, objects, directory, -, -, -, -, -, saved, summed⟩ := record_eq_ok ok
  have findings := apart "findings.json" (by simp)
  have summary := apart "summary.json" (by simp)
  rw [Disk.leads_write summed, Disk.leads_write summed] at findings summary
  rw [Disk.leads_write saved, Disk.leads_write saved] at findings
  rw [Disk.read?_write_of_apart summed summary, Disk.read?_write_of_apart saved findings]
  exact Disk.read?_makeDirectories directory read

theorem bundle_record (ok : (record q).run.run d = (.ok r, e)) :
    r.bundle.findings.Perm r.run.findings ∧ r.bundle.summary.total = r.run.findings.length := by
  obtain ⟨made, written, objects, -, -, -, -, run, bundled, -, -⟩ := record_eq_ok ok
  obtain ⟨summary, summed, ordered⟩ := Run.bundle_ofRules r.catalog.rules objects
  rw [← run] at ordered summed
  have bundle : r.bundle = ⟨summary, sortBy Finding.place r.run.findings⟩ :=
    Except.ok.inj (bundled.symm.trans ordered)
  obtain ⟨byKind, -, counted⟩ := exists_of_bind_eq_ok summed
  cases counted
  rw [bundle]
  exact ⟨sortBy_perm Finding.place r.run.findings, rfl⟩

theorem reports_record (ok : (record q).run.run d = (.ok r, e)) :
    ∀ f ∈ r.run.findings, ∃ s, s ≠ "" ∧ f.affectedObject = .text s := by
  obtain ⟨made, written, objects, -, -, -, -, run, -, -, -⟩ := record_eq_ok ok
  rw [run]
  intro f member
  obtain ⟨rule, -, reports⟩ := Run.exists_reports_of_mem_findings member
  exact reports.object

theorem namesObject_run (ok : (record q).run.run d = (.ok r, e)) : ∀ f ∈ r.run.findings, f.NamesObject := by
  intro f member
  obtain ⟨s, -, object⟩ := reports_record ok f member
  exact ⟨s, object⟩

theorem namesObject_bundle (ok : (record q).run.run d = (.ok r, e)) : ∀ f ∈ r.bundle.findings, f.NamesObject := by
  intro f member
  exact namesObject_run ok f ((bundle_record ok).1.mem_iff.1 member)

theorem findings_of_saved {p : Path} {m : Disk} (ok : (record q).run.run d = (.ok r, e))
    (saved : m.read? p = some (Json.text (document r.model r.bundle)).toUTF8)
    (readBack : Json.read (Json.text (document r.model r.bundle)) = .ok (document r.model r.bundle)) :
    m.findings p = .ok (r.bundle.findings.map Finding.restored) := by
  apply Disk.findings_of_text saved readBack rfl
  intro f member
  obtain ⟨s, named, object⟩ := reports_record ok f ((bundle_record ok).1.mem_iff.1 member)
  rw [object, Value.isEmpty_text]
  simpa using named

theorem comparison_of_perform {o : Outcome} {m : Disk} (ok : (record q).run.run d = (.ok r, e))
    (done : (perform q).run.run d = (.ok o, m)) : compareWith e r.run q.previous = .ok o.comparison := by
  rw [perform, Effect.run_bind_of_eq_ok ok, publish] at done
  obtain ⟨comparison, compared, done⟩ := Effect.exists_of_run_look_bind_eq_ok done
  have last : o.comparison = comparison := by
    cases comparison with
    | none =>
        obtain ⟨html, -, done⟩ := Effect.exists_of_run_ofResult_bind_eq_ok done
        obtain ⟨written, -, done⟩ := Effect.exists_of_run_change_bind_eq_ok done
        cases done
        rfl
    | some c =>
        obtain ⟨stored, -, done⟩ := Effect.exists_of_run_change_bind_eq_ok done
        obtain ⟨html, -, done⟩ := Effect.exists_of_run_ofResult_bind_eq_ok done
        obtain ⟨written, -, done⟩ := Effect.exists_of_run_change_bind_eq_ok done
        cases done
        rfl
  rw [last]
  exact compared

/-! A desk with a catalog of one rule, a snapshot without tables, a later one with a table, and two directories
for reports. -/

def catalogFile : Entries :=
  [("Rules", .list [.map [("ID", .text "R"), ("Scope", .text "Table"), ("Expression", .text "true")]])]

def tablesFile (names : List String) : Entries :=
  [("tables", .list (names.map fun name => .map [("Name", .text name)]))]

def desk (saved : Option ByteArray) : Disk :=
  ⟨(saved.toList.map fun content => (⟨"", ["first", "findings.json"]⟩, Entry.file content)) ++
    [(⟨"", ["rules.json"]⟩, Entry.file (Json.text (.map catalogFile)).toUTF8),
      (⟨"", ["before.json"]⟩, Entry.file (Json.text (.map (tablesFile []))).toUTF8),
      (⟨"", ["after.json"]⟩, Entry.file (Json.text (.map (tablesFile ["Sales"]))).toUTF8),
      (⟨"", ["first"]⟩, Entry.directory), (⟨"", ["second"]⟩, Entry.directory)]⟩

def atDesk (snapshot out : String) (previous : Option Path) : Request :=
  ⟨⟨"", [snapshot]⟩, ⟨"", [out]⟩, some ⟨"", ["rules.json"]⟩, previous⟩

def deskRules : List Rule :=
  ⟨"R", "R", "Uncategorized", .int 2, "", .text "Table", .text "true", .null, .null, .null, .null⟩ ::
    Rule.Bundled.modelRules

def bundleBefore : Bundle := ⟨⟨0, 0, 0, 0, 0, [], [], 3, []⟩, []⟩

def sales : Finding := ⟨"R", "R", "Uncategorized", 2, "", .text "'Sales'", .text "Table", false⟩

def bundleAfter : Bundle := ⟨⟨1, 0, 1, 0, 0, [("Uncategorized", 1)], [(.text "Table", 1)], 3, []⟩, [sales]⟩

theorem readBack_desk :
    Json.readAll (Json.write 0 (.map catalogFile)) = .ok (.map catalogFile) ∧
      (∀ names ∈ [[], ["Sales"]], Json.readAll (Json.write 0 (.map (tablesFile names))) = .ok (.map (tablesFile names))) ∧
      ∀ b ∈ [bundleBefore, bundleAfter], Json.readAll (Json.write 0 (document "Model" b)) = .ok (document "Model" b) := by
  decide +kernel

theorem record_at_desk {snapshot out : String} {names : List String} {run : Run} {bundle : Bundle}
    (saved : Option ByteArray) (previous : Option Path) (room : out = "first" ∨ out = "second")
    (file : Disk.entry? (desk saved) ⟨"", [snapshot]⟩ = some (.file (Json.text (.map (tablesFile names))).toUTF8))
    (known : names ∈ [[], ["Sales"]])
    (ran : (Snapshot.objects (.map (tablesFile names))).map
      (fun objects => (Run.ofRules deskRules objects, (Index.ofObjects objects).modelName)) = .ok (run, "Model"))
    (bundled : Bundle.ofRun run = .ok bundle) :
    ∃ r e, (record (atDesk snapshot out previous)).run.run (desk saved) = (.ok r, e) ∧ r.model = "Model" ∧
      r.run = run ∧ r.bundle = bundle := by
  obtain ⟨catalogRead, readBack, -⟩ := readBack_desk
  have rules : (Catalog.ofDocument (.map catalogFile) true).map Catalog.rules = .ok deskRules := rfl
  obtain ⟨c, read, same⟩ := exists_of_map_eq_ok rules
  obtain ⟨objects, accepted, ran⟩ := exists_of_map_eq_ok ran
  obtain ⟨ran, model⟩ := Prod.mk.inj ran
  rw [← same] at ran
  rw [← ran] at bundled
  have catalog : Disk.entry? (desk saved) ⟨"", ["rules.json"]⟩ =
      some (.file (Json.text (.map catalogFile)).toUTF8) := by
    cases saved <;> rfl
  have readCatalog : catalogFor (desk saved) (atDesk snapshot out previous).rules = .ok c := by
    rw [← read]
    exact Disk.catalog_of_text true catalog ((Document.read_text _).trans catalogRead)
  have readSnapshot := Disk.snapshot_of_text file ((Document.read_text _).trans (readBack names known))
  have directory : (desk saved).makeDirectory ⟨"", [out]⟩ = .ok (desk saved) := by
    rcases room with rfl | rfl <;> cases saved <;> rfl
  have there : Disk.entry? (desk saved) ⟨"", [out]⟩ = some .directory := by
    rcases room with rfl | rfl <;> cases saved <;> rfl
  have free : Disk.entry? (desk saved) (Path.child ⟨"", [out]⟩ "findings.json") ≠ some .directory := by
    rcases room with rfl | rfl <;> cases saved <;> exact nofun
  have written := Disk.write_child there free (Json.text (document (Index.ofObjects objects).modelName bundle))
  have there' : ∀ x, Disk.entry? ((desk saved).put (Path.child ⟨"", [out]⟩ "findings.json") x) ⟨"", [out]⟩ =
      some .directory := by
    intro x
    rcases room with rfl | rfl <;> cases saved <;> rfl
  have free' : ∀ x, Disk.entry? ((desk saved).put (Path.child ⟨"", [out]⟩ "findings.json") x)
      (Path.child ⟨"", [out]⟩ "summary.json") ≠ some .directory := by
    intro x
    rcases room with rfl | rfl <;> cases saved <;> exact nofun
  have summed := fun x => Disk.write_child (there' x) (free' x) (Json.text (.map bundle.summary.entries))
  exact ⟨_, _, run_record directory readCatalog readSnapshot accepted bundled written (summed _), model, ran, rfl⟩

def savedFile : Path := ⟨"", ["first", "findings.json"]⟩

def savedText : String := Json.text (document "Model" bundleBefore)

theorem record_without_tables (previous : Option Path) {out : String} (room : out = "first" ∨ out = "second") :
    ∃ r e, (record (atDesk "before.json" out previous)).run.run (desk none) = (.ok r, e) ∧
      r.model = "Model" ∧ r.run = ⟨[], [], 3⟩ ∧ r.bundle = bundleBefore := by
  apply record_at_desk none previous room rfl
  · decide
  · with_unfolding_all rfl
  · simp [Bundle.ofRun, Finding.ordered, Summary.ofRun, Summary.kindCounts, Summary.orderedKinds,
      Summary.categoryCounts, Tally.ofList]
    rfl

theorem record_before : ∃ r e, (record (atDesk "before.json" "first" none)).run.run (desk none) = (.ok r, e) ∧
    r.bundle = bundleBefore ∧
    Json.read (Json.text (document r.model r.bundle)) = .ok (document r.model r.bundle) ∧
    (desk (some savedText.toUTF8)).read? savedFile =
      (((perform (atDesk "before.json" "first" none)).run.run (desk none)).2).read? savedFile := by
  obtain ⟨-, -, readBack⟩ := readBack_desk
  obtain ⟨r, e, ok, model, -, bundle⟩ := record_without_tables none (.inl rfl)
  have written := read?_perform ok
  rw [model, bundle] at written
  refine ⟨r, e, ok, bundle, ?_, written.symm⟩
  rw [model, bundle, Document.read_text]
  exact readBack bundleBefore List.mem_cons_self

theorem record_after (saved : ByteArray) (previous : Option Path) {out : String} (room : out = "first" ∨ out = "second") :
    ∃ r e, (record (atDesk "after.json" out previous)).run.run (desk (some saved)) = (.ok r, e) ∧
      r.model = "Model" ∧ r.run = ⟨[sales], [], 3⟩ ∧ r.bundle = bundleAfter := by
  apply record_at_desk (some saved) previous room rfl
  · decide
  · with_unfolding_all rfl
  · simp [Bundle.ofRun, Finding.ordered, Summary.ofRun, Summary.kindCounts, Summary.orderedKinds,
      Summary.categoryCounts, Tally.ofList, Tally.add, Summary.addKind, sales]
    rfl

/-- An audit that is given the findings file of an earlier one is compared with what the earlier one has found,
in the order of the file, as long as its own files do not take the place of that file. The same snapshot and
rules give nothing new and nothing resolved. -/
theorem compares_with_saved_findings {q₁ q₂ : Request} {d₁ d₂ e₁ e₂ : Disk} {r₁ r₂ : Record} {p : Path}
    (first : (record q₁).run.run d₁ = (.ok r₁, e₁)) (second : (record q₂).run.run d₂ = (.ok r₂, e₂))
    (given : q₂.previous = some p)
    (saved : d₂.read? p = (((perform q₁).run.run d₁).2).read? (q₁.out.child "findings.json"))
    (apart : ∀ name ∈ ["findings.json", "summary.json"], e₂.leads p ≠ e₂.leads (q₂.out.child name))
    (readBack : Json.read (Json.text (document r₁.model r₁.bundle)) = .ok (document r₁.model r₁.bundle)) :
    ∃ c found, Comparison.ofRuns r₂.run.findings r₁.bundle.findings = .ok c ∧
      compareWith e₂ r₂.run q₂.previous = .ok (some found) ∧ found.entries = c.entries ∧
      (∀ o e, (perform q₂).run.run d₂ = (.ok o, e) → o.comparison = some found) ∧
      (r₁.catalog.rules = r₂.catalog.rules → r₁.snapshot = r₂.snapshot →
        c.resolved = [] ∧ c.fresh = [] ∧ c.recurring.length = r₂.bundle.summary.total) := by
  rw [read?_perform first] at saved
  have kept := read?_record second saved apart
  have read := findings_of_saved first kept readBack
  obtain ⟨perm, -⟩ := bundle_record first
  have named := namesObject_bundle first
  have named' := namesObject_run second
  have restored := Comparison.namesObject_restored named
  have compared : compareWith e₂ r₂.run q₂.previous =
      .ok (some (.split r₂.run.findings (r₁.bundle.findings.map Finding.restored))) := by
    rw [given, compareWith, read]
    exact congrArg (Except.map some) (Comparison.ofRuns_eq named' restored)
  refine ⟨_, _, Comparison.ofRuns_eq named' named, compared, Comparison.entries_split_restored _ _, ?_, ?_⟩
  · intro o e done
    exact Except.ok.inj ((comparison_of_perform second done).symm.trans compared)
  · intro rules snapshot
    obtain ⟨-, -, objects, -, -, -, accepted, run, -, -, -⟩ := record_eq_ok first
    obtain ⟨-, -, objects', -, -, -, accepted', run', -, -, -⟩ := record_eq_ok second
    have same : objects' = objects := by
      rw [← snapshot] at accepted'
      exact Except.ok.inj (accepted'.symm.trans accepted)
    rw [run, rules, ← same, ← run'] at perm
    rw [Comparison.split_of_perm named' perm, (bundle_record second).2]
    exact ⟨rfl, rfl, rfl⟩

theorem compares_with_saved_findings_of_added_table :
    ∃ r₁ e₁ r₂ e₂ c found, (record (atDesk "before.json" "first" none)).run.run (desk none) = (.ok r₁, e₁) ∧
      (record (atDesk "after.json" "second" (some savedFile))).run.run (desk (some savedText.toUTF8)) =
        (.ok r₂, e₂) ∧
      Comparison.ofRuns r₂.run.findings r₁.bundle.findings = .ok c ∧
      compareWith e₂ r₂.run (some savedFile) = .ok (some found) ∧ found.entries = c.entries ∧ c.fresh = [sales] := by
  obtain ⟨r₁, e₁, first, bundle, readBack, saved⟩ := record_before
  obtain ⟨r₂, e₂, second, -, run, -⟩ := record_after savedText.toUTF8 (some savedFile) (.inr rfl)
  have apart : ∀ name ∈ ["findings.json", "summary.json"],
      e₂.leads savedFile ≠ e₂.leads (Path.child ⟨"", ["second"]⟩ name) := by
    intro name member
    rw [Disk.leads_of_plain (by simp [savedFile, Disk.IsPlain])]
    rcases List.mem_pair.1 member with rfl | rfl <;>
      rw [Disk.leads_of_plain (by simp [Path.child, Disk.IsPlain])] <;> decide
  obtain ⟨c, found, compared, given, same, -, -⟩ :=
    compares_with_saved_findings first second rfl saved apart readBack
  refine ⟨r₁, e₁, r₂, e₂, c, found, first, second, compared, given, same, ?_⟩
  rw [run, bundle] at compared
  cases compared
  rfl

theorem compares_with_itself (ok : (record q).run.run d = (.ok r, e))
    (given : q.previous = some (q.out.child "findings.json"))
    (readBack : Json.read (Json.text (document r.model r.bundle)) = .ok (document r.model r.bundle)) :
    compareWith e r.run q.previous = .ok (some { recurring := r.run.findings }) := by
  have read := findings_of_saved ok (read?_saved ok) readBack
  obtain ⟨perm, -⟩ := bundle_record ok
  have named := namesObject_run ok
  have restored := Comparison.namesObject_restored (namesObject_bundle ok)
  rw [given, compareWith, read]
  change (Comparison.ofRuns _ _).map some = _
  rw [Comparison.ofRuns_eq named restored, Comparison.split_restored, Comparison.split_of_perm named perm]
  rfl

/-- An audit whose directory is that of the earlier one writes over the findings it is to be compared with: the
table that was added is not reported as new. -/
theorem saved_findings_written_over :
    ¬ ∀ (q₁ q₂ : Request) (d₁ d₂ e₁ e₂ : Disk) (r₁ r₂ : Record),
      (record q₁).run.run d₁ = (.ok r₁, e₁) → (record q₂).run.run d₂ = (.ok r₂, e₂) →
      q₂.previous = some (q₁.out.child "findings.json") →
      d₂.read? (q₁.out.child "findings.json") =
        (((perform q₁).run.run d₁).2).read? (q₁.out.child "findings.json") →
      Json.read (Json.text (document r₁.model r₁.bundle)) = .ok (document r₁.model r₁.bundle) →
      ∃ c found, Comparison.ofRuns r₂.run.findings r₁.bundle.findings = .ok c ∧
        compareWith e₂ r₂.run q₂.previous = .ok (some found) ∧ found.entries = c.entries := by
  intro claim
  obtain ⟨r₁, e₁, first, bundle, readBack, saved⟩ := record_before
  obtain ⟨r₂, e₂, second, model, run, bundle'⟩ := record_after savedText.toUTF8 (some savedFile) (.inl rfl)
  obtain ⟨c, found, compared, given, same⟩ := claim _ _ _ _ _ _ _ _ first second rfl saved readBack
  have readBack' := readBack_desk.2.2 bundleAfter (by simp)
  rw [← model, ← bundle', ← Document.read_text] at readBack'
  have itself := compares_with_itself second rfl readBack'
  obtain rfl := Option.some.inj (Except.ok.inj (given.symm.trans itself))
  rw [run, bundle] at compared
  cases compared
  have counts := congrArg (fun es => Entries.find? es "newCount") same
  simp [Comparison.entries, Comparison.split, Comparison.occursIn, Entries.find?, bundleBefore] at counts

end Audit

end TabularAudit
