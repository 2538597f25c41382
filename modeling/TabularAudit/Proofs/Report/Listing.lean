import TabularAudit.Proofs.Report.Page
import TabularAudit.Proofs.Run.Summary

/-!
What a report shows of a run. Its groups are the categories in order, and hold each finding once, as they stand in the
findings file; the page has one table for each group and one row for each finding.
-/

namespace TabularAudit

namespace Finding

variable {f g : Finding} {fs : List Finding}

theorem comesBefore_of_place_lt (same : f.category = g.category) (before : f.place < g.place) : f.ComesBefore g := by
  simp only [place, grade, Prod.Lex.toLex_lt_toLex, Int.neg_lt_neg_iff, toLex_inj, Prod.mk.injEq, Int.neg_inj,
    same, lt_irrefl, false_or, true_and] at before
  rw [ComesBefore]
  tauto

theorem pairwise_place_lt (distinct : (fs.map key).Nodup) : (sortBy place fs).Pairwise fun f g => f.place < g.place := by
  have differ : ((sortBy place fs).map place).Nodup :=
    ((sortBy_perm place fs).map place).nodup_iff.2 (nodup_places distinct)
  exact ((pairwise_sortBy place fs).and (List.pairwise_map.1 differ)).imp fun ⟨le, ne⟩ => lt_of_le_of_ne le ne

end Finding

namespace Report

variable {fs : List Finding}

theorem flatMap_filter_category_perm {names : List String} (distinct : names.Nodup) (fs : List Finding) :
    (names.flatMap fun name => fs.filter fun f => f.category = name).Perm (fs.filter fun f => f.category ∈ names) := by
  induction names with
  | nil => simp
  | cons name names ih =>
      obtain ⟨fresh, distinct⟩ := List.nodup_cons.1 distinct
      rw [List.flatMap_cons]
      exact ((ih distinct).append_left _).trans (filter_mem_cons_perm Finding.category fresh fs)

theorem arranges_categories (placed : fs.Pairwise fun f g => f.place < g.place) : Arranges (categories fs) fs where
  names := by
    have names : (categories fs).map Prod.fst = Catalog.sortedTexts (fs.map Finding.category) := by
      rw [categories, List.map_map]
      exact List.map_id _
    rw [names]
    exact pairwise_sortedTexts _
  once := by
    have all : (fs.filter fun f => f.category ∈ Catalog.sortedTexts (fs.map Finding.category)) = fs := by
      apply List.filter_eq_self.2
      intro f member
      exact decide_eq_true (mem_sortedTexts.2 (List.mem_map_of_mem member))
    have distinct : (Catalog.sortedTexts (fs.map Finding.category)).Nodup := (pairwise_sortedTexts _).imp ne_of_lt
    rw [categories, List.flatMap_map]
    exact (flatMap_filter_category_perm distinct fs).trans (.of_eq all)
  category := by
    intro g member
    obtain ⟨name, named, rfl⟩ := List.mem_map.1 member
    constructor
    · obtain ⟨f, inside, same⟩ := List.mem_map.1 (mem_sortedTexts.1 named)
      exact List.ne_nil_of_mem (List.mem_filter.2 ⟨inside, decide_eq_true same⟩)
    · intro f inside
      exact of_decide_eq_true (List.mem_filter.1 inside).2
  order := by
    intro g member
    obtain ⟨name, -, rfl⟩ := List.mem_map.1 member
    refine ⟨List.filter_sublist, (placed.filter _).imp_of_mem ?_⟩
    intro f g inside inside' before
    have first : f.category = name := of_decide_eq_true (List.mem_filter.1 inside).2
    have second : g.category = name := of_decide_eq_true (List.mem_filter.1 inside').2
    exact Finding.comesBefore_of_place_lt (first.trans second.symm) before

theorem count_rowStart_tableOf (group : String × List Finding) : (tableOf group).count rowStart = group.2.length := by
  have heading : (headingOf group.1 group.2.length).count rowStart = 0 := by
    simp [headingOf, rowStart]
  have row : ∀ f, (rowOf f).count rowStart = 1 := by
    intro f
    cases fix : f.hasAutoFix <;> simp [rowOf, rowStart, fix]
  have rows : (group.2.flatMap rowOf).count rowStart = group.2.length := by
    have each : List.count rowStart ∘ rowOf = fun _ => 1 := funext row
    rw [List.count_flatMap, each, List.map_const', List.sum_replicate_nat, Nat.mul_one]
  have foot : [Piece.fixed "\n  </table>\n  "].count rowStart = 0 := by decide
  rw [tableOf, List.count_append, List.count_append, heading, rows, foot]
  omega

theorem headingOf_prefix_tableOf (group : String × List Finding) :
    headingOf group.1 ((tableOf group).count rowStart) <+: tableOf group := by
  rw [count_rowStart_tableOf, tableOf, List.append_assoc]
  exact List.prefix_append _ _

theorem rowStart_not_mem_head (model : Value) : rowStart ∉ head model := by
  have style : ("</title>\n  <style>\n" ++ Text.join "\n" style ++ "\n  </style>\n</head>\n<body>\n") ≠
      "\n    <tr>\n      \n      <td class=\"sev-" := by decide
  simp [head, rowStart, style.symm]

theorem rowStart_not_mem_summaryCards (summary : Value) : rowStart ∉ summaryCards summary := by
  simp [summaryCards, cards, card, rowStart, shown]

variable {v : Value} {m : Markup}

theorem rowStart_not_mem_skipped (made : skipped v = .ok m) : rowStart ∉ m := by
  rw [skipped] at made
  split at made
  · obtain ⟨ids, -, made⟩ := exists_of_bind_eq_ok made
    cases made
    simp [rowStart, shown]
  · cases made
    decide

theorem rowStart_not_mem_resolvedTable (made : resolvedTable v = .ok m) : rowStart ∉ m := by
  rw [resolvedTable] at made
  split at made
  · cases made
    exact List.not_mem_nil
  · split at made
    · cases made
      exact List.not_mem_nil
    · obtain ⟨items, -, made⟩ := exists_of_bind_eq_ok made
      cases made
      simp [resolvedRow, rowStart, shown]

theorem rowStart_not_mem_compared (made : compared v = .ok m) : rowStart ∉ m := by
  rw [compared] at made
  split at made
  · cases made
    decide
  · obtain ⟨table, resolved, made⟩ := exists_of_bind_eq_ok made
    cases made
    have rows := rowStart_not_mem_resolvedTable resolved
    simp only [List.mem_append, rows]
    simp [cards, card, rowStart, shown]

theorem page_of_bundle (model : String) (b : Bundle) (c : Option Comparison) :
    ∃ front back, page (Audit.document model b) (Audit.comparisonValue c) =
        .ok (front ++ (categories b.findings).flatMap tableOf ++ back) ∧ rowStart ∉ front ∧ rowStart ∉ back := by
  obtain ⟨skippedPart, -, skipped, -⟩ := samePieces_skipped (s := b.summary) rfl
  obtain ⟨comparedPart, -, compared, -⟩ := samePieces_compared (c := c) rfl
  obtain ⟨rest, tables, free⟩ := groupTables_records (categories b.findings)
  refine ⟨head (.text model) ++ summaryCards (.map b.summary.entries) ++ [Piece.fixed "\n"] ++ skippedPart ++ comparedPart ++
    [Piece.fixed "  "], rest ++ [Piece.fixed "\n</body>\n</html>"], ?_, ?_, ?_⟩
  · rw [page_document, skipped, compared, tables]
    simp only [bind, Except.bind, pure, Except.pure, List.append_assoc]
  · simp only [List.mem_append, rowStart_not_mem_head, rowStart_not_mem_summaryCards, rowStart_not_mem_skipped skipped,
      rowStart_not_mem_compared compared]
    decide
  · simp only [List.mem_append, free]
    decide

end Report

namespace Bundle

open Report

/-- Of every run a report can be made, whatever it is compared with. Its groups are the categories in increasing order,
each once, and hold the findings of the run, each once, in the order of the findings file, which is that of severity
downwards, rule and object. The page has a table for each group, whose heading gives the number of its rows, and no other
rows of findings. -/
theorem report_arranges_findings (workers : Int) (order : Nat → Nat) (rules : List Rule) (objects : List ModelObject)
    (model : String) (c : Option Comparison) :
    ∃ b, ofRun (Run.ofRulesWith workers order rules objects) = .ok b ∧
      b.findings.Perm (Run.ofRulesWith workers order rules objects).findings ∧ b.findings.Nodup ∧
      byCategory (b.findings.map Finding.record) =
        .ok ((categories b.findings).map fun g => ⟨.text g.1, g.2.map Finding.record⟩) ∧
      Arranges (categories b.findings) b.findings ∧
      (∀ g ∈ categories b.findings, (tableOf g).count rowStart = g.2.length ∧
        headingOf g.1 ((tableOf g).count rowStart) <+: tableOf g) ∧
      ∃ front back, page (Audit.document model b) (Audit.comparisonValue c) =
          .ok (front ++ (categories b.findings).flatMap tableOf ++ back) ∧ rowStart ∉ front ∧ rowStart ∉ back := by
  rw [Run.ofRulesWith_eq_ofRules]
  obtain ⟨summary, -, reported⟩ := Run.bundle_ofRules rules objects
  have keys := Run.nodup_keys rules objects
  have perm := sortBy_perm Finding.place (Run.ofRules rules objects).findings
  exact ⟨_, reported, perm, perm.nodup_iff.2 keys.of_map, byCategory_records _,
    arranges_categories (Finding.pairwise_place_lt keys),
    fun g _ => ⟨count_rowStart_tableOf g, headingOf_prefix_tableOf g⟩, page_of_bundle model _ c⟩

end Bundle

end TabularAudit
