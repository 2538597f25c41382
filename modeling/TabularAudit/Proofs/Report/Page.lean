import Mathlib.Data.List.Forall2
import TabularAudit.Audit
import TabularAudit.Proofs.Report.Tables

/-!
No text brings markup into a report. A slot shows no character with a meaning in markup, so those of a page are the
ones of its own pieces, and these follow from the shape of the report.
-/

namespace TabularAudit

namespace Report

variable {m n : Markup}

theorem marks_append (s t : String) : marks (s ++ t) = marks s ++ marks t := by
  rw [marks, String.toList_append, List.filter_append]
  rfl

theorem marks_escape (s : String) : marks (escape s) = [] := by
  apply List.filter_eq_nil_iff.2
  intro c member
  exact List.any_eq_false.1 (any_isMarkup_escape s) c member

namespace Markup

theorem text_cons (p : Piece) (m : Markup) : text (p :: m) = p.text ++ text m := by
  have general : ∀ s, m.foldl (fun s piece => s ++ piece.text) s = s ++ text m := by
    induction m with
    | nil => intro s; exact String.append_empty.symm
    | cons p m ih =>
        intro s
        rw [text, List.foldl_cons, List.foldl_cons, ih, ih, String.empty_append, String.append_assoc]
  rw [text, List.foldl_cons, general, String.empty_append]

theorem template_append (m n : Markup) : template (m ++ n) = template m ++ template n := List.filter_append ..

theorem marks_text (m : Markup) : marks m.text = marks m.template.text := by
  induction m with
  | nil => rfl
  | cons p m ih =>
      rw [text_cons, marks_append, ih]
      cases p with
      | fixed markup =>
          have kept : template (.fixed markup :: m) = .fixed markup :: template m := rfl
          rw [kept, text_cons, marks_append]
      | slot shown =>
          have left : template (.slot shown :: m) = template m := rfl
          rw [left, Piece.text, marks_escape, List.nil_append]

end Markup

/-- Two parts of pages that can be made, with the same pieces of the page itself. -/
def SamePieces (x y : Except Fault Markup) : Prop := ∃ m n, x = .ok m ∧ y = .ok n ∧ m.template = n.template

theorem SamePieces.ok (same : m.template = n.template) : SamePieces (.ok m) (.ok n) := ⟨m, n, rfl, rfl, same⟩

theorem samePieces_mapM {α β : Type} {f : α → Except Fault Markup} {g : β → Except Fault Markup} {as : List α}
    {bs : List β} (same : List.Forall₂ (fun a b => SamePieces (f a) (g b)) as bs) :
    SamePieces ((as.mapM f).map List.flatten) ((bs.mapM g).map List.flatten) := by
  induction same with
  | nil => exact .ok rfl
  | cons head tail ih =>
      obtain ⟨m, n, first, second, pieces⟩ := head
      obtain ⟨ms, ns, others, others', rest⟩ := ih
      obtain ⟨before, made, rfl⟩ := exists_of_map_eq_ok others
      obtain ⟨before', made', rfl⟩ := exists_of_map_eq_ok others'
      rw [List.mapM_cons, List.mapM_cons, first, second, made, made']
      refine .ok ?_
      rw [List.flatten_cons, List.flatten_cons, Markup.template_append, Markup.template_append, pieces, rest]

theorem template_rows (fs : List Finding) : Markup.template (fs.flatMap rowOf) =
    (fs.map Finding.hasAutoFix).flatMap fun fix => Markup.template (rowOf ⟨"", "", "", 0, "", .null, .null, fix⟩) := by
  rw [Markup.template, List.filter_flatMap, List.flatMap_map]
  rfl

theorem samePieces_groupTable {name name' : String} {fs gs : List Finding}
    (fixes : fs.map Finding.hasAutoFix = gs.map Finding.hasAutoFix) :
    SamePieces (groupTable ⟨.text name, fs.map Finding.record⟩) (groupTable ⟨.text name', gs.map Finding.record⟩) := by
  rw [groupTable_records (name, fs), groupTable_records (name', gs)]
  refine .ok ?_
  rw [tableOf, tableOf]
  simp only [Markup.template_append, template_rows, fixes]
  rfl

theorem samePieces_groupTables {gs hs : List Group}
    (same : List.Forall₂ (fun g h => SamePieces (groupTable g) (groupTable h)) gs hs) :
    SamePieces (groupTables gs) (groupTables hs) := by
  have made := samePieces_mapM same
  cases same with
  | nil => exact .ok rfl
  | cons head tail =>
      obtain ⟨m, n, made, made', pieces⟩ := made
      obtain ⟨ms, first, rfl⟩ := exists_of_map_eq_ok made
      obtain ⟨ns, second, rfl⟩ := exists_of_map_eq_ok made'
      rw [groupTables, groupTables, first, second]
      exact .ok pieces

theorem samePieces_skipped {s t : Summary} (same : s.skipped.length = t.skipped.length) :
    SamePieces (skipped (.map s.entries)) (skipped (.map t.entries)) := by
  have count : ∀ s : Summary, isSet (member? (.map s.entries) "rulesSkipped") = (s.skipped.length != 0) := by
    intro s
    have stored : member? (.map s.entries) "rulesSkipped" = some (.int s.skipped.length) := rfl
    rw [stored]
    cases s.skipped.length <;> rfl
  have ids : ∀ s : Summary, ∃ line, joined (member? (.map s.entries) "skippedRules") = .ok line := fun s => ⟨_, rfl⟩
  obtain ⟨line, read⟩ := ids s
  obtain ⟨line', read'⟩ := ids t
  rw [skipped, skipped, count, count, same, read, read']
  cases t.skipped.length != 0 with
  | false => exact .ok rfl
  | true => exact .ok rfl

theorem samePieces_resolvedTable {c d : Comparison} (same : c.resolved.length = d.resolved.length) :
    SamePieces (resolvedTable (.map c.entries)) (resolvedTable (.map d.entries)) := by
  have stored : ∀ c : Comparison, member? (.map c.entries) "resolved" =
      some (.list (c.resolved.map fun f => .map f.keyEntries)) := fun _ => rfl
  have rows : ∀ fs gs : List Finding, fs.length = gs.length →
      Markup.template ((fs.map fun f => Value.map f.keyEntries).map resolvedRow).flatten =
        Markup.template ((gs.map fun f => Value.map f.keyEntries).map resolvedRow).flatten := by
    intro fs
    induction fs with
    | nil =>
        intro gs length
        rw [List.length_eq_zero_iff.1 length.symm]
    | cons f fs ih =>
        intro gs length
        cases gs with
        | nil => cases length
        | cons g gs =>
            simp only [List.map_cons, List.flatten_cons, Markup.template_append, ih gs (Nat.succ.inj length)]
            rfl
  have empty : ∀ c : Comparison, (Value.list (c.resolved.map fun f => Value.map f.keyEntries)).isEmpty =
      (c.resolved.length == 0) := by
    intro c
    cases resolved : c.resolved <;> rfl
  rw [resolvedTable, resolvedTable, stored, stored]
  simp only [empty, same]
  cases d.resolved.length == 0 with
  | true => exact .ok rfl
  | false =>
      refine .ok ?_
      simp only [Markup.template_append, rows c.resolved d.resolved same]

theorem samePieces_compared {c d : Option Comparison}
    (same : (c.map fun c => c.resolved.length) = d.map fun c => c.resolved.length) :
    SamePieces (compared (Audit.comparisonValue c)) (compared (Audit.comparisonValue d)) := by
  cases c with
  | none =>
      cases d with
      | none => exact .ok rfl
      | some d => cases same
  | some c =>
      cases d with
      | none => cases same
      | some d =>
          obtain ⟨m, n, first, second, pieces⟩ := samePieces_resolvedTable (Option.some.inj same)
          change SamePieces (compared (.map c.entries)) (compared (.map d.entries))
          have filled : ∀ c : Comparison, (Value.map c.entries).isEmpty = false := fun _ => rfl
          rw [compared, compared, filled, filled, first, second]
          refine .ok ?_
          simp only [Markup.template_append, pieces]
          rfl

theorem page_document (model : String) (b : Bundle) (comparison : Value) :
    page (Audit.document model b) comparison = (do
      let skipped ← skipped (.map b.summary.entries)
      let compared ← compared comparison
      let tables ← groupTables ((categories b.findings).map fun group => ⟨.text group.1, group.2.map Finding.record⟩)
      return head (.text model) ++ summaryCards (.map b.summary.entries) ++ [Piece.fixed "\n"] ++ skipped ++ compared ++
        [Piece.fixed "  "] ++ tables ++ [Piece.fixed "\n</body>\n</html>"]) := by
  have findings : (((member? (Audit.document model b) "findings").getD .null).orElse (.list [])).items =
      .ok (b.findings.map Finding.record) := by
    have stored : member? (Audit.document model b) "findings" = some (.list (b.findings.map Finding.record)) := rfl
    rw [stored, Option.getD_some, Value.orElse]
    split
    · next empty =>
        have nothing : b.findings = [] := by simpa [Value.isEmpty] using empty
        rw [nothing]
        rfl
    · rfl
  have record : isRecord (Audit.document model b) = true := rfl
  have summary : ((member? (Audit.document model b) "summary").getD .null).orElse (.map []) = .map b.summary.entries := rfl
  have name : (member? (Audit.document model b) "model").getD (.text "Model") = .text model := rfl
  rw [page, record, findings, summary, name]
  simp only [Bool.not_true, Bool.false_eq_true, if_false]
  change (byCategory (b.findings.map Finding.record) >>= fun gs => _) = _
  rw [byCategory_records]
  rfl

theorem samePieces_groups {fs gs : List Finding}
    (same : ((categories fs).map fun group => group.2.map fun f => (f.severity, f.hasAutoFix)) =
      (categories gs).map fun group => group.2.map fun f => (f.severity, f.hasAutoFix)) :
    SamePieces (groupTables ((categories fs).map fun group => ⟨.text group.1, group.2.map Finding.record⟩))
      (groupTables ((categories gs).map fun group => ⟨.text group.1, group.2.map Finding.record⟩)) := by
  rw [← List.forall₂_eq_eq_eq, List.forall₂_map_left_iff, List.forall₂_map_right_iff] at same
  apply samePieces_groupTables
  rw [List.forall₂_map_left_iff, List.forall₂_map_right_iff]
  refine same.imp fun group group' facts => samePieces_groupTable ?_
  have fixes := congrArg (List.map Prod.snd) facts
  rw [List.map_map, List.map_map] at fixes
  exact fixes

variable {b b' : Bundle} {c c' : Option Comparison}

theorem samePieces_page (same : Shape.of b c = Shape.of b' c') (model model' : String) :
    SamePieces (page (Audit.document model b) (Audit.comparisonValue c))
      (page (Audit.document model' b') (Audit.comparisonValue c')) := by
  obtain ⟨skippedPart, skippedPart', first, first', skippedSame⟩ := samePieces_skipped (congrArg Shape.skipped same)
  obtain ⟨comparedPart, comparedPart', second, second', comparedSame⟩ := samePieces_compared (congrArg Shape.resolved same)
  obtain ⟨tables, tables', third, third', tablesSame⟩ := samePieces_groups (congrArg Shape.groups same)
  rw [page_document, page_document, first, first', second, second', third, third']
  refine .ok ?_
  simp only [Markup.template_append, skippedSame, comparedSame, tablesSame]
  rfl

/-- Reports of one shape have the same characters with a meaning in markup, whatever their texts are, and all of them
stand in pieces of the page itself, which are the same pieces. -/
theorem same_marks_of_same_shape (same : Shape.of b c = Shape.of b' c') (model model' : String) :
    ∃ m m', page (Audit.document model b) (Audit.comparisonValue c) = .ok m ∧
      page (Audit.document model' b') (Audit.comparisonValue c') = .ok m' ∧
      html (Audit.document model b) (Audit.comparisonValue c) = .ok m.text ∧
      html (Audit.document model' b') (Audit.comparisonValue c') = .ok m'.text ∧
      marks m.text = marks m'.text ∧ m.template = m'.template ∧ marks m.text = marks m.template.text := by
  obtain ⟨m, m', made, made', pieces⟩ := samePieces_page same model model'
  refine ⟨m, m', made, made', ?_, ?_, ?_, pieces, m.marks_text⟩
  · rw [html, made]
    rfl
  · rw [html, made']
    rfl
  · calc marks m.text
      _ = marks m.template.text := m.marks_text
      _ = marks m'.template.text := by rw [pieces]
      _ = marks m'.text := m'.marks_text.symm

def oneText (s : String) : Finding := ⟨s, s, s, 2, s, .text s, .text s, true⟩

def oneTextBundle (s : String) : Bundle := ⟨⟨1, 0, 1, 0, 1, [(s, 1)], [(.text s, 1)], 1, [s]⟩, [oneText s]⟩

theorem same_marks_of_script :
    let plain := html (Audit.document "Sales" (oneTextBundle "Sales")) (Audit.comparisonValue (some ⟨[oneText "Sales"], [], []⟩))
    let hostile := html (Audit.document "<script>" (oneTextBundle "\"><script>'"))
      (Audit.comparisonValue (some ⟨[oneText "</code>"], [], []⟩))
    ∃ s t, plain = .ok s ∧ hostile = .ok t ∧ marks s = marks t := by
  intro plain hostile
  have same : Shape.of (oneTextBundle "Sales") (some ⟨[oneText "Sales"], [], []⟩) =
      Shape.of (oneTextBundle "\"><script>'") (some ⟨[oneText "</code>"], [], []⟩) := by decide +kernel
  obtain ⟨m, m', -, -, first, second, marked, -⟩ := same_marks_of_same_shape same "Sales" "<script>"
  exact ⟨m.text, m'.text, first, second, marked⟩

end Report

end TabularAudit
