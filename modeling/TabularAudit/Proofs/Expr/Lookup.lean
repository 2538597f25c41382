import TabularAudit.Proofs.Expr.Similar

/-!
Expressions see other objects through look-ups by name only. Two indexes that give the same answers for the names
that a model mentions are told apart by no expression.
-/

namespace TabularAudit

theorem Value.eq_text_of_names {v : Value} {t : String} (names : v.names (some t) = true) : v = .text t := by
  cases v with
  | text s =>
      simp only [Value.names, beq_iff_eq] at names
      rw [names]
  | _ => cases names

theorem Value.display_orElse_text (s : String) : ((Value.text s).orElse (.text "")).display = s := by
  by_cases nothing : s = "" <;> simp [Value.orElse, Value.isEmpty_text, Value.display_text, nothing]

theorem lookup_indexTable (entries : List (String × ModelObject)) (t : ModelObject) (name : String) :
    (indexTable entries t).lookup name = if t.shortName = name then some t else entries.lookup name := by
  induction entries with
  | nil =>
      by_cases same : t.shortName = name
      · simp [indexTable, same]
      · have differ : (name == t.shortName) = false := by simpa using Ne.symm same
        simp [indexTable, List.lookup_cons, same, differ]
  | cons e entries ih =>
      obtain ⟨other, u⟩ := e
      rw [indexTable]
      by_cases taken : other = t.shortName
      · by_cases same : t.shortName = name
        · simp [taken, same]
        · have differ : (name == t.shortName) = false := by simpa using Ne.symm same
          simp [List.lookup_cons, taken, same, differ]
      · by_cases same : other = name
        · subst same
          simp [taken, Ne.symm taken]
        · have differ : (name == other) = false := by simpa using Ne.symm same
          simp [List.lookup_cons, taken, differ, ih]

theorem lookup_foldl_indexTable (ts : List ModelObject) (entries : List (String × ModelObject)) (name : String) :
    (ts.foldl indexTable entries).lookup name =
      ((ts.filter fun t => t.shortName = name).getLast?).or (entries.lookup name) := by
  induction ts generalizing entries with
  | nil => rfl
  | cons t ts ih =>
      rw [List.foldl_cons, ih, lookup_indexTable, List.filter_cons]
      by_cases same : t.shortName = name
      · cases last : (ts.filter fun t => t.shortName = name).getLast? <;> simp [same, last, List.getLast?_cons]
      · simp [same]

namespace Index

variable {os ps : List ModelObject} {c d : Index}

theorem table?_ofObjects (objects : List ModelObject) (name : String) :
    (ofObjects objects).table? name = (objects.filter fun o => o.kind.isTable && o.shortName = name).getLast? := by
  rw [table?]
  change ((objects.filter (·.kind.isTable)).foldl indexTable []).lookup name = _
  rw [lookup_foldl_indexTable, List.filter_filter]
  simp [Bool.and_comm]

theorem column?_ofObjects (objects : List ModelObject) (table name : Value) :
    (ofObjects objects).column? table name =
      (objects.filter fun o => o.kind.isColumn && (table.names o.table && name.names (some o.shortName))).head? := by
  rw [column?]
  change (objects.filter (·.kind.isColumn)).find? _ = _
  rw [List.find?_filter, List.head?_filter]
  simp

/-- Indexes with the same relationships that give the same answers for some names of tables. -/
structure AgreeOn (names : String → Prop) (c d : Index) : Prop where
  relationships : c.relationships = d.relationships
  tableEnds : c.tableEnds = d.tableEnds
  columnEnds : c.columnEnds = d.columnEnds
  table? : ∀ {name}, names name → c.table? name = d.table? name
  column? : ∀ {table : Value}, names (table.orElse (.text "")).display → ∀ name, c.column? table name = d.column? table name
  columns : ∀ {name}, names name →
    (c.columns.filter fun m => m.table = some name).length = (d.columns.filter fun m => m.table = some name).length
  measures : ∀ {name}, names name →
    (c.measures.filter fun m => m.table = some name).length = (d.measures.filter fun m => m.table = some name).length

structure Mentions (names : String → Prop) (objects : List ModelObject) : Prop where
  table : ∀ o ∈ objects, o.kind.isTable = true → names o.shortName
  owner : ∀ o ∈ objects, names (o.table.getD "")
  ends : ∀ r ∈ objects, r.kind = .relationship → ∀ side, names ((r.endTable side).orElse (.text "")).display

theorem mem_of_table? {name : String} {t : ModelObject} (found : (ofObjects os).table? name = some t) : t ∈ os := by
  rw [table?_ofObjects] at found
  exact List.mem_of_mem_filter (List.mem_of_getLast? found)

theorem mem_of_column? {table name : Value} {o : ModelObject} (found : (ofObjects os).column? table name = some o) :
    o ∈ os := by
  rw [column?_ofObjects] at found
  exact List.mem_of_mem_filter (List.mem_of_head? found)

theorem rel_self {x : Option ModelObject} (inside : ∀ {o}, x = some o → o ∈ os) :
    Option.Rel (fun o p => o = p ∧ o ∈ os) x x := by
  cases x with
  | none => exact .none
  | some o => exact .some ⟨rfl, inside rfl⟩

theorem AgreeOn.similar {names : String → Prop} (agree : AgreeOn names (ofObjects os) d) (mentions : Mentions names os) :
    (ofObjects os).Similar (fun o p => o = p ∧ o ∈ os) d where
  agrees := by
    rintro o _ ⟨rfl, -⟩
    exact ⟨rfl, rfl, rfl, rfl, fun name => rfl⟩
  usageCount := by
    rintro o _ ⟨rfl, -⟩
    rw [Expr.usageCount, Expr.usageCount, agree.tableEnds, agree.columnEnds]
  isUsed := by
    rintro o _ ⟨rfl, -⟩
    rw [Expr.isUsed, Expr.isUsed, columnInRelationships, columnInRelationships, agree.tableEnds, agree.columnEnds]
  owner := by
    rintro o _ ⟨rfl, member⟩
    rw [← agree.table? (mentions.owner o member)]
    exact rel_self mem_of_table?
  ends := by
    rintro r _ ⟨rfl, member⟩ kind name
    have ends := mentions.ends r member kind
    rw [Expr.endObject?.eq_def, Expr.endObject?.eq_def]
    split
    · rw [← agree.table? (ends .source)]
      exact rel_self mem_of_table?
    · rw [← agree.table? (ends .target)]
      exact rel_self mem_of_table?
    · rw [← agree.column? (ends .source)]
      exact rel_self mem_of_column?
    · rw [← agree.column? (ends .target)]
      exact rel_self mem_of_column?
    · exact .none
  members := by
    rintro o _ ⟨rfl, member⟩ name
    rw [Expr.members?, Expr.members?]
    cases kind : o.kind.isTable with
    | false => rfl
    | true =>
        have mentioned := mentions.table o member kind
        simp only [Bool.not_true, Bool.false_eq_true, if_false]
        split
        · exact congrArg some (agree.columns mentioned)
        · split
          · exact congrArg some (agree.measures mentioned)
          · rfl
  relationships := by
    rintro o _ ⟨rfl, -⟩
    rw [relationshipsOf, relationshipsOf, ← agree.relationships]
    apply List.forall₂_same.2
    intro r member
    exact ⟨rfl, List.mem_of_mem_filter (List.mem_of_mem_filter member)⟩

end Index

end TabularAudit
