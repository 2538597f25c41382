import TabularAudit.Expr.Meaning
import TabularAudit.Model.Endpoint
import TabularAudit.Proofs.Binary64
import TabularAudit.Proofs.Expr.Truth
import TabularAudit.Proofs.Snapshot

/-!
Three questions about the relationships of a column: two look its key up in a tally, the third goes
through the relationships and compares their ends part by part.
-/

namespace TabularAudit

namespace Expr

def anyUse : String := "UsedInRelationships.Any()"

def anyUseAtAll : String := "UsedInRelationships.Any(true)"

def someUses : String := "UsedInRelationships.Count() > 0"

def uses (method : String) (args : List Node) : Node := .method (.name "UsedInRelationships" []) method args

theorem parse_anyUse : parse anyUse = .ok (uses "Any" []) := by
  refine (parse_ofList _).trans ?_
  with_unfolding_all rfl

theorem parse_anyUseAtAll : parse anyUseAtAll = .ok (uses "Any" [.literal (.bool true)]) := by
  refine (parse_ofList _).trans ?_
  with_unfolding_all rfl

theorem parse_someUses : parse someUses = .ok (.comparison ">" (uses "Count" []) (.literal (.int 0))) := by
  refine (parse_ofList _).trans ?_
  with_unfolding_all rfl

section
variable (o : ModelObject) (c : Index)

theorem holds_anyUse : holds (.text anyUse) o c = isUsed c o := by
  have call : invocation (.name "UsedInRelationships" []) "Any" 0 = .inhabited ["UsedInRelationships"] := by
    decide
  refine holds_of_eval_eq_ok (v := .bool (isUsed c o)) parse_anyUse ?_
  simp only [uses, eval, List.length_nil, call, hasMembers]
  rfl

theorem holdsForAny_true (env : Env) (rs : List ModelObject) :
    holdsForAny [.literal (.bool true)] env rs = ⟨.ok !rs.isEmpty, []⟩ := by
  cases rs with
  | nil => rfl
  | cons r rs => rfl

theorem holds_anyUseAtAll : holds (.text anyUseAtAll) o c = !(c.relationshipsOf o).isEmpty := by
  have call : invocation (.name "UsedInRelationships" []) "Any" 1 = .relationships := by decide
  refine holds_of_eval_eq_ok (v := .bool (!(c.relationshipsOf o).isEmpty)) parse_anyUseAtAll ?_
  simp only [uses, eval, List.length_cons, List.length_nil, call]
  simp only [holdsForAny_true]
  rfl

theorem compare_zero (n : Nat) : compare ">" (.int n) (.int 0) =
    if n = 0 then .ok false else if (Binary64.ofInt? n).isSome then .ok true else .error .tooLarge := by
  change (Value.toNumber (.int n) >>= fun x => Value.toNumber (.int 0) >>= fun y =>
    pure (Relation.admits .gt (x.compare? y))) = _
  by_cases unused : n = 0
  · subst unused
    simp only [Value.toNumber, Int.ofNat_zero, Binary64.ofInt?_zero, if_true]
    exact congrArg (Except.ok ∘ Relation.admits .gt) Binary64.compare?_zero_zero
  · rcases Binary64.ofInt?_natCast_pos (Nat.pos_of_ne_zero unused) with large | ⟨m, e, finite, positive⟩
    · simp only [Value.toNumber, large, if_neg unused]
      rfl
    · simp only [Value.toNumber, finite, Binary64.ofInt?_zero, if_neg unused]
      exact congrArg (Except.ok ∘ Relation.admits .gt) (Binary64.compare?_zero_of_pos positive e)

theorem holds_someUses : holds (.text someUses) o c =
    (decide (usageCount c o ≠ 0) && (Binary64.ofInt? (usageCount c o)).isSome) := by
  have call : invocation (.name "UsedInRelationships" []) "Count" 0 = .size ["UsedInRelationships"] := by
    decide
  have whole : (eval (.comparison ">" (uses "Count" []) (.literal (.int 0))) ⟨c, none⟩ (some o)).result =
      (compare ">" (.int (usageCount c o)) (.int 0)).map .bool := by
    simp only [uses, eval, List.length_nil, call]
    change ((Traced.ofResult (compare ">" (.int (usageCount c o)) (.int 0))).chain fun b =>
      (pure (.bool b) : Traced Value)).result = _
    cases compare ">" (.int (usageCount c o)) (.int 0) <;> rfl
  rw [compare_zero] at whole
  by_cases unused : usageCount c o = 0
  · rw [if_pos unused] at whole
    rw [holds_of_eval_eq_ok parse_someUses whole, decide_eq_false (not_not_intro unused)]
    rfl
  · rw [if_neg unused] at whole
    cases fits : (Binary64.ofInt? (usageCount c o)).isSome with
    | false =>
        rw [fits] at whole
        rw [holds_of_eval_eq_error parse_someUses whole, Bool.and_false]
    | true =>
        rw [fits] at whole
        rw [holds_of_eval_eq_ok parse_someUses whole, decide_eq_true unused]
        rfl

end

end Expr

section
variable {v : Value} {os : List ModelObject} {c r : ModelObject}

theorem Record.IsName.names_iff (name : Record.IsName v) (t : Option String) :
    v.names t = true ↔ v.text? = t := by
  rcases name with rfl | ⟨s, rfl⟩
  · cases t <;> simp [Value.names, Value.text?]
  · cases t <;> simp [Value.names, Value.text?]

theorem Record.mem_endProperties (side : Side) :
    side.word ++ "Table" ∈ Record.endProperties ∧ side.word ++ "Column" ∈ Record.endProperties := by
  cases side <;> simp [Record.endProperties, Side.word]

def ModelObject.HasNamedEnds (r : ModelObject) : Prop :=
  ∀ side, Record.IsName (r.endTable side) ∧ Record.IsName (r.endColumn side)

theorem hasNamedEnds_of_accepted {snapshot : Value} (accepted : Snapshot.objects snapshot = .ok os) :
    ∀ r ∈ Index.ofKind os .relationship, r.HasNamedEnds := by
  intro r member
  obtain ⟨inside, kind⟩ := List.mem_filter.1 member
  obtain ⟨given, read⟩ := Snapshot.relationship_of_mem_objects accepted inside (by simpa using kind)
  intro side
  obtain ⟨table, column⟩ := Record.mem_endProperties side
  exact ⟨Record.isName_of_relationship read table, Record.isName_of_relationship read column⟩

theorem endsOn_iff (named : r.HasNamedEnds) (column : c.kind.isColumn = true) (side : Side) :
    r.endsOn side c = true ↔ r.endpoint side = c.ownEndpoint := by
  rw [ModelObject.endsOn, Kind.isTable_eq_false column, if_neg Bool.false_ne_true, Bool.and_eq_true, (named side).1.names_iff,
    (named side).2.names_iff]
  simp only [ModelObject.endpoint, ModelObject.ownEndpoint, Endpoint.mk.injEq]

theorem namedEnd_eq (named : r.HasNamedEnds) (side : Side) :
    (if (r.endTable side).isEmpty then none
      else some ((r.endTable side).display, ((r.endColumn side).orElse (.text "")).display)) =
      if (r.endpoint side).namesTable then some (r.endpoint side).names else none := by
  have column : ((r.endColumn side).orElse (.text "")).display = (r.endColumn side).text?.getD "" := by
    rcases (named side).2 with missing | ⟨s, given⟩
    · rw [missing]
      rfl
    · rw [given, Value.orElse, Value.isEmpty_text]
      by_cases empty : s = ""
      · subst empty
        rfl
      · rw [if_neg (by simpa using empty)]
        rfl
  rcases (named side).1 with missing | ⟨s, given⟩
  · simp [ModelObject.endpoint, missing, Value.isEmpty, Value.text?, Endpoint.namesTable]
  · by_cases empty : s = ""
    · simp [ModelObject.endpoint, given, empty, Value.isEmpty_text, Value.text?_text, Endpoint.namesTable]
    · simp [ModelObject.endpoint, given, empty, Value.isEmpty_text, Value.text?_text, Endpoint.namesTable, Endpoint.names,
        column, Value.display_text]

theorem namedEnds_ofObjects (named : ∀ r ∈ Index.ofKind os .relationship, r.HasNamedEnds) :
    Index.namedEnds (Index.ofKind os .relationship) = ((endpoints os).filter Endpoint.namesTable).map Endpoint.names := by
  rw [endpoints]
  generalize Index.ofKind os .relationship = rs at *
  induction rs with
  | nil => rfl
  | cons r rs ih =>
      have one := named r List.mem_cons_self
      have first : ∀ sides : List Side,
          (sides.filterMap fun side =>
            if (r.endTable side).isEmpty then none
            else some ((r.endTable side).display, ((r.endColumn side).orElse (.text "")).display)) =
            ((sides.map r.endpoint).filter Endpoint.namesTable).map Endpoint.names := by
        intro sides
        rw [List.filter_map, List.map_map, ← List.filterMap_eq_map, List.filterMap_filter]
        refine congrArg (fun f => sides.filterMap f) (funext fun side => ?_)
        rw [namedEnd_eq one side]
        rfl
      rw [List.flatMap_cons, List.filter_append, List.map_append, ← first Side.all,
        ← ih fun r member => named r (List.mem_cons_of_mem _ member)]
      rfl

theorem columnEnds_ofObjects (named : ∀ r ∈ Index.ofKind os .relationship, r.HasNamedEnds) :
    (Index.ofObjects os).columnEnds =
      Tally.ofList (((endpoints os).filter Endpoint.namesTable).map Endpoint.key) := by
  change Tally.ofList ((Index.namedEnds (Index.ofKind os .relationship)).map fun e => qualifiedColumn e.1 e.2) = _
  rw [namedEnds_ofObjects named, List.map_map]
  rfl

theorem usageCount_eq (named : ∀ r ∈ Index.ofKind os .relationship, r.HasNamedEnds)
    (column : c.kind.isColumn = true) :
    Expr.usageCount (Index.ofObjects os) c = (keyedEndpoints os c).length := by
  rw [Expr.usageCount, Kind.isTable_eq_false column, if_neg Bool.false_ne_true, columnEnds_ofObjects named,
    Tally.count_ofList, List.count, List.countP_map, List.countP_eq_length_filter, List.filter_filter, keyedEndpoints]
  refine congrArg List.length (List.filter_congr fun e _ => ?_)
  rw [Bool.and_comm]
  rfl

theorem isUsed_iff (named : ∀ r ∈ Index.ofKind os .relationship, r.HasNamedEnds)
    (column : c.kind.isColumn = true) :
    Expr.isUsed (Index.ofObjects os) c = true ↔ keyedEndpoints os c ≠ [] := by
  rw [Expr.isUsed, Kind.isTable_eq_false column, if_neg Bool.false_ne_true, Index.columnInRelationships,
    columnEnds_ofObjects named, Tally.any_ofList, List.any_map, List.any_filter, List.any_eq_true]
  constructor
  · rintro ⟨e, member, keyed⟩
    exact List.ne_nil_of_mem (List.mem_filter.2 ⟨member, keyed⟩)
  · intro some_end
    obtain ⟨e, inside⟩ := List.exists_mem_of_ne_nil _ some_end
    obtain ⟨member, keyed⟩ := List.mem_filter.1 inside
    exact ⟨e, member, keyed⟩

theorem relationshipsOf_iff (named : ∀ r ∈ Index.ofKind os .relationship, r.HasNamedEnds)
    (column : c.kind.isColumn = true) :
    (Index.ofObjects os).relationshipsOf c ≠ [] ↔ c.ownEndpoint ∈ endpoints os := by
  rw [endpoints, List.mem_flatMap]
  constructor
  · intro some_end
    obtain ⟨r, inside⟩ := List.exists_mem_of_ne_nil _ some_end
    obtain ⟨member, ends⟩ := List.mem_filter.1 inside
    obtain ⟨side, present, on⟩ := List.any_eq_true.1 ends
    exact ⟨r, member, List.mem_map.2 ⟨side, present, (endsOn_iff (named r member) column side).1 on⟩⟩
  · rintro ⟨r, member, own⟩
    obtain ⟨side, present, same⟩ := List.mem_map.1 own
    have on := (endsOn_iff (named r member) column side).2 same
    exact List.ne_nil_of_mem (List.mem_filter.2 ⟨member, List.any_eq_true.2 ⟨side, present, on⟩⟩)

theorem key_mem_of_own (own : c.ownEndpoint ∈ endpoints os) (table : c.ownEndpoint.namesTable = true) :
    keyedEndpoints os c ≠ [] :=
  List.ne_nil_of_mem (List.mem_filter.2 ⟨own, by rw [table, beq_self_eq_true]; rfl⟩)

theorem holds_anyUse_iff (named : ∀ r ∈ Index.ofKind os .relationship, r.HasNamedEnds)
    (column : c.kind.isColumn = true) :
    Expr.holds (.text Expr.anyUse) c (Index.ofObjects os) = true ↔ keyedEndpoints os c ≠ [] := by
  rw [Expr.holds_anyUse]
  exact isUsed_iff named column

theorem holds_someUses_iff (named : ∀ r ∈ Index.ofKind os .relationship, r.HasNamedEnds)
    (column : c.kind.isColumn = true) :
    Expr.holds (.text Expr.someUses) c (Index.ofObjects os) = true ↔
      keyedEndpoints os c ≠ [] ∧ (Binary64.ofInt? (keyedEndpoints os c).length).isSome = true := by
  rw [Expr.holds_someUses, usageCount_eq named column, Bool.and_eq_true, decide_eq_true_iff, ne_eq,
    List.length_eq_zero_iff]

theorem holds_anyUseAtAll_iff (named : ∀ r ∈ Index.ofKind os .relationship, r.HasNamedEnds)
    (column : c.kind.isColumn = true) :
    Expr.holds (.text Expr.anyUseAtAll) c (Index.ofObjects os) = true ↔ c.ownEndpoint ∈ endpoints os := by
  rw [Expr.holds_anyUseAtAll, ← relationshipsOf_iff named column, Bool.not_eq_true', ne_eq, ← List.isEmpty_iff,
    Bool.not_eq_true]

/-- Any() and Count() follow the keys of the ends, Any(true) their parts. All agree about a column, and with its
being an end, exactly if the key is not taken by other ends alone, the count is no overflow, and a column
without a table is no end of a relationship unless its key is taken too. -/
theorem relationship_use_of_column {snapshot : Value} (accepted : Snapshot.objects snapshot = .ok os)
    (column : c.kind.isColumn = true) :
    (Expr.holds (.text Expr.anyUse) c (Index.ofObjects os) = true ↔ keyedEndpoints os c ≠ []) ∧
    (Expr.holds (.text Expr.someUses) c (Index.ofObjects os) = true ↔
      keyedEndpoints os c ≠ [] ∧ (Binary64.ofInt? (keyedEndpoints os c).length).isSome = true) ∧
    (Expr.holds (.text Expr.anyUseAtAll) c (Index.ofObjects os) = true ↔ c.ownEndpoint ∈ endpoints os) ∧
    (((Expr.holds (.text Expr.anyUse) c (Index.ofObjects os) = true ↔ c.ownEndpoint ∈ endpoints os) ∧
        (Expr.holds (.text Expr.someUses) c (Index.ofObjects os) = true ↔ c.ownEndpoint ∈ endpoints os) ∧
        (Expr.holds (.text Expr.anyUseAtAll) c (Index.ofObjects os) = true ↔ c.ownEndpoint ∈ endpoints os)) ↔
      (keyedEndpoints os c ≠ [] →
        c.ownEndpoint ∈ endpoints os ∧ (Binary64.ofInt? (keyedEndpoints os c).length).isSome = true) ∧
      (c.ownEndpoint ∈ endpoints os → c.ownEndpoint.namesTable = true ∨ keyedEndpoints os c ≠ [])) := by
  have named := hasNamedEnds_of_accepted accepted
  refine ⟨holds_anyUse_iff named column, holds_someUses_iff named column, holds_anyUseAtAll_iff named column, ?_⟩
  rw [holds_anyUse_iff named column, holds_someUses_iff named column, holds_anyUseAtAll_iff named column]
  constructor
  · rintro ⟨keyed, counted, -⟩
    constructor
    · intro taken
      have own := keyed.1 taken
      exact ⟨own, (counted.2 own).2⟩
    · intro own
      exact .inr (keyed.2 own)
  · rintro ⟨enough, needed⟩
    have keyed : keyedEndpoints os c ≠ [] ↔ c.ownEndpoint ∈ endpoints os := by
      constructor
      · intro taken
        exact (enough taken).1
      · intro own
        rcases needed own with table | taken
        · exact key_mem_of_own own table
        · exact taken
    refine ⟨keyed, ?_, Iff.rfl⟩
    constructor
    · intro counted
      exact keyed.1 counted.1
    · intro own
      have taken := keyed.2 own
      exact ⟨taken, (enough taken).2⟩

def oneColumn (table column endTable endColumn : String) : Value :=
  .map [("columns", .list [.map [("Name", .text column), ("TableName", .text table)]]),
    ("relationships", .list [.map [("FromTable", .text endTable), ("FromColumn", .text endColumn),
      ("ToTable", .text "Date"), ("ToColumn", .text "Day")]])]

theorem exists_of_accepted (snapshot : Value) (p : List ModelObject → ModelObject → Bool)
    (checked : (Snapshot.objects snapshot).toOption.any (fun os => os.any (p os)) = true) :
    ∃ os, Snapshot.objects snapshot = .ok os ∧ ∃ c ∈ os, p os c = true := by
  obtain ⟨os, accepted, found⟩ := Snapshot.exists_of_accepts snapshot _ checked
  exact ⟨os, accepted, List.any_eq_true.1 found⟩

theorem relationship_use_of_sales :
    ∃ os c, Snapshot.objects (oneColumn "Sales" "Day" "Sales" "Day") = .ok os ∧ c ∈ os ∧ c.kind.isColumn = true ∧
      c.ownEndpoint ∈ endpoints os ∧ Expr.holds (.text Expr.anyUse) c (Index.ofObjects os) = true ∧
      Expr.holds (.text Expr.someUses) c (Index.ofObjects os) = true ∧
      Expr.holds (.text Expr.anyUseAtAll) c (Index.ofObjects os) = true := by
  -- The ends are evaluated against what is written here, and compared with each other only then.
  obtain ⟨os, accepted, c, member, checked⟩ :=
    exists_of_accepted (oneColumn "Sales" "Day" "Sales" "Day") (fun os c => decide (c.kind.isColumn = true ∧
      c.ownEndpoint = ⟨some "Sales", some "Day"⟩ ∧
      endpoints os = [⟨some "Sales", some "Day"⟩, ⟨some "Date", some "Day"⟩])) (by decide +kernel)
  obtain ⟨column, own, ends⟩ := of_decide_eq_true checked
  have keyed : keyedEndpoints os c = [⟨some "Sales", some "Day"⟩] := by
    rw [keyedEndpoints, ends, own]
    decide +kernel
  have taken : keyedEndpoints os c ≠ [] := by simp [keyed]
  have isEnd : c.ownEndpoint ∈ endpoints os := by simp [own, ends]
  obtain ⟨keys, counts, scans, -⟩ := relationship_use_of_column accepted column
  exact ⟨os, c, accepted, member, column, isEnd, keys.2 taken, counts.2 ⟨taken, by rw [keyed]; decide⟩, scans.2 isEnd⟩

/-- The column `C` of the table `A[B` has the key of the column `B[C` of the table `A`. -/
theorem relationship_use_of_shared_key :
    ∃ os c, Snapshot.objects (oneColumn "A[B" "C" "A" "B[C") = .ok os ∧ c ∈ os ∧ c.kind.isColumn = true ∧
      Expr.holds (.text Expr.anyUse) c (Index.ofObjects os) = true ∧
      Expr.holds (.text Expr.someUses) c (Index.ofObjects os) = true ∧
      Expr.holds (.text Expr.anyUseAtAll) c (Index.ofObjects os) = false ∧ c.ownEndpoint ∉ endpoints os := by
  obtain ⟨os, accepted, c, member, checked⟩ :=
    exists_of_accepted (oneColumn "A[B" "C" "A" "B[C") (fun os c => decide (c.kind.isColumn = true ∧
      c.ownEndpoint = ⟨some "A[B", some "C"⟩ ∧
      endpoints os = [⟨some "A", some "B[C"⟩, ⟨some "Date", some "Day"⟩])) (by decide +kernel)
  obtain ⟨column, own, ends⟩ := of_decide_eq_true checked
  have named := hasNamedEnds_of_accepted accepted
  have keyed : keyedEndpoints os c = [⟨some "A", some "B[C"⟩] := by
    rw [keyedEndpoints, ends, own]
    decide +kernel
  have taken : keyedEndpoints os c ≠ [] := by simp [keyed]
  have absent : c.ownEndpoint ∉ endpoints os := by simp [own, ends]
  refine ⟨os, c, accepted, member, column, (holds_anyUse_iff named column).2 taken, ?_, ?_, absent⟩
  · exact (holds_someUses_iff named column).2 ⟨taken, by rw [keyed]; decide⟩
  · exact Bool.eq_false_iff.2 fun scanned => absent ((holds_anyUseAtAll_iff named column).1 scanned)

end

end TabularAudit
