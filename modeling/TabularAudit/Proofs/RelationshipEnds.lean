import TabularAudit.Model.PlainEnds
import TabularAudit.Proofs.Expr.Truth
import TabularAudit.Proofs.RelationshipUse

/-!
What an expression reads as the name of an end of a relationship. A record whose ends are texts gives a relationship
whose ends are texts, and its aliases stay as they are.
-/

namespace TabularAudit

theorem Bag.find?_of_get_eq {b : Bag} {name : String} {v : Value} (stored : b.get name = v) (given : v ≠ .null) :
    b.find? name = some v := by
  rw [Bag.get] at stored
  cases found : b.find? name with
  | none =>
      rw [found] at stored
      exact absurd stored.symm given
  | some w =>
      rw [found] at stored
      exact congrArg some stored

namespace Record

variable {given : Bag} {property name : String} {r : ModelObject}

theorem find?_withEnds {properties : List String} (apart : ∀ property ∈ properties, Bag.fold property ≠ Bag.fold name)
    (b : Bag) : (properties.foldl (withEnd given) b).find? name = b.find? name := by
  induction properties generalizing b with
  | nil => rfl
  | cons property properties ih =>
      have stored : (withEnd given b property).find? name = b.find? name := by
        rw [withEnd]
        split
        · exact Bag.find?_put_of_ne (apart property List.mem_cons_self) b _
        · rfl
      rw [List.foldl_cons, ih fun other member => apart other (List.mem_cons_of_mem _ member), stored]

theorem exists_text_of_relationship (accepted : relationship given = .ok r) (texts : hasTextEnds given = true)
    (member : property ∈ endProperties) : ∃ s, r.properties.get property = .text s := by
  rw [get_end_of_relationship accepted member]
  rcases get_withEnds given endProperties given property with same | stored
  · have isText := List.all_eq_true.1 texts property member
    rw [same]
    cases stored : given.get property with
    | text s => exact ⟨s, rfl⟩
    | _ =>
        rw [stored] at isText
        cases isText
  · exact stored

theorem find?_alias_of_relationship (accepted : relationship given = .ok r) (plain : hasEndAlias given = false)
    (member : property ∈ endProperties) (isAlias : name ∈ endAliases property) : r.properties.find? name = none := by
  have elsewhere : ∀ property ∈ endProperties, ∀ name ∈ endAliases property,
      ∀ other ∈ factProperties ++ endProperties, Bag.fold other ≠ Bag.fold name := by decide
  have apart := elsewhere property member name isAlias
  rw [find?_of_relationship accepted fun other inside => apart other (List.mem_append_left _ inside),
    find?_withEnds fun other inside => apart other (List.mem_append_right _ inside)]
  have missing := List.any_eq_false.1 plain property member
  rw [Bool.not_eq_true] at missing
  simpa using List.any_eq_false.1 missing name isAlias

end Record

namespace Snapshot

variable {snapshot : Value} {os : List ModelObject} {given : List Bag} {r : ModelObject}

theorem exists_record_of_relationship (accepted : objects snapshot = .ok os)
    (records : relationshipRecords snapshot = .ok given) (member : r ∈ Index.ofKind os .relationship) :
    ∃ b ∈ given, Record.relationship b = .ok r := by
  rw [objects_eq] at accepted
  obtain ⟨s, found, rfl⟩ := exists_of_map_eq_ok accepted
  obtain ⟨inside, kind⟩ := List.mem_filter.1 member
  have present := mem_relationships_of_kind (areRead_of_sections found) inside (by simpa using kind)
  obtain ⟨b, bag, found⟩ := exists_of_bind_eq_ok found
  obtain ⟨rawTables, -, found⟩ := exists_of_bind_eq_ok found
  obtain ⟨nested, -, found⟩ := exists_of_bind_eq_ok found
  obtain ⟨tables, -, found⟩ := exists_of_bind_eq_ok found
  obtain ⟨rawColumns, -, found⟩ := exists_of_bind_eq_ok found
  obtain ⟨columns, -, found⟩ := exists_of_bind_eq_ok found
  obtain ⟨rawMeasures, -, found⟩ := exists_of_bind_eq_ok found
  obtain ⟨measures, -, found⟩ := exists_of_bind_eq_ok found
  obtain ⟨raw, rawRelationships, found⟩ := exists_of_bind_eq_ok found
  obtain ⟨relationships, read, found⟩ := exists_of_bind_eq_ok found
  obtain ⟨model, -, found⟩ := exists_of_bind_eq_ok found
  cases found
  -- Both readings go through the same section.
  obtain ⟨v, first, one⟩ := exists_of_mem_mapM read r present
  obtain ⟨record, value, one⟩ := exists_of_bind_eq_ok one
  obtain ⟨b', bag', records⟩ := exists_of_bind_eq_ok records
  obtain ⟨raw', rawRelationships', records⟩ := exists_of_bind_eq_ok records
  obtain rfl : b = b' := Except.ok.inj (bag.symm.trans bag')
  obtain rfl : raw = raw' := Except.ok.inj (rawRelationships.symm.trans rawRelationships')
  exact ⟨record, mem_of_mapM records first value, one⟩

theorem exists_text_of_records (accepted : objects snapshot = .ok os)
    (records : relationshipRecords snapshot = .ok given) (texts : ∀ b ∈ given, Record.hasTextEnds b = true)
    (member : r ∈ Index.ofKind os .relationship) (side : Side) : ∃ s, r.endTable side = .text s := by
  obtain ⟨b, present, read⟩ := exists_record_of_relationship accepted records member
  exact Record.exists_text_of_relationship read (texts b present) (Record.mem_endProperties side).1

theorem endLabel_of_records (accepted : objects snapshot = .ok os)
    (records : relationshipRecords snapshot = .ok given) (plain : ∀ b ∈ given, Record.hasEndAlias b = false)
    (member : r ∈ Index.ofKind os .relationship) (side : Side) : r.endLabel side = r.endTable side := by
  obtain ⟨b, present, read⟩ := exists_record_of_relationship accepted records member
  have missing : (Record.endAliases (side.word ++ "Table")).findSome? r.properties.find? = none := by
    apply List.findSome?_eq_none_iff.2
    intro name isAlias
    exact Record.find?_alias_of_relationship read (plain b present) (Record.mem_endProperties side).1 isAlias
  rw [ModelObject.endLabel, missing]
  rfl

theorem exists_plain_records (snapshot : Value) (checked : (relationshipRecords snapshot).toOption.any
      (fun given => decide (∀ b ∈ given, Record.hasTextEnds b = true ∧ Record.hasEndAlias b = false)) = true) :
    ∃ given, relationshipRecords snapshot = .ok given ∧ (∀ b ∈ given, Record.hasTextEnds b = true) ∧
      ∀ b ∈ given, Record.hasEndAlias b = false := by
  obtain ⟨given, records, plain⟩ := exists_of_toOption_any checked
  have each := of_decide_eq_true plain
  exact ⟨given, records, fun b member => (each b member).1, fun b member => (each b member).2⟩

end Snapshot

namespace Expr

variable {env : Env} {r : ModelObject} {s : String}

theorem denote_endName {owner : String} (isEnd : owner = "FromTable" ∨ owner = "ToTable")
    (stored : r.properties.get owner = .text s) :
    denote env (some r) owner ["Name"] =
      .ok (((Record.endAliases owner).findSome? r.properties.find?).getD (.text s)) := by
  have noFamily : (families.contains owner && ["Name"].length == 1) = false := by
    rcases isEnd with rfl | rfl <;> decide
  have noWord : owner ≠ "current" ∧ owner ≠ "Table" := by rcases isEnd with rfl | rfl <;> decide
  have noCount : countedCollection? [owner, "Name"] = none := by rcases isEnd with rfl | rfl <;> decide
  have noLength : ["Name"].getLast? ≠ some "Length" := by decide
  have aliases : joinedProperty? r [owner, "Name"] = (Record.endAliases owner).findSome? r.properties.find? := by
    have spelled : Text.join "." [owner, "Name"] = owner ++ ".Name" ∧ Text.join "" [owner, "Name"] = owner ++ "Name" := by
      rcases isEnd with rfl | rfl <;> decide
    rw [joinedProperty?, spelled.1, spelled.2, Record.endAliases, List.findSome?_cons, List.findSome?_singleton]
    cases r.properties.find? (owner ++ ".Name") <;> rfl
  have whole : (endProperty? env.index r [owner, "Name"]).getD .null = .text s := by
    rw [endProperty?, if_pos rfl, Bag.find?_of_get_eq stored (by simp)]
    rfl
  rw [denote, noFamily, if_neg Bool.false_ne_true, if_neg noWord.1, if_neg noWord.2, noCount, ← aliases]
  simp only [receiver, noLength, if_false, whole, bind, Except.bind]
  cases joinedProperty? r [owner, "Name"] <;> rfl

theorem eval_endLabel (env : Env) (side : Side) (stored : r.endTable side = .text s) :
    (eval (.name (side.word ++ "Table") ["Name"]) env (some r)).result = .ok (r.endLabel side) := by
  have isEnd : side.word ++ "Table" = "FromTable" ∨ side.word ++ "Table" = "ToTable" := by cases side <;> decide
  rw [eval, Traced.result_ofResult, denote_endName isEnd stored, ModelObject.endLabel, stored]

end Expr

end TabularAudit
