import TabularAudit.Rule.Bundled

/-! Catalogs of rules. -/

namespace TabularAudit

structure Catalog where
  rules : List Rule
  ids_nodup : (rules.map Rule.id).Nodup

namespace Catalog

def ids (c : Catalog) : List String := c.rules.map Rule.id

def sortedTexts (names : List String) : List String :=
  names.eraseDups.mergeSort fun a b => decide (a ≤ b)

def repeated (ids : List String) : List String :=
  sortedTexts (ids.filter fun id => 1 < ids.count id)

def ofRules (rules : List Rule) : Except Fault Catalog :=
  if h : (rules.map Rule.id).Nodup then .ok ⟨rules, h⟩
  else .error (.catalog (.duplicateIds (repeated (rules.map Rule.id))))

/-- The rules of the program itself come last, unless their ids are taken. -/
def withModelRules (rules : List Rule) : List Rule :=
  rules ++ Rule.Bundled.modelRules.filter fun r => !(rules.map Rule.id).contains r.id

def records : Value → Except Fault (List Value)
  | .list rules => .ok rules
  | .map entries =>
    match (Entries.find? entries "Rules").getD ((Entries.find? entries "rules").getD .null) with
    | .list rules => .ok rules
    | _ => .error (.catalog .notRules)
  | _ => .error (.catalog .notRules)

def ofDocument (document : Value) (builtin : Bool) : Except Fault Catalog := do
  let rules ← (← records document).mapM Rule.ofValue
  ofRules (if builtin then withModelRules rules else rules)

def bundled : Except Fault Catalog := ofRules (withModelRules Rule.Bundled.catalogRules)

def find? (c : Catalog) (id : String) : Option Rule := c.rules.find? fun r => r.id == id

def named? (c : Catalog) (name : String) : Option Rule := c.rules.find? fun r => r.name == name

def categories (c : Catalog) : List String := sortedTexts (c.rules.map Rule.category)

def inCategory (c : Catalog) (category : String) : Catalog :=
  ⟨c.rules.filter fun r => r.category == category, c.ids_nodup.sublist (List.filter_sublist.map Rule.id)⟩

/-- No category, or an empty one, keeps every rule. -/
def restrict (c : Catalog) (category : Value) : Catalog :=
  match category with
  | .text s => if s.isEmpty then c else c.inCategory s
  | v => if v.isEmpty then c else ⟨[], List.nodup_nil⟩

def narrowed (c : Catalog) (categories : List String) : Catalog :=
  categories.foldl (fun c category => c.restrict (.text category)) c

theorem ids_ofRules {rules : List Rule} {c : Catalog} (h : ofRules rules = .ok c) : c.rules = rules := by
  unfold ofRules at h
  split at h
  · cases h
    rfl
  · cases h

end Catalog

end TabularAudit
