import Mathlib.Data.List.Basic
import TabularAudit.Proofs.Run.Merge
import TabularAudit.Proofs.Run.Pool
import TabularAudit.Proofs.Snapshot

/-!
A run reports the first violation of each key, and skips the rules that cannot be evaluated, whoever
evaluates them and in whatever order.
-/

namespace TabularAudit

namespace Value

theorem before_int (m n : Int) : before (.int m) (.int n) = .ok (decide (m < n)) := by
  have whole : ∀ k : Int, ((Binary64.signed (decide (k < 0)) k.natAbs : Int) : Rat) * (2 : Rat) ^ (0 : Int) = k := by
    intro k
    have back : Binary64.signed (decide (k < 0)) k.natAbs = k := by
      simp only [Binary64.signed, decide_eq_true_eq]
      split <;> omega
    rw [back, Rat.zpow_zero, Rat.mul_one]
  simp only [before, magnitude?, Binary64.compare?, whole]
  refine congrArg Except.ok ?_
  rw [Bool.eq_iff_iff, beq_iff_eq, Option.some.injEq, compareOfLessAndEq_eq_lt, decide_eq_true_iff,
    Rat.intCast_lt_intCast]

end Value

namespace Rule

variable {r : Rule} {raw : Value} {objects : List ModelObject} {c : Index}

/-- The numbers of a rule that was read are whole. -/
structure IsRead (r : Rule) : Prop where
  severity : ∃ n, r.severity = .int n
  threshold : r.threshold = .null ∨ ∃ n, r.threshold = .int n

theorem eq_ok_of_inField {α : Type} {id : Value} {x : Except Fault α} {a : α} (ok : inField id x = .ok a) :
    x = .ok a := by
  rw [inField.eq_def] at ok
  split at ok
  · cases ok
  · cases ok
  · exact ok

theorem eq_null_or_int_of_wholeOrNull {v w : Value} (ok : wholeOrNull v = .ok w) : w = .null ∨ ∃ n, w = .int n := by
  rw [wholeOrNull.eq_def] at ok
  split at ok
  · cases ok
    exact .inl rfl
  · obtain ⟨n, -, rfl⟩ := exists_of_map_eq_ok ok
    exact .inr ⟨n, rfl⟩

theorem isRead_of_ofValue (read : ofValue raw = .ok r) : r.IsRead := by
  obtain ⟨b, -, read⟩ := exists_of_bind_eq_ok read
  simp only [ofBag] at read
  split at read
  · cases read
  · obtain ⟨severity, -, read⟩ := exists_of_bind_eq_ok read
    obtain ⟨level, -, read⟩ := exists_of_bind_eq_ok read
    obtain ⟨threshold, readThreshold, read⟩ := exists_of_bind_eq_ok read
    cases read
    exact ⟨⟨severity, rfl⟩, eq_null_or_int_of_wholeOrNull (eq_ok_of_inField readThreshold)⟩

theorem finding_eq (isRead : r.IsRead) {object : String} (named : object ≠ "") (kind : Kind) :
    r.finding object kind = .ok (r.report object kind.text) := by
  obtain ⟨n, severity⟩ := isRead.severity
  rw [finding, severity, report, severityNumber, severity, if_neg named]
  rfl

theorem objectFinding?_eq (isRead : r.IsRead) {o : ModelObject} (named : o.name ≠ "") :
    r.objectFinding? c o = if Expr.holds r.expression o c then some (r.report o.name o.kind.text) else none := by
  rw [objectFinding?, finding_eq isRead named]
  rfl

theorem objectFindings_eq (isRead : r.IsRead) (named : ∀ o ∈ objects, o.name ≠ "") {scope : String}
    (text : r.scope = .text scope) : r.objectFindings objects c = .ok (r.objectViolations scope objects c) := by
  rw [objectFindings, text]
  refine congrArg Except.ok ?_
  rw [objectViolations, List.filterMap_filter, ← List.filterMap_eq_map, List.filterMap_filter]
  refine List.filterMap_congr ?_
  intro o member
  rw [objectFinding?_eq isRead (named o member), isViolatedBy]
  cases (Scope.kinds scope).contains o.kind.text <;> cases Expr.holds r.expression o c <;> rfl

theorem count_toOption (r : Rule) (c : Index) : (r.count c).toOption = r.known? c := by
  rw [count, known?]
  cases r.aggregate with
  | text name =>
      simp only
      cases c.aggregate? name <;> rfl
  | _ => rfl

theorem thresholdFindings_eq (isRead : r.IsRead) (named : c.modelName ≠ "") {limit : Int}
    (threshold : r.threshold = .int limit) :
    (r.thresholdFindings c).toOption = (r.known? c).map fun n => r.thresholdViolations limit n c := by
  rw [← count_toOption, thresholdFindings, threshold, finding_eq isRead named]
  cases r.count c with
  | error fault => rfl
  | ok n =>
      change (Value.before (.int limit) (.int n) >>= fun exceeded =>
        if exceeded = true then Except.ok [r.report c.modelName "Model"] else Except.ok []).toOption = _
      rw [Value.before_int]
      change (if decide (limit < n) = true then Except.ok [r.report c.modelName "Model"] else Except.ok []).toOption =
        some (r.thresholdViolations limit n c)
      rw [thresholdViolations]
      by_cases exceeded : limit < n
      · rw [if_pos exceeded, if_pos (decide_eq_true exceeded)]
        rfl
      · rw [if_neg exceeded, if_neg (by simpa using exceeded)]
        rfl

theorem findings_eq (isRead : r.IsRead) (named : ∀ o ∈ objects, o.name ≠ "") (model : c.modelName ≠ "") :
    (r.findings objects c).toOption = r.violations? objects c := by
  rw [findings, violations?]
  rcases isRead.threshold with threshold | ⟨limit, threshold⟩
  · have perObject : r.isThreshold = false := by rw [Rule.isThreshold, threshold]
    rw [perObject, if_neg Bool.false_ne_true, threshold]
    cases scope : r.scope with
    | text s =>
        rw [objectFindings_eq isRead named scope]
        rfl
    | _ =>
        rw [objectFindings, scope]
        rfl
  · have isThreshold : r.isThreshold = true := by rw [Rule.isThreshold, threshold]
    rw [isThreshold, if_pos rfl, thresholdFindings_eq isRead model threshold, threshold]

theorem isSkipped_eq (isRead : r.IsRead) : r.isSkipped c = (r.violations? objects c).isNone := by
  rw [isSkipped, violations?]
  rcases isRead.threshold with threshold | ⟨limit, threshold⟩
  · have perObject : r.isThreshold = false := by rw [Rule.isThreshold, threshold]
    rw [perObject, if_neg Bool.false_ne_true, threshold]
    cases r.scope <;> rfl
  · have isThreshold : r.isThreshold = true := by rw [Rule.isThreshold, threshold]
    rw [isThreshold, if_pos rfl, threshold]
    cases r.known? c <;> rfl

theorem namesObject_of_mem_violations {f : Finding} (member : f ∈ (r.violations? objects c).getD []) :
    f.NamesObject := by
  rw [violations?] at member
  split at member
  · obtain ⟨o, -, rfl⟩ := List.mem_map.1 member
    exact ⟨o.name, rfl⟩
  · cases known : r.known? c with
    | none => rw [known] at member; cases member
    | some n =>
        rw [known] at member
        simp only [Option.map_some, Option.getD_some, thresholdViolations] at member
        split at member
        · obtain rfl := List.mem_singleton.1 member
          exact ⟨c.modelName, rfl⟩
        · cases member
  · cases member

end Rule

theorem Index.modelName_ne_empty {objects : List ModelObject} (named : ∀ o ∈ objects, o.name ≠ "") :
    (Index.ofObjects objects).modelName ≠ "" := by
  change Index.modelNameOf objects ≠ ""
  rw [Index.modelNameOf]
  split
  · next o last => exact named o (List.mem_filter.1 (List.mem_of_getLast? last)).1
  · decide

namespace Run

/-- A run reports the first violation of each key in the order of the rules and, inside a rule, of the
objects. Keys are distinct, no violation is lost, and the rules that cannot be evaluated are skipped. Every
object has a name, as `ModelObject.named` gives it one. -/
theorem reports_first_violations (workers : Int) (order : Nat → Nat) {rules : List Rule} {objects : List ModelObject}
    (read : ∀ r ∈ rules, ∃ raw, Rule.ofValue raw = .ok r) (named : ∀ o ∈ objects, o.name ≠ "") :
    let c := Index.ofObjects objects
    let run := ofRulesWith workers order rules objects
    let violations := rules.flatMap fun r => (r.violations? objects c).getD []
    run.findings = Finding.firsts violations ∧ run.findings.Sublist violations ∧
      run.findings.Pairwise (fun f g => f.key ≠ g.key) ∧
      (∀ f ∈ violations, ∃ g ∈ run.findings, g.key = f.key) ∧
      (∀ f ∈ run.findings, ∃ before behind, violations = before ++ f :: behind ∧ ∀ g ∈ before, g.key ≠ f.key) ∧
      run.skipped = (rules.filter fun r => r.isSkipped c).map Rule.id ∧
      run.evaluated = (rules.filter fun r => !r.isSkipped c).length ∧
      run.evaluated + run.skipped.length = rules.length := by
  intro c run violations
  have model : c.modelName ≠ "" := Index.modelName_ne_empty named
  have isRead : ∀ r ∈ rules, r.IsRead := by
    intro r member
    obtain ⟨raw, ok⟩ := read r member
    exact Rule.isRead_of_ofValue ok
  have attempts : run = ofAttempts (rules.map (Attempt.ofRule objects c)) := ofRulesWith_eq_ofRules workers order rules objects
  have found : (rules.map (Attempt.ofRule objects c)).flatMap Attempt.found = violations := by
    rw [List.flatMap_map]
    refine List.flatMap_congr ?_
    intro r member
    exact congrArg (·.getD []) (Rule.findings_eq (isRead r member) named model)
  have failed : ∀ r ∈ rules, (Attempt.ofRule objects c r).failed = r.isSkipped c := by
    intro r member
    have attempted : (Attempt.ofRule objects c r).failed = (r.violations? objects c).isNone :=
      congrArg Option.isNone (Rule.findings_eq (isRead r member) named model)
    rw [attempted, ← Rule.isSkipped_eq (isRead r member)]
  have texts : ∀ f ∈ (rules.map (Attempt.ofRule objects c)).flatMap Attempt.found, f.NamesObject := by
    intro f member
    rw [found] at member
    obtain ⟨r, -, inside⟩ := List.mem_flatMap.1 member
    exact Rule.namesObject_of_mem_violations inside
  have tells := tells_ofAttempts (rules.map (Attempt.ofRule objects c)) texts
  have findings : run.findings = Finding.firsts violations := by
    rw [attempts, ← found]
    exact tells.findings
  have skipped : run.skipped = (rules.filter fun r => r.isSkipped c).map Rule.id := by
    rw [attempts]
    refine tells.skipped.trans ?_
    rw [List.filter_map, List.map_map, List.filter_congr (q := fun r => r.isSkipped c) failed]
    rfl
  have evaluated : run.evaluated = (rules.filter fun r => !r.isSkipped c).length := by
    rw [attempts]
    refine tells.evaluated.trans ?_
    rw [List.filter_map, List.length_map]
    refine congrArg List.length (List.filter_congr ?_)
    intro r member
    exact congrArg not (failed r member)
  refine ⟨findings, ?_, ?_, ?_, ?_, skipped, evaluated, ?_⟩
  · rw [findings]
    exact Finding.firsts_sublist violations
  · rw [findings]
    exact Finding.pairwise_firsts violations
  · intro f member
    have kept := (Finding.mem_keys_firsts violations f.key).2 (List.mem_map_of_mem member)
    rw [findings]
    exact List.mem_map.1 kept
  · intro f member
    rw [findings] at member
    exact Finding.split_of_mem_firsts member
  · rw [evaluated, skipped, List.length_map, Nat.add_comm]
    exact (List.length_eq_length_filter_add _).symm

theorem reports_first_violations_of_repeated_rule :
    ∃ r, Rule.ofValue (.map [("ID", .text "R"), ("Scope", .text "Table"), ("Expression", .text "true")]) = .ok r ∧
      (ofRulesWith 4 id [r, r] [⟨"Sales", .table, {}, none, none⟩]).findings.Pairwise (fun f g => f.key ≠ g.key) ∧
      (ofRulesWith 4 id [r, r] [⟨"Sales", .table, {}, none, none⟩]).evaluated +
        (ofRulesWith 4 id [r, r] [⟨"Sales", .table, {}, none, none⟩]).skipped.length = 2 := by
  have accepted : (Rule.ofValue (.map [("ID", .text "R"), ("Scope", .text "Table"),
      ("Expression", .text "true")])).toOption.isSome = true := by decide
  cases read : Rule.ofValue (.map [("ID", .text "R"), ("Scope", .text "Table"), ("Expression", .text "true")]) with
  | error fault =>
      rw [read] at accepted
      cases accepted
  | ok r =>
      have reports := @reports_first_violations 4 id [r, r] [⟨"Sales", .table, {}, none, none⟩]
        (by simp only [List.mem_cons, List.not_mem_nil, or_false, or_self, forall_eq]; exact ⟨_, read⟩)
        (by simp)
      exact ⟨r, rfl, reports.2.2.1, reports.2.2.2.2.2.2.2⟩

end Run

end TabularAudit
