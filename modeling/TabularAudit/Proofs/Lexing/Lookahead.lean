import TabularAudit.Expr.Token

/-!
How far a lexeme looks ahead: what stands behind it does not change it, unless it begins with a character that the
lexeme could go on with.
-/

namespace TabularAudit.Expr

/-- Characters that lexemes of several characters can go on with. -/
def isLink (c : Char) : Bool :=
  isWordChar c || Text.isDigit c || Text.isDecimal c || c == '.' || c == '=' || c == '>'

theorem forall_of_isWordStart {p : Char → Prop}
    (all : ∀ n ∈ Text.Ranges.codes [(65, 90), (95, 95), (97, 122)], p (Char.ofNat n)) {c : Char}
    (start : isWordStart c = true) : p c := by
  have here := all c.toNat (Text.Ranges.mem_codes_of_has (by
    simp only [isWordStart, Text.isAsciiLetter, Bool.or_eq_true, Bool.and_eq_true, decide_eq_true_eq, beq_iff_eq] at start
    rcases start with (⟨low, high⟩ | ⟨low, high⟩) | rfl
    · have low : 97 ≤ c.toNat := low
      exact Text.Ranges.has_cons_of_has (by omega)
        (Text.Ranges.has_cons_of_has (by omega) (Text.Ranges.has_cons_of_mem _ low high))
    · exact Text.Ranges.has_cons_of_mem _ low high
    · rfl))
  rwa [Char.ofNat_toNat] at here

theorem eq_of_isQuote {c : Char} (quotes : isQuote c = true) : c = '"' ∨ c = '\'' := by
  simpa [isQuote] using quotes

theorem isLink_of_isQuote {c : Char} (quotes : isQuote c = true) : isLink c = false := by
  rcases eq_of_isQuote quotes with rfl | rfl <;> decide

theorem isLink_of_isBlank {c : Char} (blank : Text.isBlank c = true) : isLink c = false :=
  Text.forall_of_isBlank (p := fun c => isLink c = false) (by decide) blank

/-- Characters that go on with a lexeme only behind themselves. -/
def isTwin (c : Char) : Bool := c == '&' || c == '|'

theorem eq_of_twins {c : Char} {cs : List Char} (twin : isTwin c = true) (next : cs.head? = some c) :
    (∃ us, c = '&' ∧ cs = '&' :: us) ∨ ∃ us, c = '|' ∧ cs = '|' :: us := by
  obtain ⟨us, rfl⟩ := List.head?_eq_some_iff.1 next
  simp only [isTwin, Bool.or_eq_true, beq_iff_eq] at twin
  rcases twin with rfl | rfl
  · exact .inl ⟨us, rfl, rfl⟩
  · exact .inr ⟨us, rfl, rfl⟩

def BeginsWithout (p : Char → Bool) (cs : List Char) : Prop := ∀ c ∈ cs.head?, p c = false

@[simp] theorem beginsWithout_nil (p : Char → Bool) : BeginsWithout p [] := by simp [BeginsWithout]

@[simp] theorem beginsWithout_cons (p : Char → Bool) (c : Char) (cs : List Char) :
    BeginsWithout p (c :: cs) ↔ p c = false := by
  simp [BeginsWithout]

/-- A relation of texts that begin alike and go on related, as far as a lexeme could go on. -/
def SideBySide (R : List Char → List Char → Prop) : Prop :=
  ∀ ⦃cs ds⦄, R cs ds →
    (∃ c us vs, cs = c :: us ∧ ds = c :: vs ∧ R us vs) ∨
      BeginsWithout isLink cs ∧ BeginsWithout (fun c => isLink c || isTwin c) ds

section
variable {R : List Char → List Char → Prop} {p q : Char → Bool} {c : Char} {cs ds : List Char}

theorem BeginsWithout.mono (free : BeginsWithout q cs) (within : ∀ c, p c = true → q c = true) : BeginsWithout p cs := by
  intro c head
  simpa [free c head] using within c

theorem BeginsWithout.takeWhile (free : BeginsWithout p cs) : cs.takeWhile p = [] ∧ cs.dropWhile p = cs := by
  cases cs with
  | nil => exact ⟨rfl, rfl⟩
  | cons c cs =>
      have first := free c rfl
      simp [first]

theorem SideBySide.takeWhile (side : SideBySide R) (related : R cs ds) (within : ∀ c, p c = true → isLink c = true) :
    ds.takeWhile p = cs.takeWhile p ∧ R (cs.dropWhile p) (ds.dropWhile p) := by
  induction cs generalizing ds with
  | nil =>
      rcases side related with ⟨c, us, vs, same, -⟩ | ⟨-, free⟩
      · cases same
      · have none := (free.mono (p := p) fun c h => by simp [within c h]).takeWhile
        rw [none.1, none.2]
        exact ⟨rfl, related⟩
  | cons c cs ih =>
      rcases side related with ⟨_, us, vs, same, rfl, later⟩ | ⟨free, free'⟩
      · cases same
        obtain ⟨taken, dropped⟩ := ih later
        by_cases first : p c = true
        · simp [first, taken, dropped]
        · simpa [first] using related
      · have none := (free.mono within).takeWhile
        have none' := (free'.mono (p := p) fun c h => by simp [within c h]).takeWhile
        rw [none.1, none.2, none'.1, none'.2]
        exact ⟨rfl, related⟩

theorem SideBySide.head (side : SideBySide R) (related : R cs ds) (link : isLink c = true) :
    (∃ us vs, cs = c :: us ∧ ds = c :: vs ∧ R us vs) ∨ (∀ us, cs ≠ c :: us) ∧ ∀ vs, ds ≠ c :: vs := by
  rcases side related with ⟨d, us, vs, rfl, rfl, later⟩ | ⟨free, free'⟩
  · by_cases same : d = c
    · subst same
      exact .inl ⟨us, vs, rfl, rfl, later⟩
    · simp [same]
  · refine .inr ⟨?_, ?_⟩
    · rintro us rfl
      simp [free c rfl] at link
    · rintro vs rfl
      have off := free' c rfl
      simp [link] at off

def isNumeric (c : Char) : Bool := Text.isDecimal c || c == '-' || c == '.'

def TakesAlike (R : List Char → List Char → Prop) (cs ds us vs : List Char) : Prop :=
  R us vs ∧ ∃ taken, taken ≠ [] ∧ (∀ c ∈ taken, isNumeric c = true) ∧ cs = taken ++ us ∧ ds = taken ++ vs

theorem isLink_of_isDecimal (c : Char) (decimal : Text.isDecimal c = true) : isLink c = true := by
  simp [isLink, decimal]

theorem SideBySide.unsigned? (side : SideBySide R) (related : R cs ds) (negative : Bool) :
    Option.Rel (fun a b => a.1 = b.1 ∧ TakesAlike R cs ds a.2 b.2) (Numeral.unsigned? negative cs)
      (Numeral.unsigned? negative ds) := by
  obtain ⟨taken, later⟩ := side.takeWhile related isLink_of_isDecimal
  have splitCs := cs.takeWhile_append_dropWhile (p := Text.isDecimal)
  have splitDs := ds.takeWhile_append_dropWhile (p := Text.isDecimal)
  rw [taken] at splitDs
  rw [Numeral.unsigned?, Numeral.unsigned?, taken]
  by_cases empty : (cs.takeWhile Text.isDecimal).isEmpty = true
  · rw [if_pos empty, if_pos empty]
    exact .none
  · rw [if_neg empty, if_neg empty]
    have some : cs.takeWhile Text.isDecimal ≠ [] := by simpa using empty
    have digits : ∀ us : List Char, ∀ c ∈ us.takeWhile Text.isDecimal, isNumeric c = true := by
      intro us c member
      simp [isNumeric, List.all_eq_true.1 List.all_takeWhile c member]
    have wholeDigits := digits cs
    generalize cs.takeWhile Text.isDecimal = whole at *
    generalize cs.dropWhile Text.isDecimal = us at *
    generalize ds.dropWhile Text.isDecimal = vs at *
    have integer : TakesAlike R cs ds us vs := ⟨later, whole, some, wholeDigits, splitCs.symm, splitDs.symm⟩
    rcases side.head later (c := '.') rfl with ⟨us', vs', rfl, rfl, tails⟩ | ⟨other, other'⟩
    · obtain ⟨taken', later'⟩ := side.takeWhile tails isLink_of_isDecimal
      have splitUs := us'.takeWhile_append_dropWhile (p := Text.isDecimal)
      have splitVs := vs'.takeWhile_append_dropWhile (p := Text.isDecimal)
      rw [taken'] at splitVs
      simp only [taken']
      split
      · exact .some ⟨rfl, integer⟩
      · refine .some ⟨rfl, later', whole ++ '.' :: us'.takeWhile Text.isDecimal, by simp, ?_, ?_, ?_⟩
        · intro c member
          simp only [List.mem_append, List.mem_cons] at member
          rcases member with inside | rfl | inside
          · exact wholeDigits c inside
          · rfl
          · exact digits us' c inside
        · simp [splitUs, splitCs]
        · simp [splitVs, splitDs]
    · split
      · next tail => exact absurd rfl (other tail)
      · exact .some ⟨rfl, integer⟩

theorem startsNumber_cons (other : c ≠ '-') (sign : Bool) (cs : List Char) :
    startsNumber sign (c :: cs) = Text.isDigit c := by
  rw [startsNumber]
  exact fun _ _ same => absurd same other

theorem scan?_cons (other : c ≠ '-') (cs : List Char) :
    Numeral.scan? (c :: cs) = Numeral.unsigned? false (c :: cs) := by
  rw [Numeral.scan?]
  exact fun _ same => absurd (List.cons.inj same).1 other

theorem startsNumber_alongside (side : SideBySide R) (related : R cs ds) (sign : Bool) (c : Char) :
    startsNumber sign (c :: cs) = startsNumber sign (c :: ds) := by
  by_cases minus : c = '-'
  · subst minus
    rcases side related with ⟨d, us, vs, rfl, rfl, -⟩ | ⟨free, free'⟩
    · rfl
    · have none : ∀ us : List Char, BeginsWithout isLink us → startsNumber sign ('-' :: us) = false := by
        intro us free
        cases us with
        | nil => cases sign <;> decide
        | cons d us =>
            have off : isLink d = false := free d rfl
            simp only [isLink, Bool.or_eq_false_iff] at off
            simp [startsNumber, off]
      rw [none cs free, none ds (free'.mono fun c h => by simp [h])]
  · rw [startsNumber_cons minus, startsNumber_cons minus]

theorem scan?_alongside (side : SideBySide R) (whole : R (c :: cs) (c :: ds)) (later : R cs ds) :
    Option.Rel (fun a b => a.1 = b.1 ∧ TakesAlike R (c :: cs) (c :: ds) a.2 b.2) (Numeral.scan? (c :: cs))
      (Numeral.scan? (c :: ds)) := by
  by_cases minus : c = '-'
  · subst minus
    have numerals := side.unsigned? later true
    simp only [Numeral.scan?]
    generalize Numeral.unsigned? true cs = x at numerals ⊢
    generalize Numeral.unsigned? true ds = y at numerals ⊢
    cases numerals with
    | none => exact .none
    | some found =>
        obtain ⟨same, rest, taken, -, digits, splitCs, splitDs⟩ := found
        refine .some ⟨same, rest, '-' :: taken, List.cons_ne_nil _ _, ?_, by simp [splitCs], by simp [splitDs]⟩
        simpa using ⟨rfl, digits⟩
  · rw [scan?_cons minus, scan?_cons minus]
    exact side.unsigned? whole false

def ReadsAlike (R : List Char → List Char → Prop) (cs ds : List Char) (x y : Except Fault (Lexeme × Nat)) : Prop :=
  x = y ∧ ∀ l length, x = .ok (l, length) → R (cs.drop (length - 1)) (ds.drop (length - 1))

theorem TakesAlike.drop {us vs : List Char} (takes : TakesAlike R (c :: cs) (c :: ds) us vs) :
    (c :: cs).length - us.length = (c :: ds).length - vs.length ∧
      R (cs.drop ((c :: cs).length - us.length - 1)) (ds.drop ((c :: cs).length - us.length - 1)) := by
  obtain ⟨later, taken, some, -, splitCs, splitDs⟩ := takes
  cases taken with
  | nil => exact absurd rfl some
  | cons d taken =>
      rw [List.cons_append, List.cons.injEq] at splitCs splitDs
      rw [splitCs.2, splitDs.2]
      simpa [Nat.succ_sub] using later

theorem numberAt_alongside (side : SideBySide R) (whole : R (c :: cs) (c :: ds)) (later : R cs ds) :
    ReadsAlike R cs ds (numberAt (c :: cs)) (numberAt (c :: ds)) := by
  have numerals := scan?_alongside side whole later
  simp only [numberAt]
  generalize Numeral.scan? (c :: cs) = x at numerals ⊢
  generalize Numeral.scan? (c :: ds) = y at numerals ⊢
  cases numerals with
  | none => exact ⟨rfl, fun _ _ none => by cases none⟩
  | @some a b found =>
      obtain ⟨parts, us⟩ := a
      obtain ⟨_, vs⟩ := b
      obtain ⟨rfl, takes⟩ := found
      obtain ⟨lengths, dropped⟩ := takes.drop
      simp only [lengths]
      refine ⟨rfl, fun l length read => ?_⟩
      split at read
      · cases read
      · cases read
        rw [← lengths]
        exact dropped

theorem drop_length_takeWhile (p : Char → Bool) (cs : List Char) : cs.drop (cs.takeWhile p).length = cs.dropWhile p := by
  calc cs.drop (cs.takeWhile p).length
    _ = (cs.takeWhile p ++ cs.dropWhile p).drop (cs.takeWhile p).length := by rw [List.takeWhile_append_dropWhile]
    _ = cs.dropWhile p := List.drop_left

theorem wordAt_alongside (side : SideBySide R) (later : R cs ds) :
    ReadsAlike R cs ds (wordAt (c :: cs)) (wordAt (c :: ds)) := by
  obtain ⟨taken, dropped⟩ := side.takeWhile later (p := isWordChar) fun c word => by simp [isLink, word]
  by_cases start : isWordStart c = true
  · have word : isWordChar c = true := by simp [isWordChar, start]
    simp only [wordAt, start, List.takeWhile_cons, word, if_true, taken]
    refine ⟨rfl, fun l length read => ?_⟩
    obtain ⟨-, rfl⟩ := Prod.mk.inj (Except.ok.inj read)
    simp only [List.length_cons, Nat.add_sub_cancel]
    rw [drop_length_takeWhile, ← taken, drop_length_takeWhile]
    exact dropped
  · simp [wordAt, start, ReadsAlike]

theorem relationAt?_cons (c : Char) (cs : List Char) :
    relationAt? (c :: cs) =
      if c = '=' then some (if cs.head? = some '=' then "==" else "=")
      else if c = '!' then if cs.head? = some '=' then some "!=" else none
      else if c = '<' then some (if cs.head? = some '>' then "<>" else if cs.head? = some '=' then "<=" else "<")
      else if c = '>' then some (if cs.head? = some '=' then ">=" else ">")
      else none := by
  have one : ∀ d : Char, [d].isPrefixOf (c :: cs) = decide (c = d) := by
    intro d
    simp [List.isPrefixOf, eq_comm, Bool.beq_eq_decide_eq]
  have two : ∀ d e : Char, [d, e].isPrefixOf (c :: cs) = (decide (c = d) && decide (cs.head? = some e)) := by
    intro d e
    cases cs with
    | nil => simp [List.isPrefixOf]
    | cons x cs => simp [List.isPrefixOf, eq_comm, Bool.beq_eq_decide_eq]
  rw [relationAt?]
  simp only [relationSymbols, List.find?_cons, List.find?_nil, String.reduceToList, one, two]
  by_cases equal : c = '='
  · subst equal
    by_cases next : cs.head? = some '=' <;> simp [next]
  by_cases mark : c = '!'
  · subst mark
    by_cases next : cs.head? = some '=' <;> simp [next]
  by_cases less : c = '<'
  · subst less
    by_cases next : cs.head? = some '=' <;> by_cases other : cs.head? = some '>' <;> simp [next, other]
  by_cases greater : c = '>'
  · subst greater
    by_cases next : cs.head? = some '=' <;> simp [next]
  simp [equal, mark, less, greater]

def signOf (c : Char) : Lexeme :=
  match c with
  | '!' => .negation "!"
  | '(' => .opening
  | ')' => .closing
  | '.' => .dot
  | ',' => .comma
  | c => .stray (String.ofList [c])

theorem signAt_cons (c : Char) (cs : List Char) :
    signAt (c :: cs) =
      if c = '&' ∧ cs.head? = some '&' then (.conjunction "&&", 2)
      else if c = '|' ∧ cs.head? = some '|' then (.disjunction "||", 2)
      else match relationAt? (c :: cs) with
        | some symbol => (.relation symbol, symbol.length)
        | none => (signOf c, 1) := by
  unfold signAt
  split
  · next same =>
    cases same
    rfl
  · next same =>
    cases same
    rfl
  · next notAnd notOr =>
    have first : ¬(c = '&' ∧ cs.head? = some '&') := by
      rintro ⟨rfl, head⟩
      obtain ⟨us, rfl⟩ := List.head?_eq_some_iff.1 head
      exact notAnd us rfl
    have second : ¬(c = '|' ∧ cs.head? = some '|') := by
      rintro ⟨rfl, head⟩
      obtain ⟨us, rfl⟩ := List.head?_eq_some_iff.1 head
      exact notOr us rfl
    rw [if_neg first, if_neg second]
    cases relationAt? (c :: cs) with
    | some symbol => rfl
    | none =>
        simp only [signOf]
        split <;> simp_all

theorem SideBySide.head?_iff (side : SideBySide R) (related : R cs ds) {d : Char} (link : isLink d = true) :
    cs.head? = some d ↔ ds.head? = some d := by
  rcases side.head related link with ⟨us, vs, rfl, rfl, -⟩ | ⟨other, other'⟩
  · simp
  · simp only [List.head?_eq_some_iff]
    exact ⟨fun ⟨us, same⟩ => absurd same (other us), fun ⟨vs, same⟩ => absurd same (other' vs)⟩

theorem relationAt?_alongside (side : SideBySide R) (later : R cs ds) (c : Char) :
    relationAt? (c :: ds) = relationAt? (c :: cs) := by
  have equal := side.head?_iff later (d := '=') rfl
  have greater := side.head?_iff later (d := '>') rfl
  simp only [relationAt?_cons, equal, greater]

theorem length_of_relationAt? {symbol : String} (found : relationAt? (c :: cs) = some symbol) :
    symbol.length = 1 ∨ symbol.length = 2 ∧ (cs.head? = some '=' ∨ cs.head? = some '>') := by
  have wide : "==".length = 2 ∧ "!=".length = 2 ∧ "<>".length = 2 ∧ ">=".length = 2 ∧ "<=".length = 2 := by decide
  have narrow : "=".length = 1 ∧ ">".length = 1 ∧ "<".length = 1 := by decide
  rw [relationAt?_cons] at found
  grind

theorem signAt_alongside (side : SideBySide R) (later : R cs ds)
    (single : ¬(isTwin c = true ∧ (cs.head? = some c ∨ ds.head? = some c))) :
    ReadsAlike R cs ds (.ok (signAt (c :: cs))) (.ok (signAt (c :: ds))) := by
  have plain : ∀ us : List Char, (isTwin c = true → us.head? ≠ some c) → signAt (c :: us) =
      match relationAt? (c :: us) with
      | some symbol => (.relation symbol, symbol.length)
      | none => (signOf c, 1) := by
    intro us other
    rw [signAt_cons, if_neg, if_neg]
    · rintro ⟨rfl, head⟩
      exact other rfl head
    · rintro ⟨rfl, head⟩
      exact other rfl head
  rw [plain cs fun twin head => single ⟨twin, .inl head⟩, plain ds fun twin head => single ⟨twin, .inr head⟩,
    relationAt?_alongside side later]
  refine ⟨rfl, fun l length read => ?_⟩
  cases found : relationAt? (c :: cs) with
  | none =>
      rw [found] at read
      cases read
      exact later
  | some symbol =>
      rw [found] at read
      cases read
      rcases length_of_relationAt? found with short | ⟨long, next⟩
      · rw [short]
        exact later
      · have behind : ∃ d, isLink d = true ∧ cs.head? = some d := by
          rcases next with next | next
          · exact ⟨_, rfl, next⟩
          · exact ⟨_, rfl, next⟩
        obtain ⟨d, link, head⟩ := behind
        rcases side.head later link with ⟨us, vs, rfl, rfl, tails⟩ | ⟨other, -⟩
        · rw [long]
          exact tails
        · obtain ⟨us, same⟩ := List.head?_eq_some_iff.1 head
          exact absurd same (other us)

/-- A lexeme that is no string does not change with what stands behind it, unless that begins with a character
that the lexeme could go on with. -/
theorem lexemeAt_alongside (side : SideBySide R) (whole : R (c :: cs) (c :: ds)) (later : R cs ds)
    (sign : Bool) (unquoted : isQuote c = false)
    (single : ¬(isTwin c = true ∧ (cs.head? = some c ∨ ds.head? = some c))) :
    ReadsAlike R cs ds (lexemeAt sign c cs) (lexemeAt sign c ds) := by
  rw [lexemeAt, lexemeAt, unquoted, ← startsNumber_alongside side later]
  simp only [Bool.false_eq_true, if_false]
  split
  · exact numberAt_alongside side whole later
  · split
    · exact wordAt_alongside side later
    · exact signAt_alongside side later single

theorem sideBySide_append {tail : List Char} (free : BeginsWithout (fun c => isLink c || isTwin c) tail) :
    SideBySide fun us vs => vs = us ++ tail := by
  rintro cs _ rfl
  cases cs with
  | nil => exact .inr ⟨beginsWithout_nil _, free⟩
  | cons c cs => exact .inl ⟨c, cs, cs ++ tail, rfl, rfl, rfl⟩

theorem lexemeAt_append {tail : List Char} (free : BeginsWithout (fun c => isLink c || isTwin c) tail) (sign : Bool)
    (unquoted : isQuote c = false) (single : ¬(isTwin c = true ∧ cs.head? = some c)) :
    ReadsAlike (fun us vs => vs = us ++ tail) cs (cs ++ tail) (lexemeAt sign c cs) (lexemeAt sign c (cs ++ tail)) := by
  refine lexemeAt_alongside (sideBySide_append free) rfl rfl sign unquoted ?_
  rintro ⟨twin, head | head⟩
  · exact single ⟨twin, head⟩
  · cases cs with
    | nil =>
        have off := free c head
        simp [twin] at off
    | cons d cs => exact single ⟨twin, head⟩

end

end TabularAudit.Expr
