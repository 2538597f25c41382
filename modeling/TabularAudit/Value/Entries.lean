import TabularAudit.Value.Basic

/-! Entries of a map under exact keys. -/

namespace TabularAudit.Entries

/-- A key keeps its place; a new key goes to the end. -/
def put : Entries → String → Value → Entries
  | [], k, v => [(k, v)]
  | (j, w) :: rest, k, v => if j = k then (j, v) :: rest else (j, w) :: put rest k v

def ofPairs (pairs : List (String × Value)) : Entries :=
  pairs.foldl (fun es p => put es p.1 p.2) []

def merge (es fs : Entries) : Entries := fs.foldl (fun es p => put es p.1 p.2) es

theorem find?_put (es : Entries) (k j : String) (v : Value) :
    find? (put es k v) j = if k = j then some v else find? es j := by
  induction es with
  | nil => simp [put, find?]
  | cons p es ih =>
      obtain ⟨i, w⟩ := p
      by_cases hi : i = k
      · subst hi
        by_cases h : i = j <;> simp [put, find?, h]
      · by_cases h : i = j
        · subst h
          simp [put, find?, hi, Ne.symm hi]
        · simp [put, find?, hi, h, ih]

end TabularAudit.Entries
