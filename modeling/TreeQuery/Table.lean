import TreeQuery.Text.Basic

/-!
# Tables

A table assigns values to keys. It is kept in the order of its keys, so that listing the keys
gives them sorted and without repetition, and writing to a key replaces what was written there
before.

## Main definitions

* `TreeQuery.Table` — pairs of a key and a value.
* `TreeQuery.Table.put`, `TreeQuery.Table.get?`, `TreeQuery.Table.keys` — writing, reading and
  listing.

## Main results

* `TreeQuery.Table.get?_put` — a key has the value last written to it, and writing to one key
  leaves the others alone.
-/

namespace TreeQuery

/-- Values at keys, in the order of the keys. -/
abbrev Table (κ α : Type) := List (κ × α)

namespace Table

variable {κ α : Type} [DecidableEq κ] [LT κ] [DecidableLT κ]

/-- The table with `value` at `key`. -/
def put (key : κ) (value : α) : Table κ α → Table κ α
  | [] => [(key, value)]
  | (k, v) :: rest =>
    if key = k then (key, value) :: rest
    else if key < k then (key, value) :: (k, v) :: rest
    else (k, v) :: put key value rest

omit [LT κ] [DecidableLT κ] in
/-- The value at `key`, if there is one. -/
def get? (key : κ) : Table κ α → Option α
  | [] => none
  | (k, v) :: rest => if key = k then some v else get? key rest

omit [DecidableEq κ] [LT κ] [DecidableLT κ] in
/-- The keys in order. -/
def keys (t : Table κ α) : List κ := t.map Prod.fst

/-- Reading after writing: the written key has the written value, every other key what it had. -/
theorem get?_put (key other : κ) (value : α) (t : Table κ α) :
    get? other (put key value t) = if other = key then some value else get? other t := by
  induction t with
  | nil => simp [put, get?]
  | cons entry t ih =>
    obtain ⟨k, v⟩ := entry
    by_cases hk : key = k
    · subst hk
      by_cases ho : other = key <;> simp [put, get?, ho]
    · by_cases hl : key < k
      · by_cases ho : other = key <;> simp [put, get?, hk, hl, ho]
      · by_cases ho : other = k
        · subst ho
          simp [put, get?, hk, hl, Ne.symm hk]
        · simp [put, get?, hk, hl, ho, ih]

end Table

end TreeQuery
