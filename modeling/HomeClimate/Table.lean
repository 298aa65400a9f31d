/-!
# Tables

A *table* is a list of keys with values, in ascending order of the keys and with
no key twice.  What is done to a table in key order, such as a sum of scalars, is
then a fold over the list.  `insert` keeps the order; a value that is already
there is replaced and its key stays.
-/

namespace HomeClimate

/-- Keys with values, in ascending order of the keys. -/
abbrev Table (κ α : Type) := List (κ × α)

namespace Table

variable {κ α β : Type}

/-- The keys, in order. -/
def keys (t : Table κ α) : List κ := t.map Prod.fst

/-- The values, in the order of their keys. -/
def values (t : Table κ α) : List α := t.map Prod.snd

/-- The table with a value under a key. -/
def insert [Ord κ] (k : κ) (v : α) : Table κ α → Table κ α
  | [] => [(k, v)]
  | (k', v') :: rest =>
    match compare k k' with
    | .lt => (k, v) :: (k', v') :: rest
    | .eq => (k', v) :: rest
    | .gt => (k', v') :: insert k v rest

/-- The value under a key. -/
def get? [BEq κ] (t : Table κ α) (k : κ) : Option α := (t.find? fun e => e.1 == k).map Prod.snd

/-- Whether there is a value under a key. -/
def has [BEq κ] (t : Table κ α) (k : κ) : Bool := t.any fun e => e.1 == k

/-- The table without a key. -/
def erase [BEq κ] (t : Table κ α) (k : κ) : Table κ α := t.filter fun e => !(e.1 == k)

/-- The table with the value under a key changed. -/
def modify [BEq κ] (t : Table κ α) (k : κ) (f : α → α) : Table κ α :=
  t.map fun e => if e.1 == k then (e.1, f e.2) else e

/-- The table with the values of a list under their keys, the last value of a key counting. -/
def insertAll [Ord κ] (t : Table κ α) (entries : List (κ × α)) : Table κ α :=
  entries.foldl (fun t e => insert e.1 e.2 t) t

/-- The table of a list of keys and values. -/
def ofList [Ord κ] (entries : List (κ × α)) : Table κ α := insertAll [] entries

@[simp] theorem keys_modify [BEq κ] (t : Table κ α) (k : κ) (f : α → α) :
    (t.modify k f).keys = t.keys := by
  simp only [keys, modify, List.map_map]
  congr 1
  funext e
  simp only [Function.comp]
  split <;> rfl

end Table

end HomeClimate
