/-
Ordered tables.

A table holds texts under distinct keys, ordered by key.  Keys are compared by
their code points, which is the order of their UTF-8 bytes.  The lemmas say how
a lookup sees an insertion.
-/

namespace JarAtlas

/-- Rows of a key and a text, in strictly increasing order of the keys. -/
structure Table where
  rows : List (String × String)
  ordered : rows.Pairwise fun a b => a.1 < b.1

namespace Table

def empty : Table := ⟨[], List.Pairwise.nil⟩

def insertRow (key text : String) : List (String × String) → List (String × String)
  | [] => [(key, text)]
  | (known, old) :: rest =>
    if key < known then (key, text) :: (known, old) :: rest
    else if key = known then (key, text) :: rest
    else (known, old) :: insertRow key text rest

theorem mem_insertRow {key text : String} {rows : List (String × String)}
    {row : String × String} (member : row ∈ insertRow key text rows) :
    row = (key, text) ∨ row ∈ rows := by
  induction rows with
  | nil => simpa [insertRow] using member
  | cons first rest ih =>
      obtain ⟨known, old⟩ := first
      simp only [insertRow] at member
      split at member
      · simpa using member
      · split at member
        · rcases List.mem_cons.mp member with here | later
          · exact Or.inl here
          · exact Or.inr (List.mem_cons_of_mem _ later)
        · rcases List.mem_cons.mp member with here | later
          · exact Or.inr (by simp [here])
          · rcases ih later with new | present
            · exact Or.inl new
            · exact Or.inr (List.mem_cons_of_mem _ present)

theorem ordered_insertRow {key text : String} {rows : List (String × String)}
    (ordered : rows.Pairwise fun a b => a.1 < b.1) :
    (insertRow key text rows).Pairwise fun a b => a.1 < b.1 := by
  induction rows with
  | nil => simp [insertRow]
  | cons first rest ih =>
      obtain ⟨known, old⟩ := first
      obtain ⟨above, tailOrdered⟩ := List.pairwise_cons.mp ordered
      simp only [insertRow]
      split
      · rename_i below
        refine List.pairwise_cons.mpr ⟨?_, ordered⟩
        intro row member
        rcases List.mem_cons.mp member with here | later
        · simpa [here] using below
        · exact String.lt_trans below (above row later)
      · rename_i notBelow
        split
        · rename_i same
          subst same
          exact List.pairwise_cons.mpr ⟨above, tailOrdered⟩
        · rename_i different
          have larger : known < key :=
            Std.lt_of_le_of_ne (String.not_lt.mp notBelow) (Ne.symm different)
          refine List.pairwise_cons.mpr ⟨?_, ih tailOrdered⟩
          intro row member
          rcases mem_insertRow member with new | present
          · simpa [new] using larger
          · exact above row present

def insert (table : Table) (key text : String) : Table :=
  ⟨insertRow key text table.rows, ordered_insertRow table.ordered⟩

def get? (table : Table) (key : String) : Option String :=
  table.rows.lookup key

def keys (table : Table) : List String :=
  table.rows.map (·.1)

def size (table : Table) : Nat :=
  table.rows.length

/-- The table of rows in any order; of several rows with one key the last one
counts. -/
def ofRows (rows : List (String × String)) : Table :=
  rows.foldl (fun table (key, text) => table.insert key text) empty

theorem lookup_insertRow_self (key text : String) (rows : List (String × String)) :
    (insertRow key text rows).lookup key = some text := by
  induction rows with
  | nil => simp [insertRow]
  | cons first rest ih =>
      obtain ⟨known, old⟩ := first
      simp only [insertRow]
      split
      · simp
      · split
        · simp
        · rename_i different
          simp [List.lookup_cons, beq_false_of_ne different, ih]

theorem lookup_insertRow_of_ne {key other : String} (different : other ≠ key) (text : String)
    (rows : List (String × String)) :
    (insertRow key text rows).lookup other = rows.lookup other := by
  induction rows with
  | nil => simp [insertRow, List.lookup_cons, beq_false_of_ne different]
  | cons first rest ih =>
      obtain ⟨known, old⟩ := first
      simp only [insertRow]
      split
      · simp [List.lookup_cons, beq_false_of_ne different]
      · split
        · rename_i same
          subst same
          simp [List.lookup_cons, beq_false_of_ne different]
        · simp only [List.lookup_cons]
          split
          · rfl
          · exact ih

@[simp] theorem get?_insert_self (table : Table) (key text : String) :
    (table.insert key text).get? key = some text :=
  lookup_insertRow_self key text table.rows

theorem get?_insert_of_ne (table : Table) {key other : String} (different : other ≠ key)
    (text : String) : (table.insert key text).get? other = table.get? other :=
  lookup_insertRow_of_ne different text table.rows

end Table
end JarAtlas
