import Mathlib.Data.List.Nodup
import Mathlib.Data.List.Forall2

/-!
# Tables

A table has named columns with their definitions and rows of one cell for each column; it
may have a key, a column in which no two rows agree.  Columns can be added, and rows
inserted or, if there is one with the key, updated.  `Table.Keeps` says that nothing that
was in a table has gone from it.
-/

variable {ν δ α : Type}

/-! ### Rows -/

namespace Row

variable [DecidableEq ν]

/-- The cell of a row under a name. -/
def cell (names : List ν) (name : ν) (row : List α) : Option α :=
  (names.zip row).lookup name

/-- The row with the assigned cells in place of its own. -/
def assign (names : List ν) (assigned : List (ν × α)) (row : List α) : List α :=
  names.zipWith (fun name old => (assigned.lookup name).getD old) row

/-- The row of the assigned cells, and of those that the definitions fill in; none when
there is nothing to fill in. -/
def fill (default : δ → Option α) (assigned : List (ν × α)) (columns : List (ν × δ)) :
    Option (List α) :=
  columns.mapM fun column => (assigned.lookup column.1).or (default column.2)

/-- A row has a cell under every name. -/
theorem isSome_cell {names : List ν} {row : List α} (hlen : row.length = names.length) (name : ν) :
  (cell names name row).isSome ↔ name ∈ names
  := by
  induction names generalizing row with
  | nil => simp [cell]
  | cons first names ih =>
      obtain ⟨a, row, rfl⟩ := List.exists_cons_of_length_eq_add_one hlen
      have hlen' : row.length = names.length := Nat.succ_inj.mp hlen
      rw [cell, List.zip_cons_cons, List.lookup_cons, List.mem_cons]
      by_cases hname : name = first
      · simp [hname]
      · rw [beq_eq_false_iff_ne.mpr hname]
        simp only [hname, false_or]
        apply ih hlen'

/-- A cell that is added at the end does not change the others. -/
theorem cell_append
    {names : List ν} {row : List α} (hlen : row.length = names.length) {name : ν}
    (hname : name ∈ names) (name' : ν) (a : α) :
  cell (names ++ [name']) name (row ++ [a]) = cell names name row
  := by
  obtain ⟨b, hb⟩ := Option.isSome_iff_exists.mp ((isSome_cell hlen name).mpr hname)
  rw [cell, List.zip_append hlen.symm, List.lookup_append, ← cell, hb]
  rfl

/-- It is found under its name. -/
theorem cell_append_self
    {names : List ν} {row : List α} (hlen : row.length = names.length) {name : ν}
    (hname : name ∉ names) (a : α) :
  cell (names ++ [name]) name (row ++ [a]) = some a
  := by
  have hnone : cell names name row = none := by
    rw [← Option.not_isSome_iff_eq_none, isSome_cell hlen]
    apply hname
  rw [cell, List.zip_append hlen.symm, List.lookup_append, ← cell, hnone]
  simp

theorem length_assign
    {names : List ν} {row : List α} (assigned : List (ν × α)) (hlen : row.length = names.length) :
  (assign names assigned row).length = names.length
  := by
  rw [assign, List.length_zipWith, hlen, Nat.min_self]

/-- What is assigned to a name is its cell, and the other cells stay. -/
theorem cell_assign (names : List ν) (assigned : List (ν × α)) (row : List α) (name : ν) :
  cell names name (assign names assigned row)
    = (cell names name row).map fun old => (assigned.lookup name).getD old
  := by
  induction names generalizing row with
  | nil => rfl
  | cons first names ih =>
      cases row with
      | nil => rfl
      | cons a row =>
          rw [assign, List.zipWith_cons_cons, ← assign, cell, List.zip_cons_cons,
            List.lookup_cons, cell, List.zip_cons_cons, List.lookup_cons]
          by_cases hname : name = first
          · subst hname
            simp
          · rw [beq_eq_false_iff_ne.mpr hname]
            apply ih

/-- A cell that nothing is assigned to stays. -/
theorem cell_assign_of_notMem
    {names : List ν} {assigned : List (ν × α)} {row : List α} {name : ν}
    (hname : name ∉ assigned.map Prod.fst) :
  cell names name (assign names assigned row) = cell names name row
  := by
  have hnone : assigned.lookup name = none := by
    rw [List.lookup_eq_none_iff]
    intro p hp
    rw [bne_iff_ne]
    rintro rfl
    exact hname (List.mem_map_of_mem hp)
  rw [cell_assign, hnone]
  apply Option.map_id'

theorem length_fill
    {default : δ → Option α} {assigned : List (ν × α)} {columns : List (ν × δ)} {row : List α}
    (h : fill default assigned columns = some row) :
  row.length = columns.length
  := by
  induction columns generalizing row with
  | nil =>
      cases h
      rfl
  | cons column columns ih =>
      rw [fill, List.mapM_cons] at h
      obtain ⟨b, -, h⟩ := Option.bind_eq_some_iff.mp h
      obtain ⟨row', hrow', ⟨⟩⟩ := Option.bind_eq_some_iff.mp h
      rw [List.length_cons, List.length_cons, ih hrow']

/-- What is assigned to a name of a column is its cell in the row. -/
theorem cell_fill
    {default : δ → Option α} {assigned : List (ν × α)} {columns : List (ν × δ)} {row : List α}
    (h : fill default assigned columns = some row) {name : ν} {a : α}
    (hname : name ∈ columns.map Prod.fst) (ha : assigned.lookup name = some a) :
  cell (columns.map Prod.fst) name row = some a
  := by
  induction columns generalizing row with
  | nil => cases hname
  | cons column columns ih =>
      rw [fill, List.mapM_cons] at h
      obtain ⟨b, hb, h⟩ := Option.bind_eq_some_iff.mp h
      obtain ⟨row', hrow', ⟨⟩⟩ := Option.bind_eq_some_iff.mp h
      rw [List.map_cons, cell, List.zip_cons_cons, List.lookup_cons]
      by_cases heq : name = column.1
      · rw [← heq, ha, Option.some_or] at hb
        simp [heq, hb]
      · rw [beq_eq_false_iff_ne.mpr heq]
        rw [List.map_cons, List.mem_cons, or_iff_right heq] at hname
        apply ih hrow' hname

/-- A row can be filled in when every column is assigned to or has a default. -/
theorem isSome_fill
    {default : δ → Option α} {assigned : List (ν × α)} {columns : List (ν × δ)}
    (h : ∀ column ∈ columns, ((assigned.lookup column.1).or (default column.2)).isSome) :
  (fill default assigned columns).isSome
  := by
  induction columns with
  | nil => rfl
  | cons column columns ih =>
      rw [List.forall_mem_cons] at h
      obtain ⟨a, ha⟩ := Option.isSome_iff_exists.mp h.1
      obtain ⟨row, hrow⟩ := Option.isSome_iff_exists.mp (ih h.2)
      rw [fill] at hrow
      rw [fill, List.mapM_cons, ha, hrow]
      rfl

end Row

/-! ### Tables -/

/-- A table: no two columns have one name, every row has a cell for every column, and no two
rows agree in the key. -/
structure Table (ν δ α : Type) [DecidableEq ν] where
  columns : List (ν × δ)
  key : Option ν
  rows : List (List α)
  nodup : (columns.map Prod.fst).Nodup
  rectangular : ∀ row ∈ rows, row.length = (columns.map Prod.fst).length
  key_mem : ∀ k ∈ key, k ∈ columns.map Prod.fst
  distinct : ∀ k ∈ key, (rows.map (Row.cell (columns.map Prod.fst) k)).Nodup

namespace Table

variable [DecidableEq ν]

/-- The names of the columns. -/
def names (t : Table ν δ α) : List ν :=
  t.columns.map Prod.fst

/-- The cell of a row of the table under a name. -/
def cell (t : Table ν δ α) (name : ν) (row : List α) : Option α :=
  Row.cell t.names name row

/-- The first row with the given cell. -/
def find [DecidableEq α] (t : Table ν δ α) (name : ν) (a : α) : Option (List α) :=
  t.rows.find? fun row => t.cell name row = some a

/-- A row has a cell in every column. -/
theorem isSome_cell (t : Table ν δ α) {row : List α} (hrow : row ∈ t.rows) (name : ν) :
  (t.cell name row).isSome ↔ name ∈ t.names
  := Row.isSome_cell (t.rectangular row hrow) name

/-- What is found is a row with the cell. -/
theorem mem_of_find
    [DecidableEq α] {t : Table ν δ α} {name : ν} {a : α} {row : List α}
    (h : t.find name a = some row) :
  row ∈ t.rows ∧ t.cell name row = some a
  := by
  have hcell := List.find?_some h
  rw [decide_eq_true_eq] at hcell
  exact ⟨List.mem_of_find?_eq_some h, hcell⟩

/-- The table without rows. -/
def empty (columns : List (ν × δ)) (key : Option ν) (nodup : (columns.map Prod.fst).Nodup)
    (key_mem : ∀ k ∈ key, k ∈ columns.map Prod.fst) : Table ν δ α where
  columns := columns
  key := key
  rows := []
  nodup := nodup
  rectangular := by simp
  key_mem := key_mem
  distinct := by simp

/-! ### Adding a column -/

/-- A column is added at the end, with the same cell in every row. -/
def addColumn (t : Table ν δ α) (name : ν) (definition : δ) (a : α) (hname : name ∉ t.names) :
    Table ν δ α where
  columns := t.columns ++ [(name, definition)]
  key := t.key
  rows := t.rows.map fun row => row ++ [a]
  nodup := by
    rw [List.map_append, List.map_singleton]
    apply t.nodup.append (List.nodup_singleton _)
    rw [List.disjoint_singleton]
    apply hname
  rectangular := by
    simp only [List.forall_mem_map, List.map_append, List.length_append]
    intro row hrow
    rw [t.rectangular row hrow]
    rfl
  key_mem k hk := by
    rw [List.map_append]
    apply List.mem_append_left _ (t.key_mem k hk)
  distinct k hk := by
    have hcells : (t.rows.map fun row => row ++ [a]).map
          (Row.cell ((t.columns ++ [(name, definition)]).map Prod.fst) k)
        = t.rows.map (Row.cell (t.columns.map Prod.fst) k) := by
      rw [List.map_map, List.map_append]
      apply List.map_congr_left
      intro row hrow
      apply Row.cell_append (t.rectangular row hrow) (t.key_mem k hk)
    rw [hcells]
    apply t.distinct k hk

section

variable {t : Table ν δ α} {name : ν} {definition : δ} {a : α} (hname : name ∉ t.names)

theorem names_addColumn :
  (t.addColumn name definition a hname).names = t.names ++ [name]
  := by
  rw [names, addColumn, List.map_append]
  rfl

/-- The rows have the cells they had, -/
theorem cell_addColumn {row : List α} (hrow : row ∈ t.rows) {name' : ν} (hname' : name' ∈ t.names) :
  (t.addColumn name definition a hname).cell name' (row ++ [a]) = t.cell name' row
  := by
  rw [cell, names_addColumn, cell]
  apply Row.cell_append (t.rectangular row hrow) hname'

/-- and the given one in the new column. -/
theorem cell_addColumn_self {row : List α} (hrow : row ∈ t.rows) :
  (t.addColumn name definition a hname).cell name (row ++ [a]) = some a
  := by
  rw [cell, names_addColumn]
  apply Row.cell_append_self (t.rectangular row hrow) hname

end

/-! ### Keeping what was there -/

/-- `Keeps t t'`: `t'` has the columns of `t` with their definitions, and its rows are those
of `t`, in their order, with the cells they have there. -/
structure Keeps (t t' : Table ν δ α) : Prop where
  key : t'.key = t.key
  columns : ∀ column ∈ t.columns, column ∈ t'.columns
  rows : List.Forall₂ (fun row row' => ∀ name ∈ t.names, t'.cell name row' = t.cell name row)
    t.rows t'.rows

theorem Keeps.refl (t : Table ν δ α) :
  Keeps t t
  where
  key := rfl
  columns _ hcolumn := hcolumn
  rows := List.forall₂_same.mpr fun _ _ _ _ => rfl

theorem Keeps.names {t t' : Table ν δ α} (h : Keeps t t') {name : ν} (hname : name ∈ t.names) :
  name ∈ t'.names
  := by
  obtain ⟨column, hcolumn, rfl⟩ := List.mem_map.mp hname
  apply List.mem_map_of_mem (h.columns column hcolumn)

theorem Keeps.trans {t t' t'' : Table ν δ α} (h : Keeps t t') (h' : Keeps t' t'') :
  Keeps t t''
  where
  key := h'.key.trans h.key
  columns column hcolumn := h'.columns column (h.columns column hcolumn)
  rows := by
    have hrows := h.rows
    have hrows' := h'.rows
    generalize t.rows = rows at hrows
    generalize t'.rows = rows' at hrows hrows'
    generalize t''.rows = rows'' at hrows'
    induction hrows generalizing rows'' with
    | nil =>
        cases hrows'
        apply List.Forall₂.nil
    | cons hrow _ ih =>
        cases hrows' with
        | cons hrow' hrows' =>
            apply List.Forall₂.cons _ (ih _ hrows')
            intro name hname
            rw [hrow' name (h.names hname), hrow name hname]

theorem keeps_addColumn
    {t : Table ν δ α} {name : ν} {definition : δ} {a : α} {hname : name ∉ t.names} :
  Keeps t (t.addColumn name definition a hname)
  where
  key := rfl
  columns column hcolumn := List.mem_append_left _ hcolumn
  rows := by
    rw [addColumn, List.forall₂_map_right_iff, List.forall₂_same]
    intro row hrow name' hname'
    apply cell_addColumn hname hrow hname'

/-- The rows there are those there were. -/
theorem Keeps.exists_row
    {t t' : Table ν δ α} (h : Keeps t t') {row' : List α} (hrow' : row' ∈ t'.rows) :
  ∃ row ∈ t.rows, ∀ name ∈ t.names, t'.cell name row' = t.cell name row
  := by
  have hrows := h.rows
  generalize t.rows = rows at hrows ⊢
  generalize t'.rows = rows' at hrows hrow'
  induction hrows with
  | nil => cases hrow'
  | @cons row _ rows _ hrow _ ih =>
      rw [List.mem_cons] at hrow'
      rcases hrow' with rfl | hrow'
      · use row, List.mem_cons_self
      · obtain ⟨row₀, hmem, hcells⟩ := ih hrow'
        use row₀, List.mem_cons_of_mem row hmem

/-- What was found by a cell is found, with the cells it had. -/
theorem Keeps.find
    [DecidableEq α] {t t' : Table ν δ α} (h : Keeps t t') {key : ν} (hkey : key ∈ t.names)
    (a : α) :
  Option.Rel (fun row row' => ∀ name ∈ t.names, t'.cell name row' = t.cell name row)
    (t.find key a) (t'.find key a)
  := by
  have hrows := h.rows
  rw [Table.find, Table.find]
  generalize t.rows = rows at hrows
  generalize t'.rows = rows' at hrows
  induction hrows with
  | nil => apply Option.Rel.none
  | @cons row row' rows rows' hrow _ ih =>
      rw [List.find?_cons, List.find?_cons, hrow key hkey]
      split
      · apply Option.Rel.some hrow
      · apply ih

/-! ### Inserting or updating a row -/

section

variable [DecidableEq α]

/-- The row with the given key has the assigned cells. -/
def updateRow (t : Table ν δ α) (key : ν) (a : α) (assigned : List (ν × α))
    (hkey : t.key = some key) (hassigned : key ∉ assigned.map Prod.fst) : Table ν δ α where
  columns := t.columns
  key := t.key
  rows := t.rows.map fun row =>
    if t.cell key row = some a then Row.assign t.names assigned row else row
  nodup := t.nodup
  rectangular := by
    rw [List.forall_mem_map]
    intro row hrow
    have hlen := t.rectangular row hrow
    split
    · apply Row.length_assign assigned hlen
    · apply hlen
  key_mem := t.key_mem
  distinct k hk := by
    rw [hkey, Option.mem_some] at hk
    subst hk
    have hcells : (t.rows.map fun row =>
          if t.cell key row = some a then Row.assign t.names assigned row else row).map
            (Row.cell (t.columns.map Prod.fst) key)
        = t.rows.map (Row.cell (t.columns.map Prod.fst) key) := by
      rw [List.map_map]
      apply List.map_congr_left
      intro row _
      rw [Function.comp_apply]
      split
      · apply Row.cell_assign_of_notMem hassigned
      · rfl
    rw [hcells]
    apply t.distinct key hkey

/-- A row with a new key is added at the end. -/
def insertRow (t : Table ν δ α) (key : ν) (a : α) (row : List α) (hkey : t.key = some key)
    (hlen : row.length = t.names.length) (hcell : t.cell key row = some a)
    (hnew : t.find key a = none) : Table ν δ α where
  columns := t.columns
  key := t.key
  rows := t.rows ++ [row]
  nodup := t.nodup
  rectangular := by
    rw [List.forall_mem_append, List.forall_mem_singleton]
    exact ⟨t.rectangular, hlen⟩
  key_mem := t.key_mem
  distinct k hk := by
    have hdistinct := t.distinct k hk
    rw [hkey, Option.mem_some] at hk
    subst hk
    rw [List.map_append, List.map_singleton]
    apply hdistinct.append (List.nodup_singleton _)
    rw [List.disjoint_singleton, List.mem_map]
    rintro ⟨row', hrow', heq⟩
    have hother := List.find?_eq_none.mp hnew row' hrow'
    apply hother
    rw [decide_eq_true_eq]
    exact heq.trans hcell

omit [DecidableEq α] in
/-- A row that is filled in for a key has that key. -/
theorem cell_of_fill
    {t : Table ν δ α} {default : δ → Option α} {key : ν} {a : α} {assigned : List (ν × α)}
    {row : List α} (hkey : t.key = some key)
    (hrow : Row.fill default ((key, a) :: assigned) t.columns = some row) :
  t.cell key row = some a
  := by
  apply Row.cell_fill hrow (t.key_mem key hkey)
  rw [List.lookup_cons, beq_self_eq_true]

/-- A row with the given key gets the assigned cells; it is inserted if there is none.  There
is no such statement if a column is missing or `key` is not the key. -/
def upsert (t : Table ν δ α) (default : δ → Option α) (key : ν) (a : α)
    (assigned : List (ν × α)) : Option (Table ν δ α) :=
  if h : t.key = some key ∧ key ∉ assigned.map Prod.fst
      ∧ ∀ name ∈ assigned.map Prod.fst, name ∈ t.names then
    if hfind : t.find key a = none then
      match hrow : Row.fill default ((key, a) :: assigned) t.columns with
      | none => none
      | some row =>
          have hlen : row.length = t.names.length := by
            rw [Row.length_fill hrow, names, List.length_map]
          some (t.insertRow key a row h.1 hlen (cell_of_fill h.1 hrow) hfind)
    else some (t.updateRow key a assigned h.1 h.2.1)
  else none

/-- What an update or an insertion does: the columns stay, the rows of other keys are found
as before, and the row of the key has the assigned cells. -/
structure Upserts (t : Table ν δ α) (key : ν) (a : α) (assigned : List (ν × α))
    (t' : Table ν δ α) : Prop where
  columns_eq : t'.columns = t.columns
  key_eq : t'.key = t.key
  others : ∀ b ≠ a, t'.find key b = t.find key b
  assigned : ∃ row, t'.find key a = some row
    ∧ ∀ name b, assigned.lookup name = some b → t'.cell name row = some b

omit [DecidableEq α] in
/-- A name that something is assigned to. -/
theorem mem_of_lookup
    {assigned : List (ν × α)} {name : ν} {b : α} (h : assigned.lookup name = some b) :
  name ∈ assigned.map Prod.fst
  := by
  obtain ⟨before, after, rfl, -⟩ := List.lookup_eq_some_iff.mp h
  rw [List.map_append, List.map_cons]
  apply List.mem_append_right _ List.mem_cons_self

theorem upserts_updateRow
    {t : Table ν δ α} {key : ν} {a : α} {assigned : List (ν × α)} {hkey : t.key = some key}
    {hassigned : key ∉ assigned.map Prod.fst}
    (hnames : ∀ name ∈ assigned.map Prod.fst, name ∈ t.names) (hfind : t.find key a ≠ none) :
  Upserts t key a assigned (t.updateRow key a assigned hkey hassigned)
  := by
  have hcell : ∀ row, t.cell key (if t.cell key row = some a then Row.assign t.names assigned row
      else row) = t.cell key row := by
    intro row
    split
    · apply Row.cell_assign_of_notMem hassigned
    · rfl
  have hfound : ∀ b, (t.updateRow key a assigned hkey hassigned).find key b
      = (t.find key b).map fun row =>
        if t.cell key row = some a then Row.assign t.names assigned row else row := by
    intro b
    rw [find, updateRow, List.find?_map, find]
    congr 1
    apply congrArg (List.find? · t.rows)
    funext row
    rw [Function.comp_apply]
    apply decide_eq_decide.mpr
    exact Iff.of_eq (congrArg (· = some b) (hcell row))
  constructor
  · rfl
  · rfl
  · intro b hb
    rw [hfound]
    cases hrow : t.find key b with
    | none => rfl
    | some row =>
        have hkeyb := (mem_of_find hrow).2
        rw [Option.map_some, hkeyb, if_neg (fun h => hb (Option.some.inj h))]
  · obtain ⟨row, hrow⟩ := Option.ne_none_iff_exists'.mp hfind
    obtain ⟨hmem, hkeya⟩ := mem_of_find hrow
    use Row.assign t.names assigned row
    constructor
    · rw [hfound, hrow, Option.map_some, if_pos hkeya]
    · intro name b hb
      have hlen := t.rectangular row hmem
      obtain ⟨old, hold⟩ := Option.isSome_iff_exists.mp
        ((Row.isSome_cell hlen name).mpr (hnames name (mem_of_lookup hb)))
      change Row.cell t.names name (Row.assign t.names assigned row) = some b
      rw [Row.cell_assign, names, hold, hb]
      rfl

theorem upserts_insertRow
    {t : Table ν δ α} {default : δ → Option α} {key : ν} {a : α} {assigned : List (ν × α)}
    {row : List α} {hkey : t.key = some key} {hlen : row.length = t.names.length}
    {hcell : t.cell key row = some a} {hnew : t.find key a = none}
    (hassigned : key ∉ assigned.map Prod.fst)
    (hnames : ∀ name ∈ assigned.map Prod.fst, name ∈ t.names)
    (hrow : Row.fill default ((key, a) :: assigned) t.columns = some row) :
  Upserts t key a assigned (t.insertRow key a row hkey hlen hcell hnew)
  := by
  have hfound : ∀ b, (t.insertRow key a row hkey hlen hcell hnew).find key b
      = (t.find key b).or (if a = b then some row else none) := by
    intro b
    change (t.rows ++ [row]).find? (fun row => t.cell key row = some b) = _
    rw [List.find?_append, List.find?_singleton, hcell]
    simp only [Option.some.injEq, decide_eq_true_eq]
    rfl
  constructor
  · rfl
  · rfl
  · intro b hb
    rw [hfound, if_neg hb.symm, Option.or_none]
  · use row
    constructor
    · rw [hfound, hnew, if_pos rfl]
      rfl
    · intro name b hb
      have hname := mem_of_lookup hb
      apply Row.cell_fill hrow (hnames name hname)
      rw [List.lookup_cons, beq_eq_false_iff_ne.mpr]
      · apply hb
      · rintro rfl
        exact hassigned hname

/-- A statement that succeeds updates or inserts. -/
theorem upserts_of_upsert
    {t t' : Table ν δ α} {default : δ → Option α} {key : ν} {a : α} {assigned : List (ν × α)}
    (h : t.upsert default key a assigned = some t') :
  Upserts t key a assigned t'
  := by
  rw [upsert] at h
  split at h
  · rename_i hcheck
    split at h
    · split at h
      · cases h
      · rename_i row hrow
        cases h
        apply upserts_insertRow hcheck.2.1 hcheck.2.2 hrow
    · rename_i hfind
      cases h
      apply upserts_updateRow hcheck.2.2 hfind
  · cases h

/-- A statement succeeds when the columns are there and every column is assigned to or has a
default. -/
theorem isSome_upsert
    {t : Table ν δ α} {default : δ → Option α} {key : ν} {a : α} {assigned : List (ν × α)}
    (hkey : t.key = some key) (hassigned : key ∉ assigned.map Prod.fst)
    (hnames : ∀ name ∈ assigned.map Prod.fst, name ∈ t.names)
    (hfill : ∀ column ∈ t.columns,
      ((((key, a) :: assigned).lookup column.1).or (default column.2)).isSome) :
  (t.upsert default key a assigned).isSome
  := by
  rw [upsert, dif_pos ⟨hkey, hassigned, hnames⟩]
  split
  · split
    · rename_i hnone
      have hsome := Row.isSome_fill hfill
      rw [hnone] at hsome
      cases hsome
    · rfl
  · rfl

/-! ### Inserting and deleting rows -/

/-- A row is inserted, with a key that is new.  There is no such statement if a column is missing
or `key` is not the key. -/
def insert (t : Table ν δ α) (default : δ → Option α) (key : ν) (a : α)
    (assigned : List (ν × α)) : Option (Table ν δ α) :=
  if h : t.key = some key ∧ t.find key a = none
      ∧ ∀ name ∈ assigned.map Prod.fst, name ∈ t.names then
    match hrow : Row.fill default ((key, a) :: assigned) t.columns with
    | none => none
    | some row =>
        have hlen : row.length = t.names.length := by
          rw [Row.length_fill hrow, names, List.length_map]
        some (t.insertRow key a row h.1 hlen (cell_of_fill h.1 hrow) h.2.1)
  else none

/-- An insertion succeeds when the columns are there, every column is assigned to or has a
default, and the key is new; the row comes at the end and has the assigned cells. -/
theorem exists_insert
    {t : Table ν δ α} {default : δ → Option α} {key : ν} {a : α} {assigned : List (ν × α)}
    (hkey : t.key = some key) (hnew : t.find key a = none)
    (hnames : ∀ name ∈ assigned.map Prod.fst, name ∈ t.names)
    (hfill : ∀ column ∈ t.columns,
      ((((key, a) :: assigned).lookup column.1).or (default column.2)).isSome) :
  ∃ t' row, t.insert default key a assigned = some t' ∧ t'.columns = t.columns
    ∧ t'.key = t.key ∧ t'.rows = t.rows ++ [row]
    ∧ ∀ name ∈ t.names, ∀ b, ((key, a) :: assigned).lookup name = some b →
      t'.cell name row = some b
  := by
  rw [insert, dif_pos ⟨hkey, hnew, hnames⟩]
  split
  · rename_i hnone
    have hsome := Row.isSome_fill hfill
    rw [hnone] at hsome
    cases hsome
  · rename_i row hrow
    refine ⟨_, row, rfl, rfl, rfl, rfl, ?_⟩
    intro name hname b hb
    apply Row.cell_fill hrow hname hb

/-- The rows that satisfy `p` stay. -/
def filterRows (t : Table ν δ α) (p : List α → Bool) : Table ν δ α where
  columns := t.columns
  key := t.key
  rows := t.rows.filter p
  nodup := t.nodup
  rectangular row hrow := t.rectangular row (List.mem_of_mem_filter hrow)
  key_mem := t.key_mem
  distinct k hk := (t.distinct k hk).sublist (List.filter_sublist.map _)

end

end Table
