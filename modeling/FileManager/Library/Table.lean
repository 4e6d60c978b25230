import Mathlib.Data.List.Nodup
import Mathlib.Data.List.Perm.Subperm

/-!
**Keyed tables in insertion order.**

A table is a list of `(key, row)` entries, kept in the order the rows were inserted. This is the
shape of a document collection read in natural order (a query for the first matching document
returns the oldest one) and of a table of in-flight requests keyed by their number.

* `find` (the first row satisfying a predicate), `get` (the row with a key), `insert` (at the
  end), `modify` and `set` (the row with a key), `erase` (the row with a key), `mapRows` (every
  row);
* `column f` (the values of `f` over the rows, in order), `collect g` (the values of a partial
  `g`, over the rows it is defined on) and `keys`;
* the facts the invariants use: what each operation does to membership, to the keys and to a
  column, and when a column stays free of duplicates (`nodup_column_insert`,
  `nodup_column_erase`, `column_modify_of_eq`).
-/

set_option linter.unusedSectionVars false

namespace Table

variable {Key Row β : Type} [DecidableEq Key]

/-! ### Operations -/

/-- The first entry, in insertion order, whose row satisfies `p`. -/
def find (rows : List (Key × Row)) (p : Row → Bool) : Option (Key × Row) :=
  rows.find? fun entry => p entry.2

/-- The entry with key `key`. -/
def get (rows : List (Key × Row)) (key : Key) : Option (Key × Row) :=
  rows.find? fun entry => decide (entry.1 = key)

/-- Add an entry at the end. -/
def insert (rows : List (Key × Row)) (key : Key) (row : Row) : List (Key × Row) :=
  rows ++ [(key, row)]

/-- Apply `f` to the row with key `key`. -/
def modify (rows : List (Key × Row)) (key : Key) (f : Row → Row) : List (Key × Row) :=
  rows.map fun entry => if entry.1 = key then (entry.1, f entry.2) else entry

/-- Replace the row with key `key`. -/
def set (rows : List (Key × Row)) (key : Key) (row : Row) : List (Key × Row) :=
  modify rows key fun _ => row

/-- Remove the entry with key `key`. -/
def erase (rows : List (Key × Row)) (key : Key) : List (Key × Row) :=
  rows.filter fun entry => decide (entry.1 ≠ key)

/-- Apply `f` to every row. -/
def mapRows (f : Row → Row) (rows : List (Key × Row)) : List (Key × Row) :=
  rows.map fun entry => (entry.1, f entry.2)

/-- The keys, in order. -/
def keys (rows : List (Key × Row)) : List Key := rows.map Prod.fst

/-- The values of `f` over the rows, in order. -/
def column (f : Row → β) (rows : List (Key × Row)) : List β := rows.map fun entry => f entry.2

/-- Each key with the value of `f` at its row, in order. -/
def pairs (f : Row → β) (rows : List (Key × Row)) : List (Key × β) :=
  rows.map fun entry => (entry.1, f entry.2)

/-- The values `g` gives, over the rows it gives one for, in order. -/
def collect (g : Row → Option β) (rows : List (Key × Row)) : List β :=
  rows.filterMap fun entry => g entry.2

/-! ### Lookups -/

theorem find_eq_none {rows : List (Key × Row)} {p : Row → Bool} :
    find rows p = none ↔ ∀ entry ∈ rows, p entry.2 = false := by
  simp [find, List.find?_eq_none]

theorem get_eq_some {rows : List (Key × Row)} {key : Key} {entry : Key × Row}
    (found : get rows key = some entry) : entry ∈ rows ∧ entry.1 = key :=
  ⟨List.mem_of_find?_eq_some found, by simpa using List.find?_some found⟩

theorem get_eq_none {rows : List (Key × Row)} {key : Key} :
    get rows key = none ↔ key ∉ keys rows := by
  simp only [get, List.find?_eq_none, decide_eq_true_eq, keys, List.mem_map]
  constructor
  · rintro absent ⟨entry, member, rfl⟩
    exact absent entry member rfl
  · intro absent entry member same
    exact absent ⟨entry, member, same⟩

theorem get_insert_of_not_mem {rows : List (Key × Row)} {key : Key} (row : Row)
    (fresh : key ∉ keys rows) : get (insert rows key row) key = some (key, row) := by
  have absent : get rows key = none := get_eq_none.mpr fresh
  simp only [get, insert, List.find?_append] at absent ⊢
  rw [absent]
  simp

theorem get_insert_of_ne {rows : List (Key × Row)} {key other : Key} (row : Row)
    (different : other ≠ key) : get (insert rows key row) other = get rows other := by
  simp only [get, insert, List.find?_append]
  cases rows.find? (fun entry => decide (entry.1 = other)) with
  | some entry => rfl
  | none => simp [Ne.symm different]

theorem get_set_of_mem {rows : List (Key × Row)} {key : Key} (row : Row)
    (present : key ∈ keys rows) : get (set rows key row) key = some (key, row) := by
  induction rows with
  | nil => simp [keys] at present
  | cons entry rest ih =>
    by_cases same : entry.1 = key
    · simp [get, set, modify, same]
    · have inRest : key ∈ keys rest := by
        simp only [keys, List.map_cons, List.mem_cons] at present
        exact present.resolve_left (Ne.symm same)
      have tail := ih inRest
      simp only [get, set, modify] at tail ⊢
      simpa [same] using tail

/-- A modification of a key no row has changes nothing. -/
theorem modify_of_not_mem {rows : List (Key × Row)} {key : Key} (f : Row → Row)
    (absent : key ∉ keys rows) : modify rows key f = rows := by
  unfold modify
  conv => rhs; rw [← List.map_id rows]
  apply List.map_congr_left
  intro entry member
  have other : entry.1 ≠ key := fun same => absent (same ▸ List.mem_map_of_mem member)
  simp [other]

theorem set_of_not_mem {rows : List (Key × Row)} {key : Key} (row : Row)
    (absent : key ∉ keys rows) : set rows key row = rows :=
  modify_of_not_mem _ absent

theorem set_insert_of_not_mem {rows : List (Key × Row)} {key : Key} (row row' : Row)
    (fresh : key ∉ keys rows) : set (insert rows key row) key row' = insert rows key row' := by
  have untouched : modify rows key (fun _ => row') = rows := modify_of_not_mem _ fresh
  simp [set, insert, modify, List.map_append] at untouched ⊢
  exact untouched

theorem set_cons (entry : Key × Row) (rest : List (Key × Row)) (key : Key) (row : Row) :
    set (entry :: rest) key row = (if entry.1 = key then (entry.1, row) else entry) :: set rest key row :=
  rfl

theorem set_cons_self (rest : List (Key × Row)) (key : Key) (row row' : Row) :
    set ((key, row) :: rest) key row' = (key, row') :: set rest key row' := by
  simp [set, modify]

theorem set_cons_of_ne {entry : Key × Row} (rest : List (Key × Row)) {key : Key} (row' : Row)
    (other : entry.1 ≠ key) : set (entry :: rest) key row' = entry :: set rest key row' := by
  simp [set, modify, other]

theorem get_set_of_ne {rows : List (Key × Row)} {key other : Key} (row : Row)
    (different : other ≠ key) : get (set rows key row) other = get rows other := by
  induction rows with
  | nil => rfl
  | cons entry rest ih =>
    rw [set_cons]
    by_cases same : entry.1 = key
    · -- the replaced entry has the key `key`, which `get` does not look for
      rw [if_pos same]
      simp only [get, List.find?_cons, same, Ne.symm different, decide_false] at ih ⊢
      exact ih
    · rw [if_neg same]
      simp only [get, List.find?_cons] at ih ⊢
      split
      · rfl
      · exact ih

/-! ### Membership -/

@[simp] theorem mem_insert {rows : List (Key × Row)} {key : Key} {row : Row} {entry : Key × Row} :
    entry ∈ insert rows key row ↔ entry ∈ rows ∨ entry = (key, row) := by
  simp [insert]

@[simp] theorem mem_erase {rows : List (Key × Row)} {key : Key} {entry : Key × Row} :
    entry ∈ erase rows key ↔ entry ∈ rows ∧ entry.1 ≠ key := by
  simp [erase]

theorem mem_modify {rows : List (Key × Row)} {key : Key} {f : Row → Row} {entry : Key × Row}
    (member : entry ∈ modify rows key f) :
    (entry ∈ rows ∧ entry.1 ≠ key) ∨ ∃ old, (key, old) ∈ rows ∧ entry = (key, f old) := by
  simp only [modify, List.mem_map] at member
  obtain ⟨original, inRows, image⟩ := member
  by_cases same : original.1 = key
  · rw [if_pos same] at image
    refine .inr ⟨original.2, ?_, ?_⟩
    · rw [← same]
      exact inRows
    · rw [← image, same]
  · rw [if_neg same] at image
    exact .inl ⟨image ▸ inRows, image ▸ same⟩

theorem mem_set {rows : List (Key × Row)} {key : Key} {row : Row} {entry : Key × Row}
    (member : entry ∈ set rows key row) : (entry ∈ rows ∧ entry.1 ≠ key) ∨ entry = (key, row) := by
  rcases mem_modify member with kept | ⟨_, _, replaced⟩
  · exact .inl kept
  · exact .inr replaced

theorem mem_set_of_ne {rows : List (Key × Row)} {key : Key} (row : Row) {entry : Key × Row}
    (member : entry ∈ rows) (other : entry.1 ≠ key) : entry ∈ set rows key row := by
  simp only [set, modify, List.mem_map]
  exact ⟨entry, member, if_neg other⟩

theorem mem_set_self {rows : List (Key × Row)} {key : Key} (row : Row)
    (present : key ∈ keys rows) : (key, row) ∈ set rows key row := by
  simp only [keys, List.mem_map] at present
  obtain ⟨entry, member, rfl⟩ := present
  simp only [set, modify, List.mem_map]
  exact ⟨entry, member, if_pos rfl⟩

/-- With keys that do not repeat, the row `get` finds is the only row with its key. -/
theorem eq_of_get_of_mem {rows : List (Key × Row)} {key : Key} {row row' : Row}
    (distinct : (keys rows).Nodup) (found : get rows key = some (key, row))
    (member : (key, row') ∈ rows) : row' = row := by
  have same := List.inj_on_of_nodup_map distinct member (get_eq_some found).1 rfl
  exact (Prod.mk.inj same).2

/-- With keys that do not repeat, modifying the row of a key sets it to the modified row. -/
theorem modify_eq_set {rows : List (Key × Row)} {key : Key} {row : Row}
    (distinct : (keys rows).Nodup) (found : get rows key = some (key, row)) (f : Row → Row) :
    modify rows key f = set rows key (f row) := by
  unfold set modify
  refine List.map_congr_left fun entry member => ?_
  by_cases here : entry.1 = key
  · have only : entry.2 = row := eq_of_get_of_mem distinct found (by rw [← here]; exact member)
    simp [here, only]
  · simp [here]

/-- With keys that do not repeat, `get` finds each entry by its key. -/
theorem get_of_mem {rows : List (Key × Row)} {entry : Key × Row} (distinct : (keys rows).Nodup)
    (member : entry ∈ rows) : get rows entry.1 = some entry := by
  cases found : get rows entry.1 with
  | none =>
    exact absurd (List.mem_map_of_mem member) (get_eq_none.mp found)
  | some other =>
    obtain ⟨inRows, sameKey⟩ := get_eq_some found
    rw [List.inj_on_of_nodup_map distinct inRows member sameKey]

/-! ### Keys and columns -/

@[simp] theorem keys_insert (rows : List (Key × Row)) (key : Key) (row : Row) :
    keys (insert rows key row) = keys rows ++ [key] := by
  simp [keys, insert]

@[simp] theorem keys_modify (rows : List (Key × Row)) (key : Key) (f : Row → Row) :
    keys (modify rows key f) = keys rows := by
  simp only [keys, modify, List.map_map]
  congr 1
  funext entry
  by_cases same : entry.1 = key <;> simp [same]

@[simp] theorem keys_set (rows : List (Key × Row)) (key : Key) (row : Row) :
    keys (set rows key row) = keys rows :=
  keys_modify rows key _

@[simp] theorem keys_mapRows (f : Row → Row) (rows : List (Key × Row)) :
    keys (mapRows f rows) = keys rows := by
  simp [keys, mapRows]

theorem mem_mapRows {f : Row → Row} {rows : List (Key × Row)} {entry : Key × Row} :
    entry ∈ mapRows f rows ↔ ∃ old ∈ rows, entry = (old.1, f old.2) := by
  simp only [mapRows, List.mem_map]
  constructor
  · rintro ⟨old, member, rfl⟩
    exact ⟨old, member, rfl⟩
  · rintro ⟨old, member, rfl⟩
    exact ⟨old, member, rfl⟩

/-- A row that `f` leaves as it is stays in the table. -/
theorem mem_mapRows_of_fixed {f : Row → Row} {rows : List (Key × Row)} {entry : Key × Row}
    (member : entry ∈ rows) (fixed : f entry.2 = entry.2) : entry ∈ mapRows f rows :=
  mem_mapRows.mpr ⟨entry, member, by rw [fixed]⟩

theorem get_mapRows (f : Row → Row) (rows : List (Key × Row)) (key : Key) :
    get (mapRows f rows) key = (get rows key).map fun entry => (entry.1, f entry.2) := by
  simp only [get, mapRows, List.find?_map]
  rfl

@[simp] theorem mem_keys_erase {rows : List (Key × Row)} {key other : Key} :
    other ∈ keys (erase rows key) ↔ other ∈ keys rows ∧ other ≠ key := by
  simp only [keys, List.mem_map, mem_erase]
  constructor
  · rintro ⟨entry, ⟨member, kept⟩, rfl⟩
    exact ⟨⟨entry, member, rfl⟩, kept⟩
  · rintro ⟨⟨entry, member, rfl⟩, kept⟩
    exact ⟨entry, ⟨member, kept⟩, rfl⟩

@[simp] theorem column_insert (f : Row → β) (rows : List (Key × Row)) (key : Key) (row : Row) :
    column f (insert rows key row) = column f rows ++ [f row] := by
  simp [column, insert]

theorem column_erase_sublist (f : Row → β) (rows : List (Key × Row)) (key : Key) :
    (column f (erase rows key)).Sublist (column f rows) :=
  (List.filter_sublist).map _

/-- A modification that keeps the column leaves the column as it was. -/
theorem column_modify_of_eq (f : Row → β) (rows : List (Key × Row)) (key : Key) (g : Row → Row)
    (keeps : ∀ row, f (g row) = f row) : column f (modify rows key g) = column f rows := by
  simp only [column, modify, List.map_map]
  congr 1
  funext entry
  by_cases same : entry.1 = key <;> simp [same, keeps]

@[simp] theorem pairs_insert (f : Row → β) (rows : List (Key × Row)) (key : Key) (row : Row) :
    pairs f (insert rows key row) = pairs f rows ++ [(key, f row)] := by
  simp [pairs, insert]

/-- Replacing the only row with a key by a row with the same value of `f` keeps the pairs. -/
theorem pairs_set_of_eq (f : Row → β) {rows : List (Key × Row)} {key : Key} {old : Row}
    (new : Row) (distinct : (keys rows).Nodup) (found : get rows key = some (key, old))
    (same : f new = f old) : pairs f (set rows key new) = pairs f rows := by
  simp only [pairs, set, modify, List.map_map]
  apply List.map_congr_left
  intro entry member
  by_cases here : entry.1 = key
  · have only : entry.2 = old :=
      eq_of_get_of_mem distinct found (by rw [← here]; exact member)
    simp [here, only, same]
  · simp [here]

theorem nodup_column_insert {f : Row → β} {rows : List (Key × Row)} {key : Key} {row : Row}
    (distinct : (column f rows).Nodup) (fresh : f row ∉ column f rows) :
    (column f (insert rows key row)).Nodup := by
  rw [column_insert, List.nodup_append]
  refine ⟨distinct, by simp, ?_⟩
  intro a inRows b inNew same
  rw [List.mem_singleton] at inNew
  exact fresh (inNew ▸ same ▸ inRows)

theorem nodup_column_erase {f : Row → β} {rows : List (Key × Row)} (key : Key)
    (distinct : (column f rows).Nodup) : (column f (erase rows key)).Nodup :=
  distinct.sublist (column_erase_sublist f rows key)

theorem mem_column {f : Row → β} {rows : List (Key × Row)} {value : β} :
    value ∈ column f rows ↔ ∃ entry ∈ rows, f entry.2 = value := by
  simp [column]

/-- No row has the value `value` in a column exactly when a search for it finds nothing. -/
theorem find_eq_none_iff_not_mem_column [DecidableEq β] {f : Row → β} {rows : List (Key × Row)}
    {value : β} : find rows (fun row => decide (f row = value)) = none ↔ value ∉ column f rows := by
  rw [find_eq_none, mem_column]
  constructor
  · rintro absent ⟨entry, member, same⟩
    have differs := absent entry member
    simp [same] at differs
  · intro absent entry member
    simpa using fun same => absent ⟨entry, member, same⟩

/-! ### Collected values -/

@[simp] theorem collect_nil (g : Row → Option β) : collect g ([] : List (Key × Row)) = [] := rfl

@[simp] theorem collect_cons (g : Row → Option β) (entry : Key × Row) (rows : List (Key × Row)) :
    collect g (entry :: rows) = (g entry.2).toList ++ collect g rows := by
  cases found : g entry.2 <;> simp [collect, found]

@[simp] theorem collect_insert (g : Row → Option β) (rows : List (Key × Row)) (key : Key)
    (row : Row) : collect g (insert rows key row) = collect g rows ++ (g row).toList := by
  cases found : g row <;> simp [collect, insert, List.filterMap_append, found]

/-- A map that keeps the value of each row keeps the collected values. -/
theorem collect_mapRows_of_eq {g : Row → Option β} {f : Row → Row} (same : ∀ row, g (f row) = g row)
    (rows : List (Key × Row)) : collect g (mapRows f rows) = collect g rows := by
  simp only [collect, mapRows, List.filterMap_map]
  exact List.filterMap_congr fun entry _ => same entry.2

/-- A map that keeps or hides the value of each row shrinks the collected values to a sublist. -/
theorem collect_mapRows_sublist {g : Row → Option β} {f : Row → Row}
    (shrinks : ∀ row, g (f row) = g row ∨ g (f row) = none) (rows : List (Key × Row)) :
    (collect g (mapRows f rows)).Sublist (collect g rows) := by
  induction rows with
  | nil => exact List.Sublist.slnil
  | cons entry rest ih =>
    show (collect g ((entry.1, f entry.2) :: mapRows f rest)).Sublist _
    rw [collect_cons, collect_cons]
    rcases shrinks entry.2 with same | hidden
    · rw [same]
      exact ih.append_left _
    · rw [hidden]
      exact ih.trans (List.sublist_append_right _ _)

theorem mem_collect {g : Row → Option β} {rows : List (Key × Row)} {value : β} :
    value ∈ collect g rows ↔ ∃ entry ∈ rows, g entry.2 = some value := by
  simp [collect]

/-- With collected values that do not repeat, a value is collected from one row only. -/
theorem eq_of_mem_collect {g : Row → Option β} {rows : List (Key × Row)} {entry entry' : Key × Row}
    {value : β} (distinct : (collect g rows).Nodup) (member : entry ∈ rows) (member' : entry' ∈ rows)
    (held : g entry.2 = some value) (held' : g entry'.2 = some value) : entry = entry' := by
  induction rows with
  | nil => cases member
  | cons first rest ih =>
    rw [collect_cons, List.nodup_append] at distinct
    obtain ⟨_, restDistinct, apart⟩ := distinct
    rcases List.mem_cons.mp member with rfl | inRest <;>
      rcases List.mem_cons.mp member' with rfl | inRest'
    · rfl
    · exact absurd rfl (apart value (by simp [held]) value (mem_collect.mpr ⟨entry', inRest', held'⟩))
    · exact absurd rfl (apart value (by simp [held']) value (mem_collect.mpr ⟨entry, inRest, held⟩))
    · exact ih restDistinct inRest inRest'

/-- **Replacing a row trades its value for the new row's.** With keys that do not repeat, the
values collected after `set` and the old row's value are those collected before and the new
row's, up to order. -/
theorem collect_set_perm (g : Row → Option β) {rows : List (Key × Row)} {key : Key} {old : Row}
    (new : Row) (distinct : (keys rows).Nodup) (found : get rows key = some (key, old)) :
    (collect g (set rows key new) ++ (g old).toList).Perm (collect g rows ++ (g new).toList) := by
  induction rows with
  | nil => simp [get] at found
  | cons entry rest ih =>
    simp only [keys, List.map_cons, List.nodup_cons] at distinct
    obtain ⟨fresh, restDistinct⟩ := distinct
    by_cases same : entry.1 = key
    · -- the first row is the one with the key, and no other row has it
      have first : entry = (key, old) := by simpa [get, same] using found
      subst first
      rw [set_cons_self, set_of_not_mem _ fresh, collect_cons, collect_cons]
      have swapped : ((g new).toList ++ collect g rest ++ (g old).toList).Perm
          ((g old).toList ++ ((g new).toList ++ collect g rest)) := List.perm_append_comm
      have inner : ((g old).toList ++ ((g new).toList ++ collect g rest)).Perm
          ((g old).toList ++ (collect g rest ++ (g new).toList)) :=
        List.perm_append_comm.append_left _
      rw [List.append_assoc (g old).toList]
      exact swapped.trans inner
    · have later : get rest key = some (key, old) := by simpa [get, same] using found
      rw [set_cons_of_ne _ _ same, collect_cons, collect_cons, List.append_assoc,
        List.append_assoc]
      exact (ih restDistinct later).append_left _

/-- **Replacing a row changes the collected values as the row's own value changes**, beside any
other values: what `after` and the new row's value take from `before`, the old row's value and
`extra`, `after` and the values collected after `set` take from `before`, the values collected
before and `extra`. -/
theorem collect_set_subperm [DecidableEq β] (g : Row → Option β) {rows : List (Key × Row)}
    {key : Key} {old : Row} (new : Row) {before after extra : List β} (distinct : (keys rows).Nodup)
    (found : get rows key = some (key, old))
    (changed : (after ++ (g new).toList).Subperm (before ++ (g old).toList ++ extra)) :
    (after ++ collect g (set rows key new)).Subperm (before ++ collect g rows ++ extra) := by
  have traded := collect_set_perm g new distinct found
  -- compare the number of copies of each value on the two sides
  refine List.subperm_iff_count.mpr fun value => ?_
  have bound := changed.count_le value
  have same := traded.count_eq value
  simp only [List.count_append] at bound same ⊢
  omega

/-! ### Tables related row by row -/

/-- Two entries with one key, whose rows `R` relates. -/
def Agree {Row' : Type} (R : Row → Row' → Prop) (entry : Key × Row) (entry' : Key × Row') : Prop :=
  entry.1 = entry'.1 ∧ R entry.2 entry'.2

/-- A list that is, up to order, inside a list without repeats has no repeats. -/
theorem nodup_of_subperm {l l' : List β} (inside : l.Subperm l') (distinct : l'.Nodup) : l.Nodup := by
  obtain ⟨l'', same, sub⟩ := inside
  exact same.nodup_iff.mp (distinct.sublist sub)

section Agree

variable {Row' : Type} {R : Row → Row' → Prop} {rows : List (Key × Row)} {rows' : List (Key × Row')}

theorem keys_of_forall₂ (agree : List.Forall₂ (Agree R) rows rows') : keys rows = keys rows' := by
  induction agree with
  | nil => rfl
  | cons related _ ih =>
    simp only [keys, List.map_cons] at ih ⊢
    rw [related.1, ih]

/-- Tables related row by row have related entries at each key. -/
theorem get_of_forall₂ (agree : List.Forall₂ (Agree R) rows rows') {key : Key} {entry : Key × Row}
    (found : get rows key = some entry) :
    ∃ entry', get rows' key = some entry' ∧ Agree R entry entry' := by
  induction agree with
  | nil => cases found
  | @cons head head' rest rest' related _ ih =>
    -- the two tables look at entries with the same key, so both stop at the same one
    by_cases here : head.1 = key
    · have first : entry = head := by simpa [get, here] using found.symm
      subst first
      exact ⟨head', by simp [get, ← related.1, here], related⟩
    · obtain ⟨entry', found', agreeing⟩ := ih (by simpa [get, here] using found)
      exact ⟨entry', by simpa [get, ← related.1, here] using found', agreeing⟩

theorem set_of_forall₂ (agree : List.Forall₂ (Agree R) rows rows') (key : Key) {row : Row}
    {row' : Row'} (related : R row row') :
    List.Forall₂ (Agree R) (set rows key row) (set rows' key row') := by
  induction agree with
  | nil => exact .nil
  | @cons head head' rest rest' agreeing _ ih =>
    rw [set_cons, set_cons]
    refine .cons ?_ ih
    by_cases here : head.1 = key
    · rw [if_pos here, if_pos (agreeing.1.symm.trans here)]
      exact ⟨agreeing.1, related⟩
    · rw [if_neg here, if_neg fun same => here (agreeing.1.trans same)]
      exact agreeing

theorem mapRows_of_forall₂ (agree : List.Forall₂ (Agree R) rows rows') {f : Row → Row}
    {g : Row' → Row'} (kept : ∀ row row', R row row' → R (f row) (g row')) :
    List.Forall₂ (Agree R) (mapRows f rows) (mapRows g rows') := by
  induction agree with
  | nil => exact .nil
  | cons related _ ih => exact .cons ⟨related.1, kept _ _ related.2⟩ ih

theorem insert_of_forall₂ (agree : List.Forall₂ (Agree R) rows rows') (key : Key) {row : Row}
    {row' : Row'} (related : R row row') :
    List.Forall₂ (Agree R) (insert rows key row) (insert rows' key row') :=
  List.rel_append agree (.cons ⟨rfl, related⟩ .nil)

end Agree

end Table
