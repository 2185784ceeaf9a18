import Mathlib

/-! Tables of rows under a unique key. A table cannot hold two rows with one key: an insertion that would
break the key is refused, and an update never touches the key columns. -/
namespace AgentMesh.Library
open List

variable {α κ : Type}

/-- The rows of one table in insertion order, with no two rows sharing a key. -/
structure Table (key : α → κ) where
  rows : List α
  keyed : (rows.map key).Nodup

/-- Apply `change` to every row that `selects` picks, leaving the others as they are. -/
def updateWhere (selects : α → Bool) (change : α → α) (rows : List α) : List α :=
  rows.map fun row => if selects row then change row else row

theorem map_updateWhere (key : α → κ) (selects : α → Bool) (change : α → α)
    (keeps : ∀ row, key (change row) = key row) (rows : List α) :
    (updateWhere selects change rows).map key = rows.map key := by
  simp only [updateWhere, map_map]
  apply map_congr_left
  intro row _
  by_cases picked : selects row = true <;> simp [picked, keeps]

theorem mem_updateWhere {selects : α → Bool} {change : α → α} {rows : List α} {row : α} :
    row ∈ updateWhere selects change rows ↔ ∃ old ∈ rows, (if selects old then change old else old) = row := by
  simp [updateWhere]

theorem filter_updateWhere (selects kept : α → Bool) (change : α → α)
    (keeps : ∀ row, kept (change row) = kept row) (rows : List α) :
    (updateWhere selects change rows).filter kept = updateWhere selects change (rows.filter kept) := by
  induction rows with
  | nil => rfl
  | cons row rows ih =>
    simp only [updateWhere, map_cons] at ih ⊢
    by_cases picked : selects row = true <;> by_cases chosen : kept row = true <;>
      simp [picked, chosen, keeps, ih]

theorem find_updateWhere (selects wanted : α → Bool) (change : α → α)
    (keeps : ∀ row, wanted (change row) = wanted row) (rows : List α) :
    (updateWhere selects change rows).find? wanted =
      (rows.find? wanted).map fun row => if selects row then change row else row := by
  induction rows with
  | nil => rfl
  | cons row rows ih =>
    simp only [updateWhere, map_cons] at ih ⊢
    by_cases picked : selects row = true <;> by_cases chosen : wanted row = true <;>
      simp [picked, chosen, keeps, ih]

@[simp]
theorem updateWhere_nil (selects : α → Bool) (change : α → α) : updateWhere selects change [] = [] := rfl

theorem updateWhere_of_none (selects : α → Bool) (change : α → α) (rows : List α)
    (none : ∀ row ∈ rows, selects row = false) : updateWhere selects change rows = rows := by
  rw [updateWhere, map_congr_left (g := id), map_id]
  intro row member
  simp [none row member]

/-- Under a unique key a row is the only one with its key. -/
theorem filter_key_eq [DecidableEq κ] (key : α → κ) {rows : List α} {row : α} (distinct : (rows.map key).Nodup)
    (member : row ∈ rows) : (rows.filter fun other => key other = key row) = [row] := by
  induction rows with
  | nil => cases member
  | cons first rows ih =>
    rw [map_cons, nodup_cons] at distinct
    rcases mem_cons.mp member with rfl | later
    · have others : (rows.filter fun other => key other = key row) = [] := by
        rw [filter_eq_nil_iff]
        intro other otherIn same
        exact distinct.1 (mem_map.mpr ⟨other, otherIn, by simpa using same⟩)
      rw [filter_cons_of_pos (by simp), others]
    · have differs : key first ≠ key row := fun same => distinct.1 (mem_map.mpr ⟨row, later, same.symm⟩)
      rw [filter_cons_of_neg (by simpa using differs)]
      exact ih distinct.2 later

theorem length_le_one_of_key (key : α → κ) (value : κ) {rows : List α} (distinct : (rows.map key).Nodup)
    (same : ∀ row ∈ rows, key row = value) : rows.length ≤ 1 := by
  have constant : rows.map key = replicate rows.length value := by
    rw [eq_replicate_iff]
    simpa using same
  rw [constant, nodup_replicate] at distinct
  exact distinct

/-- Two lists with the same rows under every value of a column but one hold the same rows elsewhere. -/
theorem perm_of_slices [DecidableEq κ] (column : α → κ) (here : κ) {before after : List α}
    (same : ∀ value, value ≠ here →
      (after.filter fun row => column row = value) = before.filter fun row => column row = value) :
    (after.filter fun row => column row ≠ here).Perm (before.filter fun row => column row ≠ here) := by
  classical
  rw [perm_iff_count]
  intro row
  by_cases owned : column row = here
  · rw [count_eq_zero.mpr (by simp [owned]), count_eq_zero.mpr (by simp [owned])]
  · have counts : ∀ rows : List α, (rows.filter fun other => column other ≠ here).count row =
        (rows.filter fun other => column other = column row).count row := by
      intro rows
      rw [count_filter (by simpa using owned), count_filter (by simp)]
    rw [counts, counts, same _ owned]

/-- How a count changes when only the rows under one value of a column change. -/
theorem countP_of_slices [DecidableEq κ] (column : α → κ) (here : κ) {before after : List α}
    {counted recounted : α → Bool}
    (same : ∀ value, value ≠ here →
      (after.filter fun row => column row = value) = before.filter fun row => column row = value)
    (agree : ∀ row, column row ≠ here → recounted row = counted row) :
    after.countP recounted + (before.filter fun row => column row = here).countP counted =
      before.countP counted + (after.filter fun row => column row = here).countP recounted := by
  have elsewhere : (after.filter fun row => column row ≠ here).countP recounted =
      (before.filter fun row => column row ≠ here).countP counted := by
    rw [(perm_of_slices column here same).countP_eq]
    apply countP_congr
    intro row member
    rw [agree row (by simpa using (mem_filter.mp member).2)]
  have splitAfter := countP_eq_countP_filter_add after recounted fun row => decide (column row = here)
  have splitBefore := countP_eq_countP_filter_add before counted fun row => decide (column row = here)
  simp only [decide_not] at elsewhere
  omega

theorem countP_lt_countP {counted recounted : α → Bool} {rows : List α} {row : α}
    (weaker : ∀ row ∈ rows, recounted row = true → counted row = true) (member : row ∈ rows)
    (before : counted row = true) (after : recounted row = false) : rows.countP recounted < rows.countP counted := by
  induction rows with
  | nil => cases member
  | cons first rows ih =>
    have rest : rows.countP recounted ≤ rows.countP counted :=
      countP_mono_left fun row later => weaker row (mem_cons_of_mem _ later)
    rw [countP_cons, countP_cons]
    rcases mem_cons.mp member with rfl | later
    · rw [before, after]
      simp
      omega
    · have fewer := ih (fun row later => weaker row (mem_cons_of_mem _ later)) later
      have head := weaker first (by simp)
      cases chosen : recounted first
      · simp
        omega
      · simp [head chosen]
        omega

theorem sublist_with_one_more {shorter longer : List α} {extra : α} (sublist : shorter.Sublist longer)
    (same : longer.Perm (extra :: shorter)) :
    ∃ left right, shorter = left ++ right ∧ longer = left ++ extra :: right := by
  induction sublist with
  | slnil => exact absurd same.length_eq (by simp)
  | @cons shorter longer head sublist _ =>
    have lengths : shorter.length = longer.length := by simpa using same.length_eq.symm
    obtain rfl := sublist.eq_of_length lengths
    have heads : [head].Perm [extra] := (perm_append_right_iff shorter).mp same
    obtain rfl : head = extra := by simpa using heads
    exact ⟨[], shorter, rfl, rfl⟩
  | @cons_cons shorter longer head sublist ih =>
    obtain ⟨left, right, rfl, rfl⟩ := ih ((same.trans (.swap head extra _)).cons_inv)
    exact ⟨head :: left, right, rfl, rfl⟩

theorem insertionSort_append_singleton (order : α → α → Prop) [DecidableRel order] [Std.Total order] [IsTrans α order]
    (rows : List α) (row : α) :
    ∃ left right, rows.insertionSort order = left ++ right ∧
      (rows ++ [row]).insertionSort order = left ++ row :: right := by
  have sublist : (rows.insertionSort order).Sublist ((rows ++ [row]).insertionSort order) := by
    induction rows with
    | nil => exact nil_sublist _
    | cons head rows ih => exact ih.orderedInsert_sublist head (pairwise_insertionSort order _)
  apply sublist_with_one_more sublist
  calc (rows ++ [row]).insertionSort order
    _ |>.Perm (rows ++ [row]) := perm_insertionSort order _
    _ |>.Perm (row :: rows) := perm_append_singleton row rows
    _ |>.Perm (row :: rows.insertionSort order) := (perm_insertionSort order rows).symm.cons row

/-- The second list goes on from the first: it relates to it row by row and may have more rows. -/
def Continues {β : Type} (relation : α → β → Prop) : List α → List β → Prop
  | [], _ => True
  | _ :: _, [] => False
  | old :: before, new :: after => relation old new ∧ Continues relation before after

namespace Continues

variable {β γ : Type}

theorem map (change : α → β) {relation : α → β → Prop} {rows : List α}
    (related : ∀ row ∈ rows, relation row (change row)) : Continues relation rows (rows.map change) := by
  induction rows with
  | nil => trivial
  | cons row rows ih => exact ⟨related row (by simp), ih fun other member => related other (by simp [member])⟩

theorem map_left (change : α → β) {relation : β → γ → Prop} {before : List α} {after : List γ}
    (continues : Continues (fun old new => relation (change old) new) before after) :
    Continues relation (before.map change) after := by
  induction before generalizing after with
  | nil => trivial
  | cons old before ih =>
    cases after with
    | nil => exact continues.elim
    | cons new after => exact ⟨continues.1, ih continues.2⟩

theorem append {relation : α → α → Prop} (reflexive : ∀ row, relation row row) (rows more : List α) :
    Continues relation rows (rows ++ more) := by
  induction rows with
  | nil => trivial
  | cons row rows ih => exact ⟨reflexive row, ih⟩

theorem refl {relation : α → α → Prop} (reflexive : ∀ row, relation row row) (rows : List α) :
    Continues relation rows rows := by
  simpa using append reflexive rows []

theorem replace {relation : α → α → Prop} {old row : α} (reflexive : ∀ row, relation row row)
    (replaces : relation old row) (front back : List α) :
    Continues relation (front ++ old :: back) (front ++ row :: back) := by
  induction front with
  | nil => exact ⟨replaces, refl reflexive back⟩
  | cons other front ih => exact ⟨reflexive other, ih⟩

theorem mem {relation : α → β → Prop} {before : List α} {after : List β} (continues : Continues relation before after) :
    ∀ old ∈ before, ∃ new ∈ after, relation old new := by
  induction before generalizing after with
  | nil => simp
  | cons head before ih =>
    cases after with
    | nil => exact continues.elim
    | cons next after =>
      intro old member
      rcases mem_cons.mp member with rfl | inside
      · exact ⟨next, by simp, continues.1⟩
      · obtain ⟨new, found, related⟩ := ih continues.2 old inside
        exact ⟨new, by simp [found], related⟩

theorem imp {relation weaker : α → β → Prop} {before : List α} {after : List β}
    (continues : Continues relation before after)
    (implies : ∀ old ∈ before, ∀ new ∈ after, relation old new → weaker old new) : Continues weaker before after := by
  induction before generalizing after with
  | nil => trivial
  | cons head before ih =>
    cases after with
    | nil => exact continues.elim
    | cons next after =>
      exact ⟨implies head (by simp) next (by simp) continues.1,
        ih continues.2 fun old inside new found => implies old (by simp [inside]) new (by simp [found])⟩

theorem trans {first : α → β → Prop} {second : β → γ → Prop} {both : α → γ → Prop}
    (compose : ∀ {old middle new}, first old middle → second middle new → both old new) {before : List α}
    {between : List β} {after : List γ} (head : Continues first before between)
    (tail : Continues second between after) : Continues both before after := by
  induction before generalizing between after with
  | nil => trivial
  | cons old before ih =>
    cases between with
    | nil => exact head.elim
    | cons middle between =>
      cases after with
      | nil => exact tail.elim
      | cons new after => exact ⟨compose head.1 tail.1, ih head.2 tail.2⟩

end Continues

namespace Table

variable {key : α → κ}

def empty : Table key := ⟨[], nodup_nil⟩

def lookup [DecidableEq κ] (table : Table key) (wanted : κ) : Option α :=
  table.rows.find? fun row => key row = wanted

def insert? [DecidableEq κ] (table : Table key) (row : α) : Option (Table key) :=
  if taken : key row ∈ table.rows.map key then none
  else some ⟨table.rows ++ [row], by
    rw [map_append]
    exact nodup_append.mpr ⟨table.keyed, by simp, by
      rintro first old second fresh rfl
      obtain rfl : first = key row := by simpa using fresh
      exact taken old⟩⟩

/-- Put a row under its key, in the place of the row that is there or after all others. -/
def putRow [DecidableEq κ] (key : α → κ) (row : α) : List α → List α
  | [] => [row]
  | old :: rows => if key old = key row then row :: rows else old :: putRow key row rows

theorem mem_map_putRow [DecidableEq κ] (key : α → κ) (row : α) (rows : List α) (value : κ) :
    value ∈ (putRow key row rows).map key ↔ value = key row ∨ value ∈ rows.map key := by
  induction rows with
  | nil => simp [putRow]
  | cons old rows ih =>
    unfold putRow
    split
    · rename_i same
      simp [same]
    · rw [map_cons, mem_cons, ih, map_cons, mem_cons]
      tauto

theorem nodup_putRow [DecidableEq κ] (key : α → κ) (row : α) {rows : List α} (distinct : (rows.map key).Nodup) :
    ((putRow key row rows).map key).Nodup := by
  induction rows with
  | nil => simp [putRow]
  | cons old rows ih =>
    rw [map_cons, nodup_cons] at distinct
    unfold putRow
    split
    · rename_i same
      rw [map_cons, nodup_cons, ← same]
      exact distinct
    · rename_i other
      rw [map_cons, nodup_cons, mem_map_putRow]
      exact ⟨fun member => member.elim other distinct.1, ih distinct.2⟩

theorem putRow_of_absent [DecidableEq κ] (key : α → κ) {row : α} {rows : List α}
    (absent : ∀ old ∈ rows, key old ≠ key row) : putRow key row rows = rows ++ [row] := by
  induction rows with
  | nil => rfl
  | cons old rows ih =>
    rw [putRow, if_neg (absent old (by simp)), ih fun other member => absent other (by simp [member]), cons_append]

theorem putRow_of_present [DecidableEq κ] (key : α → κ) {row old : α} {front back : List α} (same : key old = key row)
    (absent : ∀ other ∈ front, key other ≠ key row) :
    putRow key row (front ++ old :: back) = front ++ row :: back := by
  induction front with
  | nil => rw [nil_append, putRow, if_pos same, nil_append]
  | cons other front ih =>
    rw [cons_append, putRow, if_neg (absent other (by simp)), ih fun other member => absent other (by simp [member]),
      cons_append]

def put [DecidableEq κ] (table : Table key) (row : α) : Table key :=
  ⟨putRow key row table.rows, nodup_putRow key row table.keyed⟩

def update (table : Table key) (selects : α → Bool) (change : α → α)
    (keeps : ∀ row, key (change row) = key row) : Table key :=
  ⟨updateWhere selects change table.rows, by rw [map_updateWhere key selects change keeps]; exact table.keyed⟩

def delete (table : Table key) (selects : α → Bool) : Table key :=
  ⟨table.rows.filter fun row => !selects row,
    (filter_sublist.map key).nodup table.keyed⟩

def slice {κ' : Type} [DecidableEq κ'] (table : Table key) (column : α → κ') (value : κ') : List α :=
  table.rows.filter fun row => column row = value

@[simp] theorem empty_rows : (empty : Table key).rows = [] := rfl

@[simp] theorem update_rows (table : Table key) (selects : α → Bool) (change : α → α)
    (keeps : ∀ row, key (change row) = key row) :
    (table.update selects change keeps).rows = updateWhere selects change table.rows := rfl

@[simp] theorem delete_rows (table : Table key) (selects : α → Bool) :
    (table.delete selects).rows = table.rows.filter fun row => !selects row := rfl

theorem ext_rows {first second : Table key} (same : first.rows = second.rows) : first = second := by
  cases first
  cases second
  cases same
  rfl

instance [DecidableEq α] : DecidableEq (Table key) := fun first second =>
  decidable_of_iff (first.rows = second.rows) ⟨ext_rows, congrArg rows⟩

section slice

variable {κ' : Type} [DecidableEq κ'] (table : Table key) (column : α → κ') (value : κ')

theorem mem_slice (row : α) : row ∈ table.slice column value ↔ row ∈ table.rows ∧ column row = value := by
  simp [slice]

theorem slice_update (selects : α → Bool) (change : α → α) (keeps : ∀ row, key (change row) = key row)
    (fixes : ∀ row, column (change row) = column row) :
    (table.update selects change keeps).slice column value = updateWhere selects change (table.slice column value) := by
  apply filter_updateWhere
  intro row
  rw [fixes]

theorem nodup_slice {ρ : Type} (rest : α → ρ)
    (completes : ∀ first second, column first = column second → rest first = rest second → key first = key second) :
    ((table.slice column value).map rest).Nodup := by
  have keyed : ((table.slice column value).map key).Nodup := (filter_sublist.map key).nodup table.keyed
  refine .map_on ?_ keyed.of_map
  intro first firstIn second secondIn same
  obtain ⟨firstRow, here⟩ := (table.mem_slice column value first).mp firstIn
  obtain ⟨secondRow, there⟩ := (table.mem_slice column value second).mp secondIn
  exact inj_on_of_nodup_map table.keyed firstRow secondRow (completes first second (here.trans there.symm) same)

theorem slice_delete (gone : κ') : (table.delete fun row => column row = gone).slice column value =
      if value = gone then [] else table.slice column value := by
  simp only [slice, delete_rows, filter_filter]
  split
  · rename_i same
    subst same
    simp
  · rename_i differs
    apply filter_congr
    intro row _
    by_cases here : column row = value
    · simp [here, differs]
    · simp [here]

end slice

variable [DecidableEq κ]

theorem lookup_eq_some (table : Table key) (wanted : κ) (row : α) :
    table.lookup wanted = some row ↔ row ∈ table.rows ∧ key row = wanted := by
  constructor
  · intro found
    exact ⟨mem_of_find?_eq_some found, by simpa using find?_some found⟩
  · rintro ⟨member, rfl⟩
    cases found : table.lookup (key row) with
    | none =>
      have absent := find?_eq_none.mp found row member
      simp at absent
    | some other =>
      have stored := mem_of_find?_eq_some found
      have sameKey : key other = key row := by simpa using find?_some found
      rw [inj_on_of_nodup_map table.keyed stored member sameKey]

theorem of_lookup {table : Table key} {wanted : κ} {row : α} (found : table.lookup wanted = some row) :
    row ∈ table.rows ∧ key row = wanted := (table.lookup_eq_some wanted row).mp found

theorem lookup_eq_none {table : Table key} {wanted : κ} :
    table.lookup wanted = none ↔ ∀ row ∈ table.rows, key row ≠ wanted := by
  simp [lookup, find?_eq_none]

theorem absent_of_slice {κ' : Type} [DecidableEq κ'] {before after : Table key} (column : α → κ') {value : κ'}
    {wanted : κ} (same : after.slice column value = before.slice column value)
    (inside : ∀ row, key row = wanted → column row = value) (absent : before.lookup wanted = none) :
    after.lookup wanted = none := by
  rw [lookup_eq_none] at absent ⊢
  intro row member found
  have here : row ∈ after.slice column value := (after.mem_slice column value row).mpr ⟨member, inside row found⟩
  rw [same] at here
  exact absent row ((before.mem_slice column value row).mp here).1 found

theorem insert_eq_some {table : Table key} {row : α} {after : Table key} :
    table.insert? row = some after ↔ table.lookup (key row) = none ∧ after.rows = table.rows ++ [row] := by
  unfold insert?
  rw [lookup_eq_none]
  split
  · rename_i taken
    obtain ⟨old, member, same⟩ := mem_map.mp taken
    constructor
    · intro impossible
      cases impossible
    · rintro ⟨fresh, _⟩
      exact absurd same (fresh old member)
  · rename_i taken
    constructor
    · intro inserted
      cases inserted
      refine ⟨?_, rfl⟩
      intro old member same
      exact taken (mem_map.mpr ⟨old, member, same⟩)
    · rintro ⟨_, rows⟩
      exact congrArg some (ext_rows rows.symm)

theorem insert_of_free (table : Table key) (row : α) (free : table.lookup (key row) = none) :
    ∃ after, table.insert? row = some after := by
  rw [lookup_eq_none] at free
  have absent : key row ∉ table.rows.map key := by
    intro taken
    obtain ⟨other, member, same⟩ := mem_map.mp taken
    exact free other member same
  exact ⟨_, by rw [insert?, dif_neg absent]⟩

/-- An insertion that ignores a taken key keeps every row and leaves one under the key. -/
theorem insert_or_ignore (table : Table key) (row : α) :
    (∀ old ∈ table.rows, old ∈ ((table.insert? row).getD table).rows) ∧
      ∃ kept ∈ ((table.insert? row).getD table).rows, key kept = key row := by
  cases inserted : table.insert? row with
  | some after =>
    obtain ⟨_, rows⟩ := Table.insert_eq_some.mp inserted
    simp only [Option.getD_some, rows]
    exact ⟨fun old member => mem_append_left _ member, row, by simp, rfl⟩
  | none =>
    have taken : key row ∈ table.rows.map key := by
      by_contra free
      simp [insert?, free] at inserted
    obtain ⟨kept, member, same⟩ := mem_map.mp taken
    exact ⟨fun old member => member, kept, member, same⟩

/-- A column whose values are distinct stays so when the inserted row brings a new value. -/
theorem nodup_insert {κ' : Type} {table after : Table key} {row : α} (inserted : table.insert? row = some after)
    (column : α → κ') (distinct : (table.rows.map column).Nodup) (fresh : ∀ old ∈ table.rows, column old ≠ column row) :
    (after.rows.map column).Nodup := by
  rw [(insert_eq_some.mp inserted).2, map_append, nodup_append]
  refine ⟨distinct, by simp, ?_⟩
  intro value member other isNew same
  obtain ⟨old, stored, rfl⟩ := mem_map.mp member
  simp only [map_cons, map_nil, mem_singleton] at isNew
  exact fresh old stored (same.trans isNew)

theorem slice_insert {κ' : Type} [DecidableEq κ'] {table after : Table key} {row : α}
    (inserted : table.insert? row = some after) (column : α → κ') (value : κ') :
    after.slice column value =
      if column row = value then table.slice column value ++ [row] else table.slice column value := by
  obtain ⟨_, rows⟩ := Table.insert_eq_some.mp inserted
  simp only [slice, rows, filter_append]
  split <;> simp_all

theorem lookup_insert {table after : Table key} {row : α} (inserted : table.insert? row = some after) (wanted : κ) :
    after.lookup wanted = if key row = wanted then some row else table.lookup wanted := by
  obtain ⟨fresh, rows⟩ := Table.insert_eq_some.mp inserted
  simp only [lookup, rows, find?_append] at fresh ⊢
  split
  · rename_i same
    subst same
    simp [fresh]
  · rename_i differs
    simp [differs]

section

variable (table : Table key)

include table

theorem lookup_insert_or_ignore (row : α) (wanted : κ) : ((table.insert? row).getD table).lookup wanted =
      if key row = wanted then (table.lookup wanted).or (some row) else table.lookup wanted := by
  cases inserted : table.insert? row with
  | some after =>
    have free := (Table.insert_eq_some.mp inserted).1
    rw [Option.getD_some, lookup_insert inserted]
    split
    · rename_i same
      rw [← same, free]
      rfl
    · rfl
  | none =>
    have taken : table.lookup (key row) ≠ none := fun free => by
      obtain ⟨_, done⟩ := table.insert_of_free row free
      simp [done] at inserted
    rw [Option.getD_none]
    split
    · rename_i same
      subst same
      cases found : table.lookup (key row) with
      | none => exact absurd found taken
      | some old => rfl
    · rfl

theorem lookup_delete (selects : α → Bool) (wanted : κ) :
    (table.delete selects).lookup wanted = (table.lookup wanted).filter fun row => !selects row := by
  cases found : table.lookup wanted with
  | none =>
    rw [lookup_eq_none] at found
    simp only [Option.filter_none, lookup_eq_none, delete_rows]
    exact fun row member => found row (mem_of_mem_filter member)
  | some row =>
    obtain ⟨member, same⟩ := Table.of_lookup found
    cases picked : selects row with
    | true =>
      simp only [Option.filter, picked, Bool.not_true, Bool.false_eq_true, if_false, lookup_eq_none, delete_rows]
      intro other kept sameKey
      have stored := (table.lookup_eq_some wanted other).mpr ⟨mem_of_mem_filter kept, sameKey⟩
      obtain rfl : row = other := Option.mem_unique found stored
      simp [picked] at kept
    | false =>
      simp only [Option.filter, picked, Bool.not_false, if_true]
      exact (lookup_eq_some _ _ _).mpr ⟨by simp [member, picked], same⟩

theorem lookup_replace (row : α) (wanted : κ) :
    (((table.delete fun old => key old = key row).insert? row).getD (table.delete fun old => key old = key row)).lookup
      wanted = if key row = wanted then some row else table.lookup wanted := by
  have kept : (table.delete fun old => key old = key row).lookup wanted =
      if key row = wanted then none else table.lookup wanted := by
    rw [lookup_delete]
    cases found : table.lookup wanted with
    | none => simp
    | some old =>
      obtain ⟨_, rfl⟩ := Table.of_lookup found
      by_cases same : key old = key row
      · simp [Option.filter, same]
      · simp [Option.filter, same, Ne.symm same]
  rw [lookup_insert_or_ignore, kept]
  split <;> rfl

theorem mem_put (row : α) {wanted : α} (member : wanted ∈ (table.put row).rows) :
    wanted = row ∨ wanted ∈ table.rows := by
  cases found : table.lookup (key row) with
  | none =>
    simp only [put, putRow_of_absent key (Table.lookup_eq_none.mp found), mem_append, mem_singleton] at member
    exact member.symm
  | some old =>
    obtain ⟨same, front, back, rows, before⟩ := find?_eq_some_iff_append.mp found
    have absent : ∀ other ∈ front, key other ≠ key row := fun other member => by simpa using before other member
    simp only [put, rows, putRow_of_present key (by simpa using same) absent, mem_append, mem_cons] at member ⊢
    tauto

theorem continues_put (row : α) {relation : α → α → Prop} (reflexive : ∀ row, relation row row)
    (related : ∀ old, table.lookup (key row) = some old → relation old row) :
    Continues relation table.rows (table.put row).rows := by
  cases found : table.lookup (key row) with
  | none =>
    have absent := Table.lookup_eq_none.mp found
    simp only [put, putRow_of_absent key absent]
    exact .append reflexive table.rows [row]
  | some old =>
    have replaces := related old found
    obtain ⟨same, front, back, rows, before⟩ := find?_eq_some_iff_append.mp found
    have absent : ∀ other ∈ front, key other ≠ key row := fun other member => by simpa using before other member
    simp only [put, rows, putRow_of_present key (by simpa using same) absent]
    exact .replace reflexive replaces front back

theorem foldl_put {rows : List α} (distinct : (rows.map key).Nodup)
    (continues : Continues (fun old new => key old = key new) table.rows rows) :
    (rows.foldl put table).rows = rows := by
  have general : ∀ (todo done rest : List α) (table : Table key), ((done ++ todo).map key).Nodup →
      Continues (fun old new => key old = key new) rest todo → table.rows = done ++ rest →
      (todo.foldl put table).rows = done ++ todo := by
    intro todo
    induction todo with
    | nil =>
      intro done rest table _ continues stored
      cases rest with
      | nil => exact stored
      | cons old rest => exact continues.elim
    | cons row todo ih =>
      intro done rest table distinct continues stored
      have absent : ∀ other ∈ done, key other ≠ key row := by
        intro other member same
        rw [map_append, nodup_append] at distinct
        exact distinct.2.2 (key other) (mem_map_of_mem member) (key row) (by simp) same
      have shifted : ((done ++ [row] ++ todo).map key).Nodup := by simpa using distinct
      rw [foldl_cons, append_cons]
      cases rest with
      | nil =>
        refine ih (done ++ [row]) [] (table.put row) shifted trivial ?_
        rw [append_nil] at stored ⊢
        simp only [put, stored, putRow_of_absent key absent]
      | cons old rest =>
        refine ih (done ++ [row]) rest (table.put row) shifted continues.2 ?_
        simp only [put, stored, putRow_of_present key continues.1 absent, append_assoc, singleton_append]
  exact general rows [] table.rows table distinct continues rfl

theorem lookup_put (row : α) (wanted : κ) :
    (table.put row).lookup wanted = if key row = wanted then some row else table.lookup wanted := by
  simp only [lookup, put]
  induction table.rows with
  | nil => by_cases same : key row = wanted <;> simp [putRow, same]
  | cons old rows ih =>
    unfold putRow
    split
    · rename_i replaced
      by_cases same : key row = wanted <;> simp [same, replaced]
    · rename_i kept
      by_cases here : key old = wanted
      · have other : key row ≠ wanted := fun same => kept (here.trans same.symm)
        simp [here, other]
      · simpa [here] using ih

theorem lookup_update (selects : α → Bool) (change : α → α) (keeps : ∀ row, key (change row) = key row) (wanted : κ) :
    (table.update selects change keeps).lookup wanted =
      (table.lookup wanted).map fun row => if selects row then change row else row := by
  apply find_updateWhere
  intro row
  rw [keeps]

end

end Table

end AgentMesh.Library
