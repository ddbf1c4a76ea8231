import Mathlib.Data.List.Pairwise
import Mathlib.Data.List.Sort

/-!
# Tables with unique indexes

A `Table` is a list of rows no two of which a unique index keeps apart: `Entity.Conflict` says
which rows those are. Every statement that writes rows builds a table again (`Table.ofRows`) and
fails with `DbErr.uniqueViolation` where it cannot, so a table with two conflicting rows does not
exist.
-/

namespace Sql

universe u

/-- Why a statement fails. -/
inductive DbErr
  | uniqueViolation
  | recordNotUpdated
  deriving DecidableEq, Repr

/-- The rows of a table, with the pairs its primary key and unique indexes keep apart. -/
class Entity (Row : Type u) where
  Conflict : Row → Row → Prop
  symm : ∀ {r r' : Row}, Conflict r r' → Conflict r' r
  [dec : DecidableRel Conflict]

instance {Row : Type u} [Entity Row] (r r' : Row) : Decidable (Entity.Conflict r r') :=
  Entity.dec r r'

/-- The rows of a table, without conflicts. -/
structure Table (Row : Type u) [Entity Row] where
  rows : List Row
  unique : rows.Pairwise fun r r' => ¬Entity.Conflict r r'

namespace Table

variable {Row : Type u} [Entity Row]

/-- The table before the first row. -/
def empty : Table Row := ⟨[], .nil⟩

/-- The table with given rows, if they do not conflict. -/
def ofRows (rows : List Row) : Except DbErr (Table Row) :=
  if h : rows.Pairwise fun r r' => ¬Entity.Conflict r r' then .ok ⟨rows, h⟩
  else .error .uniqueViolation

/-- `SELECT .. WHERE`. -/
def select (t : Table Row) (p : Row → Bool) : List Row := t.rows.filter p

/-- `SELECT .. WHERE .. LIMIT 1`. -/
def one (t : Table Row) (p : Row → Bool) : Option Row := t.rows.find? p

/-- `SELECT .. WHERE .. ORDER BY .. DESC LIMIT 1`. -/
def latest (t : Table Row) (p : Row → Bool) (key : Row → Int) : Option Row :=
  ((t.select p).insertionSort fun r r' => key r' ≤ key r).head?

/-- `INSERT`. -/
def insert (t : Table Row) (row : Row) : Except DbErr (Table Row) := ofRows (t.rows ++ [row])

/-- `UPDATE .. WHERE`: every row that meets the condition is changed. -/
def updateMany (t : Table Row) (p : Row → Bool) (f : Row → Row) : Except DbErr (Table Row) :=
  ofRows (t.rows.map fun r => if p r then f r else r)

/-- `UPDATE` of the row of a primary key, which has to exist. -/
def updateOne (t : Table Row) (p : Row → Bool) (f : Row → Row) : Except DbErr (Table Row) :=
  if t.rows.any p then t.updateMany p f else .error .recordNotUpdated

/-! ## What a statement that succeeds leaves -/

theorem rows_of_ofRows {rows : List Row} {t : Table Row} (h : ofRows rows = .ok t) :
    t.rows = rows := by
  unfold ofRows at h
  split at h
  · cases h
    rfl
  · cases h

/-- Rows without conflicts are a table. -/
theorem ofRows_of_pairwise {rows : List Row}
    (h : rows.Pairwise fun r r' => ¬Entity.Conflict r r') : ofRows rows = .ok ⟨rows, h⟩ := by
  rw [ofRows, dif_pos h]

@[simp] theorem mem_empty {r : Row} : ¬r ∈ (empty : Table Row).rows := List.not_mem_nil

theorem mem_select {t : Table Row} {p : Row → Bool} {r : Row} :
    r ∈ t.select p ↔ r ∈ t.rows ∧ p r = true :=
  List.mem_filter

/-- Two rows of a table that conflict are one row. -/
theorem eq_of_conflict {t : Table Row} {r r' : Row} (hr : r ∈ t.rows) (hr' : r' ∈ t.rows)
    (h : Entity.Conflict r r') : r = r' := by
  by_contra hne
  have : Std.Symm fun r r' : Row => ¬Entity.Conflict r r' :=
    ⟨fun _ _ hn hc => hn (Entity.symm hc)⟩
  exact t.unique.forall hr hr' hne h

theorem rows_insert {t t' : Table Row} {row : Row} (h : t.insert row = .ok t') :
    t'.rows = t.rows ++ [row] :=
  rows_of_ofRows h

theorem mem_insert {t t' : Table Row} {row r : Row} (h : t.insert row = .ok t') :
    r ∈ t'.rows ↔ r ∈ t.rows ∨ r = row := by
  rw [rows_insert h, List.mem_append, List.mem_singleton]

/-- An inserted row had no conflict. -/
theorem not_conflict_of_insert {t t' : Table Row} {row r : Row} (h : t.insert row = .ok t')
    (hr : r ∈ t.rows) : ¬Entity.Conflict r row := by
  have hu := t'.unique
  rw [rows_insert h, List.pairwise_append] at hu
  exact hu.2.2 r hr row List.mem_cons_self

/-- A row without conflicts can be inserted. -/
theorem insert_of_not_conflict (t : Table Row) (row : Row)
    (h : ∀ r ∈ t.rows, ¬Entity.Conflict r row) : ∃ t', t.insert row = .ok t' := by
  refine ⟨_, ofRows_of_pairwise (List.pairwise_append.2 ⟨t.unique, List.pairwise_singleton _ _, ?_⟩)⟩
  intro r hr r' hr'
  rw [List.mem_singleton.1 hr']
  exact h r hr

theorem rows_updateMany {t t' : Table Row} {p : Row → Bool} {f : Row → Row}
    (h : t.updateMany p f = .ok t') : t'.rows = t.rows.map fun r => if p r then f r else r :=
  rows_of_ofRows h

/-- What an update does not change of the rows. -/
theorem map_updateMany {α : Type*} {key : Row → α} {t t' : Table Row} {p : Row → Bool}
    {f : Row → Row} (h : t.updateMany p f = .ok t') (hkey : ∀ r, key (f r) = key r) :
    t'.rows.map key = t.rows.map key := by
  rw [rows_updateMany h, List.map_map]
  refine List.map_congr_left fun r _ => ?_
  dsimp only [Function.comp_apply]
  split
  · exact hkey r
  · rfl

theorem mem_updateMany {t t' : Table Row} {p : Row → Bool} {f : Row → Row} {r : Row}
    (h : t.updateMany p f = .ok t') :
    r ∈ t'.rows ↔ (∃ r₀ ∈ t.rows, p r₀ = true ∧ f r₀ = r) ∨ (r ∈ t.rows ∧ p r = false) := by
  rw [rows_updateMany h, List.mem_map]
  constructor
  · rintro ⟨r₀, hmem, heq⟩
    split at heq
    · next hp => exact .inl ⟨r₀, hmem, hp, heq⟩
    · next hp => exact .inr ⟨heq ▸ hmem, heq ▸ Bool.eq_false_iff.2 hp⟩
  · rintro (⟨r₀, hmem, hp, heq⟩ | ⟨hmem, hp⟩)
    · exact ⟨r₀, hmem, by rw [if_pos hp, heq]⟩
    · exact ⟨r, hmem, by rw [if_neg (Bool.eq_false_iff.1 hp)]⟩

/-- An update that brings no new conflicts succeeds. -/
theorem updateMany_of_conflict_imp {t : Table Row} {p : Row → Bool} {f : Row → Row}
    (h : ∀ r ∈ t.rows, ∀ r' ∈ t.rows,
      Entity.Conflict (if p r then f r else r) (if p r' then f r' else r') →
        Entity.Conflict r r') : ∃ t', t.updateMany p f = .ok t' := by
  refine ⟨_, ofRows_of_pairwise (List.pairwise_map.2 ?_)⟩
  exact t.unique.imp_of_mem fun hr hr' hn hc => hn (h _ hr _ hr' hc)

/-- Rows outside an update are selected as before, and its own rows not at all, where the condition
fails on every row it wrote. -/
theorem select_updateMany {t t' : Table Row} {p q : Row → Bool} {f : Row → Row}
    (h : t.updateMany p f = .ok t') (hf : ∀ r, p r = true → q (f r) = false) :
    t'.select q = t.select fun r => q r && !p r := by
  rw [select, select, rows_updateMany h]
  clear h
  induction t.rows with
  | nil => rfl
  | cons r rows ih =>
    rw [List.map_cons, List.filter_cons, List.filter_cons, ih]
    rcases hp : p r with _ | _
    · simp
    · simp [hf r hp]

/-- An update of rows that are not selected, before and after it. -/
theorem select_updateMany_of_not_selected {t t' : Table Row} {p q : Row → Bool} {f : Row → Row}
    (h : t.updateMany p f = .ok t')
    (hp : ∀ r ∈ t.rows, p r = true → q r = false ∧ q (f r) = false) : t'.select q = t.select q := by
  rw [select, select, rows_updateMany h]
  clear h
  revert hp
  induction t.rows with
  | nil => exact fun _ => rfl
  | cons r rows ih =>
    intro hp
    rw [List.map_cons, List.filter_cons, List.filter_cons,
      ih fun r hr => hp r (List.mem_cons_of_mem _ hr)]
    rcases hpr : p r with _ | _
    · simp
    · obtain ⟨hold, hnew⟩ := hp r List.mem_cons_self hpr
      simp [hold, hnew]

theorem select_insert {t t' : Table Row} {row : Row} (h : t.insert row = .ok t') (q : Row → Bool) :
    t'.select q = t.select q ++ if q row then [row] else [] := by
  rw [select, select, rows_insert h, List.filter_append, List.filter_singleton]
  cases q row <;> rfl

/-- An update of one row is an update of a row that is there. -/
theorem updateOne_eq_ok {t t' : Table Row} {p : Row → Bool} {f : Row → Row} :
    t.updateOne p f = .ok t' ↔ (∃ r ∈ t.rows, p r = true) ∧ t.updateMany p f = .ok t' := by
  rw [updateOne, ← List.any_eq_true]
  split
  · next h => simp [h]
  · next h => simp [h]

/-- Tables with the same rows are equal. -/
theorem eq_of_rows_eq {t t' : Table Row} (h : t.rows = t'.rows) : t = t' := by
  cases t
  cases t'
  cases h
  rfl

/-- An update whose condition no row meets leaves the table. -/
theorem eq_of_updateMany {t t' : Table Row} {p : Row → Bool} {f : Row → Row}
    (h : t.updateMany p f = .ok t') (hp : ∀ r ∈ t.rows, p r = false) : t' = t := by
  refine eq_of_rows_eq ?_
  rw [rows_updateMany h, List.map_congr_left (g := id) fun r hr => by simp [hp r hr], List.map_id]

/-- The rows of a table in another order are a table. -/
theorem exists_of_perm {t : Table Row} {rows : List Row} (h : rows.Perm t.rows) :
    ∃ t' : Table Row, t'.rows = rows := by
  have hsymm : ∀ {r r' : Row}, ¬Entity.Conflict r r' → ¬Entity.Conflict r' r :=
    fun hn hc => hn (Entity.symm hc)
  exact ⟨⟨rows, (h.pairwise_iff hsymm).2 t.unique⟩, rfl⟩

/-- The row a table finds is the first it selects. -/
theorem one_eq_head? (t : Table Row) (p : Row → Bool) : t.one p = (t.select p).head? :=
  List.head?_filter.symm

/-- Each selected row is the first one in some order of the table. -/
theorem exists_head_of_mem_select {t : Table Row} {p : Row → Bool} {r : Row} (h : r ∈ t.select p) :
    ∃ t' : Table Row, t'.rows.Perm t.rows ∧ (t'.select p).head? = some r := by
  obtain ⟨hmem, hp⟩ := mem_select.1 h
  obtain ⟨before, after, hsplit⟩ := List.append_of_mem hmem
  have hperm : (r :: (before ++ after)).Perm t.rows := hsplit ▸ List.perm_middle.symm
  obtain ⟨t', ht'⟩ := exists_of_perm hperm
  refine ⟨t', ht' ▸ hperm, ?_⟩
  rw [select, ht', List.filter_cons_of_pos hp]
  rfl

/-- A row the table finds is a row of the table that meets the condition. -/
theorem mem_of_one {t : Table Row} {p : Row → Bool} {r : Row} (h : t.one p = some r) :
    r ∈ t.rows ∧ p r = true :=
  ⟨List.mem_of_find?_eq_some h, List.find?_some h⟩

/-- A condition no two rows share finds its row. -/
theorem one_eq_some {t : Table Row} {p : Row → Bool} {r : Row} (hr : r ∈ t.rows) (hp : p r = true)
    (h : ∀ r' ∈ t.rows, p r' = true → r' = r) : t.one p = some r := by
  cases ho : t.one p with
  | none => exact absurd hp (List.find?_eq_none.1 ho r hr)
  | some r' => rw [h r' (mem_of_one ho).1 (mem_of_one ho).2]

theorem mem_of_latest {t : Table Row} {p : Row → Bool} {key : Row → Int} {r : Row}
    (h : t.latest p key = some r) : r ∈ t.rows ∧ p r = true := by
  exact mem_select.1 ((List.perm_insertionSort _ _).mem_iff.1 (List.mem_of_head? h))

/-- The order matters only if there is something to order. -/
theorem latest_eq_none {t : Table Row} {p : Row → Bool} {key : Row → Int} :
    t.latest p key = none ↔ ∀ r ∈ t.rows, p r = false := by
  have hnil : (t.select p).insertionSort (fun r r' => key r' ≤ key r) = [] ↔ t.select p = [] :=
    ⟨fun h => (h ▸ List.perm_insertionSort _ _).symm.eq_nil, fun h => by rw [h]; rfl⟩
  rw [latest, List.head?_eq_none_iff, hnil, select, List.filter_eq_nil_iff]
  simp

end Table

end Sql
