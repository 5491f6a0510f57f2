import QueryDiagram.Proofs.Query.Output
import QueryDiagram.Diagram.Build

/-!
Which table a query lists first.

The table search starts again at every `FROM` keyword token of a statement, inside a call or
not, and takes the first name after it (`tableAfterFrom_name_fst`). What it finds only ever
joins the end of the list (`prefix_tablesFrom`), so the first `FROM` keyword token names the
first table (`head_tablesFrom`), and the first table is the one whose node takes the columns,
conditions and `GROUP BY` items of no named table.

A call of the select list such as `EXTRACT(year FROM d)` holds such a token. Its argument then
comes first among the tables, before the table of the clause, and the bare column `x` of
`SELECT EXTRACT(year FROM d), x FROM t` is shown on the node of `d`
(`parse_reads_call_argument_as_table`).
-/

namespace QueryDiagram.Query

open Sql Text

theorem prefix_addTableName (acc : List String) (name : String) :
    acc <+: addTableName acc name := by
  unfold addTableName
  split
  · exact List.prefix_refl _
  · exact List.prefix_append _ _

/-- The tables found so far stay at the front of the list. -/
theorem prefix_tablesFrom (ts : List Token) (acc : List String) : acc <+: tablesFrom ts acc := by
  fun_induction tablesFrom ts acc with
  | case1 acc => exact List.prefix_refl _
  | case2 _ _ acc _ found n _ ih =>
    cases found with
    | none => exact ih
    | some name => exact (prefix_addTableName acc name).trans ih
  | case3 _ _ _ _ ih => exact ih

/-- After a `FROM`, tokens that are neither names nor stop keywords are passed over, and the
first name is the table, whatever follows it. -/
theorem tableAfterFrom_name_fst {B rest : List Token} {t : Token}
    (hB : ∀ u ∈ B, u.isKeywordIn tableStops = false ∧ u.isName = false)
    (htn : t.isKeywordIn tableStops = false) (ht : t.isName = true)
    (hname : trim t.text ≠ "" ∧ upper (trim t.text) ≠ "AS") :
    (tableAfterFrom (B ++ t :: rest)).1 = some (trim t.text) := by
  induction B with
  | nil => simp [tableAfterFrom, htn, ht, hname.1, hname.2]
  | cons u B ih =>
    simp only [List.mem_cons, forall_eq_or_imp] at hB
    rw [List.cons_append, tableAfterFrom_pass _ hB.1.1 hB.1.2, ih hB.2]

/-- The first `FROM` keyword token of a statement names its first table, wherever the token
stands. -/
theorem head_tablesFrom {A B rest : List Token} {f t : Token}
    (hA : ∀ u ∈ A, u.isKeyword "FROM" = false) (hf : f.isKeyword "FROM" = true)
    (hB : ∀ u ∈ B, u.isKeywordIn tableStops = false ∧ u.isName = false)
    (htn : t.isKeywordIn tableStops = false) (ht : t.isName = true)
    (hname : trim t.text ≠ "" ∧ upper (trim t.text) ≠ "AS") :
    (tablesFrom (A ++ f :: (B ++ t :: rest)) []).head? = some (trim t.text) := by
  have hfst : (tableAfterFrom (B ++ t :: rest)).1 = some (trim t.text) :=
    tableAfterFrom_name_fst hB htn ht hname
  rw [tablesFrom_append _ _ hA, tablesFrom, if_pos hf]
  generalize tableAfterFrom (B ++ t :: rest) = p at hfst ⊢
  obtain ⟨found, n⟩ := p
  subst hfst
  -- the table found first opens the list, and later ones are added after it
  obtain ⟨more, hmore⟩ := prefix_tablesFrom ((B ++ t :: rest).drop n) [trim t.text]
  simp only [Option.map_some, Option.getD_some, addTableName, List.contains_nil,
    Bool.false_eq_true, if_false, List.nil_append]
  rw [← hmore]
  rfl

/-- A `FROM` inside a call of the select list is taken for the clause: the call's argument `d`
comes first among the tables, and the bare column `x` goes to its node. -/
theorem parse_reads_call_argument_as_table :
    ((parse "SELECT EXTRACT(year FROM d), x FROM t").map fun q =>
      (q.tables, (Diagram.ofQuery q).nodes.map fun n => (n.name, n.columns))).toOption =
      some (["d", "t"], [("d", ["x"]), ("t", [])]) := by
  decide +kernel

end QueryDiagram.Query
