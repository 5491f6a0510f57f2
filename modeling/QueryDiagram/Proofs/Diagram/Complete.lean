import QueryDiagram.Proofs.Query.Output
import QueryDiagram.Proofs.Diagram.Sources
import QueryDiagram.Proofs.Diagram.Store

/-!
The diagram of a read query loses and repeats nothing.

The builder adds a node per table, then an edge per join, then places columns, conditions and
marks on the nodes. Of the outline it reads it needs three things (`Outline.Sound`), and
reading gives them for every text (`Query.outline_sound`): every table is named; every join's
table is trimmed and already among the tables, since reading lists the joined tables after
those of `FROM`; and the selected columns are keyed once each, with `*` under the key `*`
only.

Then the tables give one node each, in the order they first come (`names_foldl_addTable`).
Every join finds a known table to start from, and both its tables have nodes, so it adds
exactly its edge and no node (`addJoins_of_known`). Placing columns, conditions and marks
changes nodes in place. Conditions and named columns are added only when missing. The
wildcard appends `*` to every node once, and no node shows `*` before it does
(`clean_placeColumns`).

None of this depends on the order in which the builder goes through the tables a join
condition qualifies, nor on the conditions placed, so it holds under every set order and every
order of the condition keys.

Main statement: `ofQuery_keeps_tables_and_joins`.
-/

namespace QueryDiagram

open Text

/-- An outline the builder keeps whole: every table is named, every join's table is trimmed
and among the tables, and the selected columns are keyed once each with `*` under `*`
only. -/
structure Outline.Sound (o : Outline) : Prop where
  tables : ∀ t ∈ o.tables, t ≠ ""
  joins : ∀ j ∈ o.joins, trim j.table = j.table ∧ j.table ∈ o.tables
  columns : Query.ColumnsSound o.columns

/-- Reading gives an outline the builder keeps whole. -/
theorem Query.outline_sound {sql : String} {q : Query} (h : Query.parse sql = .ok q) :
    q.outline.Sound := by
  refine ⟨Query.parse_tables_ne h, fun j hj => ?_, Query.parse_columnsSound h⟩
  obtain ⟨j', hj', rfl⟩ := List.mem_map.1 hj
  exact Query.parse_joins_table h j' hj'

/-- The conditions play no part in keeping an outline whole. -/
theorem Outline.Sound.withFilters {o : Outline} (h : o.Sound)
    (filters : List (String × List String)) : { o with filters := filters }.Sound :=
  ⟨h.tables, h.joins, h.columns⟩

namespace Diagram

-- ============================================================ the tables

theorem removeAll_append_singleton (ts xs : List String) (x : String) :
    ts.removeAll (xs ++ [x]) = (ts.removeAll xs).filter (fun b => !b == x) := by
  simp only [List.removeAll, List.filter_filter]
  congr 1
  funext b
  by_cases hb : b = x <;> simp [hb]

/-- Adding tables one by one gives the nodes of those not there yet, each once, in the order
they first come. -/
theorem names_foldl_addTable {μ : Type} [Mark μ] (g : Diagram μ) (ts : List String) :
    (ts.foldl addTable g).names = g.names ++ (ts.removeAll g.names).eraseDups := by
  induction ts generalizing g with
  | nil => simp [List.removeAll]
  | cons t ts ih =>
    rw [List.foldl_cons, ih, names_addTable]
    by_cases ht : t ∈ g.names
    · have hskip : (t :: ts).removeAll g.names = ts.removeAll g.names := by
        simp [List.removeAll, ht]
      simp [ht, hskip]
    · have hkeep : (t :: ts).removeAll g.names = t :: ts.removeAll g.names := by
        simp [List.removeAll, ht]
      simp [ht, hkeep, List.eraseDups_cons, removeAll_append_singleton]

/-- What holds of every node and of every fresh node holds of every node after adding a
table. -/
theorem forall_nodes_addTable {μ : Type} [Mark μ] {g : Diagram μ} {P : TableNode μ → Prop}
    (hg : ∀ n ∈ g.nodes, P n) (hfresh : ∀ t, P (TableNode.fresh t)) (t : String) :
    ∀ n ∈ (g.addTable t).nodes, P n := by
  rw [nodes_addTable]
  split
  · exact hg
  · intro n hn
    rcases List.mem_append.1 hn with hn | hn
    · exact hg n hn
    · rw [List.mem_singleton.1 hn]
      exact hfresh t

/-- Every node of a diagram of tables alone is a node with nothing on it. -/
theorem fresh_of_mem_foldl_addTable {μ : Type} [Mark μ] {g : Diagram μ} (ts : List String)
    (hg : ∀ n ∈ g.nodes, n = TableNode.fresh n.name) :
    ∀ n ∈ (ts.foldl addTable g).nodes, n = TableNode.fresh n.name := by
  induction ts generalizing g with
  | nil => exact hg
  | cons t ts ih => exact ih (forall_nodes_addTable hg (fun _ => rfl) t)

-- ============================================================ the joins

/-- A join whose tables are both known starts at a known table. -/
theorem joinSource_of_mem (order : SetOrder) {known : List String} {target : String}
    (condition : String) (ht : target ∈ known) :
    ∃ s, joinSource order known target condition = some s ∧ s ∈ known := by
  cases hs : joinSource order known target condition with
  | some s => exact ⟨s, rfl, (joinSource_spec hs).1⟩
  | none =>
    -- with nothing found in the condition, the last known table is taken, and there is one
    unfold joinSource at hs
    split at hs
    · cases hs
    · rw [List.getLast?_eq_none_iff] at hs
      simp [hs] at ht

/-- When every joined table is known and has a node, and every known table is named, each join
adds one edge to its table with its kind and condition, from a known table, and no node. -/
theorem addJoins_of_known (order : SetOrder) {g : Diagram Bool} {known : List String}
    {js : List JoinSpec} (hknown : ∀ t ∈ known, t ∈ g.names ∧ t ≠ "")
    (hjs : ∀ j ∈ js, trim j.table = j.table ∧ j.table ∈ known) :
    (addJoins order g known js).nodes = g.nodes ∧
      (addJoins order g known js).edges.map (fun e => (e.target, e.kind, e.condition)) =
        g.edges.map (fun e => (e.target, e.kind, e.condition)) ++
          js.map (fun j => (j.table, j.kind, j.condition)) ∧
      ∀ e ∈ (addJoins order g known js).edges, e ∈ g.edges ∨ e.source ∈ known := by
  induction js generalizing g with
  | nil => exact ⟨rfl, by simp [addJoins], fun e he => .inl he⟩
  | cons j js ih =>
    obtain ⟨htrim, hmem⟩ := hjs j List.mem_cons_self
    obtain ⟨s, hs, hsk⟩ := joinSource_of_mem order j.condition hmem
    have hne : j.table.isEmpty = false := by simpa using (hknown _ hmem).2
    have hsne : s.isEmpty = false := by simpa using (hknown s hsk).2
    -- both tables have nodes, so the join adds its edge and nothing else
    have hstep : addJoins order g known (j :: js) =
        addJoins order (g.addJoin s j.table j.kind j.condition) known js := by
      simp [addJoins, htrim, hne, hs, hsne, hmem]
    have hnodes : (g.addJoin s j.table j.kind j.condition).nodes = g.nodes := by
      rw [nodes_addJoin, addTable_of_mem (hknown s hsk).1, addTable_of_mem (hknown _ hmem).1]
    have hnames : (g.addJoin s j.table j.kind j.condition).names = g.names := by
      simp only [names, hnodes]
    obtain ⟨ih1, ih2, ih3⟩ := ih (g := g.addJoin s j.table j.kind j.condition)
      (fun t ht => hnames ▸ hknown t ht) (fun j' hj' => hjs j' (List.mem_cons_of_mem j hj'))
    refine ⟨hstep ▸ ih1.trans hnodes, ?_, fun e he => ?_⟩
    · rw [hstep, ih2, edges_addJoin]
      simp
    · rw [hstep] at he
      rcases ih3 e he with he | he
      · rw [edges_addJoin, List.mem_append, List.mem_singleton] at he
        rcases he with he | rfl
        · exact .inl he
        · exact .inr hsk
      · exact .inr he

/-- What holds of every node and of every fresh node holds of every node after the joins. -/
theorem forall_nodes_addJoins (order : SetOrder) {g : Diagram Bool} {known : List String}
    {js : List JoinSpec} {P : TableNode Bool → Prop} (hg : ∀ n ∈ g.nodes, P n)
    (hfresh : ∀ t, P (TableNode.fresh t)) : ∀ n ∈ (addJoins order g known js).nodes, P n := by
  induction js generalizing g known with
  | nil => exact hg
  | cons j js ih =>
    simp only [addJoins]
    split
    · exact ih hg
    · split
      · split
        · exact ih hg
        · -- a join adds the nodes of its two tables where missing
          apply ih
          rw [nodes_addJoin]
          exact forall_nodes_addTable (forall_nodes_addTable hg hfresh _) hfresh _
      · exact ih hg

-- ============================================================ what placing keeps

section keep

variable {μ : Type}

/-- What holds of every node still holds after a change that keeps it. -/
theorem forall_nodes_modify {g : Diagram μ} {P : TableNode μ → Prop} (hg : ∀ n ∈ g.nodes, P n)
    (t : String) {f : TableNode μ → TableNode μ} (hf : ∀ n, P n → P (f n)) :
    ∀ n ∈ (g.modify t f).nodes, P n := by
  intro n hn
  obtain ⟨m, hm, rfl⟩ := List.mem_map.1 hn
  split
  · exact hf m (hg m hm)
  · exact hg m hm

theorem forall_nodes_addColumnsTo {g : Diagram μ} {P : TableNode μ → Prop}
    (hg : ∀ n ∈ g.nodes, P n) (t : String) {cols : List String}
    (hP : ∀ n, ∀ c ∈ cols, P n → P (n.addColumn c)) :
    ∀ n ∈ (addColumnsTo g t cols).nodes, P n := by
  induction cols generalizing g with
  | nil => exact hg
  | cons c cols ih =>
    exact ih (forall_nodes_modify hg t fun n hn => hP n c List.mem_cons_self hn)
      fun n c' hc' => hP n c' (List.mem_cons_of_mem c hc')

@[simp] theorem name_addColumn (n : TableNode μ) (c : String) : (n.addColumn c).name = n.name :=
  (n.extends_addColumn c).name

theorem names_addColumnsTo (g : Diagram μ) (t : String) (cols : List String) :
    (addColumnsTo g t cols).names = g.names := by
  induction cols generalizing g with
  | nil => rfl
  | cons c cols ih => exact (ih _).trans (names_modify g t _ fun n => name_addColumn n c)

end keep

theorem names_placeColumns (g : Diagram Bool) (first : Option String)
    (cs : List (String × List String)) : (placeColumns g first cs).names = g.names := by
  induction cs generalizing g with
  | nil => rfl
  | cons kc cs ih =>
    obtain ⟨k, cols⟩ := kc
    rcases placeColumns_cons g first k cols cs with ⟨-, h⟩ | ⟨-, t, h⟩ <;> rw [h, ih]
    · simp [names, TableNode.pushColumn, Function.comp_def]
    · cases t <;> simp [names_addColumnsTo]

/-- What holds of every node, and still holds after a wildcard or a column is added, holds of
every node after placing columns. -/
theorem forall_nodes_placeColumns {g : Diagram Bool} {P : TableNode Bool → Prop}
    (hg : ∀ n ∈ g.nodes, P n) (hpush : ∀ n, P n → P (n.pushColumn "*"))
    (hadd : ∀ n c, P n → P (n.addColumn c)) (first : Option String)
    (cs : List (String × List String)) : ∀ n ∈ (placeColumns g first cs).nodes, P n := by
  induction cs generalizing g with
  | nil => exact hg
  | cons kc cs ih =>
    obtain ⟨k, cols⟩ := kc
    rcases placeColumns_cons g first k cols cs with ⟨-, h⟩ | ⟨-, t, h⟩ <;> rw [h] <;> apply ih
    · intro n hn
      obtain ⟨m, hm, rfl⟩ := List.mem_map.1 hn
      exact hpush m (hg m hm)
    · cases t with
      | none => exact hg
      | some t => exact forall_nodes_addColumnsTo hg t fun n c _ => hadd n c

/-- Placing columns keeps every node listing each column once, when the keys stand once and
`*` is listed under `*` only: a node has no `*` before the key `*` puts one on it. -/
theorem clean_placeColumns {g : Diagram Bool} {first : Option String}
    {cs : List (String × List String)} (hcs : Query.ColumnsSound cs)
    (hg : ∀ n ∈ g.nodes, n.Clean ∧ ("*" ∈ Query.keysOf cs → "*" ∉ n.columns)) :
    ∀ n ∈ (placeColumns g first cs).nodes, n.Clean := by
  induction cs generalizing g with
  | nil => exact fun n hn => (hg n hn).1
  | cons kc cs ih =>
    obtain ⟨k, cols⟩ := kc
    have hkeys : k ∉ Query.keysOf cs ∧ (Query.keysOf cs).Nodup := by
      simpa [Query.keysOf] using hcs.keys
    have hrest : Query.ColumnsSound cs :=
      ⟨hkeys.2, fun kc hkc => hcs.star kc (List.mem_cons_of_mem _ hkc)⟩
    have hlater : ∀ n ∈ g.nodes, n.Clean ∧ ("*" ∈ Query.keysOf cs → "*" ∉ n.columns) :=
      fun n hn => ⟨(hg n hn).1, fun hs => (hg n hn).2 (List.mem_cons_of_mem k hs)⟩
    rcases placeColumns_cons g first k cols cs with ⟨rfl, h⟩ | ⟨hk, t, h⟩ <;> rw [h] <;>
      apply ih hrest
    · -- the key `*` stands once, and no node shows `*` before it
      intro n hn
      obtain ⟨m, hm, rfl⟩ := List.mem_map.1 hn
      have hnot : "*" ∉ m.columns := (hg m hm).2 List.mem_cons_self
      refine ⟨⟨?_, (hg m hm).1.filters⟩, fun hs => absurd hs hkeys.1⟩
      rw [TableNode.pushColumn, ← List.concat_eq_append]
      exact (hg m hm).1.columns.concat hnot
    · -- any other key lists no `*`, so adding its columns keeps `*` away
      have hcols : "*" ∉ cols := (hcs.star (k, cols) List.mem_cons_self).resolve_left hk
      have hstep : ∀ n : TableNode Bool, ∀ c ∈ cols, (n.Clean ∧ ("*" ∈ Query.keysOf cs → "*" ∉ n.columns)) →
          (n.addColumn c).Clean ∧ ("*" ∈ Query.keysOf cs → "*" ∉ (n.addColumn c).columns) := by
        intro n c hc hn
        refine ⟨hn.1.addColumn c, fun hs => ?_⟩
        unfold TableNode.addColumn
        split
        · exact hn.2 hs
        · simp only [List.mem_append, List.mem_singleton, not_or]
          exact ⟨hn.2 hs, fun h => hcols (h ▸ hc)⟩
      cases t with
      | none => exact hlater
      | some t => exact forall_nodes_addColumnsTo hlater t hstep

theorem names_placeFilters (g : Diagram Bool) (first : Option String)
    (kls : List (String × List String)) : (placeFilters g first kls).names = g.names := by
  rw [placeFilters_eq]
  simp [names, Function.comp_def]

/-- What holds of every node, and still holds after a condition is added, holds of every node
after placing conditions. -/
theorem forall_nodes_placeFilters {g : Diagram Bool} {P : TableNode Bool → Prop}
    (hg : ∀ n ∈ g.nodes, P n) (hadd : ∀ n f, P n → P (n.addFilter f)) (first : Option String)
    (kls : List (String × List String)) : ∀ n ∈ (placeFilters g first kls).nodes, P n := by
  have hfold : ∀ (fs : List String) (m : TableNode Bool), P m →
      P (fs.foldl TableNode.addFilter m) := by
    intro fs
    induction fs with
    | nil => exact fun _ h => h
    | cons f fs ih => exact fun m h => ih _ (hadd m f h)
  rw [placeFilters_eq]
  intro n hn
  obtain ⟨m, hm, rfl⟩ := List.mem_map.1 hn
  exact hfold _ m (hg m hm)

theorem clean_placeFilters {g : Diagram Bool} (hg : ∀ n ∈ g.nodes, n.Clean)
    (first : Option String) (kls : List (String × List String)) :
    ∀ n ∈ (placeFilters g first kls).nodes, n.Clean :=
  forall_nodes_placeFilters hg (fun _ f h => h.addFilter f) first kls

theorem names_markGroups (g : Diagram Bool) (items : List String) :
    (markGroups g items).names = g.names := by
  induction items generalizing g with
  | nil => rfl
  | cons item items ih =>
    simp only [markGroups]
    split
    · rw [ih]
      cases lookupName g _ with
      | none => rfl
      | some t => exact names_modify g t _ fun _ => rfl
    · cases g.names.head? with
      | none => rfl
      | some t => exact names_modify g t _ fun _ => rfl

theorem clean_markGroups {g : Diagram Bool} (hg : ∀ n ∈ g.nodes, n.Clean) (items : List String) :
    ∀ n ∈ (markGroups g items).nodes, n.Clean := by
  induction items generalizing g with
  | nil => exact hg
  | cons item items ih =>
    simp only [markGroups]
    split
    · apply ih
      cases lookupName g _ with
      | none => exact hg
      | some t => exact forall_nodes_modify hg t fun n hn => hn.setMark true
    · cases g.names.head? with
      | none => exact hg
      | some t => exact forall_nodes_modify hg t fun n hn => hn.setMark true

-- ============================================================ the whole diagram

/-- The tables of a built diagram are those of its tables and joins: placing columns,
conditions and marks keeps them. -/
theorem names_ofOutlineBy (order : SetOrder) (o : Outline) :
    (ofOutlineBy order o).names =
      (addJoins order (o.tables.foldl addTable empty) o.tables o.joins).names := by
  simp only [ofOutlineBy, names_markGroups, names_placeFilters, names_placeColumns]

/-- The builder keeps an outline whole: one node per table, in the order the tables first
come; one edge per join, in order, to the join's table with its kind and condition, from a
table with a node; and every node listing each column and condition once. -/
theorem ofOutlineBy_complete (order : SetOrder) {o : Outline} (ho : o.Sound) :
    (ofOutlineBy order o).names = o.tables.eraseDups ∧
      (ofOutlineBy order o).edges.map (fun e => (e.target, e.kind, e.condition)) =
        o.joins.map (fun j => (j.table, j.kind, j.condition)) ∧
      (∀ e ∈ (ofOutlineBy order o).edges, e.source ∈ (ofOutlineBy order o).names) ∧
      ∀ n ∈ (ofOutlineBy order o).nodes, n.Clean := by
  -- the tables first: a fresh node for each, in the order they first come
  have hnames₀ : (o.tables.foldl addTable (empty : Diagram Bool)).names = o.tables.eraseDups := by
    rw [names_foldl_addTable]
    simp [names, empty, List.removeAll]
  have hfresh := fresh_of_mem_foldl_addTable o.tables (g := (empty : Diagram Bool))
    fun n hn => by simp [empty] at hn
  have hedges₀ : (o.tables.foldl addTable (empty : Diagram Bool)).edges = [] := by
    simp [edges_foldl_addTable, empty]
  -- then the joins, which add no node since their tables are among the outline's
  obtain ⟨hnodes, hedges, hsources⟩ := addJoins_of_known order
    (fun t ht => ⟨mem_names_foldl_addTable _ _ (.inr ht), ho.tables t ht⟩) ho.joins
  have hnames : (ofOutlineBy order o).names = o.tables.eraseDups := by
    rw [names_ofOutlineBy, names, hnodes, ← names, hnames₀]
  have hclean₁ : ∀ n ∈ (addJoins order (o.tables.foldl addTable empty) o.tables o.joins).nodes,
      n.Clean ∧ ("*" ∈ Query.keysOf o.columns → "*" ∉ n.columns) := by
    intro n hn
    rw [hnodes] at hn
    rw [hfresh n hn]
    exact ⟨TableNode.clean_fresh _, by simp [TableNode.fresh]⟩
  refine ⟨hnames, ?_, fun e he => ?_, ?_⟩
  · rw [edges_ofOutlineBy, hedges, hedges₀]
    rfl
  · rw [edges_ofOutlineBy] at he
    rcases hsources e he with he | he
    · simp [hedges₀] at he
    · rw [hnames, List.mem_eraseDups]
      exact he
  · exact clean_markGroups (clean_placeFilters (clean_placeColumns ho.columns hclean₁) _ _) _

/-- The diagram of a read query, under every order of the tables a join condition qualifies
and with its conditions under the keys in any order, has one node per table of the query, in
the order the tables first come; one edge per join, in the order of the joins, to the join's
table with its kind and condition, from a table that has a node; and nodes that list each
column and each condition once. The running builder, `ofQuery`, is the case of the tables in
the order the condition names them and of the keys as read. -/
theorem ofQuery_keeps_tables_and_joins {sql : String} {q : Query} (h : Query.parse sql = .ok q)
    (order : SetOrder) (filters : List (String × List String)) :
    (ofOutlineBy order { q.outline with filters := filters }).names = q.tables.eraseDups ∧
      (ofOutlineBy order { q.outline with filters := filters }).edges.map
          (fun e => (e.target, e.kind, e.condition)) =
        q.joins.map (fun j => (j.table, j.kind, j.condition)) ∧
      (∀ e ∈ (ofOutlineBy order { q.outline with filters := filters }).edges,
        e.source ∈ (ofOutlineBy order { q.outline with filters := filters }).names) ∧
      ∀ n ∈ (ofOutlineBy order { q.outline with filters := filters }).nodes,
        n.columns.Nodup ∧ n.filters.Nodup := by
  obtain ⟨hnames, hedges, hsources, hclean⟩ :=
    ofOutlineBy_complete order ((Query.outline_sound h).withFilters filters)
  refine ⟨hnames, ?_, hsources, fun n hn => ⟨(hclean n hn).columns, (hclean n hn).filters⟩⟩
  rw [hedges]
  simp [Query.outline]

/-- A query with a join and a condition, built with the tables of each join condition taken in
reverse. -/
theorem ofQuery_keeps_joined_tables :
    let q : Query :=
      ⟨["a", "b"], [⟨"INNER", "b", "a.k = b.k"⟩], [("a", ["x"]), ("b", ["y"])],
        [("a", ["a . u   =   1"])], []⟩
    let g := ofOutlineBy SetOrder.reversed { q.outline with filters := q.filters }
    Query.parse "SELECT a.x, b.y FROM a JOIN b ON a.k = b.k WHERE a.u = 1" = .ok q ∧
      g.names = q.tables.eraseDups ∧
      g.edges.map (fun e => (e.target, e.kind, e.condition)) =
        q.joins.map (fun j => (j.table, j.kind, j.condition)) ∧
      (∀ e ∈ g.edges, e.source ∈ g.names) ∧
      ∀ n ∈ g.nodes, n.columns.Nodup ∧ n.filters.Nodup :=
  have h : Query.parse "SELECT a.x, b.y FROM a JOIN b ON a.k = b.k WHERE a.u = 1" =
      .ok ⟨["a", "b"], [⟨"INNER", "b", "a.k = b.k"⟩], [("a", ["x"]), ("b", ["y"])],
        [("a", ["a . u   =   1"])], []⟩ := by
    decide +kernel
  ⟨h, ofQuery_keeps_tables_and_joins h SetOrder.reversed _⟩

end Diagram

end QueryDiagram
