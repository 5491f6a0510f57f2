import Mathlib.Data.List.Nodup
import QueryDiagram.Diagram.Graph

/-!
The store's invariant.

A diagram is built by the store's operations: adding a table, adding a join, and adding a
column, a condition or a mark to the node that adding its table gives. Starting from the
empty store, every sequence of operations reaches a store that is `WellFormed`: one node per
name, so that the nodes are a map from names to nodes (a node's key is its name by the
representation); every edge between two tables that have nodes; and every node listing each
column and condition once.

An operation changes only what it names (`StepsTo`): every node keeps its place, a node the
operation does not name is left as it was, a named node is only extended, the nodes added are
those of named tables, and at most one edge is appended. Over whole runs nothing is lost
(`Keeps`): the nodes of an earlier store are the first nodes of every later one, in their
order, each with its columns and conditions at the front of those it has later, and the
earlier edges are the first edges.

Main statement: `replay_invariant`.

The proof has one step lemma per operation, each from the two shapes an operation's nodes take:
a table added at the end (`nodes_addTable`), or the nodes of a table changed in place after its
table is added (`nodes_modify_addTable`). The run lemmas follow by induction over the
operations.
-/

namespace QueryDiagram

-- ============================================================ nodes

namespace TableNode

variable {μ : Type}

/-- `n'` is `n` with possibly more columns and conditions after its own, and any mark. -/
structure Extends (n n' : TableNode μ) : Prop where
  name : n'.name = n.name
  columns : n.columns <+: n'.columns
  filters : n.filters <+: n'.filters

theorem Extends.refl (n : TableNode μ) : n.Extends n :=
  ⟨rfl, List.prefix_refl _, List.prefix_refl _⟩

theorem Extends.trans {n n' n'' : TableNode μ} (h : n.Extends n') (h' : n'.Extends n'') :
    n.Extends n'' :=
  ⟨h'.name.trans h.name, h.columns.trans h'.columns, h.filters.trans h'.filters⟩

theorem extends_addColumn (n : TableNode μ) (c : String) : n.Extends (n.addColumn c) := by
  unfold addColumn
  split
  · exact .refl n
  · exact ⟨rfl, List.prefix_append _ _, List.prefix_refl _⟩

theorem extends_addFilter (n : TableNode μ) (f : String) : n.Extends (n.addFilter f) := by
  unfold addFilter
  split
  · exact .refl n
  · exact ⟨rfl, List.prefix_refl _, List.prefix_append _ _⟩

theorem extends_setMark (n : TableNode μ) (m : μ) : n.Extends (n.setMark m) :=
  ⟨rfl, List.prefix_refl _, List.prefix_refl _⟩

/-- A node that lists each column and each condition once. -/
structure Clean (n : TableNode μ) : Prop where
  columns : n.columns.Nodup
  filters : n.filters.Nodup

theorem clean_fresh [Mark μ] (name : String) : (fresh name : TableNode μ).Clean :=
  ⟨List.nodup_nil, List.nodup_nil⟩

theorem Clean.addColumn {n : TableNode μ} (h : n.Clean) (c : String) : (n.addColumn c).Clean := by
  unfold TableNode.addColumn
  split
  · exact h
  · rename_i hc
    -- the column is appended only when the node does not show it
    refine ⟨?_, h.filters⟩
    rw [← List.concat_eq_append]
    exact h.columns.concat (by simpa using hc)

theorem Clean.addFilter {n : TableNode μ} (h : n.Clean) (f : String) : (n.addFilter f).Clean := by
  unfold TableNode.addFilter
  split
  · exact h
  · rename_i hf
    refine ⟨h.columns, ?_⟩
    rw [← List.concat_eq_append]
    exact h.filters.concat (by simpa using hf)

theorem Clean.setMark {n : TableNode μ} (h : n.Clean) (m : μ) : (n.setMark m).Clean :=
  ⟨h.columns, h.filters⟩

end TableNode

namespace Diagram

variable {μ : Type}

-- ============================================================ operations

/-- An operation of the store. Adding a column, a condition or a mark is made on the node
that adding its table gives, so the table's node is created if it is missing. -/
inductive Op (μ : Type) where
  | addTable (name : String)
  | addJoin (source target kind condition : String)
  | addColumn (table column : String)
  | addFilter (table condition : String)
  | setMark (table : String) (mark : μ)

/-- The tables an operation names. -/
def Op.tables : Op μ → List String
  | .addTable t => [t]
  | .addJoin s t _ _ => [s, t]
  | .addColumn t _ => [t]
  | .addFilter t _ => [t]
  | .setMark t _ => [t]

/-- Performs an operation. -/
def perform [Mark μ] (g : Diagram μ) : Op μ → Diagram μ
  | .addTable t => g.addTable t
  | .addJoin s t k c => g.addJoin s t k c
  | .addColumn t c => g.addColumn t c
  | .addFilter t f => g.addFilter t f
  | .setMark t m => g.setMark t m

/-- The store that a sequence of operations builds from the empty one. -/
def replay [Mark μ] (ops : List (Op μ)) : Diagram μ := ops.foldl perform empty

theorem replay_append_singleton [Mark μ] (ops : List (Op μ)) (op : Op μ) :
    replay (ops ++ [op]) = (replay ops).perform op := by
  simp [replay]

-- ============================================================ the shapes of an operation

/-- The nodes of a store after a table is added and its node changed. -/
theorem nodes_modify_addTable [Mark μ] (g : Diagram μ) (t : String)
    (F : TableNode μ → TableNode μ) :
    ((g.addTable t).modify t F).nodes =
      g.nodes.map (fun n => if n.name == t then F n else n) ++
        if g.names.contains t then [] else [F (TableNode.fresh t)] := by
  rw [modify, nodes_addTable]
  split <;> simp [TableNode.fresh]

-- ============================================================ one operation

/-- What an operation naming the tables `named` does to the store: each node keeps its place
and is left as it was unless it is named, and then only extended; the nodes after those of
`g` are of named tables; and at most one edge is appended. -/
structure StepsTo (g g' : Diagram μ) (named : List String) : Prop where
  nodes : ∀ (i : Nat) (n : TableNode μ), g.nodes[i]? = some n →
    ∃ n', g'.nodes[i]? = some n' ∧ (n' = n ∨ n.name ∈ named ∧ n.Extends n')
  added : ∀ (i : Nat) (n' : TableNode μ), g.nodes[i]? = none → g'.nodes[i]? = some n' →
    n'.name ∈ named
  edges : g'.edges = g.edges ∨ ∃ e, g'.edges = g.edges ++ [e]

/-- A store whose nodes are those of `g`, each changed by `f`, followed by new ones. -/
theorem StepsTo.of_map {g g' : Diagram μ} {named : List String} (f : TableNode μ → TableNode μ)
    (new : List (TableNode μ)) (hnodes : g'.nodes = g.nodes.map f ++ new)
    (hf : ∀ n ∈ g.nodes, f n = n ∨ n.name ∈ named ∧ n.Extends (f n))
    (hnew : ∀ n ∈ new, n.name ∈ named)
    (hedges : g'.edges = g.edges ∨ ∃ e, g'.edges = g.edges ++ [e]) :
    StepsTo g g' named := by
  refine ⟨fun i n hn => ?_, fun i n' hi hn' => ?_, hedges⟩
  · have hlt : i < (g.nodes.map f).length := by
      simpa using (List.getElem?_eq_some_iff.1 hn).1
    refine ⟨f n, ?_, hf n (List.mem_of_getElem? hn)⟩
    rw [hnodes, List.getElem?_append_left hlt, List.getElem?_map, hn]
    rfl
  · -- a place past the nodes of `g` holds one of the new nodes
    have hle : (g.nodes.map f).length ≤ i := by
      simpa using List.getElem?_eq_none_iff.1 hi
    rw [hnodes, List.getElem?_append_right hle] at hn'
    exact hnew n' (List.mem_of_getElem? hn')

theorem stepsTo_addTable [Mark μ] (g : Diagram μ) (t : String) :
    StepsTo g (g.addTable t) [t] := by
  refine .of_map id (if g.names.contains t then [] else [TableNode.fresh t]) ?_
    (fun n _ => .inl rfl) ?_ (.inl (edges_addTable g t))
  · rw [nodes_addTable, List.map_id]
    split <;> simp
  · intro n hn
    split at hn <;> simp_all [TableNode.fresh]

/-- Adding a table and changing its node by a change that only extends nodes touches that
table alone. -/
theorem stepsTo_modify_addTable [Mark μ] (g : Diagram μ) (t : String)
    {F : TableNode μ → TableNode μ} (hF : ∀ n : TableNode μ, n.Extends (F n)) :
    StepsTo g ((g.addTable t).modify t F) [t] := by
  refine .of_map _ _ (nodes_modify_addTable g t F) (fun n _ => ?_) (fun n hn => ?_)
    (.inl (by rw [edges_modify, edges_addTable]))
  · by_cases hn : n.name = t
    · exact .inr ⟨by simp [hn], by simpa [hn] using hF n⟩
    · exact .inl (by simp [hn])
  · split at hn
    · simp at hn
    · simp only [List.mem_singleton] at hn
      subst hn
      simp [(hF _).name, TableNode.fresh]

theorem stepsTo_addJoin [Mark μ] (g : Diagram μ) (s t kind condition : String) :
    StepsTo g (g.addJoin s t kind condition) [s, t] := by
  let new (g : Diagram μ) (x : String) : List (TableNode μ) :=
    if g.names.contains x then [] else [TableNode.fresh x]
  refine .of_map id (new g s ++ new (g.addTable s) t) ?_ (fun n _ => .inl rfl) ?_
    (.inr ⟨_, edges_addJoin g s t kind condition⟩)
  · rw [nodes_addJoin, nodes_addTable, nodes_addTable, List.map_id]
    simp only [new]
    split <;> split <;> simp
  · intro n hn
    simp only [new, List.mem_append] at hn
    rcases hn with hn | hn <;> split at hn <;> simp_all [TableNode.fresh]

/-- Every operation changes only the tables it names. -/
theorem stepsTo_perform [Mark μ] (g : Diagram μ) (op : Op μ) :
    StepsTo g (g.perform op) op.tables := by
  cases op with
  | addTable t => exact stepsTo_addTable g t
  | addJoin s t k c => exact stepsTo_addJoin g s t k c
  | addColumn t c => exact stepsTo_modify_addTable g t (·.extends_addColumn c)
  | addFilter t f => exact stepsTo_modify_addTable g t (·.extends_addFilter f)
  | setMark t m => exact stepsTo_modify_addTable g t (·.extends_setMark m)

-- ============================================================ whole runs

/-- `g'` keeps what `g` holds: each node of `g` is still at its place, extended, and the
edges of `g` are the first edges of `g'`. -/
structure Keeps (g g' : Diagram μ) : Prop where
  nodes : ∀ (i : Nat) (n : TableNode μ), g.nodes[i]? = some n →
    ∃ n', g'.nodes[i]? = some n' ∧ n.Extends n'
  edges : g.edges <+: g'.edges

theorem Keeps.refl (g : Diagram μ) : Keeps g g :=
  ⟨fun _ n hn => ⟨n, hn, .refl n⟩, List.prefix_refl _⟩

theorem Keeps.trans {g g' g'' : Diagram μ} (h : Keeps g g') (h' : Keeps g' g'') :
    Keeps g g'' := by
  refine ⟨fun i n hn => ?_, h.edges.trans h'.edges⟩
  obtain ⟨n', hn', hext⟩ := h.nodes i n hn
  obtain ⟨n'', hn'', hext'⟩ := h'.nodes i n' hn'
  exact ⟨n'', hn'', hext.trans hext'⟩

theorem StepsTo.keeps {g g' : Diagram μ} {named : List String} (h : StepsTo g g' named) :
    Keeps g g' := by
  refine ⟨fun i n hn => ?_, ?_⟩
  · obtain ⟨n', hn', hchange⟩ := h.nodes i n hn
    refine ⟨n', hn', ?_⟩
    rcases hchange with rfl | ⟨-, hext⟩
    · exact .refl _
    · exact hext
  · rcases h.edges with he | ⟨e, he⟩
    · exact he ▸ List.prefix_refl _
    · exact he ▸ List.prefix_append _ _

/-- The names of a store are the first names of every store that keeps it. -/
theorem Keeps.names_start {g g' : Diagram μ} (h : Keeps g g') : g.names <+: g'.names := by
  rw [List.prefix_iff_eq_take]
  refine List.ext_getElem? fun i => ?_
  simp only [names, List.getElem?_map, List.getElem?_take, List.length_map]
  by_cases hi : i < g.nodes.length
  · obtain ⟨n', hn', hext⟩ := h.nodes i g.nodes[i] (List.getElem?_eq_getElem hi)
    simp [hi, hn', hext.name]
  · simp [hi]

/-- Later operations keep every node and edge of the store an earlier run built. -/
theorem keeps_replay_append [Mark μ] (ops more : List (Op μ)) :
    Keeps (replay ops) (replay (ops ++ more)) := by
  induction more generalizing ops with
  | nil => simpa using Keeps.refl _
  | cons op more ih =>
    -- one operation, then the rest from the store it gives
    have hstep : Keeps (replay ops) (replay (ops ++ [op])) := by
      rw [replay_append_singleton]
      exact (stepsTo_perform _ op).keeps
    simpa using hstep.trans (ih (ops ++ [op]))

-- ============================================================ the invariant

/-- The store's invariant: one node per name, every edge between tables that have nodes, and
every node listing each column and condition once. -/
structure WellFormed (g : Diagram μ) : Prop where
  names_nodup : g.names.Nodup
  edges : ∀ e ∈ g.edges, e.source ∈ g.names ∧ e.target ∈ g.names
  clean : ∀ n ∈ g.nodes, n.Clean

theorem wellFormed_empty : (empty : Diagram μ).WellFormed :=
  ⟨List.nodup_nil, fun _ h => by simp [empty] at h, fun _ h => by simp [empty] at h⟩

theorem WellFormed.addTable [Mark μ] {g : Diagram μ} (h : g.WellFormed) (t : String) :
    (g.addTable t).WellFormed := by
  refine ⟨?_, fun e he => ?_, fun n hn => ?_⟩
  · rw [names_addTable]
    split
    · exact h.names_nodup
    · rename_i ht
      rw [← List.concat_eq_append]
      exact h.names_nodup.concat (by simpa using ht)
  · -- the edges are those of `g`, and the names only grow
    have he' : e ∈ g.edges := by simpa [Diagram.addTable, apply_ite] using he
    obtain ⟨hs, ht⟩ := h.edges e he'
    exact ⟨(mem_names_addTable g t _).2 (.inl hs), (mem_names_addTable g t _).2 (.inl ht)⟩
  · rw [nodes_addTable] at hn
    split at hn
    · exact h.clean n hn
    · rcases List.mem_append.1 hn with hn | hn
      · exact h.clean n hn
      · rw [List.mem_singleton.1 hn]
        exact TableNode.clean_fresh t

/-- Changing the node of a table keeps the invariant when the change keeps names and clean
nodes. -/
theorem WellFormed.modify {g : Diagram μ} (h : g.WellFormed) (t : String)
    {F : TableNode μ → TableNode μ} (hname : ∀ n, (F n).name = n.name)
    (hclean : ∀ n, n.Clean → (F n).Clean) : (g.modify t F).WellFormed := by
  refine ⟨?_, fun e he => ?_, fun n hn => ?_⟩
  · rw [names_modify _ _ _ hname]
    exact h.names_nodup
  · rw [names_modify _ _ _ hname]
    exact h.edges e he
  · obtain ⟨m, hm, rfl⟩ := List.mem_map.1 hn
    split
    · exact hclean m (h.clean m hm)
    · exact h.clean m hm

theorem WellFormed.addJoin [Mark μ] {g : Diagram μ} (h : g.WellFormed)
    (s t kind condition : String) : (g.addJoin s t kind condition).WellFormed := by
  have h₂ := (h.addTable s).addTable t
  refine ⟨h₂.names_nodup, fun e he => ?_, h₂.clean⟩
  rw [edges_addJoin, List.mem_append, List.mem_singleton] at he
  have hnames : (g.addJoin s t kind condition).names = ((g.addTable s).addTable t).names := rfl
  rw [hnames]
  rcases he with he | rfl
  · obtain ⟨hs, ht⟩ := h.edges e he
    simp only [mem_names_addTable]
    exact ⟨.inl (.inl hs), .inl (.inl ht)⟩
  · -- the new edge's tables were added just before it
    simp [mem_names_addTable]

theorem WellFormed.perform [Mark μ] {g : Diagram μ} (h : g.WellFormed) (op : Op μ) :
    (g.perform op).WellFormed := by
  cases op with
  | addTable t => exact h.addTable t
  | addJoin s t k c => exact h.addJoin s t k c
  | addColumn t c =>
    exact (h.addTable t).modify t (fun n => (n.extends_addColumn c).name)
      (fun _ hn => hn.addColumn c)
  | addFilter t f =>
    exact (h.addTable t).modify t (TableNode.name_addFilter · f) (fun _ hn => hn.addFilter f)
  | setMark t m => exact (h.addTable t).modify t (fun _ => rfl) (fun _ hn => hn.setMark m)

/-- Every store that the operations reach is well formed. -/
theorem wellFormed_replay [Mark μ] (ops : List (Op μ)) : (replay ops).WellFormed := by
  suffices ∀ g : Diagram μ, g.WellFormed → (ops.foldl perform g).WellFormed from
    this empty wellFormed_empty
  induction ops with
  | nil => exact fun _ h => h
  | cons op ops ih => exact fun g h => ih _ (h.perform op)

-- ============================================================ the tables of a store

/-- The sorted names are the names of the store, each once. -/
theorem WellFormed.sortedNames {g : Diagram μ} (h : g.WellFormed) :
    (∀ t, t ∈ g.sortedNames ↔ t ∈ g.names) ∧ g.sortedNames.Nodup := by
  have hperm : g.sortedNames.Perm g.names := List.mergeSort_perm _ _
  exact ⟨fun t => hperm.mem_iff, hperm.nodup_iff.2 h.names_nodup⟩

-- ============================================================ the store's invariant

/-- Every store reached from the empty one by any operations is well formed; an operation on
it changes only the tables it names and appends at most one edge; later operations keep its
nodes in their places, extended, its names first and in order, and its edges first; and its
sorted tables are its names, each once. -/
theorem replay_invariant [Mark μ] (ops : List (Op μ)) :
    (replay ops).WellFormed ∧
      (∀ op, StepsTo (replay ops) ((replay ops).perform op) op.tables) ∧
      (∀ more, Keeps (replay ops) (replay (ops ++ more)) ∧
        (replay ops).names <+: (replay (ops ++ more)).names) ∧
      (∀ t, t ∈ (replay ops).sortedNames ↔ t ∈ (replay ops).names) ∧
      (replay ops).sortedNames.Nodup := by
  have hwf := wellFormed_replay ops
  have hkeeps := keeps_replay_append ops
  exact ⟨hwf, stepsTo_perform _, fun more => ⟨hkeeps more, (hkeeps more).names_start⟩,
    hwf.sortedNames⟩

end Diagram

end QueryDiagram
