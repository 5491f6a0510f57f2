import Mathlib.Data.List.Forall2
import QueryDiagram.Diagram.Build
import QueryDiagram.Query.Parse

/-!
The diagram and the order of sets.

Two sets are gone through in an order of their own while a diagram is built: the tables that a
join condition qualifies, among which the builder looks for the table the join starts from
(`SetOrder`), and the keys of the conditions, which the reader gathers as a set. This module
says what those orders decide.

Main statement: `ofOutlineBy_agrees`. Under any two set orders, and with the condition keys in
any two orders, the builder gives diagrams that `Agree`: the same nodes in the same order, each
with the same columns, mark and conditions up to their order, and the same edges in the same
order, with the same joined table, kind and condition. Two matching edges start at the same
table, or both at tables that the condition qualifies, that are in the diagram when the edge is
added (a table of the outline, or one that an earlier edge joined) and that are not the joined
table.
`ofOutlineBy_sources_differ` shows that such sources do differ: a join to `c` on `a.z = b.z`,
with `a` and `b` both known, starts at `a` or at `b` as the order goes.

The proof follows the builder's phases. A join's source is always a known table, and every
known table is a node already, so the choice among sources adds no node (`addJoins_agree`).
Columns and marks change nodes by maps that respect agreement. Conditions are placed key by
key (`placeFilters_eq`), and which conditions reach a node does not depend on the order of
the keys.
-/

namespace QueryDiagram

open Text

namespace Query

/-- A qualifier is never empty: it is a word of at least one character. -/
theorem isEmpty_of_mem_qualifiersOf {cs : List Char} {t : String}
    (h : t ∈ qualifiersOf cs) : t.isEmpty = false := by
  fun_induction qualifiersOf cs with
  | case1 => simp at h
  | case2 c cs w _ d rest hw ih =>
    rcases List.mem_cons.1 h with rfl | h
    · simp only [Bool.and_eq_true, decide_eq_true_eq] at hw
      simp [String.ofList_eq_empty_iff, List.take_eq_nil_iff]
      omega
    · exact ih h
  | case3 => simp_all
  | case4 => simp_all

end Query

namespace Diagram

-- ============================================================ set orders

/-- A set order finds a member with a property exactly when the list has one. -/
theorem SetOrder.find?_eq_none_iff (order : SetOrder) (xs : List String) (p : String → Bool) :
    (order.enum xs).find? p = none ↔ xs.find? p = none := by
  simp [List.find?_eq_none, order.mem_enum]

/-- What a set order finds is a member of the list with the property. -/
theorem SetOrder.mem_of_find?_eq_some {order : SetOrder} {xs : List String} {p : String → Bool}
    {t : String} (h : (order.enum xs).find? p = some t) : t ∈ xs ∧ p t = true :=
  ⟨(order.mem_enum xs t).1 (List.mem_of_find?_eq_some h), List.find?_some h⟩

-- ============================================================ agreement

/-- Two nodes that differ at most in the order of their conditions. -/
structure NodeAgree (n n' : TableNode Bool) : Prop where
  name : n.name = n'.name
  columns : n.columns = n'.columns
  mark : n.mark = n'.mark
  filters : ∀ f, f ∈ n.filters ↔ f ∈ n'.filters

/-- The tables two set orders may start a join at, where the tables of `known` are in the
diagram: the same table, or two tables of `known` that the condition qualifies, neither of them
the joined table. -/
def SourceChoice (known : List String) (target condition s s' : String) : Prop :=
  s = s' ∨ (s ∈ Query.qualifiersOf condition.toList ∧ s ∈ known ∧ s ≠ target ∧
    s' ∈ Query.qualifiersOf condition.toList ∧ s' ∈ known ∧ s' ≠ target)

/-- Two edges that differ at most in a source chosen among the qualified tables of `known`. -/
structure EdgeAgree (known : List String) (e e' : JoinEdge) : Prop where
  target : e.target = e'.target
  kind : e.kind = e'.kind
  condition : e.condition = e'.condition
  source : SourceChoice known e.target e.condition e.source e'.source

/-- Two lists of edges that agree one by one, where the tables of `known` are in the diagram
before the first edge and each edge's joined table is in it after that edge: a source may
differ only between tables in the diagram when its edge is added. -/
def EdgesAgree : List String → List JoinEdge → List JoinEdge → Prop
  | _, [], [] => True
  | known, e :: es, e' :: es' => EdgeAgree known e e' ∧ EdgesAgree (known ++ [e.target]) es es'
  | _, _, _ => False

/-- Two diagrams built on the tables `tables` that differ at most in the order of each node's
conditions and in the sources chosen among qualified tables already in the diagram. -/
structure Agree (tables : List String) (g g' : Diagram Bool) : Prop where
  nodes : List.Forall₂ NodeAgree g.nodes g'.nodes
  edges : EdgesAgree tables g.edges g'.edges

theorem NodeAgree.refl (n : TableNode Bool) : NodeAgree n n := ⟨rfl, rfl, rfl, fun _ => .rfl⟩

theorem NodeAgree.symm {n n' : TableNode Bool} (h : NodeAgree n n') : NodeAgree n' n :=
  ⟨h.name.symm, h.columns.symm, h.mark.symm, fun f => (h.filters f).symm⟩

theorem NodeAgree.trans {n n' n'' : TableNode Bool} (h : NodeAgree n n')
    (h' : NodeAgree n' n'') : NodeAgree n n'' :=
  ⟨h.name.trans h'.name, h.columns.trans h'.columns, h.mark.trans h'.mark,
    fun f => (h.filters f).trans (h'.filters f)⟩

theorem NodeAgree.addColumn {n n' : TableNode Bool} (h : NodeAgree n n') (c : String) :
    NodeAgree (n.addColumn c) (n'.addColumn c) := by
  unfold TableNode.addColumn
  rw [h.columns]
  split
  · exact h
  · exact ⟨h.name, rfl, h.mark, h.filters⟩

theorem NodeAgree.pushColumn {n n' : TableNode Bool} (h : NodeAgree n n') (c : String) :
    NodeAgree (n.pushColumn c) (n'.pushColumn c) :=
  ⟨h.name, by simp [TableNode.pushColumn, h.columns], h.mark, h.filters⟩

theorem NodeAgree.setMark {n n' : TableNode Bool} (h : NodeAgree n n') (m : Bool) :
    NodeAgree (n.setMark m) (n'.setMark m) :=
  ⟨h.name, h.columns, rfl, h.filters⟩

/-- Adding conditions one by one gives the node with them appended, up to order and
repeats. -/
theorem agree_foldl_addFilter (n : TableNode Bool) (fs : List String) :
    NodeAgree (fs.foldl TableNode.addFilter n) { n with filters := n.filters ++ fs } := by
  induction fs generalizing n with
  | nil => exact ⟨rfl, rfl, rfl, by simp⟩
  | cons x fs ih =>
    refine (ih (n.addFilter x)).trans ?_
    by_cases hx : x ∈ n.filters
    · -- the node shows `x` already, and keeps its conditions
      have hn : n.addFilter x = n := by simp [TableNode.addFilter, hx]
      rw [hn]
      exact ⟨rfl, rfl, rfl, fun f => by by_cases hf : f = x <;> simp [hf, hx]⟩
    · have hn : n.addFilter x = { n with filters := n.filters ++ [x] } := by
        simp [TableNode.addFilter, hx]
      rw [hn]
      exact ⟨rfl, rfl, rfl, by simp⟩

@[simp] theorem name_foldl_addFilter (n : TableNode Bool) (fs : List String) :
    (fs.foldl TableNode.addFilter n).name = n.name :=
  (agree_foldl_addFilter n fs).name

theorem map_name_eq_of_agree {ns ns' : List (TableNode Bool)}
    (h : List.Forall₂ NodeAgree ns ns') :
    ns.map (·.name) = ns'.map (·.name) := by
  induction h with
  | nil => rfl
  | cons hn _ ih => simp [hn.name, ih]

theorem Agree.names_eq {tables : List String} {g g' : Diagram Bool} (h : Agree tables g g') :
    g.names = g'.names :=
  map_name_eq_of_agree h.nodes

theorem Agree.lookupName_eq {tables : List String} {g g' : Diagram Bool} (h : Agree tables g g')
    (key : String) :
    lookupName g key = lookupName g' key := by
  simp only [lookupName, h.names_eq]

/-- Changing the nodes of a table in a way that respects agreement keeps agreement. -/
theorem Agree.modify {tables : List String} {g g' : Diagram Bool} (h : Agree tables g g')
    (t : String) {F : TableNode Bool → TableNode Bool}
    (hF : ∀ n n', NodeAgree n n' → NodeAgree (F n) (F n')) :
    Agree tables (g.modify t F) (g'.modify t F) := by
  refine ⟨List.rel_map (fun n n' (hn : NodeAgree n n') => ?_) h.nodes, h.edges⟩
  rw [hn.name]
  split
  · exact hF n n' hn
  · exact hn

/-- A change made at an optional table keeps agreement. -/
theorem Agree.getD_map {tables : List String} {g g' : Diagram Bool} (h : Agree tables g g')
    {F : Diagram Bool → String → Diagram Bool} (hF : ∀ t, Agree tables (F g t) (F g' t))
    (o : Option String) : Agree tables ((o.map (F g ·)).getD g) ((o.map (F g' ·)).getD g') := by
  cases o with
  | none => exact h
  | some t => exact hF t

-- ============================================================ joins

/-- Two set orders start a join at two known tables that are a `SourceChoice`, or both find
none. -/
theorem joinSource_agree (order order' : SetOrder) (known : List String)
    (target condition : String) :
    Option.Rel (fun s s' => s ∈ known ∧ s' ∈ known ∧ SourceChoice known target condition s s')
      (joinSource order known target condition) (joinSource order' known target condition) := by
  unfold joinSource
  cases h : (order.enum (Query.qualifiersOf condition.toList)).find?
      (fun t => known.contains t && t != target) with
  | none =>
    rw [(order'.find?_eq_none_iff _ _).2 ((order.find?_eq_none_iff _ _).1 h)]
    cases hl : known.getLast? with
    | none => exact .none
    | some s => exact .some ⟨List.mem_of_getLast? hl, List.mem_of_getLast? hl, .inl rfl⟩
  | some t =>
    cases h' : (order'.enum (Query.qualifiersOf condition.toList)).find?
        (fun t => known.contains t && t != target) with
    | none =>
      rw [order'.find?_eq_none_iff, ← order.find?_eq_none_iff, h] at h'
      cases h'
    | some t' =>
      obtain ⟨ht, hpt⟩ := SetOrder.mem_of_find?_eq_some h
      obtain ⟨ht', hpt'⟩ := SetOrder.mem_of_find?_eq_some h'
      simp only [Bool.and_eq_true, List.contains_iff_mem, bne_iff_ne, ne_eq] at hpt hpt'
      exact .some ⟨hpt.1, hpt'.1, .inr ⟨ht, hpt.1, hpt.2, ht', hpt'.1, hpt'.2⟩⟩

/-- Sources of one choice are empty together: a qualifier is never empty. -/
theorem SourceChoice.isEmpty_eq {known : List String} {target condition s s' : String}
    (h : SourceChoice known target condition s s') : s.isEmpty = s'.isEmpty := by
  rcases h with rfl | ⟨hs, -, -, hs', -, -⟩
  · rfl
  · rw [Query.isEmpty_of_mem_qualifiersOf hs, Query.isEmpty_of_mem_qualifiersOf hs']

/-- A choice among the tables of `known` is one among any tables that include them. -/
theorem SourceChoice.mono {known known' : List String} (hk : ∀ t ∈ known, t ∈ known')
    {target condition s s' : String} (h : SourceChoice known target condition s s') :
    SourceChoice known' target condition s s' := by
  rcases h with rfl | ⟨hs, hks, hst, hs', hks', hst'⟩
  · exact .inl rfl
  · exact .inr ⟨hs, hk s hks, hst, hs', hk s' hks', hst'⟩

theorem EdgesAgree.refl (known : List String) (es : List JoinEdge) : EdgesAgree known es es := by
  induction es generalizing known with
  | nil => trivial
  | cons e es ih => exact ⟨⟨rfl, rfl, rfl, .inl rfl⟩, ih _⟩

/-- An edge added after agreeing edges agrees when its source is chosen among the tables in the
diagram by then: those of `known` and those the edges before it join. -/
theorem EdgesAgree.append_singleton {known : List String} {es es' : List JoinEdge}
    (h : EdgesAgree known es es') {e e' : JoinEdge}
    (he : EdgeAgree (known ++ es.map (·.target)) e e') :
    EdgesAgree known (es ++ [e]) (es' ++ [e']) := by
  induction es generalizing known es' with
  | nil =>
    cases es' with
    | nil =>
      simp only [List.nil_append, EdgesAgree, and_true]
      simpa using he
    | cons => simp [EdgesAgree] at h
  | cons x xs ih =>
    cases es' with
    | nil => simp [EdgesAgree] at h
    | cons x' xs' =>
      simp only [List.cons_append, EdgesAgree] at h ⊢
      exact ⟨h.1, ih h.2 (by simpa using he)⟩

/-- What two runs of the joins over the tables `tables` share at each step: the same nodes,
with every known table among them, agreeing edges, and every known table one of `tables` or
the joined table of an edge. -/
structure JoinsAgree (tables known : List String) (g g' : Diagram Bool) : Prop where
  nodes : g.nodes = g'.nodes
  edges : EdgesAgree tables g.edges g'.edges
  named : ∀ t ∈ known, t ∈ g.names
  earlier : ∀ t ∈ known, t ∈ tables ++ g.edges.map (·.target)

/-- One join from two sources of one choice, both known: the joined table's node is the only
node it may add, and the two new edges agree. -/
theorem JoinsAgree.addJoin {tables known : List String} {g g' : Diagram Bool}
    (h : JoinsAgree tables known g g') {s s' : String} (hs : s ∈ known) (hs' : s' ∈ known)
    {target condition : String} (hc : SourceChoice known target condition s s') (kind : String) :
    JoinsAgree tables (if known.contains target then known else known ++ [target])
      (g.addJoin s target kind condition) (g'.addJoin s' target kind condition) := by
  have hn : g.names = g'.names := by simp only [names, h.nodes]
  have hnew : ∀ t ∈ (if known.contains target then known else known ++ [target]),
      t ∈ known ∨ t = target := by
    intro t ht
    split at ht <;> simp_all
  refine ⟨?_, ?_, ?_, ?_⟩
  · have hs₁ : s ∈ g.names := h.named s hs
    have hs₂ : s' ∈ g'.names := hn ▸ h.named s' hs'
    rw [nodes_addJoin, nodes_addJoin, addTable_of_mem hs₁, addTable_of_mem hs₂, nodes_addTable,
      nodes_addTable, hn, h.nodes]
  · -- the sources were known, so they are among the tables in the diagram by now
    rw [edges_addJoin, edges_addJoin]
    exact h.edges.append_singleton ⟨rfl, rfl, rfl, hc.mono h.earlier⟩
  · intro t ht
    rw [names, nodes_addJoin, ← names, mem_names_addTable, mem_names_addTable]
    exact (hnew t ht).elim (fun ht => .inl (.inl (h.named t ht))) .inr
  · intro t ht
    rw [edges_addJoin, List.map_append, ← List.append_assoc, List.mem_append]
    rcases hnew t ht with ht | rfl
    · exact .inl (h.earlier t ht)
    · exact .inr (by simp)

/-- The joins under two set orders give the same nodes and agreeing edges. -/
theorem addJoins_agree (order order' : SetOrder) {tables known : List String}
    {g g' : Diagram Bool} (h : JoinsAgree tables known g g') (js : List JoinSpec) :
    (addJoins order g known js).nodes = (addJoins order' g' known js).nodes ∧
      EdgesAgree tables (addJoins order g known js).edges (addJoins order' g' known js).edges := by
  induction js generalizing known g g' with
  | nil => exact ⟨h.nodes, h.edges⟩
  | cons j js ih =>
    simp only [addJoins]
    split
    · exact ih h
    · have hrel := joinSource_agree order order' known (trim j.table) j.condition
      generalize joinSource order known (trim j.table) j.condition = r at hrel
      generalize joinSource order' known (trim j.table) j.condition = r' at hrel
      cases hrel with
      | none => exact ih h
      | some hss =>
        obtain ⟨hs, hs', hc⟩ := hss
        simp only [hc.isEmpty_eq]
        split
        · exact ih h
        · exact ih (h.addJoin hs hs' hc j.kind)

/-- Every table of the list has a node once the tables are added. -/
theorem mem_names_foldl_addTable (g : Diagram Bool) (ts : List String) {t : String}
    (ht : t ∈ g.names ∨ t ∈ ts) : t ∈ (ts.foldl addTable g).names := by
  induction ts generalizing g with
  | nil => simpa using ht
  | cons x ts ih =>
    refine ih (g.addTable x) ?_
    rw [mem_names_addTable]
    simp only [List.mem_cons] at ht
    tauto

-- ============================================================ columns and marks

theorem Agree.addColumnsTo {tables : List String} {g g' : Diagram Bool} (h : Agree tables g g')
    (t : String) (cols : List String) :
    Agree tables (addColumnsTo g t cols) (addColumnsTo g' t cols) := by
  induction cols generalizing g g' with
  | nil => exact h
  | cons c cols ih => exact ih (h.modify t fun _ _ hn => hn.addColumn c)

/-- Placing columns keeps agreement: where a key puts its columns depends on names only. -/
theorem Agree.placeColumns {tables : List String} {g g' : Diagram Bool} (h : Agree tables g g')
    (first : Option String) (cs : List (String × List String)) :
    Agree tables (placeColumns g first cs) (placeColumns g' first cs) := by
  induction cs generalizing g g' with
  | nil => exact h
  | cons kc cs ih =>
    obtain ⟨k, cols⟩ := kc
    simp only [Diagram.placeColumns]
    apply ih
    -- the wildcard, the unqualified columns and a table's columns
    split
    · exact ⟨List.rel_map (fun n n' (hn : NodeAgree n n') => hn.pushColumn "*") h.nodes,
        h.edges⟩
    · split
      · exact h.getD_map (F := fun g t => Diagram.addColumnsTo g t cols)
          (fun t => h.addColumnsTo t cols) _
      · rw [h.lookupName_eq]
        exact h.getD_map (F := fun g t => Diagram.addColumnsTo g t cols)
          (fun t => h.addColumnsTo t cols) _

/-- Marking the grouped tables keeps agreement. -/
theorem Agree.markGroups {tables : List String} {g g' : Diagram Bool} (h : Agree tables g g')
    (items : List String) : Agree tables (markGroups g items) (markGroups g' items) := by
  induction items generalizing g g' with
  | nil => exact h
  | cons item items ih =>
    simp only [Diagram.markGroups]
    split
    · rw [h.lookupName_eq]
      exact ih (h.getD_map (F := fun g t => g.modify t (·.setMark true))
        (fun t => h.modify t fun _ _ hn => hn.setMark true) _)
    · rw [h.names_eq]
      exact h.getD_map (F := fun g t => g.modify t (·.setMark true))
        (fun t => h.modify t fun _ _ hn => hn.setMark true) _

-- ============================================================ conditions

/-- The table the conditions of a key go to: the first table for `_global`, otherwise the
table the key names. -/
def filterTable (g : Diagram Bool) (first : Option String) (k : String) : Option String :=
  if k == "_global" then first else lookupName g k

/-- The conditions the keys put on table `t`, in the order of the keys. -/
def placedOn (g : Diagram Bool) (first : Option String) (kls : List (String × List String))
    (t : String) : List String :=
  (kls.filter fun kl => filterTable g first kl.1 == some t).flatMap (·.2)

theorem filterTable_congr {g g' : Diagram Bool} (h : g.names = g'.names) (first : Option String)
    (k : String) : filterTable g first k = filterTable g' first k := by
  simp only [filterTable, lookupName, h]

theorem placedOn_congr {g g' : Diagram Bool} (h : g.names = g'.names) (first : Option String)
    (kls : List (String × List String)) (t : String) :
    placedOn g first kls t = placedOn g' first kls t := by
  simp only [placedOn, filterTable_congr h]

/-- Each key's conditions reach a node whatever the order of the keys. -/
theorem placedOn_perm (g : Diagram Bool) (first : Option String)
    {kls kls' : List (String × List String)} (hk : kls.Perm kls') (t : String) :
    (placedOn g first kls t).Perm (placedOn g first kls' t) :=
  (hk.filter _).flatMap_right _

theorem addFiltersTo_eq (g : Diagram Bool) (t : String) (fs : List String) :
    addFiltersTo g t fs =
      { g with nodes := g.nodes.map fun n =>
          if n.name == t then fs.foldl TableNode.addFilter n else n } := by
  induction fs generalizing g with
  | nil => simp [addFiltersTo]
  | cons x fs ih =>
    show addFiltersTo (g.modify t (·.addFilter x)) t fs = _
    rw [ih]
    simp only [modify, List.map_map]
    congr 1
    refine List.map_congr_left fun n _ => ?_
    by_cases hn : n.name = t <;> simp [hn]

/-- The conditions of one key. -/
theorem placeFilters_cons (g : Diagram Bool) (first : Option String) (k : String)
    (fs : List String) (rest : List (String × List String)) :
    placeFilters g first ((k, fs) :: rest) =
      placeFilters (((filterTable g first k).map (addFiltersTo g · fs)).getD g) first rest := by
  by_cases hk : k == "_global" <;> simp [placeFilters, filterTable, hk]

/-- One key puts its conditions on the node its table names, if there is one. -/
theorem placeKey_eq (g : Diagram Bool) (table : Option String) (fs : List String) :
    (table.map (addFiltersTo g · fs)).getD g =
      { g with nodes := g.nodes.map fun n =>
          if table = some n.name then fs.foldl TableNode.addFilter n else n } := by
  cases table with
  | none => simp
  | some t =>
    simp only [Option.map_some, Option.getD_some, addFiltersTo_eq, Option.some.injEq]
    congr 2
    funext n
    by_cases hn : n.name = t
    · simp [hn]
    · simp [hn, Ne.symm hn]

theorem names_placeKey (g : Diagram Bool) (table : Option String) (fs : List String) :
    ((table.map (addFiltersTo g · fs)).getD g).names = g.names := by
  rw [placeKey_eq]
  simp only [names, List.map_map]
  refine List.map_congr_left fun n _ => ?_
  by_cases hn : table = some n.name <;> simp [hn]

/-- Placing conditions adds to each node the conditions its keys name, key by key. -/
theorem placeFilters_eq (g : Diagram Bool) (first : Option String)
    (kls : List (String × List String)) :
    placeFilters g first kls =
      { g with nodes := g.nodes.map fun n =>
          (placedOn g first kls n.name).foldl TableNode.addFilter n } := by
  induction kls generalizing g with
  | nil => simp [placeFilters, placedOn]
  | cons kl kls ih =>
    obtain ⟨k, fs⟩ := kl
    rw [placeFilters_cons, ih]
    -- the later keys see the same names, so each node takes this key's conditions first
    simp only [placedOn_congr (names_placeKey g _ fs)]
    rw [placeKey_eq]
    simp only [List.map_map]
    congr 1
    refine List.map_congr_left fun n _ => ?_
    by_cases hn : filterTable g first k = some n.name
    · simp [hn, placedOn, List.foldl_append]
    · simp [hn, placedOn]

/-- Placing conditions keeps agreement, whatever the order of the keys. -/
theorem Agree.placeFilters {tables : List String} {g g' : Diagram Bool} (h : Agree tables g g')
    (first : Option String) {kls kls' : List (String × List String)} (hk : kls.Perm kls') :
    Agree tables (placeFilters g first kls) (placeFilters g' first kls') := by
  rw [placeFilters_eq, placeFilters_eq]
  refine ⟨List.rel_map (fun n n' (hn : NodeAgree n n') => ?_) h.nodes, h.edges⟩
  -- both sides hold the node's conditions and those its keys name, in some order
  have hmid : NodeAgree { n with filters := n.filters ++ placedOn g first kls n.name }
      { n' with filters := n'.filters ++ placedOn g' first kls' n'.name } := by
    refine ⟨hn.name, hn.columns, hn.mark, fun f => ?_⟩
    rw [placedOn_congr h.names_eq, hn.name]
    simp only [List.mem_append, hn.filters f, (placedOn_perm g' first hk n'.name).mem_iff]
  exact ((agree_foldl_addFilter n _).trans hmid).trans (agree_foldl_addFilter n' _).symm

-- ============================================================ the builder

/-- Under any two set orders, and with the condition keys in any two orders, the builder gives
diagrams that agree: the same nodes in the same order with the same columns, marks and
conditions up to their order, and the same edges in the same order, whose sources differ only
between tables that the condition qualifies, that are in the diagram when the edge is added and
that are not the joined table. -/
theorem ofOutlineBy_agrees (order order' : SetOrder) (o : Outline)
    (filters : List (String × List String)) (hf : filters.Perm o.filters) :
    Agree o.tables (ofOutlineBy order o) (ofOutlineBy order' { o with filters := filters }) := by
  have hstart : JoinsAgree o.tables o.tables (o.tables.foldl addTable empty)
      (o.tables.foldl addTable empty) :=
    ⟨rfl, EdgesAgree.refl _ _, fun t ht => mem_names_foldl_addTable _ _ (.inr ht),
      fun t ht => List.mem_append_left _ ht⟩
  obtain ⟨hn, he⟩ := addJoins_agree order order' hstart o.joins
  have hjoins : Agree o.tables (addJoins order (o.tables.foldl addTable empty) o.tables o.joins)
      (addJoins order' (o.tables.foldl addTable empty) o.tables o.joins) :=
    ⟨hn ▸ List.forall₂_same.2 fun n _ => NodeAgree.refl n, he⟩
  simp only [ofOutlineBy]
  rw [← hjoins.names_eq]
  exact ((hjoins.placeColumns _ o.columns).placeFilters _ hf.symm).markGroups o.groupBy

/-- The set order that reverses the list. -/
def SetOrder.reversed : SetOrder := ⟨List.reverse, fun _ _ => List.mem_reverse⟩

theorem ofOutlineBy_agrees_on_two_keys :
    [("t", ["t.b = 2"]), ("T", ["T.a = 1"])].Perm [("T", ["T.a = 1"]), ("t", ["t.b = 2"])] ∧
    Agree ["t", "u"] (ofOutlineBy .asWritten
        ⟨["t", "u"], [⟨"u", "INNER", "t.k = u.k"⟩], [],
          [("T", ["T.a = 1"]), ("t", ["t.b = 2"])], []⟩)
      (ofOutlineBy SetOrder.reversed
        ⟨["t", "u"], [⟨"u", "INNER", "t.k = u.k"⟩], [],
          [("t", ["t.b = 2"]), ("T", ["T.a = 1"])], []⟩) :=
  ⟨List.Perm.swap _ _ _, ofOutlineBy_agrees .asWritten SetOrder.reversed
    ⟨["t", "u"], [⟨"u", "INNER", "t.k = u.k"⟩], [], [("T", ["T.a = 1"]), ("t", ["t.b = 2"])], []⟩
    [("t", ["t.b = 2"]), ("T", ["T.a = 1"])] (List.Perm.swap _ _ _)⟩

/-- The join to `c` is on `a.z = b.z`, and `a` and `b` are both known by then: the set order
decides where the join starts. -/
theorem ofOutlineBy_sources_differ :
    ((Query.parse "SELECT * FROM a JOIN b ON a.x = b.x LIMIT 1 JOIN c ON a.z = b.z").map
      fun r => ((ofOutlineBy .asWritten r.outline).edges.map (·.source),
        (ofOutlineBy SetOrder.reversed r.outline).edges.map (·.source))).toOption =
      some (["a", "a"], ["a", "b"]) := by
  decide +kernel

end Diagram

end QueryDiagram
