import QueryDiagram.Proofs.Diagram.Complete

/-!
Which nodes the `GROUP BY` items mark.

The builder reads the `GROUP BY` items in order. An item with a full stop marks the node that
its table part names regardless of case; the first item without one marks the first node and
ends the marking, so no item after it marks anything (`mem_markedNames_markGroups`, one step per
item). Before the items are read no node is marked: tables and joins add fresh nodes, and placing
columns and conditions keeps each node's mark (`markedNames_beforeGroups`). In a built diagram
the marked tables are therefore those named by the qualified items before the first bare one,
and the first table when some item is bare (`mem_markedNames_ofOutlineBy`).

The marked tables depend on the order of the items: for the tables `s` and `t`, the items
`a, t.x` mark `s` alone and `t.x, a` mark both (`groupBy_order_changes_marks`). When every item
names its table, every order marks the same tables (`mem_markedNames_perm`).
-/

namespace QueryDiagram

open Text

namespace Diagram

-- ============================================================ marks and items

/-- The tables whose nodes are marked. -/
def markedNames (g : Diagram Bool) : List String := (g.nodes.filter (·.mark)).map (·.name)

theorem mem_markedNames {g : Diagram Bool} {name : String} :
    name ∈ g.markedNames ↔ ∃ n ∈ g.nodes, n.mark = true ∧ n.name = name := by
  simp [markedNames, and_assoc]

/-- A `GROUP BY` item that names its table: it holds a full stop. -/
def isQualifiedItem (item : String) : Bool := item.toList.contains '.'

/-- The table an item names: what stands before its first full stop, trimmed. -/
def itemTable (item : String) : String := trim (String.ofList (item.toList.takeWhile (· != '.')))

/-- Marks the node of a table, if there is one to mark. -/
theorem markGroups_qualified (g : Diagram Bool) {item : String} (h : isQualifiedItem item = true)
    (items : List String) :
    markGroups g (item :: items) =
      markGroups (((lookupName g (itemTable item)).map (g.modify · (·.setMark true))).getD g)
        items := by
  rw [markGroups, if_pos (show item.toList.contains '.' = true from h)]
  rfl

theorem markGroups_bare (g : Diagram Bool) {item : String} (h : isQualifiedItem item = false)
    (items : List String) :
    markGroups g (item :: items) = ((g.names.head?).map (g.modify · (·.setMark true))).getD g := by
  rw [markGroups, if_neg (by simpa [isQualifiedItem] using h)]

theorem lookupName_mem {μ : Type} {g : Diagram μ} {key name : String}
    (h : lookupName g key = some name) : name ∈ g.names :=
  (List.mem_filter.1 (List.mem_of_getLast? h)).1

theorem lookupName_congr {μ ν : Type} {g : Diagram μ} {g' : Diagram ν} (h : g'.names = g.names)
    (key : String) : lookupName g' key = lookupName g key := by
  simp only [lookupName, h]

-- ============================================================ one item

theorem setMark_true_if (n : TableNode Bool) (t : String) :
    (if n.name == t then n.setMark true else n).mark = (n.mark || n.name == t) ∧
      (if n.name == t then n.setMark true else n).name = n.name := by
  by_cases h : n.name = t <;> simp [h, TableNode.setMark]

/-- Marking the node of a table adds that table to the marked ones, and nothing else. -/
theorem mem_markedNames_markAt {g : Diagram Bool} {t : Option String}
    (ht : ∀ x ∈ t, x ∈ g.names) (name : String) :
    name ∈ ((t.map (g.modify · (·.setMark true))).getD g).markedNames ↔
      name ∈ g.markedNames ∨ t = some name := by
  cases t with
  | none => simp
  | some x =>
    obtain ⟨m, hm, hmx⟩ := List.mem_map.1 (ht x rfl)
    simp only [Option.map_some, Option.getD_some, mem_markedNames, modify, List.mem_map,
      Option.some.injEq]
    constructor
    · rintro ⟨_, ⟨n, hn, rfl⟩, hmark, hname⟩
      rw [(setMark_true_if n x).1, Bool.or_eq_true, beq_iff_eq] at hmark
      rw [(setMark_true_if n x).2] at hname
      rcases hmark with hmark | hnx
      · exact .inl ⟨n, hn, hmark, hname⟩
      · exact .inr (hnx ▸ hname)
    · rintro (⟨n, hn, hmark, rfl⟩ | rfl)
      · refine ⟨_, ⟨n, hn, rfl⟩, ?_, (setMark_true_if n _).2⟩
        rw [(setMark_true_if n _).1, hmark, Bool.true_or]
      · refine ⟨_, ⟨m, hm, rfl⟩, ?_, (setMark_true_if m _).2.trans hmx⟩
        rw [(setMark_true_if m _).1, hmx, beq_self_eq_true, Bool.or_true]

theorem names_markAt {g : Diagram Bool} (t : Option String) :
    ((t.map (g.modify · (·.setMark true))).getD g).names = g.names := by
  cases t with
  | none => rfl
  | some x => exact names_modify g x _ fun _ => rfl

-- ============================================================ all items

/-- The `GROUP BY` items mark the tables of the qualified items before the first bare one, and
the first table when some item is bare. -/
theorem mem_markedNames_markGroups (g : Diagram Bool) (items : List String) (name : String) :
    name ∈ (markGroups g items).markedNames ↔
      name ∈ g.markedNames ∨
        (∃ item ∈ items.takeWhile isQualifiedItem, lookupName g (itemTable item) = some name) ∨
        ((∃ item ∈ items, isQualifiedItem item = false) ∧ g.names.head? = some name) := by
  induction items generalizing g with
  | nil => simp [markGroups]
  | cons item items ih =>
    by_cases hq : isQualifiedItem item = true
    · -- the item marks its table's node, and the marking goes on with the same names
      have hlookup : ∀ x ∈ lookupName g (itemTable item), x ∈ g.names :=
        fun _ hx => lookupName_mem hx
      rw [markGroups_qualified g hq, ih, mem_markedNames_markAt hlookup]
      simp only [lookupName_congr (names_markAt _), names_markAt, List.takeWhile_cons, hq,
        if_true, List.mem_cons, exists_eq_or_imp, Bool.true_eq_false, false_or, or_assoc]
    · -- the first bare item marks the first node and ends the marking
      have hbare : isQualifiedItem item = false := by simpa using hq
      have hhead : ∀ x ∈ g.names.head?, x ∈ g.names := fun _ hx => List.mem_of_head? hx
      rw [markGroups_bare g hbare, mem_markedNames_markAt hhead]
      simp [hbare]

-- ============================================================ the built diagram

/-- No node is marked before the `GROUP BY` items are read: tables and joins add fresh nodes,
and placing columns and conditions keeps each node's mark. -/
theorem markedNames_beforeGroups (order : SetOrder) (o : Outline) (first : Option String) :
    (placeFilters (placeColumns (addJoins order (o.tables.foldl addTable empty) o.tables o.joins)
      first o.columns) first o.filters).markedNames = [] := by
  have hfresh : ∀ t, (TableNode.fresh t : TableNode Bool).mark = false := fun _ => rfl
  have h0 : ∀ n ∈ (o.tables.foldl addTable (empty : Diagram Bool)).nodes, n.mark = false := by
    intro n hn
    rw [fresh_of_mem_foldl_addTable o.tables (fun n hn => by simp [empty] at hn) n hn]
    rfl
  have hjoins : ∀ n ∈ (addJoins order (o.tables.foldl addTable empty) o.tables o.joins).nodes,
      n.mark = false := forall_nodes_addJoins order h0 hfresh
  have hall := forall_nodes_placeFilters
    (forall_nodes_placeColumns hjoins (fun _ h => h) (fun n c h => by simpa using h) first o.columns)
    (fun n f h => by simpa using h) first o.filters
  rw [List.eq_nil_iff_forall_not_mem]
  intro name hname
  obtain ⟨n, hn, hmark, -⟩ := mem_markedNames.1 hname
  simp [hall n hn] at hmark

/-- In a built diagram the marked tables are those that the qualified `GROUP BY` items before
the first bare one name, and the first table when some item is bare. -/
theorem mem_markedNames_ofOutlineBy (order : SetOrder) (o : Outline) (name : String) :
    name ∈ (ofOutlineBy order o).markedNames ↔
      (∃ item ∈ o.groupBy.takeWhile isQualifiedItem,
        lookupName (ofOutlineBy order o) (itemTable item) = some name) ∨
      ((∃ item ∈ o.groupBy, isQualifiedItem item = false) ∧
        (ofOutlineBy order o).names.head? = some name) := by
  obtain ⟨G, hG, hof⟩ : ∃ G : Diagram Bool,
      G.markedNames = [] ∧ ofOutlineBy order o = markGroups G o.groupBy :=
    ⟨_, markedNames_beforeGroups order o _, rfl⟩
  rw [hof, mem_markedNames_markGroups, hG]
  simp only [lookupName_congr (names_markGroups G _), names_markGroups, List.not_mem_nil,
    false_or]

/-- When every `GROUP BY` item names its table, any order of the items marks the same tables. -/
theorem mem_markedNames_perm (order : SetOrder) (o : Outline) {items : List String}
    (hperm : items.Perm o.groupBy) (hq : ∀ item ∈ o.groupBy, isQualifiedItem item = true)
    (name : String) :
    name ∈ (ofOutlineBy order { o with groupBy := items }).markedNames ↔
      name ∈ (ofOutlineBy order o).markedNames := by
  have hq' : ∀ item ∈ items, isQualifiedItem item = true := fun i hi => hq i (hperm.mem_iff.1 hi)
  -- without a bare item every item is read, and none marks the first table
  have hnone : ∀ l : List String, (∀ i ∈ l, isQualifiedItem i = true) →
      ¬ ∃ i ∈ l, isQualifiedItem i = false :=
    fun l hl ⟨i, hi, hf⟩ => by simp [hl i hi] at hf
  have hsame : (ofOutlineBy order { o with groupBy := items }).names =
      (ofOutlineBy order o).names := by
    simp only [names_ofOutlineBy]
  rw [mem_markedNames_ofOutlineBy, mem_markedNames_ofOutlineBy,
    List.takeWhile_eq_self_iff.2 hq', List.takeWhile_eq_self_iff.2 hq]
  simp only [lookupName_congr hsame, hnone _ hq, hnone _ hq', false_and, or_false]
  exact exists_congr fun i => and_congr_left' hperm.mem_iff

/-- For the tables `s` and `t`, the items `a, t.x` mark `s` alone, and the same items in the
other order mark `s` and `t`. -/
theorem groupBy_order_changes_marks :
    (ofOutline ⟨["s", "t"], [], [], [], ["a", "t.x"]⟩).markedNames = ["s"] ∧
      (ofOutline ⟨["s", "t"], [], [], [], ["t.x", "a"]⟩).markedNames = ["s", "t"] := by
  decide +kernel

end Diagram

end QueryDiagram
