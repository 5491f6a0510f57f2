import QueryDiagram.Proofs.Diagram.SetOrder

/-!
Where a join starts.

The builder starts a join at a table that its condition qualifies, that is known and that is
not the joined table; failing that, at the table known last (`joinSource_spec`). The known
tables are the outline's tables, then the joined tables not among them, so every edge of a
diagram starts at a table of the outline or at a joined table and ends at a joined table, and
it starts where it ends only when its condition qualifies no table of the outline other than
the joined one (`ofOutlineBy_edge`).

For a read query the tables of the outline already end with the joined tables, so the table
known last is the last joined table and not the table before the join. A join whose condition
qualifies no other table is then drawn from the joined table to itself
(`ofQuery_unqualified_join_loops`).
-/

namespace QueryDiagram

open Text

namespace Diagram

-- ============================================================ the source of one join

/-- A join starts at a known table: one its condition qualifies, other than the joined table,
or, when its condition qualifies no known table but the joined one, the table known last. -/
theorem joinSource_spec {order : SetOrder} {known : List String} {target condition s : String}
    (h : joinSource order known target condition = some s) :
    s ∈ known ∧
      ((s ∈ Query.qualifiersOf condition.toList ∧ s ≠ target) ∨
        ((∀ t ∈ Query.qualifiersOf condition.toList, t ∈ known → t = target) ∧
          known.getLast? = some s)) := by
  unfold joinSource at h
  split at h
  · rename_i t ht
    cases h
    obtain ⟨hq, hp⟩ := SetOrder.mem_of_find?_eq_some ht
    simp only [Bool.and_eq_true, List.contains_iff_mem, bne_iff_ne, ne_eq] at hp
    exact ⟨hp.1, .inl ⟨hq, hp.2⟩⟩
  · rename_i hnone
    -- no qualified table is known but the joined one, and the last known table is taken
    rw [SetOrder.find?_eq_none_iff, List.find?_eq_none] at hnone
    refine ⟨List.mem_of_getLast? h, .inr ⟨fun t ht hk => ?_, h⟩⟩
    have := hnone t ht
    simp only [Bool.and_eq_true, List.contains_iff_mem, bne_iff_ne, ne_eq, not_and,
      Decidable.not_not] at this
    exact this hk

-- ============================================================ the edges of the joins

/-- The edge `e` is added by one of the joins `js` made after the tables `known`: it ends at
the joined table with the join's kind and condition, and starts where the join starts given the
tables known by then, which hold `known` and otherwise only tables the joins join. -/
def AddedBy (order : SetOrder) (known : List String) (js : List JoinSpec) (e : JoinEdge) :
    Prop :=
  ∃ j ∈ js, e.target = trim j.table ∧ e.kind = j.kind ∧ e.condition = j.condition ∧
    ∃ known' : List String, (∀ t ∈ known, t ∈ known') ∧
      (∀ t ∈ known', t ∈ known ∨ ∃ j' ∈ js, t = trim j'.table) ∧
      joinSource order known' (trim j.table) j.condition = some e.source

/-- An edge added by the later joins, after a join that may have made its table known, is
added by the joins from that one on. -/
theorem AddedBy.cons {order : SetOrder} {known known₂ : List String} {j : JoinSpec}
    {js : List JoinSpec} {e : JoinEdge} (h : AddedBy order known₂ js e)
    (hsub : ∀ t ∈ known₂, t ∈ known ∨ t = trim j.table) (hsup : ∀ t ∈ known, t ∈ known₂) :
    AddedBy order known (j :: js) e := by
  obtain ⟨j', hj', ht, hk, hc, known', hk₁, hk₂, hs⟩ := h
  refine ⟨j', List.mem_cons_of_mem _ hj', ht, hk, hc, known', fun t ht => hk₁ t (hsup t ht),
    fun t ht => ?_, hs⟩
  rcases hk₂ t ht with ht | ⟨j'', hj'', rfl⟩
  · rcases hsub t ht with ht | rfl
    · exact .inl ht
    · exact .inr ⟨j, List.mem_cons_self, rfl⟩
  · exact .inr ⟨j'', List.mem_cons_of_mem _ hj'', rfl⟩

/-- Every edge the joins add is added by one of them. -/
theorem mem_edges_addJoins {order : SetOrder} {g : Diagram Bool} {known : List String}
    {js : List JoinSpec} {e : JoinEdge} (he : e ∈ (addJoins order g known js).edges) :
    e ∈ g.edges ∨ AddedBy order known js e := by
  induction js generalizing g known with
  | nil => exact .inl he
  | cons j js ih =>
    -- a join that adds nothing leaves the known tables as they were
    have skip : ∀ {g' : Diagram Bool}, e ∈ (addJoins order g' known js).edges →
        e ∈ g'.edges ∨ AddedBy order known (j :: js) e := fun he =>
      (ih he).imp_right (·.cons (fun t ht => .inl ht) (fun _ h => h))
    simp only [addJoins] at he
    split at he
    · exact skip he
    · split at he
      · rename_i s hs
        split at he
        · exact skip he
        · -- the join adds its edge, and its table becomes known
          have hgrow : ∀ t ∈ (if known.contains (trim j.table) then known
              else known ++ [trim j.table]), t ∈ known ∨ t = trim j.table := by
            intro t ht
            split at ht <;> simp_all
          have hkeep : ∀ t ∈ known, t ∈ (if known.contains (trim j.table) then known
              else known ++ [trim j.table]) := by
            intro t ht
            split <;> simp [ht]
          rcases ih he with he | he
          · rw [edges_addJoin, List.mem_append, List.mem_singleton] at he
            rcases he with he | rfl
            · exact .inl he
            · exact .inr ⟨j, List.mem_cons_self, rfl, rfl, rfl, known, fun _ h => h,
                fun t ht => .inl ht, hs⟩
          · exact .inr (he.cons hgrow hkeep)
      · exact skip he

-- ============================================================ what the builder keeps

theorem edges_addColumnsTo {μ : Type} (g : Diagram μ) (table : String) (cols : List String) :
    (addColumnsTo g table cols).edges = g.edges := by
  induction cols generalizing g with
  | nil => rfl
  | cons c cols ih => exact (ih _).trans (edges_modify g table _)

/-- Placing the columns of one key: the wildcard key puts `*` on every node, and any other key
adds its columns to the node of one table, or to none. -/
theorem placeColumns_cons (g : Diagram Bool) (first : Option String) (k : String)
    (cols : List String) (cs : List (String × List String)) :
    (k = "*" ∧ placeColumns g first ((k, cols) :: cs) =
        placeColumns { g with nodes := g.nodes.map (·.pushColumn "*") } first cs) ∨
    (k ≠ "*" ∧ ∃ t : Option String, placeColumns g first ((k, cols) :: cs) =
        placeColumns ((t.map (addColumnsTo g · cols)).getD g) first cs) := by
  simp only [placeColumns]
  split
  · rename_i hk
    exact Or.inl ⟨by simpa using hk, rfl⟩
  · rename_i hk
    refine Or.inr ⟨by simpa using hk, ?_⟩
    split
    · exact ⟨first, rfl⟩
    · exact ⟨lookupName g k, rfl⟩

theorem edges_placeColumns (g : Diagram Bool) (first : Option String)
    (cs : List (String × List String)) : (placeColumns g first cs).edges = g.edges := by
  induction cs generalizing g with
  | nil => rfl
  | cons kc cs ih =>
    obtain ⟨k, cols⟩ := kc
    -- the wildcard changes nodes only; a key's columns go to one node
    rcases placeColumns_cons g first k cols cs with ⟨-, h⟩ | ⟨-, t, h⟩
    · rw [h, ih]
    · rw [h, ih]
      cases t <;> simp [edges_addColumnsTo]

theorem edges_markGroups (g : Diagram Bool) (items : List String) :
    (markGroups g items).edges = g.edges := by
  induction items generalizing g with
  | nil => rfl
  | cons item items ih =>
    simp only [markGroups]
    split
    · rw [ih]
      cases lookupName g _ <;> rfl
    · cases g.names.head? <;> rfl

/-- The edges of a diagram are those its joins add. -/
theorem edges_ofOutlineBy (order : SetOrder) (o : Outline) :
    (ofOutlineBy order o).edges =
      (addJoins order (o.tables.foldl addTable empty) o.tables o.joins).edges := by
  simp only [ofOutlineBy, edges_markGroups, placeFilters_eq, edges_placeColumns]

theorem edges_foldl_addTable (g : Diagram Bool) (ts : List String) :
    (ts.foldl addTable g).edges = g.edges := by
  induction ts generalizing g with
  | nil => rfl
  | cons t ts ih => rw [List.foldl_cons, ih, edges_addTable]

-- ============================================================ the edges of a diagram

/-- Every edge of a diagram ends at a joined table and starts at a table of the outline or at
a joined table; and an edge that starts where it ends has a condition that qualifies no table
of the outline other than the joined one. -/
theorem ofOutlineBy_edge (order : SetOrder) (o : Outline) {e : JoinEdge}
    (he : e ∈ (ofOutlineBy order o).edges) :
    (∃ j ∈ o.joins, e.target = trim j.table) ∧
      (e.source ∈ o.tables ∨ ∃ j ∈ o.joins, e.source = trim j.table) ∧
      (e.source = e.target →
        ∀ t ∈ Query.qualifiersOf e.condition.toList, t ∈ o.tables → t = e.target) := by
  rw [edges_ofOutlineBy] at he
  rcases mem_edges_addJoins he with he | ⟨j, hj, ht, -, hc, known', hk₁, hk₂, hs⟩
  · simp [edges_foldl_addTable, empty] at he
  · obtain ⟨hsk, hcase⟩ := joinSource_spec hs
    refine ⟨⟨j, hj, ht⟩, hk₂ _ hsk, fun hloop t hq ho => ?_⟩
    rw [hc, ← ht] at *
    rcases hcase with ⟨-, hne⟩ | ⟨hall, -⟩
    · exact absurd hloop hne
    · exact hall t hq (hk₁ t ho)

/-- A query with one join whose condition qualifies no table: the join is drawn from the
joined table to itself. -/
theorem ofQuery_unqualified_join_loops :
    ((Query.parse "SELECT * FROM a JOIN b ON x = y").map fun q => (ofQuery q).edges) =
      .ok [⟨"b", "b", "INNER", "x = y"⟩] := by
  decide +kernel

end Diagram

end QueryDiagram
