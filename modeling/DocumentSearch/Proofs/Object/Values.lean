import DocumentSearch.Proofs.Object.Cells

/-!
# Builders as values

What is done to the objects of a builder is what is done with it as a value, whichever other builder
has its clauses too.
-/
namespace DocumentSearch

def Builder.grown (b : Builder) (more : Bucket → List Clause) : Builder :=
  { b with
    wheres := b.wheres ++ more .query
    filters := b.filters ++ more .filter
    postFilters := b.postFilters ++ more .postFilter }

def Builder.emptied (b : Builder) : Bucket → Builder
  | .query => { b with wheres := [] }
  | .filter => { b with filters := [] }
  | .postFilter => { b with postFilters := [] }

namespace Builder

theorem place_eq_grown (b : Builder) (clauses : List (Bucket × Clause)) :
    b.place clauses = b.grown fun k => (clauses.filter (fun c => c.1 = k)).map Prod.snd := by
  have rest : b.place clauses =
      { b with
        wheres := (b.place clauses).wheres
        filters := (b.place clauses).filters
        postFilters := (b.place clauses).postFilters } := by
    induction clauses generalizing b with
    | nil => rfl
    | cons c clauses ih =>
      obtain ⟨k, c⟩ := c
      refine (ih (b.append k [c])).trans ?_
      cases k <;> rfl
  have query := b.bucket_place clauses .query
  have filter := b.bucket_place clauses .filter
  have postFilter := b.bucket_place clauses .postFilter
  simp only [bucket] at query filter postFilter
  rw [rest, query, filter, postFilter]
  rfl

end Builder

namespace Body

variable (o : Body) (seen : (s : Slot) → s.Seen)

theorem builder_emptied (k : Bucket) :
    o.builder (Function.update seen (.bucket k) []) = (o.builder seen).emptied k := by
  cases k <;> simp [builder, Builder.emptied]

theorem builder_columns (columns : List Value) :
    o.builder (Function.update seen .columns columns) =
      { o.builder seen with columns := columns } := by
  simp [builder]

theorem builder_aggregations (aggregations : List Aggregation) :
    o.builder (Function.update seen .aggregations aggregations) =
      { o.builder seen with aggregations := aggregations } := by
  simp [builder]

theorem builder_orders (orders : List Order) :
    o.builder (Function.update seen .orders orders) = { o.builder seen with orders := orders } := by
  simp [builder]

theorem builder_options (options : Entries) :
    o.builder (Function.update seen .options options) =
      { o.builder seen with options := options } := by
  simp [builder]

theorem builder_summary (summary : Summary) :
    o.builder (Function.update seen .summary summary) =
      { o.builder seen with summary := summary } := by
  simp [builder]

end Body

namespace Heap

variable {base : Option Body} {h h' : Heap} {o : Body} {s : Slot} {content : s.kind.Content}

theorem Owns.fits (owned : h.Owns o) (sound : h.Sound) (s : Slot) : h.Fits s.kind (h.own o s) :=
  sound _ _ (owned.known s)

theorem Turns.change (t : Turns base h h' o) (s : Slot) (f : s.kind.Content → s.kind.Content)
    (fits : h'.Fits s.kind (f (h'.own o s))) : Turns base h (h'.change o s f) o :=
  t.write (t.owned.known s) (t.mine s) (admits_of_fits fits)

theorem own_change (owned : h.Owns o) (s : Slot) (f : s.kind.Content → s.kind.Content) :
    (h.change o s f).own o = Function.update (h.own o) s (f (h.own o s)) := by
  funext other
  by_cases same : other = s
  · subst same
    rw [Function.update_self]
    exact get_write_self (owned.known other)
  · rw [Function.update_of_ne same]
    exact get_write_of_ne fun kinds shared => same (owned.distinct other s kinds shared)

theorem own_renew (owned : h.Owns o) (s : Slot) (content : s.kind.Content) :
    (h.renew o s content).2.own (h.renew o s content).1 =
      Function.update (h.own o) s content := by
  funext other
  by_cases same : other = s
  · subst same
    rw [own, slots_renew_self, Function.update_self]
    exact get_alloc_self
  · rw [own, slots_renew_of_ne same, Function.update_of_ne same]
    exact get_alloc_of_lt (owned.known other)

theorem seen_of_own {p : Body} (frame : Frame (some o) h h') (sound : h.Sound) (owned : h.Owns o)
    (own : h'.own p = Function.update (h.own o) s content) (fits : h.Fits s.kind content) :
    h'.seen p = Function.update (h.seen o) s (h.seenAs s content) := by
  have owners : ∀ q ∈ some o, h.Owns q := fun q mem => Option.mem_some.mp mem ▸ owned
  funext other
  rw [seen, own]
  by_cases same : other = s
  · subst same
    rw [Function.update_self, Function.update_self]
    exact frame.seenAs sound owners fits
  · rw [Function.update_of_ne same, Function.update_of_ne same]
    exact frame.seenAs sound owners (owned.fits sound other)

theorem view_change (sound : h.Sound) (owned : h.Owns o) (s : Slot)
    (f : s.kind.Content → s.kind.Content) (fits : h.Fits s.kind (f (h.own o s))) :
    (h.change o s f).view o =
      o.builder (Function.update (h.seen o) s (h.seenAs s (f (h.own o s)))) := by
  have turns := (Turns.refl sound owned).change s f fits
  rw [view, seen_of_own turns.frame sound owned (own_change owned s f) fits]

theorem seen_renew (sound : h.Sound) (owned : h.Owns o) (s : Slot) (content : s.kind.Content)
    (fits : h.Fits s.kind content) :
    (h.renew o s content).2.seen (h.renew o s content).1 =
      Function.update (h.seen o) s (h.seenAs s content) := by
  have frame : Frame (some o) h (h.renew o s content).2 := (Frame.alloc ..).imp _
  exact seen_of_own frame sound owned (own_renew owned s content) fits

/-! ## Clauses -/

theorem size_addClause (h : Heap) (c : Clause) :
    (h.addClause c).2.size .clause = h.size .clause + 1 := by
  rw [addClause, size_alloc_self, size_alloc_table]

theorem addClause_fst (h : Heap) (c : Clause) : (h.addClause c).1 = h.size .clause :=
  size_alloc_table

theorem Frame.addClause (h : Heap) (c : Clause) : Frame none h (h.addClause c).2 :=
  (Frame.alloc h .table c.options).later (.alloc _ .clause _)

theorem clauseAt_addClause (h : Heap) (c : Clause) :
    (h.addClause c).2.clauseAt (h.addClause c).1 = c := by
  have options : h.size .table < (h.alloc .table c.options).2.size .table := by
    rw [size_alloc_self]
    exact Nat.lt_succ_self _
  have table : (h.addClause c).2.get .table (h.size .table) = c.options :=
    (get_alloc_of_lt options).trans get_alloc_self
  have cell : (h.addClause c).2.get .clause (h.addClause c).1 =
      ⟨c.connective, c.negated, h.size .table, c.condition⟩ := get_alloc_self
  rw [clauseAt, cell, table]
  cases c
  rfl

theorem Turns.addClause (t : Turns base h h' o) (c : Clause) :
    Turns base h (h'.addClause c).2 o := by
  have table : Turns base h (h'.alloc .table c.options).2 o := t.alloc trivial
  refine table.alloc ⟨t.frame.size _, ?_, (Nat.ne_of_lt (t.owned.known .options)).symm⟩
  rw [size_alloc_self]
  exact Nat.lt_succ_self _

theorem own_of_frame (frame : Frame none h h') (owned : h.Owns o) : h'.own o = h.own o :=
  funext fun s => frame.kept (owned.known s)

end Heap

end DocumentSearch
