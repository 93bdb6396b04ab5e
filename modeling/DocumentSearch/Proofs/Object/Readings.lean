import DocumentSearch.Proofs.Execution.Index
import DocumentSearch.Proofs.Object.Calls

/-!
# Readings of builders as objects

A reading changes the summary of its builder in place and nothing else that was there. The columns
of one reading are in a new list, and the builder has its own list again when the reading is over.
-/
namespace DocumentSearch

namespace Heap

variable {base : Option Body} {h h' : Heap} {o : Body} {α : Type} {d : Dialect}

/-- A reading of a builder as an object that is one of the builder as a value. -/
structure Reads (base : Option Body) (h : Heap) (x : Except Error α × Body × Heap × Line)
    (y : Except Error α × Builder × Line) : Prop where
  result : x.1 = y.1
  turns : Turns base h x.2.2.1 x.2.1
  view : x.2.2.1.view x.2.1 = y.2.1
  line : x.2.2.2 = y.2.2

theorem change_summary (t : Turns base h h' o) (summary : Summary) :
    Turns base h (h'.change o .summary fun _ => summary) o ∧
      (h'.change o .summary fun _ => summary).view o = { h'.view o with summary := summary } := by
  refine ⟨t.change .summary _ trivial, ?_⟩
  exact (view_change t.sound t.owned .summary _ trivial).trans (Body.builder_summary ..)

theorem results_reads (t : Turns base h h' o) (line : Line) :
    Reads base h (h'.results d o line) ((h'.view o).results d h'.store line) := by
  obtain ⟨cache, summary, same⟩ := Builder.results_builder d h'.store (h'.view o) line
  obtain ⟨turns, view⟩ := change_summary t summary
  unfold Heap.results
  dsimp only
  rw [same]
  refine ⟨rfl, turns.of_slots rfl, ?_, rfl⟩
  exact (congrArg (fun b : Builder => { b with cache := cache }) view).trans same.symm

/-- A reading with columns of its own, which the builder gives up again. -/
theorem results_columns (apart : h.Apart) (t : Turns base h h' o) (frame : Frame none h h')
    (chosen : List Value) (line : Line) :
    let renewed := h'.renew o .columns chosen
    let x := renewed.2.results d renewed.1 line
    let y := { h'.view o with columns := chosen }.results d h.store line
    Reads base h
      (x.1, { x.2.1 with slots := Function.update x.2.1.slots .columns (o.slots .columns) }, x.2.2)
      (y.1, { y.2.1 with columns := (h'.view o).columns }, y.2.2) := by
  intro renewed x y
  have step : Frame none h' renewed.2 := .alloc ..
  have own : Turns base h renewed.2 o := t.alloc trivial
  have store : renewed.2.store = h.store := store_of_frame apart t.bodies (frame.later step)
  obtain ⟨-, shown⟩ := renew_columns t chosen
  obtain ⟨cache, summary, same⟩ := Builder.results_builder d h.store
    { h'.view o with columns := chosen } line
  have outcome : (renewed.2.view renewed.1).results d renewed.2.store line = y := by
    rw [shown, store]
  obtain ⟨turns, view⟩ := change_summary own summary
  have before : renewed.2.view o = h'.view o :=
    step.view_of_apart t.sound nofun t.owned nofun
  have read : x = (y.1, { renewed.1 with cache := cache },
      renewed.2.change o .summary fun _ => summary, y.2.2) := by
    change Heap.results d renewed.2 renewed.1 line = _
    unfold Heap.results
    rw [outcome]
    dsimp only
    rw [same]
    rfl
  rw [read]
  have slots : Function.update (Function.update o.slots .columns (h'.size .columns)) .columns
      (o.slots .columns) = o.slots := by
    rw [Function.update_idem, Function.update_eq_self]
  refine ⟨rfl, turns.of_slots slots, ?_, rfl⟩
  have body := congrArg (fun slots => { o with cache := cache, slots := slots }) slots
  refine (congrArg _ body).trans ?_
  rw [before] at view
  refine (congrArg (fun b : Builder => { b with cache := cache }) view).trans ?_
  rw [same]

theorem read_reads (apart : h.Apart) (t : Turns base h h' o) (frame : Frame none h h')
    (columns : Value) (line : Line) :
    Reads base h (h'.read d o columns line) ((h'.view o).read d h.store columns line) := by
  unfold Heap.read Builder.read
  cases given : (h'.view o).columnsFor columns with
  | error e => exact ⟨rfl, t, rfl, rfl⟩
  | ok chosen =>
    dsimp only
    split
    · exact results_columns apart t frame chosen line
    · -- The builder keeps its columns, so it is given back those that it has.
      rename_i keeps
      obtain rfl : (h'.view o).columns = chosen := by
        rw [Builder.columnsFor, if_neg keeps] at given
        exact Except.ok.inj given
      have reads := results_reads (d := d) t line
      rw [store_of_frame apart t.bodies frame] at reads
      let x := h'.results d o line
      have body : { x.2.1 with slots := Function.update x.2.1.slots .columns (o.slots .columns) } =
          x.2.1 :=
        congrArg (fun slots => { x.2.1 with slots := slots }) (Function.update_eq_self ..)
      obtain ⟨cache, summary, same⟩ := Builder.results_builder d h.store (h'.view o) line
      have columns : { ((h'.view o).results d h.store line).2.1 with
          columns := (h'.view o).columns } = ((h'.view o).results d h.store line).2.1 := by
        rw [same]
      change Reads base h (x.1, { x.2.1 with slots := _ }, x.2.2) _
      rw [body]
      exact ⟨reads.result, reads.turns, reads.view.trans columns.symm, reads.line⟩

theorem Reads.elim {x : Except Error α × Body × Heap × Line} {y : Except Error α × Builder × Line}
    (reads : Reads base h x y) :
    ∃ result o h' line, x = (result, o, h', line) ∧ y = (result, h'.view o, line) ∧
      Turns base h h' o := by
  obtain ⟨result, o, h', line⟩ := x
  obtain ⟨_, b, _⟩ := y
  obtain ⟨rfl, turns, rfl, rfl⟩ := reads
  exact ⟨result, o, h', line, rfl, rfl, turns⟩

theorem readFirst_reads (apart : h.Apart) (t : Turns base h h' o) (frame : Frame none h h')
    (columns : Value) (line : Line) :
    Reads base h (h'.readFirst d o columns line)
      ((h'.view o).readFirst d h.store columns line) := by
  have limited : Turns base h h' { o with limit := some (.int 1) } := t.of_slots rfl
  obtain ⟨result, o', h'', line', here, there, turns⟩ :=
    (read_reads (d := d) apart limited frame columns line).elim
  have read : { h'.view o with limit := some (.int 1) }.read d h.store columns line =
      (result, h''.view o', line') := there
  unfold Heap.readFirst Builder.readFirst
  rw [here, read]
  cases result <;> exact ⟨rfl, turns, rfl, rfl⟩

theorem paginate_reads (apart : h.Apart) (t : Turns base h h' o) (frame : Frame none h h')
    (page perPage : Value) (line : Line) :
    Reads base h (h'.paginate d o page perPage line)
      ((h'.view o).paginate d h.store page perPage line) := by
  have plain := Builder.Plain.withPage (h'.view o) page perPage
  unfold Heap.paginate Builder.paginate
  generalize (h'.view o).withPage page perPage = turned at plain ⊢
  obtain ⟨result, b⟩ := turned
  have view := view_assign plain
  have turns : Turns base h h' (o.assign b) := t.of_slots rfl
  cases result with
  | error e => exact ⟨rfl, turns, view, rfl⟩
  | ok _ =>
    obtain ⟨result, o', h'', line', here, there, turns⟩ :=
      (read_reads (d := d) apart turns frame .null line).elim
    rw [view] at there
    dsimp only
    rw [here, there]
    cases result <;> exact ⟨rfl, turns, rfl, rfl⟩

theorem summaryRead_reads (apart : h.Apart) (t : Turns base h h' o) (frame : Frame none h h')
    (line : Line) (f : Summary → Value) :
    Reads base h (h'.summaryRead d o line f) ((h'.view o).summaryRead d h.store line f) := by
  have reads := results_reads (d := d) t line
  rw [store_of_frame apart t.bodies frame] at reads
  obtain ⟨result, o', h'', line', here, there, turns⟩ := reads.elim
  unfold Heap.summaryRead Builder.summaryRead
  rw [here, there]
  cases result <;> exact ⟨rfl, turns, rfl, rfl⟩

/-! ## Copies that nobody keeps -/

/-- What only sends requests leaves all objects that were there as they were. -/
def Asks (h : Heap) (x : Except Error α × Heap × Line) (y : Except Error α × Line) : Prop :=
  x.1 = y.1 ∧ Becomes none h h.store x.2.1 ∧ x.2.2 = y.2

theorem counting_asks (apart : h.Apart) (owned : h.Owns o) (line : Line) :
    Asks h (h.counting d o line) ((h.view o).count d h.store line) := by
  have cache : (h.view o).cache = o.cache := rfl
  unfold counting Builder.count
  rw [cache]
  cases o.cache with
  | some _ => exact ⟨rfl, .refl apart nofun, rfl⟩
  | none =>
    obtain ⟨turns, view⟩ := counter_view apart.sound owned
    obtain ⟨result, o', h', line', here, there, turns⟩ :=
      (read_reads (d := d) apart turns turns.frame (.list [.str "_id"]) line).elim
    -- The columns are named by the reading here, and by the copy as a value.
    have counted : (((h.view o).counter.results d h.store line).1,
        { ((h.view o).counter.results d h.store line).2.1 with columns := [] },
        ((h.view o).counter.results d h.store line).2.2) = (result, h'.view o', line') := by
      rw [← there, view]
      rfl
    dsimp only
    rw [here]
    generalize (h.view o).counter.results d h.store line = y at counted ⊢
    obtain ⟨first, b, last⟩ := y
    simp only [Prod.mk.injEq] at counted
    obtain ⟨same, seen, connection⟩ := counted
    subst same connection
    cases first with
    | error e => exact ⟨rfl, .drop apart turns, rfl⟩
    | ok _ =>
      refine ⟨?_, .drop apart turns, rfl⟩
      dsimp only
      rw [← seen]

theorem delete_asks (apart : h.Apart) (owned : h.Owns o) (id : Value) (line : Line) :
    Asks h (h.delete d o id line) ((h.view o).delete d h.store id line) := by
  unfold Heap.delete
  by_cases null : id.isNull
  · rw [if_pos null]
    exact ⟨rfl, .refl apart nofun, rfl⟩
  · obtain ⟨o', turns, outcome⟩ := keyed_copies apart owned id
    have request : (do d.deleteRequest ((h.keyed o id).2.view (← (h.keyed o id).1))) =
        (do d.deleteRequest (← (h.view o).keyed h.store id)) := by
      rcases outcome with ⟨here, there⟩ | ⟨e, here, there⟩ <;> rw [here, there] <;> rfl
    rw [if_neg null, Builder.delete, if_neg null]
    dsimp only
    rw [request]
    exact ⟨rfl, .drop apart turns, rfl⟩

end Heap

end DocumentSearch
