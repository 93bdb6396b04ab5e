import DocumentSearch.Proofs.Cache.Fetch

/-!
# Readings

Every reading first settles which page and which columns it asks for. Then it takes the documents of
that page, kept or fetched, and shows something of them or of what the reply said.
-/
namespace DocumentSearch

open Outcome

namespace Builder

variable {b : Builder}

def columned (b : Builder) (columns : Value) : Except Error Builder := do
  return { b with columns := ← b.columnsFor columns }

theorem columned_eq_error {columns : Value} {e : Error} (h : b.columned columns = .error e) :
    ∃ cause, b.columnsFor columns = .error cause ∧ e = .misuse cause := by
  unfold columned at h
  cases chosen : b.columnsFor columns with
  | error cause =>
    rw [chosen] at h
    cases h
    exact ⟨cause, rfl, rfl⟩
  | ok chosen' =>
    rw [chosen] at h
    cases h

theorem columned_eq_ok {columns : Value} {asked : Builder} (h : b.columned columns = .ok asked) :
    ∃ chosen, b.columnsFor columns = .ok chosen ∧ asked = { b with columns := chosen } := by
  obtain ⟨chosen, found, h⟩ := bind_eq_ok.mp h
  exact ⟨chosen, lift_eq_ok.mp found, (pure_eq_ok.mp h).symm⟩

theorem read_of_refused {columns : Value} {e : Error} (refused : b.columned columns = .error e)
    (d : Dialect) (store : Store) (line : Line) :
    b.read d store columns line = (.error e, b, line) := by
  obtain ⟨cause, unfit, rfl⟩ := columned_eq_error refused
  rw [read, unfit]

theorem read_of_columned {columns : Value} {asked : Builder}
    (accepted : b.columned columns = .ok asked) (d : Dialect) (store : Store) (line : Line) :
    b.read d store columns line =
      let r := asked.results d store line
      (r.1, { r.2.1 with columns := b.columns }, r.2.2) := by
  obtain ⟨chosen, fit, rfl⟩ := columned_eq_ok accepted
  rw [read, fit]

end Builder

namespace Reading

/-- The builder that a reading takes documents from: on the page that it names, and with the columns
that it names. -/
def asked (b : Builder) : Reading → Except Error Builder
  | documents columns => b.columned columns
  | first columns => { b with limit := some (.int 1) }.columned columns
  | page perPage number =>
    match b.withPage number perPage with
    | (.ok (), turned) => .ok turned
    | (.error e, _) => .error e
  | _ => .ok b

/-- A builder that has nothing but what a reply said. -/
def bearing (summary : Summary) : Builder := { (default : Builder) with summary := summary }

def shown (documents : List Value) (summary : Summary) : Reading → Except Error Value
  | .documents _ => .ok (.list documents)
  | first _ => .ok (documents.head?.getD .null)
  | page perPage number => ((bearing summary).pageOf documents number perPage).map Page.value
  | aggregations => .ok summary.aggregations
  | took => .ok summary.took
  | rawReply => .ok summary.rawReply

theorem pageOf_bearing (b : Builder) (documents : List Value) (number perPage : Value) :
    b.pageOf documents number perPage = (bearing b.summary).pageOf documents number perPage := rfl

theorem shown_page {documents : List Value} {summary : Summary} {perPage number : Value} {p : Page}
    (made : (bearing summary).pageOf documents number perPage = .ok p) :
    (Reading.page perPage number).shown documents summary = .ok p.value := by
  rw [Reading.shown, made]
  rfl

variable {d : Dialect} {w : Workspace} {ref : Ref} {reading : Reading} {b asked : Builder}
  {store : Store}

theorem memory_columned {columns : Value} (h : b.columned columns = .ok asked) :
    asked.memory = b.memory := by
  obtain ⟨chosen, -, rfl⟩ := Builder.columned_eq_ok h
  rfl

theorem memory_asked (accepted : reading.asked b = .ok asked) : asked.memory = b.memory := by
  cases reading with
  | documents columns => exact memory_columned accepted
  | first columns => exact memory_columned (b := { b with limit := some (.int 1) }) accepted
  | page perPage number =>
    have turned := b.memory_withPage number perPage
    unfold Reading.asked at accepted
    dsimp only at accepted
    split at accepted
    · rename_i done
      cases accepted
      rwa [done] at turned
    · cases accepted
  | aggregations | took | rawReply =>
    cases accepted
    rfl

theorem perform_of_refused {e : Error}
    (refused : reading.asked (w.store.get ref) = .error e) :
    ∃ b, b.memory = (w.store.get ref).memory ∧
      reading.action.perform d w ref = (.error e, ⟨w.store.set ref b, w.line⟩) := by
  cases reading with
  | documents columns =>
    refine ⟨w.store.get ref, rfl, ?_⟩
    simp only [action, Action.perform, Builder.read_of_refused refused]
    rfl
  | first columns =>
    refine ⟨{ w.store.get ref with limit := some (.int 1) }, rfl, ?_⟩
    simp only [action, Action.perform, Builder.readFirst, Builder.read_of_refused refused]
    rfl
  | page perPage number =>
    have turned := (w.store.get ref).memory_withPage number perPage
    unfold Reading.asked at refused
    dsimp only at refused
    split at refused
    · cases refused
    · rename_i e' b done
      cases refused
      rw [done] at turned
      refine ⟨b, turned, ?_⟩
      simp only [action, Action.perform, Builder.paginate, done]
      rfl
  | aggregations | took | rawReply => cases refused

/-- A reading that is accepted shows something of the documents that it asks for, and puts the
builder back as taking them left it, save for its columns. -/
theorem perform_of_asked (accepted : reading.asked (w.store.get ref) = .ok asked) :
    ∃ columns, reading.action.perform d w ref =
      let r := asked.results d w.store w.line
      ((r.1 >>= fun documents => reading.shown documents r.2.1.summary).map .value,
        ⟨w.store.set ref { r.2.1 with columns := columns }, r.2.2⟩) := by
  cases reading with
  | documents columns =>
    refine ⟨(w.store.get ref).columns, ?_⟩
    simp only [action, Action.perform, Builder.read_of_columned accepted, Action.reading]
    cases (asked.results d w.store w.line).1 <;> rfl
  | first columns =>
    refine ⟨(w.store.get ref).columns, ?_⟩
    simp only [action, Action.perform, Builder.readFirst, Builder.read_of_columned accepted]
    generalize asked.results d w.store w.line = r
    obtain ⟨result, b, line⟩ := r
    cases result <;> rfl
  | page perPage number =>
    unfold Reading.asked at accepted
    dsimp only at accepted
    split at accepted
    · rename_i done
      cases accepted
      refine ⟨asked.columns, ?_⟩
      have all : asked.columned .null = .ok asked := by
        unfold Builder.columned Builder.columnsFor
        rw [show Value.truthy .null = false from rfl, Bool.and_false]
        rfl
      simp only [action, Action.perform, Builder.paginate, done, Builder.read_of_columned all]
      generalize asked.results d w.store w.line = r
      obtain ⟨result, b, line⟩ := r
      cases result with
      | error e => rfl
      | ok documents =>
        simp only [Action.reading, shown, pageOf_bearing { b with columns := _ }, bind,
          Except.bind]
        cases (bearing b.summary).pageOf documents number perPage <;> rfl
    · cases accepted
  | aggregations | took | rawReply =>
    cases accepted
    refine ⟨((w.store.get ref).results d w.store w.line).2.1.columns, ?_⟩
    simp only [action, Action.perform, Builder.summaryRead]
    generalize (w.store.get ref).results d w.store w.line = r
    obtain ⟨result, b, line⟩ := r
    cases result <;> rfl

end Reading

end DocumentSearch
