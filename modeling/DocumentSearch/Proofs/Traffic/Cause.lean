import DocumentSearch.Proofs.Traffic.Station

/-!
# Why a request fails

The error of whatever is done with scrolls and cursors is explained by the exchanges that it made:
the last exchange that raised anything tells what it is. A refused request becomes an error about
the query, a failure that is no refusal passes through, and a refused release raises nothing.
-/
namespace DocumentSearch

open Connection Outcome

/-- What the body of a refusal says of its error: what it has under that name, or all of a body that
is no table. -/
def ClientError.detail (r : ClientError) : Value :=
  match r.body with
  | .map entries => Value.under entries "error"
  | v => v

/-- The type and the reason of an error that a refusal names. -/
def Value.refusal : Value → Value × Value
  | .map entries => (Value.under entries "type", Value.under entries "reason")
  | .str reason => (.null, .str reason)
  | _ => (.null, .null)

theorem ClientError.refusalDetail_body (r : ClientError) :
    refusalDetail r.body = r.detail.refusal := rfl

/-- An error that tells of a refused request. -/
structure ExecutionFailure.Tells (f : ExecutionFailure) (call : Call) (bindings : Value)
    (r : ClientError) : Prop where
  query : parametersOf f.query = .ok call.arguments
  bindings : f.bindings = bindings.orElse (.list [])
  message : (Error.execution f).message = some r.text
  status : f.status = r.status
  object : ∀ error, r.detail = .map error →
    f.errorType = Value.under error "type" ∧ f.reason = Value.under error "reason"
  text : ∀ reason, r.detail = .str reason → f.errorType = .null ∧ f.reason = .str reason
  neither : (∀ error, r.detail ≠ .map error) → (∀ reason, r.detail ≠ .str reason) →
    f.errorType = .null ∧ f.reason = .null

theorem Connection.failure_tells {method : String} {query : Value} {parameters : Entries}
    (bindings : Value) (r : ClientError) (sent : parametersOf query = .ok parameters) :
    (failure query bindings r).Tells ⟨method, parameters⟩ bindings r := by
  refine ⟨sent, rfl, rfl, rfl, fun error same => ?_, fun reason same => ?_, fun table text => ?_⟩
  · simp [failure, r.refusalDetail_body, same, Value.refusal]
  · simp [failure, r.refusalDetail_body, same, Value.refusal]
  · have nothing : r.detail.refusal = (.null, .null) := by
      unfold Value.refusal
      split
      · exact absurd ‹_› (table _)
      · exact absurd ‹_› (text _)
      · rfl
    simp [failure, r.refusalDetail_body, nothing]

namespace Exchange

/-- Whether an exchange raises anything: not if there is an answer, and a refused release does not
either. -/
def loud : Exchange → Bool
  | (_, .value _) => false
  | (call, .refused _) => call.method ≠ "clear_scroll"
  | (_, .broken _) => true

/-- What an exchange raises. -/
inductive Raises (bindings : Value) : Exchange → Error → Prop
  | refused {call : Call} {r : ClientError} {f : ExecutionFailure} (tells : f.Tells call bindings r) :
      Raises bindings (call, .refused r) (.execution f)
  | broken (call : Call) (e : Error) : Raises bindings (call, .broken e) e

/-- The last exchange that raises anything. -/
def cause (exchanges : List Exchange) : Option Exchange := (exchanges.filter loud).getLast?

theorem cause_append (exchanges more : List Exchange) :
    cause (exchanges ++ more) = (cause more).or (cause exchanges) := by
  rw [cause, List.filter_append, List.getLast?_append]
  rfl

/-- A result that its cause tells, if it has one. -/
def Explained {α : Type} (bindings : Value) (exchanges : List Exchange) (x : Except Error α) : Prop :=
  ∀ exchange, cause exchanges = some exchange → ∃ e, x = .error e ∧ Raises bindings exchange e

namespace Explained

variable {α β : Type} {bindings : Value} {exchanges more : List Exchange} {x : Except Error α}
  {y : Except Error β}

theorem of_quiet (quiet : cause exchanges = none) : Explained bindings exchanges x := by
  intro exchange found
  rw [quiet] at found
  cases found

/-- What comes later replaces what came of the earlier exchanges, and keeps their error if it raises
nothing itself. -/
theorem append (first : Explained bindings exchanges x) (second : Explained bindings more y)
    (kept : cause more = none → ∀ e, x = .error e → y = .error e) :
    Explained bindings (exchanges ++ more) y := by
  intro exchange found
  rw [cause_append] at found
  cases later : cause more with
  | some own =>
    rw [later, Option.some_or] at found
    exact second exchange (later.trans found)
  | none =>
    rw [later, Option.none_or] at found
    obtain ⟨e, failed, raises⟩ := first exchange found
    exact ⟨e, kept later e failed, raises⟩

/-- An error may stand for a result of another kind, and anything for what was done. -/
theorem imp (h : Explained bindings exchanges x) (kept : ∀ e, x = .error e → y = .error e) :
    Explained bindings exchanges y := by
  intro exchange found
  obtain ⟨e, failed, raises⟩ := h exchange found
  exact ⟨e, kept e failed, raises⟩

end Explained

end Exchange

open Exchange

/-- A result over a connection that its exchanges explain; releases are among them only where they
may be. -/
def Connection.Yields {α : Type} (releasing : Bool) (bindings : Value) (c : Connection)
    (x : Except Error α) (c' : Connection) : Prop :=
  ∃ exchanges, Follows c c' exchanges ∧ Explained bindings exchanges x ∧
    (releasing = false → ∀ exchange ∈ exchanges, exchange.1.method ≠ "clear_scroll")

namespace Connection.Yields

variable {α β : Type} {releasing : Bool} {bindings : Value} {c c' c'' : Connection}
  {x : Except Error α} {y : Except Error β}

theorem refl (c : Connection) (x : Except Error α) : Yields releasing bindings c x c :=
  ⟨[], .refl c, .of_quiet rfl, by simp⟩

theorem imp (h : Yields releasing bindings c x c') (kept : ∀ e, x = .error e → y = .error e) :
    Yields releasing bindings c y c' := by
  obtain ⟨exchanges, follows, explained, quiet⟩ := h
  exact ⟨exchanges, follows, explained.imp kept, quiet⟩

theorem of_error {e : Error} (h : Yields releasing bindings c (.error e : Except Error α) c') :
    Yields releasing bindings c (.error e : Except Error β) c' := by
  refine h.imp ?_
  rintro _ ⟨⟩
  rfl

theorem of_ok {a : α} (h : Yields releasing bindings c (.ok a : Except Error α) c')
    (y : Except Error β) : Yields releasing bindings c y c' := h.imp nofun

theorem map (h : Yields releasing bindings c x c') (f : α → β) :
    Yields releasing bindings c (x.map f) c' := by
  refine h.imp ?_
  rintro e rfl
  rfl

theorem andThen {a : α} (first : Yields releasing bindings c (.ok a : Except Error α) c')
    (second : Yields releasing bindings c' y c'') : Yields releasing bindings c y c'' := by
  obtain ⟨exchanges, follows, explained, quiet⟩ := first
  obtain ⟨more, follows', explained', quiet'⟩ := second
  refine ⟨_, follows.trans follows', explained.append explained' nofun, fun off => ?_⟩
  exact List.forall_mem_append.mpr ⟨quiet off, quiet' off⟩

end Connection.Yields

namespace Connection

theorem yields_run (releasing : Bool) (c : Connection) (method : String) (query bindings : Value)
    (among : method ∈ Connection.methods) :
    Yields releasing bindings c (c.run method query bindings).1 (c.run method query bindings).2 := by
  have other : method ≠ "options" ∧ method ≠ "clear_scroll" := by
    constructor <;> rintro rfl <;> simp [Connection.methods] at among
  cases named : parametersOf query with
  | error e =>
    simp only [run, named]
    exact ⟨[], .unsent c, .of_quiet rfl, by simp⟩
  | ok parameters =>
    rw [run_of_parameters c method bindings named]
    refine ⟨_, (Follows.refl c).ran ⟨method, parameters⟩ other.1 query bindings, ?_,
      fun _ => by simpa using other.2⟩
    intro exchange found
    cases answered : c.answer ⟨method, parameters⟩ with
    | value v => simp [cause, loud, answered] at found
    | refused r =>
      simp [cause, loud, answered, other.2] at found
      subst found
      exact ⟨_, rfl, .refused (failure_tells bindings r named)⟩
    | broken e =>
      simp [cause, loud, answered] at found
      subst found
      exact ⟨e, rfl, .broken _ e⟩

theorem yields_insert (c : Connection) (query bindings : Value) :
    Yields false bindings c (c.insert query bindings).1 (c.insert query bindings).2 := by
  have asked := yields_run false c "bulk" query bindings (by decide)
  unfold Connection.insert
  split
  · rename_i done
    rw [done] at asked
    exact asked.of_ok _
  · exact asked

theorem answer_release (c : Connection) (id : Value) :
    Follows c (c.sent (.release id)) [(.release id, c.answer (.release id))] :=
  (Follows.refl c).sent (.release id) (by simp)

/-- A release takes nothing from what was to be given, unless it fails in another way than by being
refused. -/
theorem Yields.released {α : Type} {bindings : Value} {c c' : Connection} {x : Except Error α}
    (h : Yields true bindings c x c') (id : Value) :
    Yields true bindings c ((c'.clearScroll id).1.bind fun _ => x) (c'.clearScroll id).2 := by
  obtain ⟨exchanges, follows, explained, -⟩ := h
  rw [clearScroll_eq]
  refine ⟨_, follows.trans (answer_release c' id), ?_, by simp⟩
  cases answered : c'.answer (.release id) with
  | value v | refused r =>
    exact explained.append (.of_quiet (by simp [cause, loud])) fun _ e failed => failed
  | broken e =>
    refine explained.append ?_ ?_
    · intro exchange found
      simp [cause, loud] at found
      subst found
      exact ⟨e, rfl, .broken _ e⟩
    · simp [cause, loud]

theorem yields_clearScroll (c : Connection) (id bindings : Value) :
    Yields true bindings c (c.clearScroll id).1 (c.clearScroll id).2 := by
  have start : Yields true bindings c (.ok () : Except Error Unit) c := .refl c _
  have cleared := start.released id
  cases done : (c.clearScroll id).1 <;> rw [done] at cleared <;> exact cleared

end Connection

section Steps

variable {bindings : Value} {c c' : Connection}

namespace Scroll

theorem yields_release {given : Pull} (h : Yields true bindings c given c') (id : Value) :
    Yields true bindings c (release c' id given).1 (release c' id given).2.2 := by
  have released := h.released id
  unfold release
  split <;> rename_i done <;> rw [done] at released <;> exact released

theorem yields_fetch (id timeout : Value) (limit : Option Int) (count : Nat) :
    Yields true .null c (fetch c id timeout limit count).1 (fetch c id timeout limit count).2.2 := by
  have asked := yields_run true c "scroll" (.map [("scroll_id", id), ("scroll", timeout)]) .null
    (by decide)
  unfold fetch
  split
  · rename_i done
    rw [done] at asked
    exact yields_release asked.of_error id
  · rename_i done
    rw [done] at asked
    split
    · exact yields_release (asked.of_ok _) _
    · exact yields_release (asked.of_ok _) _
    · exact asked.of_ok _

theorem yields_advance (id timeout : Value) (limit : Option Int) (count : Nat)
    (pending : List Value) :
    Yields true .null c (advance c id timeout limit count pending).1
      (advance c id timeout limit count pending).2.2 := by
  by_cases full : reached limit count = true
  · rw [advance_of_reached full]
    exact yields_release (.refl c _) id
  · cases pending with
    | nil =>
      rw [advance_nil full]
      exact yields_fetch id timeout limit count
    | cons hit rest =>
      rw [advance_cons full]
      exact .refl c _

theorem yields_next (s : Scroll) : Yields true .null c (s.next c).1 (s.next c).2.2 := by
  cases s with
  | fresh id timeout limit =>
    unfold Scroll.next
    dsimp only
    split
    · exact yields_advance _ _ _ _ _
    · exact yields_release (.refl c _) _
  | reading id timeout limit count pending => exact yields_advance id timeout limit count pending
  | finished => exact .refl c _

theorem yields_close (s : Scroll) : Yields true .null c (s.close c).1 (s.close c).2.2 := by
  cases s with
  | reading id timeout limit count pending => exact yields_clearScroll c id _
  | fresh | finished => exact .refl c _

end Scroll

namespace Cursor

theorem yields_release {given : Pull} (h : Yields true bindings c given c') (id : Value) :
    Yields true bindings c (release c' id given).1 (release c' id given).2.2 := by
  have released := h.released id
  unfold release
  split
  · split <;> rename_i done <;> rw [done] at released <;> exact released
  · exact h

theorem yields_nextFurther (scroll : Scroll) (skip consumed : Nat) (c : Connection) :
    Yields true .null c (nextFurther scroll skip consumed c).1
      (nextFurther scroll skip consumed c).2.2 := by
  -- each hit that is skipped was given without an error, so it takes nothing from what follows
  have step : ∀ {s d hit t e}, Yields true .null c (.ok none : Pull) d →
      Scroll.next s d = (.ok (some hit), t, e) → Yields true .null c (.ok none : Pull) e := by
    intro s d hit t e before given
    have pulled := Scroll.yields_next (c := d) s
    rw [given] at pulled
    exact before.andThen (pulled.of_ok _)
  obtain ⟨s, d, before, same⟩ := Scroll.nextBehind_eq_next
    (P := fun _ => Yields true .null c (.ok none : Pull)) step (skip - consumed) (.refl c _)
  have pulled := before.andThen (Scroll.yields_next s)
  rw [nextFurther_eq, same]
  generalize s.next d = given at pulled
  obtain ⟨e | _ | hit, scroll, c⟩ := given <;> exact pulled

theorem Turn.yields_take {id : Value} (turn : Turn id) (w : Window) (hadHits : Bool) :
    Yields true .null c (turn.take w hadHits c).1 (turn.take w hadHits c).2.2 := by
  cases turn with
  | gives hit consumed rest => exact .refl c _
  | ends => exact yields_release (.refl c _) id
  | fails e => exact yields_release (.refl c _) id
  | scrolls named skip consumed remaining => exact yields_nextFurther _ _ _ c

theorem yields_start (query : Value) :
    Yields true .null c (start query c).1 (start query c).2.2 := by
  obtain ⟨e, -, unasked⟩ | ⟨first, -, asked⟩ := start_cases query c
  · rw [unasked]
    exact .refl c _
  · have sought := yields_run true c "search" first.2 .null (by decide)
    rw [asked, select]
    generalize c.run "search" first.2 .null = r at sought
    obtain ⟨e | reply, d⟩ := r
    · exact sought.of_error
    · obtain ⟨e, -, unread⟩ | ⟨id, hits, turn, -, taken⟩ := opening_turn first.1 reply
      · rw [unread]
        exact sought.of_ok _
      · rw [taken]
        exact sought.andThen (turn.yields_take _ _)

theorem yields_next (s : Cursor) : Yields true .null c (s.next c).1 (s.next c).2.2 := by
  cases s with
  | fresh query => exact yields_start query
  | first id w hadHits consumed pending =>
    obtain ⟨turn, taken⟩ := nextFirst_turn id w hadHits consumed pending
    rw [next, taken]
    exact turn.yields_take w hadHits
  | further scroll skip consumed => exact yields_nextFurther scroll skip consumed c
  | finished => exact .refl c _

theorem yields_close (s : Cursor) : Yields true .null c (s.close c).1 (s.close c).2.2 := by
  cases s with
  | first id w hadHits consumed pending =>
    have start : Yields true .null c (.ok none : Pull) c := .refl c _
    have released := yields_release start id
    unfold close
    dsimp only
    split <;> rename_i done <;> rw [done] at released
    · exact released.of_ok _
    · exact released.of_error
  | further scroll skip consumed => exact scroll.yields_close
  | fresh | finished => exact .refl c _

end Cursor

end Steps

end DocumentSearch
