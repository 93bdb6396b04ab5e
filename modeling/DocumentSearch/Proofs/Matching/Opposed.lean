import DocumentSearch.Proofs.Calendar.Stamp
import DocumentSearch.Proofs.Clause.Asked
import DocumentSearch.Proofs.Clause.Form
import DocumentSearch.Proofs.Matching.Fault
import DocumentSearch.Proofs.Matching.Negated

/-!
# Opposed comparisons

Comparing for another value denies comparing for the value, being among no values denies being
among them, and asking whether a field is missing denies asking whether it is there. In each of
these pairs both calls write the same fragment with the same options, and one of them denies it.
What is asked about no value in particular is asked about the presence of the field.
-/
namespace DocumentSearch

open Fragment Outcome

theorem Fragment.Complements.symm {f g : Entries} (h : Complements f g) : Complements g f :=
  fun Doc e doc => by rw [h Doc e doc, Bool.not_not]

theorem Fragment.complements_negatedIf (denied : Bool) (fragment : Entries) :
    Complements (negatedIf (!denied) fragment) (negatedIf denied fragment) := by
  cases denied with
  | false => exact complements_mustNot fragment
  | true => exact (complements_mustNot fragment).symm

/-- Two calls that write one fragment each, of which one matches exactly the documents that the
other does not match; options that cannot be read are refused in both. -/
def Fragment.Opposed (options : Entries) (one other : Except Error (List Entries)) : Prop :=
  (Readable options → ∃ f g, one = .ok [f] ∧ other = .ok [g] ∧ Complements f g) ∧
    (¬Readable options → (∃ e, one = .error e) ∧ ∃ e, other = .error e)

theorem Fragment.Opposed.symm {options : Entries} {one other : Except Error (List Entries)}
    (h : Opposed options one other) : Opposed options other one := by
  refine ⟨fun readable => ?_, fun unreadable => (h.2 unreadable).symm⟩
  obtain ⟨f, g, first, second, opposed⟩ := h.1 readable
  exact ⟨g, f, second, first, opposed.symm⟩

namespace Dialect

/-- Whether a value asks that a field is there: it counts as true, and is no date that is written as
an empty text. -/
def Affirms (d : Dialect) (v : Value) : Prop := v.truthy = true ∧ d.convert v ≠ .ok (.str "")

variable {d : Dialect} {options : Entries}

theorem truthy_of_sequence? {v : Value} {items : List Value} (h : v.sequence? = some items) :
    v.truthy = !items.isEmpty := by
  cases v with
  | view _ _ contents =>
    cases contents <;> simp_all [Value.sequence?, Value.seen, Value.truthy]
  | _ => simp_all [Value.sequence?, Value.seen, Value.truthy]

/-- Converting a value changes whether it counts as true only for a date that gets an empty text. -/
theorem affirms_iff {v converted : Value} (done : d.convert v = .ok converted) :
    d.Affirms v ↔ converted.truthy = true := by
  unfold Affirms
  rw [done, ne_eq, Except.ok.injEq]
  unfold convert Value.convertDates at done
  split at done
  · rename_i items sequence
    obtain ⟨written, each, done⟩ := bind_eq_ok.mp done
    obtain rfl := pure_eq_ok.mp done
    have empty : written = [] ↔ items = [] := mapM_eq_nil each
    rw [truthy_of_sequence? sequence]
    simp [Value.truthy, empty]
  · have text : ∀ w : Value, (∃ m, Value.dateText m d.datePattern = .ok w) →
        ((Value.str "").truthy = false ∧ ¬w = .str "" ↔ w.truthy = true) := by
      rintro w ⟨m, written⟩
      unfold Value.dateText at written
      split at written <;> cases written
      simp [Value.truthy]
    cases v with
    | date day => simpa [Value.truthy] using text converted ⟨_, done⟩
    | moment m => simpa [Value.truthy] using text converted ⟨_, done⟩
    | _ =>
      cases done
      simp [Value.truthy]

theorem affirms_default (suffix : Value) (unsupported : List ClauseKind) (v : Value) :
    Affirms ⟨suffix, .str Value.defaultDatePattern, unsupported⟩ v ↔ v.truthy = true := by
  refine ⟨And.left, fun truthy => ⟨truthy, fun empty => ?_⟩⟩
  unfold convert Value.convertDates at empty
  split at empty
  · obtain ⟨_, _, h⟩ := bind_eq_ok.mp empty
    cases h
  · cases v with
    | date day => simp [Value.convertDate, Value.dateText, Moment.format_default_ne_empty] at empty
    | moment m => simp [Value.convertDate, Value.dateText, Moment.format_default_ne_empty] at empty
    | str s =>
      cases empty
      cases truthy
    | _ => cases empty

/-! ## What the two calls share -/

variable {column : String} {operator : Operator} {value converted : Value}

theorem comparison_presence (done : d.convert value = .ok converted)
    (asks : converted.isNull = true ∨ operator = .exists) :
    d.comparison (.str column) operator value options false =
      negatedIf (operator.denies converted) <$>
        (liftM (withOptions [("exists", .map [("field", .str column)])] options) :
          Except Error Entries) := by
  unfold comparison
  rw [lift_eq_ok.mpr done]
  change (if converted.isNull || operator = .exists then _ else _) = _
  rw [if_pos (by simpa using asks), map_eq_pure_bind]
  congr 1
  funext fragment
  unfold Operator.denies
  split
  · rw [Bool.false_or]
  · rename_i compares
    have null : converted.isNull = true := asks.resolve_right compares
    rw [Bool.false_or, null, Bool.true_bne]

/-- A comparison for a value or for any other value. -/
theorem comparison_value (done : d.convert value = .ok converted)
    (some : converted.isNull = false) (plain : operator.rangeKey? = none)
    (compares : operator ≠ .exists) :
    d.comparison (.str column) operator value options false =
      negatedIf operator.negates <$>
        (liftM (withOptions [("term", .map [(.str column, converted)])] options) :
          Except Error Entries) := by
  have asks : ¬(converted.isNull || operator = .exists) = true := by simp [some, compares]
  unfold comparison
  rw [lift_eq_ok.mpr done]
  change (if converted.isNull || operator = .exists then _ else _) = _
  rw [if_neg asks, plain, map_eq_pure_bind]
  rfl

theorem among_eq {values : List Value} {items : Value} (done : d.convert (.list values) = .ok items)
    (negated : Bool) :
    d.among (.str column) values options negated =
      negatedIf negated <$>
        (liftM (withOptions [("terms", .map [(.str column, items)])] options) :
          Except Error Entries) := by
  unfold among
  rw [done, map_eq_pure_bind]
  rfl

/-- Both calls write a fragment of one form, and one of them denies it. -/
theorem opposed_of_form {kind : Value} {body : Entries} {one other : Except Error (List Entries)}
    (form : Form kind body) (denied : Bool)
    (first : one = (fun f => [f]) <$> negatedIf (!denied) <$>
      (liftM (withOptions [(kind, .map body)] options) : Except Error Entries))
    (second : other = (fun f => [f]) <$> negatedIf denied <$>
      (liftM (withOptions [(kind, .map body)] options) : Except Error Entries)) :
    Opposed options one other := by
  constructor
  · intro readable
    obtain ⟨changed, hits, written⟩ := form.written readable
    rw [written.eq_ok] at first second
    exact ⟨_, _, first, second, complements_negatedIf denied _⟩
  · intro unreadable
    cases written : withOptions [(kind, .map body)] options with
    | ok f => exact absurd (.of_withOptions written) unreadable
    | error e =>
      rw [written] at first second
      exact ⟨⟨_, first⟩, _, second⟩

theorem form_presence (column : String) : Form "exists" [("field", .str column)] :=
  .table (by decide) (by decide) _

section Calls

variable (suffix : Value) (pattern : String) (store : Store) (self : Ref) (options : Entries)
  (column : String)

/-- A dialect that writes all kinds of clauses, with a pattern for dates. -/
def writing (suffix : Value) (pattern : String) : Dialect := ⟨suffix, .str pattern, []⟩

theorem exists_written (v : Value) : ∃ w, (writing suffix pattern).convert v = .ok w :=
  exists_convert ⟨pattern, rfl⟩ v

theorem opposed_values (negative : Operator) (negates : negative.negates = true) (v : Value) :
    Opposed options
      ((fun f => [f]) <$> (writing suffix pattern).comparison (.str column) negative v options
        false)
      ((fun f => [f]) <$> (writing suffix pattern).comparison (.str column) .equal v options
        false) := by
  obtain ⟨w, done⟩ := exists_written suffix pattern v
  have plain : negative.rangeKey? = none ∧ negative ≠ .exists := by
    cases negative <;> first | exact ⟨rfl, by decide⟩ | cases negates
  cases null : w.isNull with
  | true =>
    refine opposed_of_form (form_presence column) true ?_ ?_
    · rw [comparison_presence done (.inl null)]
      simp [Operator.denies, plain.2, null, negates]
    · rw [comparison_presence done (.inl null)]
      simp [Operator.denies, null, Operator.negates]
  | false =>
    have form : Form "term" [(.str column, w)] := .value (by decide) (.str column) w
    refine opposed_of_form form false ?_ ?_
    · rw [comparison_value done null plain.1 plain.2, negates]
      rfl
    · rw [comparison_value done null rfl (by decide)]
      rfl

theorem opposed_presence {x y : Value} (affirms : (writing suffix pattern).Affirms x)
    (leaves : ¬(writing suffix pattern).Affirms y) :
    Opposed options
      ((fun f => [f]) <$> (writing suffix pattern).comparison (.str column) .exists x options false)
      ((fun f => [f]) <$> (writing suffix pattern).comparison (.str column) .exists y options
        false) := by
  obtain ⟨w, first⟩ := exists_written suffix pattern x
  obtain ⟨u, second⟩ := exists_written suffix pattern y
  have true : w.truthy = true := (affirms_iff first).mp affirms
  have false : u.truthy = false := by simpa using mt (affirms_iff second).mpr leaves
  refine opposed_of_form (form_presence column) Bool.true ?_ ?_
  · rw [comparison_presence first (.inr rfl)]
    simp [Operator.denies, true]
  · rw [comparison_presence second (.inr rfl)]
    simp [Operator.denies, false]

theorem comparison_absent {x : Value} (leaves : ¬(writing suffix pattern).Affirms x) :
    (writing suffix pattern).comparison (.str column) .exists x options false =
      (writing suffix pattern).comparison (.str column) .equal .null options false := by
  obtain ⟨w, done⟩ := exists_written suffix pattern x
  have false : w.truthy = false := by simpa using mt (affirms_iff done).mpr leaves
  have null : (writing suffix pattern).convert .null = .ok .null := rfl
  rw [comparison_presence done (.inr rfl), comparison_presence null (.inl rfl)]
  simp [Operator.denies, false, Value.isNull, Operator.negates]

theorem comparison_present {x : Value} (affirms : (writing suffix pattern).Affirms x) :
    (writing suffix pattern).comparison (.str column) .exists x options false =
      (writing suffix pattern).comparison (.str column) .unequal .null options false := by
  obtain ⟨w, done⟩ := exists_written suffix pattern x
  have true : w.truthy = Bool.true := (affirms_iff done).mp affirms
  have null : (writing suffix pattern).convert .null = .ok .null := rfl
  rw [comparison_presence done (.inr rfl), comparison_presence null (.inl rfl)]
  simp [Operator.denies, true, Value.isNull, Operator.negates]

theorem opposed_among (values : List Value) :
    Opposed options
      ((fun f => [f]) <$> (writing suffix pattern).among (.str column) values options true)
      ((fun f => [f]) <$> (writing suffix pattern).among (.str column) values options false) := by
  obtain ⟨w, done⟩ := exists_written suffix pattern (.list values)
  have form : Form "terms" [(.str column, w)] := .table (by decide) (by decide) _
  exact opposed_of_form form false (by rw [among_eq done]; rfl) (by rw [among_eq done])

/-! ## The calls -/

theorem sequenceOf_eq_ok {kind : ClauseKind} {values : Value} {items : List Value}
    (h : values.sequence? = some items) : Clause.sequenceOf kind values = .ok items := by
  cases values with
  | view _ _ contents =>
    cases contents <;>
      simp_all [Value.sequence?, Value.seen, Clause.sequenceOf, Value.items?]
  | _ => simp_all [Value.sequence?, Value.seen, Clause.sequenceOf, Value.items?]

theorem clausesOf_among {values : Value} {items : List Value}
    (h : values.sequence? = some items) :
    Builder.clausesOf store self (.str ClauseKind.among.name) ⟨[.str column, values], []⟩ =
      .ok [(.query, ⟨.conjunction, .bool false, [], .among (.str column) items⟩)] := by
  change Criterion.single
    (Clause.among (Criterion.plainly Criterion.conjunction) (.str column) values) = _
  unfold Clause.among
  rw [sequenceOf_eq_ok h]
  rfl

theorem clausesOf_notAmong {values : Value} {items : List Value}
    (h : values.sequence? = some items) :
    Builder.clausesOf store self (.str ClauseKind.notAmong.name) ⟨[.str column, values], []⟩ =
      .ok [(.query, ⟨.conjunction, .bool false, [], .notAmong (.str column) items⟩)] := by
  change Criterion.single
    (Clause.notAmong (Criterion.plainly Criterion.conjunction) (.str column) values) = _
  unfold Clause.notAmong
  rw [sequenceOf_eq_ok h]
  rfl

end Calls

/-- Each negative call is opposed to its positive one, with any options: a comparison for any other
value in both spellings, membership, and presence. What has no value is asked for in three ways that
are written the same, and so is what has one. -/
theorem calls_opposed (suffix : Value) (pattern : String) (store : Store) (self : Ref)
    (options : Entries) (column : String) :
    let d := writing suffix pattern
    let call := d.fragmentsWith store self options
    (∀ v, Opposed options (call .basic [column, "!=", v]) (call .basic [column, "=", v]) ∧
      Opposed options (call .basic [column, "<>", v]) (call .basic [column, "=", v])) ∧
    (∀ values items, values.sequence? = some items →
      Opposed options (call .notAmong [column, values]) (call .among [column, values])) ∧
    Opposed options (call .present [column]) (call .absent [column]) ∧
    (∀ x y, d.Affirms x → ¬d.Affirms y →
      Opposed options (call .basic [column, "exists", x]) (call .basic [column, "exists", y]) ∧
      Opposed options (call .basic [column, "exists", y]) (call .basic [column, "exists", x])) ∧
    (∀ x, ¬d.Affirms x → call .basic [column, .null] = call .absent [column] ∧
      call .basic [column, "exists", x] = call .absent [column]) ∧
    (∀ x, d.Affirms x → call .basic [column, "!=", .null] = call .present [column] ∧
      call .basic [column, "exists", x] = call .present [column]) ∧
    (pattern = Value.defaultDatePattern → ∀ v, d.Affirms v ↔ v.truthy = true) := by
  intro d call
  have written : ∀ kind arguments condition,
      Builder.clausesOf store self (.str kind.name) ⟨arguments, []⟩ =
          .ok [(.query, ⟨.conjunction, .bool false, [], condition⟩)] →
        call kind arguments = (fun f => [f]) <$>
          d.conditionFragment (fun ref => d.conditions store (store.get ref)) options false
            condition :=
    fun _ _ _ h => fragmentsWith_single h
  have compared : ∀ operator : Operator, ∀ v,
      call .basic [column, operator.text, v] = (fun f => [f]) <$>
        d.comparison (.str column) operator v options false := by
    intro operator v
    exact written _ _ (.basic (.str column) operator v) (by cases operator <;> rfl)
  have absent : call .absent [column] = (fun f => [f]) <$>
      d.comparison (.str column) .equal .null options false :=
    written _ _ (.absent (.str column)) rfl
  have present : call .present [column] = (fun f => [f]) <$>
      d.comparison (.str column) .unequal .null options false :=
    written _ _ (.present (.str column)) rfl
  refine ⟨fun v => ⟨?_, ?_⟩, fun values items sequence => ?_, ?_, fun x y affirms leaves => ?_,
    fun x leaves => ⟨?_, ?_⟩, fun x affirms => ⟨?_, ?_⟩, ?_⟩
  · exact compared .unequal v ▸ compared .equal v ▸
      opposed_values suffix pattern options column .unequal rfl v
  · exact compared .unequalAngled v ▸ compared .equal v ▸
      opposed_values suffix pattern options column .unequalAngled rfl v
  · rw [show call .notAmong [column, values] = _ from
        written _ _ _ (clausesOf_notAmong store self column sequence),
      show call .among [column, values] = _ from
        written _ _ _ (clausesOf_among store self column sequence)]
    exact opposed_among suffix pattern options column items
  · exact present ▸ absent ▸ opposed_values suffix pattern options column .unequal rfl .null
  · have opposed := opposed_presence suffix pattern options column affirms leaves
    rw [← compared .exists x, ← compared .exists y] at opposed
    exact ⟨opposed, opposed.symm⟩
  · rw [absent]
    exact written _ _ (.basic (.str column) .equal .null) rfl
  · rw [absent, ← comparison_absent suffix pattern options column leaves]
    exact compared .exists x
  · rw [present]
    exact compared .unequal .null
  · rw [present, ← comparison_present suffix pattern options column affirms]
    exact compared .exists x
  · rintro rfl
    exact affirms_default suffix []

/-- Being among no values at all and asking for a field with a boost. -/
theorem calls_opposed_boosted :
    let call := (writing "" Value.defaultDatePattern).fragmentsWith .empty ⟨0⟩ [("boost", .int 2)]
    (∃ f g, call .notAmong ["tag", .list []] = .ok [f] ∧ call .among ["tag", .list []] = .ok [g] ∧
      Complements f g) ∧
    ∃ f g, call .basic ["tag", "exists", "x"] = .ok [f] ∧
      call .basic ["tag", "exists", .null] = .ok [g] ∧ Complements f g := by
  intro call
  obtain ⟨-, among, -, presence, -, -, affirms⟩ :=
    calls_opposed "" Value.defaultDatePattern .empty ⟨0⟩ [("boost", .int 2)] "tag"
  have readable : Readable [("boost", .int 2)] := by
    simp [Readable, Table.find?_cons]
  have asked : (writing "" Value.defaultDatePattern).Affirms "x" := (affirms rfl "x").mpr rfl
  have left : ¬(writing "" Value.defaultDatePattern).Affirms .null :=
    mt (affirms rfl .null).mp (by decide)
  exact ⟨(among (.list []) [] rfl).1 readable, (presence "x" .null asked left).1.1 readable⟩

/-- With a pattern for nothing but the name of the zone, a plain date is written as an empty text.
The date counts as true, but the field is asked to be missing, as with no value at all. -/
theorem calls_not_opposed_unzoned :
    let call := (writing "" "%Z").fragmentsWith .empty ⟨0⟩ [] .basic
    let day : Value := .date ⟨2024, 1, 2, by decide, by decide, by decide⟩
    day.truthy = true ∧ Value.null.truthy = false ∧
      call ["tag", "exists", day] = .ok [mustNot [("exists", .map [("field", "tag")])]] ∧
      ¬Opposed [] (call ["tag", "exists", day]) (call ["tag", "exists", .null]) := by
  intro call day
  have written : call ["tag", "exists", day] =
      .ok [mustNot [("exists", .map [("field", "tag")])]] := rfl
  have missing : call ["tag", "exists", .null] =
      .ok [mustNot [("exists", .map [("field", "tag")])]] := rfl
  refine ⟨rfl, rfl, written, fun opposed => ?_⟩
  obtain ⟨f, g, first, second, complements⟩ := opposed.1 nofun
  cases written.symm.trans first
  cases missing.symm.trans second
  exact not_complements_self _ complements

end Dialect

end DocumentSearch
