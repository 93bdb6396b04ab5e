import Mathlib.Data.List.Basic
import DocumentSearch.Proofs.Fluent.Rehoming
import DocumentSearch.Proofs.Matching.Kept
import DocumentSearch.Session.Fluent

/-!
# Bounds of ranges

A range is asked for with its two bounds, in whatever gives two items and is no text, and the first
of them is the lower one. Everything else is refused, and no clause is added. A table gives its
keys, so one with two keys passes for two bounds, although clauses themselves refuse tables.
-/
namespace DocumentSearch

open Outcome

namespace Value

/-- A value that gives just two items and is no text. -/
structure Pairs (v low high : Value) : Prop where
  items : v.items? = some [low, high]
  noText : ∀ s, v ≠ .str s
  noBytes : ∀ bs, v ≠ .bytes bs

theorem pairs_of_map? {v : Value} {entries : Entries} (table : v.map? = some entries) :
    (∃ low high, v.Pairs low high) ↔ entries.length = 2 := by
  have keys : v.items? = some entries.keys := by
    cases v with
    | map given =>
      cases table
      rfl
    | view part ref contents =>
      cases contents <;> cases table
      rfl
    | _ => cases table
  constructor
  · rintro ⟨low, high, pair⟩
    have two := congrArg List.length (Option.some.inj (keys.symm.trans pair.items))
    simpa [Table.keys] using two
  · intro two
    obtain ⟨p, q, rfl⟩ := List.length_eq_two.mp two
    refine ⟨p.1, q.1, keys, ?_, ?_⟩ <;>
      rintro given rfl <;> cases table

end Value

namespace Clause

theorem boundsOf_list {items : List Value} (other : ∀ low high, items ≠ [low, high]) :
    boundsOf (.list items) = .error (.invalidQuery (.notTwoBounds .between (.list items))) := by
  match items, other with
  | [], _ => rfl
  | [_], _ => rfl
  | [low, high], other => exact absurd rfl (other low high)
  | _ :: _ :: _ :: _, _ => rfl

end Clause

namespace Criterion

variable {store : Store} {self : Ref} {joins : Connective}
  {column values connective negated low high : Value}

/-- What is no text is read as the list of its items. -/
theorem boundsOf_spec (column values : Value) :
    boundsOf column values = .error (.invalidQuery (.rangeBounds column values)) ∨
      ∃ items, boundsOf column values = .ok (.list items) ∧
        ∀ low high, items = [low, high] → values.Pairs low high := by
  unfold boundsOf
  split
  · exact .inl rfl
  · exact .inl rfl
  · rename_i noText noBytes
    split
    · rename_i items given
      refine .inr ⟨items, rfl, ?_⟩
      rintro low high rfl
      exact ⟨given, noText, noBytes⟩
    · exact .inl rfl

theorem boundsOf_of_pairs (pair : values.Pairs low high) :
    boundsOf column values = .ok (.list [low, high]) := by
  unfold boundsOf
  split
  · exact absurd rfl (pair.noText _)
  · exact absurd rfl (pair.noBytes _)
  · rw [pair.items]

theorem clauses_of_pairs (connects : Clause.connectiveOf .between connective = .ok joins)
    (pair : values.Pairs low high) :
    (range column values connective negated).clauses store self =
      .ok [(.query, ⟨joins, negated, [], .between column low high⟩)] :=
  bind_eq_ok.mpr ⟨_, boundsOf_of_pairs pair,
    bind_eq_ok.mpr ⟨_, bind_eq_ok.mpr ⟨joins, connects, rfl⟩, rfl⟩⟩

theorem clauses_of_other (connects : Clause.connectiveOf .between connective = .ok joins)
    (other : ∀ low high, ¬values.Pairs low high) :
    ∃ fault, (range column values connective negated).clauses store self =
      .error (.invalidQuery fault) := by
  rcases boundsOf_spec column values with refused | ⟨items, read, pairs⟩
  · refine ⟨.rangeBounds column values, ?_⟩
    rw [clauses, refused]
    rfl
  · have refused := Clause.boundsOf_list fun low high two => other low high (pairs low high two)
    have unmade : Clause.between (joined connective negated) column (.list items) =
        .error (.invalidQuery (.notTwoBounds .between (.list items))) := by
      have connects : Clause.connectiveOf .between (joined connective negated).connective =
        .ok joins := connects
      rw [Clause.between, refused, Clause.make, connects]
      rfl
    refine ⟨.notTwoBounds .between (.list items), ?_⟩
    rw [clauses, read]
    change single (Clause.between (joined connective negated) column (.list items)) = _
    rw [unmade]
    rfl

end Criterion

/-- How a range is written: with both of its ends, or as the two rays from its ends outwards. -/
def Fragment.range (column low high : Value) : Bool → Entries
  | false => [("range", .map [(column, .map [("gte", low), ("lte", high)])])]
  | true => [("bool", .map [("should", .list
      [.map [("range", .map [(column, .map [("lte", low)])])],
        .map [("range", .map [(column, .map [("gte", high)])])]])])]

namespace Dialect

variable {d : Dialect} {store : Store} {column low high : Value} {f : Entries}

theorem between_eq_ok {outside : Bool} :
    d.between column low high [] outside = .ok f ↔
      ∃ key least most, column.asKey = .ok key ∧ low.convertDate d.datePattern = .ok least ∧
        high.convertDate d.datePattern = .ok most ∧ f = Fragment.range key least most outside := by
  simp only [between, bind_eq_ok, lift_eq_ok]
  constructor
  · rintro ⟨key, hk, least, hl, most, hm, h⟩
    refine ⟨key, least, most, hk, hl, hm, ?_⟩
    cases outside <;> exact (Except.ok.inj h).symm
  · rintro ⟨key, least, most, hk, hl, hm, rfl⟩
    refine ⟨key, hk, least, hl, most, hm, ?_⟩
    cases outside <;> rfl

end Dialect

namespace Edit

variable {store : Store} {self : Ref} {b : Builder} {criterion : Criterion} {c : Clause}
  {e : Error}
variable {kind : Value} {arguments : Arguments Value}

theorem criterion_single (made : criterion.clauses store self = .ok [(.query, c)]) :
    (Edit.criterion criterion).apply store self b = (.ok (), b.append .query [c]) := by
  rw [apply, made]
  rfl

theorem criterion_refused (refused : criterion.clauses store self = .error e) :
    (Edit.criterion criterion).apply store self b = (.error e, b) := by
  rw [apply, refused]
  rfl

theorem clausesOf_eq (read : criterionOf kind arguments = .ok criterion) :
    Builder.clausesOf store self kind arguments =
      criterion.clauses store self := by
  obtain ⟨known, named, read⟩ := bind_eq_ok.mp read
  rw [Builder.clausesOf, named]
  change (liftM ((Criterion.ofKind known).read arguments) : Except Error Criterion) >>= _ = _
  rw [read]
  rfl

theorem filter_single (read : criterionOf kind arguments = .ok criterion)
    (made : criterion.clauses store self = .ok [(.query, c)]) :
    (filter kind arguments "filter").apply store self b = (.ok (), b.append .filter [c]) := by
  have placed : b.filtered store self kind arguments "filter" = .ok (b.append .filter [c]) := by
    have added : Builder.clausesOf store self kind arguments = .ok [(.query, c)] :=
      (clausesOf_eq read).trans made
    exact bind_eq_ok.mpr ⟨.filter, rfl, bind_eq_ok.mpr ⟨_, added, rfl⟩⟩
  rw [apply, placed]
  rfl

theorem filter_refused (read : criterionOf kind arguments = .ok criterion)
    (refused : criterion.clauses store self = .error e) :
    (filter kind arguments "filter").apply store self b = (.error e, b) := by
  have unplaced : b.filtered store self kind arguments "filter" = .error e := by
    change Builder.clausesOf store self kind arguments >>= _ = _
    rw [clausesOf_eq read, refused]
    rfl
  rw [apply, unplaced]
  rfl

end Edit

namespace Session

open Criterion (range conjunction)

/-- The calls that ask for a range, with the bucket that they fill and whether they ask for what is
outside of it. -/
inductive RangeCall : String → Bucket → Bool → Prop
  | within : RangeCall "where_between" .query false
  | outside : RangeCall "where_not_between" .query true
  | filter : RangeCall "filter_where_between" .filter false

variable {method : String} {bucket : Bucket} {outside : Bool}

/-- A call for a range puts the clause of the range into its bucket, if there is one. -/
theorem edit_of_rangeCall (asks : RangeCall method bucket outside) (column values : Value) :
    ∃ signature edit, fluent? method = some signature ∧
      signature.read ⟨[.value column, .value values], []⟩ = .ok (.edit edit) ∧
      ∀ store self b,
        (∀ c, (range column values conjunction (.bool outside)).clauses store self =
            .ok [(.query, c)] →
          edit.apply store self b = (.ok (), b.append bucket [c])) ∧
        ∀ e, (range column values conjunction (.bool outside)).clauses store self = .error e →
          edit.apply store self b = (.error e, b) := by
  cases asks with
  | within | outside =>
    exact ⟨_, .criterion (range column values conjunction _), rfl, rfl, fun store self b =>
      ⟨fun c => Edit.criterion_single, fun e => Edit.criterion_refused⟩⟩
  | filter =>
    have read : Edit.criterionOf (.str ClauseKind.between.name) ⟨[column, values], []⟩ =
      .ok (range column values conjunction (.bool false)) := rfl
    exact ⟨_, .filter (.str ClauseKind.between.name) ⟨[column, values], []⟩ "filter", rfl, rfl,
      fun store self b => ⟨fun c => Edit.filter_single read, fun e => Edit.filter_refused read⟩⟩

/-- A call for a range is done just if it is given something that gives two items and is no text,
and these are its bounds, the first one the lower. Otherwise it is refused, and the builder stays as
it was. Tables are not excepted, so only a table with two keys passes for what it is not. -/
theorem rangeCall_accepts (asks : RangeCall method bucket outside) (store : Store) (self : Ref)
    (b : Builder) (column values : Value) :
    ∃ signature edit, fluent? method = some signature ∧
      signature.read ⟨[.value column, .value values], []⟩ = .ok (.edit edit) ∧
      (∀ low high, values.Pairs low high →
        let asked : Clause := ⟨.conjunction, .bool outside, [], .between column low high⟩
        edit.apply store self b = (.ok (), b.append bucket [asked]) ∧
        ∀ (d : Dialect) f, d.fragmentIn store asked = .ok f ↔ d.supports .between = true ∧
          ∃ key least most, column.asKey = .ok key ∧ low.convertDate d.datePattern = .ok least ∧
            high.convertDate d.datePattern = .ok most ∧
            f = Fragment.range key least most outside) ∧
      ((∀ low high, ¬values.Pairs low high) →
        ∃ fault, edit.apply store self b = (.error (.invalidQuery fault), b)) ∧
      (((edit.apply store self b).1 = .ok () ↔ values.map? = none ∧ ∃ low high, values.Pairs low high) ↔
        ∀ entries, values.map? = some entries → entries.length ≠ 2) := by
  obtain ⟨signature, edit, named, read, applied⟩ := edit_of_rangeCall asks column values
  obtain ⟨made, refused⟩ := applied store self b
  have connects : Clause.connectiveOf .between conjunction = .ok .conjunction := rfl
  have accepted : ∀ low high, values.Pairs low high → edit.apply store self b =
      (.ok (), b.append bucket [⟨.conjunction, .bool outside, [], .between column low high⟩]) :=
    fun low high pair => made _ (Criterion.clauses_of_pairs connects pair)
  have other : (∀ low high, ¬values.Pairs low high) →
      ∃ fault, edit.apply store self b = (.error (.invalidQuery fault), b) := by
    intro other
    obtain ⟨fault, failed⟩ := Criterion.clauses_of_other connects other
    exact ⟨fault, refused _ failed⟩
  refine ⟨signature, edit, named, read, fun low high pair => ?_, other, ?_⟩
  · refine ⟨accepted low high pair, fun d f => ?_⟩
    have written : d.fragmentIn store ⟨.conjunction, .bool outside, [], .between column low high⟩ =
        if d.supports .between then d.between column low high [] outside
        else .error (.unsupportedClause .between) := rfl
    rw [written, ← Dialect.between_eq_ok]
    cases d.supports .between <;> simp
  · have done : (edit.apply store self b).1 = .ok () ↔ ∃ low high, values.Pairs low high := by
      constructor
      · intro done
        by_contra none
        obtain ⟨fault, failed⟩ := other fun low high pair => none ⟨low, high, pair⟩
        rw [failed] at done
        cases done
      · rintro ⟨low, high, pair⟩
        rw [accepted low high pair]
    rw [done]
    cases table : values.map? with
    | none => simp
    | some entries => simp [Value.pairs_of_map? table]

/-- The keys of a table are taken for the bounds of an age. -/
theorem rangeCall_accepts_keys :
    let ages : Value := .map [("from", .int 18), ("to", .int 65)]
    let asked : Clause := ⟨.conjunction, .bool false, [], .between "age" "from" "to"⟩
    RangeCall "where_between" .query false ∧
    ∃ signature edit, fluent? "where_between" = some signature ∧
      signature.read ⟨[.value "age", .value ages], []⟩ = .ok (.edit edit) ∧
      edit.apply ⟨[]⟩ ⟨0⟩ (.blank "id") = (.ok (), (Builder.blank "id").append .query [asked]) ∧
      Dialect.standard.fragmentIn ⟨[]⟩ asked = .ok (Fragment.range "age" "from" "to" false) ∧
      ¬((edit.apply ⟨[]⟩ ⟨0⟩ (.blank "id")).1 = .ok () ↔
        ages.map? = none ∧ ∃ low high, ages.Pairs low high) := by
  intro ages asked
  obtain ⟨signature, edit, named, read, accepted, -, promised⟩ :=
    rangeCall_accepts .within ⟨[]⟩ ⟨0⟩ (.blank "id") "age" ages
  obtain ⟨applied, written⟩ := accepted "from" "to" ⟨rfl, nofun, nofun⟩
  refine ⟨.within, signature, edit, named, read, applied, ?_, fun kept => ?_⟩
  · exact (written .standard _).mpr ⟨rfl, "age", "from", "to", rfl, rfl, rfl, rfl⟩
  · exact promised.mp kept _ rfl rfl

end Session

end DocumentSearch
