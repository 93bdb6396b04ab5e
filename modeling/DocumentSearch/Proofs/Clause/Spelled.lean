import DocumentSearch.Proofs.Clause.Carried
import DocumentSearch.Proofs.Clause.Dated
import DocumentSearch.Proofs.Heap.Look

/-!
# Dates in written clauses

Each kind of clause converts the values that it writes by itself, and only as deep as converting
goes: an item of a list of values is reached, an item of an item is not. The text of a prefix and
the arguments of a score are not converted at all. A condition with no builder inside it is written
with a date just if it has one where its kind does not reach. A condition on a builder has its dates
from the buckets that it takes.
-/
namespace DocumentSearch

open Fragment Outcome

namespace Condition

/-- Whether a condition has a date that is written as it is. A value that is only asked to be there
is not written at all. -/
def leavesDate : Condition → Bool
  | basic _ operator value => operator ≠ .exists && value.hides
  | date _ operator value =>
    if operator = .equal then value.buries else operator ≠ .exists && value.hides
  | among _ values | notAmong _ values => values.any Value.buries
  | between _ low high => low.buries || high.buries
  | startsWith _ value => value.dated
  | script _ (.map params) _ => params.any fun p => p.1.dated || p.2.hides
  | functionScore _ arguments => arguments.dated
  | _ => false

/-- A condition that has dates in its values only: among what it compares, in the text of a prefix,
in the parameters of a script and in the arguments of a score, which are tables. -/
def Settled : Condition → Prop
  | basic column _ _ | date column _ _ | among column _ | notAmong column _ | between column _ _
  | absent column | present column | startsWith column _ | nestedDocument column _ =>
    column.dated = false
  | geoDistance column location distance =>
    column.dated = false ∧ location.dated = false ∧ distance.dated = false
  | geoBounds column bounds => column.dated = false ∧ bounds.dated = false
  | search text fields matchType fuzziness _ =>
    text.dated = false ∧ fields.dated = false ∧ matchType.dated = false ∧ fuzziness.dated = false
  | parent documentType _ | child documentType _ => documentType.dated = false
  | parentId relationType id => relationType.dated = false ∧ id.dated = false
  | script source params lang =>
    source.dated = false ∧ lang.dated = false ∧ (params = .null ∨ ∃ entries, params = .map entries)
  | functionScore functionType arguments =>
    functionType.dated = false ∧ ∃ entries, arguments = .map entries
  | group _ _ | negation _ => True

end Condition

theorem Fragment.dated_negatedIf (negated : Bool) (fragment : Entries) :
    (Value.map (negatedIf negated fragment)).dated = (Value.map fragment).dated := by
  cases negated with
  | false => rfl
  | true => simp [negatedIf, mustNot, Value.dated]

namespace Dialect

variable {d : Dialect} {sub : Ref → Except Error Conditions} {pattern : String}
  {options f plain : Entries} {negated : Bool}

/-! ## One condition without options -/

theorem plain_eq_ok {fragment : Entries} :
    ((liftM (withOptions fragment []) : Except Error Entries) >>= fun written =>
        pure (negatedIf negated written)) = .ok plain ↔ plain = negatedIf negated fragment := by
  rw [withOptions_nil]
  exact ⟨fun h => (Except.ok.inj h).symm, fun h => congrArg Except.ok h.symm⟩

section Plain

variable (spells : d.datePattern = .str pattern)

include spells

theorem dated_of_convert {value converted : Value} (done : d.convert value = .ok converted) :
    converted.dated = value.hides := by
  rw [convert, spells] at done
  exact Value.dated_convertDates done

theorem dated_comparison {column value : Value} {operator : Operator}
    (clear : column.dated = false)
    (h : d.comparison column operator value [] negated = .ok plain) :
    (Value.map plain).dated = (operator ≠ .exists && value.hides) := by
  obtain ⟨converted, done, h⟩ := bind_eq_ok.mp h
  have dates : converted.dated = value.hides := dated_of_convert spells (lift_eq_ok.mp done)
  split at h
  · rename_i presence
    obtain rfl := plain_eq_ok.mp h
    rw [dated_negatedIf]
    by_cases asked : operator = .exists
    · simp [asked, clear, Value.dated]
    · have null : converted.isNull = true := by simpa [asked] using presence
      have none : value.hides = false := by
        rw [← dates]
        cases converted <;> first | rfl | cases null
      simp [none, clear, Value.dated]
  · rename_i compared
    have shown : operator ≠ .exists := by
      rintro rfl
      simp at compared
    simp only [shown, ne_eq, not_false_eq_true, decide_true, Bool.true_and, ← dates]
    dsimp only at h
    -- a range and a term differ only in what stands around the value
    split at h
    all_goals
      obtain ⟨fragment, keyed, h⟩ := bind_eq_ok.mp h
      obtain rfl := Engine.keyed_eq_ok (lift_eq_ok.mp keyed)
      obtain rfl := plain_eq_ok.mp h
      rw [dated_negatedIf]
      simp [clear, Value.dated]

theorem dated_between {column low high : Value} (clear : column.dated = false)
    (h : d.between column low high [] negated = .ok plain) :
    (Value.map plain).dated = (low.buries || high.buries) := by
  simp only [between, bind_eq_ok, lift_eq_ok, spells] at h
  obtain ⟨key, isKey, first, lowDone, last, highDone, h⟩ := h
  obtain rfl := Engine.asKey_eq_ok isKey
  rw [← Value.dated_convertDate lowDone, ← Value.dated_convertDate highDone]
  split at h
  · obtain rfl := pure_eq_ok.mp h
    simp [clear, Value.dated]
  · rw [withOptions_nil] at h
    obtain rfl := Except.ok.inj h
    simp [clear, Value.dated]

theorem dated_among {column : Value} {values : List Value} (clear : column.dated = false)
    (h : d.among column values [] negated = .ok plain) :
    (Value.map plain).dated = values.any Value.buries := by
  obtain ⟨converted, done, h⟩ := bind_eq_ok.mp h
  obtain ⟨terms, single, h⟩ := bind_eq_ok.mp h
  obtain rfl := Engine.single_eq_ok (lift_eq_ok.mp single)
  obtain rfl := plain_eq_ok.mp h
  have dates := dated_of_convert spells (lift_eq_ok.mp done)
  rw [dated_negatedIf]
  simp [clear, Value.dated, dates, Value.hides, Value.sequence?, Value.seen]

theorem dated_convertValues {entries written : Entries}
    (h : d.convertValues entries = .ok written) :
    (Value.map written).dated = entries.any fun p => p.1.dated || p.2.hides := by
  induction entries generalizing written with
  | nil =>
    obtain rfl := pure_eq_ok.mp h
    rfl
  | cons p entries ih =>
    obtain ⟨q, rest, first, more, rfl⟩ := mapM_cons_eq_ok.mp h
    obtain ⟨converted, done, first⟩ := bind_eq_ok.mp first
    obtain rfl := pure_eq_ok.mp first
    have rest := ih more
    rw [Value.dated_map] at rest ⊢
    rw [List.any_cons, List.any_cons, rest, dated_of_convert spells done]

theorem dated_paramsEntry {source params lang : Value} {laid : Entries}
    (table : params = .null ∨ ∃ entries, params = .map entries)
    (h : d.paramsEntry params = .ok laid) :
    (Value.map laid).dated = (Condition.script source params lang).leavesDate := by
  obtain rfl | ⟨entries, rfl⟩ := table
  · obtain rfl := Except.ok.inj h
    rfl
  · cases entries with
    | nil =>
      obtain rfl := Except.ok.inj h
      rfl
    | cons p entries =>
      obtain ⟨params, read, h⟩ := bind_eq_ok.mp h
      obtain rfl := Except.ok.inj read
      obtain ⟨written, done, h⟩ := bind_eq_ok.mp h
      obtain rfl := pure_eq_ok.mp h
      have dates := dated_convertValues spells done
      rw [Value.dated_map] at dates
      simp [Value.dated, dates, Condition.leavesDate]

theorem dated_script {source params lang : Value} (sourceClear : source.dated = false)
    (langClear : lang.dated = false) (table : params = .null ∨ ∃ entries, params = .map entries)
    (h : d.script source params lang = .ok plain) :
    (Value.map plain).dated = (Condition.script source params lang).leavesDate := by
  obtain ⟨laid, done, h⟩ := bind_eq_ok.mp h
  obtain rfl := pure_eq_ok.mp h
  have params : (Value.map laid).dated = (Condition.script source params lang).leavesDate :=
    dated_paramsEntry spells table (lift_eq_ok.mp done)
  rw [← params]
  split <;> simp [Value.dated, sourceClear, langClear]

end Plain

theorem undated_searchFields {fields : Value} {chosen : List Value} (clear : fields.dated = false)
    (h : searchFields fields = .ok chosen) : ∀ field ∈ chosen, field.dated = false := by
  have seen : fields.seen.dated = false := by
    cases fields <;> exact clear
  unfold searchFields at h
  split at h
  · cases h
    exact nofun
  · split at h
    · cases h
      intro field mem
      obtain ⟨_, -, rfl⟩ := List.mem_map.mp mem
      rfl
    · cases h
      exact List.forall_mem_singleton.mpr rfl
    · intro field mem
      have listed : fields.seen.items? = some chosen := by
        unfold Value.items at h
        split at h <;> cases h
        assumption
      refine Bool.eq_false_iff.mpr fun has => ?_
      rw [Value.dated_of_items? _ listed mem has] at seen
      cases seen

theorem undated_textMatch {text fields matchType fuzziness : Value} (textClear : text.dated = false)
    (fieldsClear : fields.dated = false) (typeClear : matchType.dated = false)
    (fuzzinessClear : fuzziness.dated = false)
    (h : textMatch text fields matchType fuzziness = .ok f) : (Value.map f).dated = false := by
  have fuzzy : (Value.map (fuzzinessEntry fuzziness)).dated = false := by
    unfold fuzzinessEntry
    split <;> simp [Value.dated, fuzzinessClear]
  rw [Value.dated_map] at fuzzy
  obtain ⟨chosen, read, h⟩ := bind_eq_ok.mp h
  have clear := undated_searchFields fieldsClear read
  split at h
  · rename_i field
    obtain ⟨body, single, h⟩ := bind_eq_ok.mp h
    obtain rfl := pure_eq_ok.mp h
    obtain rfl := Engine.single_eq_ok single
    have named : field.dated = false := clear field List.mem_cons_self
    simp [Value.dated, named, textClear, fuzzy]
  · obtain rfl := pure_eq_ok.mp h
    have typed : (matchType.orElse "most_fields").dated = false := by
      unfold Value.orElse
      split
      · exact typeClear
      · rfl
    have listed : chosen.any Value.dated = false := by
      simpa [List.any_eq_false] using clear
    split <;> simp [Value.dated, textClear, typed, listed, fuzzy]

theorem undated_geoDistance {column location distance : Value}
    (settled : (Condition.geoDistance column location distance).Settled)
    (h : d.conditionFragment sub [] negated (.geoDistance column location distance) = .ok plain) :
    (Value.map plain).dated = false := by
  obtain ⟨columnClear, locationClear, distanceClear⟩ := settled
  obtain ⟨far, single, h⟩ := bind_eq_ok.mp h
  obtain ⟨place, single', h⟩ := bind_eq_ok.mp h
  obtain rfl := pure_eq_ok.mp h
  obtain rfl := Engine.single_eq_ok (lift_eq_ok.mp single)
  obtain rfl := Engine.single_eq_ok (lift_eq_ok.mp single')
  have body : (Value.map (Table.update [("distance", distance)] [(column, location)])).dated =
      false := by
    refine Bool.eq_false_iff.mpr fun has => ?_
    have either := Table.dated_update has
    simp [Value.dated, columnClear, locationClear, distanceClear] at either
  rw [dated_negatedIf, Value.dated_map]
  simp only [List.any_cons, List.any_nil, body]
  rfl

/-- Without options, and with no builder inside it, a condition is written with a date just if it
leaves one. -/
theorem dated_plain (spells : d.datePattern = .str pattern) {c : Condition} (settled : c.Settled)
    (own : c.query? = none) (h : d.conditionFragment sub [] negated c = .ok plain) :
    (Value.map plain).dated = c.leavesDate := by
  cases c with
  | basic column operator value => exact dated_comparison spells settled h
  | date column operator value =>
    simp only [conditionFragment] at h
    simp only [Condition.leavesDate]
    split at h <;> rename_i compared
    · rw [if_pos compared, dated_between spells settled h, Bool.or_self]
    · rw [if_neg compared, dated_comparison spells settled h]
  | among column values => exact dated_among spells settled h
  | notAmong column values => exact dated_among spells settled h
  | between column low high => exact dated_between spells settled h
  | absent column => exact dated_comparison spells settled h
  | present column => exact dated_comparison spells settled h
  | geoDistance column location distance => exact undated_geoDistance settled h
  | geoBounds column bounds =>
    obtain ⟨columnClear, boundsClear⟩ := settled
    obtain ⟨body, single, h⟩ := bind_eq_ok.mp h
    obtain rfl := pure_eq_ok.mp h
    obtain rfl := Engine.single_eq_ok (lift_eq_ok.mp single)
    rw [dated_negatedIf]
    simp [Value.dated, columnClear, boundsClear, Condition.leavesDate]
  | search text fields matchType fuzziness constantScore =>
    obtain ⟨textClear, fieldsClear, typeClear, fuzzinessClear⟩ := settled
    obtain ⟨matched, done, h⟩ := bind_eq_ok.mp h
    have clear := undated_textMatch textClear fieldsClear typeClear fuzzinessClear
      (lift_eq_ok.mp done)
    obtain rfl := plain_eq_ok.mp h
    rw [dated_negatedIf]
    split
    · simpa [Value.dated, Condition.leavesDate] using clear
    · exact clear
  | parentId relationType id =>
    obtain ⟨typeClear, idClear⟩ := settled
    obtain rfl := Except.ok.inj h
    simp [Value.dated, typeClear, idClear, Condition.leavesDate]
  | startsWith column value =>
    have clear : column.dated = false := settled
    obtain ⟨body, single, h⟩ := bind_eq_ok.mp h
    obtain rfl := Engine.single_eq_ok (lift_eq_ok.mp single)
    obtain rfl := plain_eq_ok.mp h
    rw [dated_negatedIf]
    simp [Value.dated, clear, Condition.leavesDate]
  | script source params lang =>
    obtain ⟨sourceClear, langClear, table⟩ := settled
    exact dated_script spells sourceClear langClear table h
  | functionScore functionType arguments =>
    obtain ⟨typeClear, entries, rfl⟩ := settled
    obtain ⟨read, given, h⟩ := bind_eq_ok.mp h
    obtain rfl := Except.ok.inj given
    obtain ⟨body, single, h⟩ := bind_eq_ok.mp h
    obtain rfl := pure_eq_ok.mp h
    obtain rfl := Engine.single_eq_ok (lift_eq_ok.mp single)
    simp [Value.dated, typeClear, Condition.leavesDate]
  | group | nestedDocument | negation | parent | child => cases own

/-! ## Options -/

/-- A fragment in which options displace no entry, denied or not. -/
def Roomy (options plain : Entries) : Prop :=
  ∀ denied core, plain = negatedIf denied core → Spares options core

/-- Options bring no date into what a condition writes, and displace none where they have room. -/
theorem dated_optioned {c : Condition} (own : c.query? = none)
    (h : d.conditionFragment sub options negated c = .ok f) :
    ∃ plain, d.conditionFragment sub [] negated c = .ok plain ∧
      ((Value.map options).dated = false → (Value.map f).dated = true →
        (Value.map plain).dated = true) ∧
      (Roomy options plain → (Value.map plain).dated = true → (Value.map f).dated = true) := by
  cases takes : c.takesOptions negated with
  | false =>
    exact ⟨f, conditionFragment_skips takes options ▸ h, fun _ has => has, fun _ has => has⟩
  | true =>
    have lays : Lays (d.conditionFragment sub · negated c) :=
      lays_conditionFragment takes fun ref part inner group => by
        rw [group] at own
        cases own
    obtain ⟨denied, kind, body, form, written⟩ := lays options f h
    have whole : d.conditionFragment sub [] negated c =
        .ok (negatedIf denied [(kind, .map body)]) := written []
    have laid := (written options).symm.trans h
    cases done : withOptions [(kind, .map body)] options with
    | error e =>
      rw [done] at laid
      cases laid
    | ok w =>
      rw [done] at laid
      obtain rfl : negatedIf denied w = f := Except.ok.inj laid
      refine ⟨_, whole, fun clear has => ?_, fun room has => ?_⟩
      · rw [dated_negatedIf] at has ⊢
        exact (dated_withOptions done has).resolve_right (by simp [clear])
      · rw [dated_negatedIf] at has ⊢
        obtain ⟨other, again, carries⟩ := form.carries (.of_withOptions done)
        cases done.symm.trans again
        have back := (carries.mpr (room denied _ rfl)).back
        exact dated_without (back ▸ has)

/-! ## Conditions on builders -/

section Inside

variable {inner : Conditions} {b : Builder}

theorem dated_orMatchAll {first second : Entries}
    (has : (Value.map (orMatchAll first second)).dated = true) :
    (Value.map first).dated = true ∨ (Value.map second).dated = true := by
  unfold orMatchAll at has
  split at has
  · exact .inl has
  · split at has
    · exact .inr has
    · cases has

theorem dated_queryWithFilter {query filter : Entries}
    (has : (Value.map (queryWithFilter query filter)).dated = true) :
    (Value.map query).dated = true ∨ (Value.map filter).dated = true := by
  unfold queryWithFilter at has
  split at has
  · simpa [Value.dated] using has
  · exact dated_orMatchAll has

theorem firstPart_leads (filled : ∀ k, inner.part k = [] ↔ b.bucket k = []) :
    ∃ k, b.Leads k ∧ inner.firstPart = inner.part k := by
  have query := filled .query
  have filter := filled .filter
  simp only [Conditions.part, Builder.bucket] at query filter
  unfold Conditions.firstPart
  split
  · exact ⟨.query, trivial, rfl⟩
  · rename_i noQuery
    split
    · exact ⟨.filter, query.mp (by simpa using noQuery), rfl⟩
    · rename_i noFilter
      exact ⟨.postFilter, ⟨query.mp (by simpa using noQuery), filter.mp (by simpa using noFilter)⟩,
        rfl⟩

theorem before_of_dated
    (has : (Value.map inner.query).dated = true ∨ (Value.map inner.filter).dated = true) :
    ∃ k : Bucket, k ≠ .postFilter ∧ (Value.map (inner.part k)).dated = true :=
  has.elim (fun query => ⟨.query, by decide, query⟩) fun filter => ⟨.filter, by decide, filter⟩

theorem inside_of_group {name : Value} (clear : (Value.map options).dated = false)
    (filled : ∀ k, inner.part k = [] ↔ b.bucket k = []) (h : group inner name options = .ok f)
    (has : (Value.map f).dated = true) :
    ∃ k, (partOf name = .ok (some k) ∨ partOf name = .ok none ∧ b.Leads k) ∧
      (Value.map (inner.part k)).dated = true := by
  obtain ⟨named, read, h⟩ := bind_eq_ok.mp h
  have read := lift_eq_ok.mp read
  have written : ∀ fragment : Entries,
      (if fragment.isEmpty then return matchAll else withOptions fragment options :
        Except Error Entries) = .ok f → (Value.map fragment).dated = true := by
    intro fragment h
    split at h
    · cases h
      cases has
    · exact (dated_withOptions (lift_eq_ok.mp h) has).resolve_right (by simp [clear])
  cases named with
  | some k => exact ⟨k, .inl read, written (inner.part k) h⟩
  | none =>
    obtain ⟨k, leads, first⟩ := firstPart_leads filled
    exact ⟨k, .inr ⟨read, leads⟩, first ▸ written inner.firstPart h⟩

theorem inside_of_relation {j : Joint} {kind : ClauseKind} {documentType : Value}
    (clear : (Value.map options).dated = false) (typeClear : documentType.dated = false)
    (h : relation kind j.names.1 j.names.2 documentType inner options negated = .ok f)
    (has : (Value.map f).dated = true) :
    ∃ k : Bucket, k ≠ .postFilter ∧ (Value.map (inner.part k)).dated = true := by
  simp only [relation, unless_eq_ok, bind_eq_ok, lift_eq_ok, pure_eq_ok] at h
  obtain ⟨-, fragment, done, rfl⟩ := h
  rw [dated_negatedIf] at has
  have laid := (dated_withOptions done has).resolve_right (by simp [clear])
  refine before_of_dated (dated_orMatchAll ?_)
  simpa [Value.dated, typeClear] using laid

theorem inside_of_nestedDocument {column : Value} (clear : (Value.map options).dated = false)
    (columnClear : column.dated = false)
    (h : nestedDocument column inner options negated = .ok f) (has : (Value.map f).dated = true) :
    ∃ k : Bucket, k ≠ .postFilter ∧ (Value.map (inner.part k)).dated = true := by
  simp only [nestedDocument, unless_eq_ok, bind_eq_ok, lift_eq_ok, pure_eq_ok] at h
  obtain ⟨-, fragment, done, rfl⟩ := h
  rw [dated_negatedIf] at has
  have laid := (dated_withOptions done has).resolve_right (by simp [clear])
  refine before_of_dated (dated_queryWithFilter ?_)
  simpa [Value.dated, columnClear] using laid

theorem inside_of_dated {c : Condition} {ref : Ref} (settled : c.Settled)
    (clear : (Value.map options).dated = false) (refers : c.query? = some ref)
    (found : sub ref = .ok inner) (filled : ∀ k, inner.part k = [] ↔ b.bucket k = [])
    (h : d.conditionFragment sub options negated c = .ok f) (has : (Value.map f).dated = true) :
    ∃ k, Place.Takes b k (.condition c) ∧ (Value.map (inner.part k)).dated = true := by
  cases c <;> cases refers
  all_goals
    obtain ⟨other, read, h⟩ := bind_eq_ok.mp h
    cases found.symm.trans read
  case group => exact inside_of_group clear filled h has
  case nestedDocument =>
    obtain ⟨k, -, has⟩ := inside_of_nestedDocument clear settled h has
    exact ⟨k, trivial, has⟩
  case negation =>
    unfold negation at h
    split at h
    · cases h
    · obtain rfl := Except.ok.inj h
      have dates : (Value.map (orMatchAll inner.query inner.filter)).dated = true := by
        simpa [mustNot, Value.dated] using has
      exact before_of_dated (dated_orMatchAll dates)
  case parent => exact inside_of_relation (j := .parent) clear settled h has
  case child => exact inside_of_relation (j := .child) clear settled h has

end Inside

end Dialect

end DocumentSearch
