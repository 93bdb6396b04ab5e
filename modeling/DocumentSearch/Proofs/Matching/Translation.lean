import DocumentSearch.Proofs.Matching.Meaning
import DocumentSearch.Proofs.Reference

/-!
# Fragments match what builders ask

Every clause that can be written is written as a fragment that matches what the clause asks, and so
is every bucket and every search. By induction on the depth of references this holds for builders
that refer to others.
-/
namespace DocumentSearch

open Fragment Outcome

/-- The forms that a written bucket has. -/
inductive Fragment.IsBucket : Entries → Prop
  | empty : IsBucket []
  | all {items : List Value} (some : items ≠ []) : IsBucket [("bool", .map [("must", .list items)])]
  | any {items : List Value} (some : items ≠ []) : IsBucket (anyOf items)

theorem Fragment.isBucket_joining (parts : Chain Entries) : IsBucket (joining parts) := by
  unfold joining
  split
  · cases parts with
    | nil => exact .empty
    | cons p parts => exact .all (by simp)
  · rename_i h
    exact .any (by simpa using fun _ => h)

namespace Engine

variable {Doc : Type} (e : Engine Doc)

/-- A fragment matches what is asked, and there is none where nothing is asked. -/
structure Expresses (fragment : Entries) (asked : Option (Doc → Bool)) : Prop where
  form : IsBucket fragment
  empty : fragment.isEmpty = asked.isNone
  accepts : ∀ doc, fragment ≠ [] → e.accepts fragment doc = Senses.meets asked doc

/-- The fragments of a builder's buckets match what the buckets ask. -/
structure Agrees (c : Conditions) (s : Senses Doc) : Prop where
  query : e.Expresses c.query s.query
  filter : e.Expresses c.filter s.filter
  postFilter : e.Expresses c.postFilter s.postFilter

variable {e} {d : Dialect}

theorem Agrees.part {c : Conditions} {s : Senses Doc} (h : e.Agrees c s) (b : Bucket) :
    e.Expresses (c.part b) (s.part b) := by
  cases b with
  | query => exact h.query
  | filter => exact h.filter
  | postFilter => exact h.postFilter

theorem Agrees.firstPart {c : Conditions} {s : Senses Doc} (h : e.Agrees c s) :
    e.Expresses c.firstPart s.firstPart := by
  unfold Conditions.firstPart Senses.firstPart
  cases hq : s.query with
  | some asked =>
    have := hq ▸ h.query
    simpa [this.empty] using this
  | none =>
    have hqe := h.query.empty
    rw [hq] at hqe
    cases hf : s.filter with
    | some asked =>
      have := hf ▸ h.filter
      simpa [hqe, this.empty] using this
    | none =>
      have hfe := h.filter.empty
      rw [hf] at hfe
      simpa [hqe, hfe] using h.postFilter

theorem Expresses.meets_of_nil {asked : Option (Doc → Bool)} (h : e.Expresses [] asked)
    (doc : Doc) : Senses.meets asked doc = true := by
  have := h.empty
  cases asked with
  | none => rfl
  | some p => simp at this

theorem not_both {f g : Entries} (h : ¬(!f.isEmpty && !g.isEmpty) = true) : f = [] ∨ g = [] := by
  by_cases ef : f = []
  · exact .inl ef
  · exact .inr (by simpa [ef] using h)

theorem accepts_orMatchAll {f g : Entries} {p q : Option (Doc → Bool)} (hf : e.Expresses f p)
    (hg : e.Expresses g q) (one : f = [] ∨ g = []) (doc : Doc) :
    e.accepts (orMatchAll f g) doc = (Senses.meets p doc && Senses.meets q doc) := by
  by_cases ef : f = []
  · subst ef
    by_cases eg : g = []
    · subst eg
      simp [orMatchAll, hf.meets_of_nil, hg.meets_of_nil]
    · simp [orMatchAll, eg, hf.meets_of_nil, hg.accepts doc eg]
  · obtain rfl := one.resolve_left ef
    simp [orMatchAll, ef, hg.meets_of_nil, hf.accepts doc ef]

theorem accepts_queryWithFilter {f g : Entries} {p q : Option (Doc → Bool)} (hf : e.Expresses f p)
    (hg : e.Expresses g q) (doc : Doc) :
    e.accepts (queryWithFilter f g) doc = (Senses.meets p doc && Senses.meets q doc) := by
  unfold queryWithFilter
  split
  · rename_i both
    simp only [Bool.and_eq_true, Bool.not_eq_true', List.isEmpty_eq_false_iff] at both
    simp [accepts_bool, boolean, listed_clausesOf, Table.find?_cons, hf.accepts doc both.1,
      hg.accepts doc both.2]
  · rename_i one
    exact accepts_orMatchAll hf hg (not_both one) doc

/-- A filter that is attached to alternatives does not make them optional. -/
theorem accepts_attachFilter {f g : Entries} {p q : Option (Doc → Bool)} (hf : e.Expresses f p)
    (hg : e.Expresses g q) (some : g ≠ []) (doc : Doc) :
    e.accepts (Dialect.attachFilter f g) doc = (Senses.meets p doc && Senses.meets q doc) := by
  rw [← hg.accepts doc some]
  cases hf.form with
  | empty =>
    simp [Dialect.attachFilter, Value.under, Value.map?, Value.seen, Table.has, Table.insert,
      accepts_bool, boolean, listed_clausesOf, Table.find?_cons, hf.meets_of_nil]
  | @all items filled =>
    rw [← hf.accepts doc (by simp), accepts_must]
    simp [Dialect.attachFilter, Value.under, Value.map?, Value.seen, Table.has, Table.insert,
      accepts_bool, boolean, listed_clausesOf, Table.find?_cons, Function.comp_def]
  | @any items filled =>
    have notEmpty : items.isEmpty = false := by simpa using filled
    rw [← hf.accepts doc (by simp), anyOf, accepts_should _ filled, Bool.eq_iff_iff]
    simp [Dialect.attachFilter, Value.under, Value.map?, Value.seen, Table.has, Table.insert,
      accepts_bool, boolean, listed_clausesOf, Table.find?_cons, least, notEmpty, and_comm,
      Function.comp_def]

theorem accepts_atom {kind : String} {body : Value} {options fragment : Entries}
    (leaf : isLeaf kind = true) (h : withOptions [(.str kind, body)] options = .ok fragment)
    (doc : Doc) : e.accepts fragment doc = e.atom options [(.str kind, body)] doc := by
  rw [e.accepts_leaf_withOptions leaf h, atom, h]

theorem asKey_eq_ok {v key : Value} (h : v.asKey = .ok key) : key = v := by
  unfold Value.asKey at h
  split at h
  · exact (Except.ok.inj h).symm
  · cases h

theorem single_eq_ok {column body : Value} {entries : Entries}
    (h : Entries.single column body = .ok entries) : entries = [(column, body)] := by
  simp only [Entries.single, bind_eq_ok, pure_eq_ok] at h
  obtain ⟨key, hk, rfl⟩ := h
  rw [asKey_eq_ok hk]

theorem keyed_eq_ok {kind : String} {column body : Value} {f : Entries}
    (h : Dialect.comparison.keyed kind column body = .ok f) :
    f = [(.str kind, .map [(column, body)])] := by
  simp only [Dialect.comparison.keyed, bind_eq_ok, pure_eq_ok] at h
  obtain ⟨entries, he, rfl⟩ := h
  rw [single_eq_ok he]

theorem accepts_comparison {column value : Value} {operator : Operator} {options f : Entries}
    {negated : Bool} (h : d.comparison column operator value options negated = .ok f) (doc : Doc) :
    e.accepts f doc = e.comparisonSense d column operator value options negated doc := by
  simp only [Dialect.comparison, bind_eq_ok, lift_eq_ok] at h
  obtain ⟨v, hv, h⟩ := h
  simp only [comparisonSense, hv, whenWritten]
  split at h
  · rename_i present
    simp only [bind_eq_ok, lift_eq_ok, pure_eq_ok] at h
    obtain ⟨fragment, hf, rfl⟩ := h
    rw [accepts_negatedIf, accepts_atom rfl hf]
    by_cases ho : operator = .exists
    · simp [ho, existsSense]
    · simp_all [existsSense]
  · rename_i compared
    simp only [Bool.or_eq_true, decide_eq_true_eq, not_or] at compared
    simp only [compared, if_false]
    unfold comparedSense
    split at h <;>
      (rename_i hk
       simp only [bind_eq_ok, lift_eq_ok, pure_eq_ok] at h
       obtain ⟨fragment, hf, written, hw, rfl⟩ := h
       obtain rfl := keyed_eq_ok hf
       rw [accepts_negatedIf, accepts_atom rfl hw]
       simp [hk])

theorem accepts_between {column low high : Value} {options f : Entries} {negated : Bool}
    (h : d.between column low high options negated = .ok f) (doc : Doc) :
    e.accepts f doc = e.betweenSense d column low high options negated doc := by
  simp only [Dialect.between, bind_eq_ok, lift_eq_ok] at h
  obtain ⟨key, hk, lower, hl, upper, hu, h⟩ := h
  obtain rfl := asKey_eq_ok hk
  simp only [betweenSense, whenWritten, hl, hu]
  cases negated with
  | true =>
    obtain rfl := pure_eq_ok.mp h
    rw [accepts_should e (by simp)]
    simp [e.accepts_leaf "range" rfl]
  | false => exact accepts_atom rfl (lift_eq_ok.mp h) doc

theorem accepts_among {column : Value} {values : List Value} {options f : Entries} {negated : Bool}
    (h : d.among column values options negated = .ok f) (doc : Doc) :
    e.accepts f doc = e.amongSense d column values options negated doc := by
  simp only [Dialect.among, bind_eq_ok, lift_eq_ok, pure_eq_ok] at h
  obtain ⟨terms, ht, entries, he, written, hw, rfl⟩ := h
  obtain rfl := single_eq_ok he
  rw [accepts_negatedIf, accepts_atom rfl hw]
  simp [amongSense, whenWritten, ht]

theorem textMatch_cases {text fields matchType fuzziness : Value} {f : Entries}
    (h : Dialect.textMatch text fields matchType fuzziness = .ok f) :
    ∃ body, f = [(.str "match", body)] ∨ f = [(.str "multi_match", body)] := by
  simp only [Dialect.textMatch, bind_eq_ok] at h
  obtain ⟨chosen, -, h⟩ := h
  split at h
  · simp only [bind_eq_ok, pure_eq_ok] at h
    obtain ⟨body, -, rfl⟩ := h
    exact ⟨_, .inl rfl⟩
  · obtain rfl := pure_eq_ok.mp h
    exact ⟨_, .inr rfl⟩

theorem accepts_search {text fields matchType fuzziness : Value} {constantScore negated : Bool}
    {options f : Entries}
    (h : Dialect.search text fields matchType fuzziness constantScore options negated = .ok f)
    (doc : Doc) :
    e.accepts f doc =
      e.searchSense text fields matchType fuzziness constantScore options negated doc := by
  simp only [Dialect.search, bind_eq_ok, lift_eq_ok, pure_eq_ok] at h
  obtain ⟨fragment, hf, written, hw, rfl⟩ := h
  simp only [accepts_negatedIf, searchSense, whenWritten, hf]
  congr 1
  cases constantScore with
  | true => exact accepts_atom rfl hw doc
  | false =>
    obtain ⟨body, rfl | rfl⟩ := textMatch_cases hf
    · exact accepts_atom rfl hw doc
    · exact accepts_atom rfl hw doc

theorem accepts_bucket_withOptions {fragment options f : Entries} (form : IsBucket fragment)
    (some : fragment ≠ []) (h : withOptions fragment options = .ok f) :
    e.accepts f = e.accepts fragment := by
  cases form with
  | empty => exact absurd rfl some
  | all => exact e.accepts_bool_withOptions h
  | any => exact e.accepts_bool_withOptions h

/-- A bucket with its options, or a fragment that every document matches where nothing is asked. -/
theorem Expresses.accepts_written {fragment options f : Entries} {asked : Option (Doc → Bool)}
    (expresses : e.Expresses fragment asked)
    (h : (if fragment.isEmpty then pure matchAll else liftM (withOptions fragment options) :
      Except Error Entries) = .ok f) (doc : Doc) :
    e.accepts f doc = Senses.meets asked doc := by
  by_cases filled : fragment = []
  · subst filled
    obtain rfl := pure_eq_ok.mp h
    rw [accepts_matchAll, expresses.meets_of_nil]
  · simp only [List.isEmpty_iff, filled, if_false, lift_eq_ok] at h
    rw [accepts_bucket_withOptions expresses.form filled h, expresses.accepts doc filled]

theorem accepts_group {inner : Conditions} {s : Senses Doc} {part : Value} {options f : Entries}
    (agree : e.Agrees inner s) (h : Dialect.group inner part options = .ok f) (doc : Doc) :
    e.accepts f doc = groupSense s part doc := by
  simp only [Dialect.group, bind_eq_ok, lift_eq_ok] at h
  obtain ⟨chosen, hc, h⟩ := h
  simp only [groupSense, whenWritten, hc]
  cases chosen with
  | some b => exact (agree.part b).accepts_written h doc
  | none => exact agree.firstPart.accepts_written h doc

theorem accepts_joint_query {j : Joint} {column : Value} {query options f : Entries}
    (h : withOptions [(.str j.names.1, .map [(.str j.names.2, column), ("query", .map query)])]
      options = .ok f) :
    e.accepts f = e.joined j column (e.accepts query) := by
  have other : j.names.2 ≠ "query" := by cases j <;> decide
  rw [e.accepts_joint_withOptions j h, accepts_joint]
  simp [Table.find?_cons, other]

theorem accepts_nestedDocument {column : Value} {inner : Conditions} {s : Senses Doc}
    {options f : Entries} {negated : Bool} (agree : e.Agrees inner s)
    (h : Dialect.nestedDocument column inner options negated = .ok f) (doc : Doc) :
    e.accepts f doc = (e.joined .nested column s.matched doc != negated) := by
  simp only [Dialect.nestedDocument, unless_eq_ok, bind_eq_ok, lift_eq_ok, pure_eq_ok] at h
  obtain ⟨-, written, hw, rfl⟩ := h
  rw [accepts_negatedIf, accepts_joint_query (j := .nested) hw,
    funext (accepts_queryWithFilter agree.query agree.filter)]
  rfl

theorem accepts_negation {inner : Conditions} {s : Senses Doc} {f : Entries}
    (agree : e.Agrees inner s) (h : Dialect.negation inner = .ok f) (doc : Doc) :
    e.accepts f doc = !s.matched doc := by
  unfold Dialect.negation at h
  split at h
  · cases h
  · rename_i one
    obtain rfl := Except.ok.inj h
    rw [accepts_mustNot, accepts_orMatchAll agree.query agree.filter (not_both one)]
    rfl

theorem accepts_relation {j : Joint} {kind : ClauseKind} {documentType : Value}
    {inner : Conditions} {s : Senses Doc} {options f : Entries} {negated : Bool}
    (agree : e.Agrees inner s)
    (h : Dialect.relation kind j.names.1 j.names.2 documentType inner options negated = .ok f)
    (doc : Doc) : e.accepts f doc = (e.joined j documentType s.matched doc != negated) := by
  simp only [Dialect.relation, unless_eq_ok, bind_eq_ok, lift_eq_ok, pure_eq_ok] at h
  obtain ⟨one, written, hw, rfl⟩ := h
  rw [accepts_negatedIf, accepts_joint_query hw,
    funext (accepts_orMatchAll agree.query agree.filter (not_both one))]
  rfl

/-- What builders are written for references matches what they ask. -/
def Faithful (e : Engine Doc) (written : Ref → Except Error Conditions) (asked : Ref → Senses Doc) :
    Prop :=
  ∀ ref inner, written ref = .ok inner → e.Agrees inner (asked ref)

variable {written : Ref → Except Error Conditions} {asked : Ref → Senses Doc}

theorem accepts_conditionFragment (faithful : e.Faithful written asked) {options f : Entries}
    {negated : Bool} {c : Condition} (h : d.conditionFragment written options negated c = .ok f)
    (doc : Doc) : e.accepts f doc = e.conditionSense d asked options negated c doc := by
  cases c with
  | basic column operator value => exact accepts_comparison h doc
  | date column operator value =>
    simp only [Dialect.conditionFragment, conditionSense] at h ⊢
    split at h
    · rename_i whole
      rw [if_pos whole]
      exact accepts_between h doc
    · rename_i compared
      rw [if_neg compared]
      exact accepts_comparison h doc
  | among column values => exact accepts_among h doc
  | notAmong column values => exact accepts_among h doc
  | between column low high => exact accepts_between h doc
  | absent column => exact accepts_comparison h doc
  | present column => exact accepts_comparison h doc
  | geoDistance column location distance =>
    simp only [Dialect.conditionFragment, bind_eq_ok, lift_eq_ok, pure_eq_ok] at h
    obtain ⟨near, hn, place, hp, rfl⟩ := h
    obtain rfl := single_eq_ok hn
    obtain rfl := single_eq_ok hp
    rw [accepts_negatedIf, e.accepts_leaf "geo_distance" rfl]
    rfl
  | geoBounds column bounds =>
    simp only [Dialect.conditionFragment, bind_eq_ok, lift_eq_ok, pure_eq_ok] at h
    obtain ⟨box, hb, rfl⟩ := h
    obtain rfl := single_eq_ok hb
    rw [accepts_negatedIf, e.accepts_leaf "geo_bounding_box" rfl]
    rfl
  | search text fields matchType fuzziness constantScore => exact accepts_search h doc
  | group query part =>
    obtain ⟨inner, hi, h⟩ := bind_eq_ok.mp h
    exact accepts_group (faithful query inner hi) h doc
  | nestedDocument column query =>
    obtain ⟨inner, hi, h⟩ := bind_eq_ok.mp h
    exact accepts_nestedDocument (faithful query inner hi) h doc
  | negation query =>
    obtain ⟨inner, hi, h⟩ := bind_eq_ok.mp h
    exact accepts_negation (faithful query inner hi) h doc
  | parent documentType query =>
    obtain ⟨inner, hi, h⟩ := bind_eq_ok.mp h
    exact accepts_relation (j := .parent) (faithful query inner hi) h doc
  | child documentType query =>
    obtain ⟨inner, hi, h⟩ := bind_eq_ok.mp h
    exact accepts_relation (j := .child) (faithful query inner hi) h doc
  | parentId relationType id =>
    obtain rfl := Except.ok.inj h
    rw [e.accepts_leaf "parent_id" rfl]
    rfl
  | startsWith column value =>
    simp only [Dialect.conditionFragment, bind_eq_ok, lift_eq_ok, pure_eq_ok] at h
    obtain ⟨body, hb, fragment, hf, rfl⟩ := h
    obtain rfl := single_eq_ok hb
    rw [accepts_negatedIf, accepts_atom rfl hf]
    rfl
  | script source params lang =>
    have kept : ∃ body, f = [(.str "script", body)] := by
      simp only [Dialect.conditionFragment, Dialect.script, bind_eq_ok, pure_eq_ok] at h
      obtain ⟨entries, -, rfl⟩ := h
      exact ⟨_, rfl⟩
    obtain ⟨body, rfl⟩ := kept
    rw [e.accepts_leaf "script" rfl]
    have whole : d.script source params lang = .ok [(.str "script", body)] := h
    rw [conditionSense, whole]
    rfl
  | functionScore functionType arguments =>
    simp only [Dialect.conditionFragment, bind_eq_ok, lift_eq_ok, pure_eq_ok] at h
    obtain ⟨entries, ha, body, hb, rfl⟩ := h
    obtain rfl := single_eq_ok hb
    rw [e.accepts_leaf "function_score" rfl]
    simp only [conditionSense, whenWritten, ha]

theorem accepts_clauseFragment (faithful : e.Faithful written asked) {c : Clause} {f : Entries}
    (h : d.clauseFragment written c = .ok f) : e.accepts f = e.clauseSense d asked c :=
  funext (accepts_conditionFragment faithful (Dialect.clauseFragment_eq_ok.mp h).2)

/-- A bucket matches what its clauses, joined in order, ask for. -/
theorem expresses_bucketFragment (faithful : e.Faithful written asked) {clauses : List Clause}
    {f : Entries} (h : d.bucketFragment written clauses = .ok f) :
    e.Expresses f (e.bucketSense d asked clauses) := by
  obtain ⟨parts, hp, rfl⟩ := (d.bucketFragment_eq_ok written).mp h
  have each : parts.onParts e.accepts = clauses.map fun c => (c.isOr, e.clauseSense d asked c) := by
    refine map_of_mapM hp fun c _ p hc => ?_
    simp only [bind_eq_ok, pure_eq_ok] at hc
    obtain ⟨f, hf, rfl⟩ := hc
    rw [accepts_clauseFragment faithful hf]
  have empty : joining parts = [] ↔ clauses = [] := d.bucketFragment_eq_nil written h
  refine ⟨isBucket_joining parts, ?_, fun doc some => ?_⟩
  · by_cases none : clauses = []
    · simp [bucketSense, none, empty.mpr none]
    · simp [bucketSense, none, mt empty.mp none]
  · rw [e.accepts_joining (mt joining_eq_nil.mpr some), each]
    simp [bucketSense, mt empty.mpr some, Senses.meets]

theorem agrees_bucketFragments (faithful : e.Faithful written asked) {b : Builder} {c : Conditions}
    (h : d.bucketFragments written b = .ok c) : e.Agrees c (e.builderSenses d asked b) := by
  simp only [Dialect.bucketFragments, bind_eq_ok, pure_eq_ok] at h
  obtain ⟨query, hq, filter, hf, postFilter, hp, rfl⟩ := h
  exact ⟨expresses_bucketFragment faithful hq, expresses_bucketFragment faithful hf,
    expresses_bucketFragment faithful hp⟩

theorem agrees_conditionsWithin {store : Store} {depth : Nat} {b : Builder} {c : Conditions}
    (h : d.conditionsWithin store depth b = .ok c) :
    e.Agrees c (e.sensesWithin d store depth b) := by
  induction depth generalizing b c with
  | zero =>
    refine agrees_bucketFragments (fun ref inner hr => ?_) h
    cases hr
  | succ depth ih => exact agrees_bucketFragments (fun _ _ hr => ih hr) h

/-- Whatever conditions can be written for a builder match what it asks. -/
theorem agrees_conditions {store : Store} {b : Builder} {c : Conditions}
    (h : d.conditions store b = .ok c) : e.Agrees c (e.senses d store b) :=
  agrees_conditionsWithin h

theorem bucketSense_congr {other : Ref → Senses Doc} {clauses : List Clause} {f : Entries}
    (h : d.bucketFragment written clauses = .ok f)
    (same : ∀ ref inner, written ref = .ok inner → asked ref = other ref) :
    e.bucketSense d asked clauses = e.bucketSense d other clauses := by
  obtain ⟨parts, hp, -⟩ := (d.bucketFragment_eq_ok written).mp h
  have each : ∀ c ∈ clauses, e.clauseSense d asked c = e.clauseSense d other c := by
    intro c hc
    obtain ⟨p, hw⟩ := ok_of_mapM hp c hc
    obtain ⟨fragment, hf, -⟩ := bind_eq_ok.mp hw
    refine e.conditionSense_congr d fun ref refers => ?_
    obtain ⟨inner, hi⟩ := Dialect.written_of_clauseFragment hf refers
    exact same ref inner hi
  unfold bucketSense
  rw [List.map_congr_left fun c hc => by rw [each c hc]]

theorem builderSenses_congr {other : Ref → Senses Doc} {b : Builder} {c : Conditions}
    (h : d.bucketFragments written b = .ok c)
    (same : ∀ ref inner, written ref = .ok inner → asked ref = other ref) :
    e.builderSenses d asked b = e.builderSenses d other b := by
  simp only [Dialect.bucketFragments, bind_eq_ok, pure_eq_ok] at h
  obtain ⟨query, hq, filter, hf, postFilter, hp, rfl⟩ := h
  unfold builderSenses
  rw [bucketSense_congr hq same, bucketSense_congr hf same, bucketSense_congr hp same]

/-- Looking further than references lead finds nothing else. -/
theorem sensesWithin_succ {store : Store} {depth : Nat} {b : Builder} {c : Conditions}
    (h : d.conditionsWithin store depth b = .ok c) :
    e.sensesWithin d store (depth + 1) b = e.sensesWithin d store depth b := by
  induction depth generalizing b c with
  | zero =>
    refine builderSenses_congr h fun ref inner hr => ?_
    cases hr
  | succ depth ih => exact builderSenses_congr h fun ref inner hr => ih hr

theorem senses_eq {store : Store} {b : Builder} {c : Conditions}
    (h : d.conditions store b = .ok c) :
    e.senses d store b = e.builderSenses d (fun ref => e.senses d store (store.get ref)) b :=
  (sensesWithin_succ h).symm

end Engine

end DocumentSearch
