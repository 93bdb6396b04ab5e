import DocumentSearch.Proofs.Clause.Spelled
import DocumentSearch.Proofs.Matching.Fault

/-!
# Clauses without dates

A clause may refer to a builder, whose clauses refer to further builders. The dates in the fragment
of a clause come from the clause itself or from one that is inside it, in a bucket that is taken. If
no clause inside leaves a date, the fragment is the one that would have been written if every date
had been given as a text.
-/
namespace DocumentSearch

open Fragment Outcome

/-- A clause and the clauses inside it, in buckets that are taken. -/
def Store.Nests (store : Store) (taken : Builder → Bucket → Place → Prop) (c inner : Clause) :
    Prop :=
  inner = c ∨ ∃ ref k, c.condition.query? = some ref ∧
    taken (store.get ref) k (.condition c.condition) ∧ store.Holds taken (store.get ref) k inner

/-- A condition with every date in its values written in a pattern. A value that is only asked to be
there stays. -/
def Condition.spelled (pattern : String) : Condition → Condition
  | basic column operator value =>
    basic column operator (if operator = .exists then value else value.spelled pattern)
  | date column operator value =>
    date column operator (if operator = .exists then value else value.spelled pattern)
  | among column values => among column (values.map (Value.spelled pattern))
  | notAmong column values => notAmong column (values.map (Value.spelled pattern))
  | between column low high => between column (low.spelled pattern) (high.spelled pattern)
  | startsWith column value => startsWith column (value.spelled pattern)
  | script source (.map params) lang => script source ((Value.map params).spelled pattern) lang
  | functionScore functionType arguments => functionScore functionType (arguments.spelled pattern)
  | c => c

def Clause.spelled (pattern : String) (c : Clause) : Clause :=
  { c with condition := c.condition.spelled pattern }

def Builder.spelled (pattern : String) (b : Builder) : Builder :=
  { b with
    wheres := b.wheres.map (Clause.spelled pattern)
    filters := b.filters.map (Clause.spelled pattern)
    postFilters := b.postFilters.map (Clause.spelled pattern) }

def Store.spelled (pattern : String) (store : Store) : Store :=
  ⟨store.builders.map (Builder.spelled pattern)⟩

theorem Builder.bucket_spelled (pattern : String) (b : Builder) (k : Bucket) :
    (b.spelled pattern).bucket k = (b.bucket k).map (Clause.spelled pattern) := by
  cases k <;> rfl

theorem Store.get_spelled (pattern : String) (store : Store) (ref : Ref) :
    (store.spelled pattern).get ref = (store.get ref).spelled pattern := by
  simp only [spelled, get, List.getElem?_map]
  cases store.builders[ref.index]? <;> rfl

theorem Store.size_spelled (pattern : String) (store : Store) :
    (store.spelled pattern).size = store.size := List.length_map _

theorem Clause.kind_spelled (pattern : String) (c : Clause) :
    (c.spelled pattern).kind = c.kind := by
  obtain ⟨connective, negated, options, condition⟩ := c
  cases condition with
  | script source params lang => cases params <;> rfl
  | _ => rfl

def Clause.Settled (c : Clause) : Prop := (Value.map c.options).dated = false ∧ c.condition.Settled

namespace Fragment

theorem dated_of_occurs {v w : Value} (inside : v.Occurs w) (has : v.dated = true) :
    w.dated = true := by
  induction inside with
  | here => exact has
  | item mem _ ih =>
    rw [Value.dated_list]
    exact List.any_eq_true.mpr ⟨_, mem, ih⟩
  | entry mem _ ih => exact Table.dated_iff.mpr ⟨_, mem, .inr ih⟩

theorem dated_anyOf (alternatives : List Value) :
    (Value.map (anyOf alternatives)).dated = alternatives.any Value.dated := by
  simp [anyOf, Value.dated]

theorem part_of_dated_allOf {fragments : List Entries}
    (has : (Value.map (allOf fragments)).dated = true) :
    ∃ fragment ∈ fragments, (Value.map fragment).dated = true := by
  unfold allOf at has
  split at has
  · cases has
  · have some : ((fragments.map Value.map).any Value.dated) = true := by
      simpa [Value.dated] using has
    obtain ⟨_, mem, has⟩ := List.any_eq_true.mp some
    obtain ⟨fragment, there, rfl⟩ := List.mem_map.mp mem
    exact ⟨fragment, there, has⟩

theorem dated_of_alternative {part : Bool × Entries} (has : (alternative part).dated = true) :
    (Value.map part.2).dated = true := by
  unfold alternative at has
  split at has
  · exact has
  · obtain ⟨fragment, mem, has⟩ := part_of_dated_allOf has
    obtain rfl := List.mem_singleton.mp mem
    exact has

theorem part_of_dated_joining {parts : Chain Entries}
    (has : (Value.map (joining parts)).dated = true) :
    ∃ part ∈ parts, (Value.map part.2).dated = true := by
  have named : ∀ {some : Chain Entries}, (∀ part ∈ some, part ∈ parts) →
      (Value.map (allOf (some.map Prod.snd))).dated = true →
        ∃ part ∈ parts, (Value.map part.2).dated = true := by
    intro some among has
    obtain ⟨_, mem, has⟩ := part_of_dated_allOf has
    obtain ⟨part, there, rfl⟩ := List.mem_map.mp mem
    exact ⟨part, among part there, has⟩
  have whole : ∀ part, part ∈ parts.lead ∨ part ∈ parts.later → part ∈ parts := fun part mem =>
    parts.lead_append_later ▸ List.mem_append.mpr mem
  unfold joining at has
  split at has
  · exact named (fun _ => id) has
  · obtain ⟨v, mem, has⟩ : ∃ v ∈ (if parts.lead.isEmpty then []
        else [.map (allOf (parts.lead.map Prod.snd))]) ++ parts.later.map alternative,
        v.dated = true := by
      rw [dated_anyOf] at has
      exact List.any_eq_true.mp has
    rcases List.mem_append.mp mem with lead | later
    · split at lead
      · cases lead
      · obtain rfl := List.mem_singleton.mp lead
        exact named (fun part mem => whole part (.inl mem)) has
    · obtain ⟨part, there, rfl⟩ := List.mem_map.mp later
      exact ⟨part, whole part (.inr there), dated_of_alternative has⟩

end Fragment

namespace Dialect

variable {d : Dialect} {sub : Ref → Except Error Conditions} {pattern : String} {store : Store}

/-! ## Where dates come from -/

theorem clause_of_dated_part {b : Builder} {parts : Conditions} {k : Bucket}
    (h : d.bucketFragments sub b = .ok parts) (has : (Value.map (parts.part k)).dated = true) :
    ∃ c ∈ b.bucket k, ∃ f, d.clauseFragment sub c = .ok f ∧ (Value.map f).dated = true := by
  obtain ⟨chain, each, shape⟩ := (d.bucketFragment_eq_ok sub).mp (bucketFragment_part h k)
  rw [shape] at has
  obtain ⟨part, mem, has⟩ := part_of_dated_joining has
  obtain ⟨c, there, read⟩ := source_of_mapM each mem
  obtain ⟨f, written, paired⟩ := bind_eq_ok.mp read
  obtain rfl := pure_eq_ok.mp paired
  exact ⟨c, there, f, written, has⟩

/-- A date in the fragment of a clause is left by the clause, or comes from a bucket that it
takes. -/
theorem leaves_or_inside (spells : d.datePattern = .str pattern) {c : Clause} (settled : c.Settled)
    (filled : ∀ r inner, sub r = .ok inner → ∀ k, inner.part k = [] ↔ (store.get r).bucket k = [])
    {f : Entries} (h : d.clauseFragment sub c = .ok f) (has : (Value.map f).dated = true) :
    c.condition.leavesDate = true ∨ ∃ ref inner k, c.condition.query? = some ref ∧
      sub ref = .ok inner ∧ Place.Takes (store.get ref) k (.condition c.condition) ∧
      (Value.map (inner.part k)).dated = true := by
  obtain ⟨-, h⟩ := clauseFragment_eq_ok.mp h
  obtain ⟨clear, settled⟩ := settled
  cases refers : c.condition.query? with
  | none =>
    obtain ⟨plain, written, kept, -⟩ := dated_optioned refers h
    exact .inl (dated_plain spells settled refers written ▸ kept clear has)
  | some ref =>
    obtain ⟨inner, found⟩ := written_of_conditionFragment h refers
    obtain ⟨k, takes, has⟩ :=
      inside_of_dated settled clear refers found (filled ref inner found) h has
    exact .inr ⟨ref, inner, k, rfl, found, takes, has⟩

/-- A date in a bucket is left by a clause in it or inside it. The induction is on how far clauses
lead. -/
theorem leaves_of_dated_part (spells : d.datePattern = .str pattern) {depth : Nat} {b : Builder}
    {k : Bucket} {parts : Conditions} (settled : ∀ c, store.Holds Place.Takes b k c → c.Settled)
    (h : d.conditionsWithin store depth b = .ok parts)
    (has : (Value.map (parts.part k)).dated = true) :
    ∃ c, store.Holds Place.Takes b k c ∧ c.condition.leavesDate = true := by
  induction depth generalizing b k parts with
  | zero =>
    have none : ∀ r inner, (.error .circularQuery : Except Error Conditions) = .ok inner →
        ∀ k, inner.part k = [] ↔ (store.get r).bucket k = [] := fun _ _ found => by cases found
    obtain ⟨c, mem, f, written, has⟩ := clause_of_dated_part h has
    rcases leaves_or_inside spells (settled c (.own mem)) none written has with
      leaves | ⟨ref, inner, j, -, found, -⟩
    · exact ⟨c, .own mem, leaves⟩
    · cases found
  | succ depth ih =>
    obtain ⟨c, mem, f, written, has⟩ := clause_of_dated_part h has
    rcases leaves_or_inside spells (settled c (.own mem))
      (fun _ _ found => part_eq_nil_within found) written has with
      leaves | ⟨ref, inner, j, refers, found, takes, has⟩
    · exact ⟨c, .own mem, leaves⟩
    · obtain ⟨c, held, leaves⟩ :=
        ih (fun c held => settled c (.inside mem refers takes held)) found has
      exact ⟨c, .inside mem refers takes held, leaves⟩

/-- The options of a clause displace no entry of what is written without them. -/
def HasRoom (d : Dialect) (store : Store) (c : Clause) : Prop :=
  ∀ plain, d.fragmentIn store (c.optioned []) = .ok plain → Roomy c.options plain

theorem dated_of_leaves (spells : d.datePattern = .str pattern) {c : Clause}
    (settled : c.condition.Settled) (room : d.HasRoom store c)
    (leaves : c.condition.leavesDate = true) {f : Entries} (h : d.fragmentIn store c = .ok f) :
    (Value.map f).dated = true := by
  obtain ⟨supported, h⟩ := clauseFragment_eq_ok.mp h
  have own : c.condition.query? = none := by
    cases inside : c.condition with
    | group | nestedDocument | negation | parent | child =>
      rw [inside] at leaves
      cases leaves
    | _ => rfl
  obtain ⟨plain, written, -, kept⟩ := dated_optioned own h
  refine kept (room plain (clauseFragment_eq_ok.mpr ⟨supported, written⟩)) ?_
  rw [dated_plain spells settled own written, leaves]

/-! ## Dates that are written -/

section Spelled

variable {sub' : Ref → Except Error Conditions}

theorem bucketFragments_spelled {b : Builder}
    (each : ∀ k, ∀ c ∈ b.bucket k,
      d.clauseFragment sub' (c.spelled pattern) = d.clauseFragment sub c) :
    d.bucketFragments sub' (b.spelled pattern) = d.bucketFragments sub b := by
  have bucket : ∀ k, d.bucketFragment sub' ((b.spelled pattern).bucket k) =
      d.bucketFragment sub (b.bucket k) := by
    intro k
    have added : ∀ j, ∀ c ∈ b.bucket k,
        d.addClause sub' j (c.spelled pattern) = d.addClause sub j c := by
      intro j c mem
      rw [addClause, addClause, each k c mem]
      rfl
    rw [Builder.bucket_spelled, bucketFragment, bucketFragment, List.foldlM_map, foldlM_same added]
  have query := bucket .query
  have filter := bucket .filter
  have postFilter := bucket .postFilter
  simp only [Builder.bucket] at query filter postFilter
  rw [bucketFragments, bucketFragments, query, filter, postFilter]

variable {options : Entries} {negated : Bool} (spells : d.datePattern = .str pattern)

include spells

theorem convert_spelled {v : Value} (clear : v.hides = false) :
    d.convert (v.spelled pattern) = d.convert v := by
  rw [convert, convert, spells, Value.convertDates_spelled clear]

theorem comparison_spelled {column value : Value} {operator : Operator}
    (clear : (operator ≠ .exists && value.hides) = false) :
    d.comparison column operator
      (if operator = .exists then value else value.spelled pattern) options negated =
    d.comparison column operator value options negated := by
  by_cases presence : operator = .exists
  · rw [if_pos presence]
  · rw [if_neg presence, comparison, comparison,
      convert_spelled spells (by simpa [presence] using clear)]

theorem between_spelled {column low high : Value} (lowClear : low.buries = false)
    (highClear : high.buries = false) :
    d.between column (low.spelled pattern) (high.spelled pattern) options negated =
      d.between column low high options negated := by
  rw [between, between, spells, Value.convertDate_spelled lowClear,
    Value.convertDate_spelled highClear]

theorem among_spelled {column : Value} {values : List Value}
    (clear : values.any Value.buries = false) :
    d.among column (values.map (Value.spelled pattern)) options negated =
      d.among column values options negated := by
  have converted := convert_spelled spells (v := .list values) clear
  rw [Value.spelled_list] at converted
  rw [among, among, converted]

theorem convertValues_spelled {params : Entries}
    (clear : (params.any fun p => p.1.dated || p.2.hides) = false) :
    d.convertValues (params.map fun p => (p.1.spelled pattern, p.2.spelled pattern)) =
      d.convertValues params := by
  rw [convertValues, convertValues, List.mapM_map]
  refine mapM_same fun p mem => ?_
  have none := List.any_eq_false.mp clear p mem
  rw [Bool.not_eq_true, Bool.or_eq_false_iff] at none
  dsimp only [Function.comp_apply]
  rw [Value.spelled_of_undated pattern p.1 none.1, convert_spelled spells none.2]

theorem paramsEntry_spelled {params : Entries}
    (clear : (params.any fun p => p.1.dated || p.2.hides) = false) :
    d.paramsEntry ((Value.map params).spelled pattern) = d.paramsEntry (.map params) := by
  have filled : (Value.map (params.map fun p =>
      (p.1.spelled pattern, p.2.spelled pattern))).truthy = (Value.map params).truthy := by
    cases params <;> rfl
  have read : ∀ entries : Entries, (Value.map entries).entries = pure entries := fun _ => rfl
  rw [Value.spelled_map]
  simp only [paramsEntry, filled, read, pure_bind, convertValues_spelled spells clear]

theorem conditionFragment_spelled {c : Condition} (clear : c.leavesDate = false) :
    d.conditionFragment sub options negated (c.spelled pattern) =
      d.conditionFragment sub options negated c := by
  cases c with
  | basic column operator value => exact comparison_spelled spells clear
  | date column operator value =>
    simp only [Condition.leavesDate] at clear
    simp only [Condition.spelled, conditionFragment]
    by_cases equal : operator = .equal
    · rw [if_pos equal] at clear
      simp only [equal, if_true, reduceCtorEq, if_false]
      exact between_spelled spells clear clear
    · rw [if_neg equal] at clear
      rw [if_neg equal, if_neg equal, comparison_spelled spells clear]
  | among column values | notAmong column values => exact among_spelled spells clear
  | between column low high =>
    obtain ⟨lowClear, highClear⟩ := Bool.or_eq_false_iff.mp clear
    exact between_spelled spells lowClear highClear
  | startsWith column value =>
    rw [Condition.spelled, Value.spelled_of_undated pattern value clear]
  | script source params lang =>
    cases params with
    | map params =>
      simp only [Condition.spelled, conditionFragment, script, paramsEntry_spelled spells clear]
    | _ => rfl
  | functionScore functionType arguments =>
    rw [Condition.spelled, Value.spelled_of_undated pattern arguments clear]
  | _ => rfl

theorem clauseFragment_spelled {c : Clause} (clear : c.condition.leavesDate = false)
    (same : ∀ r ∈ c.condition.query?, sub' r = sub r) :
    d.clauseFragment sub' (c.spelled pattern) = d.clauseFragment sub c := by
  rw [clauseFragment, clauseFragment, Clause.kind_spelled]
  congr 1
  exact (conditionFragment_spelled spells clear).trans (conditionFragment_same same _ _)

/-- Builders in which no clause leaves a date may have had their dates written beforehand. -/
theorem conditionsWithin_spelled {depth : Nat} {b : Builder}
    (clear : ∀ c, store.Contains b c → c.condition.leavesDate = false) :
    d.conditionsWithin (store.spelled pattern) depth (b.spelled pattern) =
      d.conditionsWithin store depth b := by
  induction depth generalizing b with
  | zero =>
    refine bucketFragments_spelled fun k c mem => ?_
    exact clauseFragment_spelled spells (clear c ⟨k, .own mem⟩) fun _ _ => rfl
  | succ depth ih =>
    refine bucketFragments_spelled fun k c mem => ?_
    refine clauseFragment_spelled spells (clear c ⟨k, .own mem⟩) fun r refers => ?_
    rw [Store.get_spelled]
    exact ih fun c ⟨j, held⟩ => clear c ⟨k, .inside mem refers trivial held⟩

end Spelled

/-! ## The whole clause -/

theorem occurs_of_nests {c inner : Clause} {f : Entries} (nested : store.Nests Place.Takes c inner)
    (h : d.fragmentIn store c = .ok f) :
    ∃ part, d.fragmentIn store inner = .ok part ∧ (Value.map part).Occurs (.map f) := by
  rcases nested with rfl | ⟨ref, k, refers, takes, held⟩
  · exact ⟨f, h, .here⟩
  · obtain ⟨parts, found⟩ := written_of_clauseFragment h refers
    obtain ⟨part, written, gathered⟩ := gathers_of_holds held found
    exact ⟨part, written, occurs_conditionFragment (clauseFragment_eq_ok.mp h).2 refers found
      (part_eq_nil (conditions_unfold found)) takes gathered⟩

/-- A fragment has a date in it only if some clause that it is written from leaves one, and each
such clause brings its dates unless its options displace them. Where no clause inside leaves a date,
the fragment is that of the same clauses with every date given as a text. -/
theorem dates_of_fragmentIn (spells : d.datePattern = .str pattern) {c : Clause} {f : Entries}
    (settled : ∀ inner, store.Nests Place.Takes c inner → inner.Settled)
    (h : d.fragmentIn store c = .ok f) :
    ((Value.map f).dated = true →
      ∃ inner, store.Nests Place.Takes c inner ∧ inner.condition.leavesDate = true) ∧
    (∀ inner, store.Nests Place.Takes c inner → inner.condition.leavesDate = true →
      d.HasRoom store inner → (Value.map f).dated = true) ∧
    ((∀ inner, store.Nests (fun _ _ _ => True) c inner → inner.condition.leavesDate = false) →
      d.fragmentIn (store.spelled pattern) (c.spelled pattern) = .ok f) := by
  refine ⟨fun has => ?_, fun inner nested leaves room => ?_, fun clear => ?_⟩
  · rcases leaves_or_inside spells (settled c (.inl rfl))
      (fun _ _ found => part_eq_nil (conditions_unfold found)) h has with
      leaves | ⟨ref, parts, k, refers, found, takes, has⟩
    · exact ⟨c, .inl rfl, leaves⟩
    · obtain ⟨inner, held, leaves⟩ := leaves_of_dated_part spells
        (fun inner held => settled inner (.inr ⟨ref, k, refers, takes, held⟩)) found has
      exact ⟨inner, .inr ⟨ref, k, refers, takes, held⟩, leaves⟩
  · obtain ⟨part, written, inside⟩ := occurs_of_nests nested h
    exact dated_of_occurs inside <|
      dated_of_leaves spells (settled inner nested).2 room leaves written
  · refine (clauseFragment_spelled spells (clear c (.inl rfl)) fun ref refers => ?_).trans h
    rw [Store.get_spelled, conditions, conditions, Store.size_spelled]
    refine conditionsWithin_spelled spells fun inner contained => ?_
    obtain ⟨k, held⟩ := contained
    exact clear inner (.inr ⟨ref, k, refers, trivial, held⟩)

/-- A prefix keeps its date, also inside a group, and a comparison spells it. -/
theorem dates_of_fragmentIn_prefix :
    let day : Value := .date ⟨2024, 1, 2, by decide, by decide, by decide⟩
    let plainly : Condition → Clause := fun condition => ⟨.conjunction, .bool false, [], condition⟩
    let store : Store :=
      ⟨[{ Builder.blank "id" with wheres := [plainly (.startsWith "day" day)] }]⟩
    let group := plainly (.group ⟨0⟩ (.str Bucket.query.name))
    let term := plainly (.basic "day" .equal day)
    (∃ f, standard.fragmentIn store group = .ok f ∧ (Value.map f).dated = true) ∧
    ∃ f, standard.fragmentIn store term = .ok f ∧ (Value.map f).dated = false ∧
      standard.fragmentIn (store.spelled Value.defaultDatePattern)
        (plainly (.basic "day" .equal "2024-01-02T00:00:00")) = .ok f := by
  intro day plainly store group term
  constructor
  · -- the only clause inside is the prefix, in the bucket that the group names
    have inside : ∀ inner, store.Nests Place.Takes group inner →
        inner = group ∨ inner = plainly (.startsWith "day" day) := by
      rintro inner (rfl | ⟨ref, k, refers, takes, held⟩)
      · exact .inl rfl
      · cases refers
        obtain rfl : k = .query := by
          rcases takes with named | ⟨unnamed, -⟩
          · exact (Option.some.inj (Except.ok.inj named)).symm
          · cases unnamed
        cases held with
        | own mem => exact .inr (List.mem_singleton.mp mem)
        | inside mem refers =>
          obtain rfl := List.mem_singleton.mp mem
          cases refers
    have settled : ∀ inner, store.Nests Place.Takes group inner → inner.Settled := by
      intro inner nested
      rcases inside inner nested with rfl | rfl
      · exact ⟨rfl, trivial⟩
      · exact ⟨rfl, rfl⟩
    have nested : store.Nests Place.Takes group (plainly (.startsWith "day" day)) :=
      .inr ⟨⟨0⟩, .query, rfl, .inl rfl, .own List.mem_cons_self⟩
    have room : standard.HasRoom store (plainly (.startsWith "day" day)) := by
      intro plain _ denied core _
      unfold Spares
      split
      · exact ⟨nofun, nofun⟩
      · trivial
    exact ⟨_, rfl, (dates_of_fragmentIn rfl settled rfl).2.1 _ nested rfl room⟩
  · have alone : ∀ taken inner, store.Nests taken term inner → inner = term := by
      rintro taken inner (rfl | ⟨ref, k, refers, -⟩)
      · rfl
      · cases refers
    have settled : ∀ inner, store.Nests Place.Takes term inner → inner.Settled :=
      fun inner nested => alone _ inner nested ▸ ⟨rfl, rfl⟩
    obtain ⟨f, written⟩ : ∃ f, standard.fragmentIn store term = .ok f := ⟨_, rfl⟩
    have whole := dates_of_fragmentIn rfl settled written
    refine ⟨f, written, Bool.eq_false_iff.mpr fun has => ?_, whole.2.2 fun inner nested => ?_⟩
    · obtain ⟨inner, nested, leaves⟩ := whole.1 has
      obtain rfl := alone _ inner nested
      cases leaves
    · rw [alone _ inner nested]
      rfl

end Dialect

end DocumentSearch
