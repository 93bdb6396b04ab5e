import DocumentSearch.Proofs.Fluent.Typed
import DocumentSearch.Proofs.Heap.Bare

/-!
# Why conditions are refused

The clauses of well-typed calls are written unless one of them has no place for what the builder
inside it asks, or is of a kind that cannot be written. One such clause, in whatever bucket of
whatever builder inside, is enough, and the error tells of one.
-/
namespace DocumentSearch

open Fragment Outcome

/-- What a condition is refused for that has no place for all that the builder inside it asks. -/
def Condition.fault? : Condition → Option QueryFault
  | nestedDocument column _ => some (.nestedPostFilter column)
  | negation _ => some .negationContexts
  | parent _ _ => some (.relationContexts .parent)
  | child _ _ => some (.relationContexts .child)
  | _ => none

/-- The clauses in all buckets of a builder and of the builders inside it. -/
def Store.Contains (store : Store) (b : Builder) (c : Clause) : Prop :=
  ∃ k, store.Holds (fun _ _ _ => True) b k c

/-- A clause that cannot be written, whatever else can be: of a kind that the dialect does not have,
or without a place for what the builder inside it asks. -/
def Clause.Faulty (d : Dialect) (store : Store) (c : Clause) : Prop :=
  d.supports c.kind = false ∨
    ∃ ref, c.condition.query? = some ref ∧ c.condition.Conflicts (store.get ref)

/-- The error that a clause is to blame for. -/
inductive Clause.Fails (d : Dialect) (store : Store) (c : Clause) : Error → Prop where
  | unsupported (kind : d.supports c.kind = false) : c.Fails d store (.unsupportedClause c.kind)
  | conflict {ref : Ref} {fault : QueryFault} (refers : c.condition.query? = some ref)
      (conflicts : c.condition.Conflicts (store.get ref))
      (named : c.condition.fault? = some fault) : c.Fails d store (.invalidQuery fault)

theorem Clause.Fails.faulty {d : Dialect} {store : Store} {c : Clause} {e : Error}
    (h : c.Fails d store e) : c.Faulty d store := by
  cases h with
  | unsupported kind => exact .inl kind
  | conflict refers conflicts _ => exact .inr ⟨_, refers, conflicts⟩

theorem Outcome.FailsWith.lift {α : Type} {P : Error → Prop} {x : Except Misuse α}
    (h : ∃ a, x = .ok a) : FailsWith P (Misuse.lift x) := by
  obtain ⟨a, rfl⟩ := h
  exact .ok a

namespace Dialect

variable {d : Dialect} {P : Error → Prop}

section Leaves

theorem exists_single {column : Value} (text : column.IsText) (body : Value) :
    ∃ entries, Entries.single column body = .ok entries := by
  obtain ⟨s, rfl⟩ := text
  exact ⟨_, rfl⟩

theorem exists_searchFields {fields : Value} (named : fields.NamesFields) :
    ∃ items, searchFields fields = .ok items ∧ ∀ item ∈ items, item.IsText := by
  unfold Value.NamesFields at named
  unfold searchFields
  split
  · exact ⟨[], rfl, nofun⟩
  · rename_i filled
    have some : fields.seen ≠ .null := by
      intro null
      cases fields with
      | null => exact filled rfl
      | view part ref contents =>
        obtain rfl : contents = .null := null
        exact filled rfl
      | _ => cases null
    generalize fields.seen = seen at named some
    cases seen with
    | str s => exact ⟨[.str s], rfl, List.forall_mem_singleton.mpr ⟨s, rfl⟩⟩
    | map weights =>
      refine ⟨weights.map weighted, rfl, fun item mem => ?_⟩
      obtain ⟨entry, -, rfl⟩ := List.mem_map.mp mem
      exact ⟨_, rfl⟩
    | list items | tuple items => exact ⟨items, rfl, named⟩
    | null => exact absurd rfl some
    | _ => exact named.elim

theorem fails_search {text fields matchType fuzziness : Value} (named : fields.NamesFields)
    (constantScore negated : Bool) :
    FailsWith P (search text fields matchType fuzziness constantScore [] negated) := by
  refine .bind (.lift ?_) fun _ => .bind (.lift ⟨_, rfl⟩) fun _ => .ok _
  obtain ⟨items, read, texts⟩ := exists_searchFields named
  match items, read, texts with
  | [field], read, texts =>
    obtain ⟨entries, single⟩ := exists_single (texts field List.mem_cons_self) _
    exact ⟨_, bind_eq_ok.mpr ⟨[field], read, bind_eq_ok.mpr ⟨entries, single, rfl⟩⟩⟩
  | [], read, _ => exact ⟨_, bind_eq_ok.mpr ⟨[], read, rfl⟩⟩
  | first :: second :: rest, read, _ =>
    exact ⟨_, bind_eq_ok.mpr ⟨first :: second :: rest, read, rfl⟩⟩

variable (pattern : ∃ p, d.datePattern = .str p)
include pattern

theorem exists_convertDate (v : Value) : ∃ w, v.convertDate d.datePattern = .ok w := by
  obtain ⟨p, pattern⟩ := pattern
  rw [pattern]
  cases v <;> exact ⟨_, rfl⟩

theorem exists_convert (v : Value) : ∃ w, d.convert v = .ok w := by
  unfold convert Value.convertDates
  split
  · obtain ⟨items, done⟩ := mapM_ok fun v (_ : v ∈ _) => exists_convertDate pattern v
    exact ⟨.list items, bind_eq_ok.mpr ⟨items, done, rfl⟩⟩
  · exact exists_convertDate pattern v

theorem fails_comparison {column : Value} (text : column.IsText) (operator : Operator)
    (value : Value) (negated : Bool) :
    FailsWith P (d.comparison column operator value [] negated) := by
  have keyed : ∀ kind body, ∃ f, comparison.keyed kind column body = .ok f := by
    intro kind body
    obtain ⟨entries, single⟩ := exists_single text body
    exact ⟨_, bind_eq_ok.mpr ⟨entries, single, rfl⟩⟩
  refine .bind (.lift (exists_convert pattern value)) fun value => ?_
  split
  · exact .ok _
  · dsimp only
    split <;> exact .bind (.lift (keyed _ _)) fun _ => .ok _

theorem fails_between {column : Value} (text : column.IsText) (low high : Value) (negated : Bool) :
    FailsWith P (d.between column low high [] negated) := by
  obtain ⟨s, rfl⟩ := text
  refine .bind (.lift ⟨_, rfl⟩) fun _ => .bind (.lift (exists_convertDate pattern low)) fun _ =>
    .bind (.lift (exists_convertDate pattern high)) fun _ => ?_
  cases negated <;> exact .ok _

theorem fails_among {column : Value} (text : column.IsText) (values : List Value)
    (negated : Bool) : FailsWith P (d.among column values [] negated) :=
  .bind (.lift (exists_convert pattern (.list values))) fun _ =>
    .bind (.lift (exists_single text _)) fun _ => .ok _

theorem fails_script {params : Value} (table : params = .null ∨ ∃ entries, params = .map entries)
    (source lang : Value) : FailsWith P (d.script source params lang) := by
  refine .bind (.lift ?_) fun _ => .ok _
  unfold paramsEntry
  rcases table with rfl | ⟨entries, rfl⟩
  · exact ⟨[], rfl⟩
  · split
    · have each : ∀ p ∈ entries, ∃ q, (do return (p.1, ← d.convert p.2) :
          Except Misuse (Value × Value)) = .ok q := fun p _ => by
        obtain ⟨v, done⟩ := exists_convert pattern p.2
        exact ⟨_, bind_eq_ok.mpr ⟨v, done, rfl⟩⟩
      obtain ⟨converted, done⟩ := mapM_ok each
      exact ⟨_, bind_eq_ok.mpr ⟨entries, rfl, bind_eq_ok.mpr ⟨converted, done, rfl⟩⟩⟩
    · exact ⟨[], rfl⟩

end Leaves

variable {sub : Ref → Except Error Conditions} {base : Ref → Builder} {c : Condition} {ref : Ref}

/-- An error of the builder that a condition refers to, or of the condition for what this builder
asks. -/
def Inherits (sub : Ref → Except Error Conditions) (base : Ref → Builder) (c : Condition)
    (e : Error) : Prop :=
  ∃ ref, c.query? = some ref ∧ (sub ref = .error e ∨
    c.Conflicts (base ref) ∧ ∃ fault, c.fault? = some fault ∧ e = .invalidQuery fault)

theorem fails_inside {f : Conditions → Except Error Entries} (refers : c.query? = some ref)
    (rest : ∀ inner, sub ref = .ok inner → FailsWith (Inherits sub base c) (f inner)) :
    FailsWith (Inherits sub base c) (sub ref >>= f) := by
  cases written : sub ref with
  | ok inner => exact rest inner written
  | error e => exact .error ⟨ref, refers, .inl written⟩

/-- The error of a conflict, where the fragments that meet are there because the clauses are. -/
theorem fails_conflict {fault : QueryFault} {α : Type} (refers : c.query? = some ref)
    (conflicts : c.Conflicts (base ref)) (named : c.fault? = some fault) :
    FailsWith (Inherits sub base c) (.error (.invalidQuery fault) : Except Error α) :=
  .error ⟨ref, refers, .inr ⟨conflicts, fault, named, rfl⟩⟩

section Guards

variable {inner : Conditions} (filled : ∀ k, inner.part k = [] ↔ (base ref).bucket k = [])
include filled

theorem both_filled (both : (!inner.query.isEmpty && !inner.filter.isEmpty) = true) :
    (base ref).wheres ≠ [] ∧ (base ref).filters ≠ [] := by
  simp only [Bool.and_eq_true, Bool.not_eq_true', List.isEmpty_eq_false_iff] at both
  exact ⟨mt (filled .query).mpr both.1, mt (filled .filter).mpr both.2⟩

theorem fails_nestedDocument (column : Value) (negated : Bool) :
    FailsWith (Inherits sub base (.nestedDocument column ref))
      (nestedDocument column inner [] negated) := by
  unfold nestedDocument
  split
  · rename_i some
    have conflicts : (base ref).postFilters ≠ [] := by
      refine mt (filled .postFilter).mpr fun none => ?_
      have none : inner.postFilter = [] := none
      rw [none] at some
      cases some
    exact fails_conflict rfl conflicts rfl
  · exact .bind (.lift ⟨_, rfl⟩) fun _ => .ok _

theorem fails_negation : FailsWith (Inherits sub base (.negation ref)) (negation inner) := by
  unfold negation
  split
  · rename_i both
    have conflicts : Condition.Conflicts (base ref) (.negation ref) := both_filled filled both
    exact fails_conflict rfl conflicts rfl
  · exact .ok _

theorem fails_relation {kind : ClauseKind} {outer typeKey : String} {documentType : Value}
    (refers : c.query? = some ref) (named : c.fault? = some (.relationContexts kind))
    (asks : c.Conflicts (base ref) ↔ (base ref).wheres ≠ [] ∧ (base ref).filters ≠ [])
    (negated : Bool) :
    FailsWith (Inherits sub base c)
      (relation kind outer typeKey documentType inner [] negated) := by
  unfold relation
  split
  · rename_i both
    exact fails_conflict refers (asks.mpr (both_filled filled both)) named
  · exact .bind (.lift ⟨_, rfl⟩) fun _ => .ok _

end Guards

theorem fails_conditionFragment (pattern : ∃ p, d.datePattern = .str p)
    (filled : ∀ r inner, sub r = .ok inner → ∀ k, inner.part k = [] ↔ (base r).bucket k = [])
    (plain : c.Plain) (negated : Bool) :
    FailsWith (Inherits sub base c) (d.conditionFragment sub [] negated c) := by
  cases c with
  | basic column operator value => exact fails_comparison pattern plain operator value negated
  | date column operator value =>
    simp only [conditionFragment]
    split
    · exact fails_between pattern plain value value negated
    · exact fails_comparison pattern plain operator value negated
  | among column values => exact fails_among pattern plain values negated
  | notAmong column values => exact fails_among pattern plain values true
  | between column low high => exact fails_between pattern plain low high negated
  | absent column => exact (.ok _ : FailsWith _ (Except.ok _))
  | present column => exact (.ok _ : FailsWith _ (Except.ok _))
  | geoDistance column location distance =>
    exact .bind (.lift ⟨_, rfl⟩) fun _ => .bind (.lift (exists_single plain _)) fun _ => .ok _
  | geoBounds column bounds => exact .bind (.lift (exists_single plain _)) fun _ => .ok _
  | search text fields matchType fuzziness constantScore => exact fails_search plain _ negated
  | parentId relationType id => exact .ok _
  | startsWith column value => exact .bind (.lift (exists_single plain _)) fun _ => .ok _
  | script source params lang => exact fails_script pattern plain source lang
  | functionScore functionType arguments =>
    obtain ⟨text, entries, rfl⟩ := plain
    exact .bind (.lift ⟨entries, rfl⟩) fun _ => .bind (.lift (exists_single text _)) fun _ => .ok _
  | group query part =>
    obtain ⟨k, rfl⟩ := plain
    have named : partOf (.str k.name) = .ok (some k) := by cases k <;> rfl
    have whole (fragment : Entries) : FailsWith (Inherits sub base (.group query (.str k.name)))
        (if fragment.isEmpty then return matchAll else withOptions fragment [] :
          Except Error Entries) := by
      split <;> exact .ok _
    exact fails_inside rfl fun inner _ => .bind (.lift ⟨some k, named⟩) fun _ => whole _
  | nestedDocument column query =>
    exact fails_inside rfl fun inner written =>
      fails_nestedDocument (filled query inner written) column negated
  | negation query =>
    exact fails_inside rfl fun inner written => fails_negation (filled query inner written)
  | parent documentType query =>
    exact fails_inside rfl fun inner written =>
      fails_relation (filled query inner written) rfl rfl Iff.rfl negated
  | child documentType query =>
    exact fails_inside rfl fun inner written =>
      fails_relation (filled query inner written) rfl rfl Iff.rfl negated

theorem fails_bucketFragments (d : Dialect) (sub : Ref → Except Error Conditions) (b : Builder) :
    FailsWith (fun e => ∃ k, ∃ c ∈ b.bucket k, d.clauseFragment sub c = .error e)
      (d.bucketFragments sub b) := by
  have bucket : ∀ k, FailsWith (fun e => ∃ k, ∃ c ∈ b.bucket k, d.clauseFragment sub c = .error e)
      (d.bucketFragment sub (b.bucket k)) := by
    refine fun k => .bind (.foldlM (fun j c mem => ?_) _) fun _ => .ok _
    exact .bind (fun e failed => ⟨k, c, mem, failed⟩) fun _ => .ok _
  exact (bucket .query).bind fun _ => (bucket .filter).bind fun _ => (bucket .postFilter).bind
    fun _ => .ok _

variable {store : Store} {depth : Nat} {b : Builder}

theorem fails_clauseFragment (pattern : ∃ p, d.datePattern = .str p)
    (filled : ∀ r inner, sub r = .ok inner →
      ∀ k, inner.part k = [] ↔ (store.get r).bucket k = []) {c : Clause} (plain : c.Plain) :
    FailsWith (fun e => c.Fails d store e ∨ ∃ r, c.condition.query? = some r ∧ sub r = .error e)
      (d.clauseFragment sub c) := by
  unfold clauseFragment
  split
  · rw [plain.1]
    intro e failed
    obtain ⟨r, refers, inherited | ⟨conflicts, fault, named, rfl⟩⟩ :=
      fails_conditionFragment pattern filled plain.2 c.negated.truthy e failed
    · exact .inr ⟨r, refers, inherited⟩
    · exact .inl (.conflict refers conflicts named)
  · rename_i unsupported
    exact .error (.inl (.unsupported (by simpa using unsupported)))

theorem part_eq_nil_within {parts : Conditions} (h : d.conditionsWithin store depth b = .ok parts)
    (k : Bucket) : parts.part k = [] ↔ b.bucket k = [] := by
  cases depth <;> exact part_eq_nil h k

/-- A builder that leads into no circle is refused for a clause that it contains. The induction is
on how far clauses lead: the error of a clause is its own or comes from the builder inside it. -/
theorem fails_conditionsWithin (pattern : ∃ p, d.datePattern = .str p)
    (shallow : store.bare.Shallow depth b.bare) (plain : ∀ c, store.Contains b c → c.Plain) :
    FailsWith (fun e => ∃ c, store.Contains b c ∧ c.Fails d store e)
      (d.conditionsWithin store depth b) := by
  induction depth generalizing b with
  | zero =>
    intro e failed
    obtain ⟨k, c, mem, failed⟩ := fails_bucketFragments d _ b e failed
    have own : store.Contains b c := ⟨k, .own mem⟩
    rcases fails_clauseFragment pattern (fun _ _ written => by cases written)
      (plain c own) e failed with fails | ⟨r, refers, -⟩
    · exact ⟨c, own, fails⟩
    -- nothing is referred to any more, so there is no builder inside to blame
    · exact absurd (Builder.mem_refs_bare.mpr ⟨k, c, mem, refers⟩) shallow.not_mem_refs
  | succ depth ih =>
    intro e failed
    obtain ⟨k, c, mem, failed⟩ := fails_bucketFragments d _ b e failed
    have own : store.Contains b c := ⟨k, .own mem⟩
    rcases fails_clauseFragment pattern (fun r inner written => part_eq_nil_within written)
      (plain c own) e failed with fails | ⟨r, refers, failed⟩
    · exact ⟨c, own, fails⟩
    · have inside : ∀ c, store.Contains (store.get r) c → store.Contains b c :=
        fun c ⟨j, held⟩ => ⟨k, .inside mem refers trivial held⟩
      have further := shallow r (Builder.mem_refs_bare.mpr ⟨k, c, mem, refers⟩)
      rw [Store.get_bare] at further
      obtain ⟨other, held, fails⟩ :=
        ih further (fun c held => plain c (inside c held)) e failed
      exact ⟨other, inside other held, fails⟩

theorem not_faulty_of_conditions {parts : Conditions} (h : d.conditions store b = .ok parts)
    {c : Clause} (held : store.Contains b c) : ¬c.Faulty d store := by
  obtain ⟨k, held⟩ := held
  obtain ⟨f, written⟩ := written_of_holds held h
  rintro (unsupported | ⟨ref, refers, conflicts⟩)
  · cases unsupported.symm.trans (clauseFragment_eq_ok.mp written).1
  · exact not_conflicts_of_written written refers conflicts

/-- The conditions of a builder whose clauses come from well-typed calls, and lead into no circle,
are refused exactly if some clause in it or inside it is faulty, and then with the error of such a
clause. -/
theorem conditions_fail_iff {ref : Ref} (pattern : ∃ p, d.datePattern = .str p)
    (clear : store.bare.Untangled ref)
    (authored : ∀ c, store.Contains (store.get ref) c → c.Authored) :
    ((∃ e, d.conditions store (store.get ref) = .error e) ↔
      ∃ c, store.Contains (store.get ref) c ∧ c.Faulty d store) ∧
    ∀ e, d.conditions store (store.get ref) = .error e →
      ∃ c, store.Contains (store.get ref) c ∧ c.Fails d store e := by
  have shallow := clear.shallow
  rw [Store.get_bare, Store.size_bare] at shallow
  have told : FailsWith (fun e => ∃ c, store.Contains (store.get ref) c ∧ c.Fails d store e)
      (d.conditions store (store.get ref)) :=
    fails_conditionsWithin pattern shallow fun c held => (authored c held).plain
  refine ⟨⟨?_, ?_⟩, told⟩
  · rintro ⟨e, failed⟩
    obtain ⟨c, held, fails⟩ := told e failed
    exact ⟨c, held, fails.faulty⟩
  · rintro ⟨c, held, faulty⟩
    cases written : d.conditions store (store.get ref) with
    | ok parts => exact absurd faulty (not_faulty_of_conditions written held)
    | error e => exact ⟨e, rfl⟩

end Dialect

theorem Store.exists_mem_of_contains {store : Store} {ref : Ref} {c : Clause}
    (h : store.Contains (store.get ref) c) :
    ∃ inside ∈ store.builders, ∃ k, c ∈ inside.bucket k := by
  have stored : ∀ {r : Ref} {k : Bucket} {c : Clause}, c ∈ (store.get r).bucket k →
      store.get r ∈ store.builders := by
    intro r k c mem
    by_contra unknown
    rw [get_of_unknown (by_contra fun known => unknown ?_)] at mem
    · cases k <;> cases mem
    · simp only [get, size] at known ⊢
      rw [List.getElem?_eq_getElem (by omega)]
      exact List.getElem_mem _
  obtain ⟨k, held⟩ := h
  generalize same : store.get ref = b at held
  induction held generalizing ref with
  | own mem => exact ⟨_, stored (same ▸ mem), _, same ▸ mem⟩
  | inside _ _ _ _ ih => exact ih rfl

/-- A builder that asks a query and a filter, inside a negation, inside a group. -/
def Store.buried : Store :=
  ⟨[{ Builder.blank "id" with
      filters := [⟨.conjunction, .bool false, [], .group ⟨1⟩ (.str Bucket.query.name)⟩] },
    { Builder.blank "id" with
      wheres := [⟨.conjunction, .bool false, [], .negation ⟨2⟩⟩] },
    { Builder.blank "id" with
      wheres := [⟨.conjunction, .bool false, [], .absent "a"⟩]
      filters := [⟨.conjunction, .bool false, [], .present "b"⟩] }]⟩

/-- The negation fails, and with it the builder around the group. -/
theorem Dialect.conditions_fail_iff_buried :
    ∃ e, standard.conditions .buried (Store.buried.get ⟨0⟩) = .error e ∧
      ∃ c, Store.buried.Contains (Store.buried.get ⟨0⟩) c ∧ c.Fails .standard .buried e := by
  -- each builder refers to the next one only
  have clear : Store.buried.bare.Untangled ⟨0⟩ := by
    refine Store.untangled_of_rank Ref.index (fun x y refers => ?_) ⟨0⟩
    obtain ⟨i⟩ := x
    have known : i < 3 := Store.known_of_refers refers
    obtain rfl | rfl | rfl : i = 0 ∨ i = 1 ∨ i = 2 := by omega
    · obtain rfl := List.mem_singleton.mp refers
      decide
    · obtain rfl := List.mem_singleton.mp refers
      decide
    · cases refers
  have authored : ∀ c, Store.buried.Contains (Store.buried.get ⟨0⟩) c → c.Authored := by
    intro c held
    obtain ⟨b, stored, k, mem⟩ := Store.exists_mem_of_contains held
    rcases List.mem_cons.mp stored with rfl | stored
    · cases k
      · cases mem
      · obtain rfl := List.mem_singleton.mp mem
        exact ⟨.buried, ⟨0⟩, .group (.builder ⟨1⟩) Criterion.conjunction, _, _, trivial, rfl,
          List.mem_singleton.mpr rfl⟩
      · cases mem
    rcases List.mem_pair.mp stored with rfl | rfl
    · cases k
      · obtain rfl := List.mem_singleton.mp mem
        exact ⟨.buried, ⟨0⟩, .negation (.builder ⟨2⟩) Criterion.conjunction, _, _, trivial, rfl,
          List.mem_cons_self⟩
      · cases mem
      · cases mem
    · cases k
      · obtain rfl := List.mem_singleton.mp mem
        exact ⟨.buried, ⟨0⟩, .presence "a" Criterion.conjunction false, _, _, ⟨"a", rfl⟩, rfl,
          List.mem_cons_self⟩
      · obtain rfl := List.mem_singleton.mp mem
        exact ⟨.buried, ⟨0⟩, .presence "b" Criterion.conjunction true, _, _, ⟨"b", rfl⟩, rfl,
          List.mem_cons_self⟩
      · cases mem
  have conflict : Condition.Conflicts (Store.buried.get ⟨2⟩) (.negation ⟨2⟩) := ⟨nofun, nofun⟩
  have told := conditions_fail_iff (d := .standard) ⟨_, rfl⟩ clear authored
  obtain ⟨e, failed⟩ := told.1.mpr
    ⟨_, ⟨.filter, .inside List.mem_cons_self rfl trivial
      (.own (k := .query) List.mem_cons_self)⟩, .inr ⟨_, rfl, conflict⟩⟩
  exact ⟨e, failed, told.2 e failed⟩

end DocumentSearch
