import DocumentSearch.Criterion
import DocumentSearch.Proofs.Outcome

/-!
# What criteria stand for

A criterion makes one clause for the query, or it takes builders as groups, or it does so for each
key of a table in turn. Which clauses come of it is said here once. What they refer to, which of
them are plain and where they go follows.
-/
namespace DocumentSearch

open Outcome

namespace Value

def builder? : Value → Option Ref
  | .builder ref => some ref
  | _ => none

/-- The builders that a value in the place of a column is or has among its keys. -/
def columnRefs (v : Value) : List Ref :=
  v.builder?.toList ++ (v.map?.getD []).flatMap (fun p => p.1.builder?.toList)

variable {v : Value}

theorem builder?_eq_none (h : ∀ ref, v ≠ .builder ref) : v.builder? = none := by
  cases v with
  | builder ref => exact absurd rfl (h ref)
  | _ => rfl

theorem columnRefs_of_map? {entries : List (Value × Value)} (h : v.map? = some entries) :
    v.columnRefs = entries.flatMap (fun p => p.1.builder?.toList) := by
  have plain : v.builder? = none := builder?_eq_none fun ref same => by
    rw [same] at h
    cases h
  simp [columnRefs, plain, h]

theorem columnRefs_eq_nil (plain : ∀ ref, v ≠ .builder ref) (h : v.map? = none) :
    v.columnRefs = [] := by
  simp [columnRefs, builder?_eq_none plain, h]

end Value

/-! ## Groups -/

/-- The clause by which a part of a builder joins as a group. -/
def Clause.grouping (connective : Connective) (inner : Ref) (k : Bucket) : Clause :=
  ⟨connective, .bool false, [], .group inner (.str k.name)⟩

namespace Store

variable {store : Store} {connective : Connective} {inner : Ref} {k : Bucket}

/-- What a group adds to a bucket: the query and the filter go to their like, if there is any. -/
def grouping (store : Store) (connective : Connective) (inner : Ref) (k : Bucket) :
    List Clause :=
  if k = .postFilter ∨ (store.get inner).bucket k = [] then [] else [.grouping connective inner k]

/-- All that a group adds, with the buckets. -/
def groupings (store : Store) (connective : Connective) (inner : Ref) : List (Bucket × Clause) :=
  (store.grouping connective inner .query).map (.query, ·) ++
    (store.grouping connective inner .filter).map (.filter, ·)

theorem grouping_cases (store : Store) (connective : Connective) (inner : Ref) (k : Bucket) :
    ((store.get inner).bucket k = [] ∨ k = .postFilter) ∧ store.grouping connective inner k = [] ∨
      (store.get inner).bucket k ≠ [] ∧
        store.grouping connective inner k = [.grouping connective inner k] := by
  unfold grouping
  split
  · rename_i none
    exact .inl ⟨none.symm, rfl⟩
  · rename_i some
    exact .inr ⟨fun none => some (.inr none), rfl⟩

theorem mem_groupings {c : Bucket × Clause} : c ∈ store.groupings connective inner ↔
    c.1 ≠ .postFilter ∧ (store.get inner).bucket c.1 ≠ [] ∧
      c.2 = .grouping connective inner c.1 := by
  obtain ⟨k, c⟩ := c
  cases k <;> simp [groupings, grouping]

end Store

namespace Criterion

open Store (groupings)

theorem group_eq (connective : Value) (inner : Ref) (k : Bucket) :
    Clause.group (plainly connective) (.builder inner) (.str k.name) =
      (Clause.connectiveOf .group connective).map (Clause.grouping · inner k) := by
  unfold Clause.group Clause.make
  change Clause.connectiveOf .group connective >>= _ = _
  cases Clause.connectiveOf .group connective <;> rfl

theorem connectiveOf_name (kind : ClauseKind) (connective : Connective) :
    Clause.connectiveOf kind connective.name = .ok connective := by
  cases connective <;> rfl

theorem groupClauses_eq (store : Store) {connective : Value} {joins : Connective}
    (named : Clause.connectiveOf .group connective = .ok joins) (inner : Ref) :
    groupClauses store (.builder inner) connective = .ok (store.groupings joins inner) := by
  have part : ∀ k, k ≠ .postFilter →
      (if ((store.get inner).bucket k).isEmpty then .ok []
        else do
          return [(k, ← Clause.group (plainly connective) (.builder inner) (.str k.name))]) =
        (.ok ((store.grouping joins inner k).map (k, ·)) :
          Except Error (List (Bucket × Clause))) := by
    intro k asked
    rw [group_eq, named]
    rcases store.grouping_cases joins inner k with ⟨none, nothing⟩ | ⟨some, added⟩
    · rw [nothing, if_pos (List.isEmpty_iff.mpr (none.resolve_right asked))]
      rfl
    · rw [added, if_neg (mt List.isEmpty_iff.mp some)]
      rfl
  simp only [groupClauses, part .query (by decide), part .filter (by decide)]
  rfl

theorem groupClauses_eq_ok {store : Store} {query connective : Value}
    {clauses : List (Bucket × Clause)} (h : groupClauses store query connective = .ok clauses) :
    ∃ inner joins, query = .builder inner ∧ clauses = store.groupings joins inner := by
  cases query with
  | builder inner =>
    refine ⟨inner, ?_⟩
    cases named : Clause.connectiveOf .group connective with
    | ok joins =>
      rw [groupClauses_eq store named] at h
      exact ⟨joins, rfl, (Except.ok.inj h).symm⟩
    | error e =>
      -- Without a connective there can be no clause, but neither need there be one.
      refine ⟨.conjunction, rfl, ?_⟩
      have part : ∀ {k : Bucket} {some : List (Bucket × Clause)},
          (if ((store.get inner).bucket k).isEmpty then .ok []
            else do
              return [(k, ← Clause.group (plainly connective) (.builder inner) (.str k.name))]) =
            .ok some → some = [] ∧ store.grouping .conjunction inner k = [] := by
        intro k some h
        rw [group_eq, named] at h
        split at h
        · rename_i none
          exact ⟨(Except.ok.inj h).symm, if_pos (.inr (List.isEmpty_iff.mp none))⟩
        · cases h
      obtain ⟨query, asked, h⟩ := bind_eq_ok.mp h
      obtain ⟨filter, kept, h⟩ := bind_eq_ok.mp h
      obtain rfl := pure_eq_ok.mp h
      obtain ⟨rfl, none⟩ := part asked
      obtain ⟨rfl, nothing⟩ := part kept
      rw [groupings, none, nothing]
      rfl
  | _ => cases h

/-! ## Clauses of their own -/

/-- The builders whose clauses a criterion takes as groups. -/
def grouped : Criterion → List Ref
  | comparison column _ _ _ => column.columnRefs
  | group query _ => query.builder?.toList
  | _ => []

/-- The conditions that a criterion may state, apart from groups. -/
inductive States : Criterion → Condition → Prop
  | comparison {column : Value} {operator value : Option Value} {connective : Value}
      (plain : ∀ ref, column ≠ .builder ref) (noTable : column.map? = none) (o : Operator)
      (v : Value) : States (comparison column operator value connective) (.basic column o v)
  | entry {column : Value} {operator value : Option Value} {connective : Value}
      {entries : List (Value × Value)} {p : Value × Value} (table : column.map? = some entries)
      (mem : p ∈ entries) (plain : ∀ ref, p.1 ≠ .builder ref) (o : Operator) :
      States (comparison column operator value connective) (.basic p.1 o p.2)
  | among {column values connective : Value} (items : List Value) :
      States (membership column values connective false) (.among column items)
  | notAmong {column values connective : Value} (items : List Value) :
      States (membership column values connective true) (.notAmong column items)
  | range {column values connective negated : Value} (low high : Value) :
      States (range column values connective negated) (.between column low high)
  | absent {column connective : Value} : States (presence column connective false) (.absent column)
  | present {column connective : Value} : States (presence column connective true) (.present column)
  | date {column operator connective : Value} {value : Option Value} (o : Operator) (v : Value) :
      States (date column operator value connective) (.date column o v)
  | datePart {part : DatePart} {column operator connective : Value} {value : Option Value}
      (source : Value) (params : Entries) :
      States (datePart part column operator value connective) (.script source (.map params) .null)
  | geoDistance {column location distance unit connective negated : Value} (place far : Value) :
      States (geoDistance column location distance unit connective negated)
        (.geoDistance column place far)
  | geoBounds {column bounds connective negated : Value} (box : Value) :
      States (geoBounds column bounds connective negated) (.geoBounds column box)
  | search {text fields matchType fuzziness constantScore connective : Value} :
      States (search text fields matchType fuzziness constantScore connective)
        (.search text fields matchType fuzziness constantScore)
  | nestedDocument {column connective : Value} (inner : Ref) :
      States (nestedDocument column (.builder inner) connective) (.nestedDocument column inner)
  | negation {connective : Value} (inner : Ref) :
      States (negation (.builder inner) connective) (.negation inner)
  | parent {documentType options connective : Value} (inner : Ref) :
      States (parent documentType (.builder inner) options connective) (.parent documentType inner)
  | child {documentType options connective : Value} (inner : Ref) :
      States (child documentType (.builder inner) options connective) (.child documentType inner)
  | parentId {relationType id connective : Value} :
      States (parentId relationType id connective) (.parentId relationType id)
  | startsWith {column value connective negated : Value} :
      States (startsWith column value connective negated) (.startsWith column value)
  | script {source params lang connective : Value} (filled : Value)
      (shape : filled = .null ∨ ∃ entries, filled = .map entries) :
      States (script source params lang connective) (.script source filled lang)
  | functionScore {functionType arguments connective : Value} (entries : Entries) :
      States (functionScore functionType arguments connective)
        (.functionScore functionType (.map entries))

/-- The options that a criterion gives to what it states. -/
def options : Criterion → Value
  | parent _ _ options _ | child _ _ options _ => options.orElse (.map [])
  | _ => .map []

/-- A clause that a criterion makes, other than a group. -/
structure Makes (criterion : Criterion) (c : Clause) : Prop where
  options : ∃ kind, Clause.optionsOf kind criterion.options = .ok c.options
  condition : criterion.States c.condition

/-- The clauses that a criterion stands for on the builder at a place, one after the other: what it
makes, and the groups of some builders, as the clauses before them leave the store. -/
inductive Stands (store : Store) (self : Ref) (criterion : Criterion) :
    List Ref → List (Bucket × Clause) → Prop
  | nil : Stands store self criterion [] []
  | made {refs : List Ref} {placed : List (Bucket × Clause)} {c : Clause}
      (before : Stands store self criterion refs placed) (made : criterion.Makes c) :
      Stands store self criterion refs (placed ++ [(.query, c)])
  | group {refs : List Ref} {placed : List (Bucket × Clause)}
      (before : Stands store self criterion refs placed) (joins : Connective) (inner : Ref) :
      Stands store self criterion (refs ++ [inner])
        (placed ++ (store.modify self (·.place placed)).groupings joins inner)

variable {store : Store} {self : Ref} {criterion : Criterion} {refs : List Ref}
  {placed : List (Bucket × Clause)}

theorem stands_make {kind : ClauseKind} {j : Clause.Joining} {condition : Except Error Condition}
    (given : j.options = criterion.options)
    (h : GivesOnly (criterion.States ·) condition) :
    GivesOnly (Stands store self criterion []) (single (Clause.make kind j condition)) := by
  refine .bind fun c made => .ok (.made .nil ?_)
  obtain ⟨joins, -, made⟩ := bind_eq_ok.mp made
  obtain ⟨options, read, made⟩ := bind_eq_ok.mp made
  obtain ⟨stated, done, made⟩ := bind_eq_ok.mp made
  obtain rfl := pure_eq_ok.mp made
  exact ⟨⟨kind, given ▸ read⟩, h stated done⟩

theorem states_queryOf {kind : ClauseKind} {query : Value} {f : Ref → Condition}
    (states : ∀ inner, query = .builder inner → criterion.States (f inner)) :
    GivesOnly (criterion.States ·) (do return f (← Clause.queryOf kind query)) := by
  cases query with
  | builder inner => exact .ok (states inner rfl)
  | _ => exact .error _

/-- The groups of one builder, as the clauses before them leave the store. -/
theorem Stands.groups {query connective : Value} (before : Stands store self criterion refs placed) :
    GivesOnly
      (fun added => Stands store self criterion (refs ++ query.builder?.toList) (placed ++ added))
      (groupClauses (store.modify self (·.place placed)) query connective) := by
  intro added h
  obtain ⟨inner, joins, rfl, rfl⟩ := groupClauses_eq_ok h
  exact before.group joins inner

theorem stands_groupClauses (query connective : Value) :
    GivesOnly (Stands store self criterion query.builder?.toList)
      (groupClauses store query connective) := by
  have alone : GivesOnly
      (fun added => Stands store self criterion ([] ++ query.builder?.toList) ([] ++ added))
      (groupClauses (store.modify self (·.place [])) query connective) := Stands.nil.groups
  rwa [Store.modify, Builder.place, List.foldl_nil, Store.set_get] at alone

theorem Stands.entry {column connective : Value} {operator value : Option Value}
    {entries : List (Value × Value)} {p : Value × Value} (table : column.map? = some entries)
    (mem : p ∈ entries)
    (before : Stands store self (comparison column operator value connective) refs placed) :
    GivesOnly (Stands store self (comparison column operator value connective)
      (refs ++ p.1.builder?.toList)) (entryClauses store self connective placed p) := by
  refine .bind fun added h => .ok ?_
  unfold columnClauses at h
  split at h
  · exact before.groups added h
  · rename_i plain
    rw [Value.builder?_eq_none plain, Option.toList_none, List.append_nil]
    obtain ⟨c, made, h⟩ := bind_eq_ok.mp h
    obtain rfl := pure_eq_ok.mp h
    obtain ⟨joins, -, made⟩ := bind_eq_ok.mp made
    obtain ⟨options, read, made⟩ := bind_eq_ok.mp made
    obtain ⟨stated, done, made⟩ := bind_eq_ok.mp made
    obtain rfl := pure_eq_ok.mp made
    obtain ⟨o, -, done⟩ := bind_eq_ok.mp done
    obtain rfl := pure_eq_ok.mp done
    exact before.made ⟨⟨.basic, read⟩, .entry table mem plain o⟩

theorem Stands.entries {column connective : Value} {operator value : Option Value}
    {entries rest : List (Value × Value)} (table : column.map? = some entries)
    (inside : rest ⊆ entries)
    (before : Stands store self (comparison column operator value connective) refs placed) :
    GivesOnly (Stands store self (comparison column operator value connective)
      (refs ++ rest.flatMap (fun p => p.1.builder?.toList)))
      (rest.foldlM (entryClauses store self connective) placed) := by
  induction rest generalizing refs placed with
  | nil => exact .ok (by simpa using before)
  | cons p rest ih =>
    obtain ⟨mem, inside⟩ := List.cons_subset.mp inside
    rw [List.foldlM_cons]
    refine .bind fun grown done => ?_
    rw [List.flatMap_cons, ← List.append_assoc]
    exact ih inside (before.entry table mem grown done)

theorem stands_comparisonClauses (column : Value) (operator value : Option Value)
    (connective : Value) :
    GivesOnly (Stands store self (comparison column operator value connective) column.columnRefs)
      (comparisonClauses store self column operator value connective) := by
  unfold comparisonClauses
  split
  · exact stands_groupClauses _ connective
  · rename_i table
    rw [Value.columnRefs_of_map? table]
    exact Stands.nil.entries table (List.Subset.refl _)
  · rename_i plain noTable
    rw [Value.columnRefs_eq_nil plain noTable]
    split
    · exact .error _
    · exact stands_make rfl (.bind fun o _ => .ok (.comparison plain noTable o _))

/-- What holds of all that a criterion makes and of the groups that it takes. -/
theorem Stands.forall {P : Clause → Prop} (h : Stands store self criterion refs placed)
    (made : ∀ c, criterion.Makes c → P c)
    (group : ∀ joins, ∀ inner ∈ refs, ∀ k, P (.grouping joins inner k)) : ∀ c ∈ placed, P c.2 := by
  induction h with
  | nil => exact List.forall_mem_nil _
  | made before makes ih =>
    exact List.forall_mem_append.mpr ⟨ih group, List.forall_mem_singleton.mpr (made _ makes)⟩
  | group before joins inner ih =>
    refine List.forall_mem_append.mpr ⟨ih fun j r mem => group j r (List.mem_append_left _ mem), ?_⟩
    intro c mem
    rw [(Store.mem_groupings.mp mem).2.2]
    exact group joins inner (List.mem_append_right _ List.mem_cons_self) c.1

/-- What comes of a criterion that is not refused. -/
theorem stands_clauses (store : Store) (self : Ref) (criterion : Criterion) :
    GivesOnly (Stands store self criterion criterion.grouped) (criterion.clauses store self) := by
  cases criterion with
  | comparison column operator value connective =>
    exact stands_comparisonClauses column operator value connective
  | group query connective => exact stands_groupClauses query connective
  | membership column values connective negated =>
    cases negated <;> exact stands_make rfl (.bind fun items _ => .ok (by constructor))
  | range column values connective negated =>
    exact .bind fun _ _ => stands_make rfl (.bind fun bounds _ => .ok (.range bounds.1 bounds.2))
  | presence column connective negated =>
    cases negated <;> exact stands_make rfl (.ok (by constructor))
  | date column operator value connective =>
    exact stands_make rfl (.bind fun o _ => .ok (.date o _))
  | datePart part column operator value connective =>
    exact .bind fun _ _ => .bind fun _ _ => stands_make rfl (.ok (.datePart _ _))
  | geoDistance column location distance unit connective negated =>
    exact .bind fun _ _ => stands_make rfl (.bind fun far _ => .ok (.geoDistance _ far))
  | geoBounds column bounds connective negated =>
    refine stands_make rfl ?_
    split
    · exact .ok (.geoBounds _)
    · exact .error _
  | search text fields matchType fuzziness constantScore connective =>
    exact stands_make rfl (.ok .search)
  | nestedDocument column query connective =>
    refine stands_make rfl (.bind fun blank _ => ?_)
    split
    · exact .error _
    · exact states_queryOf fun inner same => same ▸ .nestedDocument inner
  | negation query connective =>
    exact stands_make rfl (states_queryOf fun inner same => same ▸ .negation inner)
  | parent documentType query options connective =>
    exact stands_make rfl (states_queryOf fun inner same => same ▸ .parent inner)
  | child documentType query options connective =>
    exact stands_make rfl (states_queryOf fun inner same => same ▸ .child inner)
  | parentId relationType id connective => exact stands_make rfl (.ok .parentId)
  | startsWith column value connective negated => exact stands_make rfl (.ok .startsWith)
  | script source params lang connective =>
    refine .bind fun filled read => stands_make rfl (.ok (.script filled ?_))
    unfold paramsOf at read
    split at read
    · obtain ⟨entries, -, read⟩ := bind_eq_ok.mp read
      exact .inr ⟨entries, (pure_eq_ok.mp read).symm⟩
    · exact .inl (Except.ok.inj read).symm
  | functionScore functionType arguments connective =>
    exact .bind fun entries _ => stands_make rfl (.ok (.functionScore entries))

end Criterion

end DocumentSearch
