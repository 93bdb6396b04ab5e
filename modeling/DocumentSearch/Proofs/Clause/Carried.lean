import DocumentSearch.Proofs.Clause.Asked
import DocumentSearch.Proofs.Clause.Form
import DocumentSearch.Proofs.Matching.Translation
import DocumentSearch.Proofs.Fluent.Stated

/-!
# Options that reach the fragment

Options can be given to clauses of any kind. Some kinds write their fragment first and then lay the
options into it; a denial goes around the whole. Other kinds never look at their options, and
neither does a range with both ends once it is negated: there the clause is written as if it had no
options.
-/
namespace DocumentSearch

open Fragment Outcome

def Condition.takesOptions (negated : Bool) : Condition → Bool
  | geoDistance _ _ _ | geoBounds _ _ | negation _ | parentId _ _ | script _ _ _
  | functionScore _ _ => false
  | date _ operator _ => !(operator = .equal && negated)
  | between _ _ _ => !negated
  | _ => true

/-- A way to write a fragment of one form with options, which may be denied afterwards. -/
def Fragment.Lays (write : Entries → Except Error Entries) : Prop :=
  ∀ given f, write given = .ok f → ∃ denied kind body, Form kind body ∧
    ∀ options, write options =
      negatedIf denied <$> (liftM (withOptions [(kind, .map body)] options) : Except Error Entries)

namespace Fragment.Lays

variable {α : Type}

theorem bind {x : Except Error α} {write : Entries → α → Except Error Entries}
    (h : ∀ a, x = .ok a → Lays (write · a)) : Lays (fun options => x >>= write options) := by
  cases x with
  | error e => exact fun _ _ refused => by cases refused
  | ok a => exact h a rfl

theorem refused (e : Error) (write : Entries → α → Except Error Entries) :
    Lays (fun options => throw e >>= write options) :=
  .bind fun _ refused => by cases refused

theorem denied {kind : Value} {body : Entries} (form : Form kind body) (denied : Bool) :
    Lays (fun options =>
      (liftM (withOptions [(kind, .map body)] options) : Except Error Entries) >>= fun fragment =>
        .ok (negatedIf denied fragment)) :=
  fun _ _ _ => ⟨denied, kind, body, form, fun _ => (map_eq_pure_bind _ _).symm⟩

theorem plain {kind : Value} {body : Entries} (form : Form kind body) :
    Lays (fun options =>
      (liftM (withOptions [(kind, .map body)] options) : Except Error Entries)) :=
  fun _ _ _ => ⟨false, kind, body, form, fun options => by
    change _ = (fun f => f) <$> _
    rw [id_map']⟩

end Fragment.Lays

namespace Dialect

variable {d : Dialect} {sub : Ref → Except Error Conditions} {negated : Bool}

theorem lays_comparison (column : Value) (operator : Operator) (value : Value) :
    Lays (d.comparison column operator value · negated) := by
  refine .bind fun converted _ => ?_
  split
  · exact .denied (.table (by decide) (by decide) _) _
  · dsimp only
    split
    · rename_i key ranged
      refine .bind fun fragment keyed => ?_
      obtain rfl := Engine.keyed_eq_ok (lift_eq_ok.mp keyed)
      have noBoost : Table.find? [(Value.str key, converted)] (.str "boost") = none := by
        cases operator <;> cases ranged <;> simp [Table.find?_cons]
      exact .denied (.field (by decide) (by decide) _ noBoost) _
    · refine .bind fun fragment keyed => ?_
      obtain rfl := Engine.keyed_eq_ok (lift_eq_ok.mp keyed)
      exact .denied (.value (by decide) _ _) _

theorem lays_between (column low high : Value) :
    Lays (d.between column low high · false) := by
  refine .bind fun column _ => .bind fun low _ => .bind fun high _ => ?_
  exact .plain (.field (by decide) (by decide) _ (by simp [Table.find?_cons]))

theorem lays_among (column : Value) (values : List Value) :
    Lays (d.among column values · negated) := by
  refine .bind fun converted _ => .bind fun terms _ => ?_
  exact .denied (.table (by decide) (by decide) _) _

theorem form_of_textMatch {text fields matchType fuzziness : Value} {f : Entries}
    (h : textMatch text fields matchType fuzziness = .ok f) :
    ∃ kind body, f = [(kind, .map body)] ∧ Form kind body := by
  simp only [textMatch, bind_eq_ok] at h
  obtain ⟨chosen, -, h⟩ := h
  split at h
  · rename_i field
    simp only [bind_eq_ok, pure_eq_ok] at h
    obtain ⟨body, single, rfl⟩ := h
    obtain rfl := Engine.single_eq_ok single
    exact ⟨"match", _, rfl, .field (by decide) (by decide) field (find?_boost_matched _ _)⟩
  · obtain rfl := pure_eq_ok.mp h
    exact ⟨"multi_match", _, rfl, .table (by decide) (by decide) _⟩

theorem lays_search (text fields matchType fuzziness : Value) (constantScore : Bool) :
    Lays (search text fields matchType fuzziness constantScore · negated) := by
  refine .bind fun f matched => ?_
  obtain ⟨kind, body, rfl, form⟩ := form_of_textMatch (lift_eq_ok.mp matched)
  cases constantScore with
  | true => exact .denied (.table (by decide) (by decide) _) _
  | false => exact .denied form _

theorem lays_group {inner : Conditions} {part : Value} {k : Bucket}
    (named : partOf part = .ok (some k)) (bucket : IsBucket (inner.part k))
    (filled : inner.part k ≠ []) : Lays (group inner part ·) := by
  have read : (liftM (partOf part) : Except Error (Option Bucket)) = .ok (some k) :=
    lift_eq_ok.mpr named
  obtain ⟨body, some⟩ : ∃ body, inner.part k = [(Value.str "bool", .map body)] := by
    generalize inner.part k = fragment at bucket filled
    cases bucket with
    | empty => exact absurd rfl filled
    | all => exact ⟨_, rfl⟩
    | any => exact ⟨_, rfl⟩
  have written : ∀ options, group inner part options =
      (liftM (withOptions [("bool", .map body)] options) : Except Error Entries) := by
    intro options
    unfold group
    rw [read]
    change (if (inner.part k).isEmpty then pure matchAll
      else liftM (withOptions (inner.part k) options)) = _
    rw [some]
    rfl
  simp only [written]
  exact .plain (.table (by decide) (by decide) _)

theorem lays_nestedDocument (column : Value) (inner : Conditions) :
    Lays (nestedDocument column inner · negated) := by
  unfold nestedDocument
  split
  · exact .refused _ _
  · exact .denied (.table (by decide) (by decide) _) _

theorem lays_relation {j : Joint} (kind : ClauseKind) (documentType : Value) (inner : Conditions) :
    Lays (relation kind j.names.1 j.names.2 documentType inner · negated) := by
  unfold relation
  split
  · exact .refused _ _
  · exact .denied (.table (by cases j <;> decide) (by cases j <;> decide) _) _

/-- A condition that takes its options lays them into what it writes. A group does so if the bucket
that it names has clauses. -/
theorem lays_conditionFragment {c : Condition} (takes : c.takesOptions negated = true)
    (filled : ∀ ref part inner, c = .group ref part → sub ref = .ok inner →
      ∃ k, partOf part = .ok (some k) ∧ IsBucket (inner.part k) ∧ inner.part k ≠ []) :
    Lays (d.conditionFragment sub · negated c) := by
  cases c with
  | basic column operator value => exact lays_comparison column operator value
  | date column operator value =>
    by_cases equal : operator = .equal
    · obtain rfl : negated = false := by simpa [Condition.takesOptions, equal] using takes
      simp only [conditionFragment, equal, if_true]
      exact lays_between column value value
    · simp only [conditionFragment, equal, if_false]
      exact lays_comparison column operator value
  | among column values => exact lays_among column values
  | notAmong column values => exact lays_among column values
  | between column low high =>
    obtain rfl : negated = false := by simpa [Condition.takesOptions] using takes
    exact lays_between column low high
  | absent column => exact lays_comparison column .equal .null
  | present column => exact lays_comparison column .unequal .null
  | search text fields matchType fuzziness constantScore =>
    exact lays_search text fields matchType fuzziness constantScore.truthy
  | group query part =>
    refine .bind fun inner written => ?_
    obtain ⟨k, named, bucket, some⟩ := filled query part inner rfl written
    exact lays_group named bucket some
  | nestedDocument column query =>
    exact .bind fun inner _ => lays_nestedDocument column inner
  | parent documentType query =>
    exact .bind fun inner _ => lays_relation (j := .parent) _ documentType inner
  | child documentType query =>
    exact .bind fun inner _ => lays_relation (j := .child) _ documentType inner
  | startsWith column value =>
    refine .bind fun body single => ?_
    obtain rfl := Engine.single_eq_ok (lift_eq_ok.mp single)
    exact .denied (.value (by decide) _ _) _
  | geoDistance | geoBounds | negation | parentId | script | functionScore => cases takes

theorem conditionFragment_skips {c : Condition} (skips : c.takesOptions negated = false)
    (options : Entries) :
    d.conditionFragment sub options negated c = d.conditionFragment sub [] negated c := by
  cases c with
  | geoDistance | geoBounds | negation | parentId | script | functionScore => rfl
  | date column operator value =>
    obtain ⟨rfl, rfl⟩ : operator = .equal ∧ negated = true := by
      simpa [Condition.takesOptions] using skips
    rfl
  | between column low high =>
    obtain rfl : negated = true := by simpa [Condition.takesOptions] using skips
    rfl
  | _ => cases skips

end Dialect

/-! ## The clauses of calls -/

/-- If a condition is a group, it names a bucket in which its builder has clauses. -/
def Condition.Filled (store : Store) : Condition → Prop
  | group ref part => ∃ k : Bucket, part = .str k.name ∧ (store.get ref).bucket k ≠ []
  | _ => True

/-- Builders that have lost no bucket: what had clauses has some still. -/
def Store.Retains (store later : Store) : Prop :=
  ∀ ref k, (store.get ref).bucket k ≠ [] → (later.get ref).bucket k ≠ []

theorem Condition.Filled.mono {c : Condition} {store later : Store} (filled : c.Filled store)
    (retains : store.Retains later) : c.Filled later := by
  cases c with
  | group ref part =>
    obtain ⟨k, named, some⟩ := filled
    exact ⟨k, named, retains ref k some⟩
  | _ => trivial

theorem Store.retains_place (store : Store) (self : Ref) (placed more : List (Bucket × Clause)) :
    (store.modify self (·.place placed)).Retains (store.modify self (·.place (placed ++ more))) := by
  intro ref k some
  rw [get_modify] at some ⊢
  split at some
  · rw [if_pos ‹_›]
    rw [Builder.bucket_place] at some ⊢
    rw [List.filter_append, List.map_append, ← List.append_assoc]
    exact List.append_ne_nil_of_left_ne_nil some _
  · rwa [if_neg ‹_›]

namespace Criterion

variable {store : Store} {self : Ref} {criterion : Criterion} {refs : List Ref}
  {placed : List (Bucket × Clause)}

theorem States.filled {c : Condition} (stated : criterion.States c) (store : Store) :
    c.Filled store := by
  cases stated <;> trivial

theorem Stands.filled (h : Stands store self criterion refs placed) :
    ∀ c ∈ placed, c.2.condition.Filled (store.modify self (·.place placed)) := by
  induction h with
  | nil => exact List.forall_mem_nil _
  | made before made ih =>
    refine List.forall_mem_append.mpr ⟨fun c mem => ?_, List.forall_mem_singleton.mpr ?_⟩
    · exact (ih c mem).mono (store.retains_place self _ _)
    · exact made.condition.filled _
  | group before joins inner ih =>
    refine List.forall_mem_append.mpr ⟨fun c mem => ?_, fun c mem => ?_⟩
    · exact (ih c mem).mono (store.retains_place self _ _)
    · obtain ⟨-, some, grouping⟩ := Store.mem_groupings.mp mem
      have filled : (Clause.grouping joins inner c.1).condition.Filled _ := ⟨c.1, rfl, some⟩
      rw [grouping]
      exact filled.mono (store.retains_place self _ _)

end Criterion

theorem Builder.filled_clausesOf {store : Store} {self : Ref} {kind : Value}
    {arguments : Arguments Value} {clauses : List (Bucket × Clause)}
    (h : Builder.clausesOf store self kind arguments = .ok clauses) :
    ∀ c ∈ clauses, c.2.condition.Filled (store.modify self (·.place clauses)) := by
  obtain ⟨_, -, h⟩ := bind_eq_ok.mp h
  obtain ⟨criterion, -, h⟩ := bind_eq_ok.mp h
  exact (criterion.stands_clauses store self clauses h).filled

namespace Dialect

variable {d : Dialect} {later : Store}

/-- A clause that takes its options lays them into its fragment, unless it is a group of nothing. -/
theorem lays_fragmentIn {c : Clause} (filled : c.condition.Filled later)
    (takes : c.condition.takesOptions c.negated.truthy = true) :
    Lays fun options => d.fragmentIn later (c.optioned options) := by
  intro given f h
  obtain ⟨supported, h⟩ := clauseFragment_eq_ok.mp h
  have lays : Lays (d.conditionFragment (fun ref => d.conditions later (later.get ref)) ·
      c.negated.truthy c.condition) := by
    refine lays_conditionFragment takes fun ref part inner group written => ?_
    rw [group] at filled
    obtain ⟨k, rfl, some⟩ := filled
    have whole := conditions_unfold written
    obtain ⟨parts, -, shape⟩ := (d.bucketFragment_eq_ok _).mp (bucketFragment_part whole k)
    refine ⟨k, by cases k <;> rfl, shape ▸ isBucket_joining parts, ?_⟩
    exact mt (part_eq_nil whole k).mp some
  obtain ⟨denied, kind, body, form, written⟩ := lays given f h
  refine ⟨denied, kind, body, form, fun options => (if_pos supported).trans (written options)⟩

end Dialect

/-- A call with options adds its clauses with these options. A clause of a kind that takes options
is written as a fragment that carries all of them where the fragment without options has no entry of
its own in their place, and once they are taken out it is that fragment again; a denial stays around
both. A clause that does not take options is written as without them. -/
theorem Edit.withOptions_carries {store : Store} {self : Ref} {b : Builder} {kind : Value}
    {arguments : Arguments Value} {given : Value} {clauses : List (Bucket × Clause)}
    {options : Entries} (made : Builder.clausesOf store self kind arguments = .ok clauses)
    (table : given.toEntries = .ok options) (readable : Readable options) :
    (Edit.withOptions kind arguments given).apply store self b =
        (.ok (), b.place (clauses.map fun c => (c.1, c.2.optioned options))) ∧
      ∀ c ∈ clauses, ∀ (d : Dialect) (later : Store),
        (store.modify self (·.place clauses)).Retains later → ∀ plain,
        d.fragmentIn later (c.2.optioned []) = .ok plain →
          ∃ written, d.fragmentIn later (c.2.optioned options) = .ok written ∧
            (c.2.condition.takesOptions c.2.negated.truthy = true →
              ∃ denied core carrying, plain = negatedIf denied core ∧
                written = negatedIf denied carrying ∧
                (Carries options core carrying ↔ Spares options core)) ∧
            (c.2.condition.takesOptions c.2.negated.truthy = false → written = plain) := by
  constructor
  · simp only [Edit.apply, Builder.withClauseOptions, made, table]
    rfl
  · intro c mem d later retains plain h
    cases takes : c.2.condition.takesOptions c.2.negated.truthy with
    | true =>
      have filled := (Builder.filled_clausesOf made c mem).mono retains
      obtain ⟨denied, kind, body, form, written⟩ :=
        Dialect.lays_fragmentIn (d := d) filled takes [] plain h
      obtain ⟨carrying, done, carries⟩ := form.carries readable
      refine ⟨negatedIf denied carrying, ?_, fun _ => ?_, nofun⟩
      · refine (written options).trans ?_
        rw [done]
        rfl
      · have whole := (written []).symm.trans h
        rw [withOptions_nil] at whole
        exact ⟨denied, _, carrying, (Except.ok.inj whole).symm, rfl, carries⟩
    | false =>
      refine ⟨plain, ?_, nofun, fun _ => rfl⟩
      obtain ⟨supported, h⟩ := Dialect.clauseFragment_eq_ok.mp h
      refine Dialect.clauseFragment_eq_ok.mpr ⟨supported, ?_⟩
      exact (Dialect.conditionFragment_skips takes options).trans h

/-- A prefix keeps its boost and its inner hits, and a distance loses them. -/
theorem Edit.withOptions_carries_prefix :
    let options : Entries := [("boost", .int 2), ("inner_hits", .bool true)]
    let core : Entries := [("prefix", .map [("title", "a")])]
    let clause : Entries → Condition → Clause := fun options condition =>
      ⟨.conjunction, .bool false, options, condition⟩
    let distance : Condition := .geoDistance "place" (.list [.int 1, .int 2]) "5km"
    let fragment : Clause → Except Error Entries := Dialect.standard.fragmentIn .empty
    (∃ carrying, fragment (clause options (.startsWith "title" "a")) = .ok carrying ∧
      Carries options core carrying) ∧
    fragment (clause options distance) = fragment (clause [] distance) := by
  intro options core clause distance fragment
  have readable : Readable options := by
    intro v asked
    obtain rfl : Value.bool true = v := by simpa [options, Table.find?_cons] using asked
    exact ⟨.map [], rfl⟩
  have table : (Value.map options).toEntries = .ok options := rfl
  constructor
  · have made : Builder.clausesOf .empty ⟨0⟩ "Prefix" ⟨["title", "a"], []⟩ =
        .ok [(.query, clause [] (.startsWith "title" "a"))] := rfl
    have both := (Edit.withOptions_carries (b := .blank "id") made table readable).2 _
      List.mem_cons_self Dialect.standard .empty (fun _ _ h => h) core rfl
    obtain ⟨written, done, carried, -⟩ := both
    obtain ⟨denied, inner, carrying, plain, rfl, carries⟩ := carried rfl
    cases denied with
    | true => simp [core, negatedIf, mustNot] at plain
    | false =>
      obtain rfl : core = inner := plain
      refine ⟨carrying, done, carries.mpr ⟨fun _ => .inl (by decide), fun _ => ?_⟩⟩
      simp [Table.find?_cons]
  · have made : Builder.clausesOf .empty ⟨0⟩ "GeoDistance"
        ⟨["place", .list [.int 1, .int 2], "5km"], []⟩ =
        .ok [(.query, clause [] distance)] := rfl
    obtain ⟨written, done, -, lost⟩ := (Edit.withOptions_carries (b := .blank "id") made table
      readable).2 _ List.mem_cons_self Dialect.standard .empty (fun _ _ h => h) _ rfl
    exact done.trans (congrArg Except.ok (lost rfl))

end DocumentSearch
