import DocumentSearch.Edit
import DocumentSearch.Proofs.Matching.Kept

/-!
# Clauses as calls ask for them

A call of a kind with options adds the clauses that the call stands for, with the options in place
of those that they had.
-/
namespace DocumentSearch

open Outcome

def Clause.optioned (options : Entries) (c : Clause) : Clause := { c with options := options }

/-- The fragments of the clauses that a call of a kind adds to a builder, with options. -/
def Dialect.fragmentsWith (d : Dialect) (store : Store) (self : Ref) (options : Entries)
    (kind : ClauseKind) (arguments : List Value) : Except Error (List Entries) := do
  let clauses ← Builder.clausesOf store self (.str kind.name) ⟨arguments, []⟩
  clauses.mapM fun c => d.fragmentIn store (c.2.optioned options)

theorem Dialect.find?_boost_matched (text fuzziness : Value) :
    Table.find? ((.str "query", text) :: fuzzinessEntry fuzziness) (.str "boost") = none := by
  unfold fuzzinessEntry
  split <;> simp [Table.find?_cons]

theorem Dialect.fragmentsWith_single {suffix : Value} {pattern : Value} {store : Store} {self : Ref}
    {options : Entries} {kind : ClauseKind} {arguments : List Value} {connective : Connective}
    {condition : Condition}
    (h : Builder.clausesOf store self (.str kind.name) ⟨arguments, []⟩ =
      .ok [(.query, ⟨connective, .bool false, [], condition⟩)]) :
    let d : Dialect := ⟨suffix, pattern, []⟩
    d.fragmentsWith store self options kind arguments =
      (fun f => [f]) <$> d.conditionFragment (fun ref => d.conditions store (store.get ref)) options
        false condition := by
  intro d
  have written : d.fragmentIn store (Clause.optioned options
      ⟨connective, .bool false, [], condition⟩) =
      d.conditionFragment (fun ref => d.conditions store (store.get ref)) options false
        condition := by
    unfold fragmentIn clauseFragment
    exact if_pos rfl
  unfold fragmentsWith
  rw [h]
  change List.mapM (fun c : Bucket × Clause => d.fragmentIn store (c.2.optioned options)) [_] = _
  rw [List.mapM_cons, written]
  cases d.conditionFragment (fun ref => d.conditions store (store.get ref)) options false
    condition <;> rfl

end DocumentSearch
