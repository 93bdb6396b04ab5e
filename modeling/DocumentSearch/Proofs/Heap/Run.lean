import DocumentSearch.Proofs.Heap.Change
import DocumentSearch.Proofs.Naming.Run

/-!
# The store in the course of a run

Of all that is done with a connection, only actions on builders change the builders that are there.
Anything else adds one without clauses, or leaves the store alone.
-/
namespace DocumentSearch

namespace Operation

variable (d : Dialect) (desk : Desk)

theorem store_cases (operation : Operation) :
    (∃ target action, operation = .act target action ∧
      (operation.perform d desk).workspace.store =
        (action.perform d desk.workspace target).2.store) ∨
    (∀ target action, operation ≠ .act target action) ∧
      ((∃ index, (operation.perform d desk).workspace.store =
          (desk.workspace.store.add { Builder.blank "id" with index := index }).2) ∨
        (operation.perform d desk).workspace.store = desk.workspace.store) := by
  cases operation with
  | query => exact .inr ⟨nofun, .inl ⟨.null, rfl⟩⟩
  | table index => exact .inr ⟨nofun, .inl ⟨index, rfl⟩⟩
  | act target action =>
    refine .inl ⟨target, action, rfl, ?_⟩
    unfold perform
    dsimp only
    split <;> rename_i done <;> rw [done]
  | recordQuery cls given =>
    unfold perform
    dsimp only
    split
    · exact .inr ⟨nofun, .inl ⟨cls.index, rfl⟩⟩
    · exact .inr ⟨nofun, .inr rfl⟩
  | next place | close place | administer request =>
    unfold perform
    dsimp only
    split <;> exact .inr ⟨nofun, .inr rfl⟩
  | add | remove | addAll => exact .inr ⟨nofun, .inr rfl⟩

end Operation

end DocumentSearch
