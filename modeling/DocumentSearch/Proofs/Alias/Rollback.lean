import DocumentSearch.Proofs.Alias.Swap

/-!
# Moving an alias back

An alias that is moved from one index to another can be moved back by the same request with the two
indices exchanged. In between it is on the other index instead, and no other alias and no other
index is ever touched.
-/
namespace DocumentSearch

open Outcome

namespace AliasTable

variable {t u : AliasTable} {name other place old new : String} {actions : List AliasAction}

theorem ext_on (same : ∀ name place, t.On name place ↔ u.On name place) : t = u := by
  cases t
  cases u
  exact congrArg mk (Finset.ext fun pair => same pair.1 pair.2)

theorem on_apply_of_apart (t : AliasTable) {action : AliasAction}
    (apart : (other, place) ≠ (action.name, action.index)) :
    (t.apply action).On other place ↔ t.On other place := by
  cases action <;> simp_all [apply, On, AliasAction.name, AliasAction.index]

theorem on_execute_of_apart (t : AliasTable)
    (apart : ∀ action ∈ actions, (other, place) ≠ (action.name, action.index)) :
    (t.execute actions).On other place ↔ t.On other place := by
  induction actions generalizing t with
  | nil => rfl
  | cons action rest ih =>
    obtain ⟨first, later⟩ := List.forall_mem_cons.mp apart
    exact (ih (t.apply action) later).trans (t.on_apply_of_apart first)

open AliasAction (moves)

theorem on_execute_move (t : AliasTable) (name old new place : String) :
    (t.execute (moves name new [old])).On name place ↔
      place = new ∨ place ≠ old ∧ t.On name place := by
  rw [on_execute_moves, List.mem_singleton]

theorem execute_move_back (on : t.On name old) (off : ¬t.On name new) :
    (t.execute (moves name new [old])).execute (moves name old [new]) = t := by
  refine ext_on fun other place => ?_
  by_cases own : other = name
  · subst own
    rw [on_execute_move, on_execute_move]
    constructor
    · rintro (rfl | ⟨there, rfl | ⟨-, kept⟩⟩)
      · exact on
      · exact absurd rfl there
      · exact kept
    · intro here
      have there : place ≠ new := by
        rintro rfl
        exact off here
      by_cases first : place = old
      · exact .inl first
      · exact .inr ⟨there, .inr ⟨first, here⟩⟩
  · rw [on_execute_of_ne (fun _ => AliasAction.name_of_mem_moves) own,
      on_execute_of_ne (fun _ => AliasAction.name_of_mem_moves) own]

end AliasTable

namespace AliasAction

variable {name old new : String} {action : AliasAction}

theorem pair_of_mem_moves (mem : action ∈ moves name new [old]) :
    (action.name, action.index) = (name, old) ∨ (action.name, action.index) = (name, new) := by
  simp only [moves, List.map_cons, List.map_nil, List.singleton_append, List.mem_cons,
    List.not_mem_nil, or_false] at mem
  rcases mem with rfl | rfl
  · exact .inl rfl
  · exact .inr rfl

end AliasAction

namespace Admin

variable {a : Admin} {α β : Type}

theorem given_eq_ok {x : Except Error α} {f : α → Outcome β} {r : β} :
    (a.given x f).1 = .ok r ↔ ∃ v, x = .ok v ∧ (f v).1 = .ok r := by
  cases x <;> simp [given]

section Suffix

theorem suffix_given {x : Except Error α} {f : α → Outcome β}
    (h : ∀ v, (f v).2.suffix = a.suffix) : (a.given x f).2.suffix = a.suffix := by
  cases x with
  | error e => rfl
  | ok v => exact h v

theorem suffix_updateAliases (a : Admin) (actions : Value) :
    (a.updateAliases actions).2.suffix = a.suffix :=
  suffix_given fun _ => suffix_given fun _ => by rw [ask_after]

theorem suffix_currentIndices (a : Admin) (name : Value) :
    (a.currentIndices name).2.suffix = a.suffix := by
  rw [currentIndices_after]
  exact suffix_given fun _ => by rw [ask_after]

theorem suffix_swapAlias (a : Admin) (name index old : Value) :
    (a.swapAlias name index old).2.suffix = a.suffix := by
  unfold swapAlias
  by_cases given : old.truthy = true
  · rw [if_pos given]
    exact suffix_given fun _ => suffix_updateAliases a _
  · rw [if_neg given]
    exact (suffix_given fun _ => suffix_updateAliases _ _).trans (suffix_currentIndices a name)

end Suffix

section Named

variable {s : String} {index name old : Value} {done : Bool}

theorem named_of_updateAliases {actions : List Value} (suffix : a.suffix = .str s)
    (h : (a.updateAliases (.list actions)).1 = .ok done) :
    ∀ name ∈ Names.ofActions actions, name.2.truthy = true := by
  obtain ⟨items, listed, h⟩ := given_eq_ok.mp h
  obtain ⟨resolved, each, -⟩ := given_eq_ok.mp h
  rw [suffix] at each
  split at listed
  · obtain rfl : actions = items := Except.ok.inj listed
    exact (ofActions_resolved each).2
  · cases listed

theorem named_of_swapAlias (suffix : a.suffix = .str s)
    (h : (a.swapAlias name index old).1 = .ok done) :
    index.truthy = true ∧ name.truthy = true := by
  have onward : ∀ {a' : Admin} {places : Except Error (List Value)}, a'.suffix = .str s →
      (a'.given places fun places => a'.updateAliases (.list
        (places.map (fun place => aliasAction "remove" place name) ++
          [aliasAction "add" index name]))).1 = .ok done →
      index.truthy = true ∧ name.truthy = true := by
    intro a' places suffix h
    obtain ⟨found, -, h⟩ := given_eq_ok.mp h
    have added : Names.ofAction (aliasAction "add" index name) = [(.index, index), (.alias, name)] :=
      rfl
    have all := named_of_updateAliases suffix h
    rw [Names.ofActions, List.flatMap_append, List.flatMap_singleton, added] at all
    exact ⟨all (.index, index) (by simp), all (.alias, name) (by simp)⟩
  unfold swapAlias at h
  by_cases given : old.truthy = true
  · rw [if_pos given] at h
    exact onward suffix h
  · rw [if_neg given] at h
    exact onward ((suffix_currentIndices a name).trans suffix) h

end Named

variable {s name old new : String}

open AliasAction (moves)

def moveCall (s name old new : String) : Call :=
  actionsCall (moves (name ++ s) (new ++ s) [old ++ s])

theorem swapAlias_after (suffix : a.suffix = .str s) (named : name ≠ "") (indexed : new ≠ "")
    (given : old ≠ "") :
    (a.swapAlias (.str name) (.str new) (.str old)).2 =
      { a with client := a.client.note (moveCall s name old new) } := by
  have truthy : (Value.str old).truthy = true := decide_eq_true given
  have moved : a.swapAlias (.str name) (.str new) (.str old) =
      a.updateAliases (.list ((moves name new [old]).map AliasAction.sent)) := by
    unfold swapAlias
    rw [if_pos truthy]
    rfl
  have names : ∀ action ∈ moves name new [old], action.name ≠ "" := fun action mem =>
    AliasAction.name_of_mem_moves mem ▸ named
  have indices : ∀ action ∈ moves name new [old], action.index ≠ "" := by
    intro action mem empty
    rcases AliasAction.exists_nameless_iff.mp ⟨action, mem, empty⟩ with none | none
    · exact indexed none
    · exact given (List.mem_singleton.mp none).symm
  rw [moved, updateAliases_after suffix (by simp [moves]) names indices, AliasAction.under_moves]
  rfl

/-- An alias that was moved from one index to another, and then back, is on the indices that it was
on. Each move is one request, which puts the alias on the one index in place of the other; and at no
point, not even within a request, is anything else changed. -/
theorem swapAlias_back (suffix : a.suffix = .str s) (ne : old ≠ new)
    (moved : (a.swapAlias (.str name) (.str new) (.str old)).1 = .ok true)
    (back : ((a.swapAlias (.str name) (.str new) (.str old)).2.swapAlias (.str name) (.str old)
      (.str new)).1 = .ok true) :
    let there := moves (name ++ s) (new ++ s) [old ++ s]
    let again := moves (name ++ s) (old ++ s) [new ++ s]
    ((a.swapAlias (.str name) (.str new) (.str old)).2.swapAlias (.str name) (.str old)
        (.str new)).2.client.calls =
      a.client.calls ++ [actionsCall there, actionsCall again] ∧
    ∀ t : AliasTable, t.On (name ++ s) (old ++ s) → ¬t.On (name ++ s) (new ++ s) →
      ((t.execute there).On (name ++ s) (new ++ s) ∧ ¬(t.execute there).On (name ++ s) (old ++ s)) ∧
      (t.execute there).execute again = t ∧
      ∀ done, done <+: there ++ again → ∀ other place,
        (other, place) ≠ (name ++ s, old ++ s) → (other, place) ≠ (name ++ s, new ++ s) →
          ((t.execute done).On other place ↔ t.On other place) := by
  intro there again
  have apart : old ++ s ≠ new ++ s := fun same => ne (by simpa using same)
  obtain ⟨toNew, named⟩ := named_of_swapAlias suffix moved
  have kept := (suffix_swapAlias a (.str name) (.str new) (.str old)).trans suffix
  obtain ⟨toOld, -⟩ := named_of_swapAlias kept back
  have named : name ≠ "" := of_decide_eq_true named
  have toNew : new ≠ "" := of_decide_eq_true toNew
  have toOld : old ≠ "" := of_decide_eq_true toOld
  refine ⟨?_, fun t on off => ⟨⟨?_, ?_⟩, AliasTable.execute_move_back on off, ?_⟩⟩
  · rw [swapAlias_after kept named toOld toNew, swapAlias_after suffix named toNew toOld]
    exact List.append_assoc _ _ _
  · exact (t.on_execute_move _ _ _ _).mpr (.inl rfl)
  · rw [t.on_execute_move]
    rintro (same | ⟨left, -⟩)
    · exact apart same
    · exact left rfl
  · intro done within other place besideOld besideNew
    refine t.on_execute_of_apart fun action mem same => ?_
    rcases List.mem_append.mp (within.subset mem) with mem | mem <;>
      rcases AliasAction.pair_of_mem_moves mem with pair | pair
    · exact besideOld (same.trans pair)
    · exact besideNew (same.trans pair)
    · exact besideNew (same.trans pair)
    · exact besideOld (same.trans pair)

/-- What administers a deployment whose server acknowledges two requests about aliases. -/
def acknowledging (s : String) : Admin :=
  .opened (.str s) ⟨.scripted [("indices.update_aliases",
    [.value (.map [("acknowledged", .bool true)]), .value (.map [("acknowledged", .bool true)])])],
    []⟩

def versionsTable : AliasTable := ⟨{("posts_dev", "v1_dev"), ("drafts_dev", "v2_dev")}⟩

theorem swapAlias_back_versions :
    let a := acknowledging "_dev"
    let there := [AliasAction.remove "posts_dev" "v1_dev", .add "posts_dev" "v2_dev"]
    let again := [AliasAction.remove "posts_dev" "v2_dev", .add "posts_dev" "v1_dev"]
    ((a.swapAlias "posts" "v2" "v1").2.swapAlias "posts" "v1" "v2").2.client.calls =
        [actionsCall there, actionsCall again] ∧
      (versionsTable.execute there).On "posts_dev" "v2_dev" ∧
      ¬(versionsTable.execute there).On "posts_dev" "v1_dev" ∧
      (versionsTable.execute there).execute again = versionsTable := by
  intro a there again
  have moved : (a.swapAlias "posts" "v2" "v1").1 = .ok true := rfl
  have back : ((a.swapAlias "posts" "v2" "v1").2.swapAlias "posts" "v1" "v2").1 = .ok true := rfl
  obtain ⟨sent, executed⟩ := swapAlias_back (a := a) (s := "_dev") rfl (by decide) moved back
  obtain ⟨⟨on, off⟩, whole, -⟩ := executed versionsTable
    (by simp [versionsTable, AliasTable.On]) (by simp [versionsTable, AliasTable.On])
  exact ⟨sent, on, off, whole⟩

end Admin

end DocumentSearch
