import DocumentSearch.Proofs.Object.Readings

/-!
# Actions on builders as objects

An action on a builder whose objects are its own gives what it gives for builders as values, and
changes nothing but objects of that builder.
-/
namespace DocumentSearch

/-- The builder whose objects an action may change. -/
def Action.uses (r : Ref) : Action → Option Ref
  | fluent _ | read _ | readFirst _ | paginate _ _ => some r
  | aggregationResults | duration | rawReply => some r
  | _ => none

namespace Memory

open Heap

variable {d : Dialect} {m : Memory} {r : Ref} {α : Type} {used : Option Ref}

/-- What comes of an action on objects, and the same on values. -/
structure Matches (used : Option Ref) (m : Memory) (x : Memory.Outcome) (y : Action.Outcome) :
    Prop where
  result : x.1 = y.1
  becomes : Becomes used m.heap y.2.store x.2.heap
  line : x.2.line = y.2.line

namespace Matches

variable {x : Memory.Outcome} {y : Action.Outcome}

theorem workspace (same : Matches used m x y) : x.2.workspace = y.2 := by
  rw [Memory.workspace, same.becomes.shows, same.line]

theorem adding {copy : Except Error Body × Heap} {b : Except Error Builder} (apart : m.heap.Apart)
    (copies : Copies m.heap copy b) :
    Matches none m (m.adding copy) (Action.adding m.workspace b) := by
  obtain ⟨result, h⟩ := copy
  obtain ⟨o, turns, ⟨rfl, rfl⟩ | ⟨e, rfl, rfl⟩⟩ := copies
  · have place : (h.addBody o).1 = (m.heap.store.add (h.view o)).1 := by
      rw [addBody, turns.bodies]
      exact congrArg Ref.mk (size_store m.heap).symm
    exact ⟨congrArg (fun c => Except.ok (ActionResult.builder c)) place, .add apart turns, rfl⟩
  · exact ⟨rfl, .drop apart turns, rfl⟩

theorem reading {read : Except Error α × Body × Heap × Line} {b : Except Error α × Builder × Line}
    (apart : m.heap.Apart) (known : r.index < m.heap.bodies.length) (shown : α → Value)
    (reads : Reads (some (m.heap.body r)) m.heap read b) :
    Matches (some r) m (Memory.reading r shown read) (Action.reading m.workspace r shown b) := by
  obtain ⟨result, o, h, line, rfl, rfl, turns⟩ := reads.elim
  exact ⟨rfl, .put apart known turns, rfl⟩

theorem writing {sent : Except Error α × Heap × Line} {b : Except Error α × Line}
    (shown : α → Value) (asks : Asks m.heap sent b) :
    Matches none m (Memory.writing shown sent) (Action.writing m.workspace shown b) := by
  obtain ⟨result, h, line⟩ := sent
  obtain ⟨_, _⟩ := b
  obtain ⟨rfl, becomes, rfl⟩ := asks
  exact ⟨rfl, becomes, rfl⟩

end Matches

/-- An action on a builder as an object is the action on the builder as a value. -/
theorem perform_matches (d : Dialect) (apart : m.heap.Apart)
    (known : r.index < m.heap.bodies.length) (action : Action) :
    Matches (action.uses r) m (m.perform d r action) (action.perform d m.workspace r) := by
  have owned := apart.owned r known
  have self := turns_self apart known
  have unchanged : Becomes none m.heap m.heap.store m.heap := .refl apart nofun
  have get : m.workspace.store.get r = m.heap.view (m.heap.body r) := get_store known
  unfold Memory.perform Action.perform
  rw [get]
  cases action with
  | fluent call =>
    obtain ⟨result, becomes⟩ := call_becomes m.heap r apart known call
    exact ⟨congrArg (Except.map fun _ => ActionResult.self) result, becomes, rfl⟩
  | clone =>
    obtain ⟨turns, view, -⟩ := cloneBody_view apart.sound owned
    rw [← view]
    exact .adding apart turns.copies
  | newQuery =>
    obtain ⟨turns, view⟩ := newBody_view apart.sound (m.heap.body r).keyName
    have copies := Matches.adding apart turns.copies
    rw [view] at copies
    exact copies
  | cloneWithout names =>
    dsimp only
    cases names.items with
    | error e => exact ⟨rfl, unchanged, rfl⟩
    | ok names => exact .adding apart (cloneWithout_copies apart.sound owned names)
  | read columns =>
    exact .reading apart known Value.list (read_reads apart self (.refl _ _) columns m.line)
  | readFirst columns =>
    exact .reading apart known id (readFirst_reads apart self (.refl _ _) columns m.line)
  | paginate perPage page =>
    exact .reading apart known Page.value
      (paginate_reads apart self (.refl _ _) page perPage m.line)
  | aggregationResults | duration | rawReply =>
    exact .reading apart known id (summaryRead_reads apart self (.refl _ _) m.line _)
  | count => exact .writing id (counting_asks apart owned m.line)
  | delete id => exact .writing Value.bool (delete_asks apart owned id m.line)
  | searchRequest | openCursor | insert | update | updateByQuery | routing | parentId | option =>
    exact ⟨rfl, unchanged, rfl⟩

end Memory

end DocumentSearch
