import DocumentSearch.Record.Basic
import DocumentSearch.Proofs.Execution.Index
import DocumentSearch.Proofs.Naming.Sent

/-!
# One suffix in the course of a run

Builders are made, copied and acted upon, cursors are advanced and closed, records are written and
removed, and indices and aliases are administered, in any order over one connection. Every name in
every call is one that was stated, with the suffix once.
-/
namespace DocumentSearch

open Connection Outcome

/-- A workspace with the cursors that were opened in it. -/
structure Desk where
  workspace : Workspace
  cursors : List DocumentCursor

/-- What is done with a connection. The connection of a record's class is the same one. -/
inductive Operation where
  | query
  | table (index : Value)
  | act (target : Ref) (action : Action)
  | next (place : Nat)
  | close (place : Nat)
  | recordQuery (cls : RecordClass) (given : Bool)
  | add (cls : RecordClass) (attributes : List (String × Value)) (given : Bool)
  | remove (cls : RecordClass) (attributes : List (String × Value)) (given : Bool)
  | addAll (records : List Value) (given : Bool)
  | administer (request : Admin.Request)

def Line.calls : Line → List Call
  | some c => c.client.calls
  | none => []

namespace Desk

def opened (c : Connection) : Desk := ⟨⟨.empty, some c⟩, []⟩

def line (desk : Desk) : Line := desk.workspace.line

def withLine (desk : Desk) (line : Line) : Desk :=
  { desk with workspace := { desk.workspace with line := line } }

def addBuilder (desk : Desk) (b : Builder) : Desk :=
  { desk with workspace := { desk.workspace with store := (desk.workspace.store.add b).2 } }

def given (desk : Desk) (given : Bool) : Line := if given then desk.line else none

def settle (desk : Desk) (place : Nat) (cursor : DocumentCursor) (line : Line) : Desk :=
  { desk.withLine line with cursors := desk.cursors.set place cursor }

def calls (desk : Desk) : List Call := desk.line.calls

end Desk

namespace Operation

def perform (d : Dialect) (desk : Desk) : Operation → Desk
  | query => desk.addBuilder (.blank "id")
  | table index => desk.addBuilder { Builder.blank "id" with index := index }
  | act target action =>
    match action.perform d desk.workspace target with
    | (.ok (.cursor cursor), w) => ⟨w, desk.cursors ++ [cursor]⟩
    | (_, w) => { desk with workspace := w }
  | next place =>
    match desk.cursors[place]? with
    | some cursor =>
      let (_, cursor, line) := cursor.next d desk.workspace.store desk.line
      desk.settle place cursor line
    | none => desk
  | close place =>
    match desk.cursors[place]? with
    | some cursor =>
      let (_, cursor, line) := cursor.close desk.line
      desk.settle place cursor line
    | none => desk
  | recordQuery cls given =>
    match cls.connection (desk.given given) desk.line with
    | .ok _ => desk.addBuilder cls.newQuery
    | .error _ => desk
  | add cls attributes given =>
    desk.withLine (Record.add d cls attributes (desk.given given) desk.line).2
  | remove cls attributes given =>
    desk.withLine
      (Record.remove d desk.workspace.store cls attributes (desk.given given) desk.line).2
  | addAll records given =>
    desk.withLine (Record.addAll d records (desk.given given) desk.line).2
  | administer request =>
    match desk.line with
    | some c =>
      let a := request.perform (.opened d.suffix c.client)
      desk.withLine (some { c with client := a.client })
    | none => desk

/-- The index of the first record's class, in which all records are. -/
def recordsNames : List Value → Names
  | .record cls _ :: _ => [(.index, .str cls.index)]
  | _ => []

/-- The names that a call for an operation is about. -/
def names (desk : Desk) : Operation → Call → Option Names
  | query, _ | table _, _ | close _, _ | recordQuery _ _, _ => some []
  | act target _, _ => some [(.index, (desk.workspace.store.get target).index)]
  | next place, _ =>
    match desk.cursors[place]? with
    | some (.fresh ref) => some [(.index, (desk.workspace.store.get ref).index)]
    | _ => some []
  | add cls _ _, _ | remove cls _ _, _ => some [(.index, .str cls.index)]
  | addAll records _, _ => some (recordsNames records)
  | administer request, call => request.names call

def stated : Operation → List Value
  | query | next _ | close _ => []
  | table index => [index]
  | act _ action => action.indices
  | recordQuery cls _ | add cls _ _ | remove cls _ _ => [.str cls.index]
  | addAll records _ => (recordsNames records).map Prod.snd
  | administer request => request.stated

end Operation

structure Entry where
  names : Option Names
  call : Call

/-- A call carries the names that it is about, and each name in it was stated. -/
def Entry.Proper (s : String) (stated : List Value) (entry : Entry) : Prop :=
  ∀ names, entry.names = some names → entry.call.Carries s names ∧
    ∀ name ∈ entry.call.names, ∃ v ∈ stated, name.2 = .str (v.text ++ s)

def Operation.entry (desk : Desk) (operation : Operation) (call : Call) : Entry :=
  ⟨operation.names desk call, call⟩

/-- What has to hold of a call that is made for an operation. -/
def Operation.Proper (s : String) (stated : List Value) (desk : Desk) (operation : Operation)
    (call : Call) : Prop := (operation.entry desk call).Proper s stated

namespace Desk

def run (d : Dialect) (desk : Desk) (operations : List Operation) : Desk :=
  operations.foldl (fun desk operation => operation.perform d desk) desk

def made (d : Dialect) (desk : Desk) (operation : Operation) : List Entry :=
  ((operation.perform d desk).calls.drop desk.calls.length).map
    (operation.entry desk)

def ledger (d : Dialect) : Desk → List Operation → List Entry
  | _, [] => []
  | desk, operation :: rest => desk.made d operation ++ ledger d (operation.perform d desk) rest

end Desk

def DocumentCursor.Started : DocumentCursor → Prop
  | running _ cursor => cursor.Started
  | _ => True

/-- Every index is one that was stated, and no cursor over hits waits to be started. -/
structure Desk.Sound (all : List Value) (desk : Desk) : Prop where
  store : desk.workspace.store.Within all
  cursors : ∀ cursor ∈ desk.cursors, cursor.Started

namespace DocumentCursor

variable {d : Dialect} {store : Store}

theorem started_pull (ref : Ref) (cursor : Cursor) (c : Connection) :
    (pull store ref cursor c).2.1.Started := by
  have stepped := cursor.started_next c
  unfold pull
  split
  · trivial
  · trivial
  · rename_i done
    rw [done] at stepped
    split
    · exact stepped
    · trivial

theorem started_next (s : DocumentCursor) (line : Line) : (s.next d store line).2.1.Started := by
  cases line with
  | none => cases s <;> trivial
  | some c =>
    cases s with
    | fresh ref =>
      change (nextOn d store (fresh ref) c).2.1.Started
      unfold nextOn
      dsimp only
      split
      · trivial
      · exact started_pull ref _ c
    | running ref cursor => exact started_pull ref cursor c
    | finished => trivial

theorem started_close (s : DocumentCursor) (line : Line) : (s.close line).2.1.Started := by
  cases line with
  | none => trivial
  | some c => cases s <;> trivial

end DocumentCursor

theorem RecordClass.line_of_connection {cls : RecordClass} {line : Line} {c : Connection}
    {given : Bool} (h : cls.connection (if given then line else none) line = .ok c) :
    line = some c := by
  unfold connection at h
  cases given <;> cases line <;> cases bound : cls.bound <;> simp_all

namespace Passage

variable {Allowed : String → Value → Prop} {R : Connection → Connection → Prop} {d : Dialect}
  {cls : RecordClass} (p : Passage Allowed R) (permits : d.Permits (.str cls.index) Allowed)

include p permits

theorem record_add (attributes : List (String × Value)) (given : Bool) (line : Line) :
    Option.Rel R line (Record.add d cls attributes (if given then line else none) line).2 := by
  unfold Record.add
  split
  · exact p.same line
  · rename_i connected
    obtain rfl := RecordClass.line_of_connection connected
    split
    · exact p.same _
    · exact p.insertLine permits _ _

theorem record_remove (store : Store) (attributes : List (String × Value)) (given : Bool)
    (line : Line) :
    Option.Rel R line
      (Record.remove d store cls attributes (if given then line else none) line).2 := by
  unfold Record.remove
  split
  · exact p.same line
  · rename_i connected
    obtain rfl := RecordClass.line_of_connection connected
    exact p.delete store permits _ _

theorem record_addAll (attributes : List (String × Value)) (rest : List Value) (given : Bool)
    (line : Line) :
    Option.Rel R line
      (Record.addAll d (.record cls attributes :: rest) (if given then line else none) line).2 := by
  unfold Record.addAll
  dsimp only
  split
  · exact p.same line
  · split
    · exact p.same line
    · rename_i connected
      obtain rfl := RecordClass.line_of_connection connected
      split
      · exact p.same _
      · exact p.insertLine permits _ _

end Passage

theorem Record.addAll_of_not_record (d : Dialect) {records : List Value}
    (other : ∀ cls attributes rest, records ≠ .record cls attributes :: rest) (given bound : Line) :
    (addAll d records given bound).2 = bound := by
  unfold addAll
  split
  · rfl
  · split
    · rfl
    · split
      · exact absurd rfl (other _ _ _)
      · rfl

theorem Admin.suffix_opened (s : String) (client : Client) :
    (opened (.str s) client).suffix = .str s := by
  unfold opened Value.orElse
  by_cases empty : s = ""
  · subst empty
    rfl
  · simp [Value.truthy, empty]

namespace Operation

variable {d : Dialect} {s : String} {all : List Value} {desk : Desk} {operation : Operation}

theorem proper_of_carries {names : Names} {call : Call}
    (given : operation.names desk call = some names)
    (within : ∀ name ∈ names, name.2 = .null ∨ name.2 ∈ all) (carries : call.Carries s names) :
    operation.Proper s all desk call := by
  intro names' given'
  obtain rfl := Option.some.inj (given.symm.trans given')
  refine ⟨carries, fun name mem => ?_⟩
  obtain ⟨own, among, truthy, rfl⟩ := carries.mem name mem
  rcases within own among with null | stated
  · rw [null] at truthy
    cases truthy
  · exact ⟨own.2, stated, rfl⟩

theorem quiet_proper (s : String) (all : List Value) (desk : Desk) (operation : Operation) :
    Call.Quiet (operation.Proper s all desk) := by
  have quiet : ∀ call : Call, call.names = [] → call.places = 0 →
      operation.Proper s all desk call := by
    intro call silent nowhere names _
    refine ⟨.of_quiet silent nowhere s names, fun name (mem : name ∈ call.names) => ?_⟩
    rw [silent] at mem
    cases mem
  exact ⟨fun _ => quiet _ rfl rfl, fun _ _ => quiet _ rfl rfl, fun _ => quiet _ rfl rfl⟩

/-- The passage of an operation, across which only proper calls are made. -/
theorem passage_proper (s : String) (all : List Value) (desk : Desk) (operation : Operation) :
    Passage (Sends (operation.Proper s all desk))
      (fun c c' => Call.Extend (operation.Proper s all desk) c.client.calls c'.client.calls) :=
  passage_extend (quiet_proper s all desk operation)

theorem permits_proper (suffix : d.suffix = .str s) (desk : Desk) (operation : Operation)
    {index : Value} (about : ∀ call, operation.names desk call = some [(.index, index)])
    (within : index = .null ∨ index ∈ all) :
    d.Permits index (Sends (operation.Proper s all desk)) :=
  Dialect.permits_sends suffix fun call carries =>
    proper_of_carries (about call) (by simpa using within) carries

end Operation

theorem Line.extend_of_rel {P : Call → Prop} {line line' : Line}
    (h : Option.Rel (fun c c' => Call.Extend P c.client.calls c'.client.calls) line line') :
    Call.Extend P line.calls line'.calls := by
  cases h with
  | none => exact .refl P []
  | some h => exact h

theorem Action.cursor_of_perform {d : Dialect} {w : Workspace} {ref : Ref} {action : Action}
    {cursor : DocumentCursor} (h : (action.perform d w ref).1 = .ok (.cursor cursor)) :
    cursor = .fresh ref := by
  have value : ∀ {α : Type} {x : Except Error α} {shown : α → Value},
      x.map (fun a => ActionResult.value (shown a)) ≠ .ok (.cursor cursor) := by
    intro α x shown
    cases x <;> simp [Except.map]
  have added : ∀ b, (adding w b).1 ≠ .ok (.cursor cursor) := by
    intro b
    cases b <;> simp [adding]
  cases action with
  | fluent call =>
    simp only [perform] at h
    cases done : call.perform w.store ref with
    | mk result store =>
      rw [done] at h
      cases result <;> cases h
  | openCursor =>
    cases h
    rfl
  | clone | cloneWithout | newQuery => exact absurd h (added _)
  | routing | parentId => cases h
  | searchRequest | read | readFirst | paginate | count | aggregationResults | duration | rawReply
  | insert | update | updateByQuery | delete | option => exact absurd h value

namespace Desk.Sound

variable {d : Dialect} {s : String} {all : List Value} {desk : Desk}

theorem addBuilder (h : desk.Sound all) {b : Builder} (own : b.Within all) :
    (desk.addBuilder b).Sound all := ⟨h.store.add own, h.cursors⟩

theorem withLine (h : desk.Sound all) (line : Line) : (desk.withLine line).Sound all :=
  ⟨h.store, h.cursors⟩

theorem settle (h : desk.Sound all) {cursor : DocumentCursor} (started : cursor.Started)
    (place : Nat) (line : Line) : (desk.settle place cursor line).Sound all := by
  refine ⟨h.store, fun other mem => ?_⟩
  rcases List.mem_or_eq_of_mem_set mem with earlier | rfl
  · exact h.cursors other earlier
  · exact started

theorem perform (h : desk.Sound all) (d : Dialect) {operation : Operation}
    (states : operation.stated ⊆ all) : (operation.perform d desk).Sound all := by
  have stated : ∀ v ∈ operation.stated, v ∈ all := fun v mem => states mem
  cases operation with
  | query => exact h.addBuilder (.inl rfl)
  | table index => exact h.addBuilder (.inr (stated index List.mem_cons_self))
  | act target action =>
    have acted := action.perform_within d desk.workspace target h.store states
    unfold Operation.perform
    dsimp only
    split
    · rename_i done
      obtain rfl := Action.cursor_of_perform (congrArg Prod.fst done)
      rw [done] at acted
      exact ⟨acted, List.forall_mem_append.mpr ⟨h.cursors, by simp [DocumentCursor.Started]⟩⟩
    · rename_i done
      rw [done] at acted
      exact ⟨acted, h.cursors⟩
  | next place =>
    unfold Operation.perform
    dsimp only
    split
    · exact h.settle (DocumentCursor.started_next _ _) place _
    · exact h
  | close place =>
    unfold Operation.perform
    dsimp only
    split
    · exact h.settle (DocumentCursor.started_close _ _) place _
    · exact h
  | recordQuery cls given =>
    unfold Operation.perform
    dsimp only
    split
    · exact h.addBuilder (.inr (stated _ List.mem_cons_self))
    · exact h
  | add | remove | addAll => exact h.withLine _
  | administer request =>
    unfold Operation.perform
    dsimp only
    split
    · exact h.withLine _
    · exact h

end Desk.Sound

theorem Operation.perform_extend {d : Dialect} {s : String} {all : List Value} {desk : Desk}
    (suffix : d.suffix = .str s) (h : desk.Sound all) (operation : Operation)
    (states : operation.stated ⊆ all) :
    Call.Extend (operation.Proper s all desk) desk.calls (operation.perform d desk).calls := by
  have passage := passage_proper s all desk operation
  have stated : ∀ v ∈ operation.stated, v = .null ∨ v ∈ all := fun v mem => .inr (states mem)
  cases operation with
  | query | table => exact .refl _ _
  | act target action =>
    have acted := Line.extend_of_rel (passage.perform desk.workspace target
      (permits_proper suffix desk _ (fun _ => rfl) (h.store.get target)) action)
    unfold perform
    dsimp only
    split <;> rename_i done <;> rwa [done] at acted
  | next place =>
    unfold perform
    dsimp only
    split
    · rename_i cursor found
      refine Line.extend_of_rel (passage.nextLine cursor desk.line ?_)
      cases cursor with
      | fresh ref =>
        refine permits_proper suffix desk _ (fun call => ?_) (h.store.get ref)
        simp only [names, found]
      | running ref cursor =>
        rintro query _ _ _ rfl
        exact absurd (h.cursors _ (List.mem_of_getElem? found)) id
      | finished => trivial
    · exact .refl _ _
  | close place =>
    unfold perform
    dsimp only
    split
    · exact Line.extend_of_rel (passage.closeLine _ desk.line)
    · exact .refl _ _
  | recordQuery cls given =>
    unfold perform
    dsimp only
    split <;> exact .refl _ _
  | add cls attributes given =>
    have permits := permits_proper suffix desk (.add cls attributes given) (fun _ => rfl)
      (stated _ List.mem_cons_self)
    exact Line.extend_of_rel (passage.record_add permits attributes given desk.line)
  | remove cls attributes given =>
    have permits := permits_proper suffix desk (.remove cls attributes given) (fun _ => rfl)
      (stated _ List.mem_cons_self)
    exact Line.extend_of_rel (passage.record_remove permits _ attributes given desk.line)
  | addAll records given =>
    by_cases record : ∃ cls attributes rest, records = .record cls attributes :: rest
    · obtain ⟨cls, attributes, rest, rfl⟩ := record
      have permits := permits_proper suffix desk (.addAll (.record cls attributes :: rest) given)
        (fun _ => rfl) (stated _ List.mem_cons_self)
      exact Line.extend_of_rel (passage.record_addAll permits attributes rest given desk.line)
    · have nothing := Record.addAll_of_not_record d
        (fun cls attributes rest eq => record ⟨cls, attributes, rest, eq⟩) (desk.given given)
        desk.line
      change Call.Extend _ desk.line.calls (Record.addAll d records _ desk.line).2.calls
      rw [nothing]
      exact .refl _ _
  | administer request =>
    unfold perform
    dsimp only
    split
    · rename_i c bound
      have opened : (Admin.opened d.suffix c.client).suffix = .str s := by
        rw [suffix]
        exact Admin.suffix_opened s c.client
      have asked := request.perform_extend opened
      rw [Desk.calls, bound]
      refine asked.imp fun call carries names given => ?_
      have about : (administer request).names desk call = some names := given
      exact proper_of_carries about
        (fun name mem => stated _ (Admin.Request.mem_stated given name mem)) (carries names given)
        names given
    · exact .refl _ _

namespace Desk

variable {d : Dialect} {s : String} {all : List Value} {desk : Desk}

theorem Sound.made (suffix : d.suffix = .str s) (h : desk.Sound all) {operation : Operation}
    (states : operation.stated ⊆ all) :
    (operation.perform d desk).calls = desk.calls ++ (desk.made d operation).map Entry.call ∧
      ∀ entry ∈ desk.made d operation, entry.Proper s all := by
  obtain ⟨sent, calls, proper⟩ := operation.perform_extend suffix h states
  have own : desk.made d operation = sent.map (operation.entry desk) := by
    rw [Desk.made, calls, List.drop_left]
  rw [own, calls]
  refine ⟨?_, List.forall_mem_map.mpr proper⟩
  rw [List.map_map]
  exact congrArg _ (List.map_id' sent).symm

theorem Sound.ledger (suffix : d.suffix = .str s) (h : desk.Sound all)
    {operations : List Operation} (states : ∀ operation ∈ operations, operation.stated ⊆ all) :
    (desk.run d operations).calls = desk.calls ++ (desk.ledger d operations).map Entry.call ∧
      ∀ entry ∈ desk.ledger d operations, entry.Proper s all := by
  induction operations generalizing desk with
  | nil => simp [Desk.run, Desk.ledger]
  | cons operation rest ih =>
    obtain ⟨own, others⟩ := List.forall_mem_cons.mp states
    obtain ⟨first, proper⟩ := h.made suffix own
    obtain ⟨later, remaining⟩ := ih (h.perform d own) others
    rw [Desk.ledger, List.map_append, ← List.append_assoc, ← first]
    exact ⟨later, List.forall_mem_append.mpr ⟨proper, remaining⟩⟩

/-- Over a connection with a suffix, whatever is done, each call carries what it is about with the
suffix once, in all its places, and each name in it is one that some operation stated. Only the
actions that move an alias from wherever it is are about names that the server has reported. -/
theorem run_carries (suffix : d.suffix = .str s) (c : Connection) (operations : List Operation) :
    let start := Desk.opened c
    (start.run d operations).calls = c.client.calls ++ (start.ledger d operations).map Entry.call ∧
      ∀ entry ∈ start.ledger d operations, ∀ names, entry.names = some names →
        entry.call.Carries s names ∧ ∀ name ∈ entry.call.names,
          ∃ v ∈ operations.flatMap Operation.stated, name.2 = .str (v.text ++ s) := by
  have sound : (Desk.opened c).Sound (operations.flatMap Operation.stated) :=
    ⟨List.forall_mem_nil _, List.forall_mem_nil _⟩
  exact sound.ledger suffix fun operation mem v => List.mem_flatMap_of_mem mem

def developing : Config := { Config.standard with indexSuffix := "_dev" }

def posts : RecordClass := ⟨"Post", some "posts", none, [], false, true⟩

def answered : Value :=
  .map [("id", .int 1), ("child_documents", .list [.map [("id", .int 10)]])]

def moving : Value :=
  .list [.map [("add", .map [("index", "notes_v2"), ("alias", "notes")])]]

def errands : List Operation :=
  [.table "notes", .act ⟨0⟩ .clone, .act ⟨1⟩ (.insert answered), .act ⟨1⟩ .openCursor, .next 0,
    .remove posts [("id", .int 7)] true, .administer (.updateAliases moving),
    .administer (.aliasExists "notes" "notes_v2")]

def errandNames : List (String × Names) :=
  [("bulk", [(.index, "notes_dev"), (.index, "notes_dev")]), ("search", [(.index, "notes_dev")]),
    ("delete", [(.index, "posts_dev")]),
    ("indices.update_aliases", [(.index, "notes_v2_dev"), (.alias, "notes_dev")]),
    ("indices.exists_alias", [(.index, "notes_v2_dev"), (.alias, "notes_dev")])]

def errandLedger : List Entry :=
  (Desk.opened (.opened developing (.scripted []))).ledger developing.dialect errands

/-- The errands are run with the suffix that the settings give. -/
theorem run_carries_developing :
    errandLedger.map (fun entry => (entry.call.method, entry.call.names)) = errandNames ∧
      ∀ entry ∈ errandLedger, ∀ names, entry.names = some names →
        entry.call.Carries "_dev" names := by
  have suffix : developing.dialect.suffix = .str "_dev" := rfl
  have proper := (run_carries suffix (.opened developing (.scripted [])) errands).2
  exact ⟨rfl, fun entry mem names about => (proper entry mem names about).1⟩

end Desk

end DocumentSearch
