import DocumentSearch.Proofs.Execution.Passage

/-!
# One server for all

Whatever is done through a connection, it goes on leading to the same server.
-/
namespace DocumentSearch

namespace Connection

variable (c : Connection) (query bindings : Value)

@[simp] theorem server_run (method : String) :
    (c.run method query bindings).2.client.server = c.client.server := by
  cases named : parametersOf query with
  | error e =>
    simp only [run, named, server_timedClient]
  | ok parameters =>
    rw [run_of_parameters c method bindings named]
    unfold ran
    split <;> simp [sent, Client.send, Client.note]

@[simp] theorem server_clearScroll (id : Value) :
    (c.clearScroll id).2.client.server = c.client.server := by
  rw [clearScroll_eq]
  simp [sent, Client.send, Client.note]

def SameServer (c c' : Connection) : Prop := c'.client.server = c.client.server

theorem passage_sameServer : Passage (fun _ _ => True) SameServer where
  refl _ := rfl
  trans h h' := h'.trans h
  run c _ query _ := c.server_run query .null _
  scroll _ _ := trivial
  clearScroll c id := c.server_clearScroll id

end Connection

open Connection

theorem Dialect.permits_all (d : Dialect) (index : Value) :
    d.Permits index (fun _ _ => True) := by constructor <;> intros <;> trivial

theorem DocumentCursor.permitted_all (d : Dialect) (store : Store) (s : DocumentCursor) :
    s.Permitted d store (fun _ _ => True) := by
  cases s with
  | fresh ref => exact d.permits_all _
  | running => exact fun _ _ => trivial
  | finished => trivial

def Line.LeadsTo (line : Line) (server : Server) : Prop :=
  ∀ c, line = some c → c.client.server = server

namespace Line.LeadsTo

variable {line line' : Line} {c : Connection} {server : Server}

theorem none : Line.LeadsTo none server := by
  intro c bound
  cases bound

theorem some (h : c.client.server = server) : Line.LeadsTo (some c) server := by
  rintro _ ⟨⟩
  exact h

theorem of_some (h : Line.LeadsTo (.some c) server) : c.client.server = server := h c rfl

theorem of_rel (h : line.LeadsTo server) (same : Option.Rel SameServer line line') :
    line'.LeadsTo server := by
  cases same with
  | none => exact .none
  | some same => exact .some (Eq.trans same h.of_some)

end Line.LeadsTo

variable {line : Line} {server : Server}

theorem DocumentCursor.next_leadsTo (d : Dialect) (store : Store) (s : DocumentCursor)
    (h : line.LeadsTo server) : (s.next d store line).2.2.LeadsTo server :=
  h.of_rel (passage_sameServer.nextLine s line (s.permitted_all d store))

theorem DocumentCursor.close_leadsTo (s : DocumentCursor) (h : line.LeadsTo server) :
    (s.close line).2.2.LeadsTo server := h.of_rel (passage_sameServer.closeLine s line)

theorem Action.perform_leadsTo (d : Dialect) (w : Workspace) (ref : Ref) (action : Action)
    (h : w.line.LeadsTo server) : (action.perform d w ref).2.line.LeadsTo server :=
  h.of_rel (passage_sameServer.perform w ref (d.permits_all _) action)

end DocumentSearch
