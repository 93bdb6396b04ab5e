import DocumentSearch.Proofs.Traffic.Station

/-!
# Why administration fails

What is asked of the administration of indices fails for what the client refuses: a refusal becomes
an error of the administration, or, where something is not found, the plain answer that it is
absent. Only an alias that is moved from wherever it is may be on no index, and then it is added.
-/
namespace DocumentSearch

open Outcome

/-- Every refusal of a server that reports the type of an error reports it as text. -/
def Server.Typed (server : Server) : Prop :=
  ∀ earlier call r, server earlier call = .refused r →
    Admin.reportedType r = .null ∨ ∃ type, Admin.reportedType r = .str type

namespace Admin

/-- What a request comes to when something is not found, for the requests that say so. -/
def Request.absence : Request → Option Value
  | deleteIndex _ => some (.bool false)
  | listIndices _ | listAliases _ => some (.list [])
  | _ => none

def Request.Turns (request : Request) (r : ClientError) (x : Except Error Value) : Prop :=
  (∃ fault, x = .error (.admin fault)) ∨
    r.kind = .notFound ∧ ∃ v, request.absence = some v ∧ x = .ok v

def Absent : Answer → Prop
  | .value _ => False
  | .refused r => r.kind = .notFound
  | .broken e => ∃ name, e = .admin (.aliasMissing name)

def additionOnly (target : Entries) : Call :=
  ⟨"indices.update_aliases", [("body", .map [("actions", .list [.map [("add", .map target)]])])]⟩

/-- Exchanges in which an alias is added and none removed, if it can be. -/
def Adds (exchanges : List Exchange) (x : Except Error Value) : Prop :=
  (exchanges = [] ∧ ∃ fault, x = .error (.admin fault)) ∨
    ∃ target answer, exchanges = [(additionOnly target, answer)]

/-- How the exchanges for a request explain what it comes to. There are two at most, and two only
when an alias is moved from wherever it is. -/
inductive Request.Explains (request : Request) : List Exchange → Except Error Value → Prop
  | unasked (x : Except Error Value) : Explains request [] x
  | answered (call : Call) (v : Value) (x : Except Error Value) :
      Explains request [(call, .value v)] x
  | refused (call : Call) {r : ClientError} {x : Except Error Value} (turns : request.Turns r x) :
      Explains request [(call, .refused r)] x
  | broken (call : Call) (e : Error) : Explains request [(call, .broken e)] (.error e)
  | located {name newIndex oldIndex : Value} (moves : request = .swapAlias name newIndex oldIndex)
      (anywhere : oldIndex.truthy = false) {call : Call}
      (asks : call.method = "indices.get_alias") (v : Value) {rest : List Exchange}
      {x : Except Error Value} (onwards : Explains request rest x) :
      Explains request ((call, .value v) :: rest) x
  | nowhere {name newIndex oldIndex : Value} (moves : request = .swapAlias name newIndex oldIndex)
      (anywhere : oldIndex.truthy = false) {call : Call}
      (asks : call.method = "indices.get_alias") {answer : Answer} (absent : Absent answer)
      {rest : List Exchange} {x : Except Error Value} (onwards : Explains request rest x)
      (adds : Adds rest x) :
      Explains request ((call, answer) :: rest) x

/-- What is asked explains what a request comes to. -/
def Request.Explained (request : Request) (a : Admin) (x : Except Error Value) (a' : Admin) : Prop :=
  ∃ later, a'.client.calls = a.client.calls ++ later ∧
    request.Explains (a.client.server.exchanges a.client.calls later) x

section Asking

variable {α β : Type} {request : Request} {a : Admin}

theorem explained_given {v : Except Error α} {f : α → Outcome β} {shown : β → Value}
    (h : ∀ w, request.Explained a ((f w).1.map shown) (f w).2) :
    request.Explained a ((a.given v f).1.map shown) (a.given v f).2 := by
  cases v with
  | error e => exact ⟨[], by simp [given], .unasked _⟩
  | ok w => exact h w

theorem explains_ask {method : String} {arguments : Entries}
    {refused : ClientError → Except Error α} {read : Value → Except Error α} {shown : α → Value}
    (turns : ∀ r, a.client.server a.client.calls ⟨method, arguments⟩ = .refused r →
      request.Turns r ((refused r).map shown)) :
    request.Explains [(⟨method, arguments⟩, a.client.server a.client.calls ⟨method, arguments⟩)]
      ((a.ask method arguments refused read).1.map shown) := by
  unfold ask Client.send
  cases answered : a.client.server a.client.calls ⟨method, arguments⟩ with
  | value v => exact .answered _ v _
  | refused r => exact .refused _ (turns r answered)
  | broken e => exact .broken _ e

theorem exchanges_one {method : String} (among : method ∈ methods) (server : Server)
    (before : List Call) (arguments : Entries) :
    server.exchanges before [⟨method, arguments⟩] =
      [(⟨method, arguments⟩, server before ⟨method, arguments⟩)] := by
  have other : method ≠ "options" := by
    rintro rfl
    simp [methods] at among
  simp [Server.exchanges, other]

theorem explained_ask {method : String} (among : method ∈ methods) {arguments : Entries}
    {refused : ClientError → Except Error α} {read : Value → Except Error α} {shown : α → Value}
    (turns : ∀ r, a.client.server a.client.calls ⟨method, arguments⟩ = .refused r →
      request.Turns r ((refused r).map shown)) :
    request.Explained a ((a.ask method arguments refused read).1.map shown)
      (a.ask method arguments refused read).2 := by
  refine ⟨[⟨method, arguments⟩], ask_calls a _ _ _ _, ?_⟩
  rw [exchanges_one among]
  exact explains_ask turns

end Asking

namespace Request.Turns

variable {α : Type} {request : Request} {r : ClientError}

theorem fail (fault : AdminFault) (shown : α → Value) :
    request.Turns r ((Admin.fail fault).map shown) := .inl ⟨fault, rfl⟩

theorem absent {gone : α} {fault : AdminFault} {shown : α → Value}
    (defined : request.absence = some (shown gone)) :
    request.Turns r ((if r.kind = .notFound then .ok gone else Admin.fail fault).map shown) := by
  split
  · exact .inr ⟨‹_›, _, defined, rfl⟩
  · exact fail fault shown

end Request.Turns

theorem alreadyExists_ok {r : ClientError}
    (typed : reportedType r = .null ∨ ∃ type, reportedType r = .str type) :
    ∃ there, alreadyExists r = .ok there := by
  unfold alreadyExists
  split
  · rcases typed with null | ⟨type, text⟩
    · rw [null]
      exact ⟨_, rfl⟩
    · rw [text, Value.orElse]
      split <;> exact ⟨_, rfl⟩
  · exact ⟨false, rfl⟩

theorem explained_updateAliases (request : Request) (a : Admin) (actions : Value) :
    request.Explained a ((a.updateAliases actions).1.map .bool) (a.updateAliases actions).2 :=
  explained_given fun _ => explained_given fun _ => explained_ask (by decide) fun _ _ => .fail _ _

theorem resolve_cases (suffix name : Value) :
    (∃ n, resolve suffix name = .ok n) ∨ resolve suffix name = .error (.admin .emptyName) := by
  unfold resolve
  split
  · exact .inl ⟨_, rfl⟩
  · exact .inr rfl

theorem resolveAction_cases (suffix : Value) (verb : String) (index name : Value) :
    (∃ target, resolveAction suffix (aliasAction verb index name) =
      .ok (.map [(.str verb, .map target)])) ∨
    resolveAction suffix (aliasAction verb index name) = .error (.admin .emptyName) := by
  have steps : resolveAction suffix (aliasAction verb index name) = do
      let target ← resolveUnder suffix [("index", index), ("alias", name)] "index"
      return .map [(.str verb, .map (← resolveUnder suffix target "alias"))] := rfl
  have first : resolveUnder suffix [("index", index), ("alias", name)] "index" = do
      return [("index", .str (← resolve suffix index)), ("alias", name)] := rfl
  have second : ∀ n : String, resolveUnder suffix [("index", .str n), ("alias", name)] "alias" = do
      return [("index", .str n), ("alias", .str (← resolve suffix name))] := fun _ => rfl
  rcases resolve_cases suffix index with ⟨n, indexed⟩ | missing
  · have onward : resolveAction suffix (aliasAction verb index name) = do
        return .map [(.str verb, .map (← resolveUnder suffix
          [("index", .str n), ("alias", name)] "alias"))] := by
      rw [steps, first, indexed]
      rfl
    rw [onward, second]
    rcases resolve_cases suffix name with ⟨m, named⟩ | missing
    · rw [named]
      exact .inl ⟨_, rfl⟩
    · rw [missing]
      exact .inr rfl
  · rw [steps, first, missing]
    exact .inr rfl

theorem explained_addition (request : Request) (a : Admin) (newIndex name : Value) :
    ∃ later, (a.updateAliases (.list [aliasAction "add" newIndex name])).2.client.calls =
        a.client.calls ++ later ∧
      request.Explains (a.client.server.exchanges a.client.calls later)
        ((a.updateAliases (.list [aliasAction "add" newIndex name])).1.map .bool) ∧
      Adds (a.client.server.exchanges a.client.calls later)
        ((a.updateAliases (.list [aliasAction "add" newIndex name])).1.map .bool) := by
  have opened : a.updateAliases (.list [aliasAction "add" newIndex name]) =
      a.given ([aliasAction "add" newIndex name].mapM (resolveAction a.suffix)) fun resolved =>
        a.ask "indices.update_aliases" [("body", .map [("actions", .list resolved)])]
          (fun e => fail
            (if e.kind = .notFound then .actionIndexMissing e.text else .actions e.text))
          acknowledged := rfl
  rw [opened, List.mapM_cons, List.mapM_nil]
  rcases resolveAction_cases a.suffix "add" newIndex name with ⟨target, resolved⟩ | missing
  · rw [resolved]
    refine ⟨[additionOnly target], ask_calls a _ _ _ _, ?_⟩
    rw [additionOnly, exchanges_one (by decide)]
    exact ⟨explains_ask fun _ _ => .fail _ _, .inr ⟨target, _, rfl⟩⟩
  · rw [missing]
    exact ⟨[], (List.append_nil _).symm, .unasked _, .inl ⟨rfl, _, rfl⟩⟩

theorem Request.Explained.after {request : Request} {a a' a'' : Admin} {call : Call}
    {x : Except Error Value} (rest : request.Explained a' x a'') (asks : call.method ≠ "options")
    (sent : a'.client.calls = a.client.calls ++ [call]) (same : a'.client.server = a.client.server)
    (onwards : ∀ exchanges, request.Explains exchanges x →
      request.Explains ((call, a.client.server a.client.calls call) :: exchanges) x) :
    request.Explained a x a'' := by
  obtain ⟨later, calls, explains⟩ := rest
  rw [same, sent] at explains
  refine ⟨call :: later, by rw [calls, sent, List.append_assoc]; rfl, ?_⟩
  rw [Server.exchanges, if_neg asks]
  exact onwards _ explains

def question (n : String) : Call := ⟨"indices.get_alias", [("name", .str n)]⟩

section Found

variable {a a' : Admin} {name : Value}

theorem currentIndices_of_ok {indices : List Value} (h : a.aliasIndices name = (.ok indices, a')) :
    a.currentIndices name = (Misuse.lift (indices.mapM (withoutSuffix a'.suffix)), a') := by
  rw [currentIndices, h]

theorem currentIndices_of_missing {n : String}
    (h : a.aliasIndices name = (.error (.admin (.aliasMissing n)), a')) :
    a.currentIndices name = (.ok [], a') := by
  rw [currentIndices, h]

theorem currentIndices_of_error {e : Error} (h : a.aliasIndices name = (.error e, a'))
    (other : ∀ n, e ≠ .admin (.aliasMissing n)) : a.currentIndices name = (.error e, a') := by
  rw [currentIndices, h]
  cases e with
  | admin fault =>
    cases fault with
    | aliasMissing n => exact absurd rfl (other n)
    | _ => rfl
  | _ => rfl

theorem currentIndices_cases {n : String} (named : resolve a.suffix name = .ok n) :
    ∃ found, a.currentIndices name = (found, { a with client := a.client.note (question n) }) ∧
      ((∃ v, a.client.server a.client.calls (question n) = .value v) ∨
        (∃ r fault, a.client.server a.client.calls (question n) = .refused r ∧
          found = .error (.admin fault)) ∨
        (∃ e, a.client.server a.client.calls (question n) = .broken e ∧ found = .error e) ∨
        Absent (a.client.server a.client.calls (question n)) ∧ found = .ok []) := by
  have asked : a.aliasIndices name = a.ask "indices.get_alias" [("name", .str n)]
      (fun e => fail (if e.kind = .notFound then .aliasMissing n else .aliasLookup n e.text))
      (fun v => do return Table.keys (← (bodyOf v).entries)) := by
    unfold aliasIndices
    rw [named]
    rfl
  unfold ask Client.send at asked
  change a.aliasIndices name = match a.client.server a.client.calls (question n) with
    | .value v => _
    | .refused r => _
    | .broken e => _ at asked
  cases answered : a.client.server a.client.calls (question n) with
  | value v =>
    rw [answered] at asked
    dsimp only at asked
    cases read : (do return Table.keys (← (bodyOf v).entries) : Except Error (List Value)) with
    | ok indices =>
      rw [read] at asked
      exact ⟨_, currentIndices_of_ok asked, .inl ⟨v, rfl⟩⟩
    | error e =>
      rw [read] at asked
      -- the answer may fail to be read as if no alias were there; it is an answer all the same
      by_cases missing : ∃ m, e = .admin (.aliasMissing m)
      · obtain ⟨m, rfl⟩ := missing
        exact ⟨_, currentIndices_of_missing asked, .inl ⟨v, rfl⟩⟩
      · exact ⟨_, currentIndices_of_error asked fun m same => missing ⟨m, same⟩, .inl ⟨v, rfl⟩⟩
  | refused r =>
    rw [answered] at asked
    dsimp only at asked
    by_cases absent : r.kind = .notFound
    · rw [if_pos absent] at asked
      exact ⟨_, currentIndices_of_missing asked, .inr (.inr (.inr ⟨absent, rfl⟩))⟩
    · rw [if_neg absent] at asked
      exact ⟨_, currentIndices_of_error asked nofun, .inr (.inl ⟨r, _, rfl, rfl⟩)⟩
  | broken e =>
    rw [answered] at asked
    by_cases missing : ∃ m, e = .admin (.aliasMissing m)
    · obtain ⟨m, rfl⟩ := missing
      exact ⟨_, currentIndices_of_missing asked, .inr (.inr (.inr ⟨⟨m, rfl⟩, rfl⟩))⟩
    · refine ⟨_, currentIndices_of_error asked fun m same => missing ⟨m, same⟩, ?_⟩
      exact .inr (.inr (.inl ⟨e, rfl, rfl⟩))

end Found

theorem explained_swapAlias (a : Admin) (name newIndex oldIndex : Value) :
    (Request.swapAlias name newIndex oldIndex).Explained a
      ((a.swapAlias name newIndex oldIndex).1.map .bool)
      (a.swapAlias name newIndex oldIndex).2 := by
  unfold swapAlias
  by_cases old : oldIndex.truthy = true
  · rw [if_pos old]
    exact explained_given fun _ => explained_updateAliases _ a _
  · rw [if_neg old]
    have anywhere : oldIndex.truthy = false := by simpa using old
    rcases resolve_cases a.suffix name with ⟨n, named⟩ | missing
    · have asks : (question n).method ≠ "options" := by simp [question]
      obtain ⟨found, located, cause⟩ := currentIndices_cases named
      rw [located]
      dsimp only
      rcases cause with ⟨v, answered⟩ | ⟨r, fault, answered, rfl⟩ | ⟨e, answered, rfl⟩ | ⟨absent, rfl⟩
      · refine Request.Explained.after (explained_given fun _ => explained_updateAliases _ _ _) asks
          rfl rfl fun exchanges explains => ?_
        rw [answered]
        exact .located rfl anywhere rfl v explains
      · refine ⟨[question n], rfl, ?_⟩
        rw [question, exchanges_one (by decide), ← question, answered]
        exact .refused _ (.inl ⟨fault, rfl⟩)
      · refine ⟨[question n], rfl, ?_⟩
        rw [question, exchanges_one (by decide), ← question, answered]
        exact .broken _ e
      · obtain ⟨later, calls, explains, adds⟩ := explained_addition
          (.swapAlias name newIndex oldIndex) { a with client := a.client.note (question n) }
          newIndex name
        refine ⟨question n :: later, ?_, ?_⟩
        · exact calls.trans (List.append_assoc _ _ _)
        · rw [Server.exchanges, if_neg asks]
          exact .nowhere rfl anywhere rfl absent explains adds
    · unfold currentIndices aliasIndices
      rw [missing]
      exact ⟨[], (List.append_nil _).symm, .unasked _⟩

theorem Request.explained {a : Admin} (typed : a.client.server.Typed) (request : Request) :
    request.Explained a (request.result a) (request.perform a) := by
  cases request with
  | createIndex index mappings settings =>
    refine explained_given fun n => explained_ask (by decide) fun r answered => ?_
    obtain ⟨there, found⟩ := alreadyExists_ok (typed _ _ _ answered)
    rw [found]
    exact .fail _ _
  | deleteIndex | listIndices | listAliases =>
    exact explained_given fun _ => explained_ask (by decide) fun _ _ => .absent rfl
  | indexExists | aliasIndices =>
    exact explained_given fun _ => explained_ask (by decide) fun _ _ => .fail _ _
  | putMapping | createAlias | aliasExists =>
    exact explained_given fun _ => explained_given fun _ => explained_ask (by decide) fun _ _ =>
      .fail _ _
  | updateAliases actions => exact explained_updateAliases _ a actions
  | swapAlias name newIndex oldIndex => exact explained_swapAlias a name newIndex oldIndex

end Admin

end DocumentSearch
