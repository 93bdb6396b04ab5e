import DocumentSearch.Proofs.Execution.Passage
import DocumentSearch.Proofs.Naming.Names

/-!
# Names that are sent

Whatever is done with a builder, a cursor or the administration of indices, the calls that come of
it carry the names that it was given.
-/
namespace DocumentSearch

open Outcome

/-- Calls that go on from earlier ones with such calls only. -/
def Call.Extend (P : Call → Prop) (before after : List Call) : Prop :=
  ∃ sent, after = before ++ sent ∧ ∀ call ∈ sent, P call

namespace Call.Extend

variable {P Q : Call → Prop} {before calls after : List Call}

theorem refl (P : Call → Prop) (calls : List Call) : Call.Extend P calls calls :=
  ⟨[], by simp, by simp⟩

theorem trans (h : Call.Extend P before calls) (k : Call.Extend P calls after) :
    Call.Extend P before after := by
  obtain ⟨sent, rfl, all⟩ := h
  obtain ⟨more, rfl, others⟩ := k
  exact ⟨sent ++ more, by simp, List.forall_mem_append.mpr ⟨all, others⟩⟩

theorem imp (h : Call.Extend P before after) (weaker : ∀ call, P call → Q call) :
    Call.Extend Q before after := by
  obtain ⟨sent, calls, all⟩ := h
  exact ⟨sent, calls, fun call mem => weaker call (all call mem)⟩

theorem one {call : Call} (h : P call) (before : List Call) :
    Call.Extend P before (before ++ [call]) := ⟨[call], rfl, by simpa using h⟩

end Call.Extend

/-- What holds of all calls that name nothing. -/
structure Call.Quiet (P : Call → Prop) : Prop where
  options : ∀ timeout, P ⟨"options", [("request_timeout", timeout)]⟩
  scroll : ∀ id timeout, P (.scroll id timeout)
  release : ∀ id, P (.release id)

namespace Connection

variable {P : Call → Prop}

/-- The parameters of a request make a call of such a kind. -/
def Sends (P : Call → Prop) (method : String) (query : Value) : Prop :=
  ∀ parameters, parametersOf query = .ok parameters → P ⟨method, parameters⟩

theorem sends_map {method : String} {request : Entries} (h : P ⟨method, request⟩) :
    Sends P method (.map request) := by
  intro parameters given
  simp only [parametersOf, bind_eq_ok] at given
  obtain ⟨entries, tabled, given⟩ := given
  cases tabled
  split at given
  · obtain rfl := pure_eq_ok.mp given
    exact h
  · cases given

theorem extend_chosen (quiet : Call.Quiet P) (c : Connection) :
    Call.Extend P c.client.calls c.timedClient.calls := by
  rw [calls_timedClient]
  unfold chosen
  split
  · exact .one (quiet.options _) _
  · simpa using Call.Extend.refl P c.client.calls

theorem calls_ran (c : Connection) (call : Call) (query bindings : Value) :
    (c.ran call query bindings).client.calls = c.timedClient.calls ++ [call] := by
  unfold ran
  split <;> simp [sent]

/-- The calls of a connection go on with calls of a kind across every request of that kind. -/
theorem passage_extend (quiet : Call.Quiet P) :
    Passage (Sends P) (fun c c' => Call.Extend P c.client.calls c'.client.calls) where
  refl c := .refl P c.client.calls
  trans h h' := h.trans h'
  run c method query sends := by
    cases named : parametersOf query with
    | error e =>
      simp only [run, named]
      exact extend_chosen quiet c
    | ok parameters =>
      rw [run_of_parameters c method .null named]
      dsimp only
      rw [calls_ran]
      exact (extend_chosen quiet c).trans (.one (sends parameters named) _)
  scroll id timeout := sends_map (quiet.scroll id timeout)
  clearScroll c id := by
    rw [clearScroll_eq]
    simpa [sent] using (extend_chosen quiet c).trans (.one (quiet.release id) _)

end Connection

open Connection

theorem Dialect.permits_sends {d : Dialect} {s : String} {index : Value} {P : Call → Prop}
    (suffix : d.suffix = .str s)
    (carried : ∀ call : Call, call.Carries s [(.index, index)] → P call) :
    d.Permits index (Sends P) where
  search := by
    rintro store b request rfl written
    exact sends_map (carried _ (carries_search suffix written))
  first := by
    rintro store b request first scrollSize timeout rfl written asked
    obtain ⟨request, same, carries⟩ := carries_first suffix written asked
    rw [same]
    exact sends_map (carried _ carries)
  insert := by
    rintro b documents request rfl written
    exact sends_map (carried _ (carries_insert suffix written))
  update := by
    rintro b values request rfl written
    exact sends_map (carried _ (carries_update suffix written))
  delete := by
    rintro b request rfl written
    exact sends_map (carried _ (carries_delete suffix written))
  updateByQuery := by
    rintro store b script params request rfl written
    exact sends_map (carried _ (carries_byQuery suffix (by simp [Call.special]) written))
  deleteByQuery := by
    rintro store b request rfl written
    exact sends_map (carried _ (carries_byQuery suffix (by simp [Call.special]) written))

namespace Admin

/-- What can be asked of an administration. -/
inductive Request where
  | createIndex (index mappings settings : Value)
  | deleteIndex (index : Value)
  | indexExists (index : Value)
  | putMapping (index mappings : Value)
  | listIndices (pattern : Value)
  | createAlias (index name : Value)
  | aliasExists (name index : Value)
  | aliasIndices (name : Value)
  | updateAliases (actions : Value)
  | swapAlias (name newIndex oldIndex : Value)
  | listAliases (pattern : Value)

namespace Request

def perform (a : Admin) : Request → Admin
  | createIndex index mappings settings => (a.createIndex index mappings settings).2
  | deleteIndex index => (a.deleteIndex index).2
  | indexExists index => (a.indexExists index).2
  | putMapping index mappings => (a.putMapping index mappings).2
  | listIndices pattern => (a.listIndices pattern).2
  | createAlias index name => (a.createAlias index name).2
  | aliasExists name index => (a.aliasExists name index).2
  | aliasIndices name => (a.aliasIndices name).2
  | updateAliases actions => (a.updateAliases actions).2
  | swapAlias name newIndex oldIndex => (a.swapAlias name newIndex oldIndex).2
  | listAliases pattern => (a.listAliases pattern).2

/-- The names that a request gives for a call. When an alias is moved from wherever it is, the
actions are about names that the server has reported. -/
def names : Request → Call → Option Names
  | createIndex index _ _, _ | deleteIndex index, _ | indexExists index, _ | putMapping index _, _
  | listIndices index, _ => some [(.index, index)]
  | createAlias index name, _ => some [(.index, index), (.alias, name)]
  | aliasExists name index, _ =>
    some ((if index.truthy then [(.index, index)] else []) ++ [(.alias, name)])
  | aliasIndices name, _ | listAliases name, _ => some [(.alias, name)]
  | updateAliases actions, _ => some (Names.ofActions (actions.items?.getD []))
  | swapAlias name newIndex oldIndex, call =>
    if oldIndex.truthy then
      some [(.index, oldIndex), (.alias, name), (.index, newIndex), (.alias, name)]
    else if call.method = "indices.get_alias" then some [(.alias, name)]
    else none

def stated : Request → List Value
  | createIndex index _ _ | deleteIndex index | indexExists index | putMapping index _
  | listIndices index => [index]
  | createAlias index name | aliasExists name index => [index, name]
  | aliasIndices name | listAliases name => [name]
  | updateAliases actions => (Names.ofActions (actions.items?.getD [])).map Prod.snd
  | swapAlias name newIndex oldIndex => [oldIndex, name, newIndex]

theorem mem_stated {request : Request} {call : Call} {names : Names}
    (given : request.names call = some names) : ∀ name ∈ names, name.2 ∈ request.stated := by
  cases request with
  | createIndex | deleteIndex | indexExists | putMapping | listIndices | createAlias | aliasIndices
  | listAliases =>
    obtain rfl := Option.some.inj given
    simp [stated]
  | aliasExists name index =>
    obtain rfl := Option.some.inj given
    cases named : index.truthy <;> simp [stated]
  | updateAliases actions =>
    obtain rfl := Option.some.inj given
    exact fun name mem => List.mem_map_of_mem mem
  | swapAlias name newIndex oldIndex =>
    rw [Request.names] at given
    split at given
    · obtain rfl := Option.some.inj given
      simp [stated]
    · split at given <;> cases given
      simp [stated]

/-- A call carries the names that a request gives for it, if it gives any. -/
def Carried (s : String) (request : Request) (call : Call) : Prop :=
  ∀ names, request.names call = some names → call.Carries s names

theorem carried_of_names {s : String} {request : Request} {call : Call} {names : Names}
    (given : request.names call = some names) (carries : call.Carries s names) :
    request.Carried s call := by
  intro others named
  obtain rfl := Option.some.inj (given.symm.trans named)
  exact carries

theorem extend_carried {s : String} {request : Request} {names : Names} {before after : List Call}
    (given : ∀ call, request.names call = some names)
    (extend : Call.Extend (Call.Carries s names) before after) :
    Call.Extend (request.Carried s) before after :=
  extend.imp fun call => carried_of_names (given call)

end Request

section Asked

variable {α β : Type} {P : Call → Prop} {s : String}

theorem ask_calls (a : Admin) (method : String) (arguments : Entries)
    (refused : ClientError → Except Error α) (read : Value → Except Error α) :
    (a.ask method arguments refused read).2.client.calls =
      a.client.calls ++ [⟨method, arguments⟩] := by
  unfold ask
  dsimp only
  split <;> rfl

theorem extend_ask {a : Admin} {method : String} {arguments : Entries}
    {refused : ClientError → Except Error α} {read : Value → Except Error α}
    (h : P ⟨method, arguments⟩) :
    Call.Extend P a.client.calls (a.ask method arguments refused read).2.client.calls := by
  rw [ask_calls]
  exact .one h _

theorem extend_given {a : Admin} {x : Except Error α} {f : α → Outcome β}
    (h : ∀ v, x = .ok v → Call.Extend P a.client.calls (f v).2.client.calls) :
    Call.Extend P a.client.calls (a.given x f).2.client.calls := by
  cases x with
  | error e => exact .refl P _
  | ok v => exact h v rfl

theorem extend_updateAliases {a : Admin} (suffix : a.suffix = .str s) (actions : Value) :
    Call.Extend (Call.Carries s (Names.ofActions (actions.items?.getD [])))
      a.client.calls (a.updateAliases actions).2.client.calls := by
  refine extend_given fun items listed => extend_given fun resolved sent => extend_ask ?_
  split at listed
  · have seen : actions.items?.getD [] = items := by
      have listed := lift_eq_ok.mp listed
      split at listed
      · rename_i found
        rw [found, Except.ok.inj listed]
        rfl
      · cases listed
    rw [suffix] at sent
    obtain ⟨same, truthy⟩ := ofActions_resolved sent
    rw [seen]
    have names : Call.names ⟨"indices.update_aliases",
        [("body", .map [("actions", .list resolved)])]⟩ = Names.ofActions resolved := rfl
    exact ⟨by rw [names, same]; simp [Call.places], fun _ => truthy⟩
  · cases listed

end Asked

/-- A call that names one index or one alias, and nothing else. -/
theorem carries_one (kind : NameKind) {s n method : String} {name : Value} {more : Entries}
    (plain : method ∉ Call.special) (given : resolve (.str s) name = .ok n)
    (nothing : more.find? kind.other.key = none) :
    Call.Carries s [(kind, name)] ⟨method, (.str kind.key, .str n) :: more⟩ := by
  obtain ⟨truthy, rfl⟩ := resolve_eq_ok given
  refine Call.carries_of_names plain ?_ (by simpa using truthy)
  cases kind <;> simp_all [Names.under, Table.find?_cons, NameKind.key, NameKind.other, Names.suffixed]

theorem extend_aliasExists {s : String} {a : Admin} (suffix : a.suffix = .str s)
    (name index : Value) :
    Call.Extend
      (Call.Carries s ((if index.truthy then [(.index, index)] else []) ++ [(.alias, name)]))
      a.client.calls (a.aliasExists name index).2.client.calls := by
  refine extend_given fun n given => extend_given fun more located => extend_ask ?_
  rw [suffix] at given located
  unfold aliasExists.onIndex at located
  split at located
  · rename_i indexed
    simp only [bind_eq_ok, pure_eq_ok] at located
    obtain ⟨m, found, rfl⟩ := located
    obtain ⟨named, rfl⟩ := resolve_eq_ok given
    obtain ⟨-, rfl⟩ := resolve_eq_ok found
    rw [if_pos indexed]
    refine Call.carries_of_names (by simp [Call.special]) ?_ (by simpa using ⟨indexed, named⟩)
    simp [Names.under, Table.find?_cons, Names.suffixed]
  · rename_i anywhere
    obtain rfl := pure_eq_ok.mp located
    rw [if_neg anywhere]
    exact carries_one .alias (by simp [Call.special]) given rfl

theorem extend_createAlias {s : String} {a : Admin} (suffix : a.suffix = .str s)
    (index name : Value) :
    Call.Extend (Call.Carries s [(.index, index), (.alias, name)])
      a.client.calls (a.createAlias index name).2.client.calls := by
  refine extend_given fun n given => extend_given fun m found => extend_ask ?_
  rw [suffix] at given found
  obtain ⟨indexed, rfl⟩ := resolve_eq_ok given
  obtain ⟨named, rfl⟩ := resolve_eq_ok found
  refine Call.carries_of_names (by simp [Call.special]) ?_ (by simpa using ⟨indexed, named⟩)
  simp [Names.under, Table.find?_cons, Names.suffixed]

theorem extend_aliasIndices {s : String} {a : Admin} (suffix : a.suffix = .str s) (name : Value) :
    Call.Extend (fun call => call.method = "indices.get_alias" ∧ call.Carries s [(.alias, name)])
      a.client.calls (a.aliasIndices name).2.client.calls :=
  extend_given fun _ given =>
    extend_ask ⟨rfl, carries_one .alias (by simp [Call.special]) (suffix ▸ given) rfl⟩

theorem currentIndices_after (a : Admin) (name : Value) :
    (a.currentIndices name).2 = (a.aliasIndices name).2 := by
  unfold currentIndices
  split <;> rename_i found <;> rw [found]

/-- From wherever an alias is, it is moved after the question where that is. -/
theorem extend_swapAlias {s : String} {a : Admin} (suffix : a.suffix = .str s)
    (name newIndex oldIndex : Value) :
    Call.Extend ((Request.swapAlias name newIndex oldIndex).Carried s)
      a.client.calls (a.swapAlias name newIndex oldIndex).2.client.calls := by
  unfold swapAlias
  by_cases old : oldIndex.truthy = true
  · rw [if_pos old]
    refine Request.extend_carried (fun call => ?_) (extend_updateAliases suffix
      (.list [aliasAction "remove" oldIndex name, aliasAction "add" newIndex name]))
    rw [Request.names, if_pos old]
    rfl
  · rw [if_neg old]
    have asked := extend_aliasIndices suffix name
    rw [← currentIndices_after] at asked
    have first : Call.Extend ((Request.swapAlias name newIndex oldIndex).Carried s)
        a.client.calls (a.currentIndices name).2.client.calls := by
      refine asked.imp fun call carries => Request.carried_of_names ?_ carries.2
      rw [Request.names, if_neg old, if_pos carries.1]
    refine first.trans (extend_given fun found _ => ?_)
    refine extend_given fun items _ => extend_given fun resolved _ => extend_ask ?_
    intro names given
    rw [Request.names, if_neg old, if_neg (by simp)] at given
    cases given

theorem Request.perform_extend {s : String} {a : Admin} (suffix : a.suffix = .str s)
    (request : Request) :
    Call.Extend (request.Carried s) a.client.calls (request.perform a).client.calls := by
  cases request with
  | createIndex index mappings settings =>
    refine extend_carried (fun _ => rfl) (extend_given fun n given => extend_ask ?_)
    exact carries_one .index (by simp [Call.special]) (suffix ▸ given) rfl
  | deleteIndex index | indexExists index | listIndices index =>
    refine extend_carried (fun _ => rfl) (extend_given fun n given => extend_ask ?_)
    exact carries_one .index (by simp [Call.special]) (suffix ▸ given) rfl
  | putMapping index mappings =>
    refine extend_carried (fun _ => rfl)
      (extend_given fun n given => extend_given fun body _ => extend_ask ?_)
    exact carries_one .index (by simp [Call.special]) (suffix ▸ given) rfl
  | createAlias index name =>
    exact extend_carried (fun _ => rfl) (extend_createAlias suffix index name)
  | aliasExists name index =>
    exact extend_carried (fun _ => rfl) (extend_aliasExists suffix name index)
  | aliasIndices name =>
    exact extend_carried (fun _ => rfl) ((extend_aliasIndices suffix name).imp fun _ => And.right)
  | updateAliases actions =>
    exact extend_carried (fun _ => rfl) (extend_updateAliases suffix actions)
  | swapAlias name newIndex oldIndex => exact extend_swapAlias suffix name newIndex oldIndex
  | listAliases pattern =>
    refine extend_carried (fun _ => rfl) (extend_given fun n given => extend_ask ?_)
    exact carries_one .alias (by simp [Call.special]) (suffix ▸ given) rfl

end Admin

end DocumentSearch
