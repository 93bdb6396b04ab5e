import DocumentSearch.Admin.Basic
import DocumentSearch.Cursor.Basic
import DocumentSearch.Proofs.Bulk.Item

/-!
# Names in calls

A call names indices and aliases: among its own arguments, in every action of a bulk request, or in
every action on aliases. Each request carries the name that it was given, with the suffix once.
-/
namespace DocumentSearch

open Outcome

inductive NameKind where
  | index
  | alias
  deriving DecidableEq, Repr

namespace NameKind

def key : NameKind → String
  | .index => "index"
  | .alias => "name"

def other : NameKind → NameKind
  | .index => .alias
  | .alias => .index

end NameKind

/-- Names of indices and of aliases, in the order in which they stand. -/
abbrev Names := List (NameKind × Value)

namespace Names

def under (kind : NameKind) (key : String) (entries : Entries) : Names :=
  ((entries.find? key).map (fun name => (kind, name))).toList

def ofTarget (target : Entries) : Names :=
  under .index "index" target ++ under .alias "alias" target

def ofAction (action : Value) : Names :=
  match action.entries? with
  | some [(_, target)] =>
    match target.toEntries with
    | .ok target => ofTarget target
    | .error _ => []
  | _ => []

def ofActions (actions : List Value) : Names := actions.flatMap ofAction

def ofBulkAction (action : Value) : Names :=
  match action.entries? with
  | some [(_, fields)] => under .index "_index" (fields.entries?.getD [])
  | _ => []

/-- The indices in the lines of a bulk request, of which every second one is an action. -/
def ofBulk : List Value → Names
  | action :: _ :: rest => ofBulkAction action ++ ofBulk rest
  | _ => []

def suffixed (s : String) (names : Names) : Names :=
  names.map (fun name => (name.1, .str (name.2.text ++ s)))

@[simp] theorem suffixed_append (s : String) (names more : Names) :
    (names ++ more).suffixed s = names.suffixed s ++ more.suffixed s := List.map_append

end Names

namespace Call

def bulkLines (call : Call) : List Value := (Value.under call.arguments "body").list?.getD []

def aliasActions (call : Call) : List Value :=
  match (Value.under call.arguments "body").entries? with
  | some body => (Value.under body "actions").list?.getD []
  | none => []

def names (call : Call) : Names :=
  if call.method = "bulk" then Names.ofBulk call.bulkLines
  else if call.method = "indices.update_aliases" then Names.ofActions call.aliasActions
  else Names.under .index "index" call.arguments ++ Names.under .alias "name" call.arguments

/-- How often a call has to say what it is for: once, but for each action of a bulk request. The
options of the client and a context that is open already are for nothing else. -/
def places (call : Call) : Nat :=
  if call.method ∈ ["options", "scroll", "clear_scroll"] then 0
  else if call.method = "bulk" then call.bulkLines.length / 2
  else 1

/-- A call says what it is for in all its places, with the suffix once, and names nothing else.
What has no name is not asked for. -/
structure Carries (s : String) (given : Names) (call : Call) : Prop where
  names : call.names = (List.replicate call.places (given.suffixed s)).flatten
  named : call.places ≠ 0 → ∀ name ∈ given, name.2.truthy = true

theorem Carries.of_quiet {call : Call} (silent : call.names = []) (nowhere : call.places = 0)
    (s : String) (given : Names) : call.Carries s given :=
  ⟨by rw [silent, nowhere]; rfl, fun somewhere => absurd nowhere somewhere⟩

/-- Calls whose names, if there are any, do not stand among their own arguments. -/
def special : List String := ["options", "scroll", "clear_scroll", "bulk", "indices.update_aliases"]

theorem carries_of_names {method : String} {arguments : Entries} {s : String} {given : Names}
    (plain : method ∉ special)
    (same : Names.under .index "index" arguments ++ Names.under .alias "name" arguments =
      given.suffixed s) (truthy : ∀ name ∈ given, name.2.truthy = true) :
    Call.Carries s given ⟨method, arguments⟩ := by
  simp only [special, List.mem_cons, List.not_mem_nil, or_false, not_or] at plain
  refine ⟨?_, fun _ => truthy⟩
  simp [Call.names, Call.places, plain, same]

theorem Carries.mem {s : String} {given : Names} {call : Call} (h : call.Carries s given) :
    ∀ name ∈ call.names, ∃ own ∈ given, own.2.truthy = true ∧
      name = (own.1, .str (own.2.text ++ s)) := by
  intro name mem
  rw [h.names] at mem
  obtain ⟨names, copies, mem⟩ := List.mem_flatten.mp mem
  obtain ⟨somewhere, rfl⟩ := List.mem_replicate.mp copies
  obtain ⟨own, given, rfl⟩ := List.mem_map.mp mem
  exact ⟨own, given, h.named somewhere own given, rfl⟩

end Call

namespace Dialect

variable {d : Dialect} {s : String} {b : Builder} {store : Store} {request : Entries}

theorem indexName_eq_ok (suffix : d.suffix = .str s) {name : Value} {n : String}
    (h : d.indexName name = .ok n) : name.truthy = true ∧ n = name.text ++ s := by
  have text : d.suffix.text = s := by
    rw [suffix]
    rfl
  unfold indexName at h
  split at h
  · rename_i named
    rw [text] at h
    exact ⟨named, (Except.ok.inj h).symm⟩
  · cases h

theorem carries_of_index {method n : String} (suffix : d.suffix = .str s) (b : Builder)
    (named : d.indexName b.index = .ok n) (index : request.find? "index" = some (.str n))
    (nothing : request.find? "name" = none) (plain : method ∉ Call.special) :
    Call.Carries s [(.index, b.index)] ⟨method, request⟩ := by
  obtain ⟨truthy, rfl⟩ := indexName_eq_ok suffix named
  refine Call.carries_of_names plain ?_ (by simpa using truthy)
  simp [Names.under, index, nothing, Names.suffixed]

theorem searchRequest_index {search : SearchRequest} (h : d.searchRequest store b = .ok search) :
    d.indexName b.index = .ok search.index := by
  obtain ⟨body, -, h⟩ := bind_eq_ok.mp h
  obtain ⟨index, named, h⟩ := bind_eq_ok.mp h
  obtain rfl := pure_eq_ok.mp h
  exact named

theorem carries_search (suffix : d.suffix = .str s) {search : SearchRequest}
    (h : d.searchRequest store b = .ok search) :
    Call.Carries s [(.index, b.index)] ⟨"search", search.toEntries⟩ :=
  carries_of_index suffix b (searchRequest_index h) rfl rfl (by simp [Call.special])

theorem carries_first (suffix : d.suffix = .str s) {search : SearchRequest} {scrollSize : Number}
    {timeout : Value} {first : Window × Value} (h : d.searchRequest store b = .ok search)
    (asked : Cursor.firstQuery (.map search.toEntries) scrollSize timeout = .ok first) :
    ∃ request, first.2 = .map request ∧ Call.Carries s [(.index, b.index)] ⟨"search", request⟩ := by
  simp only [Cursor.firstQuery, bind_eq_ok] at asked
  obtain ⟨entries, given, body, -, window, -, asked⟩ := asked
  cases given
  obtain rfl := pure_eq_ok.mp asked
  exact ⟨_, rfl, carries_of_index suffix b (searchRequest_index h) rfl rfl (by simp [Call.special])⟩

theorem find?_name_routingEntry (b : Builder) : Table.find? (routingEntry b) "name" = none := by
  simp [routingEntry, entryUnlessFalsy, find?_entryIf]

theorem carries_delete (suffix : d.suffix = .str s) (h : d.deleteRequest b = .ok request) :
    Call.Carries s [(.index, b.index)] ⟨"delete", request⟩ := by
  simp only [deleteRequest, bind_eq_ok, pure_eq_ok] at h
  obtain ⟨index, named, id, -, rfl⟩ := h
  refine carries_of_index suffix b named rfl ?_ (by simp [Call.special])
  simp [Table.find?_cons, find?_name_routingEntry]

theorem carries_update (suffix : d.suffix = .str s) {values : Entries}
    (h : d.updateRequest b values = .ok request) :
    Call.Carries s [(.index, b.index)] ⟨"update", request⟩ := by
  simp only [updateRequest, bind_eq_ok, pure_eq_ok] at h
  obtain ⟨index, named, id, -, document, -, rfl⟩ := h
  refine carries_of_index suffix b named rfl ?_ (by simp [Call.special])
  simp [Table.find?_cons, find?_name_routingEntry]

theorem carries_byQuery (suffix : d.suffix = .str s) {more : Entries} {method : String}
    (plain : method ∉ Call.special) (h : d.byQueryRequest store b more = .ok request) :
    Call.Carries s [(.index, b.index)] ⟨method, request⟩ := by
  simp only [byQueryRequest, bind_eq_ok, pure_eq_ok] at h
  obtain ⟨search, written, rfl⟩ := h
  refine carries_of_index suffix b (searchRequest_index written) rfl ?_ plain
  simp [Table.find?_cons, Table.find?_append, optionEntry, find?_entryIf, find?_name_routingEntry]

end Dialect

namespace BulkItem

theorem ofBulk_body {index : String} {items : List BulkItem}
    (named : ∀ item ∈ items, item.action.find? "_index" = some (.str index)) :
    Names.ofBulk (body items) = List.replicate items.length (NameKind.index, Value.str index) := by
  induction items with
  | nil => rfl
  | cons item rest ih =>
    obtain ⟨own, others⟩ := List.forall_mem_cons.mp named
    have first : Names.ofBulkAction (.map [("index", .map item.action)]) =
        [(NameKind.index, Value.str index)] := by
      simp [Names.ofBulkAction, Value.entries?, Names.under, own]
    change Names.ofBulkAction _ ++ Names.ofBulk (body rest) = _
    rw [first, ih others]
    rfl

end BulkItem

namespace Dialect

theorem DocumentItems.index {b : Builder} {index : String} {given : Value} {items : List BulkItem}
    (written : DocumentItems b index given items) :
    ∀ item ∈ items, item.action.find? "_index" = some (.str index) := by
  obtain ⟨document, children, inner, own, -, -, -, each, places, rfl⟩ := written
  rw [List.forall_mem_append, List.forall_mem_singleton]
  refine ⟨fun item mem => ?_, places.index⟩
  obtain ⟨child, -, fields, -, -, action, -⟩ := exists_mem_of_forall₂ each item mem
  rw [action]
  rfl

/-- Every action of a bulk request names the index, the actions of children too. -/
theorem carries_insert {d : Dialect} {s : String} (suffix : d.suffix = .str s) {b : Builder}
    {documents : List Value} {request : Entries} (h : d.insertRequest b documents = .ok request) :
    Call.Carries s [(.index, b.index)] ⟨"bulk", request⟩ := by
  obtain ⟨index, groups, named, rfl, written⟩ := insertRequest_items h
  obtain ⟨truthy, rfl⟩ := indexName_eq_ok suffix named
  have all : ∀ item ∈ groups.flatten,
      item.action.find? "_index" = some (.str (b.index.text ++ s)) := by
    refine List.forall_mem_flatten.mpr fun group mem => ?_
    obtain ⟨given, -, items, -⟩ := exists_mem_of_forall₂ written group mem
    exact items.index
  have lines : Call.bulkLines ⟨"bulk", BulkItem.request groups.flatten⟩ =
      BulkItem.body groups.flatten := rfl
  have half : 2 * groups.flatten.length / 2 = groups.flatten.length := by omega
  have places : Call.places ⟨"bulk", BulkItem.request groups.flatten⟩ = groups.flatten.length := by
    rw [Call.places, if_neg (by simp), if_pos rfl, lines, BulkItem.length_body, half]
  constructor
  · rw [Call.names, if_pos rfl, lines, BulkItem.ofBulk_body all, places]
    simp [Names.suffixed]
  · simpa using fun _ => truthy

end Dialect

namespace Admin

variable {s n : String} {name : Value} {target resolved : Entries} {action : Value}

theorem resolve_eq_ok (h : resolve (.str s) name = .ok n) :
    name.truthy = true ∧ n = name.text ++ s := by
  unfold resolve at h
  split at h
  · rename_i named
    exact ⟨named, (Except.ok.inj h).symm⟩
  · cases h

theorem under_resolveUnder {key : String} {kind : NameKind}
    (h : resolveUnder (.str s) target key = .ok resolved) :
    Names.under kind key resolved = (Names.under kind key target).suffixed s := by
  unfold resolveUnder at h
  split at h
  · rename_i name found
    simp only [bind_eq_ok, pure_eq_ok] at h
    obtain ⟨n, given, rfl⟩ := h
    obtain ⟨-, rfl⟩ := resolve_eq_ok given
    simp [Names.under, found, Names.suffixed]
  · rename_i none
    obtain rfl := Except.ok.inj h
    simp [Names.under, none, Names.suffixed]

theorem under_resolveUnder_of_ne {key other : String} {kind : NameKind} (ne : other ≠ key)
    (h : resolveUnder (.str s) target key = .ok resolved) :
    Names.under kind other resolved = Names.under kind other target := by
  unfold resolveUnder at h
  split at h
  · simp only [bind_eq_ok, pure_eq_ok] at h
    obtain ⟨n, -, rfl⟩ := h
    rw [Names.under, Table.find?_insert_of_ne _ _ (by simpa using ne), Names.under]
  · obtain rfl := Except.ok.inj h
    rfl

theorem named_resolveUnder {key : String} {kind : NameKind}
    (h : resolveUnder (.str s) target key = .ok resolved) :
    ∀ name ∈ Names.under kind key target, name.2.truthy = true := by
  unfold resolveUnder at h
  split at h
  · rename_i name found
    simp only [bind_eq_ok] at h
    obtain ⟨n, given, -⟩ := h
    simpa [Names.under, found] using (resolve_eq_ok given).1
  · rename_i none
    simp [Names.under, none]

theorem ofAction_resolveAction {resolved : Value}
    (h : resolveAction (.str s) action = .ok resolved) :
    Names.ofAction resolved = (Names.ofAction action).suffixed s ∧
      ∀ name ∈ Names.ofAction action, name.2.truthy = true := by
  simp only [resolveAction, unless_eq_ok, bind_eq_ok, lift_eq_ok] at h
  obtain ⟨items, -, -, entries, tabled, h⟩ := h
  split at h
  · rename_i verb given
    simp only [bind_eq_ok, lift_eq_ok, pure_eq_ok] at h
    obtain ⟨target, read, indexed, indexing, aliased, aliasing, rfl⟩ := h
    have seen := Value.entries_eq_ok.mp tabled
    have own : Names.ofAction action = Names.ofTarget target := by
      rw [Names.ofAction, seen]
      dsimp only
      rw [read]
    have sent : Names.ofAction (.map [(verb, .map aliased)]) = Names.ofTarget aliased := rfl
    have aliases : Names.under .alias "alias" indexed = Names.under .alias "alias" target :=
      under_resolveUnder_of_ne (by decide) indexing
    constructor
    · rw [own, sent, Names.ofTarget, Names.ofTarget, Names.suffixed_append,
        under_resolveUnder_of_ne (by decide) aliasing, under_resolveUnder indexing,
        under_resolveUnder aliasing, aliases]
    · rw [own, Names.ofTarget, List.forall_mem_append, ← aliases]
      exact ⟨named_resolveUnder indexing, named_resolveUnder aliasing⟩
  · cases h

theorem ofActions_resolved {actions resolved : List Value}
    (h : actions.mapM (resolveAction (.str s)) = .ok resolved) :
    Names.ofActions resolved = (Names.ofActions actions).suffixed s ∧
      ∀ name ∈ Names.ofActions actions, name.2.truthy = true := by
  induction actions generalizing resolved with
  | nil =>
    obtain rfl := pure_eq_ok.mp h
    exact ⟨rfl, by simp [Names.ofActions]⟩
  | cons action rest ih =>
    obtain ⟨first, others, one, more, rfl⟩ := mapM_cons_eq_ok.mp h
    obtain ⟨own, named⟩ := ofAction_resolveAction one
    obtain ⟨others, all⟩ := ih more
    unfold Names.ofActions at others all ⊢
    rw [List.flatMap_cons, List.flatMap_cons, Names.suffixed_append, own, others]
    exact ⟨rfl, List.forall_mem_append.mpr ⟨named, all⟩⟩

end Admin

end DocumentSearch
