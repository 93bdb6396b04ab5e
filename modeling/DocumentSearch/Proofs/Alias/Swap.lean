import DocumentSearch.Proofs.Alias.Table
import DocumentSearch.Proofs.Naming.Sent

/-!
# Moving an alias from wherever it is

An alias is moved from all indices that are reported for it: from each the suffix is taken off, and
put back when the actions are sent. An index that is reported without the suffix is named with it
all the same, so the alias stays on it.
-/
namespace DocumentSearch

open Outcome

namespace Admin

variable {s index name : String}

def EndsWith (s index : String) : Prop := s.toList <:+ index.toList

instance (s index : String) : Decidable (EndsWith s index) :=
  inferInstanceAs (Decidable (s.toList <:+ index.toList))

theorem endsWith_append (front s : String) : EndsWith s (front ++ s) :=
  ⟨front.toList, String.toList_append.symm⟩

/-- A reported index without the suffix, if it ends with it. -/
def stem (s index : String) : String :=
  if EndsWith s index then String.ofList (index.toList.take (index.toList.length - s.length))
  else index

theorem withoutSuffix_str (s index : String) :
    withoutSuffix (.str s) (.str index) = .ok (.str (stem s index)) := by
  unfold withoutSuffix
  by_cases empty : s = ""
  · subst empty
    have whole : stem "" index = index := by simp [stem, EndsWith]
    rw [whole]
    rfl
  · have truthy : (Value.str s).truthy = true := decide_eq_true empty
    have same : s.toList.isSuffixOf index.toList = decide (EndsWith s index) := by
      rw [Bool.eq_iff_iff, List.isSuffixOf_iff_suffix, decide_eq_true_iff, EndsWith]
    simp only [truthy, Bool.not_true, Bool.false_eq_true, if_false, cutSuffix, endsWith, stem, same]
    by_cases ends : EndsWith s index <;> simp [ends, bind, Except.bind, pure, Except.pure]

theorem stem_append (ends : EndsWith s index) : stem s index ++ s = index := by
  rw [stem, if_pos ends]
  obtain ⟨front, eq⟩ := ends
  have length : index.toList.length - s.length = front.length := by
    rw [← eq, List.length_append, String.length_toList]
    omega
  rw [length, ← String.toList_inj, String.toList_append, String.toList_ofList, ← eq,
    List.take_left]

theorem stem_append_eq_iff : stem s index ++ s = index ↔ EndsWith s index :=
  ⟨fun whole => whole ▸ endsWith_append _ s, stem_append⟩

theorem stem_eq_empty_iff : stem s index = "" ↔ index = s ∨ index = "" := by
  by_cases ends : EndsWith s index
  · have whole := stem_append ends
    constructor
    · intro empty
      rw [empty] at whole
      exact .inl (by simpa using whole.symm)
    · rintro (rfl | rfl)
      · simpa using whole
      · simp only [String.append_eq_empty_iff] at whole
        exact whole.1
  · have other : index ≠ s := by
      rintro rfl
      exact ends List.suffix_rfl
    rw [stem, if_neg ends, or_iff_right other]

theorem resolve_str (s : String) (named : name ≠ "") :
    resolve (.str s) (.str name) = .ok (name ++ s) := by
  have truthy : (Value.str name).truthy = true := decide_eq_true named
  rw [resolve, if_pos truthy]
  rfl

theorem resolve_empty (s : String) : resolve (.str s) (.str "") = .error (.admin .emptyName) := rfl

theorem resolveUnder_str {target : Entries} {key : String} (s : String) (named : name ≠ "")
    (found : target.find? key = some (.str name)) :
    resolveUnder (.str s) target key = .ok (target.insert key (.str (name ++ s))) := by
  rw [resolveUnder, found]
  dsimp only
  rw [resolve_str s named]
  rfl

theorem resolveAction_aliasAction (s verb : String) (indexed : index ≠ "") (named : name ≠ "") :
    resolveAction (.str s) (aliasAction verb (.str index) (.str name)) =
      .ok (aliasAction verb (.str (index ++ s)) (.str (name ++ s))) := by
  simp only [resolveAction, unless_eq_ok, bind_eq_ok, lift_eq_ok]
  refine ⟨_, rfl, by simp [Table.keys], _, rfl, ?_⟩
  simp only [bind_eq_ok, lift_eq_ok, pure_eq_ok]
  exact ⟨_, rfl, _, resolveUnder_str s indexed rfl, _, resolveUnder_str s named rfl, rfl⟩

def whereabouts (name : String) : Call := ⟨"indices.get_alias", [("name", .str name)]⟩

def actionsCall (actions : List AliasAction) : Call :=
  ⟨"indices.update_aliases", [("body", .map [("actions", .list (actions.map AliasAction.sent))])]⟩

/-- The indices that an answer reports. An alias that is not found is on none. -/
def Reports (indices : List String) : Answer → Prop
  | .value v => ∃ entries, (bodyOf v).entries? = some entries ∧
      Table.keys entries = indices.map Value.str
  | .refused e => e.kind = .notFound ∧ indices = []
  | .broken _ => False

section Ask

variable {α : Type} {a : Admin} {method : String} {arguments : Entries}
  {refused : ClientError → Except Error α} {read : Value → Except Error α}

theorem ask_of_value {v : Value}
    (answer : a.client.server a.client.calls ⟨method, arguments⟩ = .value v) :
    a.ask method arguments refused read =
      (read v, { a with client := a.client.note ⟨method, arguments⟩ }) := by
  unfold ask Client.send
  rw [answer]

theorem ask_of_refused {e : ClientError}
    (answer : a.client.server a.client.calls ⟨method, arguments⟩ = .refused e) :
    a.ask method arguments refused read =
      (refused e, { a with client := a.client.note ⟨method, arguments⟩ }) := by
  unfold ask Client.send
  rw [answer]

theorem ask_after :
    (a.ask method arguments refused read).2 =
      { a with client := a.client.note ⟨method, arguments⟩ } := by
  unfold ask Client.send
  dsimp only
  split <;> rfl

end Ask

variable {a : Admin} {indices : List String} {newIndex : String}

theorem currentIndices_of_reports (suffix : a.suffix = .str s) (named : name ≠ "")
    (reports : Reports indices (a.client.server a.client.calls (whereabouts (name ++ s)))) :
    a.currentIndices (.str name) = (.ok (indices.map (fun index => .str (stem s index))),
      { a with client := a.client.note (whereabouts (name ++ s)) }) := by
  have asked : a.aliasIndices (.str name) =
      a.ask "indices.get_alias" [("name", .str (name ++ s))]
        (fun e => fail (if e.kind = .notFound then .aliasMissing (name ++ s)
          else .aliasLookup (name ++ s) e.text))
        (fun v => do return Table.keys (← (bodyOf v).entries)) := by
    rw [aliasIndices, suffix, resolve_str s named]
    rfl
  have cut : (indices.map Value.str).mapM (withoutSuffix a.suffix) =
      .ok (indices.map (fun index => .str (stem s index))) := by
    rw [List.mapM_map, suffix]
    exact mapM_eq_map fun index _ => withoutSuffix_str s index
  rw [currentIndices, asked]
  cases answer : a.client.server a.client.calls (whereabouts (name ++ s)) with
  | value v =>
    rw [answer] at reports
    obtain ⟨entries, found, keys⟩ := reports
    rw [ask_of_value answer, Value.entries, found]
    change (Misuse.lift ((Table.keys entries).mapM (withoutSuffix a.suffix)), _) = _
    rw [keys, cut]
    rfl
  | refused e =>
    rw [answer] at reports
    obtain ⟨missing, rfl⟩ := reports
    rw [ask_of_refused answer, if_pos missing]
    rfl
  | broken e =>
    rw [answer] at reports
    exact reports.elim

section Update

variable {actions : List AliasAction}

theorem resolveAction_sent (s : String) {action : AliasAction} (named : action.name ≠ "")
    (indexed : action.index ≠ "") :
    resolveAction (.str s) action.sent = .ok (action.under s).sent := by
  cases action with
  | add name index => exact resolveAction_aliasAction s "add" indexed named
  | remove name index => exact resolveAction_aliasAction s "remove" indexed named

theorem updateAliases_given (some : actions ≠ []) :
    a.updateAliases (.list (actions.map AliasAction.sent)) =
      a.given ((actions.map AliasAction.sent).mapM (resolveAction a.suffix)) fun resolved =>
        a.ask "indices.update_aliases" [("body", .map [("actions", .list resolved)])]
          (fun e => fail (if e.kind = .notFound then .actionIndexMissing e.text
            else .actions e.text))
          acknowledged := by
  have truthy : (Value.list (actions.map AliasAction.sent)).truthy = true := by
    simpa [Value.truthy] using some
  rw [updateAliases, if_pos truthy]
  rfl

/-- Actions on named indices are sent at once, all with the suffix. -/
theorem updateAliases_after (suffix : a.suffix = .str s) (some : actions ≠ [])
    (named : ∀ action ∈ actions, action.name ≠ "")
    (indexed : ∀ action ∈ actions, action.index ≠ "") :
    (a.updateAliases (.list (actions.map AliasAction.sent))).2 =
      { a with client := a.client.note (actionsCall (actions.map (AliasAction.under s))) } := by
  have resolved : (actions.map AliasAction.sent).mapM (resolveAction a.suffix) =
      .ok ((actions.map (AliasAction.under s)).map AliasAction.sent) := by
    rw [List.mapM_map, suffix, List.map_map]
    exact mapM_eq_map fun action mem =>
      resolveAction_sent s (named action mem) (indexed action mem)
  rw [updateAliases_given some, resolved, given, ask_after]
  rfl

theorem updateAliases_calls (suffix : a.suffix = .str s) (some : actions ≠ [])
    (named : ∀ action ∈ actions, action.name ≠ "")
    (indexed : ∀ action ∈ actions, action.index ≠ "") :
    (a.updateAliases (.list (actions.map AliasAction.sent))).2.client.calls =
      a.client.calls ++ [actionsCall (actions.map (AliasAction.under s))] := by
  rw [updateAliases_after suffix some named indexed]
  rfl

theorem updateAliases_empty (suffix : a.suffix = .str s)
    (named : ∀ action ∈ actions, action.name ≠ "")
    (empty : ∃ action ∈ actions, action.index = "") :
    a.updateAliases (.list (actions.map AliasAction.sent)) = (.error (.admin .emptyName), a) := by
  have refused : ∀ action : AliasAction, action.index = "" →
      resolveAction (.str s) action.sent = .error (.admin .emptyName) := by
    rintro (⟨name, index⟩ | ⟨name, index⟩) rfl <;> rfl
  have each : (actions.map AliasAction.sent).mapM (resolveAction a.suffix) =
      .error (.admin .emptyName) := by
    rw [List.mapM_map, suffix]
    refine mapM_eq_error (fun action mem => ?_) ?_
    · by_cases none : action.index = ""
      · exact .inr (refused action none)
      · exact .inl ⟨_, resolveAction_sent s (named action mem) none⟩
    · obtain ⟨action, mem, none⟩ := empty
      exact ⟨action, mem, refused action none⟩
  rw [updateAliases_given (List.ne_nil_of_mem empty.choose_spec.1), each]
  rfl

end Update

open AliasAction (moves)

theorem swapAlias_of_reports {old : Value} (suffix : a.suffix = .str s)
    (absent : old.truthy = false) (named : name ≠ "")
    (reports : Reports indices (a.client.server a.client.calls (whereabouts (name ++ s)))) :
    a.swapAlias (.str name) (.str newIndex) old =
      { a with client := a.client.note (whereabouts (name ++ s)) }.updateAliases
        (.list ((moves name newIndex (indices.map (stem s))).map AliasAction.sent)) := by
  have same : (moves name newIndex (indices.map (stem s))).map AliasAction.sent =
      (indices.map (fun index => Value.str (stem s index))).map
        (fun index => aliasAction "remove" index (.str name)) ++
          [aliasAction "add" (.str newIndex) (.str name)] := by
    simp [moves, AliasAction.sent]
  unfold swapAlias
  rw [absent, same]
  simp only [Bool.false_eq_true, if_false]
  rw [currentIndices_of_reports suffix named reports]
  rfl

theorem swapAlias_nameless {old : Value} (suffix : a.suffix = .str s)
    (absent : old.truthy = false) (index : Value) :
    a.swapAlias (.str "") index old = (.error (.admin .emptyName), a) := by
  have refused : a.currentIndices (.str "") = (.error (.admin .emptyName), a) := by
    rw [currentIndices, aliasIndices, suffix, resolve_empty]
    rfl
  unfold swapAlias
  rw [absent]
  simp only [Bool.false_eq_true, if_false]
  rw [refused]
  rfl

/-- With each reported index the alias is taken off the one whose name ends with the suffix. -/
def restored (s : String) (indices : List String) : List String :=
  indices.map (fun index => stem s index ++ s)

theorem restored_eq_iff : restored s indices = indices ↔ ∀ index ∈ indices, EndsWith s index := by
  calc restored s indices = indices
    _ ↔ indices.map (fun index => stem s index ++ s) = indices.map id := by
      rw [List.map_id, restored]
    _ ↔ ∀ index ∈ indices, stem s index ++ s = index := List.map_inj_left
    _ ↔ ∀ index ∈ indices, EndsWith s index := forall₂_congr fun _ _ => stem_append_eq_iff

theorem mem_restored_iff {place : String} (mem : place ∈ indices) :
    place ∈ restored s indices ↔ EndsWith s place := by
  constructor
  · intro removed
    obtain ⟨index, -, rfl⟩ := List.mem_map.mp removed
    exact endsWith_append _ s
  · intro ends
    exact List.mem_map.mpr ⟨place, mem, stem_append ends⟩

theorem empty_mem_stems_iff : "" ∈ indices.map (stem s) ↔ s ∈ indices ∨ "" ∈ indices := by
  simp only [List.mem_map, stem_eq_empty_iff, and_or_left, exists_or, exists_eq_right]

/-- On which indices an alias is after it was moved from all that were reported. -/
theorem on_execute_restored {t : AliasTable} (placed : ∀ place, t.On name place ↔ place ∈ indices)
    (s newIndex place : String) :
    (t.execute (moves name newIndex (restored s indices))).On name place ↔
      place = newIndex ∨ place ∈ indices ∧ ¬EndsWith s place := by
  rw [AliasTable.on_execute_moves, placed, and_comm (b := place ∈ indices)]
  exact or_congr_right (and_congr_right fun mem => not_congr (mem_restored_iff mem))

/-- The alias ends on the new index alone exactly if it was on none without the suffix. -/
theorem swapAlias_moves {a : Admin} {s name : String} {old : Value} {indices : List String}
    (suffix : a.suffix = .str s) (absent : old.truthy = false)
    (reports : Reports indices (a.client.server a.client.calls (whereabouts (name ++ s))))
    (newIndex : String) :
    let moved := a.swapAlias (.str name) (.str newIndex) old
    let actions := moves (name ++ s) (newIndex ++ s) (restored s indices)
    let nameless := newIndex = "" ∨ s ∈ indices ∨ "" ∈ indices
    (name = "" → moved.1 = .error (.admin .emptyName) ∧ moved.2.client.calls = a.client.calls) ∧
      (name ≠ "" → nameless → moved.1 = .error (.admin .emptyName) ∧
        moved.2.client.calls = a.client.calls ++ [whereabouts (name ++ s)]) ∧
      (name ≠ "" → ¬nameless → moved.2.client.calls =
        a.client.calls ++ [whereabouts (name ++ s), actionsCall actions]) ∧
      (restored s indices = indices ↔ ∀ index ∈ indices, EndsWith s index) ∧
      ∀ t : AliasTable, (∀ place, t.On (name ++ s) place ↔ place ∈ indices) →
        (∀ place, (t.execute actions).On (name ++ s) place ↔
          place = newIndex ++ s ∨ place ∈ indices ∧ ¬EndsWith s place) ∧
        ((∀ place, (t.execute actions).On (name ++ s) place ↔ place = newIndex ++ s) ↔
          ∀ index ∈ indices, EndsWith s index) ∧
        ∀ other ≠ name ++ s, ∀ place, (t.execute actions).On other place ↔ t.On other place := by
  intro moved actions nameless
  have named_moves : name ≠ "" →
      ∀ action ∈ moves name newIndex (indices.map (stem s)), action.name ≠ "" :=
    fun named action mem => AliasAction.name_of_mem_moves mem ▸ named
  have blocked : (∃ action ∈ moves name newIndex (indices.map (stem s)), action.index = "") ↔
      nameless :=
    AliasAction.exists_nameless_iff.trans (or_congr_right empty_mem_stems_iff)
  have asked : { a with client := a.client.note (whereabouts (name ++ s)) }.suffix = .str s :=
    suffix
  refine ⟨?_, fun named none => ?_, fun named all => ?_, restored_eq_iff, fun t placed => ?_⟩
  · rintro rfl
    rw [show moved = _ from swapAlias_nameless suffix absent _]
    exact ⟨rfl, rfl⟩
  · rw [show moved = _ from swapAlias_of_reports suffix absent named reports,
      updateAliases_empty asked (named_moves named) (blocked.mpr none)]
    exact ⟨rfl, rfl⟩
  · have indexed : ∀ action ∈ moves name newIndex (indices.map (stem s)), action.index ≠ "" :=
      fun action mem empty => all (blocked.mp ⟨action, mem, empty⟩)
    rw [show moved = _ from swapAlias_of_reports suffix absent named reports,
      updateAliases_calls asked (by simp [moves]) (named_moves named) indexed,
      AliasAction.under_moves, List.map_map]
    exact List.append_assoc _ _ _
  · have on := on_execute_restored placed s (newIndex ++ s)
    refine ⟨on, ?_, fun other ne => AliasTable.on_execute_of_ne
      (fun action mem => AliasAction.name_of_mem_moves mem) ne t⟩
    constructor
    · intro only index mem
      by_contra left
      have there := (only index).mp ((on index).mpr (.inr ⟨mem, left⟩))
      exact left (there ▸ endsWith_append newIndex s)
    · intro ends place
      exact (on place).trans (or_iff_left fun left => left.2 (ends place left.1))

def reporting (s index : String) : Admin :=
  .opened (.str s) ⟨.scripted [("indices.get_alias", [.value (.map [(.str index, .map [])])])], []⟩

def legacyTable : AliasTable := ⟨{("posts_dev", "legacy")}⟩

/-- The alias is taken off an index that it is not on, and stays on the one that it was on. -/
theorem swapAlias_moves_legacy :
    ((reporting "_dev" "legacy").swapAlias "posts" "posts_v2" .null).2.client.calls =
      [whereabouts "posts_dev", actionsCall
        [.remove "posts_dev" "legacy_dev", .add "posts_dev" "posts_v2_dev"]] ∧
      (legacyTable.execute [.remove "posts_dev" "legacy_dev", .add "posts_dev" "posts_v2_dev"]).On
        "posts_dev" "legacy" := by
  have reported : Reports ["legacy"] ((reporting "_dev" "legacy").client.server
      (reporting "_dev" "legacy").client.calls (whereabouts ("posts" ++ "_dev"))) :=
    ⟨[(.str "legacy", .map [])], rfl, rfl⟩
  have other : ¬EndsWith "_dev" "legacy" := by decide
  obtain ⟨-, -, sent, -, executed⟩ := swapAlias_moves (a := reporting "_dev" "legacy") rfl
    (show Value.null.truthy = false from rfl) reported "posts_v2"
  refine ⟨sent (by decide) (by decide), ?_⟩
  obtain ⟨on, -⟩ := executed legacyTable fun place => by simp [legacyTable, AliasTable.On]
  exact (on "legacy").mpr (.inr ⟨List.mem_singleton_self _, other⟩)

end Admin

end DocumentSearch
