import DocumentSearch.Proofs.Clause.Asked

/-!
# Weights of searched fields

A text is searched in fields that may have weights. What a search fragment says about its fields is
read back from it: of several fields, each is written with its weight behind a mark; one field by
itself is named by the fragment, and its weight belongs beside the text as a boost. The weights of
several fields come back as they were given. A single field is named with the mark and the weight as
part of its name, so that neither its name nor its weight comes back.
-/
namespace DocumentSearch

open Outcome

namespace Fragment

variable {W : Type} (read : String → Option W)

/-- A field with the weight behind its first mark, if it has one. -/
def fieldWeight : Value → Option (String × Option W)
  | .str s =>
    match s.toList.dropWhile (· ≠ '^') with
    | [] => some (s, none)
    | _ :: weight => do
      return (String.ofList (s.toList.takeWhile (· ≠ '^')), some (← read (String.ofList weight)))
  | _ => none

/-- The fields of a query over many fields, or the one field of a query with its boost. -/
def matchedFields : Entries → Option (List (String × Option W))
  | [(.str "multi_match", .map body)] =>
    match Table.find? body "fields" with
    | some (.list fields) => fields.mapM (fieldWeight read)
    | _ => none
  | [(.str "match", .map [(.str field, .map parameters)])] =>
    match Table.find? parameters "boost" with
    | some boost => do return [(field, some (← read boost.text))]
    | none => some [(field, none)]
  | _ => none

/-- The fields that a search fragment searches, each with its weight if it has one. -/
def searchedFields : Entries → Option (List (String × Option W))
  | [(.str "constant_score", .map [(.str "filter", .map fragment)])] => matchedFields read fragment
  | fragment => matchedFields read fragment

variable {read}

/-- A field with its weight is read back, unless its name has a mark of its own. -/
theorem fieldWeight_weighted {name : String} {w : Value} {weight : W} (plain : '^' ∉ name.toList)
    (reads : read w.text = some weight) :
    fieldWeight read (Dialect.weighted (.str name, w)) = some (name, some weight) := by
  have whole : (name ++ "^" ++ w.text).toList = name.toList ++ '^' :: w.text.toList := by
    simp
  have before : ∀ c ∈ name.toList, decide (c ≠ '^') = true := by
    intro c mem
    exact decide_eq_true fun same => plain (same ▸ mem)
  have taken : (name.toList ++ '^' :: w.text.toList).takeWhile (· ≠ '^') = name.toList := by
    rw [List.takeWhile_append_of_pos before]
    simp
  have left : (name.toList ++ '^' :: w.text.toList).dropWhile (· ≠ '^') =
      '^' :: w.text.toList := by
    rw [List.dropWhile_append_of_pos before]
    simp
  change fieldWeight read (.str (name ++ "^" ++ w.text)) = _
  simp only [fieldWeight, whole, left, taken, String.ofList_toList, reads]
  rfl

def scored (constantScore : Bool) (fragment : Entries) : Entries :=
  if constantScore then [("constant_score", .map [("filter", .map fragment)])] else fragment

theorem searchedFields_scored {kind : String} (queried : kind = "match" ∨ kind = "multi_match")
    (constantScore : Bool) (body : Value) :
    searchedFields read (scored constantScore [(.str kind, body)]) =
      matchedFields read [(.str kind, body)] := by
  rcases queried with rfl | rfl <;> cases constantScore <;> rfl

end Fragment

namespace Dialect

open Fragment

variable {W : Type} {read : String → Option W} {weight : Value → W}

def weightTable (weights : List (String × Value)) : Value :=
  .map (weights.map fun p => (.str p.1, p.2))

theorem searchFields_weightTable {weights : List (String × Value)} (given : weights ≠ []) :
    searchFields (weightTable weights) =
      .ok (weights.map fun p => weighted (.str p.1, p.2)) := by
  have truthy : (weightTable weights).truthy = true := by
    cases weights with
    | nil => exact absurd rfl given
    | cons p weights => rfl
  unfold searchFields
  rw [truthy]
  simp [weightTable, Value.seen, Function.comp_def]

variable {text matchType fuzziness : Value} {f : Entries}

theorem textMatch_one (name : String) (w : Value) :
    textMatch text (weightTable [(name, w)]) matchType fuzziness =
      .ok [("match", .map [(.str (name ++ "^" ++ w.text),
        .map (("query", text) :: fuzzinessEntry fuzziness))])] := by
  unfold textMatch
  rw [searchFields_weightTable (List.cons_ne_nil _ _)]
  rfl

theorem textMatch_several {weights : List (String × Value)} (several : 1 < weights.length) :
    textMatch text (weightTable weights) matchType fuzziness =
      .ok [("multi_match", .map (("query", text) :: ("type", matchType.orElse "most_fields") ::
        ("fields", .list (weights.map fun p => weighted (.str p.1, p.2))) ::
          fuzzinessEntry fuzziness))] := by
  obtain ⟨p, q, rest, rfl⟩ : ∃ p q rest, weights = p :: q :: rest := by
    match weights, several with
    | p :: q :: rest, _ => exact ⟨p, q, rest, rfl⟩
  unfold textMatch
  rw [searchFields_weightTable (List.cons_ne_nil _ _)]
  rfl

theorem matchedFields_one (field : String) :
    matchedFields read [("match", .map [(.str field,
      .map (("query", text) :: fuzzinessEntry fuzziness))])] = some [(field, none)] := by
  simp only [matchedFields, find?_boost_matched]

theorem fieldWeights_eq {weights : List (String × Value)}
    (names : ∀ p ∈ weights, '^' ∉ p.1.toList)
    (reads : ∀ p ∈ weights, read p.2.text = some (weight p.2)) :
    (weights.map fun p => weighted (.str p.1, p.2)).mapM (fieldWeight read) =
      some (weights.map fun p => (p.1, some (weight p.2))) := by
  induction weights with
  | nil => rfl
  | cons p weights ih =>
    obtain ⟨plain, names⟩ := List.forall_mem_cons.mp names
    obtain ⟨first, reads⟩ := List.forall_mem_cons.mp reads
    rw [List.map_cons, List.mapM_cons, fieldWeight_weighted plain first, ih names reads]
    rfl

theorem matchedFields_several {weights : List (String × Value)}
    (names : ∀ p ∈ weights, '^' ∉ p.1.toList)
    (reads : ∀ p ∈ weights, read p.2.text = some (weight p.2)) :
    matchedFields read [("multi_match", .map (("query", text) ::
        ("type", matchType.orElse "most_fields") ::
        ("fields", .list (weights.map fun p => weighted (.str p.1, p.2))) ::
          fuzzinessEntry fuzziness))] =
      some (weights.map fun p => (p.1, some (weight p.2))) := by
  simp [matchedFields, Table.find?_cons, fieldWeights_eq names reads]

theorem fragmentsWith_search {suffix pattern : Value} {store : Store} {self : Ref}
    {fields constantScore : Value} (h : textMatch text fields matchType fuzziness = .ok f) :
    Dialect.fragmentsWith ⟨suffix, pattern, []⟩ store self [] .search
        [text, fields, matchType, fuzziness, constantScore] =
      .ok [scored constantScore.truthy f] := by
  have written : search text fields matchType fuzziness constantScore.truthy [] false =
      .ok (scored constantScore.truthy f) := by
    unfold search
    rw [h]
    rfl
  have clause : Builder.clausesOf store self (.str ClauseKind.search.name)
      ⟨[text, fields, matchType, fuzziness, constantScore], []⟩ =
        .ok [(.query, ⟨.conjunction, .bool false, [],
          .search text fields matchType fuzziness constantScore⟩)] := rfl
  have call : Dialect.fragmentsWith ⟨suffix, pattern, []⟩ store self [] .search
      [text, fields, matchType, fuzziness, constantScore] =
        (fun f => [f]) <$> search text fields matchType fuzziness constantScore.truthy [] false :=
    fragmentsWith_single clause
  rw [call, written]
  rfl

/-- The fields of a search come back with their weights, however many there are and whatever else is
asked for, unless there is one field only. That one is searched under a name that ends in its
weight, and has no weight. -/
theorem searchedFields_search (suffix pattern : Value) (store : Store) (self : Ref)
    (text matchType fuzziness constantScore : Value) (weights : List (String × Value))
    (given : weights ≠ []) (names : ∀ p ∈ weights, '^' ∉ p.1.toList) {W : Type}
    (read : String → Option W) (weight : Value → W)
    (reads : ∀ p ∈ weights, read p.2.text = some (weight p.2)) :
    ∃ fragment, Dialect.fragmentsWith ⟨suffix, pattern, []⟩ store self [] .search
        [text, weightTable weights, matchType, fuzziness, constantScore] = .ok [fragment] ∧
      (searchedFields read fragment =
          some (weights.map fun p => (p.1, some (weight p.2))) ↔
        weights.length ≠ 1) ∧
      ∀ name w, weights = [(name, w)] →
        searchedFields read fragment = some [(name ++ "^" ++ w.text, none)] := by
  by_cases one : weights.length = 1
  · obtain ⟨⟨name, w⟩, rfl⟩ := List.length_eq_one_iff.mp one
    have shown : searchedFields read (scored constantScore.truthy
        [("match", .map [(.str (name ++ "^" ++ w.text),
          .map (("query", text) :: fuzzinessEntry fuzziness))])]) =
        some [(name ++ "^" ++ w.text, none)] := by
      rw [searchedFields_scored (.inl rfl), matchedFields_one]
    refine ⟨_, fragmentsWith_search (textMatch_one name w), ?_, ?_⟩
    · rw [shown]
      simp
    · rintro _ _ ⟨⟩
      exact shown
  · have several : 1 < weights.length := by
      have := List.length_pos_iff.mpr given
      omega
    refine ⟨_, fragmentsWith_search (textMatch_several several), ?_, ?_⟩
    · rw [searchedFields_scored (.inr rfl), matchedFields_several names reads]
      exact ⟨fun _ => one, fun _ => rfl⟩
    · rintro name w rfl
      exact absurd rfl one

/-- The weights of two fields come back as texts, and the weight of one of them alone does not. -/
theorem searchedFields_search_titled :
    let search : List (String × Value) → Except Error (List Entries) := fun weights =>
      standard.fragmentsWith .empty ⟨0⟩ [] .search
        ["x", weightTable weights, .null, .null, .bool false]
    (∃ f, search [("title", .int 3), ("body", .int 1)] = .ok [f] ∧
      searchedFields some f = some [("title", some "3"), ("body", some "1")]) ∧
    ∃ f, search [("title", .int 3)] = .ok [f] ∧
      searchedFields some f = some [("title^3", none)] := by
  intro search
  obtain ⟨both, asked, back, -⟩ := searchedFields_search "" (.str Value.defaultDatePattern) .empty
    ⟨0⟩ "x" .null .null (.bool false) [("title", .int 3), ("body", .int 1)] (List.cons_ne_nil _ _)
    (by decide) some Value.text (fun _ _ => rfl)
  obtain ⟨one, searched, -, alone⟩ := searchedFields_search "" (.str Value.defaultDatePattern)
    .empty ⟨0⟩ "x" .null .null (.bool false) [("title", .int 3)] (List.cons_ne_nil _ _) (by decide)
    some Value.text (fun _ _ => rfl)
  exact ⟨⟨both, asked, back.mpr (by decide)⟩, one, searched, alone "title" (.int 3) rfl⟩

end Dialect

end DocumentSearch
