import DocumentSearch.Proofs.Object.Clauses
import DocumentSearch.Proofs.Object.Copies
import DocumentSearch.Proofs.Object.Heaps
import DocumentSearch.Proofs.Outcome

/-!
# Calls on builders as objects

A call changes its builder in place and does to it what it does to the builder as a value. A clause
that gets options has been made by the same call, so it is in no list of another builder.
-/
namespace DocumentSearch

open Outcome

namespace Builder

variable {b b' b'' : Builder}

/-- A builder that differs in nothing that is an object of its own. -/
def Plain (b b' : Builder) : Prop :=
  ∃ index limit offset expandInnerHits routing parentId, b' =
    { b with
      index := index
      limit := limit
      offset := offset
      expandInnerHits := expandInnerHits
      routing := routing
      parentId := parentId }

namespace Plain

theorem refl (b : Builder) : Plain b b := ⟨_, _, _, _, _, _, rfl⟩

theorem trans (h : Plain b b') (k : Plain b' b'') : Plain b b'' := by
  obtain ⟨_, _, _, _, _, _, rfl⟩ := h
  obtain ⟨_, _, _, _, _, _, rfl⟩ := k
  exact ⟨_, _, _, _, _, _, rfl⟩

theorem settle {x : Except Error Builder} (h : GivesOnly (Plain b) x) :
    Plain b (Edit.settle b x).2 := by
  cases x with
  | error e => exact refl b
  | ok b' => exact h b' rfl

theorem withLimit (b : Builder) (value : Value) : GivesOnly (Plain b) (b.withLimit value) :=
  .bind fun _ _ => .ok ⟨_, _, _, _, _, _, rfl⟩

theorem withOffset (b : Builder) (value : Value) : GivesOnly (Plain b) (b.withOffset value) :=
  .bind fun _ _ => .ok ⟨_, _, _, _, _, _, rfl⟩

theorem withPage (b : Builder) (page perPage : Value) : Plain b (b.withPage page perPage).2 := by
  unfold Builder.withPage
  split
  · exact refl b
  · rename_i b' started
    obtain ⟨start, -, offset⟩ := bind_eq_ok.mp started
    exact (withOffset b start b' offset).trans (settle (withLimit b' perPage))

end Plain

theorem withColumns_eq {columns : List Value} (h : b.withColumns columns = .ok b') :
    b' = { b with columns := b'.columns } := by
  unfold withColumns at h
  split at h
  · cases h
    rfl
  · obtain ⟨items, -, made⟩ := bind_eq_ok.mp h
    obtain rfl := pure_eq_ok.mp made
    rfl
  · cases h
    rfl

theorem withRefresh_eq {option : Value} (h : b.withRefresh option = .ok b') :
    b' = { b with options := b.options.insert "refresh" option } := by
  unfold withRefresh at h
  split at h <;> cases h
  rfl

theorem withConflicts_eq {option : Value} (h : b.withConflicts option = .ok b') :
    b' = { b with options := b.options.insert "conflicts" option } := by
  unfold withConflicts at h
  split at h <;> cases h
  rfl

theorem withAggregation_eq {a : Aggregation} (h : b.withAggregation a = .ok b') :
    b' = { b with aggregations := b.aggregations ++ [a] } := by
  unfold withAggregation at h
  split at h <;> cases h
  rfl

end Builder

namespace Heap

variable {h h' : Heap} {r : Ref} {o : Body} {added : Bucket → List Address}

/-! ## Clauses that do not stay where they were put -/

theorem Gains.takeBack (g : Gains h h' o added) :
    Gains h (h'.change o (.bucket .query) (List.take (h.count o .query))) o fun k =>
      if k = .query then [] else added k := by
  have before : (h'.own o (.bucket .query)).take (h.count o .query) = h.own o (.bucket .query) := by
    rw [g.grown]
    exact List.take_left
  have own := own_change g.turns.owned (.bucket .query) (List.take (h.count o .query))
  rw [before] at own
  have fits : h'.Fits (Slot.bucket .query).kind
      ((h'.own o (.bucket .query)).take (h.count o .query)) := fun a mem =>
    g.turns.owned.fits g.turns.sound (.bucket .query) a (List.mem_of_mem_take mem)
  refine ⟨g.turns.change _ _ fits, fun s other => ?_, fun k => ?_⟩
  · rw [own, Function.update_of_ne (other .query), g.rest s other]
  · rw [own]
    by_cases same : k = .query
    · subst same
      rw [Function.update_self, if_pos rfl, List.append_nil]
    · rw [Function.update_of_ne (by simpa using same), if_neg same, g.grown]

theorem Gains.behind (g : Gains h h' o added) (k : Bucket) :
    h'.behind o (h.count o) k = added k := by
  rw [Heap.behind, g.grown]
  exact List.drop_left

theorem filtered_view (sound : h.Sound) (owned : h.Owns o) {target : Bucket}
    (other : target ≠ .query) (clauses : List (Bucket × Clause)) :
    let placed := h.place o clauses
    let back := placed.change o (.bucket .query) (List.take (h.count o .query))
    let moved := back.append o target (placed.behind o (h.count o) .query)
    Turns (some o) h moved o ∧ moved.view o = (h.view o).placeFiltered target clauses := by
  intro placed back moved
  obtain ⟨added, gains, -, shows⟩ := place_gains sound owned clauses
  have taken : Gains h back o _ := gains.takeBack
  have there : ∀ a ∈ added .query, a < back.size .clause := fun a mem => by
    rw [show back.size .clause = placed.size .clause from size_write]
    exact gains.known mem
  have appended := append_gains taken.turns.sound taken.turns.owned target there
  have behind : placed.behind o (h.count o) .query = added .query := gains.behind .query
  rw [← behind] at appended
  have all : Gains h moved o _ := taken.trans appended
  refine ⟨all.turns, ?_⟩
  -- Moving the clauses changes none of them.
  have each : ∀ k, (added k).map moved.clauseAt =
      (clauses.filter (fun c => c.1 = k)).map Prod.snd := by
    intro k
    rw [← shows k]
    refine List.map_congr_left fun a mem => ?_
    have fits : placed.Fits (Slot.bucket .query).kind
        ((placed.own o (.bucket .query)).take (h.count o .query)) := fun a mem =>
      gains.turns.owned.fits gains.turns.sound (.bucket .query) a (List.mem_of_mem_take mem)
    have first := (Turns.refl gains.turns.sound gains.turns.owned).change _ _ fits
    have later := first.trans appended.turns
    exact later.frame.clauseAt later.before later.owners (gains.known mem)
  rw [all.view, Builder.placeFiltered_eq_grown _ other]
  refine congrArg _ (funext fun k => ?_)
  by_cases query : k = .query
  · subst query
    simp [other.symm]
  · by_cases same : k = target
    · subst same
      simp [query, behind, each]
    · simp [query, same, each]

/-- The options are given to clauses that the call has made. -/
theorem withOptions_view (sound : h.Sound) (owned : h.Owns o) (clauses : List (Bucket × Clause))
    (options : Entries) :
    let placed := h.place o clauses
    let given := (Bucket.all.flatMap (placed.behind o (h.count o))).foldl
      (setOptions · options) placed
    Turns (some o) h given o ∧ given.view o =
      (h.view o).place (clauses.map fun c => (c.1, { c.2 with options := options })) := by
  intro placed given
  obtain ⟨added, gains, new, shows⟩ := place_gains sound owned clauses
  have behind : placed.behind o (h.count o) = added := funext gains.behind
  have every : ∀ k, ∀ a ∈ added k, a ∈ Bucket.all.flatMap (placed.behind o (h.count o)) := by
    intro k a mem
    rw [behind]
    exact List.mem_flatMap.mpr ⟨k, by cases k <;> decide, mem⟩
  have made : ∀ a ∈ Bucket.all.flatMap (placed.behind o (h.count o)),
      h.size .clause ≤ a ∧ a < placed.size .clause := by
    intro a mem
    rw [behind] at mem
    obtain ⟨k, -, mem⟩ := List.mem_flatMap.mp mem
    exact ⟨new k a mem, gains.known mem⟩
  obtain ⟨turns, own, given_shows⟩ := giveOptions gains.turns options made
  have all : Gains h given o added := by
    refine ⟨turns, fun s other => ?_, fun k => ?_⟩
    · exact (congrFun own s).trans (gains.rest s other)
    · exact (congrFun own (.bucket k)).trans (gains.grown k)
  refine ⟨turns, ?_⟩
  rw [all.view, Builder.place_eq_grown]
  refine congrArg _ (funext fun k => ?_)
  calc (added k).map given.clauseAt
      = (added k).map fun a => { placed.clauseAt a with options := options } := by
        refine List.map_congr_left fun a mem => ?_
        rw [given_shows a (gains.known mem), if_pos (every k a mem)]
    _ = ((clauses.filter (fun c => c.1 = k)).map Prod.snd).map
          fun c => { c with options := options } := by
        rw [← shows k, List.map_map]
        rfl
    _ = _ := by
        rw [List.filter_map, List.map_map, List.map_map]
        rfl

/-! ## Edits -/

theorem view_assign {b : Builder} (plain : (h.view o).Plain b) : h.view (o.assign b) = b := by
  obtain ⟨_, _, _, _, _, _, rfl⟩ := plain
  rfl

/-- An edit of a heap that comes to the same as one of the builder as a value. -/
def Does (h : Heap) (r : Ref) : Except Error Heap → Except Error Builder → Prop
  | .ok h', .ok b => Becomes (some r) h (h.store.set r b) h'
  | .error e, .error e' => e = e'
  | _, _ => False

/-- The same of an edit that may have an effect when it is refused. -/
def Edits (h : Heap) (r : Ref) (x : Except Error Unit × Heap) (y : Except Error Unit × Builder) :
    Prop :=
  x.1 = y.1 ∧ Becomes (some r) h (h.store.set r y.2) x.2

section

variable (apart : h.Apart) (known : r.index < h.bodies.length)
include apart known

theorem turns_self : Turns (some (h.body r)) h h (h.body r) :=
  .refl apart.sound (apart.owned r known)

/-- The builder is the same object, with something else in its slots. -/
theorem becomes_of_view {b : Builder}
    (done : Turns (some (h.body r)) h h' (h.body r) ∧ h'.view (h.body r) = b) :
    Becomes (some r) h (h.store.set r b) h' := by
  obtain ⟨t, rfl⟩ := done
  have put := Becomes.put apart known t
  rwa [← t.body r, setBody_body, t.body r] at put

theorem unchanged : Becomes (some r) h (h.store.set r (h.view (h.body r))) h :=
  becomes_of_view apart known ⟨turns_self apart known, rfl⟩

theorem edits_settle {x : Except Error Heap} {y : Except Error Builder} (does : Does h r x y) :
    Edits h r (h.settle x) (Edit.settle (h.view (h.body r)) y) := by
  cases x <;> cases y
  · exact ⟨congrArg Except.error does, unchanged apart known⟩
  · cases does
  · cases does
  · exact ⟨rfl, does⟩

/-- One of the objects is changed in its place. -/
theorem does_change (s : Slot) (f : s.kind.Content → s.kind.Content)
    (fits : h.Fits s.kind (f (h.own (h.body r) s))) :
    Does h r (.ok (h.change (h.body r) s f))
      (.ok ((h.body r).builder (Function.update (h.seen (h.body r)) s
        (h.seenAs s (f (h.own (h.body r) s)))))) :=
  becomes_of_view apart known ⟨(turns_self apart known).change s f fits,
    view_change apart.sound (apart.owned r known) s f fits⟩

end

namespace Does

theorem bind {α : Type} {x : Except Error α} {f : α → Except Error Heap}
    {g : α → Except Error Builder} (same : ∀ a, x = .ok a → Does h r (f a) (g a)) :
    Does h r (x >>= f) (x >>= g) := by
  cases x with
  | error e => exact rfl
  | ok a => exact same a rfl

/-- The builder as a value decides whether the edit is refused. -/
theorem checked {x : Except Error Builder} {f : Builder → Except Error Heap}
    (same : ∀ b, x = .ok b → Does h r (f b) (.ok b)) : Does h r (x >>= f) x := by
  cases x with
  | error e => exact rfl
  | ok b => exact same b rfl

end Does

section

variable (apart : h.Apart) (known : r.index < h.bodies.length)
include apart known

theorem edits_assign {y : Except Error Unit × Builder} (plain : (h.view (h.body r)).Plain y.2) :
    Edits h r (y.1, h.setBody r ((h.body r).assign y.2)) y := by
  have turns : Turns (some (h.body r)) h h ((h.body r).assign y.2) :=
    (turns_self apart known).of_slots rfl
  refine ⟨rfl, ?_⟩
  have done := Becomes.put apart known turns
  rwa [view_assign plain] at done

theorem does_addAggregation (a : Aggregation) :
    Does h r (h.addAggregation r a) ((h.view (h.body r)).withAggregation a) := by
  refine .checked fun b made => ?_
  have done := does_change apart known .aggregations (· ++ [a]) trivial
  rw [Body.builder_aggregations] at done
  rw [Builder.withAggregation_eq made]
  exact done

theorem does_filtered (kind : Value) (arguments : Arguments Value) (bucket : Value) :
    Does h r (h.filtered r kind arguments bucket)
      (Builder.filtered h.store r (h.view (h.body r)) kind arguments bucket) := by
  refine .bind fun target _ => ?_
  by_cases query : target = .query
  · rw [if_pos query, if_pos query]
    exact rfl
  rw [if_neg query, if_neg query]
  exact .bind fun clauses _ =>
    becomes_of_view apart known (filtered_view apart.sound (apart.owned r known) query clauses)

theorem edits_withClauseOptions (kind : Value) (arguments : Arguments Value) (options : Value) :
    Edits h r (h.withClauseOptions r kind arguments options)
      (Builder.withClauseOptions h.store r (h.view (h.body r)) kind arguments options) := by
  have owned := apart.owned r known
  unfold withClauseOptions Builder.withClauseOptions
  cases made : Builder.clausesOf h.store r kind arguments with
  | error e => exact ⟨rfl, unchanged apart known⟩
  | ok clauses =>
    cases options.toEntries with
    | ok options =>
      exact ⟨rfl, becomes_of_view apart known
        (withOptions_view apart.sound owned clauses options)⟩
    | error e => exact ⟨rfl, becomes_of_view apart known (place_view apart.sound owned clauses)⟩

theorem edit_edits (e : Edit) :
    Edits h r (h.edit r e) (e.apply h.store r (h.view (h.body r))) := by
  have owned := apart.owned r known
  cases e with
  | index | routing | parentId | expandInnerHits =>
    exact edits_assign apart known ⟨_, _, _, _, _, _, rfl⟩
  | limit v => exact edits_assign apart known (.settle (.withLimit _ v))
  | offset v => exact edits_assign apart known (.settle (.withOffset _ v))
  | page p perPage => exact edits_assign apart known (.withPage _ p perPage)
  | select columns =>
    refine edits_settle apart known (.checked fun b made => ?_)
    obtain ⟨turns, view⟩ := renew_columns (turns_self apart known) b.columns
    have done := Becomes.put apart known turns
    rw [view, ← Builder.withColumns_eq made] at done
    exact done
  | refresh option =>
    refine edits_settle apart known (.checked fun b made => ?_)
    have done := does_change apart known .options (·.insert "refresh" option) trivial
    rw [Body.builder_options] at done
    rw [Builder.withRefresh_eq made]
    exact done
  | conflicts option =>
    refine edits_settle apart known (.checked fun b made => ?_)
    have done := does_change apart known .options (·.insert "conflicts" option) trivial
    rw [Body.builder_options] at done
    rw [Builder.withConflicts_eq made]
    exact done
  | clause c bucket =>
    refine edits_settle apart known (.bind fun k _ => ?_)
    exact becomes_of_view apart known (place_view apart.sound owned [(k, c)])
  | criterion c =>
    refine edits_settle apart known (.bind fun clauses _ => ?_)
    exact becomes_of_view apart known (place_view apart.sound owned clauses)
  | withOptions kind arguments options =>
    exact edits_withClauseOptions apart known kind arguments options
  | filter kind arguments bucket =>
    exact edits_settle apart known (does_filtered apart known kind arguments bucket)
  | aggregation key type args sub =>
    refine edits_settle apart known (.bind fun sub _ => .bind fun a _ => ?_)
    exact does_addAggregation apart known a
  | order column direction options =>
    refine edits_settle apart known (.bind fun order _ => ?_)
    have done := does_change apart known .orders (· ++ [order]) trivial
    rw [Body.builder_orders] at done
    exact done

theorem attach_edits (key type args : Value) (sub : Ref) :
    Edits h r (h.settle do h.addAggregation r (← Aggregation.make key type args (some sub)))
      (Edit.settle (h.view (h.body r))
        (FluentCall.attach (h.view (h.body r)) key type args sub)) :=
  edits_settle apart known (.bind fun a _ => does_addAggregation apart known a)

end

/-! ## Calls -/

theorem Becomes.inside {made h'' : Heap} {s : Store} (apart : h.Apart) (t : Turns none h made o)
    (b : Becomes (some (made.addBody o).1) (made.addBody o).2 s h'') : Becomes none h s h'' where
  apart := b.apart
  shows := b.shows
  spares := by
    refine (Becomes.add apart t).spares.trans b.spares fun r mem => ?_
    obtain rfl := Option.mem_some.mp mem
    refine .inr ⟨Nat.le_of_eq t.count.symm, fun s => ?_⟩
    rw [body_addBody_self]
    exact (t.mine s).resolve_left nofun

mutual

theorem call_becomes (h : Heap) (r : Ref) (apart : h.Apart) (known : r.index < h.bodies.length) :
    ∀ c : FluentCall, (h.call r c).1 = (c.perform h.store r).1 ∧
      Becomes (some r) h (c.perform h.store r).2 (h.call r c).2
  | .edit e => by
    rw [FluentCall.perform, get_store known, call]
    exact edit_edits apart known e
  | .preset key type args calls => by
    obtain ⟨turns, view⟩ := newBody_view apart.sound (h.body r).keyName
    have added := Becomes.add apart turns
    have keyName : (h.store.get r).keyName = (h.body r).keyName := by
      rw [get_store known]
      rfl
    have place : ((h.newBody (h.body r).keyName).2.addBody (h.newBody (h.body r).keyName).1).1 =
        (h.store.add (.blank (h.body r).keyName)).1 := by
      rw [addBody, turns.bodies]
      exact congrArg Ref.mk (size_store h).symm
    have store := added.shows
    rw [view] at store
    have filled := callAll_becomes _
      ((h.newBody (h.body r).keyName).2.addBody (h.newBody (h.body r).keyName).1).1 added.apart
      (by simp [addBody]) calls
    rw [call, FluentCall.perform, keyName]
    dsimp only
    rw [← place, ← store]
    revert filled
    generalize callAll _ _ calls = here
    generalize FluentCall.performAll _ _ calls = there
    obtain ⟨result, here⟩ := here
    obtain ⟨_, there⟩ := there
    rintro ⟨rfl, filled⟩
    have all := (Becomes.inside apart turns filled).of_none known
    obtain rfl := all.shows
    cases result with
    | error e => exact ⟨rfl, all⟩
    | ok _ =>
      have known := Nat.lt_of_lt_of_le known all.spares.count
      obtain ⟨same, last⟩ := attach_edits all.apart known key type args
        ((h.newBody (h.body r).keyName).2.addBody (h.newBody (h.body r).keyName).1).1
      rw [← get_store known] at same last
      exact ⟨same, all.trans last⟩

theorem callAll_becomes (h : Heap) (r : Ref) (apart : h.Apart) (known : r.index < h.bodies.length) :
    ∀ calls : List FluentCall,
      (h.callAll r calls).1 = (FluentCall.performAll h.store r calls).1 ∧
        Becomes (some r) h (FluentCall.performAll h.store r calls).2 (h.callAll r calls).2
  | [] => by
    rw [callAll, FluentCall.performAll]
    refine ⟨rfl, .refl apart fun q mem => ?_⟩
    obtain rfl := Option.mem_some.mp mem
    exact known
  | first :: rest => by
    have one := call_becomes h r apart known first
    rw [callAll, FluentCall.performAll]
    revert one
    generalize h.call r first = here
    generalize first.perform h.store r = there
    obtain ⟨result, here⟩ := here
    obtain ⟨_, there⟩ := there
    rintro ⟨rfl, one⟩
    obtain rfl := one.shows
    cases result with
    | error e => exact ⟨rfl, one⟩
    | ok _ =>
      have later := callAll_becomes here r one.apart
        (Nat.lt_of_lt_of_le known one.spares.count) rest
      exact ⟨later.1, one.trans later.2⟩

end

end Heap

end DocumentSearch
