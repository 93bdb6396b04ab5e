import DocumentSearch.Fragment.Options
import DocumentSearch.Proofs.Clause.Form
import DocumentSearch.Proofs.Outcome
import DocumentSearch.Proofs.Matching.Translation
import DocumentSearch.Value.Dates

/-!
# Dates inside values

A date may stand anywhere in lists, tuples and tables. Converting a value spells the dates that are
the value itself or an item of it, and leaves those that stand deeper. Where it leaves none, the
value may as well have had all of its dates spelled beforehand.
-/
namespace DocumentSearch

open Outcome

namespace Value

mutual

/-- Whether a value is a date or has one anywhere inside it. -/
def dated : Value → Bool
  | .date _ => true
  | .moment _ => true
  | .list items => datedAny items
  | .tuple items => datedAny items
  | .map entries => datedEntries entries
  | .response body => dated body
  | .view _ _ contents => dated contents
  | _ => false
termination_by structural v => v

def datedAny : List Value → Bool
  | [] => false
  | v :: rest => dated v || datedAny rest
termination_by structural vs => vs

def datedEntry : Value × Value → Bool
  | (k, v) => dated k || dated v
termination_by structural p => p

def datedEntries : List (Value × Value) → Bool
  | [] => false
  | p :: rest => datedEntry p || datedEntries rest
termination_by structural ps => ps

end

mutual

/-- A value with every date in it written in a pattern. -/
def spelled (pattern : String) : Value → Value
  | .date d => .str (d.midnight.format pattern)
  | .moment m => .str (m.format pattern)
  | .list items => .list (spelledEach pattern items)
  | .tuple items => .tuple (spelledEach pattern items)
  | .map entries => .map (spelledEntries pattern entries)
  | .response body => .response (spelled pattern body)
  | .view part ref contents => .view part ref (spelled pattern contents)
  | v => v
termination_by structural v => v

def spelledEach (pattern : String) : List Value → List Value
  | [] => []
  | v :: rest => spelled pattern v :: spelledEach pattern rest
termination_by structural vs => vs

def spelledEntry (pattern : String) : Value × Value → Value × Value
  | (k, v) => (spelled pattern k, spelled pattern v)
termination_by structural p => p

def spelledEntries (pattern : String) : List (Value × Value) → List (Value × Value)
  | [] => []
  | p :: rest => spelledEntry pattern p :: spelledEntries pattern rest
termination_by structural ps => ps

end

@[simp] theorem datedAny_eq (items : List Value) : datedAny items = items.any dated := by
  induction items with
  | nil => rfl
  | cons v items ih => rw [datedAny, ih, List.any_cons]

@[simp] theorem datedEntries_eq (entries : List (Value × Value)) :
    datedEntries entries = entries.any fun p => p.1.dated || p.2.dated := by
  induction entries with
  | nil => rfl
  | cons p entries ih => rw [datedEntries, ih, List.any_cons, datedEntry]

@[simp] theorem spelledEach_eq (pattern : String) (items : List Value) :
    spelledEach pattern items = items.map (spelled pattern) := by
  induction items with
  | nil => rfl
  | cons v items ih => rw [spelledEach, ih, List.map_cons]

@[simp] theorem spelledEntries_eq (pattern : String) (entries : List (Value × Value)) :
    spelledEntries pattern entries =
      entries.map fun p => (p.1.spelled pattern, p.2.spelled pattern) := by
  induction entries with
  | nil => rfl
  | cons p entries ih => rw [spelledEntries, ih, List.map_cons, spelledEntry]

mutual

theorem spelled_of_undated (pattern : String) : ∀ v : Value, v.dated = false → v.spelled pattern = v
  | .list items, clear => congrArg list (spelledEach_of_undated pattern items clear)
  | .tuple items, clear => congrArg tuple (spelledEach_of_undated pattern items clear)
  | .map entries, clear => congrArg map (spelledEntries_of_undated pattern entries clear)
  | .response body, clear => congrArg response (spelled_of_undated pattern body clear)
  | .view part ref contents, clear =>
    congrArg (view part ref) (spelled_of_undated pattern contents clear)
  | .null, _ | .bool _, _ | .int _, _ | .float _, _ | .str _, _ | .bytes _, _ | .unit _, _
  | .point _, _ | .bounds _, _ | .builder _, _ | .record _ _, _ | .convertible _, _ | .clause _, _
  | .order _, _ | .aggregation _, _ | .entity _ _, _ | .handle _, _ => rfl
termination_by structural v => v

theorem spelledEach_of_undated (pattern : String) :
    ∀ items : List Value, datedAny items = false → spelledEach pattern items = items
  | [], _ => rfl
  | v :: rest, clear => by
    rw [datedAny, Bool.or_eq_false_iff] at clear
    rw [spelledEach, spelled_of_undated pattern v clear.1,
      spelledEach_of_undated pattern rest clear.2]
termination_by structural items => items

theorem spelledEntry_of_undated (pattern : String) :
    ∀ p : Value × Value, datedEntry p = false → spelledEntry pattern p = p
  | (k, v), clear => by
    rw [datedEntry, Bool.or_eq_false_iff] at clear
    rw [spelledEntry, spelled_of_undated pattern k clear.1, spelled_of_undated pattern v clear.2]
termination_by structural p => p

theorem spelledEntries_of_undated (pattern : String) :
    ∀ entries : List (Value × Value), datedEntries entries = false →
      spelledEntries pattern entries = entries
  | [], _ => rfl
  | p :: rest, clear => by
    rw [datedEntries, Bool.or_eq_false_iff] at clear
    rw [spelledEntries, spelledEntry_of_undated pattern p clear.1,
      spelledEntries_of_undated pattern rest clear.2]
termination_by structural entries => entries

end

/-- Whether a date stands inside a value that is no date itself. -/
def buries : Value → Bool
  | .date _ => false
  | .moment _ => false
  | v => v.dated

/-- Whether a date stands deeper in a value than converting looks. -/
def hides (v : Value) : Bool :=
  match v.sequence? with
  | some items => items.any buries
  | none => v.buries

section Converting

variable {v w : Value} {pattern : String}

theorem dated_convertDate (h : v.convertDate (.str pattern) = .ok w) : w.dated = v.buries := by
  cases v <;> cases h <;> rfl

theorem any_dated_of_mapM {items written : List Value}
    (h : items.mapM (convertDate · (.str pattern)) = .ok written) :
    written.any dated = items.any buries := by
  induction items generalizing written with
  | nil =>
    obtain rfl := pure_eq_ok.mp h
    rfl
  | cons v items ih =>
    obtain ⟨w, rest, first, more, rfl⟩ := mapM_cons_eq_ok.mp h
    rw [List.any_cons, List.any_cons, dated_convertDate first, ih more]

theorem dated_convertDates (h : v.convertDates (.str pattern) = .ok w) : w.dated = v.hides := by
  unfold convertDates at h
  unfold hides
  cases sequence : v.sequence? with
  | some items =>
    simp only [sequence] at h
    obtain ⟨written, each, h⟩ := bind_eq_ok.mp h
    obtain rfl := pure_eq_ok.mp h
    rw [dated, datedAny_eq]
    exact any_dated_of_mapM each
  | none =>
    simp only [sequence] at h
    exact dated_convertDate h

theorem convertDate_spelled (clear : v.buries = false) :
    (v.spelled pattern).convertDate (.str pattern) = v.convertDate (.str pattern) := by
  cases v with
  | date d => rfl
  | moment m => rfl
  | _ => rw [spelled_of_undated pattern _ clear]

theorem sequence?_spelled {items : List Value} (h : v.sequence? = some items) :
    (v.spelled pattern).sequence? = some (items.map (spelled pattern)) := by
  cases v with
  | view part ref contents =>
    cases contents <;> cases h <;> simp [sequence?, seen, spelled]
  | _ => cases h <;> simp [sequence?, seen, spelled]

/-- Dates that converting reaches may be spelled beforehand. -/
theorem convertDates_spelled (clear : v.hides = false) :
    (v.spelled pattern).convertDates (.str pattern) = v.convertDates (.str pattern) := by
  unfold hides at clear
  cases sequence : v.sequence? with
  | some items =>
    rw [sequence] at clear
    have each : (items.map (spelled pattern)).mapM (convertDate · (.str pattern)) =
        items.mapM (convertDate · (.str pattern)) := by
      rw [List.mapM_map]
      exact mapM_same fun item mem => convertDate_spelled <|
        Bool.eq_false_iff.mpr (List.any_eq_false.mp clear item mem)
    rw [convertDates, convertDates, sequence?_spelled sequence, sequence]
    dsimp only
    rw [each]
  | none =>
    rw [sequence] at clear
    cases v with
    | date d => rfl
    | moment m => rfl
    | _ => rw [spelled_of_undated pattern _ clear]

end Converting

@[simp] theorem dated_list (items : List Value) : (list items).dated = items.any dated := by
  rw [dated, datedAny_eq]

@[simp] theorem spelled_list (pattern : String) (items : List Value) :
    (list items).spelled pattern = list (items.map (spelled pattern)) := by
  rw [spelled, spelledEach_eq]

@[simp] theorem spelled_map (pattern : String) (entries : List (Value × Value)) :
    (map entries).spelled pattern =
      map (entries.map fun p => (p.1.spelled pattern, p.2.spelled pattern)) := by
  rw [spelled, spelledEntries_eq]

@[simp] theorem dated_map (entries : List (Value × Value)) :
    (map entries).dated = entries.any fun p => p.1.dated || p.2.dated := by
  rw [dated, datedEntries_eq]

theorem dated_of_entries? :
    ∀ (v : Value) {entries : Entries}, v.entries? = some entries → v.dated = (map entries).dated
  | .map _, _, h => by cases h; rfl
  | .response body, _, h => dated_of_entries? body h
  | .view _ _ contents, _, h => dated_of_entries? contents h
  | .null, _, h | .bool _, _, h | .int _, _, h | .float _, _, h | .str _, _, h | .bytes _, _, h
  | .date _, _, h | .moment _, _, h | .list _, _, h | .tuple _, _, h | .unit _, _, h
  | .point _, _, h | .bounds _, _, h | .builder _, _, h | .record _ _, _, h | .convertible _, _, h
  | .clause _, _, h | .order _, _, h | .aggregation _, _, h | .entity _ _, _, h
  | .handle _, _, h => nomatch h
termination_by structural v => v

theorem dated_of_items? (v : Value) {items : List Value} (h : v.items? = some items) {item : Value}
    (mem : item ∈ items) (has : item.dated = true) : v.dated = true := by
  fun_induction items? v with
  | case1 items | case2 items =>
    cases h
    simpa [dated] using ⟨item, mem, has⟩
  | case3 entries =>
    cases h
    obtain ⟨p, there, rfl⟩ := List.mem_map.mp mem
    rw [dated_map, List.any_eq_true]
    exact ⟨p, there, by rw [has, Bool.true_or]⟩
  | case4 s | case5 bs =>
    cases h
    obtain ⟨_, -, rfl⟩ := List.mem_map.mp mem
    cases has
  | case6 body ih => exact ih h
  | case7 part ref contents ih => exact ih h
  | case8 => cases h

end Value

namespace Table

theorem mem_insert {t : Entries} {k v : Value} {p : Value × Value} (h : p ∈ t.insert k v) :
    p ∈ t ∨ p.2 = v ∧ (p.1 = k ∨ ∃ old, (p.1, old) ∈ t) := by
  induction t with
  | nil =>
    obtain rfl := List.mem_singleton.mp h
    exact .inr ⟨rfl, .inl rfl⟩
  | cons q t ih =>
    obtain ⟨key, old⟩ := q
    rw [insert] at h
    split at h <;> rcases List.mem_cons.mp h with rfl | mem
    · exact .inr ⟨rfl, .inr ⟨old, List.mem_cons_self⟩⟩
    · exact .inl (List.mem_cons_of_mem _ mem)
    · exact .inl List.mem_cons_self
    · rcases ih mem with there | ⟨same, rfl | ⟨other, there⟩⟩
      · exact .inl (List.mem_cons_of_mem _ there)
      · exact .inr ⟨same, .inl rfl⟩
      · exact .inr ⟨same, .inr ⟨other, List.mem_cons_of_mem _ there⟩⟩

theorem dated_iff {t : Entries} :
    (Value.map t).dated = true ↔ ∃ p ∈ t, p.1.dated = true ∨ p.2.dated = true := by
  simp

theorem dated_cons {k v w : Value} {t : Entries} (more : w.dated = true → v.dated = true)
    (h : (Value.map ((k, w) :: t)).dated = true) : (Value.map ((k, v) :: t)).dated = true := by
  obtain ⟨p, mem, has⟩ := dated_iff.mp h
  rcases List.mem_cons.mp mem with rfl | there
  · exact dated_iff.mpr ⟨_, List.mem_cons_self, has.imp id more⟩
  · exact dated_iff.mpr ⟨p, List.mem_cons_of_mem _ there, has⟩

theorem dated_insert {t : Entries} {k v : Value} (h : (Value.map (t.insert k v)).dated = true) :
    (Value.map t).dated = true ∨ k.dated = true ∨ v.dated = true := by
  obtain ⟨p, mem, has⟩ := dated_iff.mp h
  rcases mem_insert mem with there | ⟨rfl, rfl | ⟨old, there⟩⟩
  · exact .inl (dated_iff.mpr ⟨p, there, has⟩)
  · exact .inr has
  · rcases has with key | written
    · exact .inl (dated_iff.mpr ⟨_, there, .inl key⟩)
    · exact .inr (.inr written)

theorem dated_update {t u : Entries} (h : (Value.map (t.update u)).dated = true) :
    (Value.map t).dated = true ∨ (Value.map u).dated = true := by
  induction u generalizing t with
  | nil => exact .inl h
  | cons p u ih =>
    rcases ih h with early | late
    · rcases dated_insert early with before | written
      · exact .inl before
      · exact .inr (dated_iff.mpr ⟨p, List.mem_cons_self, written⟩)
    · obtain ⟨q, mem, has⟩ := dated_iff.mp late
      exact .inr (dated_iff.mpr ⟨q, List.mem_cons_of_mem _ mem, has⟩)

end Table

namespace Value

theorem dated_of_entries {v : Value} {entries : Entries} (h : v.entries = .ok entries) :
    v.dated = (map entries).dated := by
  unfold Value.entries at h
  split at h
  · rename_i seen
    cases h
    exact dated_of_entries? v seen
  · cases h

theorem dated_of_pair {v : Value} {p : Value × Value} (h : v.pair = .ok p)
    (has : p.1.dated = true ∨ p.2.dated = true) : v.dated = true := by
  unfold pair at h
  split at h
  · rename_i key value two
    obtain ⟨k, isKey, h⟩ := bind_eq_ok.mp h
    obtain rfl := pure_eq_ok.mp h
    obtain rfl := Engine.asKey_eq_ok isKey
    rcases has with has | has
    · exact dated_of_items? v two List.mem_cons_self has
    · exact dated_of_items? v two (List.mem_cons_of_mem _ List.mem_cons_self) has
  · cases h
  · cases h

theorem dated_of_toEntries {v : Value} {entries : Entries} (h : v.toEntries = .ok entries)
    (has : (map entries).dated = true) : v.dated = true := by
  unfold toEntries at h
  split at h
  · rename_i seen
    cases h
    rwa [dated_of_entries? v seen]
  · obtain ⟨items, yields, h⟩ := bind_eq_ok.mp h
    obtain ⟨pairs, each, h⟩ := bind_eq_ok.mp h
    obtain rfl := pure_eq_ok.mp h
    have listed : v.items? = some items := by
      unfold Value.items at yields
      split at yields <;> cases yields
      assumption
    rcases Table.dated_update (t := []) has with none | some
    · cases none
    · obtain ⟨p, mem, has⟩ := Table.dated_iff.mp some
      obtain ⟨item, there, read⟩ := source_of_mapM each mem
      exact dated_of_items? v listed there (dated_of_pair read has)

end Value

namespace Fragment

theorem dated_of_innerHitsOf {v hits : Value} (h : innerHitsOf v = .ok hits)
    (has : hits.dated = true) : v.dated = true := by
  unfold innerHitsOf at h
  split at h
  · cases h
    cases has
  · split at h
    · obtain ⟨entries, read, h⟩ := bind_eq_ok.mp h
      obtain rfl := pure_eq_ok.mp h
      exact Value.dated_of_toEntries read has
    · cases h
      cases has

theorem dated_updateFirst {f : Value → Value → Except Misuse Value} {extra : Value}
    {fragment w : Entries} (h : updateFirst f fragment = .ok w)
    (each : ∀ kind body changed, f kind body = .ok changed → changed.dated = true →
      body.dated = true ∨ extra.dated = true)
    (has : (Value.map w).dated = true) :
    (Value.map fragment).dated = true ∨ extra.dated = true := by
  cases fragment with
  | nil => cases h
  | cons p fragment =>
    obtain ⟨kind, body⟩ := p
    have h : f kind body >>= (fun c => pure (Table.insert ((kind, body) :: fragment) kind c)) =
        .ok w := h
    obtain ⟨changed, done, h⟩ := bind_eq_ok.mp h
    obtain rfl := pure_eq_ok.mp h
    have first : kind.dated = true ∨ body.dated = true →
        (Value.map ((kind, body) :: fragment)).dated = true :=
      fun has => Table.dated_iff.mpr ⟨_, List.mem_cons_self, has⟩
    rcases Table.dated_insert has with before | key | written
    · exact .inl before
    · exact .inl (first (.inl key))
    · exact (each kind body changed done written).imp (fun body => first (.inr body)) id

theorem mem_of_firstEntry {t : Entries} {p : Value × Value} (h : firstEntry t = .ok p) :
    p ∈ t := by
  cases t <;> cases h
  exact List.mem_cons_self

theorem dated_boosted {boost kind body changed : Value} (h : boosted boost kind body = .ok changed)
    (has : changed.dated = true) : body.dated = true ∨ boost.dated = true := by
  unfold boosted at h
  split at h
  · obtain ⟨entries, read, h⟩ := bind_eq_ok.mp h
    obtain ⟨⟨column, value⟩, first, h⟩ := bind_eq_ok.mp h
    obtain rfl := pure_eq_ok.mp h
    rw [Value.dated_of_entries read, Table.dated_iff]
    have either : column.dated = true ∨ value.dated = true ∨ boost.dated = true := by
      simpa [Value.dated] using has
    rcases either with key | inner | added
    · exact .inl ⟨_, mem_of_firstEntry first, .inl key⟩
    · exact .inl ⟨_, mem_of_firstEntry first, .inr inner⟩
    · exact .inr added
  · split at h
    · obtain ⟨entries, read, h⟩ := bind_eq_ok.mp h
      obtain ⟨⟨column, parameters⟩, first, h⟩ := bind_eq_ok.mp h
      obtain ⟨fields, inside, h⟩ := bind_eq_ok.mp h
      obtain rfl := pure_eq_ok.mp h
      rw [Value.dated_of_entries read, Table.dated_iff]
      obtain ⟨p, mem, has⟩ := Table.dated_iff.mp has
      obtain rfl := List.mem_singleton.mp mem
      rcases has with key | laid
      · exact .inl ⟨_, mem_of_firstEntry first, .inl key⟩
      · rcases Table.dated_insert laid with before | key | added
        · refine .inl ⟨_, mem_of_firstEntry first, .inr ?_⟩
          rwa [Value.dated_of_entries inside]
        · cases key
        · exact .inr added
    · obtain ⟨entries, read, h⟩ := bind_eq_ok.mp h
      obtain rfl := pure_eq_ok.mp h
      rw [Value.dated_of_entries read]
      rcases Table.dated_insert has with before | key | added
      · exact .inl before
      · cases key
      · exact .inr added

theorem dated_withInnerHits {hits kind body changed : Value}
    (h : withInnerHits hits kind body = .ok changed) (has : changed.dated = true) :
    body.dated = true ∨ hits.dated = true := by
  obtain ⟨entries, read, h⟩ := bind_eq_ok.mp h
  obtain rfl := pure_eq_ok.mp h
  rw [Value.dated_of_entries read]
  rcases Table.dated_insert has with before | key | written
  · exact .inl before
  · cases key
  · exact .inr written

theorem dated_withOptions {fragment options w : Entries} (h : withOptions fragment options = .ok w)
    (has : (Value.map w).dated = true) :
    (Value.map fragment).dated = true ∨ (Value.map options).dated = true := by
  have given : ∀ (key : String) v, options.find? key = some v → v.dated = true →
      (Value.map options).dated = true := by
    intro key v found has
    obtain ⟨k, mem, -⟩ := Table.mem_of_find? found
    exact Table.dated_iff.mpr ⟨_, mem, .inr has⟩
  rw [withOptions_eq] at h
  obtain ⟨middle, boost, h⟩ := bind_eq_ok.mp h
  have hits : (Value.map middle).dated = true ∨ (Value.map options).dated = true := by
    split at h
    · rename_i v asked
      obtain ⟨wanted, read, h⟩ := bind_eq_ok.mp h
      exact (dated_updateFirst h (fun _ _ _ => dated_withInnerHits) has).imp id fun has =>
        given _ v asked (dated_of_innerHitsOf read has)
    · cases h
      exact .inl has
  refine hits.elim (fun has => ?_) .inr
  split at boost
  · rename_i v asked
    exact (dated_updateFirst boost (fun _ _ _ => dated_boosted) has).imp id (given _ v asked)
  · cases boost
    exact .inl has

theorem dated_erase {t : Entries} {key : Value} (h : (Value.map (t.erase key)).dated = true) :
    (Value.map t).dated = true := by
  obtain ⟨p, mem, has⟩ := Table.dated_iff.mp h
  exact Table.dated_iff.mpr ⟨p, (List.mem_filter.mp mem).1, has⟩

theorem dated_unboosted {kind : Value} {body : Entries}
    (h : (Value.map (unboosted kind body)).dated = true) : (Value.map body).dated = true := by
  unfold unboosted at h
  split at h
  · split at h
    · rename_i column parameters rest
      refine Table.dated_cons (fun has => ?_) h
      cases found : Table.find? parameters "value" with
      | none =>
        rw [found] at has
        cases has
      | some v =>
        rw [found] at has
        obtain ⟨k, mem, -⟩ := Table.mem_of_find? found
        exact Table.dated_iff.mpr ⟨_, mem, .inr has⟩
    · exact h
  · split at h
    · split at h
      · exact Table.dated_cons dated_erase h
      · exact h
    · exact dated_erase h

theorem dated_without {options fragment : Entries}
    (h : (Value.map (without options fragment)).dated = true) :
    (Value.map fragment).dated = true := by
  unfold without at h
  split at h
  · rename_i kind body
    have stripped : (Value.map (strip options kind body)).dated = true →
        (Value.map body).dated = true := by
      intro h
      unfold strip at h
      dsimp only at h
      split at h <;> split at h
      · exact dated_erase (dated_unboosted h)
      · exact dated_unboosted h
      · exact dated_erase h
      · exact h
    exact Table.dated_cons stripped h
  · exact h

end Fragment

end DocumentSearch
