import DocumentSearch.Fragment.Merge

/-!
# Merging as a monoid

A merged fragment has the keys of both sides, the earlier ones first, and what stands under a key
depends on what the two sides have there. The empty fragment changes nothing. Merging three
fragments in either order comes to the same, as long as no two of them have values of different
kinds at the end of one path: of a list, then a text, then a list, the first is lost in one order
only.
-/
namespace DocumentSearch

namespace Table

variable {κ α : Type} [BEq κ]

theorem find?_eq_none_iff {t : Table κ α} {key : κ} :
    t.find? key = none ↔ ∀ k ∈ t.keys, (k == key) = false := by
  induction t with
  | nil => simp [keys]
  | cons p t ih =>
    obtain ⟨k, v⟩ := p
    by_cases same : k == key <;> simp_all [find?, keys]

theorem distinct_iff {t : Table κ α} : t.Distinct ↔ t.keys.Pairwise fun k l => (k == l) = false := by
  rw [Distinct, keys, List.pairwise_map]

theorem keys_insert (t : Table κ α) (key : κ) (value : α) :
    (t.insert key value).keys = if t.has key then t.keys else t.keys ++ [key] := by
  induction t with
  | nil => rfl
  | cons p t ih =>
    obtain ⟨k, v⟩ := p
    cases same : k == key with
    | true => simp [insert, keys, has, find?, same]
    | false =>
      have rest : keys (insert t key value) =
          if (find? t key).isSome then keys t else keys t ++ [key] := ih
      simp only [insert, same, Bool.false_eq_true, if_false, has, find?]
      change k :: keys (insert t key value) = _
      rw [rest]
      split <;> rfl

variable [EquivBEq κ]

theorem find?_congr {key other : κ} (same : (key == other) = true) (t : Table κ α) :
    t.find? key = t.find? other := by
  induction t with
  | nil => rfl
  | cons p t ih => rw [find?_cons, find?_cons, BEq.congr_right same, ih]

theorem find?_of_mem {t : Table κ α} (distinct : t.Distinct) {p : κ × α} (mem : p ∈ t) :
    t.find? p.1 = some p.2 := by
  induction t with
  | nil => cases mem
  | cons q t ih =>
    obtain ⟨first, distinct⟩ := List.pairwise_cons.mp distinct
    rcases List.mem_cons.mp mem with rfl | mem
    · rw [find?_cons, if_pos BEq.rfl]
    · rw [find?_cons, if_neg (by simp [first p mem]), ih distinct mem]

theorem ext_of_distinct {t u : Table κ α} (distinct : t.Distinct) (same_keys : t.keys = u.keys)
    (same : ∀ key, t.find? key = u.find? key) : t = u := by
  induction t generalizing u with
  | nil => exact (List.map_eq_nil_iff.mp same_keys.symm).symm
  | cons p t ih =>
    obtain ⟨k, v⟩ := p
    cases u with
    | nil => cases same_keys
    | cons q u =>
      obtain ⟨l, w⟩ := q
      obtain ⟨rfl, rest⟩ : k = l ∧ keys t = keys u := List.cons.inj same_keys
      obtain ⟨first, distinct⟩ := List.pairwise_cons.mp (distinct_iff.mp distinct)
      have head : v = w := by simpa [find?] using same k
      have tail : ∀ key, find? t key = find? u key := by
        intro key
        cases here : k == key with
        | false => simpa [find?, here] using same key
        | true =>
          have absent : ∀ l ∈ keys t, (l == key) = false := by
            intro l mem
            rw [← BEq.congr_right here]
            exact BEq.symm_false (first l mem)
          rw [find?_eq_none_iff.mpr absent, find?_eq_none_iff.mpr (rest ▸ absent)]
      rw [head, ih (distinct_iff.mpr distinct) rest tail]

end Table

namespace Fragment

/-- What stands under a key that an earlier and a later fragment have. -/
def combined (v w : Value) : Value :=
  match v.list?, w.list? with
  | some xs, some ys => .list (xs ++ ys)
  | _, _ =>
    match v.map?, w.map? with
    | some earlier, some later => .map (merge earlier later)
    | _, _ => w

/-- A fragment that repeats no key, nor do the tables inside it, and where what belongs to a builder
is a list or a table itself. -/
inductive Orderly : Entries → Prop
  | of {t : Entries} (distinct : t.Distinct) (direct : ∀ p ∈ t, p.2.seen.seen = p.2.seen)
      (inside : ∀ p ∈ t, ∀ entries, p.2.map? = some entries → Orderly entries) : Orderly t

/-- The value at the end of a path of keys, of which the first is given apart. -/
def at? : Entries → Value → List Value → Option Value
  | t, key, [] => t.find? key
  | t, key, next :: rest => ((t.find? key).bind Value.map?).bind fun inner => at? inner next rest

def Alike (v w : Value) : Prop :=
  v.list?.isSome = w.list?.isSome ∧ v.map?.isSome = w.map?.isSome

/-- Fragments whose values are of one kind wherever both have a value. -/
def Compatible (a b : Entries) : Prop :=
  ∀ key path v w, at? a key path = some v → at? b key path = some w → Alike v w

variable {a b c : Entries} {v w x : Value} {key : Value}

/-! ## One key -/

theorem mergeValue_none (w : Value) : mergeValue none w = w := by
  cases w <;> rfl

theorem combined_lists {xs ys : List Value} (earlier : v.list? = some xs)
    (later : w.list? = some ys) : combined v w = .list (xs ++ ys) := by
  simp only [combined, earlier, later]

theorem combined_maps {m n : Entries} (earlier : v.map? = some m) (later : w.map? = some n) :
    combined v w = .map (merge m n) := by
  have noList : v.list? = none := by
    unfold Value.list?
    unfold Value.map? at earlier
    split at earlier <;> simp_all
  simp only [combined, earlier, later, noList]

theorem combined_other (lists : v.list? = none ∨ w.list? = none)
    (maps : v.map? = none ∨ w.map? = none) : combined v w = w := by
  unfold combined
  rcases lists with h | h <;> rcases maps with k | k <;> simp [h, k]

theorem combined_cases (v w : Value) :
    (∃ xs ys, v.list? = some xs ∧ w.list? = some ys ∧ combined v w = .list (xs ++ ys)) ∨
      (∃ m n, v.map? = some m ∧ w.map? = some n ∧ combined v w = .map (merge m n)) ∨
      combined v w = w := by
  unfold combined
  split
  · rename_i xs ys earlier later
    exact .inl ⟨xs, ys, earlier, later, rfl⟩
  · split
    · rename_i m n earlier later
      exact .inr (.inl ⟨m, n, earlier, later, rfl⟩)
    · exact .inr (.inr rfl)

theorem mergeValue_of_plain (plain : w.seen = w) : mergeValue (some v) w = combined v w := by
  cases w with
  | list ys =>
    have later : (Value.list ys).list? = some ys := rfl
    have noMap : (Value.list ys).map? = none := rfl
    rw [mergeValue, Option.bind_some]
    cases earlier : v.list? with
    | some xs => rw [combined_lists earlier later]
    | none => rw [combined_other (.inl earlier) (.inr noMap)]
  | map n =>
    have later : (Value.map n).map? = some n := rfl
    have noList : (Value.map n).list? = none := rfl
    rw [mergeValue, Option.bind_some]
    cases earlier : v.map? with
    | some m => rw [combined_maps earlier later]; rfl
    | none => rw [combined_other (.inr noList) (.inl earlier)]
  | view part ref contents =>
    have size := congrArg sizeOf plain
    simp [Value.seen] at size
  | _ => exact (combined_other (.inr rfl) (.inr rfl)).symm

theorem mergeValue_some (direct : w.seen.seen = w.seen) :
    mergeValue (some v) w = combined v w := by
  cases w with
  | view part ref contents =>
    have plain : contents.seen = contents := direct
    have list : (Value.view part ref contents).list? = contents.list? := by
      rw [Value.list?, Value.list?, plain]; rfl
    have map : (Value.view part ref contents).map? = contents.map? := by
      rw [Value.map?, Value.map?, plain]; rfl
    rw [mergeValue, mergeValue_of_plain plain, Option.bind_some, Option.bind_some]
    split
    · rename_i both
      simp only [Bool.or_eq_true, Bool.and_eq_true, Option.isSome_iff_exists] at both
      rcases both with ⟨⟨xs, earlier⟩, ys, later⟩ | ⟨⟨m, earlier⟩, n, later⟩
      · rw [combined_lists earlier later, combined_lists earlier (list.trans later)]
      · rw [combined_maps earlier later, combined_maps earlier (map.trans later)]
    · rename_i differ
      simp only [Bool.not_eq_true, Bool.or_eq_false_iff, Bool.and_eq_false_iff,
        Option.isSome_eq_false_iff, Option.isNone_iff_eq_none] at differ
      rw [← list, ← map] at differ
      exact (combined_other differ.1 differ.2).symm
  | _ => exact mergeValue_of_plain rfl

/-- Values of one kind may be combined in either order. -/
theorem combined_assoc (first : Alike v w) (second : Alike w x)
    (inner : ∀ l m n, v.map? = some l → w.map? = some m → x.map? = some n →
      merge (merge l m) n = merge l (merge m n)) :
    combined (combined v w) x = combined v (combined w x) := by
  cases lists : v.list? with
  | some xs =>
    obtain ⟨ys, later⟩ : ∃ ys, w.list? = some ys := by
      rw [← Option.isSome_iff_exists, ← first.1, lists, Option.isSome_some]
    obtain ⟨zs, last⟩ : ∃ zs, x.list? = some zs := by
      rw [← Option.isSome_iff_exists, ← second.1, later, Option.isSome_some]
    rw [combined_lists lists later, combined_lists later last, combined_lists rfl last,
      combined_lists lists rfl, List.append_assoc]
  | none =>
    have noList : w.list? = none := by
      rw [← Option.not_isSome_iff_eq_none, ← first.1, lists]
      decide
    cases maps : v.map? with
    | some l =>
      obtain ⟨m, later⟩ : ∃ m, w.map? = some m := by
        rw [← Option.isSome_iff_exists, ← first.2, maps, Option.isSome_some]
      obtain ⟨n, last⟩ : ∃ n, x.map? = some n := by
        rw [← Option.isSome_iff_exists, ← second.2, later, Option.isSome_some]
      rw [combined_maps maps later, combined_maps later last, combined_maps rfl last,
        combined_maps maps rfl, inner l m n maps later last]
    | none =>
      have noMap : w.map? = none := by
        rw [← Option.not_isSome_iff_eq_none, ← first.2, maps]
        decide
      rw [combined_other (.inl lists) (.inl maps), combined_other (.inl noList) (.inl noMap),
        combined_other (.inl lists) (.inl maps)]

/-! ## All keys -/

theorem distinct_merge (ha : a.Distinct) (b : Entries) : (merge a b).Distinct := by
  induction b generalizing a with
  | nil => exact ha
  | cons p b ih =>
    obtain ⟨k, w⟩ := p
    rw [merge_cons]
    exact ih (Table.distinct_insert k (mergeValue (a.find? k) w) ha)

theorem keys_merge (a : Entries) (hb : b.Distinct) :
    (merge a b).keys = a.keys ++ b.keys.filter fun key => !a.has key := by
  induction b generalizing a with
  | nil => simp [Table.keys]
  | cons p b ih =>
    obtain ⟨k, w⟩ := p
    obtain ⟨first, hb⟩ := List.pairwise_cons.mp hb
    have later : ∀ l ∈ Table.keys b, (l == k) = false := by
      intro l mem
      obtain ⟨q, there, rfl⟩ := List.mem_map.mp mem
      exact BEq.symm_false (first q there)
    have kept : (Table.keys b).filter (fun l => !(a.insert k (mergeValue (a.find? k) w)).has l) =
        (Table.keys b).filter fun l => !a.has l := by
      refine List.filter_congr fun l mem => ?_
      rw [Table.has_insert, later l mem, Bool.false_or]
    rw [merge_cons, ih _ hb, kept, Table.keys_insert]
    change _ = a.keys ++ (k :: Table.keys b).filter fun key => !a.has key
    cases there : a.has k <;> simp [there]

theorem find?_merge (a : Entries) (hb : b.Distinct) (key : Value) :
    (merge a b).find? key =
      match b.find? key with
      | some w => some (mergeValue (a.find? key) w)
      | none => a.find? key := by
  induction b generalizing a with
  | nil => rfl
  | cons p b ih =>
    obtain ⟨k, w⟩ := p
    obtain ⟨first, hb⟩ := List.pairwise_cons.mp hb
    rw [merge_cons, ih _ hb, Table.find?_cons, Table.find?_insert]
    cases here : k == key with
    | true =>
      have absent : Table.find? b key = none := by
        rw [Table.find?_eq_none_iff]
        intro l mem
        obtain ⟨q, there, rfl⟩ := List.mem_map.mp mem
        rw [← BEq.congr_right here]
        exact BEq.symm_false (first q there)
      rw [absent, BEq.symm here, if_pos rfl, if_pos rfl, Table.find?_congr here]
    | false =>
      rw [BEq.symm_false here, if_neg Bool.false_ne_true, if_neg Bool.false_ne_true]

theorem Compatible.inside (h : Compatible a b) {m n : Entries} (earlier : a.find? key = some v)
    (later : b.find? key = some w) (hm : v.map? = some m) (hn : w.map? = some n) :
    Compatible m n := by
  intro next path x y found other
  refine h key (next :: path) x y ?_ ?_
  · rw [at?, earlier, Option.bind_some, hm, Option.bind_some, found]
  · rw [at?, later, Option.bind_some, hn, Option.bind_some, other]

theorem Compatible.nil : Compatible [] [] := by
  intro key path v w found
  cases path <;> cases found

theorem Compatible.cons (k : Value) (alike : Alike v w)
    (inner : ∀ m n, v.map? = some m → w.map? = some n → Compatible m n) (rest : Compatible a b) :
    Compatible ((k, v) :: a) ((k, w) :: b) := by
  intro key path x y found other
  cases here : k == key with
  | true =>
    cases path with
    | nil =>
      simp only [at?, Table.find?_cons, here, if_true, Option.some.injEq] at found other
      exact found ▸ other ▸ alike
    | cons next path =>
      simp only [at?, Table.find?_cons, here, if_true, Option.bind_some] at found other
      obtain ⟨m, hm, found⟩ := Option.bind_eq_some_iff.mp found
      obtain ⟨n, hn, other⟩ := Option.bind_eq_some_iff.mp other
      exact inner m n hm hn next path x y found other
  | false =>
    refine rest key path x y ?_ ?_
    · cases path <;> simpa [at?, Table.find?_cons, here] using found
    · cases path <;> simpa [at?, Table.find?_cons, here] using other

namespace Orderly

theorem distinct (h : Orderly a) : a.Distinct := by
  cases h
  assumption

theorem direct (h : Orderly a) (found : a.find? key = some v) : v.seen.seen = v.seen := by
  obtain ⟨k, mem, -⟩ := Table.mem_of_find? found
  cases h with
  | of _ direct _ => exact direct _ mem

theorem inside (h : Orderly a) (found : a.find? key = some v) {m : Entries}
    (table : v.map? = some m) : Orderly m := by
  obtain ⟨k, mem, -⟩ := Table.mem_of_find? found
  cases h with
  | of _ _ inside => exact inside _ mem m table

end Orderly

theorem merge_nil_left (ha : a.Distinct) : merge [] a = a := by
  refine Table.ext_of_distinct (distinct_merge List.Pairwise.nil a) ?_ fun key => ?_
  · rw [keys_merge [] ha]
    simp [Table.keys, Table.has]
  · rw [find?_merge [] ha]
    cases a.find? key with
    | none => rfl
    | some v => exact congrArg some (mergeValue_none v)

theorem find?_merge_orderly (a : Entries) (hb : Orderly b) (key : Value) :
    (merge a b).find? key =
      match a.find? key, b.find? key with
      | some v, some w => some (combined v w)
      | v, none => v
      | none, w => w := by
  rw [find?_merge a hb.distinct]
  cases later : b.find? key with
  | none => cases a.find? key <;> rfl
  | some w =>
    cases a.find? key with
    | none => exact congrArg some (mergeValue_none w)
    | some v => exact congrArg some (mergeValue_some (hb.direct later))

theorem has_merge (a : Entries) (hb : b.Distinct) (key : Value) :
    (merge a b).has key = (a.has key || b.has key) := by
  rw [Table.has, find?_merge a hb, Table.has, Table.has]
  cases b.find? key <;> simp

theorem Orderly.merge (ha : Orderly a) (hb : Orderly b) : Orderly (merge a b) := by
  -- On the later fragment, since the tables that are merged in turn are the later ones inside it.
  induction hb generalizing a with
  | @of b distinct direct inside ih =>
    have hb : Orderly b := .of distinct direct inside
    have found : ∀ p ∈ Fragment.merge a b, (match a.find? p.1, b.find? p.1 with
        | some v, some w => some (combined v w)
        | v, none => v
        | none, w => w) = some p.2 := fun p mem =>
      (find?_merge_orderly a hb p.1).symm.trans
        (Table.find?_of_mem (distinct_merge ha.distinct b) mem)
    refine .of (distinct_merge ha.distinct b) (fun p mem => ?_) fun p mem entries table => ?_
    all_goals
      have found := found p mem
      cases earlier : a.find? p.1 <;> cases later : b.find? p.1 <;>
        simp only [earlier, later, reduceCtorEq, Option.some.injEq] at found
    · exact hb.direct (later.trans (congrArg some found))
    · exact ha.direct (earlier.trans (congrArg some found))
    · rename_i v w
      rw [← found]
      rcases combined_cases v w with ⟨_, _, -, -, same⟩ | ⟨_, _, -, -, same⟩ | same <;> rw [same]
      · rfl
      · rfl
      · exact hb.direct later
    · exact hb.inside (later.trans (congrArg some found)) table
    · exact ha.inside (earlier.trans (congrArg some found)) table
    · rename_i v w
      rw [← found] at table
      rcases combined_cases v w with ⟨_, _, -, -, same⟩ | ⟨m, n, hm, hn, same⟩ | same <;>
        rw [same] at table
      · cases table
      · obtain rfl := Option.some.inj table
        obtain ⟨k, there, -⟩ := Table.mem_of_find? later
        exact ih _ there n hn (ha.inside earlier hm)
      · exact hb.inside later table

theorem merge_assoc (ha : Orderly a) (hb : Orderly b) (hc : Orderly c) (first : Compatible a b)
    (second : Compatible b c) (ends : Compatible a c) :
    merge (merge a b) c = merge a (merge b c) := by
  induction hc generalizing a b with
  | @of c distinct direct inside ih =>
    have hc : Orderly c := .of distinct direct inside
    have keys : (merge (merge a b) c).keys = (merge a (merge b c)).keys := by
      rw [keys_merge _ distinct, keys_merge a hb.distinct, keys_merge a (hb.merge hc).distinct,
        keys_merge b distinct, List.filter_append, List.filter_filter, List.append_assoc]
      simp only [has_merge a hb.distinct, Bool.not_or]
    refine Table.ext_of_distinct (distinct_merge (distinct_merge ha.distinct b) c) keys fun key => ?_
    rw [find?_merge_orderly _ hc, find?_merge_orderly _ hb, find?_merge_orderly a (hb.merge hc),
      find?_merge_orderly b hc]
    cases fa : a.find? key <;> cases fb : b.find? key <;> cases fc : c.find? key <;> try rfl
    rename_i v w x
    obtain ⟨k, there, -⟩ := Table.mem_of_find? fc
    refine congrArg some (combined_assoc (first key [] v w fa fb) (second key [] w x fb fc) ?_)
    intro l m n hl hm hn
    exact ih _ there n hn (ha.inside fa hl) (hb.inside fb hm) (first.inside fa fb hl hm)
      (second.inside fb fc hm hn) (ends.inside fa fc hl hn)

/-- Orderly fragments form a monoid under merging, where values of one kind meet: the empty one
changes nothing, the result has the keys of both, with the values that the two sides ask for, and
of three fragments either two may be merged first. -/
theorem merge_monoid (ha : Orderly a) (hb : Orderly b) (hc : Orderly c) :
    (merge [] a = a ∧ merge a [] = a) ∧ Orderly (merge a b) ∧
      (merge a b).keys = a.keys ++ b.keys.filter (fun key => !a.has key) ∧
      (∀ key, (merge a b).find? key =
        match a.find? key, b.find? key with
        | some v, some w => some (combined v w)
        | v, none => v
        | none, w => w) ∧
      (Compatible a b → Compatible b c → Compatible a c →
        merge (merge a b) c = merge a (merge b c)) :=
  ⟨⟨merge_nil_left ha.distinct, merge_nil a⟩, ha.merge hb, keys_merge a hb.distinct,
    find?_merge_orderly a hb, merge_assoc ha hb hc⟩

/-- Of a list, a text and another list under one key, the first is lost if it is merged first. -/
example : merge (merge [("a", .list [.int 1])] [("a", "b")]) [("a", .list [.int 3])] ≠
    merge [("a", .list [.int 1])] (merge [("a", "b")] [("a", .list [.int 3])]) := nofun

/-- A query with clauses that are required, and a size. -/
def requiring (clauses : List Value) (size : Int) : Entries :=
  [("bool", .map [("must", .list clauses)]), ("size", .int size)]

theorem orderly_requiring (clauses : List Value) (size : Int) :
    Orderly (requiring clauses size) := by
  have inner : Orderly [("must", .list clauses)] :=
    .of (by simp [Table.Distinct]) (by simp [Value.seen]) (by simp [Value.map?, Value.seen])
  refine .of (by simp [requiring, Table.Distinct]) (by simp [requiring, Value.seen]) ?_
  simpa [requiring, Value.map?, Value.seen] using inner

theorem compatible_requiring (one other : List Value) (size bound : Int) :
    Compatible (requiring one size) (requiring other bound) := by
  have inner : Compatible [("must", .list one)] [("must", .list other)] :=
    .cons "must" ⟨rfl, rfl⟩ (fun _ _ hm _ => nomatch hm) .nil
  refine .cons "bool" ⟨rfl, rfl⟩ ?_ (.cons "size" ⟨rfl, rfl⟩ (fun _ _ hm _ => nomatch hm) .nil)
  rintro _ _ ⟨⟩ ⟨⟩
  exact inner

/-- The clauses of three queries are joined, and the size is the last one. -/
theorem merge_monoid_requiring :
    merge [] (requiring [.int 1] 10) = requiring [.int 1] 10 ∧
    merge (merge (requiring [.int 1] 10) (requiring [.int 2] 20)) (requiring [.int 3] 30) =
      merge (requiring [.int 1] 10) (merge (requiring [.int 2] 20) (requiring [.int 3] 30)) ∧
    merge (requiring [.int 1] 10) (merge (requiring [.int 2] 20) (requiring [.int 3] 30)) =
      requiring [.int 1, .int 2, .int 3] 30 := by
  obtain ⟨⟨left, -⟩, -, -, -, associates⟩ := merge_monoid (orderly_requiring [.int 1] 10)
    (orderly_requiring [.int 2] 20) (orderly_requiring [.int 3] 30)
  exact ⟨left, associates (compatible_requiring _ _ _ _) (compatible_requiring _ _ _ _)
    (compatible_requiring _ _ _ _), rfl⟩

end Fragment

end DocumentSearch
