/-!
# Tables in insertion order

A table is a list of key-value pairs. Writing a key that is present keeps its place and the key as
it was first written; a new key goes to the end.
-/
namespace DocumentSearch

abbrev Table (κ α : Type) := List (κ × α)

namespace Table

variable {κ α : Type}

def keys (t : Table κ α) : List κ := t.map Prod.fst

def values (t : Table κ α) : List α := t.map Prod.snd

def mapValues {β : Type} (f : α → β) (t : Table κ α) : Table κ β := t.map (fun p => (p.1, f p.2))

variable [BEq κ]

def find? : Table κ α → κ → Option α
  | [], _ => none
  | (k, v) :: rest, key => if k == key then some v else find? rest key

def has (t : Table κ α) (key : κ) : Bool := (t.find? key).isSome

def insert : Table κ α → κ → α → Table κ α
  | [], key, value => [(key, value)]
  | (k, v) :: rest, key, value =>
    if k == key then (k, value) :: rest else (k, v) :: insert rest key value

/-- Every pair of the second table is written in order. -/
def update (t u : Table κ α) : Table κ α := u.foldl (fun t p => t.insert p.1 p.2) t

/-- The last value of a repeated key wins, at the place of the first. -/
def ofPairs (pairs : List (κ × α)) : Table κ α := update [] pairs

def erase (t : Table κ α) (key : κ) : Table κ α := t.filter (fun p => !(p.1 == key))

def restrict (t : Table κ α) (kept : List κ) : Table κ α := t.filter (fun p => kept.contains p.1)

def without (t : Table κ α) (dropped : List κ) : Table κ α :=
  t.filter (fun p => !dropped.contains p.1)

@[simp] theorem find?_nil (key : κ) : find? ([] : Table κ α) key = none := rfl

theorem find?_cons (k : κ) (v : α) (t : Table κ α) (key : κ) :
    find? ((k, v) :: t) key = if k == key then some v else find? t key := rfl

theorem mem_of_find? {t : Table κ α} {key : κ} {v : α} (found : t.find? key = some v) :
    ∃ k, (k, v) ∈ t ∧ (k == key) = true := by
  induction t with
  | nil => cases found
  | cons p t ih =>
    obtain ⟨k, first⟩ := p
    rw [find?_cons] at found
    split at found
    · rename_i same
      cases found
      exact ⟨k, List.mem_cons_self, same⟩
    · obtain ⟨other, mem, same⟩ := ih found
      exact ⟨other, List.mem_cons_of_mem _ mem, same⟩

theorem find?_append (t u : Table κ α) (key : κ) :
    find? (t ++ u) key = (find? t key).or (find? u key) := by
  induction t with
  | nil => rfl
  | cons p t ih =>
    obtain ⟨k, v⟩ := p
    by_cases h : k == key <;> simp [find?, h, ih]

theorem find?_mapValues {β : Type} (f : α → β) (t : Table κ α) (key : κ) :
    find? (mapValues f t) key = (find? t key).map f := by
  induction t with
  | nil => rfl
  | cons p t ih =>
    obtain ⟨k, v⟩ := p
    have ih : find? (List.map (fun p => (p.1, f p.2)) t) key = (find? t key).map f := ih
    by_cases h : k == key <;> simp [mapValues, find?, h, ih]

theorem insert_ne_nil (t : Table κ α) (key : κ) (value : α) : t.insert key value ≠ [] := by
  cases t with
  | nil => simp [insert]
  | cons p t =>
    obtain ⟨k, v⟩ := p
    by_cases h : k == key <;> simp [insert, h]

def Distinct (t : Table κ α) : Prop := t.Pairwise (fun p q => (p.1 == q.1) = false)

theorem forall_insert {t : Table κ α} {key : κ} {value : α} (P : κ → Prop)
    (h : ∀ p ∈ t, P p.1) (hk : P key) : ∀ p ∈ t.insert key value, P p.1 := by
  induction t with
  | nil => simpa [insert] using hk
  | cons q t ih =>
    obtain ⟨k, v⟩ := q
    have hq : P k := h (k, v) List.mem_cons_self
    have ht : ∀ p ∈ t, P p.1 := fun p hp => h p (List.mem_cons_of_mem _ hp)
    intro p hp
    by_cases hkey : k == key
    · simp only [insert, hkey, if_true, List.mem_cons] at hp
      rcases hp with rfl | hp
      · exact hq
      · exact ht p hp
    · simp only [insert, hkey, Bool.false_eq_true, if_false, List.mem_cons] at hp
      rcases hp with rfl | hp
      · exact hq
      · exact ih ht p hp

theorem distinct_insert {t : Table κ α} (key : κ) (value : α) (h : t.Distinct) :
    (t.insert key value).Distinct := by
  induction t with
  | nil => simp [insert, Distinct]
  | cons p t ih =>
    obtain ⟨k, v⟩ := p
    simp only [Distinct, List.pairwise_cons] at h ih ⊢
    by_cases hk : k == key
    · simpa [insert, hk] using h
    · simp only [Bool.not_eq_true] at hk
      simp only [insert, hk, Bool.false_eq_true, if_false, List.pairwise_cons]
      exact ⟨forall_insert (fun other => (k == other) = false) h.1 hk, ih h.2⟩

theorem insert_of_new {t : Table κ α} {key : κ} (value : α) (new : t.find? key = none) :
    t.insert key value = t ++ [(key, value)] := by
  induction t with
  | nil => rfl
  | cons p t ih =>
    obtain ⟨k, v⟩ := p
    rw [find?_cons] at new
    split at new
    · cases new
    · rename_i other
      rw [insert, if_neg other, ih new, List.cons_append]

theorem erase_of_new {t : Table κ α} {key : κ} (new : t.find? key = none) : t.erase key = t := by
  induction t with
  | nil => rfl
  | cons p t ih =>
    obtain ⟨k, v⟩ := p
    rw [find?_cons] at new
    split at new
    · cases new
    · rename_i other
      rw [erase, List.filter_cons_of_pos (by simpa using other)]
      exact congrArg _ (ih new)

@[simp] theorem find?_erase_self (t : Table κ α) (key : κ) : (t.erase key).find? key = none := by
  induction t with
  | nil => rfl
  | cons p t ih =>
    obtain ⟨k, v⟩ := p
    by_cases h : k == key <;> simp_all [erase, find?]

variable [EquivBEq κ]

theorem erase_insert_of_new {t : Table κ α} {key : κ} (value : α) (new : t.find? key = none) :
    (t.insert key value).erase key = t := by
  rw [insert_of_new value new, erase, List.filter_append]
  simpa [erase] using erase_of_new new

@[simp] theorem find?_insert_self (t : Table κ α) (key : κ) (value : α) :
    (t.insert key value).find? key = some value := by
  induction t with
  | nil => simp [insert, find?]
  | cons p t ih =>
    obtain ⟨k, v⟩ := p
    by_cases h : k == key <;> simp [insert, find?, h, ih]

theorem find?_insert_of_ne (t : Table κ α) {key other : κ} (value : α)
    (h : (other == key) = false) : (t.insert key value).find? other = t.find? other := by
  have h' : (key == other) = false := BEq.symm_false h
  induction t with
  | nil => simp [insert, find?, h']
  | cons p t ih =>
    obtain ⟨k, v⟩ := p
    by_cases hk : k == key
    · have hko : (k == other) = false := by rw [BEq.congr_left hk]; exact h'
      simp [insert, find?, hk, hko]
    · simp only [Bool.not_eq_true] at hk
      simp [insert, find?, hk, ih]

theorem find?_insert (t : Table κ α) (key other : κ) (value : α) :
    (t.insert key value).find? other =
      if other == key then some value else t.find? other := by
  cases h : other == key with
  | false => simpa using find?_insert_of_ne t value h
  | true =>
    induction t with
    | nil => simp [insert, find?, BEq.symm h]
    | cons p t ih =>
      obtain ⟨k, v⟩ := p
      have hk : (k == other) = (k == key) := BEq.congr_right h
      by_cases hkey : k == key <;> simp_all [insert, find?]

theorem has_insert (t : Table κ α) (key other : κ) (value : α) :
    (t.insert key value).has other = (other == key || t.has other) := by
  simp only [has, find?_insert]
  cases other == key <;> simp

theorem find?_erase_of_ne (t : Table κ α) {key other : κ} (h : (other == key) = false) :
    (t.erase key).find? other = t.find? other := by
  induction t with
  | nil => rfl
  | cons p t ih =>
    obtain ⟨k, v⟩ := p
    by_cases hk : k == key
    · have hko : (k == other) = false := by
        rw [BEq.congr_left hk]; exact BEq.symm_false h
      simp_all [erase, find?]
    · by_cases ho : k == other <;> simp_all [erase, find?]

end Table

end DocumentSearch
