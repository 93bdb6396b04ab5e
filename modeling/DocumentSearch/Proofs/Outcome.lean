import DocumentSearch.Error

/-!
# Steps that may fail

A sequence of steps succeeds exactly when each step does.
-/
namespace DocumentSearch.Outcome

variable {ε α β : Type}

theorem bind_eq_ok {x : Except ε α} {f : α → Except ε β} {b : β} :
    x >>= f = .ok b ↔ ∃ a, x = .ok a ∧ f a = .ok b := by
  cases x <;> simp [bind, Except.bind]

theorem pure_eq_ok {a b : α} : (pure a : Except ε α) = .ok b ↔ a = b := by
  simp [pure, Except.pure]

theorem unless_eq_ok {c : Prop} [Decidable c] {e : ε} {x : Except ε α} {f : β → Except ε α} {a : α} :
    (if c then throw e >>= f else x) = .ok a ↔ ¬c ∧ x = .ok a := by
  by_cases h : c
  · simp only [h, if_true, not_true, false_and, iff_false]
    exact nofun
  · simp [h]

theorem lift_eq_ok {x : Except Misuse α} {a : α} :
    (liftM x : Except Error α) = .ok a ↔ x = .ok a := by
  change Misuse.lift x = .ok a ↔ _
  cases x <;> simp [Misuse.lift]

theorem mapM_cons_eq_ok {f : α → Except ε β} {a : α} {l : List α} {r : List β} :
    (a :: l).mapM f = .ok r ↔ ∃ b s, f a = .ok b ∧ l.mapM f = .ok s ∧ r = b :: s := by
  simp only [List.mapM_cons, bind_eq_ok, pure_eq_ok]
  constructor
  · rintro ⟨b, hb, s, hs, rfl⟩
    exact ⟨b, s, hb, hs, rfl⟩
  · rintro ⟨b, s, hb, hs, rfl⟩
    exact ⟨b, hb, s, hs, rfl⟩

theorem mapM_eq_nil {f : α → Except ε β} {l : List α} {r : List β} (h : l.mapM f = .ok r) :
    r = [] ↔ l = [] := by
  cases l with
  | nil => simp [← pure_eq_ok.mp h]
  | cons a l =>
    obtain ⟨b, s, -, -, rfl⟩ := mapM_cons_eq_ok.mp h
    simp

theorem ok_of_mapM {f : α → Except ε β} {l : List α} {r : List β} (h : l.mapM f = .ok r) :
    ∀ a ∈ l, ∃ b, f a = .ok b := by
  induction l generalizing r with
  | nil => exact fun a ha => nomatch ha
  | cons a l ih =>
    obtain ⟨b, s, hb, hs, rfl⟩ := mapM_cons_eq_ok.mp h
    exact List.forall_mem_cons.mpr ⟨⟨b, hb⟩, ih hs⟩

theorem mem_of_mapM {f : α → Except ε β} {l : List α} {r : List β} (h : l.mapM f = .ok r) {a : α}
    (mem : a ∈ l) : ∃ b, f a = .ok b ∧ b ∈ r := by
  induction l generalizing r with
  | nil => cases mem
  | cons first l ih =>
    obtain ⟨b, s, hb, hs, rfl⟩ := mapM_cons_eq_ok.mp h
    rcases List.mem_cons.mp mem with rfl | mem
    · exact ⟨b, hb, List.mem_cons_self⟩
    · obtain ⟨b', hb', mem'⟩ := ih hs mem
      exact ⟨b', hb', List.mem_cons_of_mem _ mem'⟩

theorem source_of_mapM {f : α → Except ε β} {l : List α} {r : List β} (h : l.mapM f = .ok r) {b : β}
    (mem : b ∈ r) : ∃ a ∈ l, f a = .ok b := by
  induction l generalizing r with
  | nil =>
    obtain rfl := pure_eq_ok.mp h
    cases mem
  | cons a l ih =>
    obtain ⟨first, s, hb, hs, rfl⟩ := mapM_cons_eq_ok.mp h
    rcases List.mem_cons.mp mem with rfl | mem
    · exact ⟨a, List.mem_cons_self, hb⟩
    · obtain ⟨source, inside, hf⟩ := ih hs mem
      exact ⟨source, List.mem_cons_of_mem _ inside, hf⟩

theorem mapM_ok {f : α → Except ε β} {l : List α} (h : ∀ a ∈ l, ∃ b, f a = .ok b) :
    ∃ r, l.mapM f = .ok r := by
  induction l with
  | nil => exact ⟨[], rfl⟩
  | cons a l ih =>
    obtain ⟨b, hb⟩ := h a List.mem_cons_self
    obtain ⟨s, hs⟩ := ih fun x hx => h x (List.mem_cons_of_mem _ hx)
    exact ⟨b :: s, mapM_cons_eq_ok.mpr ⟨b, s, hb, hs, rfl⟩⟩

theorem mapM_drop {f : α → Except ε β} {l : List α} {r : List β} (h : l.mapM f = .ok r) (n : Nat) :
    (l.drop n).mapM f = .ok (r.drop n) := by
  induction n generalizing l r with
  | zero => exact h
  | succ n ih =>
    cases l with
    | nil =>
      obtain rfl := pure_eq_ok.mp h
      rfl
    | cons a l =>
      obtain ⟨b, s, -, hs, rfl⟩ := mapM_cons_eq_ok.mp h
      exact ih hs

theorem mapM_take {f : α → Except ε β} {l : List α} {r : List β} (h : l.mapM f = .ok r) (n : Nat) :
    (l.take n).mapM f = .ok (r.take n) := by
  induction n generalizing l r with
  | zero => rfl
  | succ n ih =>
    cases l with
    | nil =>
      obtain rfl := pure_eq_ok.mp h
      rfl
    | cons a l =>
      obtain ⟨b, s, hb, hs, rfl⟩ := mapM_cons_eq_ok.mp h
      exact mapM_cons_eq_ok.mpr ⟨b, s.take n, hb, ih hs, rfl⟩

/-- What each result says of the item that it comes from, the list of them says of the items. -/
theorem map_of_mapM {γ : Type} {f : α → Except ε β} {g : β → γ} {k : α → γ} {l : List α}
    {r : List β} (h : l.mapM f = .ok r) (same : ∀ a ∈ l, ∀ b, f a = .ok b → g b = k a) :
    r.map g = l.map k := by
  induction l generalizing r with
  | nil => simp [← pure_eq_ok.mp h]
  | cons a l ih =>
    obtain ⟨b, s, hb, hs, rfl⟩ := mapM_cons_eq_ok.mp h
    simp only [List.map_cons, same a List.mem_cons_self b hb,
      ih hs fun x hx => same x (List.mem_cons_of_mem _ hx)]

theorem mapM_congr_ok {f g : α → Except ε β} {l : List α} {r : List β} (h : l.mapM f = .ok r)
    (same : ∀ a ∈ l, ∀ b, f a = .ok b → g a = .ok b) : l.mapM g = .ok r := by
  induction l generalizing r with
  | nil => exact h
  | cons a l ih =>
    obtain ⟨b, s, hb, hs, rfl⟩ := mapM_cons_eq_ok.mp h
    exact mapM_cons_eq_ok.mpr ⟨b, s, same a List.mem_cons_self b hb,
      ih hs fun x hx => same x (List.mem_cons_of_mem _ hx), rfl⟩

theorem mapM_same {f g : α → Except ε β} {l : List α} (same : ∀ a ∈ l, f a = g a) :
    l.mapM f = l.mapM g := by
  induction l with
  | nil => rfl
  | cons a l ih =>
    rw [List.mapM_cons, List.mapM_cons, same a List.mem_cons_self,
      ih fun other mem => same other (List.mem_cons_of_mem _ mem)]

theorem mapM_eq_map {f : α → Except ε β} {g : α → β} {l : List α} (h : ∀ a ∈ l, f a = .ok (g a)) :
    l.mapM f = .ok (l.map g) := by
  induction l with
  | nil => rfl
  | cons a l ih =>
    obtain ⟨first, rest⟩ := List.forall_mem_cons.mp h
    exact mapM_cons_eq_ok.mpr ⟨g a, l.map g, first, ih rest, rfl⟩

/-- What fails at some items in one way, and is done at all others, fails in that way. -/
theorem mapM_eq_error {f : α → Except ε β} {e : ε} {l : List α}
    (each : ∀ a ∈ l, (∃ b, f a = .ok b) ∨ f a = .error e) (some : ∃ a ∈ l, f a = .error e) :
    l.mapM f = .error e := by
  induction l with
  | nil => simp at some
  | cons a l ih =>
    obtain ⟨first, rest⟩ := List.forall_mem_cons.mp each
    rw [List.mapM_cons]
    rcases first with ⟨b, done⟩ | failed
    · have later : ∃ a ∈ l, f a = .error e := by
        obtain ⟨other, mem, failed⟩ := some
        rcases List.mem_cons.mp mem with rfl | mem
        · rw [done] at failed
          cases failed
        · exact ⟨other, mem, failed⟩
      rw [done, ih rest later]
      rfl
    · rw [failed]
      rfl

/-- A step that fails, if it does, with an error of some kind. -/
def FailsWith (P : ε → Prop) (x : Except ε α) : Prop := ∀ e, x = .error e → P e

namespace FailsWith

variable {P : ε → Prop}

theorem ok (a : α) : FailsWith P (.ok a) := fun _ h => nomatch h

theorem error {e : ε} (h : P e) : FailsWith P (.error e : Except ε α) := by
  rintro _ ⟨⟩
  exact h

theorem of_error {e : ε} (h : FailsWith P (.error e : Except ε α)) :
    FailsWith P (.error e : Except ε β) := .error (h e rfl)

theorem bind {x : Except ε α} {f : α → Except ε β} (first : FailsWith P x)
    (rest : ∀ a, FailsWith P (f a)) : FailsWith P (x >>= f) := by
  cases x with
  | ok a => exact rest a
  | error e => exact .error (first e rfl)

theorem map {x : Except ε α} (h : FailsWith P x) (f : α → β) : FailsWith P (x.map f) := by
  cases x with
  | ok a => exact ok _
  | error e => exact .error (h e rfl)

theorem mapM {f : α → Except ε β} {l : List α} (h : ∀ a, FailsWith P (f a)) :
    FailsWith P (l.mapM f) := by
  induction l with
  | nil => exact .ok []
  | cons a l ih =>
    rw [List.mapM_cons]
    exact (h a).bind fun _ => ih.bind fun _ => .ok _

theorem foldlM {f : β → α → Except ε β} {l : List α} (h : ∀ b, ∀ a ∈ l, FailsWith P (f b a))
    (start : β) : FailsWith P (l.foldlM f start) := by
  induction l generalizing start with
  | nil => exact .ok start
  | cons a l ih =>
    rw [List.foldlM_cons]
    exact (h start a List.mem_cons_self).bind
      (ih fun b other mem => h b other (List.mem_cons_of_mem _ mem))

end FailsWith

/-- A step that gives, if it succeeds, a result of some kind. -/
def GivesOnly (P : α → Prop) (x : Except ε α) : Prop := ∀ a, x = .ok a → P a

namespace GivesOnly

variable {P : α → Prop}

theorem ok {a : α} (h : P a) : GivesOnly P (.ok a : Except ε α) := by
  rintro _ ⟨⟩
  exact h

theorem error (e : ε) : GivesOnly P (.error e) := fun _ h => nomatch h

theorem bind {x : Except ε β} {f : β → Except ε α} (rest : ∀ b, x = .ok b → GivesOnly P (f b)) :
    GivesOnly P (x >>= f) := by
  cases x with
  | ok b => exact rest b rfl
  | error e => exact error e

end GivesOnly

end DocumentSearch.Outcome
