import DocumentSearch.Edit
import DocumentSearch.Proofs.Outcome

/-!
# Refused calls on builders

A call that is refused leaves every builder as it was, with two exceptions: the start of a page
stays when the length of the page is refused, and clauses stay when the options for them are.
-/
namespace DocumentSearch

open Outcome

namespace Builder

theorem place_ne {b : Builder} {clauses : List (Bucket × Clause)} (some : clauses ≠ []) :
    b.place clauses ≠ b := by
  intro same
  obtain ⟨c, rest, rfl⟩ := List.exists_cons_of_ne_nil some
  have grown := congrArg (fun b => (b.bucket c.1).length) same
  simp [bucket_place] at grown

end Builder

namespace Edit

/-- The edits that change a builder although they are refused, with what they leave behind. -/
inductive Slip (store : Store) (self : Ref) (b : Builder) : Edit → Builder → Prop
  | page {p perPage start : Value} {before : Int} {e : Error}
      (found : Builder.pageStart p perPage = .ok start) (whole : start.whole = .ok before)
      (refused : Builder.limitOf perPage = .error e) (moved : before.toNat ≠ b.offset) :
      Slip store self b (.page p perPage) { b with offset := before.toNat }
  | withOptions {kind options : Value} {arguments : Arguments Value} {m : Misuse}
      {clauses : List (Bucket × Clause)}
      (read : Builder.clausesOf store self kind arguments = .ok clauses) (some : clauses ≠ [])
      (refused : options.toEntries = .error m) :
      Slip store self b (.withOptions kind arguments options) (b.place clauses)

variable {store : Store} {self : Ref} {b b' : Builder} {edit : Edit} {e : Error}

theorem Slip.ne (slip : Slip store self b edit b') : b' ≠ b := by
  cases slip with
  | page found whole refused moved => exact fun same => moved (congrArg Builder.offset same)
  | withOptions read some refused => exact Builder.place_ne some

theorem Slip.refused (slip : Slip store self b edit b') :
    ∃ e, edit.apply store self b = (.error e, b') := by
  cases slip with
  | page found whole refused moved =>
    rename_i p perPage start before e
    have turned : (Builder.pageStart p perPage >>= b.withOffset) =
        .ok { b with offset := before.toNat } := by
      refine bind_eq_ok.mpr ⟨start, found, ?_⟩
      exact bind_eq_ok.mpr ⟨before, lift_eq_ok.mpr whole, rfl⟩
    refine ⟨e, ?_⟩
    simp only [apply, Builder.withPage, turned, Builder.withLimit, refused]
    rfl
  | withOptions read some refused =>
    rename_i m clauses
    refine ⟨.misuse m, ?_⟩
    have filled : clauses.isEmpty = false := List.isEmpty_eq_false_iff.mpr some
    simp only [apply, Builder.withClauseOptions, read, refused, filled, Bool.false_eq_true, if_false]

theorem of_settle {outcome : Except Error Builder} (h : settle b outcome = (.error e, b')) :
    b' = b := by
  cases outcome with
  | error e => exact (Prod.mk.inj h).2.symm
  | ok other => cases h

theorem slip_of_page {p perPage : Value} (h : (page p perPage).apply store self b = (.error e, b'))
    (changed : b' ≠ b) : Slip store self b (page p perPage) b' := by
  simp only [apply, Builder.withPage] at h
  split at h
  · exact absurd (Prod.mk.inj h).2.symm changed
  · rename_i turned done
    obtain ⟨start, found, done⟩ := bind_eq_ok.mp done
    obtain ⟨before, whole, done⟩ := bind_eq_ok.mp done
    obtain rfl := pure_eq_ok.mp done
    obtain rfl := of_settle h
    unfold Builder.withLimit at h
    cases limit : Builder.limitOf perPage with
    | ok n =>
      rw [limit] at h
      cases h
    | error e =>
      refine .page found (lift_eq_ok.mp whole) limit fun same => changed ?_
      rw [same]

theorem slip_of_withOptions {kind options : Value} {arguments : Arguments Value}
    (h : (withOptions kind arguments options).apply store self b = (.error e, b')) (changed : b' ≠ b) :
    Slip store self b (withOptions kind arguments options) b' := by
  simp only [apply, Builder.withClauseOptions] at h
  split at h
  · exact absurd (Prod.mk.inj h).2.symm changed
  · rename_i clauses read
    split at h
    · cases h
    · rename_i m refused
      obtain ⟨result, rfl⟩ := Prod.mk.inj h
      refine .withOptions read (fun none => changed ?_) refused
      rw [none]
      rfl

/-- A refused edit changes a builder exactly when it is one of the slips. -/
theorem refused_ne_iff :
    (∃ e, edit.apply store self b = (.error e, b')) ∧ b' ≠ b ↔ Slip store self b edit b' := by
  refine ⟨fun ⟨⟨e, h⟩, changed⟩ => ?_, fun slip => ⟨slip.refused, slip.ne⟩⟩
  cases edit with
  | index | routing | parentId | expandInnerHits => cases h
  | select | limit | offset | refresh | conflicts | clause | criterion | filter | aggregation
  | order => exact absurd (of_settle h) changed
  | page p perPage => exact slip_of_page h changed
  | withOptions kind arguments options => exact slip_of_withOptions h changed

end Edit

namespace Store

/-- A store later on in which no builder that was there has changed, save for the one at a place. -/
structure Spares (ref : Ref) (s t : Store) : Prop where
  size : s.size ≤ t.size
  other : ∀ o : Ref, o.index < s.size → o ≠ ref → t.get o = s.get o

variable {ref : Ref} {s t u : Store}

theorem size_add (s : Store) (b : Builder) : (s.add b).2.size = s.size + 1 := by
  simp [add, size]

namespace Spares

theorem refl (ref : Ref) (s : Store) : s.Spares ref s := ⟨Nat.le_refl _, fun _ _ _ => rfl⟩

theorem trans (h : s.Spares ref t) (k : t.Spares ref u) : s.Spares ref u where
  size := Nat.le_trans h.size k.size
  other o known besides :=
    (k.other o (Nat.lt_of_lt_of_le known h.size) besides).trans (h.other o known besides)

theorem set (ref : Ref) (s : Store) (b : Builder) : s.Spares ref (s.set ref b) where
  size := Nat.le_of_eq (size_set s ref b).symm
  other _ _ besides := get_set_of_ne s b besides

/-- What happens at a new place alone leaves every builder that was there before. -/
theorem get_of_add {b : Builder} (h : (s.add b).2.Spares (s.add b).1 t) {o : Ref}
    (known : o.index < s.size) : t.get o = s.get o := by
  have besides : o ≠ (s.add b).1 := by
    rintro rfl
    exact Nat.lt_irrefl _ known
  have inside : o.index < (s.add b).2.size := by
    rw [size_add]
    omega
  rw [h.other o inside besides, get_add_of_lt s b known]

theorem of_add {b : Builder} (h : (s.add b).2.Spares (s.add b).1 t) (ref : Ref) :
    s.Spares ref t where
  size := by
    have later := h.size
    rw [size_add] at later
    omega
  other _ known _ := h.get_of_add known

end Spares

end Store

namespace FluentCall

theorem perform_edit (store : Store) (ref : Ref) (e : Edit) :
    (edit e).perform store ref =
      ((e.apply store ref (store.get ref)).1,
        store.set ref (e.apply store ref (store.get ref)).2) := rfl

mutual

/-- A call changes its own builder at most; the builder inside an aggregation is a new one. -/
theorem perform_spares (store : Store) (ref : Ref) :
    ∀ call : FluentCall, store.Spares ref (call.perform store ref).2
  | .edit e => .set ref store _
  | .preset key type args calls => by
    have filled := (performAll_spares (store.add (.blank (store.get ref).keyName)).2
      (store.add (.blank (store.get ref).keyName)).1 calls).of_add ref
    rw [perform]
    dsimp only
    split
    · rename_i e after refused
      rwa [refused] at filled
    · rename_i after done
      rw [done] at filled
      exact filled.trans (.set ref after _)

theorem performAll_spares (store : Store) (ref : Ref) :
    ∀ calls : List FluentCall, store.Spares ref (performAll store ref calls).2
  | [] => by
    rw [performAll]
    exact .refl ref store
  | call :: rest => by
    have first := perform_spares store ref call
    rw [performAll]
    split
    · rename_i after done
      rw [done] at first
      exact first.trans (performAll_spares after ref rest)
    · rename_i e after refused
      rw [refused] at first
      exact first

end

variable {store after : Store} {ref : Ref} {call : FluentCall} {e : Error}

/-- Whatever was done to the builder inside a refused aggregation, the builder around it has not
changed. -/
theorem preset_refused {key type args : Value} {calls : List FluentCall}
    (known : ref.index < store.size)
    (h : (preset key type args calls).perform store ref = (.error e, after)) :
    after.get ref = store.get ref := by
  have filled := performAll_spares (store.add (.blank (store.get ref).keyName)).2
    (store.add (.blank (store.get ref).keyName)).1 calls
  rw [perform] at h
  dsimp only at h
  split at h
  · rename_i refused
    obtain rfl := (Prod.mk.inj h).2
    rw [refused] at filled
    exact filled.get_of_add known
  · rename_i between done
    rw [done] at filled
    have same := filled.get_of_add known
    have inside : ref.index < between.size :=
      Nat.lt_of_lt_of_le known (filled.of_add ref).size
    obtain ⟨result, rfl⟩ := Prod.mk.inj h
    rw [Store.get_set_self _ _ _ inside, ← same]
    exact Edit.of_settle (Prod.ext result rfl)

theorem refused_ne_iff (known : ref.index < store.size)
    (h : call.perform store ref = (.error e, after)) {b : Builder} :
    after.get ref = b ∧ b ≠ store.get ref ↔
      ∃ edit, call = .edit edit ∧ edit.Slip store ref (store.get ref) b := by
  cases call with
  | preset key type args calls =>
    refine ⟨fun ⟨left, changed⟩ => ?_, fun ⟨_, other, _⟩ => nomatch other⟩
    exact absurd (left.symm.trans (preset_refused known h)) changed
  | edit edit =>
    rw [perform_edit] at h
    obtain ⟨result, rfl⟩ := Prod.mk.inj h
    rw [Store.get_set_self _ _ _ known]
    constructor
    · rintro ⟨rfl, changed⟩
      exact ⟨edit, rfl, Edit.refused_ne_iff.mp ⟨⟨e, Prod.ext result rfl⟩, changed⟩⟩
    · rintro ⟨other, same, slip⟩
      cases same
      obtain ⟨e, done⟩ := slip.refused
      exact ⟨congrArg Prod.snd done, slip.ne⟩

end FluentCall

end DocumentSearch
