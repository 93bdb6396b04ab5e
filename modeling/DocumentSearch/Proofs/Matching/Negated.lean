import DocumentSearch.Proofs.Matching.Engine
import DocumentSearch.Proofs.Outcome

/-!
# The flag that negates

A clause carries a flag that is to negate it. Kinds that read the flag put a denial around what they
write if it is set. Some comparisons are denials already, and there the flag adds nothing: it does
not turn them back. Other kinds do not read it at all. What the flag does to a range with both ends,
which keeps its ends, is left out here.
-/
namespace DocumentSearch

open Fragment Outcome

/-- Whether a comparison is a denial by itself: what it asks is that a field is missing, or has
another value. -/
def Operator.denies (operator : Operator) (value : Value) : Bool :=
  if operator = .exists then !value.truthy else value.isNull != operator.negates

namespace Condition

def Inclusive : Condition → Prop
  | between _ _ _ => True
  | date _ operator _ => operator = .equal
  | _ => False

def readsFlag : Condition → Bool
  | group _ _ | negation _ | parentId _ _ | script _ _ _ | functionScore _ _ => false
  | _ => true

/-- Whether a condition that reads the flag is a denial without it. -/
def denies (d : Dialect) : Condition → Bool
  | basic _ operator value | date _ operator value =>
    match d.convert value with
    | .ok converted => operator.denies converted
    | .error _ => false
  | notAmong _ _ | absent _ => true
  | _ => false

end Condition

def Clause.flagged (c : Clause) (flag : Bool) : Clause := { c with negated := .bool flag }

/-- One fragment matches exactly the documents that another does not match. -/
def Fragment.Complements (f g : Entries) : Prop :=
  ∀ (Doc : Type) (e : Engine Doc) doc, e.accepts f doc = !e.accepts g doc

theorem Fragment.complements_mustNot (f : Entries) : Complements (mustNot f) f :=
  fun _ e doc => e.accepts_mustNot f doc

theorem Fragment.not_complements_self (f : Entries) : ¬Complements f f := fun all =>
  Bool.eq_not_self _ |>.mp (all Unit ⟨fun _ _ => true, fun _ _ _ _ => true⟩ ())

/-- A way to write a fragment that is denied if the flag is set, or anyway. -/
def Fragment.Turns (denies : Bool) (write : Bool → Except Error Entries) : Prop :=
  ∃ core : Except Error Entries, ∀ flag, write flag = negatedIf (flag || denies) <$> core

namespace Fragment.Turns

variable {denies : Bool} {α : Type}

theorem done {turned : Bool → Entries} (fragment : Entries)
    (h : ∀ flag, turned flag = negatedIf (flag || denies) fragment) :
    Turns denies (fun flag => .ok (turned flag)) :=
  ⟨.ok fragment, fun flag => congrArg Except.ok (h flag)⟩

theorem bind {x : Except Error α} {write : α → Bool → Except Error Entries}
    (h : ∀ a, x = .ok a → Turns denies (write a)) :
    Turns denies (fun flag => x >>= (write · flag)) := by
  cases x with
  | error e => exact ⟨.error e, fun _ => rfl⟩
  | ok a => exact h a rfl

theorem always (fragment : Entries) : Turns false (fun flag => .ok (negatedIf flag fragment)) :=
  .done fragment fun flag => by rw [Bool.or_false]

/-- The usual way: the fragment is written, and denied if the flag is set. -/
theorem written (x : Except Error Entries) :
    Turns false (fun flag => x >>= fun fragment => .ok (negatedIf flag fragment)) :=
  .bind fun fragment _ => .always fragment

theorem refused (e : Error) (write : α → Bool → Except Error Entries) :
    Turns denies (fun flag => throw e >>= (write · flag)) :=
  .bind fun _ refused => by cases refused

end Fragment.Turns

namespace Dialect

variable {d : Dialect} {sub : Ref → Except Error Conditions} {options : Entries} {c : Condition}

theorem turns_comparison (column : Value) (operator : Operator) (value : Value) :
    Turns (Condition.denies d (.basic column operator value))
      (d.comparison column operator value options) := by
  refine .bind fun converted done => ?_
  have denies : Condition.denies d (.basic column operator value) = operator.denies converted := by
    simp only [Condition.denies, lift_eq_ok.mp done]
  rw [denies]
  split
  · rename_i presence
    refine .bind fun fragment _ => .done fragment fun flag => ?_
    unfold Operator.denies
    split
    · rfl
    · rename_i compared
      have null : converted.isNull = true := by simpa [compared] using presence
      simp [null]
  · rename_i compared
    obtain ⟨notNull, other⟩ : converted.isNull = false ∧ operator ≠ .exists := by
      simpa using compared
    have done : ∀ fragment flag, negatedIf (flag || operator.negates) fragment =
        negatedIf (flag || operator.denies converted) fragment := by
      simp [Operator.denies, notNull, other]
    dsimp only
    split <;> exact .bind fun _ _ => .bind fun fragment _ => .done fragment (done fragment)

theorem turns_among (column : Value) (values : List Value) :
    Turns false (d.among column values options) :=
  .bind fun _ _ => .bind fun _ _ => .written _

theorem turns_nestedDocument (column : Value) (inner : Conditions) :
    Turns false (nestedDocument column inner options) := by
  unfold nestedDocument
  split
  · exact .refused _ _
  · exact .written _

theorem turns_relation (kind : ClauseKind) (outer typeKey : String) (documentType : Value)
    (inner : Conditions) :
    Turns false (relation kind outer typeKey documentType inner options) := by
  unfold relation
  split
  · exact .refused _ _
  · exact .written _

/-- A condition that reads the flag is written as one fragment, which is denied once if the flag is
set or the condition is a denial, and once too if both hold. -/
theorem turns_conditionFragment (reads : c.readsFlag = true) (other : ¬c.Inclusive) :
    Turns (c.denies d) (d.conditionFragment sub options · c) := by
  cases c with
  | basic column operator value => exact turns_comparison column operator value
  | date column operator value =>
    have compared : ¬operator = .equal := other
    simp only [conditionFragment, compared, if_false]
    exact turns_comparison column operator value
  | among column values => exact turns_among column values
  | notAmong column values =>
    obtain ⟨core, written⟩ : Turns false (d.among column values options) :=
      turns_among column values
    exact ⟨core, fun flag => by simp [conditionFragment, written, Condition.denies]⟩
  | between column low high => exact absurd trivial other
  | absent column => exact turns_comparison column .equal .null
  | present column => exact turns_comparison column .unequal .null
  | geoDistance column location distance =>
    exact .bind fun _ _ => .bind fun _ _ => .always _
  | geoBounds column bounds =>
    exact .bind fun _ _ => .always _
  | search text fields matchType fuzziness constantScore => exact .bind fun _ _ => .written _
  | nestedDocument column query =>
    exact .bind fun inner _ => turns_nestedDocument column inner
  | parent documentType query => exact .bind fun inner _ => turns_relation _ _ _ documentType inner
  | child documentType query => exact .bind fun inner _ => turns_relation _ _ _ documentType inner
  | startsWith column value => exact .bind fun _ _ => .written _
  | group | negation | parentId | script | functionScore => cases reads

theorem conditionFragment_ignores (ignores : c.readsFlag = false) (flag : Bool) :
    d.conditionFragment sub options flag c = d.conditionFragment sub options false c := by
  cases c with
  | group | negation | parentId | script | functionScore => rfl
  | _ => cases ignores

theorem clauseFragment_eq (d : Dialect) (sub : Ref → Except Error Conditions) (c : Clause)
    (flag : Bool) :
    d.clauseFragment sub (c.flagged flag) =
      if d.supports c.kind then d.conditionFragment sub c.options flag c.condition
      else .error (.unsupportedClause c.kind) := rfl

theorem turns_clauseFragment {c : Clause} (reads : c.condition.readsFlag = true)
    (other : ¬c.condition.Inclusive) :
    Turns (c.condition.denies d) (d.clauseFragment sub <| c.flagged ·) := by
  simp only [clauseFragment_eq]
  split
  · exact turns_conditionFragment reads other
  · exact ⟨.error (.unsupportedClause c.kind), fun _ => rfl⟩

/-- The flag negates a clause just if its kind reads the flag and it is no denial already. A kind
that does not read it is written as without it, and a denial is not denied again: with the flag and
without it, the same thing is denied. -/
theorem clauseFragment_flagged {c : Clause} (other : ¬c.condition.Inclusive) :
    ((∃ set, d.clauseFragment sub (c.flagged true) = .ok set) ↔
      ∃ f, d.clauseFragment sub (c.flagged false) = .ok f) ∧
    ∀ f set, d.clauseFragment sub (c.flagged false) = .ok f →
      d.clauseFragment sub (c.flagged true) = .ok set →
        (Complements set f ↔ c.condition.readsFlag = true ∧ c.condition.denies d = false) ∧
        (c.condition.readsFlag = false → set = f) ∧
        (c.condition.readsFlag = true → c.condition.denies d = true →
          ∃ denied, f = mustNot denied ∧ set = mustNot denied) := by
  cases reads : c.condition.readsFlag with
  | false =>
    have same : d.clauseFragment sub (c.flagged true) = d.clauseFragment sub (c.flagged false) := by
      simp only [clauseFragment_eq, conditionFragment_ignores reads true]
    rw [same]
    refine ⟨Iff.rfl, fun f set without flagged => ?_⟩
    obtain rfl : f = set := Except.ok.inj (without.symm.trans flagged)
    exact ⟨⟨fun turned => absurd turned (not_complements_self f), nofun⟩, fun _ => rfl, nofun⟩
  | true =>
    obtain ⟨core, written⟩ : Turns (c.condition.denies d) (d.clauseFragment sub <| c.flagged ·) :=
      turns_clauseFragment reads other
    simp only [written]
    cases core with
    | error e => exact ⟨⟨nofun, nofun⟩, nofun⟩
    | ok fragment =>
      refine ⟨⟨fun _ => ⟨_, rfl⟩, fun _ => ⟨_, rfl⟩⟩, fun f set without flagged => ?_⟩
      obtain rfl := Except.ok.inj without
      obtain rfl := Except.ok.inj flagged
      cases denies : c.condition.denies d with
      | false =>
        exact ⟨⟨fun _ => ⟨trivial, rfl⟩, fun _ => complements_mustNot fragment⟩, nofun, nofun⟩
      -- the fragment is denied once either way, so both forms are the same
      | true =>
        exact ⟨⟨fun turned => absurd turned (not_complements_self _), nofun⟩, nofun,
          fun _ _ => ⟨fragment, rfl, rfl⟩⟩

/-- Unequal already, and unequal again with the flag. -/
theorem clauseFragment_flagged_unequal :
    let c : Clause := ⟨.conjunction, .bool false, [], .basic "status" .unequal "x"⟩
    ∃ f set, standard.clauseFragment (fun _ => .error .circularQuery) (c.flagged false) = .ok f ∧
      standard.clauseFragment (fun _ => .error .circularQuery) (c.flagged true) = .ok set ∧
      ¬Complements set f := by
  intro c
  obtain ⟨f, without⟩ : ∃ f, standard.clauseFragment (fun _ => .error .circularQuery)
    (c.flagged false) = .ok f := ⟨_, rfl⟩
  have other : ¬c.condition.Inclusive := nofun
  obtain ⟨set, flagged⟩ := (clauseFragment_flagged other).1.mpr ⟨f, without⟩
  refine ⟨f, set, without, flagged, fun turned => ?_⟩
  obtain ⟨-, denies⟩ := ((clauseFragment_flagged other).2 f set without flagged).1.mp turned
  cases denies

end Dialect

end DocumentSearch
