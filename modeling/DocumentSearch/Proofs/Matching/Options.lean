import DocumentSearch.Proofs.Matching.Engine
import DocumentSearch.Proofs.Outcome

/-!
# Options and matching

A boost or a request for inner hits goes into the body of a fragment. It leaves the kind of the
fragment alone, and in a table it leaves alone whatever stands under other keys, so the documents
that a boolean query or a query on other documents matches stay the same.
-/
namespace DocumentSearch

open Fragment Outcome

namespace Fragment

theorem updateFirst_single {f : Value → Value → Except Misuse Value} {kind body : Value}
    {fragment : Entries} (h : updateFirst f [(kind, body)] = .ok fragment) :
    ∃ changed, f kind body = .ok changed ∧ fragment = [(kind, changed)] := by
  have h : f kind body >>= (fun c => pure (Table.insert [(kind, body)] kind c)) = .ok fragment := h
  obtain ⟨changed, hc, h⟩ := bind_eq_ok.mp h
  refine ⟨changed, hc, ?_⟩
  simpa [Table.insert] using (pure_eq_ok.mp h).symm

theorem withOptions_eq (fragment options : Entries) :
    withOptions fragment options =
      (match options.find? "boost" with
        | some boost => updateFirst (boosted boost) fragment
        | none => .ok fragment) >>= fun boosted =>
      match options.find? "inner_hits" with
        | some v => innerHitsOf v >>= fun inner => updateFirst (withInnerHits inner) boosted
        | none => .ok boosted := by
  unfold withOptions
  cases options.find? "boost" <;> rfl

/-- What a boost and a request for inner hits both keep of a body, options keep. -/
theorem withOptions_single {kind body : Value} {options fragment : Entries} (P : Value → Prop)
    (start : P body)
    (boost : ∀ v b c, P b → boosted v kind b = .ok c → P c)
    (innerHits : ∀ v b c, P b → withInnerHits v kind b = .ok c → P c)
    (h : withOptions [(kind, body)] options = .ok fragment) :
    ∃ changed, fragment = [(kind, changed)] ∧ P changed := by
  rw [withOptions_eq] at h
  obtain ⟨middle, hm, h⟩ := bind_eq_ok.mp h
  have first : ∃ b, middle = [(kind, b)] ∧ P b := by
    split at hm
    · obtain ⟨b, hb, rfl⟩ := updateFirst_single hm
      exact ⟨b, rfl, boost _ _ _ start hb⟩
    · exact ⟨body, (Except.ok.inj hm).symm, start⟩
  obtain ⟨b, rfl, hb⟩ := first
  split at h
  · obtain ⟨inner, -, h⟩ := bind_eq_ok.mp h
    obtain ⟨changed, hc, rfl⟩ := updateFirst_single h
    exact ⟨changed, rfl, innerHits _ _ _ hb hc⟩
  · exact ⟨b, (Except.ok.inj h).symm, hb⟩

/-- A table that differs from another one at most in its boost and its inner hits. -/
def Optioned (fields : Entries) (body : Value) : Prop :=
  ∃ changed : Entries, body = .map changed ∧
    ∀ key : String, key ≠ "boost" → key ≠ "inner_hits" →
      Table.find? changed key = Table.find? fields key

theorem Optioned.refl (fields : Entries) : Optioned fields (.map fields) :=
  ⟨fields, rfl, fun _ _ _ => rfl⟩

theorem Optioned.insert {fields : Entries} {body v : Value} {key : String}
    (h : Optioned fields body) (option : key = "boost" ∨ key = "inner_hits") :
    ∃ entries, body.entries = .ok entries ∧ Optioned fields (.map (entries.insert key v)) := by
  obtain ⟨changed, rfl, same⟩ := h
  refine ⟨changed, rfl, _, rfl, fun other notBoost notInner => ?_⟩
  have apart : other ≠ key := by rcases option with rfl | rfl <;> assumption
  rw [Table.find?_insert_of_ne _ _ (by simpa using apart), same other notBoost notInner]

theorem withOptions_table {kind : Value} {fields options fragment : Entries}
    (notValue : valueKinds.contains kind = false) (notField : fieldKinds.contains kind = false)
    (h : withOptions [(kind, .map fields)] options = .ok fragment) :
    ∃ changed, fragment = [(kind, changed)] ∧ Optioned fields changed := by
  refine withOptions_single (Optioned fields) (.refl fields) ?_ ?_ h
  · intro v b c hb hc
    obtain ⟨entries, he, ho⟩ := hb.insert (v := v) (.inl rfl)
    simp only [boosted, notValue, notField, he, Bool.false_eq_true, if_false] at hc
    exact Except.ok.inj hc ▸ ho
  · intro v b c hb hc
    obtain ⟨entries, he, ho⟩ := hb.insert (v := v) (.inr rfl)
    simp only [withInnerHits, he] at hc
    exact Except.ok.inj hc ▸ ho

end Fragment

namespace Engine

variable {Doc : Type} (e : Engine Doc)

theorem accepts_bool_withOptions {fields options fragment : Entries}
    (h : withOptions [("bool", .map fields)] options = .ok fragment) :
    e.accepts fragment = e.accepts [("bool", .map fields)] := by
  obtain ⟨_, rfl, changed, rfl, same⟩ := withOptions_table (by decide) (by decide) h
  refine e.accepts_bool_congr fun key hk => same key ?_ ?_
  · rintro rfl
    simp [booleanKeys] at hk
  · rintro rfl
    simp [booleanKeys] at hk

theorem accepts_joint_withOptions (j : Joint) {fields options fragment : Entries}
    (h : withOptions [(.str j.names.1, .map fields)] options = .ok fragment) :
    e.accepts fragment = e.accepts [(.str j.names.1, .map fields)] := by
  obtain ⟨_, rfl, changed, rfl, same⟩ :=
    withOptions_table (by cases j <;> decide) (by cases j <;> decide) h
  rw [accepts_joint, accepts_joint, same "query" (by decide) (by decide),
    same j.names.2 (by cases j <;> decide) (by cases j <;> decide)]

theorem accepts_leaf_withOptions {kind : String} {body : Value} {options fragment : Entries}
    (leaf : isLeaf kind = true) (h : withOptions [(.str kind, body)] options = .ok fragment) :
    e.accepts fragment = e.leaf fragment := by
  obtain ⟨changed, rfl, -⟩ :=
    withOptions_single (fun _ => True) trivial (fun _ _ _ _ _ => trivial)
      (fun _ _ _ _ _ => trivial) h
  exact e.accepts_leaf kind leaf changed

end Engine

end DocumentSearch
