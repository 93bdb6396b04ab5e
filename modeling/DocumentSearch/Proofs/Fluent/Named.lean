import DocumentSearch.Session.Builder
import DocumentSearch.Proofs.Fluent.Refusal

/-!
# Refused calls by name

Of all the calls that change builders, only `for_page` and `where_with_options` can leave something
behind when they are refused, whatever their arguments.
-/
namespace DocumentSearch

open Outcome

namespace Signature

variable {α β γ : Type} {P : β → Prop}

def Yields (P : β → Prop) (s : Signature α β) : Prop :=
  ∀ args b rest, s args = .ok (b, rest) → P b

theorem Yields.pure {b : β} (h : P b) : Yields P (Pure.pure b : Signature α β) := by
  intro args b' rest read
  cases read
  exact h

theorem Yields.bind {s : Signature α γ} {f : γ → Signature α β} (h : ∀ c, Yields P (f c)) :
    Yields P (s >>= f) := by
  intro args b rest read
  obtain ⟨⟨c, between⟩, -, read⟩ := bind_eq_ok.mp read
  exact h c between b rest read

theorem Yields.read {s : Signature α β} (h : Yields P s) {args : Arguments α} {b : β}
    (read : s.read args = .ok b) : P b := by
  unfold Signature.read at read
  split at read
  · cases read
  · rename_i b' done
    cases read
    exact h args b _ done
  · cases read

theorem read_map (s : Signature α γ) (f : γ → β) (args : Arguments α) :
    Signature.read (do return f (← s)) args = (s.read args).map f := by
  have step : (do return f (← s) : Signature α β) args =
      (s args).map (fun p => (f p.1, p.2)) := by
    change (s args >>= fun p => Except.ok (f p.1, p.2)) = _
    cases s args <;> rfl
  unfold Signature.read
  rw [step]
  cases s args with
  | error e => rfl
  | ok p =>
    obtain ⟨c, positional, named⟩ := p
    cases positional <;> cases named <;> rfl

end Signature

namespace Session

open Signature

/-- The edits that leave a builder as it was whenever they are refused. -/
def Settles : Edit → Prop
  | .page .. => False
  | .withOptions .. => False
  | _ => True

theorem Settles.no_slip {store : Store} {self : Ref} {b b' : Builder} {e : Edit} (h : Settles e) :
    ¬e.Slip store self b b' := by
  intro slip
  cases slip <;> exact h

def CallSettles (call : FluentCall) : Prop := ∀ e, call = .edit e → Settles e

theorem yields_ofValues {β : Type} {P : β → Prop} {s : Signature Value β} (h : s.Yields P) :
    (ofValues s).Yields P := by
  intro args b rest read
  obtain ⟨values, -, read⟩ := bind_eq_ok.mp read
  obtain ⟨found, done, read⟩ := bind_eq_ok.mp read
  cases read
  exact h.read done

theorem yields_edit {s : Signature Value Edit} (h : s.Yields Settles) :
    (edit s).Yields CallSettles := by
  intro args call rest read
  obtain ⟨⟨e, _⟩, done, read⟩ := bind_eq_ok.mp read
  cases read
  intro other same
  cases same
  exact yields_ofValues h args e _ done

theorem yields_aggregation : aggregation.Yields CallSettles := by
  refine .bind fun key => .bind fun type => .bind fun args => .bind fun sub => ?_
  cases key with
  | preset key type args calls => exact .pure fun e other => nomatch other
  | value key =>
    refine .bind fun key => .bind fun type => .bind fun args => .bind fun sub => .pure ?_
    intro e same
    cases same
    trivial

theorem yields_addClause : addClause.Yields Settles :=
  .bind fun _ => .bind fun _ => .bind fun _ => .pure trivial

theorem yields_orderBy : orderBy.Yields Settles :=
  .bind fun _ => .bind fun _ => .bind fun _ => .pure trivial

theorem yields_orderByDescending : orderByDescending.Yields Settles :=
  .bind fun _ => .bind fun _ => .pure trivial

theorem yields_orderByDistance : orderByDistance.Yields Settles :=
  .bind fun _ => .bind fun _ => .bind fun _ => .bind fun _ => .bind fun _ => .pure trivial

theorem yields_filter (bucket kind : Signature Value Value) :
    (edit (filterInto bucket kind)).Yields CallSettles :=
  yields_edit (.bind fun _ => .bind fun _ => .bind fun _ => .pure trivial)

theorem yields_field {α : Type} {f : α → Edit} (parameter : Signature Value α)
    (h : ∀ a, Settles (f a) := by exact fun _ => trivial) :
    (edit do return f (← parameter)).Yields CallSettles :=
  yields_edit (.bind fun a => .pure (h a))

theorem edits_settle :
    ∀ p ∈ edits, p.1 ≠ "for_page" → p.1 ≠ "where_with_options" → p.2.Yields CallSettles := by
  have filter {bucket kind : Signature Value Value} {P Q : Prop} :
      P → Q → (edit (filterInto bucket kind)).Yields CallSettles :=
    fun _ _ => yields_filter bucket kind
  simp only [edits, List.forall_mem_cons]
  refine ⟨fun _ _ => yields_field _, fun _ _ => yields_field _, fun _ _ => yields_field _,
    fun _ _ => yields_field _, fun _ _ => yields_field _, fun _ _ => yields_field _, ?forPage,
    fun _ _ => yields_field _, fun _ _ => yields_field _, fun _ _ => yields_edit (.pure trivial),
    fun _ _ => yields_field _, fun _ _ => yields_field _, fun _ _ => yields_edit yields_addClause,
    ?withOptions, filter, filter, filter, filter, filter, filter, filter, filter, filter, filter,
    filter, filter, filter, filter, filter, fun _ _ => yields_aggregation,
    fun _ _ => yields_edit yields_orderBy, fun _ _ => yields_edit yields_orderByDescending,
    fun _ _ => yields_edit yields_orderByDistance, nofun⟩
  case forPage => exact fun other _ => absurd rfl other
  case withOptions => exact fun _ other => absurd rfl other

/-- Only the two calls named can be slips. -/
theorem fluent?_settles {method : String} {signature : Signature Argument FluentCall}
    (fluent : fluent? method = some signature) (forPage : method ≠ "for_page")
    (withOptions : method ≠ "where_with_options") : signature.Yields CallSettles := by
  unfold fluent? at fluent
  split at fluent
  · cases fluent
    exact yields_field _
  · obtain ⟨name, listed, same⟩ := Table.mem_of_find? fluent
    obtain rfl := eq_of_beq same
    exact edits_settle _ listed forPage withOptions

/-- A call that changes builders, made by its name on a builder. -/
theorem onBuilder_fluent {s : Session} {ref : Ref} {method : String} {args : Arguments Argument}
    {signature : Signature Argument FluentCall} (fluent : fluent? method = some signature) :
    s.onBuilder ref method args =
      match signature.read args with
      | .ok call => s.actOn ref (.fluent call)
      | .error m => s.refuse (.misuse m) := by
  have named : method ≠ "dump" := by
    rintro rfl
    cases fluent
  have action : action? method = some (do return .fluent (← signature)) := by
    simp only [action?, fluent]
  simp only [onBuilder, named, if_false, action, reading, read_map]
  cases signature.read args <;> rfl

theorem actOn_fluent_refused {s s' : Session} {ref : Ref} {call : FluentCall} {e : Error}
    (refused : s.actOn ref (.fluent call) = (.error e, s')) :
    ∃ after, call.perform s.store ref = (.error e, after) ∧ s' = s.withStore after := by
  unfold actOn Action.perform at refused
  dsimp only at refused
  generalize done : call.perform s.workspace.store ref = outcome at refused
  obtain ⟨result, after⟩ := outcome
  refine ⟨after, ?_⟩
  cases result with
  | ok _ => cases refused
  | error e =>
    cases refused
    exact ⟨done, rfl⟩

variable {s s' : Session} {ref : Ref} {method : String} {args : Arguments Argument}
variable {signature : Signature Argument FluentCall} {e : Error}

/-- A call on a builder that is refused, for its arguments or for what they ask, makes no exchange
and changes no other builder. Its own builder is as it was before unless the call is a slip, and
slips have one of two names. -/
theorem onBuilder_refused (fluent : fluent? method = some signature)
    (known : ref.index < s.store.size) (refused : s.onBuilder ref method args = (.error e, s')) :
    s' = s.withStore s'.store ∧ s.store.Spares ref s'.store ∧
    (∀ b, s'.store.get ref = b ∧ b ≠ s.store.get ref ↔
      ∃ edit, signature.read args = .ok (.edit edit) ∧
        edit.Slip s.store ref (s.store.get ref) b) ∧
    (method ≠ "for_page" → method ≠ "where_with_options" →
      s'.store.get ref = s.store.get ref) := by
  rw [onBuilder_fluent fluent] at refused
  split at refused
  · rename_i call read
    obtain ⟨after, performed, rfl⟩ := actOn_fluent_refused refused
    have slips : ∀ b, after.get ref = b ∧ b ≠ s.store.get ref ↔ _ :=
      fun b => FluentCall.refused_ne_iff known performed
    refine ⟨rfl, ?_, fun b => ?_, fun forPage withOptions => ?_⟩
    · have spared := call.perform_spares s.store ref
      rwa [performed] at spared
    · refine (slips b).trans (exists_congr fun edit => ?_)
      simp only [read, Except.ok.injEq]
    · refine Classical.byContradiction fun changed => ?_
      obtain ⟨edit, same, slip⟩ := (slips _).mp ⟨rfl, changed⟩
      have settles := (fluent?_settles fluent forPage withOptions).read read
      exact (settles edit same).no_slip slip
  · rename_i m read
    cases refused
    refine ⟨rfl, .refl ref s.store, fun b => ?_, fun _ _ => rfl⟩
    simp only [read]
    refine ⟨fun ⟨left, changed⟩ => absurd left.symm changed, fun ⟨edit, other, _⟩ => nomatch other⟩

def passingTen : Session :=
  ⟨.standard, ⟨⟨[{ Builder.blank "id" with offset := 10 }]⟩, none⟩, ⟨0⟩, [], [], [], 1⟩

/-- The third page of minus five documents is refused, and nothing is passed over any more. -/
theorem onBuilder_refused_page :
    ∃ s', passingTen.onBuilder ⟨0⟩ "for_page" ⟨[.value (.int 3), .value (.int (-5))], []⟩ =
        (.error (.invalidQuery (.negativeLimit (.int (-5)))), s') ∧
      (passingTen.store.get ⟨0⟩).offset = 10 ∧
      s'.store.get ⟨0⟩ = { passingTen.store.get ⟨0⟩ with offset := 0 } := by
  have fluent : fluent? "for_page" = some (edit do
      return .page (← required "page") (← withDefault "per_page" (.int 15))) := rfl
  obtain ⟨s', refused⟩ : ∃ s', passingTen.onBuilder ⟨0⟩ "for_page"
      ⟨[.value (.int 3), .value (.int (-5))], []⟩ =
        (.error (.invalidQuery (.negativeLimit (.int (-5)))), s') := ⟨_, rfl⟩
  have found : Builder.pageStart (.int 3) (.int (-5)) = .ok (.int (-10)) := rfl
  have whole : (Value.int (-10)).whole = .ok (-10) := rfl
  have slip : Edit.Slip passingTen.store ⟨0⟩ (passingTen.store.get ⟨0⟩)
      (.page (.int 3) (.int (-5)))
      { passingTen.store.get ⟨0⟩ with offset := 0 } := .page found whole rfl (by decide)
  have left := (onBuilder_refused fluent (by decide) refused).2.2.1
  exact ⟨s', refused, rfl, ((left _).mpr ⟨_, rfl, slip⟩).1⟩

end Session

end DocumentSearch
