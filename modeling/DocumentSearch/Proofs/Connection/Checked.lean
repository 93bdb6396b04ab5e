import DocumentSearch.Connection.Config
import DocumentSearch.Proofs.Outcome

/-!
# Settings that were checked

However settings are given, those that are accepted have passed every check.
-/
namespace DocumentSearch

open Outcome

namespace Signature

variable {α β γ : Type} {P : β → Prop}

/-- A signature that reads, from whatever arguments, a result of some kind. -/
def ReadsOnly (P : β → Prop) (s : Signature α β) : Prop :=
  ∀ args, GivesOnly (fun read => P read.1) (s args)

namespace ReadsOnly

theorem pure {b : β} (h : P b) : ReadsOnly P (Pure.pure b : Signature α β) := fun _ => .ok h

theorem bind {s : Signature α γ} {f : γ → Signature α β} (rest : ∀ c, ReadsOnly P (f c)) :
    ReadsOnly P (s >>= f) := fun _ => .bind fun _ _ => rest _ _

theorem read {s : Signature α β} (h : ReadsOnly P s) (args : Arguments α) :
    GivesOnly P (s.read args) := by
  unfold Signature.read
  split
  · exact .error _
  · rename_i b all
    exact .ok (h args _ all)
  · exact .error _

end ReadsOnly

end Signature

namespace Config

/-- Settings that pass every check. -/
structure Checked (c : Config) : Prop where
  hosts : c.hosts.truthy = true
  maxRetries : c.maxRetries.lt (.int 0) = false
  requestTimeout : ∀ timeout, c.requestTimeout = some timeout → timeout.lt (.int 0) = false
  scrollSize : c.scrollSize.lt (.int 1) = false
  bulkErrorLimit : c.bulkErrorLimit.lt (.int 1) = false

variable {given : Table String Value} {c : Config}

theorem holds_of_check {holds : Bool} {fault : ConfigFault} {u : Unit}
    (h : check holds fault = .ok u) : holds = true := by
  cases holds with
  | true => rfl
  | false => cases h

theorem not_of_check {fails : Bool} {fault : ConfigFault} {u : Unit}
    (h : check (!fails) fault = .ok u) : fails = false :=
  (Bool.not_eq_true' fails).mp (holds_of_check h)

theorem checked_of (h : of given = .ok c) : c.Checked := by
  obtain ⟨built, all, h⟩ := bind_eq_ok.mp h
  suffices each : read.ReadsOnly (GivesOnly Checked) from
    each.read _ built (lift_eq_ok.mp all) c h
  unfold read
  -- One for each of the settings, which may be anything until they are checked.
  iterate 15 refine .bind fun _ => ?_
  refine .pure (.bind fun _ hosts => .bind fun retries _ => .bind fun _ enough =>
    .bind fun timeout _ => ?_)
  cases timeout with
  | none =>
    exact .bind fun scroll _ => .bind fun _ batch => .bind fun limit _ => .bind fun _ shown =>
      .ok ⟨holds_of_check hosts, not_of_check enough, nofun, not_of_check batch, not_of_check shown⟩
  | some timeout =>
    refine .bind fun _ inTime => .bind fun scroll _ => .bind fun _ batch => .bind fun limit _ =>
      .bind fun _ shown => .ok ⟨holds_of_check hosts, not_of_check enough, ?_, not_of_check batch,
        not_of_check shown⟩
    rintro _ ⟨⟩
    exact not_of_check inTime

end Config

end DocumentSearch
