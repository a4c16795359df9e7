import NodeAgent.Config.Node
import NodeAgent.Proofs.Result

/-!
# Configurations that can work

The checks of a configuration come one after the other, and the first that fails is the one that is
reported.  A configuration that passes all of them can work, and one that can work passes them.

## Main definitions

* `NodeConfig.CanWork`: what the checks ask for.

## Main results

* `NodeConfig.validate_eq_ok_iff`: the configurations that are not refused.
-/

namespace NodeAgent

open Text

namespace NodeConfig

/-- **A configuration that can work.** -/
structure CanWork (c : NodeConfig) : Prop where
  url : ∃ url?, c.coordinatorUrl = .ok url?
  fingerprints : c.disableSslVerification = true → c.sslFingerprints = []
  credentials : c.username.isSome = c.password.isSome
  executors : c.executors ≠ 0
  retry : c.retry ≠ 0
  interval : c.backoff.interval ≠ 0
  interval_le : c.backoff.interval ≤ c.backoff.maxInterval
  labelPollInterval : c.labelPollInterval ≠ 0
  name : ∀ name, c.name = some name → isBlankText name = false
  /-- A colon would end the name of a tool before its end. -/
  tools : ∀ tool ∈ c.toolLocations, ':' ∉ tool.1.toList

section Checks

variable {α : Type} {holds : Bool} {error : ConfigError}

theorem require_eq_ok : require holds error = .ok () ↔ holds = true := by
  cases holds with
  | true => exact iff_of_true rfl rfl
  | false => exact iff_of_false nofun nofun

/-- Behind a check, all goes on if it holds. -/
theorem require_bind_eq_ok {f : Unit → Except ConfigError α} {a : α} :
    (require holds error >>= f) = .ok a ↔ holds = true ∧ f () = .ok a := by
  cases holds with
  | true => exact (and_iff_right rfl).symm
  | false => exact iff_of_false nofun nofun

end Checks

/-- **The configurations that are not refused** are those that can work. -/
theorem validate_eq_ok_iff {c : NodeConfig} : c.validate = .ok () ↔ c.CanWork := by
  unfold validate
  cases hurl : c.coordinatorUrl with
  | error cause =>
    refine iff_of_false nofun fun h => ?_
    obtain ⟨url?, hok⟩ := h.url
    cases hurl.symm.trans hok
  | ok url? =>
    change (require _ _ >>= _) = _ ↔ _
    simp only [require_bind_eq_ok, forM_eq_ok, require_eq_ok, decide_eq_true_eq]
    constructor
    · rintro ⟨hpins, hpassword, husername, hexecutors, hretry, hinterval, hle, hpoll, hname, htools⟩
      refine ⟨⟨url?, hurl⟩, ?_, ?_, hexecutors, hretry, hinterval, hle, hpoll, ?_, ?_⟩
      · intro hoff
        simpa [hoff] using hpins
      · cases hu : c.username <;> cases hp : c.password <;> simp_all
      · intro name hset
        simpa [hset] using hname
      · intro tool htool
        simpa using htools tool htool
    · intro h
      refine ⟨?_, ?_, ?_, h.executors, h.retry, h.interval, h.interval_le, h.labelPollInterval, ?_, ?_⟩
      · cases hoff : c.disableSslVerification with
        | false => rfl
        | true => rw [h.fingerprints hoff]; rfl
      · rw [← h.credentials]
        cases c.username <;> rfl
      · rw [h.credentials]
        cases c.password <;> rfl
      · cases hset : c.name with
        | none => rfl
        | some name => simpa using h.name name hset
      · intro tool htool
        simpa using h.tools tool htool

end NodeConfig

end NodeAgent
