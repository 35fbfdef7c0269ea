import ContainerFleet.Proofs.Label.Kind
import ContainerFleet.Proofs.Update.Verdict

/-!
When a health check comes to no verdict. Main statement: `check_concludes_iff`. What decides is the
required uptime alone: half again as much of it has to be a span of time.
-/

namespace ContainerFleet.Health

open Program

/-- A result that says how the container is. -/
inductive Concluded : Except HealthError Unit → Prop where
  | passed : Concluded (.ok ())
  | uptime (reason : String) : Concluded (.error (.uptime reason))
  | ping (reason : String) : Concluded (.error (.ping reason))
  | both (uptime ping : String) : Concluded (.error (.both uptime ping))

theorem concluded_combine (uptime ping : Verdict) : Concluded (combine uptime ping) := by
  cases uptime with
  | ok => cases ping with
    | ok => exact .passed
    | error reason => exact .ping reason
  | error why => cases ping with
    | ok => exact .uptime why
    | error reason => exact .both why reason

instance decidableConcluded : (result : Except HealthError Unit) → Decidable (Concluded result)
  | .ok () => .isTrue .passed
  | .error (.uptime reason) => .isTrue (.uptime reason)
  | .error (.ping reason) => .isTrue (.ping reason)
  | .error (.both uptime ping) => .isTrue (.both uptime ping)
  | .error .aborted => .isFalse nofun

variable {id : String} {labels : LabelSet} {required : Duration}

theorem yields_concluded
    (h : ∀ required, labels.requiredUptime? = some required → required.timesOneAndHalf? ≠ none) :
    Yields Concluded (check id labels) := by
  apply yields_bind
  intro start
  cases huptime : labels.requiredUptime? with
  | none =>
      cases hping : labels.ping? with
      | none => exact yields_pure .passed
      | some ping => exact yields_bind fun _ => yields_pure (concluded_combine _ _)
  | some required =>
      obtain ⟨wait, hwait⟩ := Option.ne_none_iff_exists'.1 (h required huptime)
      simp only [uptimeDue?, hwait, Option.map_some]
      cases hping : labels.ping? with
      | none => exact yields_bind fun _ => yields_pure (concluded_combine _ _)
      | some ping => exact yields_bind fun _ => yields_pure (concluded_combine _ _)

/-- An address is waited for all the same, and what it answered is lost. -/
theorem yields_aborted (hlabel : labels.requiredUptime? = some required)
    (h : required.timesOneAndHalf? = none) :
    Yields (fun result => result = .error .aborted) (check id labels) := by
  apply yields_bind
  intro start
  simp only [hlabel, uptimeDue?, h, Option.map_none]
  cases hping : labels.ping? with
  | none => exact yields_pure rfl
  | some ping => exact yields_bind fun _ => yields_pure rfl

theorem concluded_iff_of_runs {trace : List UpdateExchange} {result : Except HealthError Unit}
    (h : Runs (check id labels) trace result) :
    Concluded result ↔
      ∀ required, labels.requiredUptime? = some required → required.timesOneAndHalf? ≠ none := by
  constructor
  · intro hresult required hlabel hnone
    rw [yields_aborted hlabel hnone trace result h] at hresult
    cases hresult
  · intro hall
    exact yields_concluded hall trace result h

/-- Whatever the daemon and the address answer. -/
theorem check_concludes_iff {σ : Type} (handle : (q : UpdateRequest) → σ → q.Reply × σ) (s : σ)
    (id : String) (raw : Map String String) :
    Concluded (converse (I := updateInterface) handle (check id (.ofRaw raw)) s).2.1 ↔
      ∀ value required, raw.get? Label.uptimeKey = some value →
        Duration.ofText? value = some required → required.secs < Duration.unscalableSecs := by
  rw [concluded_iff_of_runs (runs_converse (I := updateInterface) handle (check id (.ofRaw raw)) s),
    LabelSet.requiredUptime?_ofRaw]
  simp only [Option.bind_eq_some_iff, ne_eq, Duration.timesOneAndHalf?_eq_none_iff, not_le]
  constructor
  · intro hall value required hvalue hspan
    exact hall required ⟨value, hvalue, hspan⟩
  · rintro hall required ⟨value, hvalue, hspan⟩
    exact hall value required hvalue hspan

/-- The longest uptime that a label can ask for. The address is asked and answers, but the container is
never looked at. -/
theorem exists_check_aborted :
    let (trace, result, _) := timedCheck
      { MemoryDaemon.empty with containers := [MemoryDaemon.web []] } (fun _ => ⟨.ok 200, .zero⟩)
      (.ofRaw [(Label.uptimeKey, "18446744073709551615s"), (Label.pingKey, "http://web/"),
        (Label.pingDelayKey, "5s")])
    result = .error .aborted ∧ ¬ Concluded result ∧ askedUrls trace = ["http://web/"] ∧
      daemonCalls trace = [] := by
  decide +kernel

end ContainerFleet.Health
