import Tombola.Proofs.Change

/-!
# The configuration stays valid

Every setting is checked when the contract is set up and whenever it is changed, in the same way and
apart from the others. So the configuration is valid at all times, and a change of settings goes
through exactly when each setting that it names passes its own check.
-/

namespace Tombola

open Contract

/-- A change of settings by the contract's owner goes through exactly when each setting that it
names passes its own check, and replaces exactly these settings. -/
theorem Contract.updateConfig_eq_ok_iff {s s' : Store} {caller : Caller} {r : ConfigRequest}
    {config : Config} {response : Response} (hconfig : s.config = some config)
    (howner : caller.address = config.owner) :
    updateConfig s caller r = .ok (s', response) ↔ r.Allowed ∧
      s' = s.putConfig (config.applying r) ∧
      response = .ofAttributes [("action", "update_config")] := by
  have howned : ownedConfig s caller.address = .ok config :=
    ownedConfig_eq_ok.mpr ⟨hconfig, howner⟩
  rw [updateConfig, howned, Outcome.ok_bind, Outcome.bind_eq_ok]
  constructor
  · rintro ⟨config', hrevised, h⟩
    obtain ⟨hallowed, rfl⟩ := revised_eq_ok.mp hrevised
    obtain ⟨rfl, rfl⟩ := Prod.mk.inj (Outcome.pure_eq_ok.mp h)
    exact ⟨hallowed, rfl, rfl⟩
  · rintro ⟨hallowed, rfl, rfl⟩
    exact ⟨config.applying r, revised_eq_ok.mpr ⟨hallowed, rfl⟩, rfl⟩

/-- In every store that can be reached, whatever the clock does, the configuration is valid. A
change of settings by the owner goes through exactly when each setting that it names passes its own
check. Then these settings take the values that are named, and the others, the locks and the last
raffle stay. -/
theorem configuration_valid_and_changes_exact {clock : Clock} {now : Timestamp} {s : Store}
    (h : Reachable clock now s) : ∃ config, s.config = some config ∧ config.Valid ∧
      ∀ env caller r s' response, caller.address = config.owner →
        (execute s env caller (.updateConfig r) = .ok (s', response) ↔ r.Allowed ∧
          s' = s.putConfig (config.applying r) ∧
          response = .ofAttributes [("action", "update_config")]) := by
  obtain ⟨config, hconfig⟩ := h.configured
  refine ⟨config, hconfig, h.valid hconfig, ?_⟩
  intro env caller r s' response howner
  exact updateConfig_eq_ok_iff hconfig howner

namespace Sample

/-- Three settings. -/
def settings : ConfigRequest where
  name := some "tombola"
  owner := none
  treasury := some "treasury"
  minDuration := none
  minTimeout := none
  maxTickets := some 7
  cut := none
  oracle := none
  oracleFee := none
  creationFees := none

end Sample

/-- In the small run the owner changes three settings at once. Together with a cut of the whole they
are not accepted. -/
theorem settings_of_sample : ∃ config s', Sample.created.config = some config ∧ config.Valid ∧
    execute Sample.created (Sample.env 6) ⟨"owner", []⟩ (.updateConfig Sample.settings) =
      .ok (s', .ofAttributes [("action", "update_config")]) ∧
    s'.config = some { config with
      name := "tombola", treasury := "treasury", maxTickets := some 7 } ∧
    ∀ e, execute Sample.created (Sample.env 6) ⟨"owner", []⟩
      (.updateConfig { Sample.settings with cut := some .one }) ≠ .ok e := by
  obtain ⟨config, hconfig, hvalid, hexact⟩ :=
    configuration_valid_and_changes_exact Sample.created_reachable
  have howner : "owner" = config.owner := by
    obtain ⟨config', hconfig', howner⟩ : ∃ config, Sample.created.config = some config ∧
        "owner" = config.owner := ⟨_, rfl, rfl⟩
    obtain rfl := Option.some.inj (hconfig.symm.trans hconfig')
    exact howner
  have hallowed : Sample.settings.Allowed := by
    refine ⟨?_, nofun, ?_, nofun, ?_, nofun, nofun, nofun⟩
    · rintro _ ⟨rfl⟩
      decide
    · rintro _ ⟨rfl⟩
      exact (by decide : Address.check "treasury" = .ok "treasury")
    · rintro _ ⟨rfl⟩
      decide
  refine ⟨config, _, hconfig, hvalid,
    (hexact (Sample.env 6) ⟨"owner", []⟩ Sample.settings _ _ howner).mpr ⟨hallowed, rfl, rfl⟩,
    rfl, ?_⟩
  rintro ⟨s', response⟩ hout
  have hrefused := ((hexact _ _ _ _ _ howner).mp hout).1.cut .one rfl
  exact absurd hrefused (by decide)

end Tombola
