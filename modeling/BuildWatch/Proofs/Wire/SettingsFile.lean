import BuildWatch.Proofs.Json.Provenance
import BuildWatch.Proofs.Wire.RoundTrip

namespace BuildWatch

open Json

namespace ViewerConfig

/-- An interval that the settings file can hold. -/
def HasWholeMillis (config : ViewerConfig) : Prop :=
  ∃ millis < 2 ^ 64, config.interval = millis * nanosPerMilli

/-- The configuration with what the settings file keeps of its interval. -/
def settled (config : ViewerConfig) : ViewerConfig :=
  { config with interval := config.intervalMillis * nanosPerMilli }

theorem intervalMillis_lt (config : ViewerConfig) : config.intervalMillis < 2 ^ 64 :=
  Nat.mod_lt _ (by decide)

theorem intervalMillis_of_whole {config : ViewerConfig} {millis : Nat} (fits : millis < 2 ^ 64)
    (whole : config.interval = millis * nanosPerMilli) : config.intervalMillis = millis := by
  rw [intervalMillis, whole, Nat.mul_div_cancel _ (by decide)]
  exact Nat.mod_eq_of_lt fits

theorem settled_eq_self_iff {config : ViewerConfig} :
    config.settled = config ↔ config.HasWholeMillis := by
  constructor
  · intro same
    have kept : config.intervalMillis * nanosPerMilli = config.interval :=
      congrArg interval same
    exact ⟨config.intervalMillis, config.intervalMillis_lt, kept.symm⟩
  · rintro ⟨millis, fits, whole⟩
    rw [settled, intervalMillis_of_whole fits whole, ← whole]

example : (polling (2 ^ 64 * nanosPerMilli + 999999)).settled = polling 0 := by decide

end ViewerConfig

namespace Wire

variable {config : ViewerConfig} {interval : Nat} {text : String}

/-! ## What is written -/

theorem typed_interval (config : ViewerConfig) :
    Typed millis (millis.write config.interval) (config.intervalMillis * nanosPerMilli) :=
  .millis config.intervalMillis_lt

theorem typed_config (config : ViewerConfig) :
    Typed viewerConfig (viewerConfig.write config) config.settled := by
  have members : Fills
      (writtenMembers viewerConfigRecord.fields (viewerConfigRecord.toValues config))
      viewerConfigRecord.fields
      (config.intervalMillis * nanosPerMilli, config.transport, config.refreshesList, ()) := by
    refine .told ?_ (typed_interval config) <|
      .told ?_ (.transport config.transport) <|
      .told ?_ (.flag config.refreshesList) <|
      .nil _
    all_goals simp [writtenMembers, viewerConfigRecord, Field.defaulted, transport, Codec.variant,
      Codec.flag]
  exact typed_write (by decide) config members

theorem writable_config (config : ViewerConfig) : Writable (viewerConfig.write config) := by
  refine writable_write ?_ config
  refine List.forall_mem_cons.mpr ⟨fun interval => ?_, List.forall_mem_cons.mpr
    ⟨fun value => ?_, List.forall_mem_singleton.mpr faithful_flag.writable⟩⟩
  · exact (Token.Writable.integer _).alone
  · exact (Token.Writable.text (transportName value)).alone

theorem decode_encode_config (config : ViewerConfig) :
    viewerConfig.decode (viewerConfig.encode config) = .ok config.settled :=
  (typed_config config).decode (spelled_render (writable_config config))

/-! ## What is read -/

theorem millis_fits (gives : millis.Gives interval) :
    ∃ n < 2 ^ 64, interval = n * nanosPerMilli := by
  obtain ⟨n, whole, rfl⟩ := gives.of_map
  refine ⟨n.toNat, ?_, rfl⟩
  have fits : n.toNat ≤ word := Int.toNat_le.mpr whole.of_whole.2
  exact Nat.lt_of_le_pred (by decide) fits

theorem wholeMillis_of_decode (decoded : viewerConfig.decode text = .ok config) :
    config.HasWholeMillis := by
  obtain ⟨⟨interval, others⟩, ⟨given, -⟩, rfl⟩ := Record.gives (Codec.gives_of_decode decoded)
  rcases given with read | default
  · exact millis_fits read
  · cases default
    exact ⟨2000, by decide, rfl⟩

/-! ## There and back -/

/-- A configuration comes back from its text with its interval in whole milliseconds modulo two to
the power of 64, and as it was but for that. So it comes back unchanged exactly if its interval is
a whole number of milliseconds below that power, and what has been decoded once does, from whatever
text it was. -/
theorem config_survives_settings_file :
    (∀ config : ViewerConfig, viewerConfig.decode (viewerConfig.encode config) =
      .ok { config with interval := config.interval / nanosPerMilli % 2 ^ 64 * nanosPerMilli }) ∧
    (∀ config : ViewerConfig, viewerConfig.decode (viewerConfig.encode config) = .ok config ↔
      ∃ millis < 2 ^ 64, config.interval = millis * nanosPerMilli) ∧
    ∀ text : String, (viewerConfig.decode text).bind
      (fun config => viewerConfig.decode (viewerConfig.encode config)) =
        viewerConfig.decode text := by
  have unchanged (config : ViewerConfig) :
      viewerConfig.decode (viewerConfig.encode config) = .ok config ↔ config.HasWholeMillis := by
    rw [decode_encode_config, Except.ok.injEq, ViewerConfig.settled_eq_self_iff]
  refine ⟨decode_encode_config, unchanged, fun text => ?_⟩
  cases decoded : viewerConfig.decode text with
  | error problem => rfl
  | ok config =>
    simp only [Except.bind]
    exact (unchanged config).mpr (wholeMillis_of_decode decoded)

end Wire

end BuildWatch
