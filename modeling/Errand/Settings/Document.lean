import Errand.Json.Decode
import Errand.Settings.Basic

/-!
# Settings as a JSON value

Settings can be given as one JSON value, taken as it is. A section or a setting that is left out has
its own value.
-/

set_option autoImplicit false

namespace Errand.Settings

open Json (Decoder Fields)

/-- The shape of the server's settings. -/
def Server.decoder : Decoder Server :=
  let own : Server := {}
  (Fields.done Server.mk
    |>.and (.withDefault "host" Json.Decode.string own.host)
    |>.and (.withDefault "port" Json.Decode.u16 own.portNumber)).decoder "struct ServerConfig"

/-- The shape of the log's settings. -/
def Log.decoder : Decoder Log :=
  let own : Log := {}
  (Fields.done Log.mk
    |>.and (.withDefault "level" Json.Decode.string own.level)
    |>.and (.withDefault "format" (Json.Decode.variant LogFormat.all) own.format)).decoder
      "struct LoggingConfig"

/-- The shape of the settings of language models. -/
def LanguageModel.decoder : Decoder LanguageModel :=
  let own : LanguageModel := {}
  (Fields.done LanguageModel.mk
    |>.and (.withDefault "provider" (Json.Decode.variant ProviderKind.all) own.provider)
    |>.and (.nullable "base_url" Json.Decode.string)
    |>.and (.nullable "api_key" Json.Decode.string)
    |>.and (.withDefault "model" Json.Decode.string own.model)
    |>.and (.nullable "solver_model" Json.Decode.string)
    |>.and (.withDefault "temperature" Json.Decode.f32 own.temperature)
    |>.and (.withDefault "timeout_secs" Json.Decode.u64 own.timeoutSeconds)).decoder
      "struct LlmConfig"

/-- The shape of the agent's settings. -/
def Agent.decoder : Decoder Agent :=
  let own : Agent := {}
  (Fields.done Agent.mk
    |>.and (.withDefault "solver_input" (Json.Decode.variant SolverInput.all) own.solverInput)
    |>.and (.withDefault "assistant_id" Json.Decode.string own.assistant)
    |>.and (.nullable "seed_path" Json.Decode.string)
    |>.and (.withDefault "checkpoints" Json.Decode.bool own.checkpoints)
    |>.and (.withDefault "checkpoint_ttl_secs" Json.Decode.u64 own.checkpointSeconds)
    |>.and (.withDefault "max_checkpoints" Json.Decode.u64 own.maxCheckpoints)
    |>.and (.withDefault "record_exchanges" Json.Decode.bool own.recordExchanges)
    |>.and (.withDefault "smart_reply_window_secs" Json.Decode.u64 own.replyWindowSeconds)).decoder
      "struct AgentConfig"

/-- The upper bounds of durations. -/
def boundsDecoder : Decoder (List Number.Double) := fun place source =>
  (·.map .finite) <$> Json.Decode.list Json.Decode.f64 place source

/-- The shape of the settings of measurements. -/
def Exporter.decoder : Decoder Exporter :=
  let own : Exporter := {}
  (Fields.done Exporter.mk
    |>.and (.withDefault "enabled" Json.Decode.bool own.enabled)
    |>.and (.withDefault "path" Json.Decode.string own.path)
    |>.and (.withDefault "duration_buckets" boundsDecoder own.durationBounds)).decoder
      "struct MetricsConfig"

/-- The section around the settings of measurements. -/
def observabilityDecoder : Decoder Exporter :=
  (Fields.done id |>.and (.withDefault "metrics" Exporter.decoder {})).decoder
    "struct ObservabilityConfig"

/-- The shape of all settings. -/
def decoder : Decoder Settings :=
  (Fields.done Settings.mk
    |>.and (.withDefault "server" Server.decoder {})
    |>.and (.withDefault "logging" Log.decoder {})
    |>.and (.withDefault "llm" LanguageModel.decoder {})
    |>.and (.withDefault "agent" Agent.decoder {})
    |>.and (.withDefault "observability" observabilityDecoder {})).decoder "struct AppConfig"

end Errand.Settings
