import Signalgrid.Settings.Basic
import Signalgrid.Json.Decode

set_option autoImplicit false

namespace Signalgrid

namespace SensorKind

def decode : Decoder SensorKind := Decode.choice (all.map fun k => (k.label, k))

end SensorKind

namespace Sensor

def decode : Decoder Sensor :=
  Decode.record "struct SensorConfig" <|
    Decode.Fields.of Sensor.mk
      |>.needs "sensor_id" Decode.string
      |>.needs "kind" SensorKind.decode
      |>.needs "intersection" Decode.string

end Sensor

namespace Settings

open Decode

def path : Decoder String := textOf "path string"

def backend : Decoder Backend := choice [("memory", .memory), ("sqlite", .tables)]

def decodeGrid : Decoder (List String × List Nat) :=
  let d : Settings := {}
  record "struct GridConfig" <|
    Fields.of Prod.mk |>.orElse "rows" (list string) d.rows |>.orElse "columns" (list u32) d.columns

def decodeThresholds : Decoder Thresholds :=
  let d : Thresholds := {}
  record "struct RuleConfig" <|
    Fields.of Thresholds.mk
      |>.orElse "normal_q_max" u32 d.normalQueueMax
      |>.orElse "normal_vp_min" number d.normalSpeedMin
      |>.orElse "congestion_q_min" u32 d.congestionQueueMin
      |>.orElse "congestion_vp_max" number d.congestionSpeedMax

def decodeTimings : Decoder Timings :=
  let d : Timings := {}
  record "struct TimingConfig" <|
    Fields.of Timings.mk
      |>.orElse "normal_cycle_sec" u64 d.cycleSeconds
      |>.orElse "congestion_extension_sec" u64 d.extensionSeconds
      |>.orElse "green_wave_duration_sec" u64 d.waveSeconds
      |>.orElse "health_check_interval_sec" u64 d.probeSeconds
      |>.orElse "health_check_timeout_ms" u64 d.probeTimeoutMillis
      |>.orElse "health_check_max_retries" u32 d.probeRetries
      |>.orElse "sweep_interval_ms" u64 d.sweepMillis

def decodeIngest : Decoder IngestSettings :=
  let d : IngestSettings := {}
  record "struct IngestConfig" <|
    Fields.of IngestSettings.mk
      |>.orElse "relay_addr" (option string) d.relay
      |>.orElse "reconnect_backoff_ms" u64 d.backoffMillis
      |>.orElse "topics" (list string) d.topics

def decodeGateway : Decoder GatewaySettings :=
  let d : GatewaySettings := {}
  record "struct GatewayConfig" <|
    Fields.of GatewaySettings.mk
      |>.orElse "bind" string d.bind
      |>.orElse "request_timeout_ms" u64 d.timeoutMillis

def decodeReplica : Decoder ReplicaSettings :=
  let d : ReplicaSettings := {}
  record "struct ReplicaStoreConfig" <|
    Fields.of ReplicaSettings.mk
      |>.orElse "backend" backend d.backend
      |>.orElse "path" path d.path

def decodePrimary : Decoder PrimarySettings :=
  let d : PrimarySettings := {}
  record "struct PrimaryStoreConfig" <|
    Fields.of PrimarySettings.mk
      |>.orElse "addr" string d.address
      |>.orElse "heartbeat_addr" string d.heartbeat
      |>.orElse "request_timeout_ms" u64 d.timeoutMillis
      |>.orElse "queue_depth" size d.queueDepth

def decodeStorage : Decoder (ReplicaSettings × PrimarySettings) :=
  record "struct StorageConfig" <|
    Fields.of Prod.mk
      |>.orElse "replica" decodeReplica {}
      |>.orElse "primary" decodePrimary {}

def decodeHost : Decoder HostSettings :=
  let d : HostSettings := {}
  record "struct StoreServerConfig" <|
    Fields.of HostSettings.mk
      |>.orElse "bind" string d.bind
      |>.orElse "heartbeat_bind" string d.heartbeat
      |>.orElse "backend" backend d.backend
      |>.orElse "path" path d.path

def decodeTelemetry : Decoder TelemetrySettings :=
  record "struct TelemetryConfig" <|
    Fields.of TelemetrySettings.mk
      |>.mayHave "log_level" string
      |>.mayHave "metrics_bind" string

def assemble (grid : List String × List Nat) (sensors : List Sensor) (thresholds : Thresholds)
    (timings : Timings) (ingest : IngestSettings) (gateway : GatewaySettings)
    (storage : ReplicaSettings × PrimarySettings) (host : HostSettings)
    (telemetry : TelemetrySettings) : Settings :=
  ⟨grid.1, grid.2, sensors, thresholds, timings, ingest, gateway, storage.1, storage.2, host, telemetry⟩

def decode : Decoder Settings :=
  let d : Settings := {}
  record "struct Config" <|
    Fields.of assemble
      |>.orElse "grid" decodeGrid (d.rows, d.columns)
      |>.orElse "sensors" (list Sensor.decode) []
      |>.orElse "rules" decodeThresholds {}
      |>.orElse "timings" decodeTimings {}
      |>.orElse "ingest" decodeIngest {}
      |>.orElse "gateway" decodeGateway {}
      |>.orElse "storage" decodeStorage ({}, {})
      |>.orElse "store_server" decodeHost {}
      |>.orElse "telemetry" decodeTelemetry {}

end Settings

end Signalgrid
