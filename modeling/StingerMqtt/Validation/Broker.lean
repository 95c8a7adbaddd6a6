import Mathlib.Logic.Function.Basic
import StingerMqtt.Kit.TSys
import StingerMqtt.Kit.Split

/-!
# Test brokers (`validation/broker.rs`)

`BrokerConfig` and `TestBroker::start`, which writes a configuration file, spawns
`rumqttd` on it and waits. Any number of starts run at once; all of them use the
one file at `/tmp/rumqttd_test_config.toml`. A step is one access to the file
system, the spawn, or the moment at which a spawned process reads the file.
-/

namespace StingerMqtt

open Kit

/-- What the standard library and the file system say about paths: the text a
path is displayed as, and whether it leads to the configuration file. -/
structure PathLibrary where
  PathBuf : Type
  display : PathBuf → String
  leadsToConfig : PathBuf → Bool

/-- `BrokerTransport`. -/
inductive BrokerTransport (L : PathLibrary) where
  | tcp (host : String) (port : UInt16)
  | unix (path : L.PathBuf)

/-- `BrokerConfig`. The timeout is in nanoseconds. -/
structure BrokerConfig (L : PathLibrary) where
  transport : BrokerTransport L
  startupTimeout : Nat

namespace BrokerConfig

variable {L : PathLibrary}

/-- `BrokerConfig::tcp`. -/
def tcp (host : String) (port : UInt16) : BrokerConfig L where
  transport := .tcp host port
  startupTimeout := 5000000000

/-- `BrokerConfig::unix`. -/
def unix (path : L.PathBuf) : BrokerConfig L where
  transport := .unix path
  startupTimeout := 5000000000

/-- `mqtt_uri`. -/
def mqttUri (config : BrokerConfig L) : String :=
  match config.transport with
  | .tcp host port => "mqtt://" ++ host ++ ":" ++ toString port.toNat
  | .unix path => "mqtt+unix://" ++ L.display path

/-- The `listener_config` of `TestBroker::start`. -/
def listenerConfig (config : BrokerConfig L) : String :=
  match config.transport with
  | .tcp host port =>
    "[v5.1.listeners.tcp1]\nname = \"tcp1\"\nport = " ++ toString port.toNat ++
      "\nbind = \"" ++ host ++ "\"\nmax_connections = 1000\n"
  | .unix path =>
    "[v5.1.listeners.unix1]\nname = \"unix1\"\npath = \"" ++ L.display path ++
      "\"\nmax_connections = 1000\n"

/-- What stands before the listener in the configuration. -/
def configPreamble : String :=
  "\n[v5]\nconsole_logs = false\n\n" ++
  "[v5.1.router]\nmax_segment_size = 10240\nmax_segment_count = 10\n\n" ++
  "[v5.1.connections.1]\nconnection_timeout_ms = 60000\nmax_client_id_len = 256\n" ++
  "throttle_delay_ms = 0\nmax_payload_size = 20480\nmax_inflight_count = 500\n" ++
  "max_inflight_size = 1024\n\n"

/-- The `config_content` of `TestBroker::start`. -/
def configContent (config : BrokerConfig L) : String :=
  configPreamble ++ config.listenerConfig ++ "\n"

end BrokerConfig

/-- The number of a call of `TestBroker::start`, and of the process it spawns. -/
abbrev StartId : Type := Nat

/-- `TestBroker`. -/
structure TestBroker (L : PathLibrary) where
  process : StartId
  config : BrokerConfig L

/-- `TestBroker::mqtt_uri`. -/
def TestBroker.mqttUri {L : PathLibrary} (broker : TestBroker L) : String :=
  broker.config.mqttUri

/-! ## Calls of `TestBroker::start` -/

/-- Where a call is. -/
inductive StartPc (L : PathLibrary) where
  | preparing
  | writing
  | spawning
  | starting
  | returned (result : Except String (TestBroker L))

/-- The configuration file, the calls, and what the process of each call has
read: `none` as long as it has not, `some none` if there was no file. -/
structure Starters (L : PathLibrary) where
  configFile : Option String
  pcs : StartId → StartPc L
  reads : StartId → Option (Option String)

/-- What can happen. -/
inductive StartLabel where
  | prepare (call : StartId)
  | createFailed (call : StartId) (error : String)
  | removeFailed (call : StartId) (error : String)
  | write (call : StartId)
  | writeFailed (call : StartId) (error : String) (left : Option String)
  | spawn (call : StartId)
  | spawnFailed (call : StartId) (error : String)
  | read (call : StartId)
  | ret (call : StartId)
  deriving DecidableEq

namespace Starters

variable {L : PathLibrary}

/-- Nobody has called; the file may have been left by somebody. -/
def new (configFile : Option String) : Starters L where
  configFile := configFile
  pcs _ := .preparing
  reads _ := none

variable (configs : StartId → BrokerConfig L) (s : Starters L)

/-- Call `n` goes on at `pc`. -/
def goto (n : StartId) (pc : StartPc L) : Starters L :=
  { s with pcs := Function.update s.pcs n pc }

/-- Call `n` fails. -/
def fail (n : StartId) (text : String) : Starters L := s.goto n (.returned (.error text))

/-- What is at the path of the configuration file after whatever was at the path
of a socket has been removed. -/
def fileAfterPrepare (config : BrokerConfig L) : Option String :=
  match config.transport with
  | .tcp _ _ => s.configFile
  | .unix path => if L.leadsToConfig path then none else s.configFile

/-- What the state becomes; `none` if that cannot happen in it. -/
def advance : StartLabel → Option (Starters L)
  | .prepare n =>
    match s.pcs n with
    | .preparing => some ({ s with configFile := s.fileAfterPrepare (configs n) }.goto n .writing)
    | _ => none
  | .createFailed n error =>
    match s.pcs n, (configs n).transport with
    | .preparing, .unix _ => some (s.fail n ("Failed to create socket directory: " ++ error))
    | _, _ => none
  | .removeFailed n error =>
    match s.pcs n, (configs n).transport with
    | .preparing, .unix _ => some (s.fail n ("Failed to remove existing socket: " ++ error))
    | _, _ => none
  | .write n =>
    match s.pcs n with
    | .writing => some ({ s with configFile := some (configs n).configContent }.goto n .spawning)
    | _ => none
  | .writeFailed n error left =>
    -- whatever the failed write has left at the path
    match s.pcs n with
    | .writing =>
      some ({ s with configFile := left }.fail n ("Failed to write broker config: " ++ error))
    | _ => none
  | .spawn n =>
    match s.pcs n with
    | .spawning => some (s.goto n .starting)
    | _ => none
  | .spawnFailed n error =>
    match s.pcs n with
    | .spawning => some (s.fail n ("Failed to start rumqttd: " ++ error ++ ". Is it installed?"))
    | _ => none
  | .read n =>
    match s.pcs n, s.reads n with
    | .starting, none => some { s with reads := Function.update s.reads n (some s.configFile) }
    | _, _ => none
  | .ret n =>
    -- the startup timeout is over; the process has read its configuration before
    match s.pcs n, s.reads n with
    | .starting, some _ => some (s.goto n (.returned (.ok ⟨n, configs n⟩)))
    | _, _ => none

end Starters

/-- Calls of `TestBroker::start`, call `n` with the configuration `configs n`. -/
def starters {L : PathLibrary} (configs : StartId → BrokerConfig L) :
    TSys (Starters L) StartLabel where
  init s := ∃ configFile, s = .new configFile
  step s l s' := s.advance configs l = some s'

/-- A run of `starters` from its list of steps. -/
theorem Starters.runAll_trace {L : PathLibrary} (configs : StartId → BrokerConfig L)
    (configFile : Option String) (tr : List StartLabel) {s : Starters L}
    (h : TSys.runAll (advance configs) (.new configFile) tr = some s) :
    (starters configs).Trace tr s :=
  ⟨_, ⟨configFile, rfl⟩, TSys.runAll_run (fun _ _ _ hstep => hstep) h⟩

end StingerMqtt
