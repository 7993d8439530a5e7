import Sinkhole.Config.Validation
import Sinkhole.Toml.Reader

/-! # Reading settings

Settings are a TOML document. Unknown keys are refused and missing ones take their defaults. A
group of settings may also be an array of its values in their order, and a choice may be a table
with the choice as its only key.
-/
namespace Sinkhole.Settings

open Toml (Value)

abbrev Reads (α : Type) := Value → Option α

def readBool : Reads Bool
  | .boolean value => some value
  | _ => none

def readNat : Reads Nat
  | .integer value => if value < 0 then none else some value.toNat
  | _ => none

def readText : Reads String
  | .text text => some text
  | _ => none

def readList {α : Type} (read : Reads α) : Reads (List α)
  | .array items => items.mapM read
  | .tables items => items.mapM read
  | _ => none

def readParsed {α : Type} (parse? : String → Option α) : Reads α
  | .text text => parse? text
  | _ => none

def isEmptyValue : Value → Bool
  | .array [] => true
  | .tables [] => true
  | .table _ [] => true
  | _ => false

def readChoice {α : Type} (choices : List (String × α)) : Reads α
  | .text text => choices.lookup text
  | .table _ [(name, value)] => if isEmptyValue value then choices.lookup name else none
  | _ => none

structure Setting (γ : Type) where
  key : String
  set : Value → γ → Option γ

def setting {γ α : Type} (key : String) (read : Reads α) (put : α → γ → γ) : Setting γ :=
  ⟨key, fun value group => (read value).map fun a => put a group⟩

def applyEntry {γ : Type} (settings : List (Setting γ)) (group : γ) (entry : String × Value) :
    Option γ := do
  let setting ← settings.find? (·.key == entry.1)
  setting.set entry.2 group

def applyItem {γ : Type} (group : γ) (item : Setting γ × Value) : Option γ :=
  item.1.set item.2 group

def readGroup {γ : Type} (settings : List (Setting γ)) (default : γ) : Reads γ
  | .table _ entries => entries.foldlM (applyEntry settings) default
  | .array items => (settings.zip items).foldlM applyItem default
  | .tables items => (settings.zip items).foldlM applyItem default
  | _ => none

def dateTimeKey : String := "$__toml_private_datetime"

/-- A table of texts, in the order of its keys. A date or a time passes for one with its text. -/
def readTextTable : Reads (List (String × String))
  | .table _ entries => do
    let pairs ← entries.mapM fun entry => (readText entry.2).map fun text => (entry.1, text)
    pure (pairs.mergeSort fun a b => a.1 ≤ b.1)
  | .dateTime value => some [(dateTimeKey, value.text)]
  | _ => none

def exclusionChoices : List (String × SystemAppExclusion) :=
  [("none", .none), ("all", .all), ("all_except_browsers", .allExceptBrowsers)]

def modeChoices : List (String × ForwardingMode) := [("udp", .udp), ("doh", .doh)]

def forwardingGroup : List (Setting ForwardingSettings) := [
  setting "mode" (readChoice modeChoices) fun a s => { s with mode := a },
  setting "url" readText fun a s => { s with url := a },
  setting "bootstrap" (readList (readParsed IpAddress.parse?)) fun a s => { s with bootstrap := a },
  setting "timeout_secs" readNat fun a s => { s with timeoutSeconds := a }]

def ruleGroup : List (Setting RuleLists) := [
  setting "blocked" (readList readText) fun a s => { s with blocked := a },
  setting "allowed" (readList readText) fun a s => { s with allowed := a },
  setting "redirected" readTextTable fun a s => { s with redirected := a }]

def metricsGroup : List (Setting MetricsSettings) := [
  setting "enabled" readBool fun a s => { s with enabled := a },
  setting "listen" (readParsed SocketAddress.parse?) fun a s => { s with listen := a }]

def mainGroup : List (Setting Settings) := [
  setting "ipv6_enabled" readBool fun a s => { s with ipv6Enabled := a },
  setting "watchdog_enabled" readBool fun a s => { s with watchdogEnabled := a },
  setting "excluded_apps" (readList readText) fun a s => { s with excludedApps := a },
  setting "excluded_system_apps" (readChoice exclusionChoices)
    fun a s => { s with excludedSystemApps := a },
  setting "buffer_pool_size" readNat fun a s => { s with bufferPoolSize := a },
  setting "completion_channel_capacity" readNat fun a s => { s with completionCapacity := a },
  setting "cache_capacity" readNat fun a s => { s with cacheCapacity := a },
  setting "upstream" (readGroup forwardingGroup {}) fun a s => { s with forwarding := a },
  setting "rules" (readGroup ruleGroup {}) fun a s => { s with rules := a },
  setting "metrics" (readGroup metricsGroup {}) fun a s => { s with metrics := a }]

def read? (text : String) : Option Settings := do
  let entries ← Toml.parse? text
  readGroup mainGroup {} (.table .header entries)

def parse (text : String) : Except Error Settings :=
  match read? text with
  | none => .error (.config .parse)
  | some settings =>
    match settings.fault? with
    | some fault => .error (.config (.validation fault))
    | none => .ok settings

/-- The settings in a file's octets. Without octets there is no such file. -/
def load (content : Option Bytes) : Except Error Settings :=
  match content with
  | none => .error (.config (.unreadable (.system 2)))
  | some octets =>
    match String.fromUTF8? ⟨octets.toArray⟩ with
    | none => .error (.config (.unreadable (.other "stream did not contain valid UTF-8")))
    | some text => parse text

end Sinkhole.Settings
