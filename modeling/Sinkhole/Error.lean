import Sinkhole.Address.Printer
import Sinkhole.Error.System
import Sinkhole.Text.Quoted

/-! # Errors

Every failure is one of these causes. `Error.message` is its text, and `Error.isRecoverable` says
whether the engine may tear the session down and try again: only settings and metrics failures
are permanent, the missing IPv4 block apart.
-/
namespace Sinkhole

inductive ValidationError where
  | zeroBufferPoolSize
  | zeroCompletionCapacity
  | zeroCacheCapacity
  | zeroForwardingTimeout
  | invalidDohUrl (url : String)
  | emptyBootstrap
  | emptyHostPattern
  | invalidWildcardPattern (pattern : String)
  | emptyRedirectTarget (host : String)
deriving DecidableEq, Repr

inductive ConfigError where
  | unreadable (cause : IoError)
  | parse
  | validation (cause : ValidationError)
  | noIpv4Subnet
deriving DecidableEq, Repr

inductive NetworkError where
  | tunnelClosed
  | tunnelWrite (cause : IoError)
  | poll (cause : IoError)
  | unreachable (cause : IoError)
  | sendFailed (text : String)
  | packetConstruction (text : String)
  | watchdogTimeout (target : IpAddress)
  | doh (text : String)
deriving DecidableEq, Repr

inductive Error where
  | config (cause : ConfigError)
  | network (cause : NetworkError)
  | resolver (text : String)
  | io (cause : IoError)
  | metrics (text : String)
deriving DecidableEq, Repr

def ValidationError.message : ValidationError → String
  | zeroBufferPoolSize => "buffer_pool_size must be greater than 0"
  | zeroCompletionCapacity => "completion_channel_capacity must be greater than 0"
  | zeroCacheCapacity => "cache_capacity must be greater than 0"
  | zeroForwardingTimeout => "upstream.timeout_secs must be greater than 0"
  | invalidDohUrl url =>
    "upstream.url must start with https:// when DNS-over-HTTPS is enabled: " ++ Text.quoted url
  | emptyBootstrap => "upstream.bootstrap cannot be empty when DNS-over-HTTPS is enabled"
  | emptyHostPattern => "host pattern cannot be empty"
  | invalidWildcardPattern pattern => "invalid wildcard pattern: " ++ Text.quoted pattern
  | emptyRedirectTarget host =>
    "redirect target for " ++ Text.quoted host ++ " cannot be empty"

def ConfigError.message : ConfigError → String
  | unreadable cause => "failed to read config file: " ++ cause.message
  | parse => "failed to parse config"
  | validation cause => "validation failed: " ++ cause.message
  | noIpv4Subnet => "failed to add any IPv4 documentation address to the tunnel interface"

def NetworkError.message : NetworkError → String
  | tunnelClosed => "tunnel interface closed"
  | tunnelWrite cause => "failed to write to tunnel: " ++ cause.message
  | poll cause => "failed to wait for tunnel events: " ++ cause.message
  | unreachable cause => "cannot reach upstream DNS server: " ++ cause.message
  | sendFailed text => "failed to send packet: " ++ text
  | packetConstruction text => "packet construction failed: " ++ text
  | watchdogTimeout target => "watchdog timed out waiting for " ++ target.toText
  | doh text => "DNS-over-HTTPS request failed: " ++ text

namespace Error

def message : Error → String
  | config cause => "configuration error: " ++ cause.message
  | network cause => "network error: " ++ cause.message
  | resolver text => "resolver error: " ++ text
  | io cause => "I/O error: " ++ cause.message
  | metrics text => "metrics error: " ++ text

/-- Whether a new session may be tried after the failure. -/
def isRecoverable : Error → Bool
  | config .noIpv4Subnet => true
  | config _ => false
  | metrics _ => false
  | network _ => true
  | resolver _ => true
  | io _ => true

end Error

end Sinkhole
