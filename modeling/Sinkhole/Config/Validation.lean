import Sinkhole.Config.Settings
import Sinkhole.Error

/-! # Acceptable settings

Sizes have to be positive, DNS over HTTPS needs a secure endpoint and an address for it, patterns
must not be empty and wildcards must say what they stand in front of. The first fault found, in a
fixed order, is the one reported.
-/
namespace Sinkhole

def patternFault? (pattern : String) : Option ValidationError :=
  match pattern.toList with
  | [] => some .emptyHostPattern
  | ['*', '.'] => some (.invalidWildcardPattern pattern)
  | _ => none

def redirectFault? (redirect : String × String) : Option ValidationError :=
  if (Text.trim redirect.2).isEmpty then some (.emptyRedirectTarget redirect.1) else none

namespace Settings

def hasSecureUrl (settings : ForwardingSettings) : Bool :=
  "https://".toList.isPrefixOf settings.url.toList

def forwardingFault? (settings : ForwardingSettings) : Option ValidationError :=
  if settings.mode != .doh then none
  else if !hasSecureUrl settings then some (.invalidDohUrl settings.url)
  else if settings.bootstrap.isEmpty then some .emptyBootstrap
  else none

def sizeFault? (settings : Settings) : Option ValidationError :=
  if settings.bufferPoolSize = 0 then some .zeroBufferPoolSize
  else if settings.completionCapacity = 0 then some .zeroCompletionCapacity
  else if settings.cacheCapacity = 0 then some .zeroCacheCapacity
  else if settings.forwarding.timeoutSeconds = 0 then some .zeroForwardingTimeout
  else none

def patterns (settings : Settings) : List String :=
  settings.rules.blocked ++ settings.rules.allowed ++ settings.rules.redirected.map (·.1)

def fault? (settings : Settings) : Option ValidationError :=
  settings.sizeFault?.or <| (forwardingFault? settings.forwarding).or <|
    (settings.patterns.findSome? patternFault?).or <|
      settings.rules.redirected.findSome? redirectFault?

def validate (settings : Settings) : Except Error Unit :=
  match settings.fault? with
  | some fault => .error (.config (.validation fault))
  | none => .ok ()

end Settings

end Sinkhole
