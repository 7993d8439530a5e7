import Sinkhole.Lifecycle.Worker
import Sinkhole.Proofs.Proxy.Decision

/-! # What can go wrong in a session

Each part of a session has few errors of its own, and none of them is final: a tunnel that cannot be
configured or brought up, a server that cannot be reached, a tunnel that does not take a packet, and
a probe that was not sent or not answered.
-/
namespace Sinkhole

variable {ρ κ : Type} {error : Error}

namespace ServerMap

theorem exists_io_of_addServers {builder : Builder} {servers : List IpAddress} {map : ServerMap}
    {trace : BuilderTrace} (h : (addServers builder servers map trace).1 = .error error) :
    ∃ cause, error = .io cause := by
  induction servers generalizing map trace with
  | nil => cases h
  | cons server rest ih =>
    rw [addServers] at h
    split at h
    · exact ih h
    · split at h
      · cases h
        exact ⟨_, rfl⟩
      · split at h
        · cases h
          exact ⟨_, rfl⟩
        · exact ih h

theorem isRecoverable_of_configure {builder : Builder} {servers : List IpAddress}
    {ipv6Enabled : Bool} (h : (configure builder servers ipv6Enabled).1 = .error error) :
    error.isRecoverable = true := by
  rw [configure] at h
  split at h
  · cases h
    rfl
  · obtain ⟨cause, rfl⟩ := exists_io_of_addServers h
    rfl

end ServerMap

theorem isRecoverable_of_establish {platform : Platform} {settings : Settings}
    (h : (establish (ρ := ρ) platform settings).1 = .error error) :
    error.isRecoverable = true := by
  simp only [establish] at h
  have hservers (refused : Error) (hrefused : (ServerMap.configure platform.builder
      (discoverServers platform.networks) settings.ipv6Enabled).1 = .error refused) :
      refused.isRecoverable = true := ServerMap.isRecoverable_of_configure hrefused
  generalize ServerMap.configure platform.builder (discoverServers platform.networks)
    settings.ipv6Enabled = configured at h hservers
  rcases configured with ⟨refused | servers, trace⟩
  · cases h
    exact hservers _ rfl
  · dsimp only at h
    split at h
    · cases h
      rfl
    · cases h

namespace Forwarder

theorem exists_unreachable_of_forwardUdp {path : UdpPath} {now : Nat} {query : ForwardedQuery ρ}
    {session : SessionState ρ} {state : Unit}
    (h : (forwardUdp path now query session state).result = .error error) :
    ∃ cause, error = .network (.unreachable cause) := by
  simp only [forwardUdp] at h
  split at h
  · cases h
  · split at h
    · cases h
      exact ⟨_, rfl⟩
    · cases h
  · split at h <;> cases h

theorem exists_unreachable_of_resolve {path : UdpPath} {now : Nat} {query : ForwardedQuery ρ}
    {session : SessionState ρ} {forwarder : Forwarder}
    (h : (Forwarder.resolve path now query session forwarder).result = .error error) :
    ∃ cause, error = .network (.unreachable cause) := by
  cases forwarder with
  | udp => exact exists_unreachable_of_forwardUdp h
  | https resolver =>
    simp only [resolve, HttpsResolver.resolve] at h
    split at h
    · simp only [HttpsResolver.start] at h
      split at h <;> cases h
    · exact exists_unreachable_of_forwardUdp h

end Forwarder

theorem exists_unreachable_of_handlePacket {classify : Classifier κ} {path : UdpPath} {now : Nat}
    {packet : Bytes} {session : SessionState Flow} {classifier : κ} {forwarder : Forwarder}
    (h : (handlePacket classify (Forwarder.resolve path now) packet session classifier
      forwarder).result = .error error) : ∃ cause, error = .network (.unreachable cause) := by
  have hcases := handlePacket_cases classify (Forwarder.resolve path now) packet session classifier
    forwarder
  generalize hostsAsked classify _ packet session classifier forwarder = hosts at hcases
  generalize resolverCalls classify _ packet session classifier forwarder = calls at hcases
  generalize handlePacket classify _ packet session classifier forwarder = handled at hcases h
  cases hcases with
  | dropped _ _ => cases h
  | keptAlive _ =>
    rw [map_const_eq_error_iff] at h
    exact Forwarder.exists_unreachable_of_resolve h
  | answered _ _ _ => cases h
  | @forwarded request next _ _ =>
    rw [(forwardRequest_fields (Forwarder.resolve path now) session next forwarder request).2.2.2,
      map_const_eq_error_iff] at h
    exact Forwarder.exists_unreachable_of_resolve h

theorem exists_tunnelWrite_of_flush {session : SessionState ρ} {writer : TunnelWriter} {count : Nat}
    (h : (session.flush writer count).2.error? = some error) :
    ∃ cause, error = .network (.tunnelWrite cause) := by
  obtain ⟨cause, -, rfl⟩ := Option.map_eq_some_iff.1 h
  exact ⟨cause, rfl⟩

theorem Watchdog.isRecoverable_of_idleTimeout {watchdog : Watchdog} {now : Nat}
    {send : Endpoint → Option IoError}
    (h : (watchdog.idleTimeout now send).failure = some error) : error.isRecoverable = true := by
  simp only [idleTimeout, timeout] at h
  split at h
  · cases h
  · cases h
  · split at h
    · cases h
      rfl
    · split at h
      · cases h
        rfl
      · cases h

end Sinkhole
