import TodoPromo.Launch.Preparation
import TodoPromo.Proofs.Config.Sources
import TodoPromo.Proofs.Net.WrittenAddresses

/-! # Hosts that are addresses

Host and port are put together with a colon between them and read as one text. So an address of the fourth
version is a host, and one of the sixth version is a host in brackets only, since its own colons run into
the one before the port (`listens_on`). Whatever the host is, the port is never taken for another one. -/

namespace TodoPromo.Launch

open Net (IpAddress SocketAddress)

theorem address_eq_ok {host : String} {port : UInt16} {a : SocketAddress} :
    address host port = .ok a ↔ SocketAddress.parse? s!"{host}:{port}" = some a := by
  unfold address
  cases SocketAddress.parse? s!"{host}:{port}" with
  | none => simp
  | some a' => simp

theorem address_error {host : String} {port : UInt16} (h : SocketAddress.parse? s!"{host}:{port}" = none) :
    address host port = .error (.badAddress host port) := by
  unfold address
  rw [h]

theorem checked_host {given c : Config} (h : given.checked = .ok c) {x : Char} (hx : x ∈ given.host.toList)
    (hblank : Text.isBlank x = false) (service : Service) :
    c.host = given.host ∧ service.port c = service.port given := by
  obtain ⟨rfl, -⟩ := Config.checked_eq_ok.mp h
  have hhost : Text.allBlank given.host = false := by
    unfold Text.allBlank
    rw [List.all_eq_false]
    exact ⟨x, hx, by rw [hblank]; exact Bool.false_ne_true⟩
  refine ⟨?_, ?_⟩
  · unfold Config.normalize
    rw [hhost]
    rfl
  · cases service with
    | todo => rfl
    | promo => rfl

/-- With a configuration that was checked, a service listens on the address of the fourth version that its
host is, in standard form, and on its own port; an address of the sixth version must be in brackets, and is
no host as it stands. Whenever there is an address to listen on, it has the port that was asked for, and
the host has no colon, or is in brackets. -/
theorem listens_on {given c : Config} (hchecked : given.checked = .ok c) (service : Service) :
    (∀ x y z w, given.host = (IpAddress.v4 x y z w).write →
      address c.host (service.port c) = .ok ⟨.v4 x y z w, 0, service.port given⟩) ∧
    (∀ gs, gs.length = 8 →
      (given.host = (IpAddress.v6 gs).bracketed →
        address c.host (service.port c) = .ok ⟨.v6 gs, 0, service.port given⟩) ∧
      (given.host = (IpAddress.v6 gs).write → address c.host (service.port c) =
        .error (.badAddress (IpAddress.v6 gs).write (service.port given)))) ∧
    ∀ host port a, address host port = .ok a → a.port = port ∧
      (':' ∉ host.toList ∨ ∃ inside, host.toList = '[' :: inside ++ [']']) := by
  refine ⟨fun x y z w hgiven => ?_, fun gs hlength => ⟨fun hgiven => ?_, fun hgiven => ?_⟩,
    fun host port a h => SocketAddress.parse?_hostPort (address_eq_ok.mp h)⟩
  · have hpoint : '.' ∈ given.host.toList := by
      rw [hgiven]
      simp [IpAddress.write, IpAddress.writeV4]
    obtain ⟨hhost, hport⟩ := checked_host hchecked hpoint (by decide) service
    rw [hhost, hport, hgiven, address_eq_ok]
    exact SocketAddress.parse?_v4 x y z w _
  · have hbracket : '[' ∈ given.host.toList := by
      rw [hgiven]
      simp [IpAddress.bracketed]
    obtain ⟨hhost, hport⟩ := checked_host hchecked hbracket (by decide) service
    rw [hhost, hport, hgiven, address_eq_ok]
    exact SocketAddress.parse?_v6 hlength _
  · have hcolon : ':' ∈ given.host.toList := by
      rw [hgiven, IpAddress.write, String.toList_ofList]
      exact (IpAddress.mem_writeV6 hlength).1
    obtain ⟨hhost, hport⟩ := checked_host hchecked hcolon (by decide) service
    rw [hhost, hport, hgiven]
    exact address_error (SocketAddress.parse?_unbracketed hlength _)

theorem listens_on_bracketed :
    let given : Config := { Config.default with host := "[2001:db8::ff]", workerThreads := none }
    let c : Config := { given with workerThreads := some 4 }
    given.checked = .ok c ∧ given.host = (IpAddress.v6 [0x2001, 0xDB8, 0, 0, 0, 0, 0, 0xFF]).bracketed ∧
      address c.host c.promoPort = .ok ⟨.v6 [0x2001, 0xDB8, 0, 0, 0, 0, 0, 0xFF], 0, 8082⟩ := by
  intro given c
  have hchecked : given.checked = .ok c := by decide +kernel
  have hhost : given.host = (IpAddress.v6 [0x2001, 0xDB8, 0, 0, 0, 0, 0, 0xFF]).bracketed := by decide +kernel
  obtain ⟨-, hv6, -⟩ := listens_on hchecked .promo
  exact ⟨hchecked, hhost, (hv6 _ rfl).1 hhost⟩

/-- The loopback address of the sixth version is refused as it stands, by a configuration that was
checked. -/
theorem loopback_refused :
    let given : Config := { Config.default with host := "::1" }
    given.host = (IpAddress.v6 [0, 0, 0, 0, 0, 0, 0, 1]).write ∧ given.checked = .ok given ∧
      address given.host given.todoPort = .error (.badAddress "::1" 8081) ∧
      address given.host given.todoPort ≠ .ok ⟨.v6 [0, 0, 0, 0, 0, 0, 0, 1], 0, 8081⟩ := by
  decide +kernel

end TodoPromo.Launch
