import Lockstep.Network
import Mathlib.Data.List.Perm.Subperm
import Mathlib.Data.List.Nodup

/-!
# Sockets of one host

A host that has not opened a socket for every port finds a free one, and a socket that it opens
there shares its port with nobody who could get what is meant for it. So an answer to wherever a
datagram seems to come from reaches the socket that it was sent from.
-/

namespace Lockstep

namespace Ip

theorem localhost_specific (family : Family) :
    (localhost family).isUnspecified = false ∧ (localhost family).family = family := by
  cases family <;> decide

theorem ownAddress_specific (family : Family) :
    (ownAddress family).isUnspecified = false ∧ (ownAddress family).family = family := by
  cases family <;> decide

theorem family_unspecified (family : Family) : (unspecified family).family = family := by
  cases family <;> rfl

theorem isLocal_unspecified (family : Family) : (unspecified family).isLocal = true := by
  cases family <;> decide

end Ip

namespace SocketAddress

variable {first second socket destination : SocketAddress}

theorem overlaps_iff : first.overlaps second = true ↔
    first.port = second.port ∧ first.ip.family = second.ip.family ∧
      (first.ip = second.ip ∨ first.ip.isUnspecified = true ∨ second.ip.isUnspecified = true) := by
  simp only [overlaps, Bool.and_eq_true, Bool.or_eq_true, decide_eq_true_eq, and_assoc, or_assoc]

theorem overlaps_symm (h : first.overlaps second = true) : second.overlaps first = true := by
  rw [overlaps_iff] at h ⊢
  obtain ⟨hport, hfamily, hip⟩ := h
  refine ⟨hport.symm, hfamily.symm, ?_⟩
  rcases hip with hip | hip | hip
  · exact .inl hip.symm
  · exact .inr (.inr hip)
  · exact .inr (.inl hip)

theorem overlaps_self (socket : SocketAddress) : socket.overlaps socket = true :=
  overlaps_iff.mpr ⟨rfl, rfl, .inl rfl⟩

theorem sourceFor_of_specific (h : socket.ip.isUnspecified = false) :
    socket.sourceFor destination = socket := by
  rw [sourceFor, h, if_neg Bool.false_ne_true]

/-- A datagram never seems to come from everywhere. -/
theorem sourceFor_of_unspecified (h : socket.ip.isUnspecified = true)
    (destination : SocketAddress) :
    (socket.sourceFor destination).ip.isUnspecified = false ∧
      (socket.sourceFor destination).ip.family = socket.ip.family ∧
      (socket.sourceFor destination).port = socket.port := by
  rw [sourceFor, if_pos h]
  dsimp only
  split
  · exact ⟨(Ip.localhost_specific _).1, (Ip.localhost_specific _).2, rfl⟩
  · exact ⟨(Ip.ownAddress_specific _).1, (Ip.ownAddress_specific _).2, rfl⟩

theorem family_sourceFor (socket destination : SocketAddress) :
    (socket.sourceFor destination).ip.family = socket.ip.family := by
  cases hip : socket.ip.isUnspecified with
  | false => rw [sourceFor_of_specific hip]
  | true => exact (sourceFor_of_unspecified hip destination).2.1

/-- Where a datagram seems to come from depends on the host alone that it is sent to. -/
theorem sourceFor_congr {other : SocketAddress} (h : other.ip = destination.ip) :
    socket.sourceFor other = socket.sourceFor destination := by
  rw [sourceFor, sourceFor, h]

end SocketAddress

namespace Network

variable {network : Network} {ip : Ip} {socket : SocketAddress}

/-! ## Free ports -/

theorem isTaken_iff : network.isTaken socket = true ↔
    ∃ other ∈ network.sockets, other.overlaps socket = true :=
  List.any_eq_true

/-- The search ends at a free port if it comes by one. -/
theorem isTaken_freePort_of_exists {port tries : Nat}
    (h : ∃ index < tries, network.isTaken ⟨ip, UInt16.ofNat (port + index), 0⟩ = false) :
    network.isTaken ⟨ip, UInt16.ofNat (network.freePort ip port tries), 0⟩ = false := by
  induction tries generalizing port with
  | zero =>
    obtain ⟨index, hlt, -⟩ := h
    exact absurd hlt (Nat.not_lt_zero index)
  | succ tries ih =>
    rw [freePort]
    split
    · next htaken =>
      apply ih
      obtain ⟨index, hlt, hfree⟩ := h
      cases index with
      | zero =>
        rw [Nat.add_zero, htaken] at hfree
        cases hfree
      | succ index =>
        refine ⟨index, Nat.lt_of_succ_lt_succ hlt, ?_⟩
        rw [Nat.add_right_comm]
        exact hfree
    · next hfree => exact Bool.eq_false_iff.mpr hfree

/-- Of more ports than there are sockets one is free. -/
theorem exists_free (hroom : network.sockets.length < 65536) (ip : Ip) (port : Nat) :
    ∃ index < network.sockets.length + 1,
      network.isTaken ⟨ip, UInt16.ofNat (port + index), 0⟩ = false := by
  by_contra hnone
  let ports := (List.range (network.sockets.length + 1)).map fun index ↦
    UInt16.ofNat (port + index)
  have hnodup : ports.Nodup := by
    refine List.Nodup.map_on ?_ List.nodup_range
    intro first hfirst second hsecond heq
    have hmod := congrArg UInt16.toNat heq
    simp only [UInt16.toNat_ofNat'] at hmod
    have hfirst := List.mem_range.mp hfirst
    have hsecond := List.mem_range.mp hsecond
    omega
  have hsubset : ports ⊆ network.sockets.map (·.port) := by
    intro taken hmem
    obtain ⟨index, hindex, rfl⟩ := List.mem_map.mp hmem
    have htaken : network.isTaken ⟨ip, UInt16.ofNat (port + index), 0⟩ = true := by
      cases hfree : network.isTaken ⟨ip, UInt16.ofNat (port + index), 0⟩ with
      | true => rfl
      | false => exact absurd ⟨index, List.mem_range.mp hindex, hfree⟩ hnone
    obtain ⟨other, hother, hoverlaps⟩ := isTaken_iff.mp htaken
    exact List.mem_map.mpr ⟨other, hother, (SocketAddress.overlaps_iff.mp hoverlaps).1⟩
  have hlength := (List.subperm_of_subset hnodup hsubset).length_le
  simp only [ports, List.length_map, List.length_range] at hlength
  omega

/-- The network when one more socket is open. -/
def opened (network : Network) (socket : SocketAddress) (nextPort : Nat) : Network :=
  { network with sockets := network.sockets ++ [socket], nextPort }

/-- A socket is opened at a port that nobody else uses. -/
theorem bind_ephemeral (hlocal : ip.isLocal = true) (hroom : network.sockets.length < 65536) :
    ∃ socket nextPort, socket.ip = ip ∧ network.isTaken socket = false ∧
      network.bind ⟨ip, 0, 0⟩ = (.ok socket, network.opened socket nextPort) := by
  refine ⟨⟨ip, UInt16.ofNat
      (network.freePort ip network.nextPort (network.sockets.length + 1)), 0⟩,
    network.freePort ip network.nextPort (network.sockets.length + 1) + 1, rfl,
    isTaken_freePort_of_exists (exists_free hroom ip network.nextPort), ?_⟩
  rw [bind, hlocal, Bool.not_true, if_neg Bool.false_ne_true, if_pos rfl]
  rfl

/-! ## Delivery -/

/-- The socket is open, and no other one that is open could get what is meant for it. -/
structure HasAlone (network : Network) (socket : SocketAddress) : Prop where
  mem : socket ∈ network.sockets
  alone : ∀ other ∈ network.sockets, other.overlaps socket = true → other = socket

theorem hasAlone_of_bind (free : network.isTaken socket = false) {after : Network}
    (h : after.sockets = network.sockets ++ [socket]) : after.HasAlone socket where
  mem := h ▸ List.mem_append_right _ (List.mem_singleton_self socket)
  alone := by
    intro other hother hoverlaps
    rw [h] at hother
    rcases List.mem_append.mp hother with hold | hnew
    · have htaken := isTaken_iff.mpr ⟨other, hold, hoverlaps⟩
      rw [free] at htaken
      cases htaken
    · exact List.mem_singleton.mp hnew

/-- A socket that is alone stays so when another one is opened. -/
theorem HasAlone.of_bind (h : network.HasAlone socket) {other : SocketAddress} {after : Network}
    (free : network.isTaken other = false) (hafter : after.sockets = network.sockets ++ [other]) :
    after.HasAlone socket where
  mem := hafter ▸ List.mem_append_left _ h.mem
  alone := by
    intro found hfound hoverlaps
    rw [hafter] at hfound
    rcases List.mem_append.mp hfound with hold | hnew
    · exact h.alone found hold hoverlaps
    · obtain rfl := List.mem_singleton.mp hnew
      have htaken := isTaken_iff.mpr ⟨socket, h.mem, SocketAddress.overlaps_symm hoverlaps⟩
      rw [free] at htaken
      cases htaken

theorem HasAlone.congr (h : network.HasAlone socket) {after : Network}
    (same : after.sockets = network.sockets) : after.HasAlone socket where
  mem := same ▸ h.mem
  alone other hother := h.alone other (same ▸ hother)

/-- It stays so when another one is closed. -/
theorem HasAlone.close (h : network.HasAlone socket) {other : SocketAddress}
    (hne : socket ≠ other) : (network.close other).HasAlone socket where
  mem := List.mem_filter.mpr ⟨h.mem, decide_eq_true hne⟩
  alone found hfound := h.alone found (List.mem_filter.mp hfound).1

theorem not_mem_of_free (free : network.isTaken socket = false) : socket ∉ network.sockets := by
  intro hmem
  have htaken := isTaken_iff.mpr ⟨socket, hmem, socket.overlaps_self⟩
  rw [free] at htaken
  cases htaken

theorem find?_eq_some_of_unique {sockets : List SocketAddress} {isMeant : SocketAddress → Bool}
    (hmem : socket ∈ sockets) (hmeant : isMeant socket = true)
    (unique : ∀ other ∈ sockets, isMeant other = true → other = socket) :
    sockets.find? isMeant = some socket := by
  cases hfind : sockets.find? isMeant with
  | none => exact absurd hmeant (List.find?_eq_none.mp hfind socket hmem)
  | some found =>
    rw [unique found (List.mem_of_find?_eq_some hfind) (List.find?_some hfind)]

/-- The socket at exactly the destination gets the datagram. -/
theorem receiverOf?_of_mem (h : socket ∈ network.sockets) :
    network.receiverOf? socket = some socket := by
  have hfind : network.sockets.find? (· = socket) = some socket :=
    find?_eq_some_of_unique h (decide_eq_true rfl) fun other _ heq ↦ of_decide_eq_true heq
  rw [receiverOf?, hfind]
  rfl

/-- What is sent back to where a datagram came from reaches the socket that sent it. -/
theorem HasAlone.receiverOf?_sourceFor (h : network.HasAlone socket)
    (destination : SocketAddress) :
    network.receiverOf? (socket.sourceFor destination) = some socket := by
  cases hip : socket.ip.isUnspecified with
  | false =>
    rw [SocketAddress.sourceFor_of_specific hip]
    exact receiverOf?_of_mem h.mem
  | true =>
    obtain ⟨hspecific, hfamily, hport⟩ :=
      SocketAddress.sourceFor_of_unspecified hip destination
    generalize socket.sourceFor destination = source at hspecific hfamily hport ⊢
    have hexact : network.sockets.find? (· = source) = none := by
      rw [List.find?_eq_none]
      intro other hother heq
      obtain rfl := of_decide_eq_true heq
      have hsame := h.alone other hother
        (SocketAddress.overlaps_iff.mpr ⟨hport, hfamily, .inr (.inr hip)⟩)
      rw [hsame, hip] at hspecific
      cases hspecific
    have hgeneral : network.sockets.find? (fun other ↦ other.ip.isUnspecified &&
        other.ip.family = source.ip.family && other.port = source.port) = some socket := by
      apply find?_eq_some_of_unique h.mem
      · simp only [hip, hfamily, hport, decide_true, Bool.and_self]
      · intro other hother hmeant
        simp only [Bool.and_eq_true, decide_eq_true_eq] at hmeant
        obtain ⟨⟨hunspecified, hfamily'⟩, hport'⟩ := hmeant
        exact h.alone other hother (SocketAddress.overlaps_iff.mpr
          ⟨hport'.trans hport, hfamily'.trans hfamily, .inr (.inl hunspecified)⟩)
    rw [receiverOf?, hexact]
    exact hgeneral

end Network

end Lockstep
