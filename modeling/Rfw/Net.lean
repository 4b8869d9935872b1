/-
# Addresses and socket errors

The parts of the standard library's networking vocabulary that the forwarder's logic inspects:
socket addresses with their derived order, the raw and decoded forms of an operating-system
error, and the classification of a UDP error by `classify_udp_err`.
-/
import Mathlib.Data.List.Basic
import Mathlib.Order.Lex
import Mathlib.Data.List.Lex

namespace Rfw

/-- `std::net::IpAddr`. -/
inductive IpAddr
  | v4 (bits : BitVec 32)
  | v6 (bits : BitVec 128)
deriving DecidableEq, Repr

namespace IpAddr

/-- The variant and the address, in the order in which the derived `Ord` compares them. -/
def sortKey : IpAddr → List ℕ
  | .v4 bits => [0, bits.toNat]
  | .v6 bits => [1, bits.toNat]

lemma sortKey_injective : Function.Injective sortKey := by
  intro a b h
  cases a <;> cases b <;> simp [sortKey] at h ⊢
  · exact BitVec.eq_of_toNat_eq h
  · exact BitVec.eq_of_toNat_eq h

instance : LinearOrder IpAddr := LinearOrder.lift' sortKey sortKey_injective

end IpAddr

/-- `std::net::SocketAddr`. -/
inductive SocketAddr
  | v4 (ip : BitVec 32) (port : UInt16)
  | v6 (ip : BitVec 128) (port : UInt16) (flowinfo scopeId : UInt32)
deriving DecidableEq, Repr

namespace SocketAddr

/-- `SocketAddr::new`. -/
def new : IpAddr → UInt16 → SocketAddr
  | .v4 bits, port => .v4 bits port
  | .v6 bits, port => .v6 bits port 0 0

/-- `SocketAddr::ip`. -/
def ip : SocketAddr → IpAddr
  | .v4 bits _ => .v4 bits
  | .v6 bits _ _ _ => .v6 bits

/-- The fields in the order in which the derived `Ord` compares them: the variant first, then
the address, the port and, for IPv6, the flow information and the scope. -/
def sortKey : SocketAddr → List ℕ
  | .v4 bits port => [0, bits.toNat, port.toNat]
  | .v6 bits port flowinfo scopeId =>
      [1, bits.toNat, port.toNat, flowinfo.toNat, scopeId.toNat]

lemma sortKey_injective : Function.Injective sortKey := by
  intro a b h
  cases a <;> cases b <;> simp [sortKey] at h ⊢
  · exact ⟨BitVec.eq_of_toNat_eq h.1, UInt16.toNat_inj.mp h.2⟩
  · exact ⟨BitVec.eq_of_toNat_eq h.1, UInt16.toNat_inj.mp h.2.1, UInt32.toNat_inj.mp h.2.2.1,
      UInt32.toNat_inj.mp h.2.2.2⟩

instance : LinearOrder SocketAddr := LinearOrder.lift' sortKey sortKey_injective

end SocketAddr

/-- The kinds of `std::io::ErrorKind` that the program distinguishes. -/
inductive ErrorKind
  | wouldBlock
  | interrupted
  | connectionRefused
  | connectionReset
  | hostUnreachable
  | networkUnreachable
  | other
deriving DecidableEq, Repr

/-- `std::io::Error`: an operating-system error with its number, or an error made from a kind
alone (tokio answers `try_io` that way when the readiness flag is clear). -/
inductive IoError
  | os (code : ℕ)
  | simple (kind : ErrorKind)
deriving DecidableEq, Repr

namespace IoError

/-- `libc::EINTR`. -/
def eintr : ℕ := 4
/-- `libc::EIO`. -/
def eio : ℕ := 5
/-- `libc::EAGAIN`. -/
def eagain : ℕ := 11
/-- `libc::EINVAL`. -/
def einval : ℕ := 22
/-- `libc::EMSGSIZE`. -/
def emsgsize : ℕ := 90
/-- `libc::ENOPROTOOPT`. -/
def enoprotoopt : ℕ := 92
/-- `libc::ENETUNREACH`. -/
def enetunreach : ℕ := 101
/-- `libc::ECONNRESET`. -/
def econnreset : ℕ := 104
/-- `libc::ECONNREFUSED`. -/
def econnrefused : ℕ := 111
/-- `libc::EHOSTUNREACH`. -/
def ehostunreach : ℕ := 113

/-- The decoding of an error number by the standard library on Linux. -/
def decodeErrorKind (code : ℕ) : ErrorKind :=
  if code = eagain then .wouldBlock
  else if code = eintr then .interrupted
  else if code = econnrefused then .connectionRefused
  else if code = econnreset then .connectionReset
  else if code = ehostunreach then .hostUnreachable
  else if code = enetunreach then .networkUnreachable
  else .other

/-- `io::Error::kind`. -/
def kind : IoError → ErrorKind
  | .os code => decodeErrorKind code
  | .simple k => k

/-- `io::Error::raw_os_error`. -/
def rawOsError : IoError → Option ℕ
  | .os code => some code
  | .simple _ => none

end IoError

/-- The kind of an ICMP error reported on a UDP socket. -/
inductive IcmpKind
  | portUnreachable
  | hostUnreachable
  | networkUnreachable
deriving DecidableEq, Repr

/-- What a UDP socket error means to the forwarder. -/
inductive UdpErr
  | wouldBlock
  | transient
  | icmp (kind : IcmpKind)
  | fatal
deriving DecidableEq, Repr

/-- `classify_udp_err`. -/
def classifyUdpErr (e : IoError) : UdpErr :=
  match e.kind with
  | .wouldBlock => .wouldBlock
  | .interrupted => .transient
  | .connectionRefused => .icmp .portUnreachable
  | .connectionReset => .icmp .portUnreachable
  | .hostUnreachable => .icmp .hostUnreachable
  | .networkUnreachable => .icmp .networkUnreachable
  | .other => .fatal

end Rfw
