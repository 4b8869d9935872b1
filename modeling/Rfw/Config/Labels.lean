/-
# Labels

The manager, the stats registry and the reload diff key everything by `ForwarderConfig::label`.
The label is a text put together from the forwarder's fields, and it gives them back as long as the
local host does not contain the arrow that separates the two sides.
-/
import Rfw.Config.Forwarders
import Rfw.Lib.Decimal

namespace Rfw

open Lib

/-- The separator of the two sides of a label. -/
def arrow : Str := ['-', '>']

namespace ForwarderConfig

/-- The remote side of a label. -/
def remoteSide (c : ForwarderConfig) : Str :=
  c.remoteHost ++ ':' :: (showPort c.remotePort ++
    match c.protocol with
    | .tcp => []
    | .udp => "/udp".toList)

/-- A label is the local address, the arrow and the remote side. -/
lemma label_eq (c : ForwarderConfig) : c.label = c.localAddr ++ arrow ++ c.remoteSide := by
  have harrow : "->".toList = arrow := by decide
  have hudp : "/udp".toList = '/' :: Protocol.udp.asStr := by decide
  simp only [label, localAddr, remoteSide, harrow, hudp]
  cases c.protocol <;> simp

lemma not_mem_showPort {p : UInt16} {c : Char} (h : c.isDigit = false) : c ∉ showPort p :=
  Str.not_mem_decimal h

lemma showPort_injective : Function.Injective showPort := by
  intro p q h
  exact UInt16.toNat_inj.mp (Str.decimal_injective h)

/-- The local address is the host up to the last colon, and the port. -/
lemma localAddr_inj {c c' : ForwarderConfig} (h : c.localAddr = c'.localAddr) :
    c.localHost = c'.localHost ∧ c.localPort = c'.localPort := by
  have hcolon : ∀ p : UInt16, ':' ∉ showPort p := fun p => not_mem_showPort (by decide)
  have hsplit : c.localHost ++ ':' :: showPort c.localPort =
      c'.localHost ++ ':' :: showPort c'.localPort := by
    simpa [localAddr] using h
  obtain ⟨hhost, hport⟩ := Str.append_cons_inj_right (hcolon _) (hcolon _) hsplit
  exact ⟨hhost, showPort_injective hport⟩

/-- The last character of the remote side tells the protocol. -/
lemma protocol_of_remoteSide {c c' : ForwarderConfig} (h : c.remoteSide = c'.remoteSide) :
    c.protocol = c'.protocol := by
  have hlast : ∀ d : ForwarderConfig,
      d.remoteSide.getLast? = match d.protocol with
        | .tcp => (showPort d.remotePort).getLast?
        | .udp => some 'p' := by
    intro d
    have hne : showPort d.remotePort ≠ [] := Str.decimal_ne_nil _
    simp only [remoteSide]
    cases d.protocol with
    | tcp =>
      rw [List.append_nil, List.getLast?_append_of_ne_nil _ (List.cons_ne_nil _ _)]
      exact List.getLast?_cons_of_ne_nil hne
    | udp =>
      have hconcat : d.remoteHost ++ ':' :: (showPort d.remotePort ++ "/udp".toList) =
          d.remoteHost ++ ':' :: (showPort d.remotePort ++ ['/', 'u', 'd']) ++ ['p'] := by simp
      rw [hconcat, List.getLast?_concat]
  have hdigit : ∀ p : UInt16, (showPort p).getLast? ≠ some 'p' := by
    intro p hp
    have hmem := List.mem_of_getLast? hp
    exact not_mem_showPort (by decide) hmem
  have hc := (hlast c).symm.trans ((congrArg List.getLast? h).trans (hlast c'))
  cases hp : c.protocol <;> cases hp' : c'.protocol <;> simp only [hp, hp'] at hc ⊢
  · exact absurd hc (hdigit _)
  · exact absurd hc.symm (hdigit _)

lemma remoteSide_inj {c c' : ForwarderConfig} (h : c.remoteSide = c'.remoteSide) :
    c.remoteHost = c'.remoteHost ∧ c.remotePort = c'.remotePort := by
  have hprotocol := protocol_of_remoteSide h
  have hcolon : ∀ p : UInt16, ':' ∉ showPort p := fun p => not_mem_showPort (by decide)
  have hsplit : c.remoteHost ++ ':' :: showPort c.remotePort =
      c'.remoteHost ++ ':' :: showPort c'.remotePort := by
    simp only [remoteSide, hprotocol, ← List.cons_append, ← List.append_assoc] at h
    exact List.append_cancel_right h
  obtain ⟨hhost, hport⟩ := Str.append_cons_inj_right (hcolon _) (hcolon _) hsplit
  exact ⟨hhost, showPort_injective hport⟩

/-- A local address has an arrow only in its host. -/
lemma arrow_infix_localHost {c : ForwarderConfig} {x y : Str}
    (h : c.localAddr = x ++ arrow ++ y) : arrow <:+: c.localHost := by
  have hgt : '>' ∉ ':' :: showPort c.localPort := by
    rw [List.mem_cons, not_or]
    exact ⟨by decide, not_mem_showPort (by decide)⟩
  have hsplit : c.localHost ++ ':' :: showPort c.localPort = (x ++ arrow) ++ y := by
    simpa [localAddr] using h
  rcases List.append_eq_append_iff.mp hsplit with ⟨m, hx, hport⟩ | ⟨m, hhost, -⟩
  · rcases List.eq_nil_or_concat m with rfl | ⟨m', d, rfl⟩
    · exact ⟨x, [], by simpa using hx⟩
    · -- the arrow would end after the host
      exfalso
      have hlast := congrArg List.getLast? hx
      obtain rfl : d = '>' := by simpa [arrow] using hlast.symm
      apply hgt
      rw [hport]
      simp
  · exact ⟨x, m, hhost.symm⟩

/-- An arrow that starts inside another one starts with it or comes after it. -/
lemma eq_nil_of_arrow_append {x m r r' : Str} (h : arrow ++ r = m ++ (arrow ++ r'))
    (hno : ∀ y, x ++ m ≠ x ++ arrow ++ y) : m = [] := by
  match m with
  | [] => rfl
  | [d] => simp [arrow] at h
  | d :: e :: m' =>
    obtain ⟨rfl, rfl, -⟩ : '-' = d ∧ '>' = e ∧ r = m' ++ (arrow ++ r') := by simpa [arrow] using h
    exact absurd (by simp [arrow]) (hno m')

/-- **Labels identify forwarders** whose local hosts do not contain the arrow. -/
lemma eq_of_label_eq {c c' : ForwarderConfig} (hc : ¬ arrow <:+: c.localHost)
    (hc' : ¬ arrow <:+: c'.localHost) (h : c.label = c'.label) : c = c' := by
  rw [label_eq, label_eq, List.append_assoc, List.append_assoc] at h
  have hsides : c.localAddr = c'.localAddr ∧ c.remoteSide = c'.remoteSide := by
    -- if the local addresses were of different lengths, the longer one would contain an arrow
    rcases List.append_eq_append_iff.mp h with ⟨m, hm, hrest⟩ | ⟨m, hm, hrest⟩
    · obtain rfl : m = [] := eq_nil_of_arrow_append (x := c.localAddr) hrest fun y hy =>
        hc' (arrow_infix_localHost (hm.trans hy))
      exact ⟨by simpa using hm.symm, by simpa using hrest⟩
    · obtain rfl : m = [] := eq_nil_of_arrow_append (x := c'.localAddr) hrest fun y hy =>
        hc (arrow_infix_localHost (hm.trans hy))
      exact ⟨by simpa using hm, by simpa using hrest.symm⟩
  obtain ⟨hlocal, hremote⟩ := hsides
  obtain ⟨hlhost, hlport⟩ := localAddr_inj hlocal
  obtain ⟨hrhost, hrport⟩ := remoteSide_inj hremote
  have hprotocol := protocol_of_remoteSide hremote
  cases c
  cases c'
  simp_all

end ForwarderConfig

end Rfw
