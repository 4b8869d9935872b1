/-
# Range expansion

`expand_specs` claims the local endpoints of the entries one by one, in a loop over the inclusive
port range, and expands each entry in a loop over the offsets.  The two loops go over the same
ports: an expansion exists exactly when no endpoint is claimed twice, it maps port for port, and
the later check on the flat list, which compares formatted addresses, agrees with it.
-/
import Rfw.Config.Syntax
import Mathlib.Data.List.Nodup

namespace Rfw

open Lib

/-- A span as the program makes them: a single port or a checked range. -/
inductive PortSpan.Built : PortSpan → Prop
  | single (port : UInt16) : Built (.single port)
  | range {start end_ : UInt16} {span : PortSpan} (h : PortSpan.range start end_ = .ok span) :
      Built span

/-- An entry as the program makes them. -/
structure ForwarderSpec.Built (s : ForwarderSpec) : Prop where
  local_ : s.local_.Built
  remote : s.remote.Built
  new : ForwarderSpec.new s.localHost s.local_ s.remoteHost s.remote s.protocol = .ok s

namespace ForwarderSpec

/-- The endpoint that an entry claims with one of its local ports. -/
def endpointOf (s : ForwarderSpec) (port : UInt16) : Endpoint := (s.protocol, s.localHost, port)

/-- The forwarder for the `k`-th port of an entry. -/
def forwarderAt (s : ForwarderSpec) (k : ℕ) : ForwarderConfig where
  localHost := s.localHost
  localPort := UInt16.ofNat (s.local_.start.toNat + k)
  remoteHost := s.remoteHost
  remotePort := UInt16.ofNat (s.remote.start.toNat + k)
  protocol := s.protocol

end ForwarderSpec

/-- No two claims of an entry on one of its local ports are for the same endpoint. -/
def DistinctClaims (specs : List ForwarderSpec) : Prop :=
  ∀ (i j : Fin specs.length) (p q : UInt16),
    (specs.get i).local_.start ≤ p → p ≤ (specs.get i).local_.end_ →
    (specs.get j).local_.start ≤ q → q ≤ (specs.get j).local_.end_ →
    (specs.get i).endpointOf p = (specs.get j).endpointOf q → i = j ∧ p = q

/-! ## The arithmetic of a span -/

namespace PortSpan

variable {s : PortSpan}

lemma start_add_len (s : PortSpan) : s.start.toNat + s.len = s.end_.toNat + 1 := by
  have hle : s.start.toNat ≤ s.end_.toNat := UInt16.le_iff_toNat_le.mp s.start_le_end
  rw [len_eq]
  omega

/-- A port at an offset below the length is still a port. -/
lemma start_add_lt {k : ℕ} (hk : k < s.len) : s.start.toNat + k < 65536 := by
  have hend : s.end_.toNat < 65536 := s.end_.toNat_lt
  have hlen := s.start_add_len
  omega

lemma toNat_start_add {k : ℕ} (hk : k < s.len) :
    (s.start + UInt16.ofNat k).toNat = s.start.toNat + k := by
  have hlt := start_add_lt hk
  have hk' : k < 65536 := by omega
  have hofNat : (UInt16.ofNat k).toNat = k := UInt16.toNat_ofNat_of_lt hk'
  rw [UInt16.toNat_add, hofNat, Nat.mod_eq_of_lt hlt]

lemma mem_ports {p : UInt16} : p ∈ s.ports ↔ s.start ≤ p ∧ p ≤ s.end_ := by
  have hlen := s.start_add_len
  have hend : s.end_.toNat < 65536 := s.end_.toNat_lt
  rw [ports, List.mem_map, UInt16.le_iff_toNat_le, UInt16.le_iff_toNat_le]
  constructor
  · rintro ⟨n, hn, rfl⟩
    rw [List.mem_range'_1] at hn
    have hlt : n < 65536 := by omega
    have hport : (UInt16.ofNat n).toNat = n := UInt16.toNat_ofNat_of_lt hlt
    omega
  · rintro ⟨hstart, hp⟩
    refine ⟨p.toNat, ?_, UInt16.ofNat_toNat⟩
    rw [List.mem_range'_1]
    omega

/-- The numbers that the loop over the ports of a span goes through. -/
lemma map_toNat_ports (s : PortSpan) :
    s.ports.map UInt16.toNat = List.range' s.start.toNat s.len := by
  have hlen := s.start_add_len
  have hend : s.end_.toNat < 65536 := s.end_.toNat_lt
  rw [ports, List.map_map]
  conv_rhs => rw [← List.map_id (List.range' s.start.toNat s.len)]
  apply List.map_congr_left
  intro n hn
  rw [List.mem_range'_1] at hn
  have hlt : n < 65536 := by omega
  exact UInt16.toNat_ofNat_of_lt hlt

lemma nodup_ports (s : PortSpan) : s.ports.Nodup := by
  apply List.Nodup.of_map UInt16.toNat
  rw [map_toNat_ports]
  exact List.nodup_range'

/-- Only a checked range has more than one port, so the number of ports is a `u16`. -/
lemma Built.len_lt (h : s.Built) : s.len < 65536 := by
  cases h with
  | single port =>
    have hlen : (PortSpan.single port).len = 1 := by simp [len, PortSpan.single]
    omega
  | range h =>
    obtain ⟨-, -, hmax⟩ := of_range_eq_ok h
    have hrange : maxRangePorts = 4096 := rfl
    omega

end PortSpan

/-! ## Claiming endpoints -/

/-- The endpoints that an entry claims, in the order of the loop. -/
def ForwarderSpec.endpoints (s : ForwarderSpec) : List Endpoint := s.local_.ports.map s.endpointOf

lemma ForwarderSpec.endpointOf_injective (s : ForwarderSpec) : Function.Injective s.endpointOf := by
  intro p q h
  simpa [endpointOf] using h

/-- The inner loop claims every port, and fails if one of the endpoints is taken. -/
lemma claimPorts_eq_ok {spec : ForwarderSpec} {owner owner' : List (Endpoint × ForwarderSpec)}
    {ports : List UInt16} (howner : (owner.map Prod.fst).Nodup) :
    claimPorts spec owner ports = .ok owner' ↔
      owner' = (ports.map fun p => (spec.endpointOf p, spec)).reverse ++ owner ∧
        (ports.map spec.endpointOf ++ owner.map Prod.fst).Nodup := by
  induction ports generalizing owner with
  | nil =>
    rw [claimPorts]
    constructor
    · intro h
      exact ⟨(Except.ok.inj h).symm, howner⟩
    · rintro ⟨rfl, -⟩
      rfl
  | cons port ports ih =>
    -- the claims made so far, with this one, wherever it stands
    have hperm : (ports.map spec.endpointOf ++ spec.endpointOf port :: owner.map Prod.fst).Nodup ↔
        (spec.endpointOf port :: (ports.map spec.endpointOf ++ owner.map Prod.fst)).Nodup :=
      List.perm_middle.nodup_iff
    rw [claimPorts]
    cases hfind : owner.find? (fun e => e.1 = (spec.protocol, spec.localHost, port)) with
    | some first =>
      have hmem : spec.endpointOf port ∈ owner.map Prod.fst := by
        have hfound := List.find?_some hfind
        have hkey : first.1 = spec.endpointOf port := of_decide_eq_true hfound
        rw [← hkey]
        exact List.mem_map_of_mem (List.mem_of_find?_eq_some hfind)
      constructor
      · intro h
        cases h
      · rintro ⟨-, hnodup⟩
        rw [List.map_cons, List.cons_append, List.nodup_cons] at hnodup
        exact absurd (List.mem_append_right _ hmem) hnodup.1
    | none =>
      have hnew : spec.endpointOf port ∉ owner.map Prod.fst := by
        rintro hmem
        obtain ⟨e, he, hkey⟩ := List.mem_map.mp hmem
        have hno := List.find?_eq_none.mp hfind e he
        exact hno (by simpa [ForwarderSpec.endpointOf] using hkey)
      have howner' : (((spec.endpointOf port, spec) :: owner).map Prod.fst).Nodup :=
        List.nodup_cons.mpr ⟨hnew, howner⟩
      have hclaims : ((port :: ports).map fun p => (spec.endpointOf p, spec)).reverse ++ owner =
          (ports.map fun p => (spec.endpointOf p, spec)).reverse ++
            (spec.endpointOf port, spec) :: owner := by simp
      rw [hclaims, List.map_cons, List.cons_append, ← hperm]
      exact ih howner'

/-- The outer loop expands every entry, and fails if two claims meet. -/
lemma expandSpecsGo_eq_ok {owner : List (Endpoint × ForwarderSpec)} {specs : List ForwarderSpec}
    {out : List ForwarderConfig} (howner : (owner.map Prod.fst).Nodup) :
    expandSpecsGo owner specs = .ok out ↔
      out = specs.flatMap ForwarderSpec.expand ∧
        (specs.flatMap ForwarderSpec.endpoints ++ owner.map Prod.fst).Nodup := by
  induction specs generalizing owner out with
  | nil =>
    rw [expandSpecsGo]
    constructor
    · intro h
      exact ⟨(Except.ok.inj h).symm, howner⟩
    · rintro ⟨rfl, -⟩
      rfl
  | cons spec specs ih =>
    -- what is claimed once the ports of this entry are
    let claimed := (spec.local_.ports.map fun p => (spec.endpointOf p, spec)).reverse ++ owner
    have hkeys : claimed.map Prod.fst = spec.endpoints.reverse ++ owner.map Prod.fst := by
      simp [claimed, ForwarderSpec.endpoints, Function.comp_def]
    have hperm : (specs.flatMap ForwarderSpec.endpoints ++ claimed.map Prod.fst).Nodup ↔
        ((spec :: specs).flatMap ForwarderSpec.endpoints ++ owner.map Prod.fst).Nodup := by
      rw [hkeys, List.flatMap_cons, ← List.append_assoc]
      refine (List.Perm.append_right _ ?_).nodup_iff
      exact List.perm_append_comm.trans (List.Perm.append_right _ (List.reverse_perm _))
    rw [expandSpecsGo, bind_eq_ok, ← hperm]
    constructor
    · rintro ⟨owner', hclaim, h⟩
      obtain ⟨rfl, hnodup⟩ := (claimPorts_eq_ok howner).mp hclaim
      obtain ⟨rest, hrest, h⟩ := bind_eq_ok.mp h
      have hclaimed : (claimed.map Prod.fst).Nodup := by
        rw [hkeys]
        exact ((List.reverse_perm _).append_right _).nodup_iff.mpr hnodup
      obtain ⟨rfl, hall⟩ := (ih hclaimed).mp hrest
      exact ⟨(Except.ok.inj h).symm, hall⟩
    · rintro ⟨rfl, hall⟩
      have hclaimed : (claimed.map Prod.fst).Nodup := (List.nodup_append.mp hall).2.1
      refine ⟨claimed, (claimPorts_eq_ok howner).mpr ⟨rfl, ?_⟩, ?_⟩
      · rw [hkeys] at hclaimed
        exact ((List.reverse_perm _).append_right _).nodup_iff.mp hclaimed
      · exact bind_eq_ok.mpr ⟨_, (ih hclaimed).mpr ⟨rfl, hall⟩, rfl⟩

lemma expandSpecs_eq_ok {specs : List ForwarderSpec} {out : List ForwarderConfig} :
    expandSpecs specs = .ok out ↔
      out = specs.flatMap ForwarderSpec.expand ∧
        (specs.flatMap ForwarderSpec.endpoints).Nodup := by
  have hgo := @expandSpecsGo_eq_ok [] specs out List.nodup_nil
  simpa [expandSpecs] using hgo

/-- The endpoints of all entries are distinct when no two claims meet. -/
lemma nodup_endpoints_iff {specs : List ForwarderSpec} :
    (specs.flatMap ForwarderSpec.endpoints).Nodup ↔ DistinctClaims specs := by
  have hone : ∀ s ∈ specs, s.endpoints.Nodup := fun s _ =>
    s.local_.nodup_ports.map s.endpointOf_injective
  rw [List.nodup_flatMap, List.pairwise_iff_get]
  constructor
  · rintro ⟨-, hdisjoint⟩ i j p q hps hpe hqs hqe heq
    have hp : (specs.get i).endpointOf p ∈ (specs.get i).endpoints :=
      List.mem_map_of_mem (PortSpan.mem_ports.mpr ⟨hps, hpe⟩)
    have hq : (specs.get i).endpointOf p ∈ (specs.get j).endpoints := by
      rw [heq]
      exact List.mem_map_of_mem (PortSpan.mem_ports.mpr ⟨hqs, hqe⟩)
    obtain hlt | rfl | hlt := lt_trichotomy i j
    · exact absurd hq (hdisjoint i j hlt hp)
    · exact ⟨rfl, (specs.get i).endpointOf_injective heq⟩
    · exact absurd hp (hdisjoint j i hlt hq)
  · intro hclaims
    refine ⟨hone, fun i j hlt e hi hj => ?_⟩
    obtain ⟨p, hp, rfl⟩ := List.mem_map.mp hi
    obtain ⟨q, hq, heq⟩ := List.mem_map.mp hj
    rw [PortSpan.mem_ports] at hp hq
    obtain ⟨hij, -⟩ := hclaims i j p q hp.1 hp.2 hq.1 hq.2 heq.symm
    exact hlt.ne hij

/-- Entries expand when their claims are distinct. -/
lemma exists_expandSpecs_iff {specs : List ForwarderSpec} :
    (∃ out, expandSpecs specs = .ok out) ↔ DistinctClaims specs := by
  rw [← nodup_endpoints_iff]
  constructor
  · rintro ⟨out, hout⟩
    exact (expandSpecs_eq_ok.mp hout).2
  · intro hnodup
    exact ⟨_, expandSpecs_eq_ok.mpr ⟨rfl, hnodup⟩⟩

/-! ## The expanded entries -/

namespace ForwarderSpec

variable {s : ForwarderSpec}

lemma Built.len_eq (h : s.Built) : s.local_.len = s.remote.len := by
  by_contra hne
  have herr := h.new
  rw [ForwarderSpec.new, if_pos hne] at herr
  cases herr

/-- The cast of the number of ports keeps it, so every port gets its forwarder. -/
lemma Built.expand_eq (h : s.Built) :
    s.expand = (List.range s.local_.len).map s.forwarderAt := by
  have hcast : (UInt16.ofNat s.local_.len).toNat = s.local_.len :=
    UInt16.toNat_ofNat_of_lt h.local_.len_lt
  rw [expand, hcast]
  apply List.map_congr_left
  intro k _
  simp only [forwarderAt, UInt16.ofNat_add, UInt16.ofNat_toNat]

/-- The forwarders of an entry listen on the endpoints that it claims. -/
lemma Built.map_endpoint_expand (h : s.Built) :
    s.expand.map ForwarderConfig.endpoint = s.endpoints := by
  rw [h.expand_eq, endpoints, PortSpan.ports, List.range'_eq_map_range]
  simp only [List.map_map]
  rfl

end ForwarderSpec

lemma map_endpoint_expansion {specs : List ForwarderSpec} (hbuilt : ∀ s ∈ specs, s.Built) :
    (specs.flatMap ForwarderSpec.expand).map ForwarderConfig.endpoint =
      specs.flatMap ForwarderSpec.endpoints := by
  rw [List.map_flatMap]
  exact List.flatMap_congr fun s hs => (hbuilt s hs).map_endpoint_expand

/-! ## The check on the flat list -/

/-- The key of `validate_no_duplicates`. -/
def ForwarderConfig.flatKey (c : ForwarderConfig) : Protocol × Str := (c.protocol, c.localAddr)

/-- The formatted address tells the host and the port. -/
lemma flatKey_eq_iff {c c' : ForwarderConfig} :
    c.flatKey = c'.flatKey ↔ c.endpoint = c'.endpoint := by
  simp only [ForwarderConfig.flatKey, ForwarderConfig.endpoint, Prod.mk.injEq]
  constructor
  · rintro ⟨hprotocol, haddr⟩
    obtain ⟨hhost, hport⟩ := ForwarderConfig.localAddr_inj haddr
    exact ⟨hprotocol, hhost, hport⟩
  · rintro ⟨hprotocol, hhost, hport⟩
    refine ⟨hprotocol, ?_⟩
    rw [ForwarderConfig.localAddr, ForwarderConfig.localAddr, hhost, hport]

lemma validateNoDuplicatesGo_eq_ok {seen : List (Protocol × Str)} {fwd : List ForwarderConfig}
    (hseen : seen.Nodup) :
    validateNoDuplicatesGo seen fwd = .ok () ↔
      (fwd.map ForwarderConfig.flatKey ++ seen).Nodup := by
  induction fwd generalizing seen with
  | nil => exact ⟨fun _ => hseen, fun _ => rfl⟩
  | cons f fwd ih =>
    rw [validateNoDuplicatesGo, List.map_cons, List.cons_append]
    change (if f.flatKey ∈ seen then _ else _) = _ ↔ _
    by_cases hmem : f.flatKey ∈ seen
    · have hdup : ¬ (f.flatKey :: (fwd.map ForwarderConfig.flatKey ++ seen)).Nodup := fun h =>
        (List.nodup_cons.mp h).1 (List.mem_append_right _ hmem)
      refine ⟨fun h => ?_, fun h => absurd h hdup⟩
      rw [if_pos hmem] at h
      cases h
    · rw [if_neg hmem, ← List.perm_middle.nodup_iff]
      exact ih (List.nodup_cons.mpr ⟨hmem, hseen⟩)

/-- The check accepts a list whose local endpoints are pairwise distinct, and no other. -/
lemma validateNoDuplicates_eq_ok {fwd : List ForwarderConfig} :
    validateNoDuplicates fwd = .ok () ↔ (fwd.map ForwarderConfig.endpoint).Nodup := by
  have hgo := @validateNoDuplicatesGo_eq_ok [] fwd List.nodup_nil
  rw [List.append_nil, List.Nodup, List.pairwise_map] at hgo
  rw [validateNoDuplicates, hgo, List.Nodup, List.pairwise_map]
  simp only [ne_eq, flatKey_eq_iff]

/-- An expansion passes the check on the flat list. -/
lemma validateNoDuplicates_of_expandSpecs {specs : List ForwarderSpec} {out : List ForwarderConfig}
    (hbuilt : ∀ s ∈ specs, s.Built) (h : expandSpecs specs = .ok out) :
    validateNoDuplicates out = .ok () := by
  obtain ⟨rfl, hnodup⟩ := expandSpecs_eq_ok.mp h
  rw [validateNoDuplicates_eq_ok, map_endpoint_expansion hbuilt]
  exact hnodup

/-- **Range expansion is exact.**  Entries expand exactly when no two claims on a local port meet;
the expansion lists the entries in order, port for port; the check on the flat list accepts it, as
it does every list with distinct endpoints; and no port arithmetic leaves `u16`. -/
theorem expandSpecs_exact (specs : List ForwarderSpec) (hbuilt : ∀ s ∈ specs, s.Built) :
    ((∃ out, expandSpecs specs = .ok out) ↔ DistinctClaims specs) ∧
    (∀ out, expandSpecs specs = .ok out →
      out = specs.flatMap (fun s => (List.range s.local_.len).map s.forwarderAt) ∧
      validateNoDuplicates out = .ok ()) ∧
    (∀ fwd, validateNoDuplicates fwd = .ok () ↔
      fwd.Pairwise fun a b =>
        (a.protocol, a.localHost, a.localPort) ≠ (b.protocol, b.localHost, b.localPort)) ∧
    (∀ s ∈ specs, (UInt16.ofNat s.local_.len).toNat = s.local_.len ∧
      s.local_.ports.map UInt16.toNat = List.range' s.local_.start.toNat s.local_.len ∧
      s.local_.start.toNat + s.local_.len = s.local_.end_.toNat + 1 ∧
      ∀ k < s.local_.len,
        (s.local_.start + UInt16.ofNat k).toNat = s.local_.start.toNat + k ∧
        (s.remote.start + UInt16.ofNat k).toNat = s.remote.start.toNat + k) := by
  have hexpand : specs.flatMap ForwarderSpec.expand =
      specs.flatMap (fun s => (List.range s.local_.len).map s.forwarderAt) :=
    List.flatMap_congr fun s hs => (hbuilt s hs).expand_eq
  refine ⟨?_, fun out hout => ?_, fun fwd => ?_, fun s hs => ⟨?_, ?_, ?_, fun k hk => ⟨?_, ?_⟩⟩⟩
  · exact exists_expandSpecs_iff
  · obtain ⟨rfl, -⟩ := expandSpecs_eq_ok.mp hout
    exact ⟨hexpand, validateNoDuplicates_of_expandSpecs hbuilt hout⟩
  · rw [validateNoDuplicates_eq_ok, List.Nodup, List.pairwise_map]
    rfl
  · exact UInt16.toNat_ofNat_of_lt (hbuilt s hs).local_.len_lt
  · exact s.local_.map_toNat_ports
  · exact s.local_.start_add_len
  · exact PortSpan.toNat_start_add hk
  · rw [(hbuilt s hs).len_eq] at hk
    exact PortSpan.toNat_start_add hk

/-- Two ranges that meet only at different protocols, one of them up to the last port. -/
theorem expandSpecs_exact_demo :
    ∃ specs : List ForwarderSpec, (∀ s ∈ specs, s.Built) ∧
      (∃ out, expandSpecs specs = .ok out) ∧ DistinctClaims specs := by
  let first : ForwarderSpec :=
    ⟨"h".toList, ⟨65534, 65535, by decide⟩, "r".toList, ⟨80, 81, by decide⟩, .tcp⟩
  let second : ForwarderSpec :=
    ⟨"h".toList, .single 65535, "r".toList, .single 65535, .udp⟩
  have hbuilt : ∀ s ∈ [first, second], s.Built := by
    intro s hs
    rw [List.mem_pair] at hs
    obtain rfl | rfl := hs
    · have hlocal : PortSpan.range 65534 65535 = .ok first.local_ := by decide
      have hremote : PortSpan.range 80 81 = .ok first.remote := by decide
      exact ⟨.range hlocal, .range hremote, by decide⟩
    · exact ⟨.single 65535, .single 65535, by decide⟩
  have hout : ∃ out, expandSpecs [first, second] = .ok out :=
    ⟨_, expandSpecs_eq_ok.mpr ⟨rfl, by decide⟩⟩
  exact ⟨[first, second], hbuilt, hout, (expandSpecs_exact _ hbuilt).1.mp hout⟩

end Rfw
