/-
# Validation and clamping

A value out of range stops a start and is clamped on a reload, by two lists of rules that are
written separately.  They agree on what is in range: settings that pass `validate` are left alone
by `clampInPlace`, and clamped settings pass, so the knobs of a running process are never out of
range.
-/
import Rfw.Config.Load

namespace Rfw

open Lib

namespace Settings

/-- The numbers of the settings are in range. -/
structure InRange (s : Settings) : Prop where
  report : s.reportIntervalSecs ≠ 0
  sample : s.sampleIntervalSecs ≠ 0
  connect : s.connectTimeoutSecs ≠ 0
  dns : s.dnsTimeoutSecs ≠ 0
  buffer : minBufferBytes ≤ s.bufferBytes ∧ s.bufferBytes ≤ maxBufferBytes
  socketBuffer : s.socketBufferBytes ≠ some 0
  connections : s.maxConnections ≠ some 0
  keepaliveInterval : s.keepaliveIdleSecs = 0 ∨ s.keepaliveIntervalSecs ≠ 0
  keepaliveRetries : s.keepaliveIdleSecs = 0 ∨ s.keepaliveRetries ≠ 0
  probe : s.probeIntervalSecs ≠ 0
  unreachable : s.unreachableAfterSecs ≠ 0
  sessionTimeout : s.udpSessionTimeoutSecs ≠ 0
  sessions : 1 ≤ s.udpMaxSessions ∧ s.udpMaxSessions ≤ maxUdpSessions

/-- The addresses of the settings are absent or well formed. -/
structure AddressesOk (p : Parsers) (s : Settings) : Prop where
  metrics : ∀ addr, s.metricsAddr = some addr → p.isSocketAddr addr = true
  webhook : ∀ raw, s.webhookUrl = some raw → ∃ url, validateWebhookUrl p raw = .ok url

/-- A check passes when its condition holds and the rest does. -/
lemma require_bind_eq_ok {ok : Bool} {message : Str} {rest : Unit → Except Str Unit} :
    (require ok message >>= rest) = .ok () ↔ ok = true ∧ rest () = .ok () := by
  cases ok <;> simp [require, bind, Except.bind]

lemma pure_eq_ok : (pure () : Except Str Unit) = .ok () ↔ True := iff_true_intro rfl

/-- The checks of `validate`, in its order. -/
lemma validate_eq_ok_checks {p : Parsers} {s : Settings} :
    s.validate p = .ok () ↔
      s.reportIntervalSecs ≠ 0 ∧ s.sampleIntervalSecs ≠ 0 ∧ s.connectTimeoutSecs ≠ 0 ∧
      s.dnsTimeoutSecs ≠ 0 ∧ (minBufferBytes ≤ s.bufferBytes ∧ s.bufferBytes ≤ maxBufferBytes) ∧
      s.socketBufferBytes ≠ some 0 ∧ s.maxConnections ≠ some 0 ∧
      (∀ addr, s.metricsAddr = some addr → p.isSocketAddr addr = true) ∧
      (s.keepaliveIdleSecs = 0 ∨ s.keepaliveIntervalSecs ≠ 0) ∧
      (s.keepaliveIdleSecs = 0 ∨ s.keepaliveRetries ≠ 0) ∧
      s.probeIntervalSecs ≠ 0 ∧ s.unreachableAfterSecs ≠ 0 ∧ s.udpSessionTimeoutSecs ≠ 0 ∧
      (1 ≤ s.udpMaxSessions ∧ s.udpMaxSessions ≤ maxUdpSessions) ∧
      ∀ raw, s.webhookUrl = some raw → ∃ url, validateWebhookUrl p raw = .ok url := by
  cases hw : s.webhookUrl with
  | none =>
    cases hm : s.metricsAddr <;>
      simp only [validate, hm, hw, require_bind_eq_ok, pure_eq_ok, decide_eq_true_eq,
        Option.some.injEq, forall_eq', reduceCtorEq, false_implies, implies_true, and_true,
        true_and]
  | some raw =>
    cases hurl : validateWebhookUrl p raw <;> cases hm : s.metricsAddr <;>
      simp only [validate, hm, hw, hurl, require_bind_eq_ok, pure_eq_ok,
        decide_eq_true_eq, Option.some.injEq, Except.ok.injEq, forall_eq', exists_eq',
        reduceCtorEq, exists_false, false_implies, implies_true, and_true, true_and]

/-- `validate` passes when the numbers are in range and the addresses well formed. -/
lemma validate_eq_ok {p : Parsers} {s : Settings} :
    s.validate p = .ok () ↔ s.InRange ∧ s.AddressesOk p := by
  rw [validate_eq_ok_checks]
  constructor
  · rintro ⟨report, sample, connect, dns, buffer, socketBuffer, connections, metrics, interval,
      retries, probe, unreachable, sessionTimeout, sessions, webhook⟩
    exact ⟨⟨report, sample, connect, dns, buffer, socketBuffer, connections, interval, retries,
      probe, unreachable, sessionTimeout, sessions⟩, metrics, webhook⟩
  · rintro ⟨⟨report, sample, connect, dns, buffer, socketBuffer, connections, interval, retries,
      probe, unreachable, sessionTimeout, sessions⟩, metrics, webhook⟩
    exact ⟨report, sample, connect, dns, buffer, socketBuffer, connections, metrics, interval,
      retries, probe, unreachable, sessionTimeout, sessions, webhook⟩

/-! ## Clamped settings -/

lemma floorU64_ne_zero (value : ℕ) : floorU64 value 1 ≠ 0 := by
  unfold floorU64
  split <;> omega

lemma floorU64_of_ne_zero {value : ℕ} (h : value ≠ 0) : floorU64 value 1 = value :=
  if_neg (by omega)

lemma clamp_mem {value min max : ℕ} (h : min ≤ max) :
    min ≤ clamp value min max ∧ clamp value min max ≤ max := by
  unfold clamp
  split
  · exact ⟨Nat.le_refl min, h⟩
  · split <;> omega

lemma clamp_of_mem {value min max : ℕ} (h : min ≤ value ∧ value ≤ max) :
    clamp value min max = value := by
  rw [clamp, if_neg (Nat.not_lt.mpr h.1), if_neg (Nat.not_lt.mpr h.2)]

/-- Clamping leaves alone what is in range. -/
lemma InRange.clampInPlace_eq {s : Settings} (h : s.InRange) : s.clampInPlace = s := by
  have hinterval : (if 0 < s.keepaliveIdleSecs then floorU64 s.keepaliveIntervalSecs 1
      else s.keepaliveIntervalSecs) = s.keepaliveIntervalSecs := by
    split
    · rename_i hidle
      exact floorU64_of_ne_zero (h.keepaliveInterval.resolve_left hidle.ne')
    · rfl
  have hretries : ¬ (0 < s.keepaliveIdleSecs ∧ s.keepaliveRetries = 0) := by
    rintro ⟨hidle, hzero⟩
    exact h.keepaliveRetries.resolve_left hidle.ne' hzero
  rw [clampInPlace, floorU64_of_ne_zero h.report, floorU64_of_ne_zero h.sample,
    floorU64_of_ne_zero h.connect, floorU64_of_ne_zero h.dns, floorU64_of_ne_zero h.probe,
    floorU64_of_ne_zero h.unreachable, floorU64_of_ne_zero h.sessionTimeout,
    clamp_of_mem h.buffer, clamp_of_mem h.sessions, if_neg h.socketBuffer, if_neg h.connections,
    hinterval, if_neg hretries]

/-- What clamping gives is in range. -/
lemma inRange_clampInPlace (s : Settings) : s.clampInPlace.InRange where
  report := floorU64_ne_zero _
  sample := floorU64_ne_zero _
  connect := floorU64_ne_zero _
  dns := floorU64_ne_zero _
  buffer := clamp_mem (by decide)
  socketBuffer := by
    simp only [clampInPlace]
    split <;> simp_all
  connections := by
    simp only [clampInPlace]
    split <;> simp_all
  keepaliveInterval := by
    simp only [clampInPlace]
    split
    · exact .inr (floorU64_ne_zero _)
    · exact .inl (by omega)
  keepaliveRetries := by
    simp only [clampInPlace]
    split <;> omega
  probe := floorU64_ne_zero _
  unreachable := floorU64_ne_zero _
  sessionTimeout := floorU64_ne_zero _
  sessions := clamp_mem (by decide)

end Settings

/-! ## The knobs -/

namespace RuntimeKnobs

/-- The getters of the knobs return the fields of the settings. -/
structure Shows (k : RuntimeKnobs) (c : Settings) : Prop where
  bufferBytes : k.bufferBytes = c.bufferBytes
  socketBufferBytes : k.socketBufferBytes = c.socketBufferBytes
  useSplice : k.useSplice = c.useSplice
  connectTimeout : k.connectTimeout = c.connectTimeoutSecs
  dnsTimeout : k.dnsTimeout = c.dnsTimeoutSecs
  keepalive : k.keepalive = if c.keepaliveIdleSecs = 0 then none else
    some ⟨c.keepaliveIdleSecs, c.keepaliveIntervalSecs, c.keepaliveRetries⟩
  probeInterval : k.probeInterval = c.probeIntervalSecs
  unreachableAfter : k.unreachableAfter = c.unreachableAfterSecs
  udpSessionTimeout : k.udpSessionTimeout = c.udpSessionTimeoutSecs
  udpGroGso : k.udpGroGso = c.udpGroGso

/-- What the data plane reads is in range. -/
structure Safe (k : RuntimeKnobs) : Prop where
  bufferBytes : minBufferBytes ≤ k.bufferBytes ∧ k.bufferBytes ≤ maxBufferBytes
  socketBufferBytes : k.socketBufferBytes ≠ some 0
  connectTimeout : 0 < k.connectTimeout
  dnsTimeout : 0 < k.dnsTimeout
  keepalive : ∀ ka, k.keepalive = some ka → 0 < ka.idle ∧ 0 < ka.interval ∧ 0 < ka.retries
  probeInterval : 0 < k.probeInterval
  unreachableAfter : 0 < k.unreachableAfter
  udpSessionTimeout : 0 < k.udpSessionTimeout

/-- The knobs made from settings show the clamped settings. -/
lemma shows_fromSettings (s : Settings) : (fromSettings s).Shows s.clampInPlace := by
  have h := s.inRange_clampInPlace
  -- the getters apply a floor of their own, which clamped values already meet
  have hfloor : ∀ {n : ℕ}, n ≠ 0 → max n 1 = n := fun hn => Nat.max_eq_left (Nat.pos_of_ne_zero hn)
  refine ⟨rfl, ?_, rfl, hfloor h.connect, hfloor h.dns, ?_, hfloor h.probe, hfloor h.unreachable,
    hfloor h.sessionTimeout, rfl⟩
  · -- zero stands for the default of the system, and is no valid size
    have hraw : (fromSettings s).socketBufferBytes =
        if s.clampInPlace.socketBufferBytes.getD 0 = 0 then none
        else some (s.clampInPlace.socketBufferBytes.getD 0) := rfl
    rw [hraw]
    cases hsize : s.clampInPlace.socketBufferBytes with
    | none => rfl
    | some n =>
      have hn : n ≠ 0 := by
        rintro rfl
        exact h.socketBuffer hsize
      exact if_neg hn
  · have hidle : (fromSettings s).keepaliveIdleSecs = s.clampInPlace.keepaliveIdleSecs := rfl
    rw [keepalive, hidle]
    cases hzero : s.clampInPlace.keepaliveIdleSecs with
    | zero => rfl
    | succ idle =>
      have hne : s.clampInPlace.keepaliveIdleSecs ≠ 0 := by omega
      have hinterval := hfloor (h.keepaliveInterval.resolve_left hne)
      have hretries := hfloor (h.keepaliveRetries.resolve_left hne)
      rw [if_neg (Nat.succ_ne_zero idle)]
      exact congrArg some (KeepaliveConfig.mk.injEq _ _ _ _ _ _ ▸ ⟨rfl, hinterval, hretries⟩)

/-- Knobs that show settings in range are safe. -/
lemma Shows.safe {k : RuntimeKnobs} {c : Settings} (h : k.Shows c) (hc : c.InRange) : k.Safe where
  bufferBytes := by
    rw [h.bufferBytes]
    exact hc.buffer
  socketBufferBytes := by
    rw [h.socketBufferBytes]
    exact hc.socketBuffer
  connectTimeout := by
    rw [h.connectTimeout]
    exact Nat.pos_of_ne_zero hc.connect
  dnsTimeout := by
    rw [h.dnsTimeout]
    exact Nat.pos_of_ne_zero hc.dns
  keepalive := by
    intro ka hka
    rw [h.keepalive] at hka
    split at hka
    · cases hka
    · rename_i hidle
      obtain rfl := Option.some.inj hka
      exact ⟨Nat.pos_of_ne_zero hidle, Nat.pos_of_ne_zero (hc.keepaliveInterval.resolve_left hidle),
        Nat.pos_of_ne_zero (hc.keepaliveRetries.resolve_left hidle)⟩
  probeInterval := by
    rw [h.probeInterval]
    exact Nat.pos_of_ne_zero hc.probe
  unreachableAfter := by
    rw [h.unreachableAfter]
    exact Nat.pos_of_ne_zero hc.unreachable
  udpSessionTimeout := by
    rw [h.udpSessionTimeout]
    exact Nat.pos_of_ne_zero hc.sessionTimeout

end RuntimeKnobs

/-- **Validation and clamping agree.**  Clamping leaves valid settings alone and makes settings
with well-formed addresses valid, a second clamping changes nothing, and the knobs of a start or
of a reload return the clamped settings, which are in range. -/
theorem validate_clamp_agree (p : Parsers) (s : Settings) :
    (s.validate p = .ok () → s.clampInPlace = s) ∧
    (s.AddressesOk p → s.clampInPlace.validate p = .ok ()) ∧
    s.clampInPlace.clampInPlace = s.clampInPlace ∧
    (∀ k : RuntimeKnobs, (k.update s).Shows s.clampInPlace ∧ (k.update s).Safe) ∧
    ((RuntimeKnobs.fromSettings s).Shows s.clampInPlace ∧ (RuntimeKnobs.fromSettings s).Safe) := by
  have hrange := s.inRange_clampInPlace
  have hshows := RuntimeKnobs.shows_fromSettings s
  refine ⟨fun h => ?_, fun haddr => ?_, hrange.clampInPlace_eq, fun k => ?_, ?_⟩
  · exact (Settings.validate_eq_ok.mp h).1.clampInPlace_eq
  · -- clamping does not touch the addresses
    exact Settings.validate_eq_ok.mpr ⟨hrange, haddr.metrics, haddr.webhook⟩
  · rw [RuntimeKnobs.update_eq_fromSettings]
    exact ⟨hshows, hshows.safe hrange⟩
  · exact ⟨hshows, hshows.safe hrange⟩

/-- Default settings with a metrics address and a buffer that is too small. -/
theorem validate_clamp_agree_demo :
    let p : Parsers :=
      { parseUrl := fun _ => .error "relative URL without a base".toList
        isSocketAddr := fun s => s == "127.0.0.1:9100".toList }
    let s : Settings :=
      { Settings.default with metricsAddr := some "127.0.0.1:9100".toList, bufferBytes := 0 }
    s.AddressesOk p ∧ s.clampInPlace.validate p = .ok () ∧ s.clampInPlace ≠ s ∧
      Settings.default.validate p = .ok () ∧ Settings.default.clampInPlace = Settings.default := by
  intro p s
  have haddr : s.AddressesOk p := by
    refine ⟨fun addr h => ?_, fun raw h => ?_⟩
    · obtain rfl := Option.some.inj h
      decide
    · cases h
  have hdefault : Settings.default.validate p = .ok () := by decide
  exact ⟨haddr, (validate_clamp_agree p s).2.1 haddr, by decide, hdefault,
    (validate_clamp_agree p Settings.default).1 hdefault⟩

end Rfw
