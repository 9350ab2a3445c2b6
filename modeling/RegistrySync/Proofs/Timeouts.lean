import RegistrySync.Proofs.Clients
import RegistrySync.Proofs.Startup

/-!
# The time a request may take

A request to a Consul agent may take ten seconds longer than a listing waits. Making the agent adds
the two up, in a clock of 64 bits.

**Theorem (`timeout_overflows_iff`).** With settings that pass the check, making the agent and
making its watcher overflow the clock exactly when the endpoint is a URL to which segments can be
added and the sum does not fit, that is, for the ten greatest waits (`Agent.overruns_iff`). In every
other case both return: the agent with a timeout that is the exact sum, and the watcher with the
interval of the settings, or else a failure that the settings are at fault for. An endpoint of HTTP
is such a URL exactly when its authority names a host (`Agent.exists_reads_http_iff`).

The check of the settings asks for an endpoint and an interval and does not look at the wait
(`BackendSettings.check_consul_iff`), so such settings can pass it (`longest_wait_overflows`). The
check of the daemon does, and its start never overflows (`Daemon.start_ne_clockOverflow`).
-/

namespace RegistrySync

open Net

/-- Settings of a Consul agent are acceptable, however long the wait, when they have an endpoint and
an interval. -/
theorem BackendSettings.check_consul_iff {endpoint : String} {namespaceName : Option String}
    {tickInterval wait : UInt64} :
    (BackendSettings.consul endpoint namespaceName tickInterval wait).check = .ok () ↔
      endpoint ≠ "" ∧ tickInterval ≠ 0 := by
  simp [BackendSettings.check, bind_eq_ok_iff, demand_eq_ok_iff]

namespace Consul

namespace Agent

variable {endpoint : String} {base : Url} {wait : UInt64}

/-! ## Adding up -/

/-- How long a request to the agent may take, in seconds, as the clock adds it up. -/
def timeout (a : Agent) : UInt64 := a.wait + patience.toUInt64

/-- The wait and the patience on top of it are more than the clock can count. -/
def Overruns (wait : UInt64) : Prop := UInt64.size ≤ wait.toNat + patience

instance (wait : UInt64) : Decidable (Overruns wait) := inferInstanceAs (Decidable (_ ≤ _))

theorem overruns_iff : Overruns wait ↔ 18446744073709551606 ≤ wait := by
  have hsize : UInt64.size = 18446744073709551606 + patience := rfl
  have hbound : (18446744073709551606 : UInt64).toNat = 18446744073709551606 := rfl
  rw [Overruns, UInt64.le_iff_toNat_le, hsize, hbound]
  omega

theorem toNat_timeout {a : Agent} (h : ¬ Overruns a.wait) :
    a.timeout.toNat = a.wait.toNat + patience := by
  have hpatience : patience.toUInt64.toNat = patience := rfl
  rw [timeout, UInt64.toNat_add, hpatience]
  exact Nat.mod_eq_of_lt (Nat.lt_of_not_le h)

/-! ## Making the agent -/

/-- The endpoint is a URL to whose path segments can be added. -/
def Reads (endpoint : String) (base : Url) : Prop :=
  Url.parse endpoint = .ok base ∧ base.isBase = true

/-- An endpoint of HTTP reads as a URL when its authority names a host. -/
theorem exists_reads_http_iff
    (hhttp : "http://".toList <+: endpoint.toList ∨ "https://".toList <+: endpoint.toList) :
    (∃ base, Reads endpoint base) ↔ Url.NamesHost (Url.authorityOf endpoint) := by
  rw [← Url.exists_parse_http_iff hhttp]
  constructor
  · rintro ⟨base, hparse, -⟩
    exact ⟨base, hparse⟩
  · rintro ⟨base, hparse⟩
    exact ⟨base, hparse, Url.isBase_of_parse_http hhttp hparse⟩

/-- The empty text is no URL. -/
theorem Reads.ne_empty (h : Reads endpoint base) : endpoint ≠ "" := by
  rintro rfl
  have hempty : Url.parse "" = .error .relative := rfl
  rw [Reads, hempty] at h
  cases h.1

theorem connect_of_reads (h : Reads endpoint base) :
    connect endpoint wait = if Overruns wait then .error .clockOverflow else .ok ⟨base, wait⟩ := by
  rw [connect, if_neg h.ne_empty, h.1]
  simp only [h.2, Bool.not_true, Bool.false_eq_true, if_false]
  rfl

/-- An endpoint that does not read is refused before any time is added up. -/
theorem connect_of_not_reads (hendpoint : endpoint ≠ "") (h : ¬ ∃ base, Reads endpoint base) :
    ∃ message, connect endpoint wait = .error (.failure (.configuration message)) := by
  rw [connect, if_neg hendpoint]
  cases hparse : Url.parse endpoint with
  | error fault => exact ⟨_, rfl⟩
  | ok base =>
    have hbase : base.isBase = false := by
      rw [Bool.eq_false_iff]
      intro hbase
      exact h ⟨base, hparse, hbase⟩
    exact ⟨_, by simp only [hbase, Bool.not_false, if_true]; rfl⟩

/-- An agent is made of the endpoints that read, if the wait does not overrun. -/
theorem connect_eq_ok_iff {a : Agent} : connect endpoint wait = .ok a ↔
    Reads endpoint a.base ∧ a.wait = wait ∧ ¬ Overruns wait := by
  constructor
  · intro h
    by_cases hempty : endpoint = ""
    · rw [connect, if_pos hempty] at h
      cases h
    by_cases hreads : ∃ base, Reads endpoint base
    · obtain ⟨base, hbase⟩ := hreads
      rw [connect_of_reads hbase] at h
      split at h
      · cases h
      · next hwait =>
        cases h
        exact ⟨hbase, rfl, hwait⟩
    · obtain ⟨message, hrefused⟩ : ∃ message,
          connect endpoint wait = .error (.failure (.configuration message)) :=
        connect_of_not_reads hempty hreads
      rw [hrefused] at h
      cases h
  · rintro ⟨hreads, rfl, hwait⟩
    rw [connect_of_reads hreads, if_neg hwait]

end Agent

open Agent

/-- **The timeout overflows for the longest waits.** Let settings pass the check. Making the agent,
and making its watcher, overflow if and only if the endpoint reads as a URL and the wait overruns
the clock. Otherwise both are made, with the exact timeout and the interval of the settings, or both
fail for the settings. -/
theorem timeout_overflows_iff {σ : Type} (answer : Answerer ClientCall.Reply σ) (s : σ)
    {endpoint : String} {namespaceName : Option String} {tickInterval wait : UInt64}
    (hcheck :
      (BackendSettings.consul endpoint namespaceName tickInterval wait).check = .ok ()) :
    let agent := connect endpoint wait
    let made :=
      ((Maker.consul (.consul endpoint namespaceName tickInterval wait)).run answer s).1
    (agent = .error .clockOverflow ↔ Overruns wait ∧ ∃ base, Reads endpoint base) ∧
    (made = .error .clockOverflow ↔ Overruns wait ∧ ∃ base, Reads endpoint base) ∧
    (¬ (Overruns wait ∧ ∃ base, Reads endpoint base) →
      (∃ a : Agent, Reads endpoint a.base ∧ a.timeout.toNat = wait.toNat + patience ∧
        agent = .ok a ∧ made = .ok ⟨backend, tickInterval, .consul a namespaceName⟩) ∨
      (∃ message, agent = .error (.failure (.configuration message)) ∧
        made = .error (.failure (.configuration message)))) := by
  intro agent made
  have hendpoint := (BackendSettings.check_consul_iff.1 hcheck).1
  have hmade : made = agent.map fun a => ⟨backend, tickInterval, .consul a namespaceName⟩ := rfl
  by_cases hreads : ∃ base, Reads endpoint base
  · obtain ⟨base, hbase⟩ := hreads
    have hagent : agent = if Overruns wait then .error .clockOverflow else .ok ⟨base, wait⟩ :=
      connect_of_reads hbase
    rw [hmade, hagent]
    by_cases hwait : Overruns wait
    · have hboth : Overruns wait ∧ ∃ base, Reads endpoint base := ⟨hwait, base, hbase⟩
      rw [if_pos hwait]
      exact ⟨iff_of_true rfl hboth, iff_of_true rfl hboth, fun h => absurd hboth h⟩
    · have hnot : ¬ (Overruns wait ∧ ∃ base, Reads endpoint base) := fun h => hwait h.1
      rw [if_neg hwait]
      exact ⟨iff_of_false (by simp) hnot, iff_of_false (by simp [Except.map]) hnot,
        fun _ => .inl ⟨⟨base, wait⟩, hbase, toNat_timeout hwait, rfl, rfl⟩⟩
  · obtain ⟨message, hagent⟩ : ∃ message, agent = .error (.failure (.configuration message)) :=
      connect_of_not_reads hendpoint hreads
    have hnot : ¬ (Overruns wait ∧ ∃ base, Reads endpoint base) := fun h => hreads h.2
    rw [hmade, hagent]
    exact ⟨iff_of_false (by simp) hnot, iff_of_false (by simp [Except.map]) hnot,
      fun _ => .inr ⟨message, rfl, rfl⟩⟩

/-- The longest wait that does not overrun leaves a timeout of all 64 bits. -/
theorem longest_timeout :
    let settings := BackendSettings.consul "http://127.0.0.1:8500" none 10 18446744073709551605
    settings.check = .ok () ∧
    ∃ a : Agent, a.timeout = UInt64.ofNat (UInt64.size - 1) ∧
      ((Maker.consul settings).run CloudMap.buildAny ()).1 = .ok ⟨backend, 10, .consul a none⟩ := by
  intro settings
  have hcheck : settings.check = .ok () := rfl
  obtain ⟨-, -, hreturns⟩ := timeout_overflows_iff CloudMap.buildAny () hcheck
  have hwait : ¬ Overruns 18446744073709551605 := by decide
  obtain ⟨a, -, htimeout, -, hmade⟩ | ⟨message, hagent, -⟩ := hreturns fun h => hwait h.1
  · exact ⟨hcheck, a, UInt64.toNat_inj.1 htimeout, hmade⟩
  · have hconnect : ∃ a, connect "http://127.0.0.1:8500" 18446744073709551605 = .ok a := ⟨_, rfl⟩
    obtain ⟨a, ha⟩ := hconnect
    rw [ha] at hagent
    cases hagent

/-- The longest wait passes the check, and overflows when the watcher is made. -/
theorem longest_wait_overflows :
    let settings := BackendSettings.consul "http://127.0.0.1:8500" none 10 18446744073709551615
    settings.check = .ok () ∧
    connect "http://127.0.0.1:8500" 18446744073709551615 = .error .clockOverflow ∧
    ((Maker.consul settings).run CloudMap.buildAny ()).1 = .error .clockOverflow :=
  ⟨rfl, rfl, rfl⟩

end Consul

/-- The daemon accepts no wait that overruns the clock. -/
theorem Daemon.start_ne_clockOverflow (lookup : String → Option String) :
    Daemon.start lookup ≠ .broken .clockOverflow := by
  intro hstart
  by_cases haccepted : ∃ e, Environment.Accepted lookup e
  · obtain ⟨e, he⟩ := haccepted
    cases hparse : Url.parse e.endpoint with
    | ok base =>
      obtain ⟨r, hr⟩ := start_of_url he hparse
      rw [hr] at hstart
      cases hstart
    | error fault =>
      rw [start_of_fault he hparse] at hstart
      cases hstart
  · obtain ⟨line, hline⟩ := exists_refused_of_not_accepted haccepted
    rw [hline] at hstart
    cases hstart

end RegistrySync
