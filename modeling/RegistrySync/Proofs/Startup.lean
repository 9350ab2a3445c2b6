import RegistrySync.Daemon.Startup
import RegistrySync.Proofs.Ownership
import RegistrySync.Proofs.WebUrls

/-!
# Which environments start

**Theorem (`start_succeeds_iff`).** The daemon refuses an environment, with status 1, exactly when
it cannot be read or does not pass the check. An environment that is accepted starts exactly when
the authority of its endpoint names a host. Otherwise the watcher of its agent cannot be made, and
the daemon ends with status 2.

The check looks at the beginning of the endpoint only, so that `http://` passes
(`scheme_alone_passes_check`). What else could go wrong the check finds (`check_eq_ok_iff`): the
wait it lets through does not reach the end of the clock, segments can be added to the path of every
URL of HTTP, and so a watcher is made of every URL (`makeWatchers_of_url`). A reconciler can always
be made for the one backend there is (`assemble_watchers`).
-/

namespace RegistrySync

open Net

/-- The settings of one Consul agent are acceptable when they name what cannot be left out. -/
theorem Settings.check_consul_iff {endpoint : String} {namespaceName : Option String}
    {tickInterval wait : UInt64} {cycle : CycleSettings} :
    Settings.check ⟨[.consul endpoint namespaceName tickInterval wait], cycle⟩ = .ok () ↔
      endpoint ≠ "" ∧ tickInterval ≠ 0 ∧ cycle.check = .ok () := by
  simp [Settings.check, BackendSettings.checkAll, BackendSettings.check, bind_eq_ok_iff,
    demand_eq_ok_iff]

namespace Daemon

/-! ## What is accepted -/

namespace Environment

/-- The variables can be read, and what they say passes the check. -/
def Accepted (lookup : String → Option String) (e : Environment) : Prop :=
  read lookup = .ok e ∧ e.check = .ok ()

/-- The endpoint begins as a URL of HTTP. -/
def BeginsHttp (e : Environment) : Prop :=
  "http://".toList <+: e.endpoint.toList ∨ "https://".toList <+: e.endpoint.toList

/-- What the check asks for. -/
structure Sound (e : Environment) : Prop where
  endpoint : e.BeginsHttp
  tickInterval : e.tickInterval ≠ 0
  wait : 1 ≤ e.wait ∧ e.wait ≤ 600
  namespaceName : e.namespaceName ≠ ""
  syncInterval : 1 ≤ e.syncInterval ∧ e.syncInterval ≤ 3600
  storeKind : e.storeKind = ObjectStore.kindName
  level : ∃ level, e.level = .ok level

theorem BeginsHttp.endpoint_ne {e : Environment} (h : e.BeginsHttp) : e.endpoint ≠ "" := by
  intro hempty
  rw [BeginsHttp, hempty] at h
  revert h
  decide

theorem Sound.check_cycle {e : Environment} (h : e.Sound) : e.settings.cycle.check = .ok () := by
  have hinterval : e.syncInterval ≠ 0 := by
    intro hzero
    have hpos := h.syncInterval.1
    rw [hzero] at hpos
    revert hpos
    decide
  simp [settings, CycleSettings.check, bind_eq_ok_iff, demand_eq_ok_iff, hinterval,
    h.namespaceName]

theorem check_eq_ok_iff {e : Environment} : e.check = .ok () ↔ e.Sound := by
  have hscheme : e.hasHttpScheme ↔ e.BeginsHttp := by
    rw [hasHttpScheme, Bool.or_eq_true, List.isPrefixOf_iff_prefix, List.isPrefixOf_iff_prefix,
      BeginsHttp]
  have hsettings : e.settings.check = .ok () ↔
      e.endpoint ≠ "" ∧ e.tickInterval ≠ 0 ∧ e.settings.cycle.check = .ok () :=
    Settings.check_consul_iff
  simp only [check, bind_eq_ok_iff, demand_eq_ok_iff, exists_const, hscheme,
    decide_eq_true_eq, Bool.and_eq_true, beq_iff_eq]
  constructor
  · rintro ⟨-, hhttp, hstore, hnamespace, hsync, hwait, level, hlevel, hrest⟩
    have hcheck : e.settings.check = .ok () := by
      split at hrest
      · assumption
      · cases hrest
    exact ⟨hhttp, (hsettings.1 hcheck).2.1, hwait, hnamespace, hsync, hstore, level, hlevel⟩
  · intro h
    obtain ⟨level, hlevel⟩ := h.level
    refine ⟨h.endpoint.endpoint_ne, h.endpoint, h.storeKind, h.namespaceName, h.syncInterval,
      h.wait, level, hlevel, ?_⟩
    rw [hsettings.2 ⟨h.endpoint.endpoint_ne, h.tickInterval, h.check_cycle⟩]

end Environment

/-! ## What is made -/

/-- The failure to make a watcher for an endpoint that is no URL. -/
def unreadable (endpoint : String) (fault : UrlFault) : Refusal :=
  .failure (.configuration ("error parsing endpoint " ++ endpoint ++ ": " ++ fault.message))

theorem makeWatchers_consul (endpoint : String) (namespaceName : Option String)
    (tickInterval wait : UInt64) :
    makeWatchers [.consul endpoint namespaceName tickInterval wait] =
      (Consul.Agent.connect endpoint wait).map fun agent =>
        [⟨Consul.backend, tickInterval, .consul agent namespaceName⟩] := by
  show ((Consul.Agent.connect endpoint wait).map _ >>= _) = _
  cases Consul.Agent.connect endpoint wait <;> rfl

theorem assemble_of_ok {settings : Settings} {watchers : List Watcher} {reconciler : Reconciler}
    (hmake : makeWatchers settings.backends = .ok watchers)
    (hassemble :
      Reconciler.assemble (watchers.map (·.backend)) settings.cycle = .ok reconciler) :
    assemble settings = .ok ⟨watchers, reconciler⟩ := by
  rw [assemble, bind_eq_ok_iff]
  exact ⟨watchers, hmake, bind_eq_ok_iff.2 ⟨reconciler, hassemble, rfl⟩⟩

namespace Environment.Sound

variable {e : Environment}

/-- A watcher is made of every URL. -/
theorem makeWatchers_of_url (h : e.Sound) {base : Url} (hparse : Url.parse e.endpoint = .ok base) :
    makeWatchers e.settings.backends =
      .ok [⟨Consul.backend, e.tickInterval, .consul ⟨base, e.wait⟩ e.consulNamespace⟩] := by
  have hwait : ¬ UInt64.size ≤ e.wait.toNat + Consul.Agent.patience := by
    have hle : e.wait.toNat ≤ 600 := UInt64.le_iff_toNat_le.1 h.wait.2
    have hpatience : Consul.Agent.patience = 10 := rfl
    have hsize : UInt64.size = 18446744073709551616 := rfl
    omega
  have hconnect : Consul.Agent.connect e.endpoint e.wait = .ok ⟨base, e.wait⟩ := by
    simp [Consul.Agent.connect, h.endpoint.endpoint_ne, hparse,
      Url.isBase_of_parse_http h.endpoint hparse, hwait]
  show makeWatchers [.consul e.endpoint e.consulNamespace e.tickInterval e.wait] = _
  rw [makeWatchers_consul, hconnect]
  rfl

/-- No watcher is made of a text that is no URL. -/
theorem makeWatchers_of_fault (h : e.Sound) {fault : UrlFault}
    (hparse : Url.parse e.endpoint = .error fault) :
    makeWatchers e.settings.backends = .error (unreadable e.endpoint fault) := by
  have hconnect : Consul.Agent.connect e.endpoint e.wait =
      .error (unreadable e.endpoint fault) := by
    simp [Consul.Agent.connect, h.endpoint.endpoint_ne, hparse, unreadable]
  show makeWatchers [.consul e.endpoint e.consulNamespace e.tickInterval e.wait] = _
  rw [makeWatchers_consul, hconnect]
  rfl

/-- The watcher of the agent is all that a reconciler needs. -/
theorem assemble_watchers (h : e.Sound) {watchers : List Watcher}
    (hmake : makeWatchers e.settings.backends = .ok watchers) :
    Reconciler.assemble (watchers.map (·.backend)) e.settings.cycle =
      .ok ⟨[Consul.backend], e.settings.cycle⟩ := by
  have hbackends : watchers.map (·.backend) = [Consul.backend] := by
    cases hparse : Url.parse e.endpoint with
    | error fault =>
      rw [h.makeWatchers_of_fault hparse] at hmake
      cases hmake
    | ok base =>
      rw [h.makeWatchers_of_url hparse] at hmake
      cases hmake
      rfl
  have hapart : Backend.Apart [Consul.backend] := Backend.checkScopes_eq_ok_iff.1 rfl
  -- The environment leaves the capacity of the queue as it is by default.
  have hfits : e.settings.cycle.eventCapacity.toNat ≤ EventQueue.maxCapacity := by
    show (1000 : UInt64).toNat ≤ EventQueue.maxCapacity
    decide
  rw [hbackends, Reconciler.assemble_eq_ok_iff]
  exact ⟨⟨h.check_cycle, hfits⟩, hapart, rfl⟩

end Environment.Sound

/-! ## How a start comes out -/

section

variable {lookup : String → Option String} {e : Environment}

theorem exists_refused_of_not_accepted (h : ¬ ∃ e, Environment.Accepted lookup e) :
    ∃ line, start lookup = .refused line := by
  unfold start
  split
  · exact ⟨_, rfl⟩
  · next e hread =>
    split
    · exact ⟨_, rfl⟩
    · next hcheck => exact absurd ⟨e, hread, hcheck⟩ h

theorem start_of_accepted (h : Environment.Accepted lookup e) :
    start lookup = match assemble e.settings with
      | .error refusal => .broken refusal
      | .ok r => .running r := by
  cases hassemble : assemble e.settings <;> simp [start, h.1, h.2, hassemble]

theorem start_of_url (h : Environment.Accepted lookup e) {base : Url}
    (hparse : Url.parse e.endpoint = .ok base) : ∃ r, start lookup = .running r := by
  have hsound := Environment.check_eq_ok_iff.1 h.2
  have hmake := hsound.makeWatchers_of_url hparse
  have hassemble := hsound.assemble_watchers hmake
  exact ⟨_, by rw [start_of_accepted h, assemble_of_ok hmake hassemble]⟩

theorem start_of_fault (h : Environment.Accepted lookup e) {fault : UrlFault}
    (hparse : Url.parse e.endpoint = .error fault) :
    start lookup = .broken (unreadable e.endpoint fault) := by
  have hmake := (Environment.check_eq_ok_iff.1 h.2).makeWatchers_of_fault hparse
  rw [start_of_accepted h, assemble, hmake]
  rfl

/-- An accepted environment never ends in a refusal. -/
theorem exitCode_ne_one_of_accepted (h : Environment.Accepted lookup e) :
    (start lookup).exitCode ≠ 1 := by
  rw [start_of_accepted h]
  cases assemble e.settings <;> simp [Startup.exitCode]

end

/-- An environment is refused exactly when it is not accepted. An accepted environment starts
exactly when the authority of its endpoint names a host. When it does not, the endpoint is no URL,
its watcher cannot be made, and the daemon ends with status 2; what is made of watchers is never at
fault. -/
theorem start_succeeds_iff (lookup : String → Option String) :
    ((start lookup).exitCode = 1 ↔ ¬ ∃ e, Environment.Accepted lookup e) ∧
    ∀ e, Environment.Accepted lookup e →
      ((∃ r, start lookup = .running r) ↔ Url.NamesHost (Url.authorityOf e.endpoint)) ∧
      (¬ Url.NamesHost (Url.authorityOf e.endpoint) →
        (start lookup).exitCode = 2 ∧ ∃ fault, Url.parse e.endpoint = .error fault ∧
          makeWatchers e.settings.backends = .error (unreadable e.endpoint fault)) ∧
      (∀ watchers, makeWatchers e.settings.backends = .ok watchers → ∃ reconciler,
        Reconciler.assemble (watchers.map (·.backend)) e.settings.cycle = .ok reconciler) := by
  refine ⟨⟨?refused, ?unaccepted⟩, fun e he => ?accepted⟩
  case refused =>
    rintro hcode ⟨e, he⟩
    exact exitCode_ne_one_of_accepted he hcode
  case unaccepted =>
    intro h
    obtain ⟨line, hline⟩ := exists_refused_of_not_accepted h
    rw [hline, Startup.exitCode]
  case accepted =>
    have hsound := Environment.check_eq_ok_iff.1 he.2
    have hnames := Url.exists_parse_http_iff hsound.endpoint
    cases hparse : Url.parse e.endpoint with
    | ok base =>
      have hhost := hnames.1 ⟨base, hparse⟩
      exact ⟨iff_of_true (start_of_url he hparse) hhost, fun h => absurd hhost h,
        fun _ hmake => ⟨_, hsound.assemble_watchers hmake⟩⟩
    | error fault =>
      have hstart := start_of_fault he hparse
      have hhost : ¬ Url.NamesHost (Url.authorityOf e.endpoint) := by
        intro h
        obtain ⟨base, hbase⟩ := hnames.2 h
        rw [hparse] at hbase
        cases hbase
      refine ⟨iff_of_false ?_ hhost, fun _ => ⟨?_, fault, rfl, ?_⟩,
        fun _ hmake => ⟨_, hsound.assemble_watchers hmake⟩⟩
      · rintro ⟨r, hr⟩
        rw [hstart] at hr
        cases hr
      · rw [hstart, Startup.exitCode]
      · exact hsound.makeWatchers_of_fault hparse

/-- The environment that gives an endpoint and nothing else. -/
def ofEndpoint (endpoint : String) : String → Option String :=
  fun key => if key = "MESHSYNC_CONSUL_ENDPOINT" then some endpoint else none

/-- A scheme without a host is accepted, and then no watcher can be made. -/
theorem scheme_alone_passes_check :
    (∃ e, Environment.Accepted (ofEndpoint "http://") e ∧
      makeWatchers e.settings.backends = .error (unreadable "http://" .emptyHost)) ∧
    (start (ofEndpoint "http://")).exitCode = 2 :=
  ⟨⟨_, ⟨rfl, rfl⟩, rfl⟩, rfl⟩

example : ∃ r, start (ofEndpoint "https://reader@[::1]:8501/consul") = .running r := ⟨_, rfl⟩

end Daemon

end RegistrySync
