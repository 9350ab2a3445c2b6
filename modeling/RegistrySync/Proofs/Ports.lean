import RegistrySync.Proofs.Polling
import RegistrySync.Proofs.Surveys

/-!
# Ports that reach the control plane

**Theorem (`desired_spec_wellPorted`).** Whatever a Consul catalog or a Cloud Map directory tells of
ports, and however often it is asked, all endpoints that are desired of a host have ports, these are
numbers from 1 to 2³² - 1, and each is labelled with its protocol. The ports of the host are those
of its endpoints, in strictly ascending order, each with the name and the protocol of its number.

An endpoint gets its ports in one of two ways, from a number in this range or the two web ports
(`Endpoint.wellPorted_ofPort`, `Endpoint.wellPorted_web`), and both backends make their endpoints
so. A refresh publishes only what it was told (`wellPorted_absorb`), so all rosters have such
endpoints (`Consul.wellPorted_refresh`, `CloudMap.wellPorted_refresh`). The pairs of number and
label are told apart by both; since here the label is a function of the number, no number comes
twice (`portPairs_strictly_ascending`).
-/

namespace RegistrySync

/-! ## Endpoints -/

/-- Every port has a number that can be used and the label of its protocol. -/
def Endpoint.Labelled (e : Endpoint) : Prop :=
  ∀ label number, e.ports.find? label = some number →
    1 ≤ number.toNat ∧ number.toNat < UInt32.size ∧ label = protocolLabel number

/-- There are ports, and all are labelled. -/
structure Endpoint.WellPorted (e : Endpoint) : Prop where
  hasPort : ∃ label number, e.ports.find? label = some number
  labelled : e.Labelled

namespace Endpoint

theorem labelled_of_address (address : String) : ({ address : Endpoint }).Labelled := by
  rintro label number ⟨⟩

theorem Labelled.withPort {e : Endpoint} (h : e.Labelled) (number : UInt32) (hnumber : number ≠ 0) :
    (e.withPort (protocolLabel number) number).WellPorted where
  hasPort := by
    refine ⟨protocolLabel number, number, ?_⟩
    rw [Endpoint.withPort, Table.find?_insert, if_pos rfl]
  labelled := by
    intro label other hother
    rw [Endpoint.withPort, Table.find?_insert] at hother
    split at hother
    · next hlabel =>
      cases hother
      have hpos : number.toNat ≠ 0 := fun h => hnumber (UInt32.toNat_inj.1 h)
      exact ⟨Nat.one_le_iff_ne_zero.2 hpos, number.toNat_lt, hlabel⟩
    · exact h label other hother

theorem wellPorted_web (address : String) : (web address).WellPorted :=
  ((labelled_of_address address).withPort 80 (by decide)).labelled.withPort 443 (by decide)

theorem wellPorted_ofPort (address : String) (port : Int) : (ofPort address port).WellPorted := by
  rw [ofPort]
  split
  · next hport =>
    obtain ⟨hpos, hlt⟩ := hport
    refine (labelled_of_address address).withPort _ fun hzero => ?_
    have hnumber : port.toNat.toUInt32.toNat = port.toNat :=
      UInt32.toNat_ofNat_of_lt' (by omega)
    rw [hzero] at hnumber
    have hnumber : 0 = port.toNat := hnumber
    omega
  · exact wellPorted_web address

end Endpoint

theorem Consul.wellPorted_of_endpoint? {i : Consul.Instance} {e : Endpoint}
    (h : i.endpoint? = some e) : e.WellPorted := by
  rw [Consul.Instance.endpoint?] at h
  split at h
  · cases h
  · split at h <;> cases h
    · exact Endpoint.wellPorted_ofPort _ _
    · exact Endpoint.wellPorted_web _

theorem CloudMap.wellPorted_of_endpoint? {i : CloudMap.Instance} {e : Endpoint}
    (h : i.endpoint? = some e) : e.WellPorted := by
  obtain ⟨address, -, rfl⟩ := Option.map_eq_some_iff.1 h
  split
  · exact Endpoint.wellPorted_ofPort _ _
  · exact Endpoint.wellPorted_web _

/-! ## Memberships -/

/-- All endpoints of all hosts have labelled ports. -/
def Membership.WellPorted (m : Membership) : Prop :=
  ∀ host es, m.find? host = some es → ∀ e ∈ es, e.WellPorted

theorem Membership.wellPorted_empty : WellPorted .empty := by
  rintro host es ⟨⟩

/-- A roster stays so with every poll that has such news. -/
theorem wellPorted_absorb {r : Roster} {p : Poll} (hr : Membership.WellPorted r.hosts)
    (hp : ∀ members, p = .news members → Membership.WellPorted members) :
    Membership.WellPorted (r.absorb p).2.hosts := by
  cases p with
  | same => exact hr
  | failed reason => exact hr
  | news members =>
    intro host es hes e he
    rw [Roster.absorb, Roster.publish, Table.find?_map] at hes
    obtain ⟨told, htold, rfl⟩ := Option.map_eq_some_iff.1 hes
    exact hp members rfl host told htold e ((Endpoint.distinct_sublist told).subset he)

namespace Consul

open Dialogue

variable {σ : Type} {answer : Answerer Catalog.Call.Reply σ}

theorem wellPorted_describe (namespaceName : Option String) (names : List String) (s : σ) :
    Membership.WellPorted ((Poller.describe namespaceName names .empty).run answer s).1 := by
  intro service es hes e he
  rw [find?_describe, Table.find?_empty, Option.or_none] at hes
  obtain ⟨x, -, hx⟩ := List.mem_filterMap.1 (List.mem_of_getLast? hes)
  obtain ⟨ns, instances, -, -, -, rfl⟩ := heardOf?_eq_some_iff.1 hx
  obtain ⟨i, -, hi⟩ := List.mem_filterMap.1 he
  exact wellPorted_of_endpoint? hi

theorem wellPorted_refresh {f : Follower} (h : Membership.WellPorted f.roster.hosts) (s : σ) :
    Membership.WellPorted (f.refresh.run answer s).1.roster.hosts := by
  by_cases hnews : HasNews answer f s
  · obtain ⟨names, index, hreply, hindex⟩ := hnews
    rw [(refresh_of_news hreply hindex).1]
    refine wellPorted_absorb h (p := .news _) fun members hmembers => ?_
    cases hmembers
    exact wellPorted_describe _ _ _
  · rw [(refresh_of_quiet hnews).1]
    exact h

end Consul

namespace CloudMap

variable {σ : Type} {answer : Answerer Directory.Call.Reply σ}

theorem wellPorted_endpoints (space : Summary) (r : Report) :
    ∀ e ∈ r.endpoints space, e.WellPorted := by
  intro e he
  rw [Report.endpoints] at he
  split at he
  · obtain rfl := List.mem_singleton.1 he
    exact Endpoint.wellPorted_web _
  · obtain ⟨i, -, hi⟩ := List.mem_filterMap.1 he
    exact wellPorted_of_endpoint? hi

theorem wellPorted_hosts (survey : Survey) : Membership.WellPorted (Table.ofList survey.hosts) := by
  intro host es hes
  rw [Table.find?_ofList] at hes
  obtain ⟨c, -, hc⟩ := List.mem_flatMap.1 (Table.mem_of_lastOf? hes)
  obtain ⟨r, -, hr⟩ := List.mem_map.1 hc
  cases hr
  exact wellPorted_endpoints c.space r

theorem wellPorted_refresh {r : Roster} (h : Membership.WellPorted r.hosts) (s : σ) :
    Membership.WellPorted ((refresh r).run answer s).1.hosts := by
  rw [run_refresh]
  refine wellPorted_absorb h fun members hmembers => ?_
  obtain ⟨survey, hsurvey⟩ := exists_survey_of_news hmembers
  rw [hsurvey]
  exact wellPorted_hosts survey

end CloudMap

/-! ## The desired entry -/

/-- The endpoints have labelled ports, and the ports are theirs: each number once, in order, with
the name and the protocol that belong to it. -/
structure ServiceEntry.Spec.WellPorted (spec : Spec) : Prop where
  endpoints : ∀ e ∈ spec.endpoints, e.WellPorted
  listed : ∀ number, (∃ p ∈ spec.ports, p.number = number) ↔
    ∃ e ∈ spec.endpoints, ∃ label, e.ports.find? label = some number
  ascending : spec.ports.Pairwise fun p q => p.number < q.number
  named : ∀ p ∈ spec.ports, p.name = protocolLabel p.number
  protocol : ∀ p ∈ spec.ports, p.protocol =
    if p.number = 80 then "HTTP" else if p.number = 443 then "HTTPS" else "TCP"

theorem upper_protocolLabel (number : UInt32) : Text.upper (protocolLabel number) =
    if number = 80 then "HTTP" else if number = 443 then "HTTPS" else "TCP" := by
  rw [protocolLabel]
  split
  · rfl
  · split <;> rfl

section

variable {es : List Endpoint} (h : ∀ e ∈ es, e.WellPorted)
include h

theorem label_of_mem_portPairs {pair : UInt32 × String} (hpair : pair ∈ portPairs es) :
    pair.2 = protocolLabel pair.1 := by
  obtain ⟨e, he, hport⟩ := mem_portPairs.1 hpair
  exact ((h e he).labelled _ _ hport).2.2

/-- Two pairs with one number have one label, too. -/
theorem portPairs_strictly_ascending : (portPairs es).Pairwise fun p q => p.1 < q.1 := by
  have hpairwise := (portPairs_ascending es).and (nodup_portPairs es)
  refine hpairwise.imp_of_mem fun {p q} hp hq hpq => ?_
  refine UInt32.lt_of_le_of_ne hpq.1 fun hnumber => hpq.2 (Prod.ext hnumber ?_)
  rw [label_of_mem_portPairs h hp, label_of_mem_portPairs h hq, hnumber]

theorem ServiceEntry.wellPorted_desired (b : Backend) (namespaceName host : String) :
    (desired b namespaceName host es).spec.WellPorted := by
  have hmem : ∀ e, e ∈ Endpoint.byAddress es ↔ e ∈ es := fun e => List.mem_mergeSort
  refine ⟨fun e he => h e ((hmem e).1 he), fun number => ⟨?_, ?_⟩, ?_, ?_, ?_⟩
  · rintro ⟨p, hp, rfl⟩
    obtain ⟨⟨number, label⟩, hpair, rfl⟩ := List.mem_map.1 hp
    obtain ⟨e, he, hport⟩ := mem_portPairs.1 hpair
    exact ⟨e, (hmem e).2 he, label, hport⟩
  · rintro ⟨e, he, label, hport⟩
    exact ⟨_, List.mem_map_of_mem (mem_portPairs.2 ⟨e, (hmem e).1 he, hport⟩), rfl⟩
  · exact List.pairwise_map.2 (portPairs_strictly_ascending h)
  · intro p hp
    obtain ⟨pair, hpair, rfl⟩ := List.mem_map.1 hp
    exact label_of_mem_portPairs h hpair
  · intro p hp
    obtain ⟨pair, hpair, rfl⟩ := List.mem_map.1 hp
    show Text.upper pair.2 = _
    rw [label_of_mem_portPairs h hpair]
    exact upper_protocolLabel pair.1

end

/-- **Only labelled ports reach the control plane.** A watcher of a Consul catalog and one of a
Cloud Map directory refresh any number of times. Whatever they are told, what is desired of each
host that they publish has endpoints with labelled ports, and lists every port of these once. -/
theorem desired_spec_wellPorted {σ τ : Type} (catalog : Answerer Consul.Catalog.Call.Reply σ)
    (directory : Answerer CloudMap.Directory.Call.Reply τ) (consulNamespace : Option String)
    (s : σ) (t : τ) (k : Nat) (b : Backend) (namespaceName host : String) (es : List Endpoint) :
    let start : Consul.Follower := { poller := { namespaceName := consulNamespace } }
    let followed := (Dialogue.rounds catalog Consul.Follower.refresh start s k).1
    let collected := (Dialogue.rounds directory CloudMap.refresh {} t k).1
    followed.roster.endpoints? host = some es ∨ collected.endpoints? host = some es →
      (ServiceEntry.desired b namespaceName host es).spec.WellPorted := by
  intro start followed collected h
  have hfollowed : Membership.WellPorted followed.roster.hosts :=
    Dialogue.rounds_keep (P := fun f : Consul.Follower => Membership.WellPorted f.roster.hosts)
      (fun f v hf => Consul.wellPorted_refresh hf v) Membership.wellPorted_empty k
  have hcollected : Membership.WellPorted collected.hosts :=
    Dialogue.rounds_keep (P := fun r : Roster => Membership.WellPorted r.hosts)
      (fun r v hr => CloudMap.wellPorted_refresh hr v) Membership.wellPorted_empty k
  rcases h with h | h
  · exact ServiceEntry.wellPorted_desired (hfollowed host es h) b namespaceName host
  · exact ServiceEntry.wellPorted_desired (hcollected host es h) b namespaceName host

/-- A catalog with one service, whose instances have ports at the ends of the range and beyond. -/
def extremePorts : Answerer Consul.Catalog.Call.Reply Unit
  | .list .., u => (.ok (["web"], 1), u)
  | .instances service _, u =>
    (.ok [{ service, address := "10.0.0.1", port := -80 },
      { service, address := "10.0.0.2", port := 0 },
      { service, address := "10.0.0.3", port := 1 },
      { service, address := "10.0.0.4", port := 4294967295 },
      { service, address := "10.0.0.5", port := 4294967376 }], u)

/-- A directory with one service, whose instances give their ports as texts like these. -/
def writtenPorts : Answerer CloudMap.Directory.Call.Reply Unit
  | .namespaces, u => (.ok [⟨"1", "prod"⟩], u)
  | .services _, u => (.ok [⟨"2", "web"⟩], u)
  | .instances .., u =>
    (.ok (["80/tcp", "+8080", "4294967376"].map fun port => {
      attributes := (Table.empty.insert CloudMap.Instance.ipv4Key ("10.0.0." ++ port)).insert
        CloudMap.Instance.portKey port }), u)

/-- Numbers out of range, and texts that are no numbers, come to the two web ports. -/
theorem extreme_ports_wellPorted :
    let start : Consul.Follower := { poller := { namespaceName := none } }
    let followed := (Dialogue.rounds extremePorts Consul.Follower.refresh start () 1).1
    let collected := (Dialogue.rounds writtenPorts CloudMap.refresh {} () 1).1
    let es : List Endpoint := [.web "10.0.0.1", .web "10.0.0.2", .ofPort "10.0.0.3" 1,
      .ofPort "10.0.0.4" 4294967295, .web "10.0.0.5"]
    let es' : List Endpoint :=
      [.web "10.0.0.80/tcp", .ofPort "10.0.0.+8080" 8080, .web "10.0.0.4294967376"]
    let spec := (ServiceEntry.desired Consul.backend "mesh" "web" es).spec
    let spec' := (ServiceEntry.desired CloudMap.backend "mesh" "web.prod" es').spec
    followed.roster.endpoints? "web" = some es ∧ collected.endpoints? "web.prod" = some es' ∧
    spec.WellPorted ∧ spec'.WellPorted := by
  intro start followed collected es es' spec spec'
  have hes : followed.roster.endpoints? "web" = some es := by decide +kernel
  have hes' : collected.endpoints? "web.prod" = some es' := by decide +kernel
  have hall := desired_spec_wellPorted extremePorts writtenPorts none () () 1
  exact ⟨hes, hes', hall _ _ _ _ (.inl hes), hall _ _ _ _ (.inr hes')⟩

end RegistrySync
