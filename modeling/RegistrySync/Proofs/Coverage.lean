import Mathlib.Data.List.Nodup
import Mathlib.Data.List.Perm.Subperm
import RegistrySync.Proofs.Surveys

/-!
# Which services a poll covers

**Theorem (`poll_covers_iff`).** When no call to the directory fails, a poll has news of every host
name, with the endpoints of the last service that has it. So each service is there with exactly its
own endpoints, and no host is missing, if and only if no two services clash: they differ in a name,
and the dot that joins the names of one is not a dot within a name of the other.

The names of a service and its namespace are joined by a dot, and both may have dots of their own. A
host name therefore does not tell where the one ends and the other begins
(`nested_service_is_lost`), unless service names have no dots (`clash_iff_of_no_dot`).

A poll to which no call fails has the hosts of a whole survey (`ends_poll`), so that what is looked
up is the last service of the survey with that host name (`Content.latest`), and the survey is all
that the directory holds (`Content.hosts_of_log`).
-/

namespace RegistrySync.CloudMap

/-- What a directory holds. -/
structure Content where
  spaces : List Summary
  /-- The services of the namespace with this identifier. -/
  services : String → List Summary
  /-- The instances of a namespace and a service, both given by name. -/
  instances : String → String → List Instance

/-- A service and its namespace. -/
abbrev Place := Summary × Summary

def Place.host (p : Place) : String := hostName p.1 p.2

namespace Content

variable (d : Content)

/-- Every question is answered. -/
def answer : Answerer Directory.Call.Reply Unit
  | .namespaces, u => (.ok d.spaces, u)
  | .services id, u => (.ok (d.services id), u)
  | .instances space service, u => (.ok (d.instances space service), u)

/-- The services of a namespace. -/
def placesIn (space : Summary) : List Place :=
  (d.services space.id).map fun service => (service, space)

/-- The services of all namespaces. -/
def places : List Place := d.spaces.flatMap d.placesIn

/-- The endpoints that its instances stand for, or its own host name if it has none. -/
def endpointsOf (p : Place) : List Endpoint :=
  endpoints (orCname p.host (d.instances p.2.name p.1.name))

/-- The last service with this host name. -/
def latest (host : String) (ps : List Place) : Option Place :=
  (ps.filter fun p => p.host = host).getLast?

theorem latest_eq_some {host : String} {ps : List Place} {p : Place} (h : latest host ps = some p) :
    p ∈ ps ∧ p.host = host := by
  simpa using List.mem_filter.1 (List.mem_of_getLast? h)

theorem latest_eq_none_iff {host : String} {ps : List Place} :
    latest host ps = none ↔ ∀ p ∈ ps, p.host ≠ host := by
  rw [latest, List.getLast?_eq_none_iff, List.filter_eq_nil_iff]
  simp

/-! ## What a poll has news of -/

variable {d}

/-- The directory fails no call. -/
theorem answer_ne_failure (c : Directory.Call) (f : Failure) : (d.answer c ()).1 ≠ c.failure f := by
  cases c <;> rintro ⟨⟩

/-- A survey with replies of the directory has the hosts of all its services. -/
theorem hosts_of_log {survey : Survey} (h : ∀ e ∈ survey.log, e.2 = (d.answer e.1 ()).1) :
    survey.hosts = d.places.map fun p => (p.host, d.endpointsOf p) := by
  have hspaces : survey.map (·.space) = d.spaces := Except.ok.inj (h _ List.mem_cons_self)
  have hchapter : ∀ c ∈ survey,
      c.hosts = (d.placesIn c.space).map fun p => (p.host, d.endpointsOf p) := by
    intro c hc
    have hlog : ∀ e ∈ c.log, e.2 = (d.answer e.1 ()).1 := fun e he =>
      h e (List.mem_cons_of_mem _ (List.mem_flatMap.2 ⟨c, hc, he⟩))
    have hservices : c.reports.map (·.service) = d.services c.space.id :=
      Except.ok.inj (hlog _ List.mem_cons_self)
    rw [placesIn, ← hservices, List.map_map, List.map_map, Chapter.hosts]
    refine List.map_congr_left fun r hr => ?_
    have hinstances : r.instances = d.instances c.space.name r.service.name :=
      Except.ok.inj (hlog _ (List.mem_cons_of_mem _ (List.mem_map_of_mem hr)))
    rw [← endpoints_orCname, hinstances]
    rfl
  rw [Survey.hosts, places, ← hspaces, List.flatMap_map, List.map_flatMap]
  exact List.flatMap_congr hchapter

/-- **A poll has news of all services; of those with one host name it has the last.** -/
theorem run_poll (d : Content) : ∃ members,
    poll.run d.answer () = (.news members, ()) ∧
      ∀ host, members.find? host = (latest host d.places).map d.endpointsOf := by
  obtain ⟨survey, result, hends, hresult⟩ := ends_poll d.answer ()
  have hlog : ∀ e ∈ poll.log d.answer (), e.2 = (d.answer e.1 ()).1 := by
    intro e he
    obtain ⟨x, -, rfl⟩ := List.mem_map.1 he
    rfl
  generalize poll.log d.answer () = log at hends hlog
  cases hends with
  | broken before doing f hwhole =>
    exact absurd (hlog _ (List.mem_append_right _ List.mem_cons_self)).symm (answer_ne_failure _ f)
  | whole =>
    refine ⟨Table.ofList survey.hosts, Prod.ext hresult rfl, fun host => ?_⟩
    rw [Table.find?_ofList, hosts_of_log hlog, Table.lastOf?, latest, List.filter_map,
      List.getLast?_map, Option.map_map]
    rfl

/-! ## Services with one host name -/

section

variable {members : Membership} {ps : List Place} {f : Place → List Endpoint}
  (hfind : ∀ host, members.find? host = (latest host ps).map f)
include hfind

theorem mem_keys_iff {host : String} : host ∈ members.keys ↔ host ∈ ps.map Place.host := by
  rw [← Table.contains_iff, Table.contains, hfind, Option.isSome_map, Option.isSome_iff_ne_none,
    Ne, latest_eq_none_iff]
  simp

/-- Every service is there, and nothing else, exactly when no two have one host name. -/
theorem covers_iff_nodup :
    (∀ p ∈ ps, members.find? p.host = some (f p)) ∧ members.size = ps.length ↔
      (ps.map Place.host).Nodup := by
  have hsize : members.size = members.keys.length := (List.length_map _).symm
  rw [hsize]
  constructor
  · rintro ⟨-, hlength⟩
    have hsub : members.keys.Subperm (ps.map Place.host) :=
      List.subperm_of_subset members.keys_nodup fun host hhost => (mem_keys_iff hfind).1 hhost
    have hperm := hsub.perm_of_length_le (by simp [hlength])
    exact hperm.nodup members.keys_nodup
  · intro hnodup
    have hperm : members.keys.Perm (ps.map Place.host) :=
      (List.perm_ext_iff_of_nodup members.keys_nodup hnodup).2 fun _ => mem_keys_iff hfind
    refine ⟨fun p hp => ?_, by rw [hperm.length_eq, List.length_map]⟩
    cases hlatest : latest p.host ps with
    | none => exact absurd rfl (latest_eq_none_iff.1 hlatest p hp)
    | some q =>
      obtain ⟨hq, hhost⟩ := latest_eq_some hlatest
      rw [hfind, hlatest, List.inj_on_of_nodup_map hnodup hq hp hhost]
      rfl

end

end Content

/-- The dot behind the name of the second service is one within the name of the first. -/
def Straddles (p q : Place) : Prop :=
  ∃ middle, p.1.name = q.1.name ++ "." ++ middle ∧ q.2.name = middle ++ "." ++ p.2.name

theorem straddles_iff {p q : Place} : Straddles p q ↔ ∃ middle : List Char,
    p.1.name.toList = q.1.name.toList ++ '.' :: middle ∧
      q.2.name.toList = middle ++ '.' :: p.2.name.toList := by
  simp only [Straddles, ← String.toList_inj, String.toList_append]
  constructor
  · rintro ⟨middle, hservice, hspace⟩
    exact ⟨middle.toList, by simpa using hservice, by simpa using hspace⟩
  · rintro ⟨middle, hservice, hspace⟩
    exact ⟨String.ofList middle, by simpa using hservice, by simpa using hspace⟩

/-- Both services and their namespaces have the same names, or the dot between the names of one is a
dot within a name of the other. -/
def Clash (p q : Place) : Prop :=
  p.1.name = q.1.name ∧ p.2.name = q.2.name ∨ Straddles p q ∨ Straddles q p

/-- Two services have one host name exactly when their names clash. -/
theorem host_eq_iff {p q : Place} : p.host = q.host ↔ Clash p q := by
  have hhost : p.host = q.host ↔
      p.1.name.toList ++ '.' :: p.2.name.toList = q.1.name.toList ++ '.' :: q.2.name.toList := by
    simp [Place.host, hostName, ← String.toList_inj]
  rw [hhost, Clash, straddles_iff, straddles_iff, ← String.toList_inj, ← String.toList_inj]
  constructor
  · intro h
    -- The longer of the two service names begins with the other; what it has more is empty or
    -- begins with the dot.
    rcases List.append_eq_append_iff.1 h with ⟨_ | ⟨c, middle⟩, hservice, hspace⟩ |
      ⟨_ | ⟨c, middle⟩, hservice, hspace⟩
    · exact .inl ⟨by simpa using hservice.symm, by simpa using hspace⟩
    · obtain ⟨rfl, hrest⟩ := List.cons.inj hspace
      exact .inr (.inr ⟨middle, hservice, hrest⟩)
    · exact .inl ⟨by simpa using hservice, by simpa using hspace.symm⟩
    · obtain ⟨rfl, hrest⟩ := List.cons.inj hspace
      exact .inr (.inl ⟨middle, hservice, hrest⟩)
  · rintro (⟨hservice, hspace⟩ | ⟨middle, hservice, hspace⟩ | ⟨middle, hservice, hspace⟩)
    · rw [hservice, hspace]
    · rw [hservice, hspace, List.append_assoc, List.cons_append]
    · rw [hservice, hspace, List.append_assoc, List.cons_append]

/-- Services whose names have no dots clash only when all their names are the same. -/
theorem clash_iff_of_no_dot {p q : Place} (hp : '.' ∉ p.1.name.toList)
    (hq : '.' ∉ q.1.name.toList) :
    Clash p q ↔ p.1.name = q.1.name ∧ p.2.name = q.2.name := by
  have hnot : ∀ {p q : Place}, '.' ∉ p.1.name.toList → ¬ Straddles p q := by
    rintro p q hp hstraddles
    obtain ⟨middle, hservice, -⟩ := straddles_iff.1 hstraddles
    rw [hservice] at hp
    simp at hp
  exact or_iff_left fun h => h.elim (hnot hp) (hnot hq)

/-- When no call fails, a poll has news: for each host name the endpoints of the last service that
has it. Every service is there with exactly its own endpoints, and there are as many hosts as
services, if and only if no two services clash. -/
theorem poll_covers_iff (d : Content) : ∃ members,
    poll.run d.answer () = (.news members, ()) ∧
    (∀ host, members.find? host = (Content.latest host d.places).map d.endpointsOf) ∧
    ((∀ p ∈ d.places, members.find? p.host = some (d.endpointsOf p)) ∧
      members.size = d.places.length ↔ d.places.Pairwise fun p q => ¬ Clash p q) := by
  obtain ⟨members, hpoll, hfind⟩ := Content.run_poll d
  refine ⟨members, hpoll, hfind, ?_⟩
  rw [Content.covers_iff_nodup hfind, List.Nodup, List.pairwise_map]
  simp only [ne_eq, host_eq_iff]

/-- Services of two namespaces, of which one name goes on where the other begins. -/
def nested : Content where
  spaces := [⟨"outer", "c"⟩, ⟨"inner", "b.c"⟩]
  services id := if id = "outer" then [⟨"1", "a.b"⟩] else [⟨"2", "a"⟩]
  instances space _ := [{
    attributes := (Table.empty.insert Instance.ipv4Key
      (if space = "c" then "10.0.0.1" else "10.0.0.2")).insert Instance.portKey "80" }]

/-- Two services in different namespaces, and one host. -/
theorem nested_service_is_lost :
    nested.places.length = 2 ∧
    nested.places.map nested.endpointsOf =
      [[.ofPort "10.0.0.1" 80], [.ofPort "10.0.0.2" 80]] ∧
    poll.run nested.answer () =
      (.news (Table.empty.insert "a.b.c" [.ofPort "10.0.0.2" 80]), ()) :=
  ⟨rfl, by decide +kernel, by rfl⟩

end RegistrySync.CloudMap
