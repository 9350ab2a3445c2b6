import RegistrySync.Proofs.NamedSegments
import RegistrySync.Proofs.Timeouts

/-!
# The URLs that describe services

An agent is asked for the instances of a service at a URL whose path ends in the name of the
service; a namespace only adds to its query (`Agent.instancesUrl_eq`).

**Theorem (`Agent.service_keeps_to_segment`).** Let an endpoint give an agent of the web, in whose
path no segment but the last is empty. Then whatever a service is called, short of nothing, dots and
line breaks (`Url.Nameable`),

- its URL is the one of the endpoint, with the path of the catalog and exactly one more segment,
  which decodes to the name;
- no other service has this URL;
- the endpoint without the slash at its end, or with one, gives the same URL.

**Proof.** The name is added as one segment to the stem of the path (`Url.append_of_nameable`), and
a slash at the end does not show in the stem (`Agent.serviceUrl_of_stem`). The URLs of two services
differ in their last segments only, and these decode to the names. What is read from the target of
a URL are whole segments; those of the endpoint are whole because they were read from a text
(`Url.exists_parts_of_parse`).
-/

namespace RegistrySync.Consul.Agent

open Net Url

variable {a : Agent} {endpoint : String} {wait : UInt64}

/-! ## The catalog of an agent -/

/-- The URL that describes a service, before a namespace is asked for. -/
def serviceUrl (a : Agent) (service : String) : Url := a.url ["v1", "catalog", "service", service]

theorem instancesUrl_eq (a : Agent) (service : String) (namespaceName : Option String) :
    a.instancesUrl service namespaceName =
      (a.serviceUrl service).addQuery (namespaceQuery namespaceName) := rfl

/-- The path below which services are described. -/
def catalogPath (a : Agent) : List (List Char) :=
  a.base.path.stem ++ ["v1".toList, "catalog".toList, "service".toList]

/-- An agent of the web, in whose path no segment but the last is empty. -/
structure Regular (a : Agent) : Prop where
  web : isWeb a.base.scheme = true
  base : a.base.isBase = true
  plain : a.base.path.Plain

theorem nameable_of_mem {name : String} (h : name ∈ ["v1", "catalog", "service"]) :
    Nameable name := by
  simp only [List.mem_cons, List.not_mem_nil, or_false] at h
  rcases h with rfl | rfl | rfl <;>
    exact ⟨by decide, by decide, by decide, by simp [isLineBreak]⟩

theorem serviceUrl_eq (ha : a.Regular) {service : String} (h : Nameable service) :
    a.serviceUrl service =
      { a.base with path := .segments (a.catalogPath ++ [segmentOf service]) } := by
  have hnames : ∀ n ∈ ["v1", "catalog", "service", service], Nameable n := by
    intro n hn
    have hn : n ∈ ["v1", "catalog", "service"] ++ [service] := hn
    rcases List.mem_append.1 hn with hn | hn
    · exact nameable_of_mem hn
    · rw [List.mem_singleton.1 hn]
      exact h
  rw [catalogPath, List.append_assoc]
  exact append_of_nameable ha.web ha.base ha.plain hnames

/-- Only the stem of its path shows in the URLs of an agent. -/
theorem serviceUrl_of_stem {path : UrlPath} (ha : a.Regular)
    (hb : Regular ⟨{ a.base with path }, wait⟩) (hstem : path.stem = a.base.path.stem)
    {service : String} (h : Nameable service) :
    serviceUrl ⟨{ a.base with path }, wait⟩ service = a.serviceUrl service := by
  rw [serviceUrl_eq ha h, serviceUrl_eq hb h, catalogPath, catalogPath, hstem]

/-- The segments before the service are whole. -/
theorem whole_catalogPath (hreads : Reads endpoint a.base) (hweb : isWeb a.base.scheme = true) :
    ∀ p ∈ a.catalogPath, Whole p := by
  obtain ⟨parts, hparts, hwhole⟩ := exists_parts_of_parse hweb hreads.1
  intro p hp
  rcases List.mem_append.1 hp with hp | hp
  · have hmem : p ∈ a.base.path.parts := UrlPath.stem_subset hp
    rw [hparts] at hmem
    exact hwhole p hmem
  · simp only [List.mem_cons, List.not_mem_nil, or_false] at hp
    rcases hp with rfl | rfl | rfl <;> simp [Whole]

/-! ## A slash at the end of the endpoint -/

/-- Without the slash at the end of its path an agent asks at the same URLs. -/
theorem Regular.of_emptyLast {path : UrlPath} (ha : a.Regular)
    (hlast : UrlPath.EmptyLast a.base.path path) : Regular ⟨{ a.base with path }, wait⟩ ∧
      ∀ service, Nameable service →
        serviceUrl ⟨{ a.base with path }, wait⟩ service = a.serviceUrl service := by
  obtain ⟨hplain, hstem⟩ := hlast.stem_eq ha.plain
  have hbase : ({ a.base with path } : Url).isBase = true := by
    obtain ⟨parts, rfl, -⟩ := hlast
    rfl
  have hb : Regular ⟨{ a.base with path }, wait⟩ := ⟨ha.web, hbase, hplain⟩
  exact ⟨hb, fun service h => serviceUrl_of_stem ha hb hstem h⟩

section

variable (hconnect : connect endpoint wait = .ok a) (hweb : isWeb a.base.scheme = true)
include hconnect hweb

/-- An endpoint without the slash at its end gives the same URLs. -/
theorem connect_of_losing_slash (hplain : a.base.path.Plain) {shorter : String}
    (hslash : LosesSlash endpoint shorter) : ∃ b, connect shorter wait = .ok b ∧
      ∀ service, Nameable service → b.serviceUrl service = a.serviceUrl service := by
  obtain ⟨hreads, -, hwait⟩ := connect_eq_ok_iff.1 hconnect
  obtain ⟨path, hlast, hparse⟩ := parse_of_losing_slash hslash hweb hreads.1
  have ha : a.Regular := ⟨hweb, hreads.2, hplain⟩
  obtain ⟨hb, hsame⟩ := ha.of_emptyLast hlast
  exact ⟨_, connect_eq_ok_iff.2 ⟨⟨hparse, hb.base⟩, rfl, hwait⟩, hsame⟩

/-- An endpoint with a slash at its end gives the same URLs, unless the slash follows another. -/
theorem connect_of_gaining_slash (hplain : a.base.path.Plain) {longer : String}
    (hslash : LosesSlash longer endpoint) : ∃ b, connect longer wait = .ok b ∧
      (b.base.path.Plain →
        ∀ service, Nameable service → b.serviceUrl service = a.serviceUrl service) := by
  obtain ⟨hreads, -, hwait⟩ := connect_eq_ok_iff.1 hconnect
  obtain ⟨path, hlast, hparse⟩ := parse_of_gaining_slash hslash hweb hreads.1
  have hbase : ({ a.base with path } : Url).isBase = true := by
    obtain ⟨parts, -, rfl | rfl⟩ := hlast <;> rfl
  have ha : a.Regular := ⟨hweb, hreads.2, hplain⟩
  refine ⟨⟨{ a.base with path }, wait⟩, connect_eq_ok_iff.2 ⟨⟨hparse, hbase⟩, rfl, hwait⟩,
    fun hplain' service h => ?_⟩
  have hb : Regular ⟨{ a.base with path }, wait⟩ := ⟨hweb, hbase, hplain'⟩
  exact serviceUrl_of_stem ha hb (hlast.stem_eq hplain').2.symm h

end

/-! ## Whatever the service is called -/

/-- **Services keep to their segment.** Let an endpoint give an agent of the web, and let no segment
of its path but the last be empty. The URL that describes a service is the one of the endpoint, with
the path of the catalog and one more segment, which decodes to the name of the service; and whoever
reads its target finds just that. Services of different names have different URLs. A slash at the
end makes no difference: neither a last empty segment of the path, nor the slash of a text that is
an endpoint with it or without it. -/
theorem service_keeps_to_segment (hconnect : connect endpoint wait = .ok a)
    (hweb : isWeb a.base.scheme = true) (hplain : a.base.path.Plain) :
    (∀ service, Nameable service → ∃ segment, OneSegment segment ∧
      Host.decodedText? segment = some service.toList ∧
      a.serviceUrl service = { a.base with path := .segments (a.catalogPath ++ [segment]) } ∧
      readTarget (a.serviceUrl service).target = (a.catalogPath ++ [segment], a.base.query)) ∧
    (∀ service other, Nameable service → Nameable other →
      (a.serviceUrl service).render = (a.serviceUrl other).render → service = other) ∧
    (∀ path, UrlPath.EmptyLast a.base.path path → ∀ service, Nameable service →
      serviceUrl ⟨{ a.base with path }, wait⟩ service = a.serviceUrl service) ∧
    (∀ shorter, LosesSlash endpoint shorter → ∃ b, connect shorter wait = .ok b ∧
      ∀ service, Nameable service → b.serviceUrl service = a.serviceUrl service) ∧
    (∀ longer, LosesSlash longer endpoint → ∃ b, connect longer wait = .ok b ∧
      (b.base.path.Plain →
        ∀ service, Nameable service → b.serviceUrl service = a.serviceUrl service)) := by
  have hreads := (connect_eq_ok_iff.1 hconnect).1
  have ha : a.Regular := ⟨hweb, hreads.2, hplain⟩
  refine ⟨?named, ?distinct, fun _ hlast => (ha.of_emptyLast hlast).2,
    fun _ => connect_of_losing_slash hconnect hweb hplain,
    fun _ => connect_of_gaining_slash hconnect hweb hplain⟩
  case named =>
    intro service h
    have hone := oneSegment_segmentOf h
    have hurl := serviceUrl_eq ha h
    refine ⟨segmentOf service, hone, decodedText?_segmentOf service, hurl, ?_⟩
    rw [hurl]
    refine readTarget_target rfl fun p hp => ?_
    rcases List.mem_append.1 hp with hp | hp
    · exact whole_catalogPath hreads hweb p hp
    · rw [List.mem_singleton.1 hp]
      exact hone.whole
  case distinct =>
    intro service other h hother heq
    rw [serviceUrl_eq ha h, serviceUrl_eq ha hother] at heq
    have hname := decodedText?_segmentOf service
    rw [eq_of_render heq, decodedText?_segmentOf, Option.some.injEq] at hname
    exact (String.toList_inj.1 hname).symm

/-- A name made of slashes, dots, marks and what looks encoded stays in its segment. -/
theorem awkward_service_keeps_to_segment :
    LosesSlash "http://127.0.0.1:8500/base/?dc=1" "http://127.0.0.1:8500/base?dc=1" ∧
    ∃ a b, connect "http://127.0.0.1:8500/base/?dc=1" 5 = .ok a ∧
      connect "http://127.0.0.1:8500/base?dc=1" 5 = .ok b ∧
      (a.serviceUrl "a/../b?c#%2F").render =
        "http://127.0.0.1:8500/base/v1/catalog/service/a%2F..%2Fb%3Fc%23%252F?dc=1" ∧
      b.serviceUrl "a/../b?c#%2F" = a.serviceUrl "a/../b?c#%2F" ∧
      ∃ segment, Host.decodedText? segment = some "a/../b?c#%2F".toList ∧
        readTarget (a.serviceUrl "a/../b?c#%2F").target =
          (["base".toList, "v1".toList, "catalog".toList, "service".toList, segment],
            some "dc=1".toList) := by
  have hslash : LosesSlash "http://127.0.0.1:8500/base/?dc=1" "http://127.0.0.1:8500/base?dc=1" :=
    ⟨"http://127.0.0.1:8500/base".toList, "?dc=1".toList, by simp [InPath], by simp [EndsPath],
      by decide, by decide⟩
  have hservice : Nameable "a/../b?c#%2F" :=
    ⟨by decide, by decide, by decide, by simp [isLineBreak]⟩
  obtain ⟨a, hconnect, hweb, hplain, hcatalog, hquery, hrender⟩ : ∃ a,
      connect "http://127.0.0.1:8500/base/?dc=1" 5 = .ok a ∧ isWeb a.base.scheme = true ∧
      a.base.path.Plain ∧
      a.catalogPath = ["base".toList, "v1".toList, "catalog".toList, "service".toList] ∧
      a.base.query = some "dc=1".toList ∧ (a.serviceUrl "a/../b?c#%2F").render =
        "http://127.0.0.1:8500/base/v1/catalog/service/a%2F..%2Fb%3Fc%23%252F?dc=1" :=
    ⟨_, rfl, rfl, by decide, rfl, rfl, rfl⟩
  obtain ⟨hnamed, -, -, hshorter, -⟩ := service_keeps_to_segment hconnect hweb hplain
  obtain ⟨segment, -, hsegment, -, htarget⟩ := hnamed _ hservice
  obtain ⟨b, hb, hsame⟩ := hshorter _ hslash
  rw [hcatalog, hquery] at htarget
  exact ⟨hslash, a, b, hconnect, hb, hrender, hsame _ hservice, segment, hsegment, htarget⟩

end RegistrySync.Consul.Agent
