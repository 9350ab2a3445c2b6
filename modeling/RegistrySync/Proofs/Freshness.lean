import RegistrySync.Proofs.Polling

/-!
# What a poll without news says about a Consul catalog

A poller remembers the index of a listing before it has described the listed services. When a
description fails, the service is left out of what is published, and as long as the index does not
move no later poll asks for it again.

**Theorem (`unchanged_is_fresh_iff`).** When a poll has no news at index `i`, what is published goes
back to one refresh, the last with news, which listed at index `i`; it is what the descriptions of
that refresh told. If the index stayed where it was meanwhile, this is the catalog at index `i`
exactly when every service with an endpoint was described without an error.
`flaky_service_stays_hidden` shows one failure after which all polls succeed, none has news, and the
service is never published.

The server counts its calls, and both its index and its failures are functions of the count, so that
they can change between any two calls. What is published after a number of refreshes depends on the
last news among them only (`CatalogServer.followed_eq_or`).
-/

namespace RegistrySync.Consul

/-- A catalog server. What it tells is a function of its index. -/
structure CatalogServer where
  names : UInt64 → List String
  instances : UInt64 → String → List Instance
  /-- The index when so many calls have been made. -/
  index : Nat → UInt64
  index_ne : ∀ n, index n ≠ 0
  /-- Why a call fails when so many have been made before, if it does. -/
  failure? : Nat → Option Failure

namespace CatalogServer

variable (server : CatalogServer) (namespaceName : Option String)

/-- This reply, unless the call fails. -/
def reply {α : Type} (n : Nat) (a : α) : Except Failure α :=
  match server.failure? n with
  | some f => .error f
  | none => .ok a

def answer : Answerer Catalog.Call.Reply Nat
  | .list _ _, n => (server.reply n (server.names (server.index n), server.index n), n + 1)
  | .instances name _, n => (server.reply n (server.instances (server.index n) name), n + 1)

/-- The endpoints of a service at an index. -/
def endpoints (i : UInt64) (service : String) : List Endpoint :=
  (server.instances i service).filterMap Instance.endpoint?

/-- What is to be published for a service at an index. -/
def published? (i : UInt64) (service : String) : Option (List Endpoint) :=
  if service ∈ server.names i ∧ server.endpoints i service ≠ [] then
    some (Endpoint.distinct (server.endpoints i service))
  else none

/-- The roster is that of the catalog at the index. -/
def UpToDate (i : UInt64) (r : Roster) : Prop :=
  ∀ service, r.endpoints? service = server.published? i service

/-- The endpoints that a call tells of a service, if it tells any. -/
def told? (service : String) : Catalog.Call × Nat → Option (List Endpoint)
  | (.instances name _, n) =>
    let told := server.endpoints (server.index n) service
    if name = service ∧ server.failure? n = none ∧ told ≠ [] then some told else none
  | (.list .., _) => none

/-- What calls tell of a service last. -/
def latest? (service : String) (calls : List (Catalog.Call × Nat)) : Option (List Endpoint) :=
  (calls.filterMap (server.told? service)).getLast?

/-- One of the calls is to describe the service. -/
def Asked (service : String) (calls : List (Catalog.Call × Nat)) : Prop :=
  ∃ ns n, (.instances service ns, n) ∈ calls

/-- One of the calls is to describe the service, and does not fail. -/
def Described (service : String) (calls : List (Catalog.Call × Nat)) : Prop :=
  ∃ ns n, (.instances service ns, n) ∈ calls ∧ server.failure? n = none

/-! ## Runs of refreshes -/

/-- A new follower after so many refreshes, and the calls made by then. -/
def followed : Nat → Follower × Nat
  | 0 => ({ poller := { namespaceName } }, 0)
  | k + 1 => (followed k).1.refresh.run server.answer (followed k).2

/-- What the poll of a refresh comes to. -/
def outcome (k : Nat) : Poll :=
  ((server.followed namespaceName k).1.poller.poll.run server.answer
    (server.followed namespaceName k).2).1.1

/-- The calls of a refresh. -/
def calls (k : Nat) : List (Catalog.Call × Nat) :=
  (server.followed namespaceName k).1.refresh.trace server.answer
    (server.followed namespaceName k).2

/-- The refresh has news. -/
def News (k : Nat) : Prop := ∃ members, server.outcome namespaceName k = .news members

/-- Of the first `k` refreshes, `j` is the last with news. -/
structure LastNews (j k : Nat) : Prop where
  lt : j < k
  news : server.News namespaceName j
  quiet : ∀ l, j < l → l < k → ¬ server.News namespaceName l

variable {server namespaceName}

/-! ## What calls tell -/

theorem asked_cons_list {service : String} {index : UInt64} {ns : Option String} {n : Nat}
    {calls : List (Catalog.Call × Nat)} :
    Asked service ((.list index ns, n) :: calls) ↔ Asked service calls := by
  simp [Asked]

/-- What is asked for are the services to describe. -/
theorem asked_describe_iff {names : List String} {members : Membership} {n : Nat}
    {service : String} :
    Asked service ((Poller.describe namespaceName names members).trace server.answer n) ↔
      service ∈ names := by
  have hasked : ∀ calls : List (Catalog.Call × Nat),
      Asked service calls ↔ ∃ ns, .instances service ns ∈ calls.map (·.1) := by simp [Asked]
  rw [hasked, map_fst_trace_describe]
  simp

/-- What a call tells of a service is what is heard in its reply. -/
theorem told?_eq_heardOf? (service : String) (call : Catalog.Call × Nat) :
    server.told? service call = heardOf? server.answer service call := by
  obtain ⟨c, n⟩ := call
  cases c with
  | list index ns => rfl
  | instances name ns =>
    cases hf : server.failure? n with
    | some f => simp [told?, heardOf?, answer, reply, heard, hf]
    | none =>
      by_cases h : name = service
      · simp [told?, heardOf?, answer, reply, heard, hf, h, endpoints]
      · simp [told?, heardOf?, h]

theorem latest?_eq_lastHeardOf? (service : String) (calls : List (Catalog.Call × Nat)) :
    server.latest? service calls = lastHeardOf? server.answer service calls := by
  have htold : server.told? service = heardOf? server.answer service :=
    funext (told?_eq_heardOf? service)
  rw [latest?, lastHeardOf?, htold]

/-! ## One refresh -/

/-- What a refresh comes to: its poll, the follower after it, and its calls. -/
inductive Refreshed (server : CatalogServer) (f : Follower) (n : Nat) :
    Poll → Follower → List (Catalog.Call × Nat) → Prop
  | failed (reason : String) :
      Refreshed server f n (.failed reason) f [(.list f.poller.lastIndex f.poller.namespaceName, n)]
  | same (hindex : server.index n = f.poller.lastIndex) :
      Refreshed server f n .same f [(.list f.poller.lastIndex f.poller.namespaceName, n)]
  | news {description : Dialogue Catalog.Call.Reply Membership} {members : Membership}
      (hdescription : description =
        Poller.describe f.poller.namespaceName (server.names (server.index n)) .empty)
      (hmembers : members = (description.run server.answer (n + 1)).1) :
      Refreshed server f n (.news members)
        ⟨{ f.poller with lastIndex := server.index n }, f.roster.publish members⟩
        ((.list f.poller.lastIndex f.poller.namespaceName, n) ::
          description.trace server.answer (n + 1))

/-- A refresh lists, and only when the index is another it describes. -/
theorem refreshed (server : CatalogServer) (f : Follower) (n : Nat) :
    Refreshed server f n (f.poller.poll.run server.answer n).1.1 (f.refresh.run server.answer n).1
      (f.refresh.trace server.answer n) := by
  rw [Follower.refresh, Dialogue.run_bind, Dialogue.trace_bind, Dialogue.run_done,
    Dialogue.trace_done, List.append_nil]
  cases hf : server.failure? n with
  | some failure =>
    have hreply : (server.answer (.list f.poller.lastIndex f.poller.namespaceName) n).1 =
        .error failure := by
      simp [answer, reply, hf]
    simp only [Poller.poll, Catalog.call, Dialogue.bind_eq, Dialogue.ask_bind, Dialogue.done_bind,
      Dialogue.run_ask, Dialogue.trace_ask, hreply]
    exact .failed _
  | none =>
    have hreply : (server.answer (.list f.poller.lastIndex f.poller.namespaceName) n).1 =
        .ok (server.names (server.index n), server.index n) := by
      simp [answer, reply, hf]
    simp only [Poller.poll, Catalog.call, Dialogue.bind_eq, Dialogue.ask_bind, Dialogue.done_bind,
      Dialogue.run_ask, Dialogue.trace_ask, hreply]
    by_cases hindex : server.index n = f.poller.lastIndex
    · rw [if_pos hindex]
      exact .same hindex
    · rw [if_neg hindex, Dialogue.run_bind, Dialogue.trace_bind, Dialogue.pure_eq_done,
        Dialogue.run_done, Dialogue.trace_done, List.append_nil]
      exact .news rfl rfl

section

variable {k : Nat}

theorem refreshed_followed (server : CatalogServer) (namespaceName : Option String) (k : Nat) :
    Refreshed server (server.followed namespaceName k).1 (server.followed namespaceName k).2
      (server.outcome namespaceName k) (server.followed namespaceName (k + 1)).1
      (server.calls namespaceName k) := refreshed server _ _

/-- Without news nothing changes. -/
theorem followed_of_quiet (h : ¬ server.News namespaceName k) :
    (server.followed namespaceName (k + 1)).1 = (server.followed namespaceName k).1 := by
  have hrefreshed := refreshed_followed server namespaceName k
  rw [News] at h
  generalize (server.followed namespaceName (k + 1)).1 = next,
    server.outcome namespaceName k = poll, server.calls namespaceName k = calls at *
  cases hrefreshed with
  | failed reason | same hindex => rfl
  | news hdescription hmembers => exact absurd ⟨_, rfl⟩ h

/-- A poll is without news when the index is the one remembered. -/
theorem index_of_same (h : server.outcome namespaceName k = .same) :
    server.index (server.followed namespaceName k).2 =
      (server.followed namespaceName k).1.poller.lastIndex := by
  have hrefreshed := refreshed_followed server namespaceName k
  rw [h] at hrefreshed
  generalize (server.followed namespaceName (k + 1)).1 = next,
    server.calls namespaceName k = calls at hrefreshed
  cases hrefreshed with
  | same hindex => exact hindex

/-- A refresh with news remembers the index of its listing, describes the services that are listed,
and publishes what is told of them. -/
theorem followed_of_news (h : server.News namespaceName k) :
    let listed := server.index (server.followed namespaceName k).2
    let follower := (server.followed namespaceName (k + 1)).1
    follower.poller.lastIndex = listed ∧
    (∀ service, follower.roster.endpoints? service =
      (server.latest? service (server.calls namespaceName k)).map Endpoint.distinct) ∧
    ∀ service, Asked service (server.calls namespaceName k) ↔ service ∈ server.names listed := by
  have hrefreshed := refreshed_followed server namespaceName k
  obtain ⟨members, hnews⟩ := h
  rw [hnews] at hrefreshed
  generalize (server.followed namespaceName (k + 1)).1 = next,
    server.calls namespaceName k = calls at *
  cases hrefreshed with
  | news hdescription hmembers =>
    subst hmembers hdescription
    refine ⟨rfl, fun service => ?_, fun service => ?_⟩
    · show (Table.map _ _).find? service = _
      rw [Table.find?_map, find?_describe, Table.find?_empty, Option.or_none,
        latest?_eq_lastHeardOf?, lastHeardOf?_cons]
      exact congrArg _ (Option.or_none ..).symm
    · rw [asked_cons_list, asked_describe_iff]

end

/-! ## Many refreshes -/

/-- Either there were no news so far, or the follower is as the last news left it. -/
theorem followed_eq_or (server : CatalogServer) (namespaceName : Option String) (k : Nat) :
    (server.followed namespaceName k).1 = { poller := { namespaceName } } ∨
      ∃ j, server.LastNews namespaceName j k ∧
        (server.followed namespaceName k).1 = (server.followed namespaceName (j + 1)).1 := by
  induction k with
  | zero => exact .inl rfl
  | succ k ih =>
    by_cases hnews : server.News namespaceName k
    · refine .inr ⟨k, ⟨Nat.lt_succ_self k, hnews, fun l hkl hlk => ?_⟩, rfl⟩
      exact absurd (Nat.le_of_lt_succ hlk) (Nat.not_le.2 hkl)
    · rw [followed_of_quiet hnews]
      refine ih.imp_right fun ⟨j, hj, hfollowed⟩ => ⟨j, ?_, hfollowed⟩
      refine ⟨Nat.lt_succ_of_lt hj.lt, hj.news, fun l hjl hlk => ?_⟩
      rcases Nat.lt_succ_iff_lt_or_eq.1 hlk with hlk | rfl
      · exact hj.quiet l hjl hlk
      · exact hnews

/-! ## Calls at one index -/

theorem told?_eq_some_iff {service : String} {call : Catalog.Call × Nat} {told : List Endpoint} :
    server.told? service call = some told ↔ (∃ ns, call.1 = .instances service ns) ∧
      server.failure? call.2 = none ∧ told ≠ [] ∧
      told = server.endpoints (server.index call.2) service := by
  obtain ⟨c, n⟩ := call
  cases c with
  | list index ns => simp [told?]
  | instances name ns =>
    simp only [told?, Option.ite_none_right_eq_some, Option.some.injEq]
    constructor
    · rintro ⟨⟨rfl, hf, hne⟩, rfl⟩
      exact ⟨⟨ns, rfl⟩, hf, hne, rfl⟩
    · rintro ⟨⟨ns, hc⟩, hf, hne, rfl⟩
      cases hc
      exact ⟨⟨rfl, hf, hne⟩, rfl⟩

/-- Calls at one index tell of a service what it is at that index, if they describe it. -/
theorem latest?_eq_some_iff {i : UInt64} {calls : List (Catalog.Call × Nat)}
    (hstill : ∀ call ∈ calls, server.index call.2 = i) {service : String} {told : List Endpoint} :
    server.latest? service calls = some told ↔
      server.Described service calls ∧ told ≠ [] ∧ told = server.endpoints i service := by
  have hone : ∀ {told}, server.latest? service calls = some told →
      server.Described service calls ∧ told ≠ [] ∧ told = server.endpoints i service := by
    intro told h
    obtain ⟨⟨c, n⟩, hcall, htold⟩ := List.mem_filterMap.1 (List.mem_of_getLast? h)
    obtain ⟨⟨ns, rfl⟩, hf, hne, heq⟩ := told?_eq_some_iff.1 htold
    exact ⟨⟨ns, n, hcall, hf⟩, hne, by rw [heq, hstill _ hcall]⟩
  refine ⟨hone, ?_⟩
  rintro ⟨⟨ns, n, hcall, hf⟩, hne, heq⟩
  have htold : server.told? service (.instances service ns, n) = some told :=
    told?_eq_some_iff.2 ⟨⟨ns, rfl⟩, hf, hne, by rw [heq, hstill _ hcall]⟩
  have hmem : told ∈ calls.filterMap (server.told? service) :=
    List.mem_filterMap.2 ⟨_, hcall, htold⟩
  have hlast : server.latest? service calls = some _ :=
    List.getLast?_eq_some_getLast (List.ne_nil_of_mem hmem)
  exact hlast.trans (congrArg some ((hone hlast).2.2.trans heq.symm))

/-- What was told at one index by describing services of it, is up to date exactly when every
service with endpoints was described. -/
theorem upToDate_iff {i : UInt64} {r : Roster} {calls : List (Catalog.Call × Nat)}
    (hroster : ∀ service, r.endpoints? service =
      (server.latest? service calls).map Endpoint.distinct)
    (hasked : ∀ service, Asked service calls ↔ service ∈ server.names i)
    (hstill : ∀ call ∈ calls, server.index call.2 = i) :
    server.UpToDate i r ↔ ∀ service ∈ server.names i,
      server.endpoints i service ≠ [] → server.Described service calls := by
  constructor
  · intro hup service hname hne
    have htold := hroster service
    rw [hup service, published?, if_pos ⟨hname, hne⟩] at htold
    obtain ⟨told, hlatest, -⟩ := Option.map_eq_some_iff.1 htold.symm
    exact ((latest?_eq_some_iff hstill).1 hlatest).1
  · intro hdescribed service
    rw [hroster service, published?]
    cases hlatest : server.latest? service calls with
    | some told =>
      obtain ⟨⟨ns, n, hcall, -⟩, hne, rfl⟩ := (latest?_eq_some_iff hstill).1 hlatest
      rw [if_pos ⟨(hasked service).1 ⟨ns, n, hcall⟩, hne⟩]
      rfl
    | none =>
      rw [if_neg]
      · rfl
      rintro ⟨hname, hne⟩
      rw [(latest?_eq_some_iff hstill).2 ⟨hdescribed service hname hne, hne, rfl⟩] at hlatest
      cases hlatest

end CatalogServer

open CatalogServer

/-- When a poll has no news, the index is the remembered one, and what is published goes back to
the last refresh with news: this asked for the services that the catalog has at the index, and what
it was told of them is what is published. If all its calls were made at this index, then the roster
is that of the catalog exactly when every service with endpoints was described by a call that did
not fail. -/
theorem unchanged_is_fresh_iff (server : CatalogServer) (namespaceName : Option String) {k : Nat}
    (h : server.outcome namespaceName k = .same) :
    let follower := (server.followed namespaceName k).1
    let i := follower.poller.lastIndex
    server.index (server.followed namespaceName k).2 = i ∧
    ∃ j, server.LastNews namespaceName j k ∧
      let calls := server.calls namespaceName j
      (∀ service, Asked service calls ↔ service ∈ server.names i) ∧
      (∀ service, follower.roster.endpoints? service =
        (server.latest? service calls).map Endpoint.distinct) ∧
      ((∀ call ∈ calls, server.index call.2 = i) →
        (server.UpToDate i follower.roster ↔ ∀ service ∈ server.names i,
          server.endpoints i service ≠ [] → server.Described service calls)) := by
  intro follower i
  have hindex := index_of_same h
  refine ⟨hindex, ?_⟩
  rcases followed_eq_or server namespaceName k with hfresh | ⟨j, hlast, hfollowed⟩
  · rw [hfresh] at hindex
    exact absurd hindex (server.index_ne _)
  obtain ⟨hlisted, hroster, hasked⟩ := followed_of_news hlast.news
  rw [← hfollowed] at hlisted hroster
  rw [← hlisted] at hasked
  exact ⟨j, hlast, hasked, hroster, upToDate_iff hroster hasked⟩

/-- A catalog with two services. The first description of one fails, and then the index moves. -/
def recovering : CatalogServer where
  names _ := ["db", "web"]
  instances _ service := [{ id := service ++ "-1", service, address := "10.0.0.1", port := 80 }]
  index n := if n < 3 then 7 else 8
  index_ne n := by split <;> decide
  failure? n := if n = 1 then some (.http "timeout") else none

/-- The second refresh repairs what the first one lacks, and the poll after it has no news. -/
theorem recovering_unchanged_is_fresh :
    (recovering.followed none 1).1.roster.endpoints? "db" = none ∧
    recovering.outcome none 2 = .same ∧
    recovering.UpToDate 8 (recovering.followed none 2).1.roster := by
  have hsame : recovering.outcome none 2 = .same := by rfl
  have hnews : recovering.News none 1 := ⟨_, rfl⟩
  have hcalls : recovering.calls none 1 =
      [(.list 7 none, 3), (.instances "db" none, 4), (.instances "web" none, 5)] := by rfl
  obtain ⟨-, j, hlast, -, -, hfresh⟩ := unchanged_is_fresh_iff recovering none hsame
  obtain rfl : j = 1 := by
    have hlt : j < 2 := hlast.lt
    have hle : ¬ j < 1 := fun hj => hlast.quiet 1 hj (Nat.lt_succ_self 1) hnews
    omega
  rw [hcalls] at hfresh
  refine ⟨by rfl, hsame, (hfresh ?_).2 fun service hname _ => ?_⟩
  · simp only [List.forall_mem_cons]
    exact ⟨rfl, rfl, rfl, List.forall_mem_nil _⟩
  · rcases List.mem_cons.1 hname with rfl | hname
    · exact ⟨none, 4, by simp, rfl⟩
    · rw [List.mem_singleton.1 hname]
      exact ⟨none, 5, by simp, rfl⟩

/-- A catalog with one service, whose first description fails. -/
def flaky : CatalogServer where
  names _ := ["web"]
  instances _ _ := [{ id := "web-1", service := "web", address := "10.0.0.1", port := 80 }]
  index _ := 7
  index_ne _ := by decide
  failure? n := if n = 1 then some (.http "timeout") else none

/-- After its failure the catalog has no news. -/
theorem flaky_poll (k : Nat) :
    (Poller.poll { lastIndex := 7 }).run flaky.answer (k + 2) =
      ((.same, { lastIndex := 7 }), k + 3) := by
  have hreply : flaky.answer (.list 7 none) (k + 2) = (.ok (["web"], 7), k + 3) := by
    simp [answer, reply, flaky]
  simp [Poller.poll, Catalog.call, hreply]

theorem flaky_followed (k : Nat) :
    flaky.followed none (k + 1) = (⟨{ lastIndex := 7 }, ⟨.empty, 1⟩⟩, k + 2) := by
  induction k with
  | zero => rfl
  | succ k ih =>
    rw [followed, ih, Follower.refresh, Dialogue.run_bind, flaky_poll]
    rfl

/-- **One failure hides a service for as long as the index stays.** -/
theorem flaky_service_stays_hidden :
    (∀ n, flaky.failure? n ≠ none ↔ n = 1) ∧ (∀ n, flaky.index n = 7) ∧
    flaky.published? 7 "web" = some [.ofPort "10.0.0.1" 80] ∧
    ∀ k, flaky.outcome none (k + 1) = .same ∧
      (flaky.followed none (k + 1)).1.roster.endpoints? "web" = none ∧
      ¬ flaky.UpToDate 7 (flaky.followed none (k + 1)).1.roster := by
  have hweb : flaky.published? 7 "web" = some [.ofPort "10.0.0.1" 80] := by rfl
  refine ⟨fun n => by simp [flaky], fun n => rfl, hweb, fun k => ?_⟩
  have hnone : (flaky.followed none (k + 1)).1.roster.endpoints? "web" = none := by
    rw [flaky_followed]
    rfl
  refine ⟨?_, hnone, fun hup => ?_⟩
  · rw [outcome, flaky_followed, flaky_poll]
  · rw [hup "web", hweb] at hnone
    cases hnone

end RegistrySync.Consul
