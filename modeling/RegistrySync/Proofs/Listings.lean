import RegistrySync.Daemon.Service
import RegistrySync.Proofs.Polling

/-!
# Listings over HTTP

**Theorem (`listing_shows_latest_index`).** Every round of a watcher of a Consul agent begins by
asking for the services at the index that the latest good answer to a listing has told, or at 0
before there was one. An answer is good (`Tells`) when its status tells success, its first index
header is a number of 64 bits, its body arrives whole, and the body is an object whose members are
lists of texts. Any other answer fails the poll, no more is asked, and index and roster stay as they
are, so that the next round asks the same.

The agent answers each question to the catalog by one request (`Agent.trace_serve`). So a round of
the watcher is a refresh of its follower with the catalog that the agent makes of the answers
(`rounds_feed`, `trace_feed_refresh`), and `readList_eq_ok_iff` says which answers this catalog
takes for a listing. A good answer sets the index (`lastIndex_feed_refresh`), and a bad one leaves
all as it is (`feed_refresh_of_bad`). Round by round, the index is that of the latest good answer
(`latestGood_lastIndex`).
-/

namespace RegistrySync.Consul

open Json Net Daemon

variable {σ : Type}

/-! ## Good answers -/

/-- An answer to a listing that tells names and an index. -/
inductive Tells : Except String Http.Response → List String → UInt64 → Prop
  | told {response : Http.Response} {value body : String} {index : UInt64}
      {services : Table (List String)}
      (hstatus : 200 ≤ response.status ∧ response.status < 300)
      (hheader : response.header? "X-Consul-Index" = some value)
      (hindex : Text.Decimal.readUInt64
        (String.ofList (Text.trimBy Agent.isHeaderBlank value.toList)) = .ok index)
      (hbody : response.body = .ok body)
      (hservices : (Tree.parse body >>= Decode.table (Decode.list Decode.text)) = some services) :
      Tells (.ok response) services.keys index

theorem Agent.accepted_eq_ok_iff {reply : Except String Http.Response} {response : Http.Response} :
    accepted reply = .ok response ↔
      reply = .ok response ∧ 200 ≤ response.status ∧ response.status < 300 := by
  cases reply with
  | error reason => simp [accepted]
  | ok r =>
    by_cases h : r.isSuccess
    · have h' : 200 ≤ r.status ∧ r.status < 300 := by simpa [Http.Response.isSuccess] using h
      simp only [accepted, h, if_true, Except.ok.injEq]
      constructor
      · rintro rfl
        exact ⟨rfl, h'⟩
      · exact fun he => he.1
    · have h' : ¬ (200 ≤ r.status ∧ r.status < 300) := by simpa [Http.Response.isSuccess] using h
      simp only [accepted, h, Except.ok.injEq]
      constructor
      · rintro ⟨⟩
      · rintro ⟨rfl, hs⟩
        exact absurd hs h'

theorem Agent.readIndex_eq_ok_iff {response : Http.Response} {index : UInt64} :
    readIndex response = .ok index ↔ ∃ value, response.header? "X-Consul-Index" = some value ∧
      Text.Decimal.readUInt64
        (String.ofList (Text.trimBy isHeaderBlank value.toList)) = .ok index := by
  rw [readIndex, indexHeader]
  cases response.header? "X-Consul-Index" with
  | none => simp
  | some value =>
    simp only [Option.map_some, Option.bind_some, Option.some.injEq, exists_eq_left']
    cases Text.Decimal.readUInt64 _ <;> simp [Except.toOption]

theorem Agent.readBody_eq_ok_iff {response : Http.Response} {body : String} :
    readBody response = .ok body ↔ response.body = .ok body := by
  rw [readBody]
  cases response.body <;> simp

theorem Catalog.readNames_eq_ok_iff {body : String} {names : List String} :
    readNames body = .ok names ↔ ∃ services,
      (Tree.parse body >>= Decode.table (Decode.list Decode.text)) = some services ∧
        services.keys = names := by
  rw [readNames]
  cases Tree.parse body >>= Decode.table (Decode.list Decode.text) <;> simp

/-- Exactly the good answers are taken for listings. -/
theorem readList_eq_ok_iff {reply : Except String Http.Response} {names : List String}
    {index : UInt64} : Agent.readList reply = .ok (names, index) ↔ Tells reply names index := by
  simp only [Agent.readList, bind_eq_ok_iff, Agent.accepted_eq_ok_iff, Agent.readIndex_eq_ok_iff,
    Agent.readBody_eq_ok_iff, Catalog.readNames_eq_ok_iff]
  constructor
  · rintro ⟨response, ⟨rfl, hstatus⟩, _, ⟨value, hheader, hindex⟩, body, hbody, _,
      ⟨services, hservices, rfl⟩, h⟩
    cases h
    exact .told hstatus hheader hindex hbody hservices
  · rintro ⟨hstatus, hheader, hindex, hbody, hservices⟩
    exact ⟨_, ⟨rfl, hstatus⟩, _, ⟨_, hheader, hindex⟩, _, hbody, _, ⟨_, hservices, rfl⟩, rfl⟩

theorem Tells.unique {reply : Except String Http.Response} {names names' : List String}
    {index index' : UInt64} (h : Tells reply names index) (h' : Tells reply names' index') :
    names = names' ∧ index = index' := by
  have heq := (readList_eq_ok_iff.2 h).symm.trans (readList_eq_ok_iff.2 h')
  cases heq
  exact ⟨rfl, rfl⟩

/-! ## Requests -/

/-- The query asks for the services at an index, perhaps after parameters of the URL's own. -/
def AsksAt (url : Url) (index : UInt64) : Prop :=
  ∃ front back, (front = [] ∨ ∃ own, front = own ++ ['&']) ∧
    url.query = some (front ++ "index=".toList ++ Nat.toDigits 10 index.toNat ++ '&' :: back)

/-- A form writes letters and digits as they are. -/
theorem encodeForm_of_alphanum {cs : List Char} (h : ∀ c ∈ cs, c.isAlphanum ∧ c.toNat < 128) :
    Percent.encodeForm cs = cs := by
  induction cs with
  | nil => rfl
  | cons c cs ih =>
    obtain ⟨⟨hc, hascii⟩, hcs⟩ := List.forall_mem_cons.1 h
    have hblank : (c == ' ') = false := by
      rw [beq_eq_false_iff_ne]
      rintro rfl
      cases hc
    have hplain : Percent.encodeChar (fun c => !Percent.isFormPlain c) c = [c] := by
      simp [Percent.encodeChar, Percent.isFormPlain, hc, hascii]
    rw [Percent.encodeForm, List.flatMap_cons, hblank, if_neg Bool.false_ne_true, hplain]
    exact congrArg (c :: ·) (ih hcs)

theorem encodeForm_write (n : Nat) :
    Percent.encodeForm (Text.Decimal.write n).toList = Nat.toDigits 10 n := by
  rw [Text.Decimal.write, String.toList_ofList]
  refine encodeForm_of_alphanum fun c hc => ?_
  have hdigit : c.isDigit := Nat.isDigit_of_mem_toDigits (by decide) (by decide) hc
  have hle : c.toNat ≤ 57 := by
    simp only [Char.isDigit, Bool.and_eq_true, decide_eq_true_eq] at hdigit
    exact UInt32.le_iff_toNat_le.1 hdigit.2
  exact ⟨by simp [Char.isAlphanum, hdigit], by omega⟩

theorem renderForm_cons_cons (p q : String × String) (ps : List (String × String)) :
    Url.renderForm (p :: q :: ps) = Percent.encodeForm p.1.toList ++ '=' ::
      Percent.encodeForm p.2.toList ++ '&' :: Url.renderForm (q :: ps) := by
  simp [Url.renderForm, List.intercalate]

/-- Parameters come behind those that a URL has. -/
theorem query_addQuery (u : Url) (p : String × String) (ps : List (String × String)) :
    ∃ front, (front = [] ∨ ∃ own, front = own ++ ['&']) ∧
      (u.addQuery (p :: ps)).query = some (front ++ Url.renderForm (p :: ps)) := by
  cases hquery : u.query with
  | none => exact ⟨[], .inl rfl, by simp [Url.addQuery, hquery]⟩
  | some own =>
    cases own with
    | nil => exact ⟨[], .inl rfl, by simp [Url.addQuery, hquery]⟩
    | cons c cs => exact ⟨c :: cs ++ ['&'], .inr ⟨_, rfl⟩, by simp [Url.addQuery, hquery]⟩

theorem asksAt_addQuery (u : Url) (index : UInt64) (p : String × String)
    (ps : List (String × String)) :
    AsksAt (u.addQuery (("index", Text.Decimal.write index.toNat) :: p :: ps)) index := by
  obtain ⟨front, hfront, hquery⟩ := query_addQuery u ("index", Text.Decimal.write index.toNat)
    (p :: ps)
  have hname : Percent.encodeForm "index".toList = "index".toList := by rfl
  refine ⟨front, Url.renderForm (p :: ps), hfront, ?_⟩
  rw [hquery, renderForm_cons_cons, encodeForm_write, hname]
  simp

theorem asksAt_listUrl (agent : Agent) (index : UInt64) (namespaceName : Option String) :
    AsksAt (agent.listUrl index namespaceName) index :=
  asksAt_addQuery _ _ _ _

/-- The request by which an agent is asked a question. -/
def Agent.request (a : Agent) : Catalog.Call → Http.Call
  | .list index ns => .get (a.listUrl index ns)
  | .instances service ns => .get (a.instancesUrl service ns)

/-- The catalog that an agent makes of the answers to its requests. -/
abbrev Agent.catalog (a : Agent) (carry : Answerer Http.Call.Reply σ) :
    Answerer Catalog.Call.Reply σ := Dialogue.serving a.serve carry

section

variable {a : Agent} {carry : Answerer Http.Call.Reply σ} {index : UInt64} {ns : Option String}
  {s : σ}

/-- The catalog lists what a good answer to the request tells. -/
theorem Agent.catalog_list_eq_ok_iff {names : List String} {told : UInt64} :
    (a.catalog carry (.list index ns) s).1 = .ok (names, told) ↔
      Tells (carry (.get (a.listUrl index ns)) s).1 names told :=
  readList_eq_ok_iff

theorem Agent.catalog_list_fails_iff :
    (∃ failure, (a.catalog carry (.list index ns) s).1 = .error failure) ↔
      ¬ ∃ names told, Tells (carry (.get (a.listUrl index ns)) s).1 names told := by
  simp only [← catalog_list_eq_ok_iff]
  cases (a.catalog carry (.list index ns) s).1 with
  | error failure => simp
  | ok listed => simp [← Prod.exists]

end

/-- Every question takes one request. -/
theorem Agent.trace_serve (a : Agent) (carry : Answerer Http.Call.Reply σ) (c : Catalog.Call)
    (s : σ) : (a.serve c).trace carry s = [(a.request c, s)] := by
  cases c <;> rfl

/-! ## The watcher of an agent -/

/-- A watcher that keeps what a follower keeps. -/
def Follower.feed (w : Watcher) (f : Follower) : Feed where
  watcher := w
  poller := f.poller
  roster := f.roster

section

variable {carry : Answerer Http.Call.Reply σ} {w : Watcher} {agent : Agent}
  {namespaceName : Option String} (h : w.source = .consul agent namespaceName)
include h

/-- The watcher of an agent follows its catalog by way of the agent. -/
theorem feed_refresh_eq (f : Follower) :
    (f.feed w).refresh = (f.refresh.via agent.serve).bind fun f => .done (f.feed w) := by
  simp [Feed.refresh, Follower.feed, h, Follower.refresh, Dialogue.via_bind, Dialogue.bind_assoc,
    Dialogue.via]

theorem run_feed_refresh (f : Follower) (s : σ) :
    (f.feed w).refresh.run carry s = ((f.refresh.run (agent.catalog carry) s).1.feed w,
      (f.refresh.run (agent.catalog carry) s).2) := by
  rw [feed_refresh_eq h, Dialogue.run_bind, Dialogue.run_via]
  rfl

/-- Its requests are those for the calls of its follower. -/
theorem trace_feed_refresh (f : Follower) (s : σ) :
    (f.feed w).refresh.trace carry s =
      (f.refresh.trace (agent.catalog carry) s).map fun x => (agent.request x.1, x.2) := by
  rw [feed_refresh_eq h, Dialogue.trace_bind, Dialogue.trace_done, List.append_nil,
    Dialogue.trace_via, List.map_eq_flatMap]
  simp only [Agent.trace_serve]

/-- Round by round, the watcher goes where its follower goes. -/
theorem rounds_feed (f : Follower) (s : σ) (k : Nat) :
    Dialogue.rounds carry Feed.refresh (f.feed w) s k =
      ((Dialogue.rounds (agent.catalog carry) Follower.refresh f s k).1.feed w,
        (Dialogue.rounds (agent.catalog carry) Follower.refresh f s k).2) := by
  induction k with
  | zero => rfl
  | succ k ih =>
    rw [Dialogue.rounds, ih, run_feed_refresh h]
    rfl

/-- It stays a follower of the same namespace. -/
theorem rounds_eq_feed (f : Follower) (s : σ) (k : Nat) : ∃ (g : Follower) (v : σ),
    Dialogue.rounds carry Feed.refresh (f.feed w) s k = (g.feed w, v) ∧
      g.poller.namespaceName = f.poller.namespaceName :=
  ⟨_, _, rounds_feed h f s k, by rw [poller_rounds]⟩

end

/-! ## One round -/

/-- The answer to the listing of a poller. -/
abbrev Agent.answer (a : Agent) (carry : Answerer Http.Call.Reply σ) (p : Poller) (s : σ) :
    Except String Http.Response := (carry (.get (a.listUrl p.lastIndex p.namespaceName)) s).1

section

variable {carry : Answerer Http.Call.Reply σ} {w : Watcher} {agent : Agent}
  {namespaceName : Option String} {f : Follower} {s : σ}

theorem poll_via_fails_iff :
    (∃ reason, ((f.poller.poll.via agent.serve).run carry s).1.1 = .failed reason) ↔
      ¬ ∃ names told, Tells (agent.answer carry f.poller s) names told := by
  rw [Dialogue.run_via, poll_fails_iff, Agent.catalog_list_fails_iff]

variable (h : w.source = .consul agent namespaceName)
include h

/-- The first request is for the listing, all others are for instances. -/
theorem trace_feed_refresh_eq_cons : ∃ rest, (f.feed w).refresh.trace carry s =
      (.get (agent.listUrl f.poller.lastIndex f.poller.namespaceName), s) :: rest ∧
    ∀ x ∈ rest, ∃ service, x.1 = .get (agent.instancesUrl service f.poller.namespaceName) := by
  obtain ⟨rest, htrace, hrest⟩ := trace_refresh (agent.catalog carry) f s
  refine ⟨rest.map fun x => (agent.request x.1, x.2), ?_, fun x hx => ?_⟩
  · rw [trace_feed_refresh h, htrace]
    rfl
  · obtain ⟨y, hy, rfl⟩ := List.mem_map.1 hx
    obtain ⟨service, hservice⟩ := hrest y hy
    exact ⟨service, congrArg agent.request hservice⟩

theorem lastIndex_feed_refresh {names : List String} {told : UInt64}
    (hgood : Tells (agent.answer carry f.poller s) names told) :
    ((f.feed w).refresh.run carry s).1.poller.lastIndex = told := by
  rw [run_feed_refresh h]
  exact lastIndex_refresh_of_ok (Agent.catalog_list_eq_ok_iff.2 hgood)

/-- After a bad answer nothing more is asked, and nothing changes. -/
theorem feed_refresh_of_bad
    (hbad : ¬ ∃ names told, Tells (agent.answer carry f.poller s) names told) :
    ((f.feed w).refresh.run carry s).1 = f.feed w ∧ (f.feed w).refresh.trace carry s =
      [(.get (agent.listUrl f.poller.lastIndex f.poller.namespaceName), s)] := by
  obtain ⟨failure, hfailure⟩ := Agent.catalog_list_fails_iff.2 hbad
  obtain ⟨hrun, htrace⟩ := refresh_of_error hfailure
  rw [run_feed_refresh h, trace_feed_refresh h, hrun, htrace]
  exact ⟨rfl, rfl⟩

end

/-! ## The latest good answer -/

/-- Of the first `k` rounds the last good one tells this index; it is 0 while none is good. -/
inductive LatestGood (good : Nat → UInt64 → Prop) (k : Nat) : UInt64 → Prop
  | none (hnone : ∀ j < k, ∀ told, ¬ good j told) : LatestGood good k 0
  | some {j : Nat} {index : UInt64} (hj : j < k) (hgood : good j index)
      (hlater : ∀ l, j < l → l < k → ∀ told, ¬ good l told) : LatestGood good k index

section

variable {good : Nat → UInt64 → Prop} {k : Nat} {index : UInt64}

theorem latestGood_succ_of_good (h : good k index) : LatestGood good (k + 1) index :=
  .some (Nat.lt_succ_self k) h fun _ hkl hlk => absurd (Nat.le_of_lt_succ hlk) (Nat.not_le.2 hkl)

theorem LatestGood.succ_of_bad (h : LatestGood good k index) (hbad : ∀ told, ¬ good k told) :
    LatestGood good (k + 1) index := by
  have hlast : ∀ {l}, l < k + 1 → (l < k → ∀ told, ¬ good l told) → ∀ told, ¬ good l told := by
    intro l hl hbefore
    rcases Nat.lt_succ_iff_lt_or_eq.1 hl with hl | rfl
    · exact hbefore hl
    · exact hbad
  cases h with
  | none hnone => exact .none fun j hj => hlast hj (hnone j)
  | some hj hgood hlater =>
    exact .some (Nat.lt_succ_of_lt hj) hgood fun l hjl hl => hlast hl (hlater l hjl)

/-- When the last round is good, its index is the one. -/
theorem LatestGood.good_of_good {told : UInt64} (h : LatestGood good (k + 1) index)
    (hgood : good k told) : good k index := by
  cases h with
  | none hnone => exact absurd hgood (hnone k (Nat.lt_succ_self k) told)
  | some hj hindex hlater =>
    rcases Nat.lt_succ_iff_lt_or_eq.1 hj with hj | rfl
    · exact absurd hgood (hlater k hj (Nat.lt_succ_self k) told)
    · exact hindex

end

/-- A watcher that knows no index yet remembers that of the latest good answer. -/
theorem latestGood_lastIndex (carry : Answerer Http.Call.Reply σ) {w : Watcher} {agent : Agent}
    {namespaceName : Option String} (h : w.source = .consul agent namespaceName) {f : Follower}
    (hnew : f.poller.lastIndex = 0) (s : σ) (k : Nat) :
    let rounds := Dialogue.rounds carry Feed.refresh (f.feed w) s
    let listing (j : Nat) := agent.listUrl (rounds j).1.poller.lastIndex f.poller.namespaceName
    LatestGood (fun j told => ∃ names, Tells (carry (.get (listing j)) (rounds j).2).1 names told) k
      (rounds k).1.poller.lastIndex := by
  intro rounds listing
  induction k with
  | zero => exact hnew ▸ .none fun j hj => absurd hj (Nat.not_lt_zero j)
  | succ k ih =>
    obtain ⟨g, v, hk, hg⟩ : ∃ (g : Follower) (v : σ), rounds k = (g.feed w, v) ∧
        g.poller.namespaceName = f.poller.namespaceName := rounds_eq_feed h f s k
    have hanswer : (carry (.get (listing k)) (rounds k).2).1 = agent.answer carry g.poller v := by
      show (carry (.get (agent.listUrl (rounds k).1.poller.lastIndex _)) (rounds k).2).1 = _
      rw [hk, ← hg]
      rfl
    show LatestGood _ _ ((rounds k).1.refresh.run carry (rounds k).2).1.poller.lastIndex
    rw [hk]
    by_cases hgood : ∃ names told, Tells (agent.answer carry g.poller v) names told
    · obtain ⟨names, told, hgood⟩ := hgood
      rw [lastIndex_feed_refresh h hgood]
      exact latestGood_succ_of_good ⟨names, hanswer ▸ hgood⟩
    · rw [(feed_refresh_of_bad h hgood).1]
      have ih : LatestGood _ k (Follower.feed w g).poller.lastIndex := hk ▸ ih
      refine ih.succ_of_bad ?_
      rintro told ⟨names, htold⟩
      exact hgood ⟨names, told, hanswer ▸ htold⟩

/-- **A bad answer never moves the index.** A watcher of an agent polls round after round, whatever
its requests are answered. Every round begins with a request at the index that the latest good
answer to such a request has told, 0 before the first, and all its other requests describe services.
The poll fails exactly when the answer to the listing is not good. Then the listing is the only
request of the round, and the watcher is left as it was. -/
theorem listing_shows_latest_index (b : Backend) (interval : UInt64) (agent : Agent)
    (namespaceName : Option String) (roster : Roster) (carry : Answerer Http.Call.Reply σ) (s : σ)
    (k : Nat) :
    let watcher : Watcher := ⟨b, interval, .consul agent namespaceName⟩
    let start : Feed := { watcher, poller := { namespaceName }, roster }
    let rounds := Dialogue.rounds carry Feed.refresh start s
    let requests := Dialogue.round carry Feed.refresh start s
    let index (j : Nat) := (rounds j).1.poller.lastIndex
    let listing (j : Nat) := agent.listUrl (index j) namespaceName
    let answer (j : Nat) := (carry (.get (listing j)) (rounds j).2).1
    let outcome := (((rounds k).1.poller.poll.via agent.serve).run carry (rounds k).2).1.1
    LatestGood (fun j told => ∃ names, Tells (answer j) names told) k (index k) ∧
    AsksAt (listing k) (index k) ∧
    (∃ rest, requests k = (.get (listing k), (rounds k).2) :: rest ∧
      ∀ x ∈ rest, ∃ service, x.1 = .get (agent.instancesUrl service namespaceName)) ∧
    ((∃ reason, outcome = .failed reason) ↔ ¬ ∃ names told, Tells (answer k) names told) ∧
    ((¬ ∃ names told, Tells (answer k) names told) →
      requests k = [(.get (listing k), (rounds k).2)] ∧ (rounds (k + 1)).1 = (rounds k).1) := by
  intro watcher start rounds requests index listing answer outcome
  let follower : Follower := { poller := { namespaceName }, roster }
  have hlatest : LatestGood (fun j told => ∃ names, Tells (answer j) names told) k (index k) :=
    latestGood_lastIndex carry (f := follower) rfl rfl s k
  obtain ⟨f, v, hk, hf⟩ : ∃ (f : Follower) (v : σ), rounds k = (f.feed watcher, v) ∧
      f.poller.namespaceName = namespaceName := rounds_eq_feed rfl follower s k
  have hlisting : listing k = agent.listUrl f.poller.lastIndex f.poller.namespaceName := by
    show agent.listUrl (rounds k).1.poller.lastIndex _ = _
    rw [hk, hf]
    rfl
  have hrequests : requests k = (f.feed watcher).refresh.trace carry v := by
    show (rounds k).1.refresh.trace carry (rounds k).2 = _
    rw [hk]
  have hstate : (rounds k).2 = v := congrArg Prod.snd hk
  refine ⟨hlatest, asksAt_listUrl _ _ _, ?_, ?_, fun hbad => ?_⟩
  · rw [hrequests, hlisting, hstate, ← hf]
    exact trace_feed_refresh_eq_cons rfl
  · show (∃ reason, (((rounds k).1.poller.poll.via agent.serve).run carry (rounds k).2).1.1 =
      .failed reason) ↔ ¬ ∃ names told, Tells (carry (.get (listing k)) (rounds k).2).1 names told
    rw [hlisting, hk]
    exact poll_via_fails_iff
  · have hbad : ¬ ∃ names told, Tells (agent.answer carry f.poller v) names told := by
      intro hgood
      refine hbad ?_
      show ∃ names told, Tells (carry (.get (listing k)) (rounds k).2).1 names told
      rw [hlisting, hstate]
      exact hgood
    obtain ⟨hrun, htrace⟩ := feed_refresh_of_bad (w := watcher) rfl hbad
    rw [hrequests, hlisting, hstate]
    refine ⟨htrace, ?_⟩
    show ((rounds k).1.refresh.run carry (rounds k).2).1 = _
    rw [hk, hrun]

/-- An agent on this machine. -/
def localAgent : Agent where
  base := { scheme := "http".toList, host := some "localhost".toList, path := .segments [] }
  wait := 30

/-- One service at index 7. -/
def whole : Except String Http.Response :=
  .ok ⟨200, [("X-Consul-Index", "7")], .ok "\x7b\"web\": []\x7d"⟩

/-- A later index, but the body does not arrive. -/
def cutOff : Except String Http.Response :=
  .ok ⟨200, [("X-Consul-Index", "9")], .error "unexpected end of file"⟩

/-- Only the request at index 0 is answered to the end. -/
def breaking : Answerer Http.Call.Reply Unit
  | .get url, s => (if url = localAgent.listUrl 0 none then whole else cutOff, s)

theorem tells_whole : Tells whole ["web"] 7 := by
  have hservices : (Tree.parse "\x7b\"web\": []\x7d" >>=
      Decode.table (Decode.list Decode.text)).map Table.keys = some ["web"] := by decide +kernel
  obtain ⟨services, hparse, hkeys⟩ := Option.map_eq_some_iff.1 hservices
  have hheader : Http.Response.header? ⟨200, [("X-Consul-Index", "7")], .ok "\x7b\"web\": []\x7d"⟩
      "X-Consul-Index" = some "7" := by simp [Http.Response.header?]
  rw [← hkeys]
  exact .told (by decide) hheader (by rfl) rfl hparse

theorem not_tells_cutOff : ¬ ∃ names told, Tells cutOff names told := by
  rintro ⟨names, told, h⟩
  cases h with
  | told _ _ _ hbody => cases hbody

theorem listUrl_ne : localAgent.listUrl 7 none ≠ localAgent.listUrl 0 none := by decide +kernel

/-- The second listing asks for index 7. Its answer tells index 9 but is cut off, so that nothing
comes of it. -/
theorem breaking_listing_shows_latest_index :
    let watcher : Watcher := ⟨backend, 30, .consul localAgent none⟩
    let start : Feed := { watcher, poller := { namespaceName := none } }
    let rounds := Dialogue.rounds breaking Feed.refresh start ()
    let requests := Dialogue.round breaking Feed.refresh start ()
    requests 1 = [(.get (localAgent.listUrl 7 none), ())] ∧
    (rounds (1 + 1)).1 = (rounds 1).1 := by
  intro watcher start rounds requests
  have hwhole : (breaking (.get (localAgent.listUrl 0 none)) ()).1 = whole := by simp [breaking]
  have hcutOff : (breaking (.get (localAgent.listUrl 7 none)) ()).1 = cutOff := by
    simp [breaking, listUrl_ne]
  obtain ⟨hlatest, -, -, -, hbad⟩ :=
    listing_shows_latest_index backend 30 localAgent none {} breaking () 1
  have htells : Tells (breaking (.get (localAgent.listUrl 0 none)) ()).1 ["web"] 7 :=
    hwhole ▸ tells_whole
  obtain ⟨names, htold⟩ := hlatest.good_of_good ⟨_, htells⟩
  have hindex : (rounds 1).1.poller.lastIndex = 7 := (htold.unique htells).2
  rw [← hindex] at hcutOff ⊢
  refine hbad ?_
  show ¬ ∃ names told,
    Tells (breaking (.get (localAgent.listUrl (rounds 1).1.poller.lastIndex none)) ()).1 names told
  rw [hcutOff]
  exact not_tells_cutOff

end RegistrySync.Consul
