import Mathlib.Data.List.Nodup
import RegistrySync.Consul.Poller
import RegistrySync.Proofs.Trace

/-!
# Following a Consul catalog from refresh to refresh

**Theorem (`refresh_keeps_pace`).** Whatever a catalog replies, every refresh begins by listing at
the index of the latest listing that has succeeded. Only a listing that succeeds at another index,
be it higher or lower, makes news: every listed service is described once, in order, and what is
told of them is all that is published. Any other refresh ends with its listing and leaves poller and
roster as they are.

A refresh is one call and what is made of its reply (`Follower.refresh_eq`). So its run and its
calls are known from the reply (`refresh_of_quiet`, `refresh_of_news`), and the index that is
remembered is the last one told (`poller_refresh`, `poller_rounds`). A description adds to a
membership what it tells of a service (`note`), so that the membership has what was told last
(`find?_describe`); of services that are listed once this is the only thing told
(`lastHeardOf?_eq_some_iff`).
-/

namespace RegistrySync.Consul

variable {σ : Type}

/-- A poller and the roster it publishes to. -/
structure Follower where
  poller : Poller := {}
  roster : Roster := {}

/-- Poll once and publish the news. -/
def Follower.refresh (f : Follower) : Dialogue Catalog.Call.Reply Follower :=
  f.poller.poll.bind fun r => .done { poller := r.2, roster := (f.roster.absorb r.1).2 }

/-! ## The calls of a refresh -/

/-- The listing that a poll begins with. -/
abbrev Poller.listing (p : Poller) : Catalog.Call := .list p.lastIndex p.namespaceName

/-- What a poll makes of the reply to its listing. -/
def Poller.heed (p : Poller) : Except Failure (List String × UInt64) →
    Dialogue Catalog.Call.Reply (Poll × Poller)
  | .error f => .done (.failed ("error listing services from Consul: " ++ f.message), p)
  | .ok (names, index) =>
    if index = p.lastIndex then .done (.same, p)
    else (Poller.describe p.namespaceName names .empty).bind fun members =>
      .done (.news members, { p with lastIndex := index })

theorem Poller.poll_eq (p : Poller) : p.poll = .ask p.listing p.heed := by
  refine congrArg (Dialogue.ask _) (funext fun reply => ?_)
  cases reply <;> rfl

theorem Follower.refresh_eq (f : Follower) : f.refresh = .ask f.poller.listing fun reply =>
    (f.poller.heed reply).bind fun r =>
      .done { poller := r.2, roster := (f.roster.absorb r.1).2 } := by
  rw [refresh, Poller.poll_eq, Dialogue.ask_bind]

/-- The listing of a refresh succeeds at an index other than the one that is known. -/
def HasNews (answer : Answerer Catalog.Call.Reply σ) (f : Follower) (s : σ) : Prop :=
  ∃ names index, (answer f.poller.listing s).1 = .ok (names, index) ∧ index ≠ f.poller.lastIndex

section

variable {answer : Answerer Catalog.Call.Reply σ} {f : Follower} {s : σ}

theorem hasNews_iff_of_ok {names : List String} {index : UInt64}
    (hreply : (answer f.poller.listing s).1 = .ok (names, index)) :
    HasNews answer f s ↔ index ≠ f.poller.lastIndex := by
  constructor
  · rintro ⟨names', index', hreply', hindex⟩
    rw [hreply] at hreply'
    cases hreply'
    exact hindex
  · exact fun hindex => ⟨names, index, hreply, hindex⟩

theorem index_of_not_hasNews (h : ¬ HasNews answer f s) {names : List String} {index : UInt64}
    (hreply : (answer f.poller.listing s).1 = .ok (names, index)) : index = f.poller.lastIndex :=
  not_not.1 ((hasNews_iff_of_ok hreply).not.1 h)

/-- Without news the listing is the only call, and nothing changes. -/
theorem refresh_of_quiet (h : ¬ HasNews answer f s) :
    f.refresh.run answer s = (f, (answer f.poller.listing s).2) ∧
      f.refresh.trace answer s = [(f.poller.listing, s)] := by
  rw [Follower.refresh_eq, Dialogue.run_ask, Dialogue.trace_ask]
  cases hreply : (answer f.poller.listing s).1 with
  | error failure => exact ⟨rfl, rfl⟩
  | ok told =>
    rw [Poller.heed, if_pos (index_of_not_hasNews h hreply)]
    exact ⟨rfl, rfl⟩

/-- A listing with another index is followed by descriptions, and what they tell is published. -/
theorem refresh_of_news {names : List String} {index : UInt64}
    (hreply : (answer f.poller.listing s).1 = .ok (names, index))
    (hindex : index ≠ f.poller.lastIndex) :
    let description := Poller.describe f.poller.namespaceName names .empty
    let described := description.run answer (answer f.poller.listing s).2
    f.refresh.run answer s =
        ({ poller := { f.poller with lastIndex := index },
           roster := f.roster.publish described.1 }, described.2) ∧
      f.refresh.trace answer s =
        (f.poller.listing, s) :: description.trace answer (answer f.poller.listing s).2 := by
  rw [Follower.refresh_eq, Dialogue.run_ask, Dialogue.trace_ask, hreply, Poller.heed,
    if_neg hindex, Dialogue.bind_assoc, Dialogue.run_bind, Dialogue.trace_bind]
  exact ⟨rfl, congrArg _ (List.append_nil _)⟩

/-- A refresh fails exactly when its listing does, and then it is over. -/
theorem refresh_of_error {failure : Failure}
    (hreply : (answer f.poller.listing s).1 = .error failure) :
    (f.refresh.run answer s).1 = f ∧ f.refresh.trace answer s = [(f.poller.listing, s)] := by
  have hquiet : ¬ HasNews answer f s := by
    rintro ⟨names, index, hok, -⟩
    rw [hreply] at hok
    cases hok
  obtain ⟨hrun, htrace⟩ := refresh_of_quiet hquiet
  exact ⟨congrArg Prod.fst hrun, htrace⟩

/-- After a listing that succeeds, its index is the one that is remembered. -/
theorem lastIndex_refresh_of_ok {names : List String} {index : UInt64}
    (hreply : (answer f.poller.listing s).1 = .ok (names, index)) :
    (f.refresh.run answer s).1.poller.lastIndex = index := by
  by_cases hindex : index = f.poller.lastIndex
  · have hquiet : ¬ HasNews answer f s := fun h => (hasNews_iff_of_ok hreply).1 h hindex
    rw [(refresh_of_quiet hquiet).1, hindex]
  · rw [(refresh_of_news hreply hindex).1]

theorem poll_fails_iff {p : Poller} : (∃ reason, (p.poll.run answer s).1.1 = .failed reason) ↔
    ∃ failure, (answer p.listing s).1 = .error failure := by
  rw [Poller.poll_eq, Dialogue.run_ask]
  cases (answer p.listing s).1 with
  | error failure => exact ⟨fun _ => ⟨failure, rfl⟩, fun _ => ⟨_, rfl⟩⟩
  | ok told =>
    refine iff_of_false ?_ (by rintro ⟨_, ⟨⟩⟩)
    rw [Poller.heed]
    split
    · rintro ⟨_, ⟨⟩⟩
    · rw [Dialogue.run_bind]
      rintro ⟨_, ⟨⟩⟩

end

/-! ## What descriptions tell -/

/-- The endpoints in the reply to a description. -/
def heard : Except Failure (List Instance) → List Endpoint
  | .error _ => []
  | .ok instances => instances.filterMap Instance.endpoint?

/-- Note the endpoints of a service, if there are any. -/
def note (members : Membership) (name : String) : List Endpoint → Membership
  | [] => members
  | endpoints => members.insert name endpoints

theorem find?_note (members : Membership) (name : String) (es : List Endpoint) (service : String) :
    (note members name es).find? service =
      (if name = service ∧ es ≠ [] then some es else none).or (members.find? service) := by
  cases es with
  | nil => simp [note]
  | cons e es =>
    show (members.insert name (e :: es)).find? service = _
    rw [Table.find?_insert]
    by_cases h : name = service
    · simp [h]
    · simp [h, Ne.symm h]

/-- Services are described one after the other. -/
theorem describe_cons (namespaceName : Option String) (name : String) (names : List String)
    (members : Membership) :
    Poller.describe namespaceName (name :: names) members =
      .ask (.instances name namespaceName) fun reply =>
        Poller.describe namespaceName names (note members name (heard reply)) := by
  refine congrArg (Dialogue.ask _) (funext fun reply => ?_)
  cases reply with
  | error f => rfl
  | ok instances =>
    show (match instances.filterMap Instance.endpoint? with
      | [] => _
      | _ => _) = Poller.describe _ _ (note _ _ (instances.filterMap Instance.endpoint?))
    cases instances.filterMap Instance.endpoint? <;> rfl

section

variable (answer : Answerer Catalog.Call.Reply σ)

/-- The endpoints that a call tells of a service, if it tells any. -/
def heardOf? (service : String) : Catalog.Call × σ → Option (List Endpoint)
  | (.instances name ns, s) =>
    let told := heard (answer (.instances name ns) s).1
    if name = service ∧ told ≠ [] then some told else none
  | (.list .., _) => none

/-- What calls tell of a service last. -/
def lastHeardOf? (service : String) (calls : List (Catalog.Call × σ)) : Option (List Endpoint) :=
  (calls.filterMap (heardOf? answer service)).getLast?

variable {answer}

theorem lastHeardOf?_cons (service : String) (x : Catalog.Call × σ) (xs : List (Catalog.Call × σ)) :
    lastHeardOf? answer service (x :: xs) =
      (lastHeardOf? answer service xs).or (heardOf? answer service x) := by
  rw [lastHeardOf?, lastHeardOf?]
  cases h : heardOf? answer service x with
  | none => rw [List.filterMap_cons_none h, Option.or_none]
  | some told =>
    rw [List.filterMap_cons_some h, List.getLast?_cons]
    cases (xs.filterMap (heardOf? answer service)).getLast? <;> rfl

/-- A membership has what was told last, and otherwise what it had before. -/
theorem find?_describe (namespaceName : Option String) (names : List String) (members : Membership)
    (s : σ) (service : String) :
    let description := Poller.describe namespaceName names members
    (description.run answer s).1.find? service =
      (lastHeardOf? answer service (description.trace answer s)).or (members.find? service) := by
  induction names generalizing members s with
  | nil => rfl
  | cons name names ih =>
    show ((Poller.describe namespaceName (name :: names) members).run _ _).1.find? service = _
    rw [describe_cons, Dialogue.run_ask, Dialogue.trace_ask, lastHeardOf?_cons, heardOf?,
      Option.or_assoc, ← find?_note]
    exact ih _ _

/-- Every service is described once, in order. -/
theorem map_fst_trace_describe (namespaceName : Option String) (names : List String)
    (members : Membership) (s : σ) :
    ((Poller.describe namespaceName names members).trace answer s).map (·.1) =
      names.map (.instances · namespaceName) := by
  induction names generalizing members s with
  | nil => rfl
  | cons name names ih => rw [describe_cons, Dialogue.trace_ask, List.map_cons, ih, List.map_cons]

theorem Instance.endpoint?_eq_none_iff {i : Instance} : i.endpoint? = none ↔ i.address = "" := by
  rw [endpoint?]
  split
  · simp [*]
  · split <;> simp [*]

theorem filterMap_endpoint?_ne_nil_iff {instances : List Instance} :
    instances.filterMap Instance.endpoint? ≠ [] ↔ ∃ i ∈ instances, i.address ≠ "" := by
  simp [List.filterMap_eq_nil_iff, Instance.endpoint?_eq_none_iff]

theorem heardOf?_eq_some_iff {service : String} {x : Catalog.Call × σ} {told : List Endpoint} :
    heardOf? answer service x = some told ↔ ∃ ns instances, x.1 = .instances service ns ∧
      (answer (.instances service ns) x.2).1 = .ok instances ∧
      (∃ i ∈ instances, i.address ≠ "") ∧ told = instances.filterMap Instance.endpoint? := by
  simp only [← filterMap_endpoint?_ne_nil_iff]
  obtain ⟨c, s⟩ := x
  cases c with
  | list index ns => simp [heardOf?]
  | instances name ns =>
    simp only [heardOf?, Option.ite_none_right_eq_some, Option.some.injEq]
    constructor
    · rintro ⟨⟨rfl, hne⟩, rfl⟩
      cases hreply : (answer (.instances name ns) s).1 with
      | error f => rw [hreply] at hne; exact absurd rfl hne
      | ok instances =>
        rw [hreply] at hne
        exact ⟨ns, instances, rfl, hreply, hne, rfl⟩
    · rintro ⟨ns, instances, hcall, hreply, hne, rfl⟩
      cases hcall
      rw [hreply]
      exact ⟨⟨rfl, hne⟩, rfl⟩

/-- When no service is described twice, what is told of it last is all that is told of it. -/
theorem lastHeardOf?_eq_some_iff {namespaceName : Option String} {names : List String}
    {calls : List (Catalog.Call × σ)} (hnames : names.Nodup)
    (hcalls : calls.map (·.1) = names.map (.instances · namespaceName)) {service : String}
    {told : List Endpoint} : lastHeardOf? answer service calls = some told ↔
      ∃ v instances, (.instances service namespaceName, v) ∈ calls ∧
        (answer (.instances service namespaceName) v).1 = .ok instances ∧
        (∃ i ∈ instances, i.address ≠ "") ∧ told = instances.filterMap Instance.endpoint? := by
  have honce : (calls.map (·.1)).Nodup := by
    rw [hcalls]
    exact hnames.map fun a b h => by cases h; rfl
  have hcall : ∀ {x}, x ∈ calls → ∀ {es}, heardOf? answer service x = some es →
      x.1 = .instances service namespaceName := by
    intro x hx es hes
    obtain ⟨ns, _, hcall, -⟩ := heardOf?_eq_some_iff.1 hes
    have hmem : x.1 ∈ names.map (.instances · namespaceName) := hcalls ▸ List.mem_map_of_mem hx
    obtain ⟨name, -, hname⟩ := List.mem_map.1 hmem
    rw [hcall] at hname ⊢
    cases hname
    rfl
  constructor
  · intro h
    obtain ⟨⟨c, v⟩, hx, htold⟩ := List.mem_filterMap.1 (List.mem_of_getLast? h)
    obtain rfl : c = _ := hcall hx htold
    obtain ⟨ns, instances, hns, hrest⟩ := heardOf?_eq_some_iff.1 htold
    cases hns
    exact ⟨v, instances, hx, hrest⟩
  · rintro ⟨v, instances, hx, hrest⟩
    have htold : heardOf? answer service (.instances service namespaceName, v) = some told :=
      heardOf?_eq_some_iff.2 ⟨namespaceName, instances, rfl, hrest⟩
    have hmem : told ∈ calls.filterMap (heardOf? answer service) :=
      List.mem_filterMap.2 ⟨_, hx, htold⟩
    -- Something is told, and the call that tells the last of it can only be this one.
    have hlast := List.getLast?_eq_some_getLast (List.ne_nil_of_mem hmem)
    obtain ⟨y, hy, hlastTold⟩ := List.mem_filterMap.1 (List.mem_of_getLast? hlast)
    obtain rfl := List.inj_on_of_nodup_map honce hy hx (hcall hy hlastTold)
    rw [lastHeardOf?, hlast, ← hlastTold, htold]

end

/-! ## The index that is remembered -/

section

variable (answer : Answerer Catalog.Call.Reply σ)

/-- The index that a call tells, if it is a listing that succeeds. -/
def listed? : Catalog.Call × σ → Option UInt64
  | (.list index ns, s) =>
    match (answer (.list index ns) s).1 with
    | .ok (_, listed) => some listed
    | .error _ => none
  | (.instances .., _) => none

/-- The index of the latest listing that succeeded, if there was one. -/
def latestListed? (calls : List (Catalog.Call × σ)) : Option UInt64 :=
  (calls.filterMap (listed? answer)).getLast?

variable {answer}

theorem latestListed?_append (calls calls' : List (Catalog.Call × σ)) :
    latestListed? answer (calls ++ calls') =
      (latestListed? answer calls').or (latestListed? answer calls) := by
  rw [latestListed?, List.filterMap_append, List.getLast?_append, latestListed?, latestListed?]

/-- Descriptions tell no index. -/
theorem latestListed?_describe (namespaceName : Option String) (names : List String)
    (members : Membership) (s : σ) :
    latestListed? answer ((Poller.describe namespaceName names members).trace answer s) = none := by
  rw [latestListed?, List.getLast?_eq_none_iff, List.filterMap_eq_nil_iff]
  rintro ⟨c, v⟩ hx
  have hcall : c ∈ names.map (.instances · namespaceName) := by
    rw [← map_fst_trace_describe]
    exact List.mem_map_of_mem hx
  obtain ⟨name, -, rfl⟩ := List.mem_map.1 hcall
  rfl

/-- A refresh remembers the index it was told, and otherwise the one it knew. -/
theorem poller_refresh (f : Follower) (s : σ) : (f.refresh.run answer s).1.poller =
    { f.poller with
      lastIndex := (latestListed? answer
        (f.refresh.trace answer s)).getD f.poller.lastIndex } := by
  by_cases hnews : HasNews answer f s
  · obtain ⟨names, index, hreply, hindex⟩ := hnews
    obtain ⟨hrun, htrace⟩ := refresh_of_news hreply hindex
    have hlisted : latestListed? answer [(f.poller.listing, s)] = some index := by
      simp [latestListed?, listed?, hreply]
    rw [hrun, htrace, ← List.singleton_append, latestListed?_append, latestListed?_describe,
      hlisted]
    rfl
  · obtain ⟨hrun, htrace⟩ := refresh_of_quiet hnews
    rw [hrun, htrace]
    cases hreply : (answer f.poller.listing s).1 with
    | error failure => simp [latestListed?, listed?, hreply]
    | ok told => simp [latestListed?, listed?, hreply, index_of_not_hasNews hnews hreply]

/-- A follower remembers the index it was told last. -/
theorem poller_rounds (answer : Answerer Catalog.Call.Reply σ) (f : Follower) (s : σ) (k : Nat) :
    (Dialogue.rounds answer Follower.refresh f s k).1.poller =
      { f.poller with
        lastIndex := (latestListed? answer
          (Dialogue.pastRounds answer Follower.refresh f s k)).getD f.poller.lastIndex } := by
  induction k with
  | zero => rfl
  | succ k ih =>
    let before := Dialogue.rounds answer Follower.refresh f s k
    rw [Dialogue.rounds, poller_refresh, ih, Dialogue.pastRounds_succ, latestListed?_append,
      Dialogue.round]
    cases latestListed? answer (before.1.refresh.trace answer before.2) <;> rfl

/-! ## One refresh -/

/-- Apart from its listing, a refresh only describes. -/
theorem trace_refresh (answer : Answerer Catalog.Call.Reply σ) (f : Follower) (s : σ) : ∃ rest,
    f.refresh.trace answer s = (f.poller.listing, s) :: rest ∧
      ∀ x ∈ rest, ∃ service, x.1 = .instances service f.poller.namespaceName := by
  by_cases hnews : HasNews answer f s
  · obtain ⟨names, index, hreply, hindex⟩ := hnews
    refine ⟨_, (refresh_of_news hreply hindex).2, fun x hx => ?_⟩
    have hcall := List.mem_map_of_mem (f := (·.1)) hx
    rw [map_fst_trace_describe] at hcall
    obtain ⟨service, -, hservice⟩ := List.mem_map.1 hcall
    exact ⟨service, hservice.symm⟩
  · exact ⟨[], (refresh_of_quiet hnews).2, fun x hx => by cases hx⟩

/-- The roster is replaced exactly when there are news. -/
theorem roster_refresh_ne_iff (f : Follower) (s : σ) :
    (f.refresh.run answer s).1.roster ≠ f.roster ↔ HasNews answer f s := by
  constructor
  · intro hreplaced
    by_contra hnews
    rw [(refresh_of_quiet hnews).1] at hreplaced
    exact hreplaced rfl
  · rintro ⟨names, index, hreply, hindex⟩ hroster
    rw [(refresh_of_news hreply hindex).1] at hroster
    have hrevision : f.roster.revision + 1 = f.roster.revision := congrArg Roster.revision hroster
    omega

/-- After news, the roster has of every service what is told of it. -/
theorem endpoints?_refresh_iff {f : Follower} {s : σ} {names : List String} {index : UInt64}
    (hreply : (answer f.poller.listing s).1 = .ok (names, index))
    (hindex : index ≠ f.poller.lastIndex) (hnames : names.Nodup) (service : String)
    (es : List Endpoint) :
    (f.refresh.run answer s).1.roster.endpoints? service = some es ↔
      ∃ v instances, (.instances service f.poller.namespaceName, v) ∈ f.refresh.trace answer s ∧
        (answer (.instances service f.poller.namespaceName) v).1 = .ok instances ∧
        (∃ i ∈ instances, i.address ≠ "") ∧
        es = Endpoint.distinct (instances.filterMap Instance.endpoint?) := by
  obtain ⟨hrun, htrace⟩ := refresh_of_news hreply hindex
  rw [hrun, htrace]
  show (Table.map _ _).find? service = some es ↔ _
  rw [Table.find?_map, find?_describe, Table.find?_empty, Option.or_none, Option.map_eq_some_iff]
  simp only [lastHeardOf?_eq_some_iff hnames (map_fst_trace_describe ..)]
  constructor
  · rintro ⟨_, ⟨v, instances, hx, hreply, haddress, rfl⟩, rfl⟩
    exact ⟨v, instances, List.mem_cons_of_mem _ hx, hreply, haddress, rfl⟩
  · rintro ⟨v, instances, hx, hreply, haddress, rfl⟩
    have hx := (List.mem_cons.1 hx).resolve_left fun h => by cases h
    exact ⟨_, ⟨v, instances, hx, hreply, haddress, rfl⟩, rfl⟩

end

/-- **Every refresh lists at the index of the latest successful listing, and replaces the roster
exactly when the listing succeeds at another index.** Then it describes every listed service once,
in order, and publishes, for those of which an instance with an address is told, the endpoints of
their instances, the first of every address, and nothing else. In all other cases the listing is its
only call, and both the roster and the index stay as they are. -/
theorem refresh_keeps_pace (answer : Answerer Catalog.Call.Reply σ) (namespaceName : Option String)
    (roster : Roster) (s : σ) (k : Nat) :
    let start : Follower := { poller := { namespaceName }, roster }
    let before := Dialogue.rounds answer Follower.refresh start s k
    let after := Dialogue.rounds answer Follower.refresh start s (k + 1)
    let calls := Dialogue.round answer Follower.refresh start s k
    let past := Dialogue.pastRounds answer Follower.refresh start s k
    let index := (latestListed? answer past).getD 0
    let reply := (answer (.list index namespaceName) before.2).1
    (∃ rest, calls = (.list index namespaceName, before.2) :: rest ∧
      ∀ x ∈ rest, ∃ service, x.1 = .instances service namespaceName) ∧
    (after.1.roster ≠ before.1.roster ↔
      ∃ names listed, reply = .ok (names, listed) ∧ listed ≠ index) ∧
    (∀ names listed, reply = .ok (names, listed) → listed ≠ index →
      calls.map (·.1) = .list index namespaceName :: names.map (.instances · namespaceName) ∧
      after.1.roster.revision = before.1.roster.revision + 1 ∧
      (names.Nodup → ∀ service es, after.1.roster.endpoints? service = some es ↔
        ∃ v instances, (.instances service namespaceName, v) ∈ calls ∧
          (answer (.instances service namespaceName) v).1 = .ok instances ∧
          (∃ i ∈ instances, i.address ≠ "") ∧
          es = Endpoint.distinct (instances.filterMap Instance.endpoint?))) ∧
    ((∀ names listed, reply = .ok (names, listed) → listed = index) →
      calls = [(.list index namespaceName, before.2)] ∧ after.1 = before.1) := by
  intro start before after calls past index reply
  have hpoller : before.1.poller = { namespaceName, lastIndex := index } :=
    poller_rounds answer start s k
  have hnews : HasNews answer before.1 before.2 ↔
      ∃ names listed, reply = .ok (names, listed) ∧ listed ≠ index := by
    rw [HasNews, hpoller]
  obtain ⟨rest, hcalls, hrest⟩ := trace_refresh answer before.1 before.2
  rw [hpoller] at hcalls hrest
  refine ⟨⟨rest, hcalls, hrest⟩, (roster_refresh_ne_iff _ _).trans hnews,
    fun names listed hreply hlisted => ?_, fun hquiet => ?_⟩
  · have hreply : (answer before.1.poller.listing before.2).1 = .ok (names, listed) := by
      rw [hpoller]
      exact hreply
    have hindex : listed ≠ before.1.poller.lastIndex := by
      rw [hpoller]
      exact hlisted
    obtain ⟨hrun, htrace⟩ := refresh_of_news hreply hindex
    refine ⟨?_, ?_, fun hnames service es => ?_⟩
    · show (before.1.refresh.trace answer before.2).map (·.1) = _
      rw [htrace, List.map_cons, map_fst_trace_describe, hpoller]
    · show (before.1.refresh.run answer before.2).1.roster.revision = _
      rw [hrun]
      rfl
    · have hpublished := endpoints?_refresh_iff hreply hindex hnames service es
      rw [hpoller] at hpublished
      exact hpublished
  · have hquiet : ¬ HasNews answer before.1 before.2 := by
      rw [hnews]
      rintro ⟨names, listed, hreply, hlisted⟩
      exact hlisted (hquiet names listed hreply)
    obtain ⟨hrun, htrace⟩ := refresh_of_quiet hquiet
    rw [hpoller] at htrace
    refine ⟨htrace, ?_⟩
    show (before.1.refresh.run answer before.2).1 = before.1
    rw [hrun]

/-- A catalog that fails to list once and then has an older index. Its second description fails, and
its third tells of three instances, of which one has no address and two have the same. -/
def wavering : Answerer Catalog.Call.Reply Nat
  | .list _ _, n =>
    (if n = 0 then .ok (["db"], 7)
      else if n = 2 then .error (.http "timeout")
      else .ok (["db", "web"], 3), n + 1)
  | .instances service _, n =>
    (if n = 4 then .error (.http "timeout")
      else .ok [{ service, port := 80 }, { service, address := "10.0.0.1", port := 80 },
        { service, address := "10.0.0.1", port := 8080 }], n + 1)

/-- The third refresh asks for the index of the first, and describes the services anew. -/
theorem wavering_refresh_keeps_pace :
    let start : Follower := { poller := { namespaceName := none } }
    let before := Dialogue.rounds wavering Follower.refresh start 0 2
    let after := Dialogue.rounds wavering Follower.refresh start 0 (2 + 1)
    let calls := Dialogue.round wavering Follower.refresh start 0 2
    (wavering (.list 7 none) before.2).1 = .ok (["db", "web"], 3) ∧
    calls.map (·.1) = [.list 7 none, .instances "db" none, .instances "web" none] ∧
    after.1.roster.revision = before.1.roster.revision + 1 ∧
    ∀ service es, after.1.roster.endpoints? service = some es ↔
      service = "web" ∧ es = [.ofPort "10.0.0.1" 80] := by
  dsimp only
  have hreply : (wavering (.list 7 none)
      (Dialogue.rounds wavering Follower.refresh { poller := { namespaceName := none } } 0 2).2).1 =
        .ok (["db", "web"], 3) := rfl
  have htrace :
      Dialogue.round wavering Follower.refresh { poller := { namespaceName := none } } 0 2 =
        [(.list 7 none, 3), (.instances "db" none, 4), (.instances "web" none, 5)] := rfl
  obtain ⟨-, -, hnews, -⟩ := refresh_keeps_pace wavering none {} 0 2
  obtain ⟨hcalls, hrevision, hpublished⟩ := hnews _ _ hreply (by decide +kernel)
  refine ⟨hreply, hcalls, hrevision, fun service es => ?_⟩
  rw [hpublished (by decide), htrace]
  constructor
  · rintro ⟨v, instances, hx, htold, -, rfl⟩
    simp only [List.mem_cons, List.not_mem_nil, or_false] at hx
    rcases hx with hx | hx | hx
    · cases hx
    · cases hx
      cases htold
    · cases hx
      cases htold
      exact ⟨rfl, by rfl⟩
  · rintro ⟨rfl, rfl⟩
    exact ⟨5, _, by simp, rfl, ⟨_, .tail _ (.head _), by decide⟩, by rfl⟩

end RegistrySync.Consul
