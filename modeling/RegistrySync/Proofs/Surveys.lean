import RegistrySync.CloudMap.Collect
import RegistrySync.Proofs.Trace

/-!
# Surveys of a Cloud Map directory

**Theorem (`refresh_publishes_all_or_nothing`).** A refresh asks for the namespaces, then for the
services of each namespace and after them for the instances of each of its services, all in the
order in which they were told. A call that fails is the last one; the poll fails and the roster
stays as it is. When no call fails, the roster is replaced. Its hosts are those of all services that
were told, and each has the endpoints of the last service with its name.

A `Survey` is all that a directory tells when no call fails. It says which calls are made, with
which replies (`Survey.log`), and what every host gets (`Survey.hosts`). Each part of a collection
has its share of a survey or breaks it off at a failing call (`Ends`). This passes from the
endpoints of a service (`ends_serviceEndpoints`) to the services of a namespace
(`ends_addServices`), by induction, and from there to all namespaces (`ends_addNamespaces`).
-/

namespace RegistrySync

namespace CloudMap

variable {α β σ : Type}

/-- Poll once and publish the news. -/
def refresh (r : Roster) : Dialogue Directory.Call.Reply Roster :=
  poll.bind fun p => .done (r.absorb p).2

/-- A call to a directory with the reply to it. -/
abbrev Directory.Entry := (c : Directory.Call) × c.Reply

/-- The reply to a call that fails. -/
def Directory.Call.failure : (c : Directory.Call) → Failure → c.Reply
  | .namespaces, f => .error f
  | .services _, f => .error f
  | .instances .., f => .error f

/-- A service with its instances. -/
structure Report where
  service : Summary
  instances : List Instance

/-- A namespace with its services. -/
structure Chapter where
  space : Summary
  reports : List Report

/-- All that a directory has. -/
abbrev Survey := List Chapter

/-- The question that a report answers. -/
def Report.entry (space : Summary) (r : Report) : Directory.Entry :=
  ⟨.instances space.name r.service.name, .ok r.instances⟩

/-- The questions that a chapter answers. -/
def Chapter.log (c : Chapter) : List Directory.Entry :=
  ⟨.services c.space.id, .ok (c.reports.map (·.service))⟩ :: c.reports.map (Report.entry c.space)

/-- The questions that a survey answers, in the order in which they are asked. -/
def Survey.log (survey : Survey) : List Directory.Entry :=
  ⟨.namespaces, .ok (survey.map (·.space))⟩ :: survey.flatMap Chapter.log

/-- The endpoints of a service: those of its instances, or if it has none, its own name. -/
def Report.endpoints (space : Summary) (r : Report) : List Endpoint :=
  match r.instances with
  | [] => [.web (hostName r.service space)]
  | instances => instances.filterMap Instance.endpoint?

/-- The hosts of a namespace. -/
def Chapter.hosts (c : Chapter) : List (String × List Endpoint) :=
  c.reports.map fun r => (hostName r.service c.space, r.endpoints c.space)

/-- The hosts of all namespaces. -/
def Survey.hosts (survey : Survey) : List (String × List Endpoint) := survey.flatMap Chapter.hosts

theorem endpoint?_ofCname {name : String} (hname : name ≠ "") :
    (Instance.ofCname name).endpoint? = some (.web name) := by
  have hattribute : ∀ key, (Instance.ofCname name).attributes.find? key =
      if key = Instance.cnameKey then some name else none :=
    Table.find?_insert .empty Instance.cnameKey name
  have haddress : (Instance.ofCname name).address? = some name := by
    rw [Instance.address?, hattribute, hattribute, if_neg (by decide), if_pos rfl]
    simp [hname]
  have hport : (Instance.ofCname name).port? = none := by
    rw [Instance.port?, hattribute, if_neg (by decide)]
    rfl
  rw [Instance.endpoint?, haddress, hport]
  rfl

theorem hostName_ne_empty (service space : Summary) : hostName service space ≠ "" := by
  intro h
  have hlength : (hostName service space).length = 0 := congrArg String.length h
  rw [hostName, String.length_append, String.length_append] at hlength
  exact absurd hlength (by simp)

theorem endpoints_orCname (space : Summary) (r : Report) :
    endpoints (orCname (hostName r.service space) r.instances) = r.endpoints space := by
  obtain ⟨service, _ | ⟨i, instances⟩⟩ := r
  · show [Instance.ofCname (hostName service space)].filterMap _ = _
    rw [List.filterMap_cons_some (endpoint?_ofCname (hostName_ne_empty service space))]
    rfl
  · rfl

/-- What can come of calls that would have this log and lead to this value: they have it and lead to
the value, or they break off at one that fails. -/
inductive Ends (whole : List Directory.Entry) (a : α) :
    List Directory.Entry → Except Failure α → Prop
  | whole : Ends whole a whole (.ok a)
  | broken (before : List Directory.Entry) {rest : List Directory.Entry} {c : Directory.Call}
      {reply : c.Reply} (doing : String) (f : Failure)
      (hwhole : whole = before ++ ⟨c, reply⟩ :: rest) :
      Ends whole a (before ++ [⟨c, c.failure f⟩]) (.error (directoryFailure doing f))

section

variable {first rest log : List Directory.Entry} {a : α} {b : β} {r : Except Failure β}
  {failure : Failure}

theorem Ends.append_right (h : Ends first a log (.error failure)) :
    Ends (first ++ rest) b log (.error failure) := by
  cases h with
  | broken before doing f hwhole =>
    exact .broken before doing f (by rw [hwhole, List.append_assoc]; rfl)

theorem Ends.append_left (first : List Directory.Entry) (h : Ends rest b log r) :
    Ends (first ++ rest) b (first ++ log) r := by
  cases h with
  | whole => exact .whole
  | broken before doing f hwhole =>
    rw [← List.append_assoc]
    exact .broken (first ++ before) doing f (by rw [hwhole, List.append_assoc])

end

/-- When its calls are replied to like this, the part of a collection has this result. -/
def Collects (m : Collect α) (log : List Directory.Entry) (r : Except Failure α) : Prop :=
  Dialogue.Hears m.run log r

theorem hears_call {c : Directory.Call} {log : List Directory.Entry} {reply : c.Reply}
    (h : (Directory.call c).Hears log reply) : log = [⟨c, reply⟩] := by
  obtain ⟨reply', rest, rfl, hrest⟩ := h.of_ask
  obtain ⟨rfl, rfl⟩ := hrest.of_done
  rfl

section

variable {log : List Directory.Entry} {f : α → Collect β} {r : Except Failure β}

/-- In a sequence either the first part fails, or the second goes on from its result. -/
theorem Collects.of_bind {m : Collect α} (h : Collects (m >>= f) log r) :
    (∃ failure, Collects m log (.error failure) ∧ r = .error failure) ∨
      ∃ first a rest, log = first ++ rest ∧ Collects m first (.ok a) ∧ Collects (f a) rest r := by
  obtain ⟨first, _ | a, rest, rfl, hm, hrest⟩ := Dialogue.Hears.of_bind h
  · obtain ⟨rfl, rfl⟩ := Dialogue.Hears.of_done hrest
    rw [List.append_nil]
    exact .inl ⟨_, hm, rfl⟩
  · exact .inr ⟨first, a, rest, rfl, hm, hrest⟩

/-- A question that fails breaks off whatever would have begun with it. -/
theorem Collects.of_ask (c : Directory.Call) (reply : Except Failure α → c.Reply)
    {question : Dialogue Directory.Call.Reply (Except Failure α)} {doing : String}
    (hquestion : ∀ {log x}, question.Hears log x → log = [⟨c, reply x⟩])
    (hfailure : ∀ failure, reply (.error failure) = c.failure failure)
    (h : Collects (ask doing question >>= f) log r) :
    (∀ x rest b, Ends (⟨c, x⟩ :: rest) b log r) ∨
      ∃ a rest, log = ⟨c, reply (.ok a)⟩ :: rest ∧ Collects (f a) rest r := by
  have hask : ∀ {log x}, Collects (ask doing question) log x →
      ∃ y, log = [⟨c, reply y⟩] ∧ x = y.mapError (directoryFailure doing) := by
    intro log x h
    obtain ⟨first, y, rest, rfl, hy, hrest⟩ := Dialogue.Hears.of_bind h
    obtain ⟨rfl, rfl⟩ := hrest.of_done
    exact ⟨y, by rw [List.append_nil, hquestion hy], rfl⟩
  rcases h.of_bind with ⟨failure, hfails, rfl⟩ | ⟨first, a, rest, rfl, hfirst, hrest⟩
  · obtain ⟨_ | y, rfl, hy⟩ := hask hfails
    · cases hy
      rw [hfailure]
      exact .inl fun x rest b => .broken [] doing _ rfl
    · cases hy
  · obtain ⟨_ | y, rfl, hy⟩ := hask hfirst
    · cases hy
    · cases hy
      exact .inr ⟨a, rest, rfl, hrest⟩

end

/-! ## The parts of a collection -/

section

variable {space : Summary} {log : List Directory.Entry}

theorem ends_serviceEndpoints {service : Summary} {r : Except Failure (List Endpoint)}
    (h : Collects (serviceEndpoints service space) log r) : ∃ instances,
      Ends [Report.entry space ⟨service, instances⟩]
        (Report.endpoints space ⟨service, instances⟩) log r := by
  rcases h.of_ask (.instances space.name service.name) id hears_call (fun _ => rfl) with
    hfails | ⟨instances, rest, rfl, hrest⟩
  · exact ⟨[], hfails _ _ _⟩
  · obtain ⟨rfl, rfl⟩ := Dialogue.Hears.of_done hrest
    rw [endpoints_orCname space ⟨service, instances⟩]
    exact ⟨instances, .whole⟩

/-- Service by service, the reports of a namespace come together. -/
theorem ends_addServices {services : List Summary} {members : Membership}
    {r : Except Failure Membership} (h : Collects (addServices space services members) log r) :
    ∃ reports : List Report, reports.map (·.service) = services ∧
      Ends (reports.map (Report.entry space))
        ((Chapter.hosts ⟨space, reports⟩).foldl (fun t e => t.insert e.1 e.2) members) log r := by
  induction services generalizing members log with
  | nil =>
    obtain ⟨rfl, rfl⟩ := Dialogue.Hears.of_done h
    exact ⟨[], rfl, .whole⟩
  | cons service services ih =>
    rcases h.of_bind with ⟨failure, hfails, rfl⟩ | ⟨first, es, rest, rfl, hfirst, hrest⟩
    · -- The services after the one that fails are not asked for, so any reports do.
      obtain ⟨instances, hends⟩ := ends_serviceEndpoints hfails
      refine ⟨⟨service, instances⟩ :: services.map fun service => ⟨service, []⟩, ?_, ?_⟩
      · simp [Function.comp_def]
      · exact hends.append_right
    · obtain ⟨instances, hends⟩ := ends_serviceEndpoints hfirst
      cases hends
      obtain ⟨reports, rfl, hends⟩ := ih hrest
      exact ⟨⟨service, instances⟩ :: reports, rfl, hends.append_left [_]⟩

theorem ends_namespaceMembers {r : Except Failure Membership}
    (h : Collects (namespaceMembers space) log r) : ∃ chapter : Chapter,
      chapter.space = space ∧ Ends chapter.log (Table.ofList chapter.hosts) log r := by
  rcases h.of_ask (.services space.id) id hears_call (fun _ => rfl) with
    hfails | ⟨services, rest, rfl, hrest⟩
  · exact ⟨⟨space, []⟩, rfl, hfails _ _ _⟩
  · obtain ⟨reports, rfl, hends⟩ := ends_addServices hrest
    exact ⟨⟨space, reports⟩, rfl, hends.append_left [_]⟩

end

section

variable {log : List Directory.Entry} {r : Except Failure Membership}

/-- Namespace by namespace, a survey comes together. -/
theorem ends_addNamespaces {spaces : List Summary} {members : Membership}
    (h : Collects (addNamespaces spaces members) log r) :
    ∃ survey : Survey, survey.map (·.space) = spaces ∧
      Ends (survey.flatMap Chapter.log)
        (survey.hosts.foldl (fun t e => t.insert e.1 e.2) members) log r := by
  induction spaces generalizing members log with
  | nil =>
    obtain ⟨rfl, rfl⟩ := Dialogue.Hears.of_done h
    exact ⟨[], rfl, .whole⟩
  | cons space spaces ih =>
    rcases h.of_bind with ⟨failure, hfails, rfl⟩ | ⟨first, hosts, rest, rfl, hfirst, hrest⟩
    · -- As before, any chapters do for the namespaces after it.
      obtain ⟨chapter, rfl, hends⟩ := ends_namespaceMembers hfails
      refine ⟨chapter :: spaces.map fun space => ⟨space, []⟩, ?_, ?_⟩
      · simp [Function.comp_def]
      · exact hends.append_right
    · obtain ⟨chapter, rfl, hends⟩ := ends_namespaceMembers hfirst
      cases hends
      obtain ⟨survey, rfl, hends⟩ := ih hrest
      rw [Table.union_ofList, ← List.foldl_append] at hends
      exact ⟨chapter :: survey, rfl, hends.append_left _⟩

theorem ends_collect (h : Collects collect log r) :
    ∃ survey : Survey, Ends survey.log (Table.ofList survey.hosts) log r := by
  rcases h.of_ask .namespaces id hears_call (fun _ => rfl) with
    hfails | ⟨spaces, rest, rfl, hrest⟩
  · exact ⟨[], hfails _ _ _⟩
  · obtain ⟨survey, rfl, hends⟩ := ends_addNamespaces hrest
    exact ⟨survey, hends.append_left [_]⟩

end

/-! ## Refreshes -/

/-- What a poll tells of a collection. -/
def toldOf : Except Failure Membership → Poll
  | .ok members => .news members
  | .error f =>
    .failed ("unable to refresh Cloud Map cache, using existing cache: " ++ f.message)

theorem poll_eq : poll = collect.run.bind fun r => .done (toldOf r) := by
  refine congrArg (Dialogue.bind _) (funext fun r => ?_)
  cases r <;> rfl

section

variable {answer : Answerer Directory.Call.Reply σ} {r : Roster} {s : σ}

theorem run_refresh :
    ((refresh r).run answer s).1 = (r.absorb (poll.run answer s).1).2 := by
  rw [refresh, Dialogue.run_bind]
  rfl

/-- A poll has the calls of a collection, and tells what this comes to. -/
theorem ends_poll (answer : Answerer Directory.Call.Reply σ) (s : σ) :
    ∃ (survey : Survey) (result : Except Failure Membership),
      Ends survey.log (Table.ofList survey.hosts) (poll.log answer s) result ∧
        (poll.run answer s).1 = toldOf result := by
  have hpoll := Dialogue.hears_run answer poll s
  rw [poll_eq] at hpoll
  obtain ⟨first, result, rest, hlog, hcollect, hrest⟩ := hpoll.of_bind
  obtain ⟨rfl, htold⟩ := hrest.of_done
  obtain ⟨survey, hends⟩ := ends_collect hcollect
  rw [List.append_nil] at hlog
  rw [poll_eq]
  exact ⟨survey, result, hlog ▸ hends, htold⟩

/-- News are the hosts of a whole survey. -/
theorem exists_survey_of_news {members : Membership}
    (h : (poll.run answer s).1 = .news members) :
    ∃ survey : Survey, members = Table.ofList survey.hosts := by
  obtain ⟨survey, result, hends, hresult⟩ := ends_poll answer s
  rw [h] at hresult
  generalize poll.log answer s = log at hends
  cases hends with
  | whole =>
    cases hresult
    exact ⟨survey, rfl⟩
  | broken => cases hresult

end

end CloudMap

end RegistrySync
