import Mathlib.Data.List.Nodup
import RegistrySync.Mesh.Inference

/-!
# The ports of a host

**Theorem (`ports_are_united`).** The ports of a host are the pairs of number and label that its
endpoints use, each once, by number and then by label, and each with the label in upper case as its
protocol. So they depend on nothing but which pairs are in use, and the ports of two lists of
endpoints together are the ports of both, sorted and without repetition.

The pairs are in order by the sort and none comes twice, so that they are strictly ascending
(`portPairs_strict`), and the ports with them (`ServicePort.infer_ascending`). Between two ports the
protocol is therefore never asked, and the order of the ports is that in which specs are compared.
Two lists of ports are then equal when they have the same members
(`ServicePort.infer_eq_sorted_iff`), and it remains to say which ports there are
(`ServicePort.mem_infer`).
-/

namespace RegistrySync

theorem compare_string_eq_lt {a b : String} : compare a b = .lt ↔ a < b := compareOfLessAndEq_eq_lt

theorem portPairs_strict (es : List Endpoint) :
    (portPairs es).Pairwise fun p q => p.1 < q.1 ∨ p.1 = q.1 ∧ p.2 < q.2 := by
  refine ((portPairs_pairwise es).and (nodup_portPairs es)).imp fun {p q} ⟨hle, hne⟩ => ?_
  rcases Ordering.isLE_then_iff_or.1 hle with hnumber | ⟨hnumber, hlabel⟩
  · exact .inl (Std.compare_eq_lt.1 hnumber)
  · have hnumber : p.1 = q.1 := Std.LawfulEqCmp.eq_of_compare hnumber
    refine .inr ⟨hnumber, compare_string_eq_lt.1 ?_⟩
    refine (Ordering.isLE_iff_eq_lt_or_eq_eq.1 hlabel).resolve_right fun heq => hne ?_
    exact Prod.ext hnumber (Std.LawfulEqCmp.eq_of_compare heq)

namespace ServicePort

variable {es es' : List Endpoint}

/-! ## Order -/

/-- By number, and with one number by label. -/
def Before (p q : ServicePort) : Prop :=
  p.number < q.number ∨ p.number = q.number ∧ p.name < q.name

theorem Before.ne {p q : ServicePort} (h : p.Before q) : p ≠ q := by
  rintro rfl
  rcases h with h | ⟨-, h⟩
  · exact UInt32.lt_irrefl _ h
  · exact String.lt_irrefl _ h

theorem Before.isLE {p q : ServicePort} (h : p.Before q) : (compare p q).isLE := by
  refine Ordering.isLE_then_iff_or.2 ?_
  rcases h with h | ⟨hnumber, h⟩
  · exact .inl (Std.compare_eq_lt.2 h)
  · have hnumber : compare p.number q.number = .eq := Std.LawfulEqCmp.compare_eq_iff_eq.2 hnumber
    exact .inr ⟨hnumber, Ordering.isLE_then_iff_or.2 (.inl (compare_string_eq_lt.2 h))⟩

theorem infer_ascending (es : List Endpoint) : (infer es).Pairwise Before :=
  List.pairwise_map.2 (portPairs_strict es)

theorem infer_nodup (es : List Endpoint) : (infer es).Nodup := (infer_ascending es).imp Before.ne

theorem sorted_infer (es : List Endpoint) : sorted (infer es) = infer es :=
  List.mergeSort_of_pairwise ((infer_ascending es).imp Before.isLE)

/-! ## Members -/

theorem mem_infer {p : ServicePort} : p ∈ infer es ↔
    p.protocol = Text.upper p.name ∧ ∃ e ∈ es, e.ports.find? p.name = some p.number := by
  rw [infer, List.mem_map]
  constructor
  · rintro ⟨⟨number, label⟩, hpair, rfl⟩
    exact ⟨rfl, mem_portPairs.1 hpair⟩
  · rintro ⟨hprotocol, hport⟩
    refine ⟨(p.number, p.name), mem_portPairs.2 hport, ?_⟩
    rw [ofLabel, ← hprotocol]

/-- A list without repetition sorts to the ports of a host when it has the same members. -/
theorem infer_eq_sorted_iff {ports : List ServicePort} (hports : ports.Nodup) :
    infer es = sorted ports ↔ ∀ p, p ∈ infer es ↔ p ∈ ports := by
  rw [← List.perm_ext_iff_of_nodup (infer_nodup es) hports, ← sorted_eq_sorted_iff, sorted_infer]

/-- The ports are those of the pairs in use and of nothing else. -/
theorem infer_eq_infer_iff : infer es = infer es' ↔ ∀ label number,
    (∃ e ∈ es, e.ports.find? label = some number) ↔
      ∃ e ∈ es', e.ports.find? label = some number := by
  rw [← sorted_infer es', infer_eq_sorted_iff (infer_nodup es')]
  constructor
  · intro h label number
    have hlabel := h (ofLabel number label)
    rw [mem_infer, mem_infer] at hlabel
    exact (and_congr_right_iff.1 hlabel) rfl
  · intro h p
    rw [mem_infer, mem_infer, h p.name p.number]

theorem infer_congr (h : ∀ e, e ∈ es ↔ e ∈ es') : infer es = infer es' := by
  refine infer_eq_infer_iff.2 fun label number => ?_
  simp only [h]

theorem mem_infer_append {p : ServicePort} :
    p ∈ infer (es ++ es') ↔ p ∈ infer es ∨ p ∈ infer es' := by
  simp only [mem_infer, List.mem_append, or_and_right, exists_or, and_or_left]

theorem infer_append (es es' : List Endpoint) :
    infer (es ++ es') = sorted (infer es ++ infer es').eraseDups := by
  refine (infer_eq_sorted_iff (nodup_eraseDups _)).2 fun p => ?_
  rw [mem_infer_append, List.mem_eraseDups, List.mem_append]

end ServicePort

/-- **The ports of a host are the union of the ports of its endpoints.** They are strictly ascending
by number and then by label. A port is among them if and only if its protocol is its label in upper
case and some endpoint has its number under its label. Two lists of endpoints thus have the same
ports exactly when the same pairs of label and number are in use, in particular when each is a
rearrangement of the other with or without repetitions, and the ports of both lists together are the
ports of each, merged in order and each kept once. -/
theorem ports_are_united :
    (∀ es, (ServicePort.infer es).Pairwise fun p q =>
      p.number < q.number ∨ p.number = q.number ∧ p.name < q.name) ∧
    (∀ es p, p ∈ ServicePort.infer es ↔
      p.protocol = Text.upper p.name ∧ ∃ e ∈ es, e.ports.find? p.name = some p.number) ∧
    (∀ es es', ServicePort.infer es = ServicePort.infer es' ↔ ∀ label number,
      (∃ e ∈ es, e.ports.find? label = some number) ↔
        ∃ e ∈ es', e.ports.find? label = some number) ∧
    (∀ es es' : List Endpoint, (∀ e, e ∈ es ↔ e ∈ es') →
      ServicePort.infer es = ServicePort.infer es') ∧
    ∀ es es', ServicePort.infer (es ++ es') =
      sorted (ServicePort.infer es ++ ServicePort.infer es').eraseDups := by
  refine ⟨ServicePort.infer_ascending, fun es p => ServicePort.mem_infer, ?_, ?_, ?_⟩
  · exact fun es es' => ServicePort.infer_eq_infer_iff
  · exact fun es es' => ServicePort.infer_congr
  · exact ServicePort.infer_append

/-- Endpoints with one number under two labels, and with one label for two numbers. -/
def overlappingPorts : List Endpoint := [
  ({ address := "10.0.0.1" : Endpoint }.withPort "web" 80).withPort "http" 80,
  ({ address := "10.0.0.2" : Endpoint }.withPort "web" 443).withPort "a" 8080]

/-- Listing all of them again, the other way round, neither loses a port nor adds one. -/
theorem overlapping_ports_are_united :
    let repeated := overlappingPorts.reverse ++ overlappingPorts
    let ports : List ServicePort :=
      [⟨80, "http", "HTTP"⟩, ⟨80, "web", "WEB"⟩, ⟨443, "web", "WEB"⟩, ⟨8080, "a", "A"⟩]
    (∀ p ∈ ports, p ∈ ServicePort.infer repeated) ∧
      ServicePort.infer repeated = ServicePort.infer overlappingPorts := by
  intro repeated ports
  obtain ⟨-, hmem, -, hcongr, -⟩ := ports_are_united
  have hused : ∀ p ∈ ports, p.protocol = Text.upper p.name ∧
      ∃ e ∈ repeated, e.ports.find? p.name = some p.number := by decide +kernel
  refine ⟨fun p hp => ?_, hcongr _ _ fun e => by simp [repeated]⟩
  rw [hmem]
  exact hused p hp

end RegistrySync
