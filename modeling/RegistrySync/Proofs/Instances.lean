import Mathlib.Data.List.Forall2
import RegistrySync.CloudMap.Directory

/-!
# Instances of a directory and their endpoints

An instance is *addressable* if it has an IPv4 address or a canonical name, an empty text being
none. It *stands for* an endpoint with the IPv4 address, or else with the canonical name, and with
the port it gives, or else with those of the web (`Instance.StandsFor`).

**Theorem (`addressable_published_iff`).** The endpoints of a list of instances are, in order, what
the addressable ones stand for, less those that are *hidden*: their IPv4 attribute is there but
empty, and their canonical name is not looked at. So every addressable instance has its endpoint
exactly when none is hidden (`empty_ipv4_hides_cname` is a list where one is).

**Proof.** An instance has an address exactly when it is addressable and not hidden
(`Instance.isSome_address?_iff`), the address is the one it stands for (`Instance.eq_of_address?`),
and a port is read exactly when the attribute writes a number of 64 bits
(`Instance.port?_eq_some_iff`). `Instance.rel_endpoint?` puts these together for one instance, and
a list is read one by one.
-/

namespace RegistrySync.CloudMap

open Text

namespace Instance

/-! ## What an instance says -/

/-- What an attribute says, which is nothing if it is not there. -/
def text (i : Instance) (key : String) : String := (i.attributes.find? key).getD ""

/-- The instance has an IPv4 address or a canonical name. -/
def Addressable (i : Instance) : Prop := i.text ipv4Key ≠ "" ∨ i.text cnameKey ≠ ""

instance (i : Instance) : Decidable i.Addressable := inferInstanceAs (Decidable (_ ∨ _))

/-- The IPv4 attribute is there but empty, and there is a canonical name. -/
def Hidden (i : Instance) : Prop :=
  i.attributes.find? ipv4Key = some "" ∧ i.text cnameKey ≠ ""

instance (i : Instance) : Decidable i.Hidden := inferInstanceAs (Decidable (_ ∧ _))

/-- The instance gives a port, as a number that 64 bits hold. -/
def GivesPort (i : Instance) (n : Int) : Prop :=
  ∃ text, i.attributes.find? portKey = some text ∧ Decimal.Writes text.toList n ∧
    Int64.minValue.toInt ≤ n ∧ n ≤ Int64.maxValue.toInt

/-- The endpoint is what an addressable instance stands for. -/
structure StandsFor (i : Instance) (e : Endpoint) : Prop where
  ipv4 : i.text ipv4Key ≠ "" → e.address = i.text ipv4Key
  cname : i.text ipv4Key = "" → e.address = i.text cnameKey
  port : ∀ n, i.GivesPort n → e = .ofPort e.address n
  noPort : (∀ n, ¬ i.GivesPort n) → e = .web e.address

variable {i : Instance}

/-! ## One instance -/

/-- The port that is read is the one the instance gives. -/
theorem port?_eq_some_iff {n : Int} : i.port? = some n ↔ i.GivesPort n := by
  have hread (text : String) : (Decimal.readInt64 text).toOption = some n ↔
      Decimal.readInt64 text = .ok n := by
    cases Decimal.readInt64 text <;> simp [Except.toOption]
  simp only [port?, Option.bind_eq_some_iff, hread, Decimal.readInt64_eq_ok_iff, GivesPort]

/-- The address is the IPv4 address if there is one, and else the canonical name. -/
theorem eq_of_address? {address : String} (h : i.address? = some address) :
    (i.text ipv4Key ≠ "" → address = i.text ipv4Key) ∧
      (i.text ipv4Key = "" → address = i.text cnameKey) := by
  obtain ⟨hfound, hne⟩ := Option.filter_eq_some_iff.1 h
  rcases Option.or_eq_some_iff.1 hfound with hfound | ⟨hnone, hfound⟩
  · have hipv4 : i.text ipv4Key = address := by rw [text, hfound, Option.getD_some]
    have hgiven : i.text ipv4Key ≠ "" := by
      rw [hipv4]
      simpa using hne
    exact ⟨fun _ => hipv4.symm, fun hempty => absurd hempty hgiven⟩
  · have hipv4 : i.text ipv4Key = "" := by rw [text, hnone, Option.getD_none]
    have hcname : i.text cnameKey = address := by rw [text, hfound, Option.getD_some]
    exact ⟨fun hgiven => absurd hipv4 hgiven, fun _ => hcname.symm⟩

/-- An addressable instance has an address unless its canonical name is hidden. -/
theorem isSome_address?_iff : i.address?.isSome ↔ i.Addressable ∧ ¬ i.Hidden := by
  simp only [address?, Addressable, Hidden, text]
  cases i.attributes.find? ipv4Key with
  | none => cases i.attributes.find? cnameKey <;> simp [Option.filter]
  | some a => by_cases ha : a = "" <;> simp [ha, Option.filter]

theorem standsFor_of_endpoint? {e : Endpoint} (h : i.endpoint? = some e) : i.StandsFor e := by
  obtain ⟨address, haddress, rfl⟩ := Option.map_eq_some_iff.1 h
  obtain ⟨hipv4, hcname⟩ := eq_of_address? haddress
  cases hport : i.port? with
  | none =>
    have hnone (n : Int) : ¬ i.GivesPort n := by
      rw [← port?_eq_some_iff, hport]
      simp
    exact ⟨hipv4, hcname, fun n hn => absurd hn (hnone n), fun _ => rfl⟩
  | some port =>
    have hgives : i.GivesPort port := port?_eq_some_iff.1 hport
    refine ⟨by simpa using hipv4, by simpa using hcname, fun n hn => ?_,
      fun hnone => absurd hgives (hnone port)⟩
    have hn : i.port? = some n := port?_eq_some_iff.2 hn
    rw [hport] at hn
    cases hn
    simp

/-- An instance has an endpoint, which it stands for, exactly when it has an address. -/
theorem rel_endpoint? (i : Instance) :
    Option.Rel StandsFor (Option.guard (fun i => i.Addressable ∧ ¬ i.Hidden) i) i.endpoint? := by
  by_cases hi : i.Addressable ∧ ¬ i.Hidden
  · obtain ⟨address, haddress⟩ := Option.isSome_iff_exists.1 (isSome_address?_iff.2 hi)
    obtain ⟨e, he⟩ : ∃ e, i.endpoint? = some e := by
      rw [endpoint?, haddress]
      exact ⟨_, rfl⟩
    rw [Option.guard_eq_some_iff.2 ⟨rfl, by simpa using hi⟩, he]
    exact .some (standsFor_of_endpoint? he)
  · have hnone : i.address? = none := by
      rw [← Option.not_isSome_iff_eq_none, isSome_address?_iff]
      exact hi
    rw [Option.guard_eq_none_iff.2 (by simpa using hi), endpoint?, hnone]
    exact .none

end Instance

/-! ## Lists of instances -/

/-- The endpoints are what the addressable instances that are not hidden stand for. -/
theorem endpoints_stand_for_reached (instances : List Instance) :
    List.Forall₂ Instance.StandsFor (instances.filter fun i => i.Addressable ∧ ¬ i.Hidden)
      (endpoints instances) := by
  rw [endpoints, ← List.filterMap_eq_filter]
  refine List.rel_filterMap (R := Eq) ?_ (List.forall₂_refl _)
  rintro i _ rfl
  exact i.rel_endpoint?

/-- **What is published.** The addressable instances that are not hidden have their endpoints, in
order and no others have one; all the addressable ones do exactly when none is hidden. -/
theorem addressable_published_iff (instances : List Instance) :
    List.Forall₂ Instance.StandsFor (instances.filter fun i => i.Addressable ∧ ¬ i.Hidden)
      (endpoints instances) ∧
    (List.Forall₂ Instance.StandsFor (instances.filter (·.Addressable)) (endpoints instances) ↔
      ∀ i ∈ instances, ¬ i.Hidden) := by
  have hreached := endpoints_stand_for_reached instances
  have hfilter : (instances.filter fun i => i.Addressable ∧ ¬ i.Hidden) =
      (instances.filter (·.Addressable)).filter fun i => ¬ i.Hidden := by
    rw [List.filter_filter]
    refine List.filter_congr fun i _ => ?_
    simp [Bool.and_comm]
  refine ⟨hreached, fun h i hi hhidden => ?_, fun h => ?_⟩
  · have hlength := hreached.length_eq.trans h.length_eq.symm
    rw [hfilter, List.length_filter_eq_length_iff] at hlength
    have haddressable : i ∈ instances.filter (·.Addressable) :=
      List.mem_filter.2 ⟨hi, decide_eq_true (.inr hhidden.2)⟩
    exact of_decide_eq_true (hlength i haddressable) hhidden
  · have hall : ∀ i ∈ instances.filter (·.Addressable), decide (¬ i.Hidden) = true := by
      intro i hi
      exact decide_eq_true (h i (List.mem_filter.1 hi).1)
    rw [hfilter, List.filter_eq_self.2 hall] at hreached
    exact hreached

/-- An empty IPv4 attribute hides the canonical name. -/
theorem empty_ipv4_hides_cname :
    let i : Instance := {
      attributes := (Table.empty.insert Instance.ipv4Key "").insert Instance.cnameKey "db.example" }
    i.Addressable ∧ endpoints [i] = [] ∧
      ¬ List.Forall₂ Instance.StandsFor ([i].filter (·.Addressable)) (endpoints [i]) := by
  refine ⟨by decide, by rfl, ?_⟩
  intro h
  have hlength := h.length_eq
  revert hlength
  decide

end RegistrySync.CloudMap
