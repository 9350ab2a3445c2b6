import RegistrySync.Proofs.Trace
import RegistrySync.Watch.Workshop

/-!
# Clients of Cloud Map

**Theorem (`client_built_as_configured_iff`).** With settings that pass the check, either no region
is named, and then no client is asked for, or one client is. It is asked for as the settings say,
with nothing that they give left out and nothing empty, exactly when the region is not taken from an
environment in which it is empty, and neither half of the key pair is empty without the other.

What is set is decided three times: the check asks whether a half of the pair is there, the pair is
used when both halves are not empty (`KeyPair.keyless_iff`), and a region counts when it is not
empty if it is configured, but when it is there if it comes from the environment
(`region_of_given`, `region_of_not_given`). The two conditions are where these differ. Settings that
do not satisfy them pass the check all the same (`empty_texts_are_overlooked`).
-/

namespace RegistrySync.CloudMap

/-- The text is there and not empty. -/
def Given (text : Option String) : Prop := text.getD "" ≠ ""

instance (text : Option String) : Decidable (Given text) := inferInstanceAs (Decidable (_ ≠ _))

theorem given_iff {text : Option String} : Given text ↔ ∃ t, text = some t ∧ t ≠ "" := by
  cases text <;> simp [Given]

theorem not_given_iff {text : Option String} : ¬ Given text ↔ text = none ∨ text = some "" := by
  cases text <;> simp [Given]

/-! ## The region -/

section

variable {configured environment : Option String}

theorem region_of_given (h : Given configured) :
    region configured environment = .ok (configured.getD "") := by
  obtain ⟨r, rfl, hr⟩ := given_iff.1 h
  have hfilter : (some r).filter (· ≠ "") = some r := by simp [hr]
  simp only [region, hfilter, Option.getD_some]

theorem region_of_not_given (h : ¬ Given configured) : region configured environment =
    match environment with
    | some r => .ok r
    | none => .error (.configuration "AWS region must be specified") := by
  rcases not_given_iff.1 h with rfl | rfl <;> rfl

end

/-! ## The key pair -/

section

variable {id secret : Option String}

/-- That no pair is used means that nothing is given, unless one half is given without the other. -/
theorem KeyPair.keyless_iff : (KeyPair.ofSettings? id secret = none ↔ ¬ Given id ∧ ¬ Given secret) ↔
    (Given id ↔ Given secret) := by
  have hnone : KeyPair.ofSettings? id secret = none ↔ ¬ (Given id ∧ Given secret) := by
    cases id <;> cases secret <;> simp [KeyPair.ofSettings?, Given]
  rw [hnone]
  by_cases hid : Given id <;> by_cases hsecret : Given secret <;> simp [hid, hsecret]

theorem KeyPair.of_ofSettings? {pair : KeyPair} (h : KeyPair.ofSettings? id secret = some pair) :
    id = some pair.accessKeyId ∧ secret = some pair.secretAccessKey := by
  cases id <;> cases secret <;> simp only [KeyPair.ofSettings?, reduceCtorEq] at h
  split at h
  · cases h
    exact ⟨rfl, rfl⟩
  · cases h

end

/-! ## Asking for a client -/

/-- The settings of a directory, and the region that the environment names. -/
structure Setup where
  region : Option String := none
  accessKeyId : Option String := none
  secretAccessKey : Option String := none
  interval : UInt64 := 5
  environment : Option String := none

namespace Setup

def settings (a : Setup) : BackendSettings :=
  .cloudMap a.region a.accessKeyId a.secretAccessKey a.interval

/-- The making of the watcher. -/
def make (a : Setup) : Dialogue ClientCall.Reply (Except Refusal Watcher) :=
  Maker.cloudMap a.environment a.settings

/-- A client for the region and with the key pair is what the settings ask for. -/
structure AsConfigured (a : Setup) (region : String) (keys : Option KeyPair) : Prop where
  named : region ≠ ""
  configured : Given a.region → a.region = some region
  fallback : ¬ Given a.region → a.environment = some region
  keyed : ∀ pair, keys = some pair →
    a.accessKeyId = some pair.accessKeyId ∧ a.secretAccessKey = some pair.secretAccessKey
  keyless : keys = none ↔ ¬ Given a.accessKeyId ∧ ¬ Given a.secretAccessKey

variable {a : Setup} {r : String}

theorem check_eq_ok_iff : a.settings.check = .ok () ↔
    a.accessKeyId.isSome = a.secretAccessKey.isSome ∧ a.interval ≠ 0 := by
  simp [settings, BackendSettings.check, bind_eq_ok_iff, demand_eq_ok_iff]

/-- Where both halves of the pair are there or none is, they are given together when they are empty
together. -/
theorem given_iff_given_iff (h : a.accessKeyId.isSome = a.secretAccessKey.isSome) :
    (Given a.accessKeyId ↔ Given a.secretAccessKey) ↔
      (a.accessKeyId = some "" ↔ a.secretAccessKey = some "") := by
  cases hid : a.accessKeyId <;> cases hsecret : a.secretAccessKey <;>
    simp_all [Given, Decidable.not_iff_not]

/-- Where the region is found: in the settings if it is given there, or else in the environment. -/
theorem region_eq_ok_iff : CloudMap.region a.region a.environment = .ok r ↔
    (Given a.region → a.region = some r) ∧ (¬ Given a.region → a.environment = some r) := by
  by_cases hgiven : Given a.region
  · obtain ⟨t, ht, -⟩ := given_iff.1 hgiven
    rw [region_of_given hgiven, imp_iff_right hgiven, and_iff_left (absurd hgiven), ht]
    simp
  · rw [region_of_not_given hgiven]
    cases a.environment <;> simp [hgiven]

theorem region_eq_error_iff {f : Failure} : CloudMap.region a.region a.environment = .error f ↔
    ¬ Given a.region ∧ a.environment = none ∧
      f = .configuration "AWS region must be specified" := by
  by_cases hgiven : Given a.region
  · simp [region_of_given hgiven, hgiven]
  · rw [region_of_not_given hgiven]
    cases a.environment <;> simp [hgiven, eq_comm]

/-- The region has a name unless it comes from the environment and is empty there. -/
theorem ne_empty_iff (h : CloudMap.region a.region a.environment = .ok r) :
    r ≠ "" ↔ Given a.region ∨ a.environment ≠ some "" := by
  obtain ⟨hconfigured, hfallback⟩ := region_eq_ok_iff.1 h
  by_cases hgiven : Given a.region
  · have hr : Given (some r) := hconfigured hgiven ▸ hgiven
    exact iff_of_true hr (.inl hgiven)
  · simp [hgiven, hfallback hgiven]

/-- A client is built for the region, and with the pair if both its halves are given. -/
theorem trace_make {σ : Type} (answer : Answerer ClientCall.Reply σ) (s : σ)
    (h : CloudMap.region a.region a.environment = .ok r) :
    (a.make.trace answer s).map (·.1) =
      [.build r (KeyPair.ofSettings? a.accessKeyId a.secretAccessKey)] := by
  simp [make, settings, Maker.cloudMap, h]

theorem asConfigured_iff (hcheck : a.settings.check = .ok ())
    (h : CloudMap.region a.region a.environment = .ok r) :
    a.AsConfigured r (KeyPair.ofSettings? a.accessKeyId a.secretAccessKey) ↔
      (Given a.region ∨ a.environment ≠ some "") ∧
      (a.accessKeyId = some "" ↔ a.secretAccessKey = some "") := by
  rw [← ne_empty_iff h, ← given_iff_given_iff (check_eq_ok_iff.1 hcheck).1,
    ← KeyPair.keyless_iff]
  constructor
  · exact fun hclient => ⟨hclient.named, hclient.keyless⟩
  · rintro ⟨hnamed, hkeyless⟩
    obtain ⟨hconfigured, hfallback⟩ := region_eq_ok_iff.1 h
    exact ⟨hnamed, hconfigured, hfallback, fun pair => KeyPair.of_ofSettings?, hkeyless⟩

end Setup

open Setup

/-- **A client is built as configured unless an empty text counts as set.** Let settings pass the
check, and let the environment name a region or none, and the client be built or not. If no region
is given and the environment names none, no client is asked for, and no watcher made. Otherwise one
client is asked for. It is the one that the settings ask for if and only if the region is given or
not empty in the environment, and the halves of the key pair are empty together. -/
theorem client_built_as_configured_iff {σ : Type} (answer : Answerer ClientCall.Reply σ)
    (s : σ) (a : Setup) (hcheck : a.settings.check = .ok ()) :
    let calls := (a.make.trace answer s).map (·.1)
    (¬ Given a.region ∧ a.environment = none ∧ calls = [] ∧ (a.make.run answer s).1 =
      .error (.failure (.configuration "AWS region must be specified"))) ∨
    ((Given a.region ∨ a.environment.isSome) ∧ ∃ region keys, calls = [.build region keys] ∧
      (a.AsConfigured region keys ↔ (Given a.region ∨ a.environment ≠ some "") ∧
        (a.accessKeyId = some "" ↔ a.secretAccessKey = some ""))) := by
  intro calls
  cases hregion : CloudMap.region a.region a.environment with
  | error f =>
    obtain ⟨hgiven, henvironment, rfl⟩ := region_eq_error_iff.1 hregion
    refine .inl ⟨hgiven, henvironment, ?_, ?_⟩
    · simp [calls, make, settings, Maker.cloudMap, hregion]
    · simp [make, settings, Maker.cloudMap, hregion]
  | ok r =>
    refine .inr ⟨?_, r, _, trace_make answer s hregion, asConfigured_iff hcheck hregion⟩
    by_cases hgiven : Given a.region
    · exact .inl hgiven
    · exact .inr (by rw [(region_eq_ok_iff.1 hregion).2 hgiven]; rfl)

/-- Builds whatever client is asked for. -/
def buildAny : Answerer ClientCall.Reply Unit
  | .build .., u => (.ok (), u)

/-- Settings whose region is empty leave it to the environment, and their key pair is used. -/
theorem keyed_client_is_built_as_configured :
    let a : Setup := {
      region := some "", accessKeyId := some "AKIA", secretAccessKey := some "s3cr3t"
      environment := some "eu-west-1" }
    let keys : KeyPair := ⟨"AKIA", "s3cr3t"⟩
    a.settings.check = .ok () ∧
    (a.make.trace buildAny ()).map (·.1) = [.build "eu-west-1" (some keys)] ∧
    a.AsConfigured "eu-west-1" (some keys) := by
  intro a keys
  have hcalls : (a.make.trace buildAny ()).map (·.1) = [.build "eu-west-1" (some keys)] := rfl
  refine ⟨rfl, hcalls, ?_⟩
  rcases client_built_as_configured_iff buildAny () a rfl with
    ⟨-, hnone, -⟩ | ⟨-, region, pair, hbuilt, hiff⟩
  · cases hnone
  · rw [hcalls] at hbuilt
    cases hbuilt
    exact hiff.2 (by decide)

/-- A key pair without its secret gives way to whatever the client finds by itself, and a client is
built for an empty region. -/
theorem empty_texts_are_overlooked :
    let halved : Setup := {
      region := some "us-east-1", accessKeyId := some "AKIA", secretAccessKey := some "" }
    let nameless : Setup := { environment := some "" }
    (halved.settings.check = .ok () ∧
      (halved.make.trace buildAny ()).map (·.1) = [.build "us-east-1" none] ∧
      ¬ halved.AsConfigured "us-east-1" none) ∧
    (nameless.settings.check = .ok () ∧
      (nameless.make.trace buildAny ()).map (·.1) = [.build "" none] ∧
      ¬ nameless.AsConfigured "" none) := by
  intro halved nameless
  refine ⟨⟨rfl, rfl, fun h => ?_⟩, ⟨rfl, rfl, fun h => h.named rfl⟩⟩
  exact (h.keyless.1 rfl).1 (by decide)

end RegistrySync.CloudMap
