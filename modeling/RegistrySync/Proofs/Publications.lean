import Mathlib.Data.List.FinRange
import Mathlib.Data.List.Induction
import RegistrySync.Watch.Poll

/-!
# What a roster shows

**Theorem (`roster_shows_last_news`).** However polls and readers take turns, a roster shows the
hosts of the last news, each with the endpoints before which none has their address, and nothing
before the first news. Publishing this again does not change it. A refresh replaces the roster
exactly when its poll has news, and whoever has read the roster keeps what it showed then.

Publishing walks through the endpoints of a host and drops those whose address it has met. What
stays are the endpoints at certain places of the list (`Endpoint.distinct_eq_firsts`): the first
place of every address, in the order of the places. So addresses neither get lost nor come twice,
and a list in which none comes twice stays as it is (`Endpoint.distinct_of_nodup`).
-/

namespace RegistrySync

/-! ## The endpoints that stay -/

namespace Endpoint

/-- The endpoints whose address is not met, and which have none with their address before them. -/
def firstsFrom (met : List String) (es : List Endpoint) : List Endpoint :=
  ((List.finRange es.length).filter fun i =>
    es[i].address ∉ met ∧ ∀ j < i, es[j].address ≠ es[i].address).map fun i => es[i]

/-- The endpoints at the places before which nothing has their address. -/
def firsts (es : List Endpoint) : List Endpoint :=
  ((List.finRange es.length).filter fun i => ∀ j < i, es[j].address ≠ es[i].address).map
    fun i => es[i]

theorem firstsFrom_nil (es : List Endpoint) : firstsFrom [] es = firsts es := by
  simp [firstsFrom, firsts]

theorem firstsFrom_cons (met : List String) (e : Endpoint) (es : List Endpoint) :
    firstsFrom met (e :: es) =
      (if e.address ∈ met then [] else [e]) ++ firstsFrom (e.address :: met) es := by
  -- A place of the list is the first one or a place of the rest.
  have hrest : ∀ i : Fin es.length,
      ((e :: es)[i.succ].address ∉ met ∧
        ∀ j < i.succ, (e :: es)[j].address ≠ (e :: es)[i.succ].address) ↔
      es[i].address ∉ e.address :: met ∧ ∀ j < i, es[j].address ≠ es[i].address := by
    intro i
    rw [Fin.forall_fin_succ]
    simp only [List.mem_cons, not_or, Fin.succ_lt_succ_iff, Fin.succ_pos, true_imp_iff]
    show (es[i].address ∉ met ∧ e.address ≠ es[i].address ∧ _) ↔ _
    rw [← and_assoc, and_comm (a := es[i].address ∉ met), ne_comm]
    rfl
  unfold firstsFrom
  simp only [List.length_cons, List.finRange_succ, List.filter_cons, List.filter_map, hrest,
    Function.comp_def]
  by_cases he : e.address ∈ met <;> simp [he, Function.comp_def]

theorem firstsFrom_of_mem {met : List String} {address : String} (h : address ∈ met)
    (es : List Endpoint) : firstsFrom (address :: met) es = firstsFrom met es := by
  have hmet : ∀ other, other ∈ address :: met ↔ other ∈ met := by
    intro other
    rw [List.mem_cons, or_iff_right_of_imp]
    rintro rfl
    exact h
  simp only [firstsFrom, hmet]

theorem distinctFrom_eq (met : List String) (es : List Endpoint) :
    distinctFrom met es = firstsFrom met es := by
  induction es generalizing met with
  | nil => rfl
  | cons e es ih =>
    rw [distinctFrom, firstsFrom_cons, ih, ih]
    by_cases he : e.address ∈ met
    · rw [if_pos (List.contains_iff_mem.2 he), if_pos he, firstsFrom_of_mem he, List.nil_append]
    · rw [if_neg fun h => he (List.contains_iff_mem.1 h), if_neg he, List.singleton_append]

/-- The first endpoint of every address stays, at its place. -/
theorem distinct_eq_firsts (es : List Endpoint) : distinct es = firsts es := by
  rw [distinct, distinctFrom_eq, firstsFrom_nil]

theorem distinctFrom_of_nodup {met : List String} {es : List Endpoint}
    (h : (es.map (·.address)).Nodup) (hmet : ∀ e ∈ es, e.address ∉ met) :
    distinctFrom met es = es := by
  induction es generalizing met with
  | nil => rfl
  | cons e es ih =>
    obtain ⟨hfirst, hrest⟩ := List.nodup_cons.1 h
    obtain ⟨he, hes⟩ := List.forall_mem_cons.1 hmet
    rw [distinctFrom, if_neg fun h => he (List.contains_iff_mem.1 h), ih hrest]
    intro e' he' hmem
    rcases List.mem_cons.1 hmem with heq | hmem
    · exact hfirst (List.mem_map.2 ⟨e', he', heq⟩)
    · exact hes e' he' hmem

/-- Endpoints of which no two have one address all stay. -/
theorem distinct_of_nodup {es : List Endpoint} (h : (es.map (·.address)).Nodup) :
    distinct es = es :=
  distinctFrom_of_nodup h fun _ _ => List.not_mem_nil

theorem distinct_distinct (es : List Endpoint) : distinct (distinct es) = distinct es :=
  distinct_of_nodup (distinct_nodup es)

end Endpoint

/-! ## Readers -/

/-- A roster, and what those hold who have read it, in the order of reading. -/
structure Readership where
  roster : Roster := {}
  readings : List Membership := []

namespace Readership

/-- What may happen to a roster. -/
inductive Move where
  /-- A refresh, whose poll comes to this. -/
  | refresh (poll : Poll)
  | read

namespace Move

def news? : Move → Option Membership
  | refresh (.news members) => some members
  | refresh .same | refresh (.failed _) | read => none

def perform : Move → Readership → Readership
  | refresh poll, r => { r with roster := (r.roster.absorb poll).2 }
  | read, r => { r with readings := r.readings ++ [r.roster.hosts] }

end Move

def play (r : Readership) (moves : List Move) : Readership :=
  moves.foldl (fun r move => move.perform r) r

/-- The last news among the moves. -/
def lastNews? (moves : List Move) : Option Membership := (moves.filterMap Move.news?).getLast?

/-! ## After any moves -/

theorem play_concat (r : Readership) (moves : List Move) (move : Move) :
    r.play (moves ++ [move]) = move.perform (r.play moves) := List.foldl_append

theorem lastNews?_concat (moves : List Move) (move : Move) :
    lastNews? (moves ++ [move]) = move.news?.or (lastNews? moves) := by
  rw [lastNews?, List.filterMap_append, List.getLast?_append]
  cases h : move.news? <;> simp [h, lastNews?]

theorem news?_eq_some_iff {move : Move} {members : Membership} :
    move.news? = some members ↔ move = .refresh (.news members) := by
  rcases move with (_ | _ | _) | _ <;> simp [Move.news?]

theorem isSome_lastNews? {moves : List Move} :
    (lastNews? moves).isSome ↔ ∃ members, .refresh (.news members) ∈ moves := by
  rw [lastNews?, List.getLast?_isSome, Ne, List.eq_nil_iff_forall_not_mem]
  simp [List.mem_filterMap, news?_eq_some_iff]

/-- Only news change a roster. -/
theorem roster_perform (r : Readership) (move : Move) : (move.perform r).roster =
    match move.news? with
    | some members => r.roster.publish members
    | none => r.roster := by
  rcases move with (_ | _ | _) | _ <;> rfl

/-- A roster that is fresh at first shows what is left of the last news. -/
theorem hosts_play (moves : List Move) : (play {} moves).roster.hosts =
    ((lastNews? moves).getD .empty).map Endpoint.distinct := by
  induction moves using List.reverseRecOn with
  | nil => rfl
  | append_singleton moves move ih =>
    rw [play_concat, roster_perform, lastNews?_concat]
    cases move.news? with
    | none => exact ih
    | some members => rfl

theorem isPublished_play (moves : List Move) :
    (play {} moves).roster.isPublished = (lastNews? moves).isSome := by
  induction moves using List.reverseRecOn with
  | nil => rfl
  | append_singleton moves move ih =>
    rw [play_concat, roster_perform, lastNews?_concat]
    cases move.news? with
    | none => exact ih
    | some members => rfl

theorem readings_perform (r : Readership) (move : Move) :
    r.readings <+: (move.perform r).readings := by
  cases move with
  | refresh poll => exact List.prefix_refl _
  | read => exact List.prefix_append _ _

/-- What has been read stays as it is. -/
theorem readings_play (r : Readership) (moves : List Move) :
    r.readings <+: (r.play moves).readings := by
  induction moves generalizing r with
  | nil => exact List.prefix_refl _
  | cons move moves ih => exact (readings_perform r move).trans (ih _)

theorem reading_play (r : Readership) (later : List Move) :
    (r.play (.read :: later)).readings[r.readings.length]? = some r.roster.hosts := by
  obtain ⟨rest, hrest⟩ := readings_play (Move.read.perform r) later
  show ((Move.read.perform r).play later).readings[_]? = _
  rw [← hrest]
  simp [Move.perform]

end Readership

theorem Roster.absorb_fst_iff {r : Roster} {poll : Poll} :
    (r.absorb poll).1 ↔ ∃ members, poll = .news members := by
  cases poll <;> simp [absorb]

theorem Table.keys_map {β γ : Type} (t : Table β) (f : β → γ) : (t.map f).keys = t.keys := by
  simp [keys, map]

open Readership

/-- **A roster shows the last news, and every reader keeps what it has read.** Let refreshes, whose
polls come to anything, and readers take turns on a fresh roster. It shows the hosts that were told
last, each with the first endpoint of every address. No host is added or lost, no address is lost or
comes twice, and publishing what is shown changes nothing. The roster counts as published exactly
when there have been news, and a refresh replaces it exactly when its poll has news. What is read
now is the same after whatever comes later. -/
theorem roster_shows_last_news (moves : List Move) :
    let r := play {} moves
    let told := (lastNews? moves).getD .empty
    r.roster.hosts = told.map Endpoint.firsts ∧
    r.roster.hosts.keys = told.keys ∧
    (∀ host es, told.find? host = some es → ∃ kept, r.roster.endpoints? host = some kept ∧
      kept.Sublist es ∧ (kept.map (·.address)).Nodup ∧
      ∀ address, address ∈ kept.map (·.address) ↔ address ∈ es.map (·.address)) ∧
    (r.roster.publish r.roster.hosts).hosts = r.roster.hosts ∧
    (r.roster.isPublished ↔ ∃ members, .refresh (.news members) ∈ moves) ∧
    (∀ poll, (r.roster.absorb poll).1 ↔ ∃ members, poll = .news members) ∧
    ∀ later, (r.play (.read :: later)).readings[r.readings.length]? = some r.roster.hosts := by
  intro r told
  have hhosts : r.roster.hosts = told.map Endpoint.distinct := hosts_play moves
  refine ⟨?_, ?_, fun host es hes => ⟨Endpoint.distinct es, ?_, Endpoint.distinct_sublist es,
    Endpoint.distinct_nodup es, fun _ => Endpoint.mem_addresses_distinct⟩, ?_, ?_,
    fun _ => Roster.absorb_fst_iff, reading_play r⟩
  · rw [hhosts, funext Endpoint.distinct_eq_firsts]
  · rw [hhosts, Table.keys_map]
  · rw [Roster.endpoints?, hhosts, Table.find?_map, hes, Option.map_some]
  · refine Table.ext_find? fun host => ?_
    rw [Roster.publish, hhosts, Table.find?_map, Table.find?_map, Option.map_map]
    congr 1
    exact funext Endpoint.distinct_distinct
  · rw [isPublished_play, isSome_lastNews?]

/-- The second endpoint with an address is dropped, and a failed poll changes nothing. -/
example :
    let plain : Endpoint := { address := "10.0.0.1" }
    let other : Endpoint := { address := "10.0.0.2" }
    let members : Membership := Table.empty.insert "web" [plain, other, plain.withPort "http" 80]
    (play {} [.read, .refresh (.news members), .refresh (.failed "timed out"), .read]).readings =
      [.empty, Table.empty.insert "web" [plain, other]] := by
  decide +kernel

end RegistrySync
