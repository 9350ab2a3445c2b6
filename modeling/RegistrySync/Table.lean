/-!
# Tables: finite maps with text keys, in key order

A `Table β` lists its entries by strictly ascending key (code points compare first to last), so
two tables with the same entries are equal and every listing of a table comes out sorted.
`Table.find?_insert` and `Table.find?_erase` say what the operations do to a look-up,
`Table.find?_ofList` that the last value of a key is the one it has, and `Table.ext_find?` that
look-ups determine the table.
-/

namespace RegistrySync

/-- A finite map from text to `β`, as its entries by strictly ascending key. -/
structure Table (β : Type) where
  entries : List (String × β)
  ascending : entries.Pairwise (fun a b => a.1 < b.1) := by exact .nil
deriving DecidableEq

namespace Table

variable {β γ : Type}

/-! ## Order on keys -/

theorem key_lt_of_not_lt {a b : String} (h : ¬ a < b) (hne : a ≠ b) : b < a := by
  by_cases hba : b < a
  · exact hba
  · exact absurd (String.le_antisymm (String.not_lt.1 hba) (String.not_lt.1 h)) hne

theorem key_ne_of_lt {a b : String} (h : a < b) : a ≠ b :=
  fun he => String.lt_irrefl b (he ▸ h)

/-! ## Entry lists -/

/-- Put a key's value in its place, replacing the one it had. -/
def insertEntry (k : String) (v : β) : List (String × β) → List (String × β)
  | [] => [(k, v)]
  | e :: es =>
    if k < e.1 then (k, v) :: e :: es
    else if k = e.1 then (k, v) :: es
    else e :: insertEntry k v es

theorem mem_insertEntry {k : String} {v : β} {e : String × β} {es : List (String × β)}
    (h : e ∈ insertEntry k v es) : e = (k, v) ∨ e ∈ es := by
  induction es with
  | nil => simp_all [insertEntry]
  | cons d ds ih =>
    rw [insertEntry] at h
    split at h
    · simp_all
    · split at h <;> grind

theorem insertEntry_ascending {k : String} {v : β} {es : List (String × β)}
    (h : es.Pairwise (fun a b => a.1 < b.1)) :
    (insertEntry k v es).Pairwise (fun a b => a.1 < b.1) := by
  induction es with
  | nil => simp [insertEntry]
  | cons d ds ih =>
    have hd := List.pairwise_cons.1 h
    rw [insertEntry]
    split
    · next hk =>
      refine List.pairwise_cons.2 ⟨fun e he => ?_, h⟩
      rcases List.mem_cons.1 he with rfl | he
      · exact hk
      · exact String.lt_trans hk (hd.1 e he)
    · split
      · next hk =>
        exact List.pairwise_cons.2 ⟨fun e he => by simpa [hk] using hd.1 e he, hd.2⟩
      · next hk hne =>
        refine List.pairwise_cons.2 ⟨fun e he => ?_, ih hd.2⟩
        rcases mem_insertEntry he with rfl | he
        · exact key_lt_of_not_lt hk hne
        · exact hd.1 e he

/-! ## Operations -/

def empty : Table β := ⟨[], .nil⟩

instance : Inhabited (Table β) := ⟨empty⟩

/-- Give a key a value, replacing the one it had. -/
def insert (t : Table β) (k : String) (v : β) : Table β :=
  ⟨insertEntry k v t.entries, insertEntry_ascending t.ascending⟩

/-- Forget a key. -/
def erase (t : Table β) (k : String) : Table β :=
  ⟨t.entries.filter (·.1 ≠ k), t.ascending.filter _⟩

/-- The value of a key, if it has one. -/
def find? (t : Table β) (k : String) : Option β := t.entries.lookup k

def contains (t : Table β) (k : String) : Bool := (t.find? k).isSome

def keys (t : Table β) : List String := t.entries.map (·.1)

def values (t : Table β) : List β := t.entries.map (·.2)

def size (t : Table β) : Nat := t.entries.length

def isEmpty (t : Table β) : Bool := t.entries.isEmpty

/-- The same keys, each value changed by `f`. -/
def map (t : Table β) (f : β → γ) : Table γ :=
  ⟨t.entries.map fun e => (e.1, f e.2), t.ascending.map _ fun _ _ h => h⟩

/-- Every entry of a list in turn; the last value of a repeated key stays. -/
def ofList (es : List (String × β)) : Table β :=
  es.foldl (fun t e => t.insert e.1 e.2) empty

/-- All entries of both, those of the second winning. -/
def union (t u : Table β) : Table β :=
  u.entries.foldl (fun t e => t.insert e.1 e.2) t

/-! ## Look-ups -/

theorem lookup_cons_ite (x : String) (e : String × β) (es : List (String × β)) :
    (e :: es).lookup x = if x = e.1 then some e.2 else es.lookup x := by
  rw [List.lookup_cons]
  by_cases hx : x = e.1
  · simp [hx]
  · simp [hx, beq_eq_false_iff_ne.2 hx]

theorem lookup_insertEntry (k : String) (v : β) (es : List (String × β)) (x : String) :
    (insertEntry k v es).lookup x = if x = k then some v else es.lookup x := by
  induction es with
  | nil => rw [insertEntry, lookup_cons_ite]
  | cons d ds ih =>
    rw [insertEntry]
    split
    · rw [lookup_cons_ite]
    · split
      · next hk =>
        rw [lookup_cons_ite, lookup_cons_ite, ← hk]
        split <;> rfl
      · next hk =>
        rw [lookup_cons_ite, lookup_cons_ite, ih]
        split
        · next hx => rw [if_neg fun h => hk (by rw [← h, hx])]
        · rfl

@[simp] theorem find?_empty (x : String) : (empty : Table β).find? x = none := rfl

theorem find?_insert (t : Table β) (k : String) (v : β) (x : String) :
    (t.insert k v).find? x = if x = k then some v else t.find? x :=
  lookup_insertEntry k v t.entries x

theorem lookup_filter_ne (k x : String) (es : List (String × β)) :
    (es.filter (·.1 ≠ k)).lookup x = if x = k then none else es.lookup x := by
  induction es with
  | nil => simp
  | cons d ds ih =>
    by_cases hd : d.1 = k
    · rw [List.filter_cons_of_neg (by simp [hd]), ih, lookup_cons_ite, hd]
      split <;> rfl
    · rw [List.filter_cons_of_pos (by simp [hd]), lookup_cons_ite, lookup_cons_ite, ih]
      split
      · next hx => rw [if_neg fun h => hd (hx ▸ h)]
      · rfl

theorem find?_erase (t : Table β) (k x : String) :
    (t.erase k).find? x = if x = k then none else t.find? x :=
  lookup_filter_ne k x t.entries

theorem lookup_map_value (f : β → γ) (x : String) (es : List (String × β)) :
    (es.map fun e => (e.1, f e.2)).lookup x = (es.lookup x).map f := by
  induction es with
  | nil => rfl
  | cons d ds ih =>
    rw [List.map_cons, lookup_cons_ite, lookup_cons_ite, ih]
    split <;> rfl

theorem find?_map (t : Table β) (f : β → γ) (x : String) :
    (t.map f).find? x = (t.find? x).map f :=
  lookup_map_value f x t.entries

theorem keys_ascending (t : Table β) : t.keys.Pairwise (· < ·) :=
  t.ascending.map _ fun _ _ h => h

theorem keys_nodup (t : Table β) : t.keys.Nodup :=
  t.keys_ascending.imp fun h => key_ne_of_lt h

theorem lookup_eq_some_iff {es : List (String × β)} (h : es.Pairwise (fun a b => a.1 < b.1))
    {k : String} {v : β} : es.lookup k = some v ↔ (k, v) ∈ es := by
  induction es with
  | nil => simp
  | cons d ds ih =>
    have hd := List.pairwise_cons.1 h
    rw [lookup_cons_ite, List.mem_cons]
    split
    · next hk =>
      constructor
      · intro hv
        exact Or.inl (Prod.ext hk (Option.some.inj hv).symm)
      · rintro (he | he)
        · rw [← he]
        · exact absurd (hd.1 _ he) (hk ▸ String.lt_irrefl _)
    · next hk =>
      rw [ih hd.2]
      exact ⟨Or.inr, fun he => he.resolve_left fun he => hk (congrArg Prod.fst he)⟩

theorem find?_eq_some_iff {t : Table β} {k : String} {v : β} :
    t.find? k = some v ↔ (k, v) ∈ t.entries :=
  lookup_eq_some_iff t.ascending

theorem contains_iff {t : Table β} {k : String} : t.contains k ↔ k ∈ t.keys := by
  simp only [contains, Option.isSome_iff_exists, find?_eq_some_iff, keys, List.mem_map]
  exact ⟨fun ⟨v, hv⟩ => ⟨(k, v), hv, rfl⟩, fun ⟨⟨_, v⟩, hv, hk⟩ => ⟨v, hk ▸ hv⟩⟩

theorem contains_eq_false_iff {t : Table β} {k : String} :
    t.contains k = false ↔ t.find? k = none := by
  rw [contains, Option.isSome_eq_false_iff, Option.isNone_iff_eq_none]

theorem entries_nodup (t : Table β) : t.entries.Nodup :=
  t.ascending.imp fun h he => key_ne_of_lt h (congrArg Prod.fst he)

/-- Tables with the same look-ups are equal. -/
theorem ext_find? {t u : Table β} (h : ∀ k, t.find? k = u.find? k) : t = u := by
  have key : ∀ e : String × β, e ∈ t.entries ↔ e ∈ u.entries := fun e => by
    rw [← find?_eq_some_iff (k := e.1) (v := e.2), ← find?_eq_some_iff (k := e.1) (v := e.2), h]
  have perm : t.entries.Perm u.entries :=
    (List.perm_ext_iff_of_nodup t.entries_nodup u.entries_nodup).2 key
  have : t.entries = u.entries := perm.eq_of_pairwise
    (fun _ _ _ _ hab hba => absurd hba (String.lt_asymm hab)) t.ascending u.ascending
  cases t; cases u; simp_all

/-! ## Lists of entries -/

/-- The last value that a list has for a key. -/
def lastOf? (k : String) (es : List (String × β)) : Option β :=
  ((es.filter fun e => e.1 = k).getLast?).map (·.2)

theorem lastOf?_append (k : String) (es es' : List (String × β)) :
    lastOf? k (es ++ es') = (lastOf? k es').or (lastOf? k es) := by
  rw [lastOf?, List.filter_append, List.getLast?_append, Option.map_or, lastOf?, lastOf?]

theorem lastOf?_cons (k : String) (e : String × β) (es : List (String × β)) :
    lastOf? k (e :: es) = (lastOf? k es).or (if e.1 = k then some e.2 else none) := by
  have happend := lastOf?_append k [e] es
  rw [List.singleton_append] at happend
  rw [happend]
  by_cases he : e.1 = k <;> simp [lastOf?, he]

theorem mem_of_lastOf? {k : String} {v : β} {es : List (String × β)} (h : lastOf? k es = some v) :
    (k, v) ∈ es := by
  obtain ⟨e, he, rfl⟩ := Option.map_eq_some_iff.1 h
  obtain ⟨hmem, hk⟩ := List.mem_filter.1 (List.mem_of_getLast? he)
  obtain rfl := of_decide_eq_true hk
  exact hmem

theorem isSome_lastOf? {k : String} {es : List (String × β)} :
    (lastOf? k es).isSome ↔ k ∈ es.map (·.1) := by
  rw [lastOf?, Option.isSome_map, List.getLast?_isSome, Ne, List.filter_eq_nil_iff]
  simp

theorem lastOf?_eq_lookup {es : List (String × β)} (hes : es.Pairwise fun a b => a.1 < b.1)
    (k : String) : lastOf? k es = es.lookup k := by
  induction es with
  | nil => rfl
  | cons e es ih =>
    obtain ⟨hfirst, hes⟩ := List.pairwise_cons.1 hes
    rw [lastOf?_cons, ih hes, lookup_cons_ite]
    by_cases hk : k = e.1
    · have hnone : es.lookup k = none := by
        rw [Option.eq_none_iff_forall_ne_some]
        intro v hv
        exact key_ne_of_lt (hfirst _ ((lookup_eq_some_iff hes).1 hv)) hk.symm
      rw [if_pos hk, if_pos hk.symm, hnone]
      rfl
    · rw [if_neg hk, if_neg (Ne.symm hk), Option.or_none]

theorem find?_foldl_insert (es : List (String × β)) (t : Table β) (k : String) :
    (es.foldl (fun t e => t.insert e.1 e.2) t).find? k = (lastOf? k es).or (t.find? k) := by
  induction es generalizing t with
  | nil => rfl
  | cons e es ih =>
    rw [List.foldl_cons, ih, find?_insert, lastOf?_cons, Option.or_assoc]
    by_cases hk : k = e.1
    · rw [if_pos hk, if_pos hk.symm]
      rfl
    · rw [if_neg hk, if_neg (Ne.symm hk)]
      rfl

/-- The last value of a key is the one that it has. -/
theorem find?_ofList (es : List (String × β)) (k : String) :
    (ofList es).find? k = lastOf? k es := by
  rw [ofList, find?_foldl_insert, find?_empty, Option.or_none]

/-- The entries of the second win. -/
theorem find?_union (t u : Table β) (k : String) :
    (t.union u).find? k = (u.find? k).or (t.find? k) := by
  rw [union, find?_foldl_insert, lastOf?_eq_lookup u.ascending]
  rfl

theorem union_ofList (t : Table β) (es : List (String × β)) :
    t.union (ofList es) = es.foldl (fun t e => t.insert e.1 e.2) t :=
  ext_find? fun k => by rw [find?_union, find?_ofList, find?_foldl_insert]

/-- A list with the entries of a table, in any order, gives the table. -/
theorem ofList_of_perm {es : List (String × β)} {t : Table β} (h : es.Perm t.entries) :
    ofList es = t := by
  refine ext_find? fun k => ?_
  rw [find?_ofList]
  cases hlast : lastOf? k es with
  | none =>
    have hnot : k ∉ es.map (·.1) := by
      rw [← isSome_lastOf?, hlast]
      simp
    symm
    rw [← contains_eq_false_iff, Bool.eq_false_iff, Ne, contains_iff]
    exact fun hk => hnot ((h.map (·.1)).mem_iff.2 hk)
  | some v => exact (find?_eq_some_iff.2 (h.mem_iff.1 (mem_of_lastOf? hlast))).symm

end Table

end RegistrySync
