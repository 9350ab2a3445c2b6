/-!
# Pieces of a text

`pieces sep cs` are the stretches of `cs` between its separators, empty ones included, so there is
always one piece more than there are separators. Nothing is lost (`intercalate_pieces`), and parts
without separators are read back (`pieces_intercalate`).
`cutAt marker cs` is what stands before and after the first `marker`.
-/

namespace RegistrySync.Text

/-- The stretches between separators; a text without separator is one piece. -/
def pieces (sep : Char) : List Char → List (List Char)
  | [] => [[]]
  | c :: cs =>
    if c = sep then [] :: pieces sep cs
    else match pieces sep cs with
      | [] => [[c]]
      | p :: ps => (c :: p) :: ps

theorem pieces_ne_nil (sep : Char) (cs : List Char) : pieces sep cs ≠ [] := by
  cases cs with
  | nil => simp [pieces]
  | cons c cs =>
    rw [pieces]
    split
    · simp
    · split <;> simp

theorem pieces_eq_splitOn (sep : Char) (cs : List Char) : pieces sep cs = cs.splitOn sep := by
  induction cs with
  | nil => rfl
  | cons c cs ih =>
    rw [pieces, List.splitOn_cons_eq_if_modifyHead, ih]
    by_cases hc : c = sep
    · rw [if_pos hc, if_pos (beq_iff_eq.2 hc)]
    · rw [if_neg hc, if_neg (by simpa using hc)]
      cases hp : cs.splitOn sep with
      | nil => exact absurd hp (List.splitOn_ne_nil _ _)
      | cons p ps => rfl

theorem intercalate_pieces (sep : Char) (cs : List Char) :
    List.intercalate [sep] (pieces sep cs) = cs := by
  rw [pieces_eq_splitOn, List.intercalate_splitOn]

/-- Parts without the separator are the pieces of what they make together. -/
theorem pieces_intercalate {sep : Char} {parts : List (List Char)} (hne : parts ≠ [])
    (hparts : ∀ p ∈ parts, sep ∉ p) : pieces sep (List.intercalate [sep] parts) = parts := by
  rw [pieces_eq_splitOn, List.splitOn_intercalate sep hparts hne]

theorem intercalate_cons (sep : Char) (p : List Char) (parts : List (List Char)) :
    List.intercalate [sep] (p :: parts) = p ++ parts.flatMap (sep :: ·) := by
  induction parts generalizing p with
  | nil => simp [List.intercalate]
  | cons q parts ih =>
    rw [List.intercalate_cons_cons, ih, List.flatMap_cons]
    simp

/-- Parts that each follow a separator are read back, after the nothing before the first one. -/
theorem pieces_flatMap {sep : Char} {parts : List (List Char)} (hparts : ∀ p ∈ parts, sep ∉ p) :
    pieces sep (parts.flatMap (sep :: ·)) = [] :: parts := by
  rw [← List.nil_append (parts.flatMap (sep :: ·)), ← intercalate_cons]
  exact pieces_intercalate (by simp) (by simpa using hparts)

theorem pieces_append_sep (sep : Char) (cs : List Char) :
    pieces sep (cs ++ [sep]) = pieces sep cs ++ [[]] := by
  rw [pieces_eq_splitOn, List.splitOn_append_cons_self, ← pieces_eq_splitOn, List.splitOn_nil]

/-- A piece is made of characters of the text, and none of them is the separator. -/
theorem of_mem_pieces {sep c : Char} {cs p : List Char} (hp : p ∈ pieces sep cs) (hc : c ∈ p) :
    c ∈ cs ∧ c ≠ sep := by
  induction cs generalizing p with
  | nil => simp_all [pieces]
  | cons d cs ih =>
    have hlater {p : List Char} (hp : p ∈ pieces sep cs) (hc : c ∈ p) : c ∈ d :: cs ∧ c ≠ sep := by
      obtain ⟨hmem, hne⟩ := ih hp hc
      exact ⟨List.mem_cons_of_mem d hmem, hne⟩
    rw [pieces] at hp
    split at hp
    · rcases List.mem_cons.1 hp with rfl | hp
      · simp at hc
      · exact hlater hp hc
    · next hd =>
      cases hpieces : pieces sep cs with
      | nil => exact absurd hpieces (pieces_ne_nil sep cs)
      | cons q qs =>
        rw [hpieces] at hp hlater
        rcases List.mem_cons.1 hp with rfl | hp
        · rcases List.mem_cons.1 hc with rfl | hc
          · exact ⟨List.mem_cons_self, hd⟩
          · exact hlater List.mem_cons_self hc
        · exact hlater (List.mem_cons_of_mem q hp) hc

/-- What stands before and after the first occurrence of `marker`. -/
def cutAt (marker : List Char) : List Char → Option (List Char × List Char)
  | [] => if marker = [] then some ([], []) else none
  | c :: cs =>
    if marker.isPrefixOf (c :: cs) then some ([], (c :: cs).drop marker.length)
    else (cutAt marker cs).map fun r => (c :: r.1, r.2)

theorem eq_append_of_cutAt {marker cs before after : List Char}
    (h : cutAt marker cs = some (before, after)) : cs = before ++ marker ++ after := by
  induction cs generalizing before with
  | nil =>
    rw [cutAt] at h
    split at h <;> simp_all
  | cons c cs ih =>
    rw [cutAt] at h
    split at h
    · next hmarker =>
      obtain ⟨rest, hrest⟩ := List.isPrefixOf_iff_prefix.1 hmarker
      rw [← hrest, List.drop_left] at h
      cases h
      exact hrest.symm
    · obtain ⟨⟨before', after'⟩, hcut, heq⟩ := Option.map_eq_some_iff.1 h
      cases heq
      rw [ih hcut]
      rfl

/-- The text after `start`, when `cs` begins with it. -/
def after? (start cs : List Char) : Option (List Char) :=
  if start.isPrefixOf cs then some (cs.drop start.length) else none

theorem after?_eq_some_iff {start cs rest : List Char} :
    after? start cs = some rest ↔ cs = start ++ rest := by
  rw [after?]
  constructor
  · intro h
    split at h
    · next hp =>
      obtain ⟨t, rfl⟩ := List.isPrefixOf_iff_prefix.1 hp
      simp_all
    · simp at h
  · rintro rfl
    simp

end RegistrySync.Text
