import RegistrySync.Proofs.WebUrls

/-!
# Paths of URLs of the web

**Whole segments (`Url.exists_parts_of_parse`).** A path that is read from a text has segments that
hold none of the characters that end one. The text is cut at its slashes, backslashes are slashes by
then, and what else could end a segment is encoded.

**A slash at the end (`Url.parse_of_losing_slash`, `Url.parse_of_gaining_slash`).** A text that
loses the slash at the end of its path, or gains one, is a URL as before. The slash is an empty
segment at the end of the path (`UrlPath.EmptyLast`), or it makes no difference: the path of a lone
slash is there without it, and so is the empty segment after dots. Where no segment but the last is
empty (`UrlPath.Plain`), the path has the same stem with and without it
(`UrlPath.EmptyLast.stem_eq`).

Texts are compared as they are read, without the blanks around them and without line breaks
(`Url.clean`); a blank that only the slash keeps from the end of a text is lost with it.
-/

namespace RegistrySync.Net

open Text

namespace UrlPath

variable {path long short : UrlPath}

/-- The segments of a path. -/
def parts : UrlPath → List (List Char)
  | .segments parts => parts
  | .flat _ => []

/-- No segment but the last is empty. -/
def Plain (path : UrlPath) : Prop := ∀ p ∈ path.parts.dropLast, p ≠ []

instance (path : UrlPath) : Decidable path.Plain := inferInstanceAs (Decidable (∀ p ∈ _, _))

/-- The segments without an empty one at their end. -/
def stem (path : UrlPath) : List (List Char) :=
  if path.parts.getLast? = some [] then path.parts.dropLast else path.parts

/-- Two paths are the same but for an empty segment that the first may have at its end. -/
def EmptyLast (long short : UrlPath) : Prop :=
  ∃ parts, short = .segments parts ∧ (long = .segments parts ∨ long = .segments (parts ++ [[]]))

theorem stem_subset : path.stem ⊆ path.parts := by
  unfold stem
  split
  · exact List.dropLast_subset _
  · exact List.Subset.refl _

/-- An empty segment at the end does not show in the stem. -/
theorem EmptyLast.stem_eq (h : EmptyLast long short) (hplain : long.Plain) :
    short.Plain ∧ short.stem = long.stem := by
  obtain ⟨parts, rfl, rfl | rfl⟩ := h
  · exact ⟨hplain, rfl⟩
  · have hparts : ∀ p ∈ parts, p ≠ [] := by
      intro p hp
      exact hplain p (by simpa [UrlPath.parts] using hp)
    have hlast : parts.getLast? ≠ some [] := fun hlast =>
      hparts [] (List.mem_of_getLast? hlast) rfl
    refine ⟨fun p hp => hparts p (List.dropLast_subset parts hp), ?_⟩
    simp [stem, UrlPath.parts, hlast]

end UrlPath

namespace Url

variable {scheme : List Char}

/-! ## Segments that are read -/

/-- A segment that holds none of the characters that end one. -/
def Whole (part : List Char) : Prop := ∀ c ∈ part, c ≠ '/' ∧ c ≠ '\\' ∧ c ≠ '?' ∧ c ≠ '#'

/-- Encoding makes a segment whole if it encodes those characters that it meets. -/
theorem whole_encode {set : Percent.Set} {cs : List Char}
    (h : ∀ c ∈ cs, set c = false → c ≠ '/' ∧ c ≠ '\\' ∧ c ≠ '?' ∧ c ≠ '#') :
    Whole (Percent.encode set cs) := by
  intro c hc
  rcases Percent.of_mem_encode hc with ⟨hmem, hplain⟩ | rfl | hdigit
  · exact h c hmem hplain
  · decide
  · refine ⟨?_, ?_, ?_, ?_⟩ <;> rintro rfl <;> cases hdigit

section

variable {P : List Char → Prop} (hempty : P [])
include hempty

theorem forall_addSegment {last : Bool} {parts : List (List Char)} {cs : List Char}
    (hparts : ∀ p ∈ parts, P p) (hcs : P cs) : ∀ p ∈ addSegment last parts cs, P p := by
  have hshorten : ∀ p ∈ shorten parts, P p := by
    unfold shorten
    split
    · split
      · exact hparts
      · exact fun p hp => hparts p (List.dropLast_subset parts hp)
    · simp
  have hconcat {parts : List (List Char)} (hparts : ∀ p ∈ parts, P p) {cs : List Char}
      (hcs : P cs) : ∀ p ∈ parts ++ [cs], P p := by
    simpa [or_imp, forall_and] using ⟨hparts, hcs⟩
  unfold addSegment
  split
  · cases last
    · exact hshorten
    · exact hconcat hshorten hempty
  · split
    · cases last
      · exact hparts
      · exact hconcat hparts hempty
    · exact hconcat hparts hcs

/-- What holds of the empty segment and of those that are added holds of the whole path. -/
theorem forall_addSegments {parts css : List (List Char)} (hparts : ∀ p ∈ parts, P p)
    (hcss : ∀ cs ∈ css, P cs) : ∀ p ∈ addSegments parts css, P p := by
  induction css generalizing parts with
  | nil => exact hparts
  | cons cs css ih =>
    have hcs := hcss cs List.mem_cons_self
    cases css with
    | nil => exact forall_addSegment hempty hparts hcs
    | cons d css =>
      exact ih (forall_addSegment hempty hparts hcs) fun p hp => hcss p (List.mem_cons_of_mem _ hp)

end

theorem whole_readSegments (hspecial : isSpecial scheme = true) (cs : List Char) :
    ∀ p ∈ readSegments scheme cs, Whole p := by
  unfold readSegments
  rw [hspecial]
  refine forall_addSegments (by simp [Whole]) (by simp) ?_
  intro p hp
  obtain ⟨piece, hpiece, rfl⟩ := List.mem_map.1 hp
  refine whole_encode fun c hc hplain => ?_
  obtain ⟨hmem, hslash⟩ := of_mem_pieces hpiece hc
  refine ⟨hslash, ?_, ?_, ?_⟩
  · rintro rfl
    obtain ⟨d, -, hd⟩ := List.mem_map.1 hmem
    split at hd
    · cases hd
    · next hne =>
      rw [hd] at hne
      exact hne rfl
  · rintro rfl
    cases hplain
  · rintro rfl
    cases hplain

/-- A URL of the web has a path of whole segments. -/
theorem exists_parts_of_parse {text : String} {url : Url} (hweb : isWeb url.scheme = true)
    (h : parse text = .ok url) :
    ∃ parts, url.path = .segments parts ∧ ∀ p ∈ parts, Whole p := by
  obtain ⟨rest, hscheme⟩ := exists_readScheme_of_parse h
  rw [parse_eq_ofWeb hweb hscheme] at h
  refine ⟨_, ?_, whole_readSegments (isSpecial_of_isWeb hweb) (afterSlash (webPath rest))⟩
  rw [(of_ofWeb h).2.2, readPathStart_of_isWeb hweb]

/-! ## A slash at the end -/

theorem addSegments_concat (parts css : List (List Char)) (cs : List Char) :
    addSegments parts (css ++ [cs]) = addSegment true (css.foldl (addSegment false) parts) cs := by
  induction css generalizing parts with
  | nil => rfl
  | cons d css ih =>
    rw [List.cons_append, addSegments, ih, List.foldl_cons]
    simp

/-- That a segment is the last shows in an empty segment after dots, and otherwise not at all. -/
theorem addSegment_last (parts : List (List Char)) (cs : List Char) :
    addSegment true parts cs = addSegment false parts cs ∨
      addSegment true parts cs = addSegment false parts cs ++ [[]] := by
  unfold addSegment
  split
  · exact .inr rfl
  · split
    · exact .inr rfl
    · exact .inl rfl

/-- A slash at the end of a path adds an empty segment, unless dots before it have added one. -/
theorem addSegments_append_empty {css : List (List Char)} (hcss : css ≠ []) :
    addSegments [] (css ++ [[]]) = addSegments [] css ∨
      addSegments [] (css ++ [[]]) = addSegments [] css ++ [[]] := by
  obtain ⟨init, cs, rfl⟩ : ∃ init cs, css = init ++ [cs] :=
    ⟨_, _, (List.dropLast_concat_getLast hcss).symm⟩
  let parts := init.foldl (addSegment false) []
  have hslash : addSegments [] (init ++ [cs] ++ [[]]) = addSegment false parts cs ++ [[]] := by
    rw [addSegments_concat, List.foldl_append]
    rfl
  have hcut : addSegments [] (init ++ [cs]) = addSegment true parts cs := addSegments_concat _ _ _
  rw [hslash, hcut]
  rcases addSegment_last parts cs with h | h
  · exact .inr (by rw [h])
  · exact .inl h.symm

theorem readSegments_append_slash (hspecial : isSpecial scheme = true) (cs : List Char) :
    readSegments scheme (cs ++ ['/']) = readSegments scheme cs ∨
      readSegments scheme (cs ++ ['/']) = readSegments scheme cs ++ [[]] := by
  simp only [readSegments, hspecial, if_true, List.map_append, List.map_cons, List.map_nil]
  show addSegments [] ((pieces '/' (_ ++ ['/'])).map _) = _ ∨
    addSegments [] ((pieces '/' (_ ++ ['/'])).map _) = _
  rw [pieces_append_sep, List.map_append]
  exact addSegments_append_empty (by simpa using pieces_ne_nil '/' _)

theorem emptyLast_readPathStart (hweb : isWeb scheme = true) (cs : List Char) :
    UrlPath.EmptyLast (readPathStart scheme (cs ++ ['/'])) (readPathStart scheme cs) := by
  refine ⟨_, readPathStart_of_isWeb hweb cs, ?_⟩
  rw [readPathStart_of_isWeb hweb]
  cases cs with
  | nil => exact .inl rfl
  | cons c cs =>
    have hafter : afterSlash (c :: cs ++ ['/']) = afterSlash (c :: cs) ++ ['/'] := by
      simp only [List.cons_append, afterSlash]
      split <;> simp
    rw [hafter]
    rcases readSegments_append_slash (isSpecial_of_isWeb hweb) (afterSlash (c :: cs)) with h | h
    · exact .inl (by rw [h])
    · exact .inr (by rw [h])

/-! ## Texts with a slash at the end of their path -/

/-- The text begins with a query or a fragment, or it is empty. -/
def EndsPath (tail : List Char) : Prop := ∀ c ∈ tail.head?, c = '?' ∨ c = '#'

/-- The text reaches neither a query nor a fragment. -/
def InPath (front : List Char) : Prop := ∀ c ∈ front, c ≠ '?' ∧ c ≠ '#'

section

variable {front tail : List Char}

theorem cutChar_append {mark : Char} (hfront : ∀ c ∈ front, c ≠ mark) (cs : List Char) :
    cutChar mark (front ++ cs) = (front ++ (cutChar mark cs).1, (cutChar mark cs).2) := by
  have hall : ∀ c ∈ front, (c != mark) = true := by simpa using hfront
  simp only [cutChar, List.span_eq_takeWhile_dropWhile, List.takeWhile_append_of_pos hall,
    List.dropWhile_append_of_pos hall]
  cases cs.dropWhile (· != mark) <;> rfl

theorem hierarchyText_append (hfront : InPath front) (htail : EndsPath tail) :
    hierarchyText (front ++ tail) = front := by
  have hhash : ∀ c ∈ front, (c != '#') = true := fun c hc => bne_iff_ne.2 (hfront c hc).2
  have hmark : ∀ c ∈ front, (c != '?') = true := fun c hc => bne_iff_ne.2 (hfront c hc).1
  have hnil : hierarchyText tail = [] := by
    cases tail with
    | nil => rfl
    | cons c cs => rcases htail c rfl with rfl | rfl <;> simp [hierarchyText]
  rw [hierarchyText, List.takeWhile_append_of_pos hhash, List.takeWhile_append_of_pos hmark,
    ← hierarchyText, hnil, List.append_nil]

theorem fragmentText_append (hfront : InPath front) (cs : List Char) :
    fragmentText (front ++ cs) = fragmentText cs := by
  rw [fragmentText, cutChar_append fun c hc => (hfront c hc).2, fragmentText]

theorem queryText_append (hfront : InPath front) (cs : List Char) :
    queryText (front ++ cs) = queryText cs := by
  rw [queryText, cutChar_append fun c hc => (hfront c hc).2,
    cutChar_append fun c hc => (hfront c hc).1, queryText]

theorem InPath.concat_slash (hfront : InPath front) : InPath (front ++ ['/']) := by
  intro c hc
  rcases List.mem_append.1 hc with hc | hc
  · exact hfront c hc
  · rw [List.mem_singleton.1 hc]
    decide

/-- A slash at the end of a path is no part of the authority. -/
theorem webAuthority_slash (hfront : InPath front) (htail : EndsPath tail) :
    webAuthority (front ++ '/' :: tail) = webAuthority (front ++ tail) ∧
      (webPath (front ++ '/' :: tail) = webPath (front ++ tail) ∨
        webPath (front ++ '/' :: tail) = webPath (front ++ tail) ++ ['/']) := by
  have hlong : hierarchyText (front ++ '/' :: tail) = front ++ ['/'] := by
    rw [← hierarchyText_append hfront.concat_slash htail, List.append_assoc]
    rfl
  have hshort : hierarchyText (front ++ tail) = front := hierarchyText_append hfront htail
  rw [webPath, webPath, webAuthority, webAuthority, ← hierarchyText, ← hierarchyText, hlong, hshort,
    List.dropWhile_append]
  generalize front.dropWhile isWebSlash = rest
  cases rest with
  | nil => exact ⟨rfl, .inl rfl⟩
  | cons c cs =>
    refine ⟨?_, .inr ?_⟩
    · show (c :: cs ++ ['/']).takeWhile (!isWebSlash ·) = _
      rw [List.takeWhile_append]
      split
      · next hall =>
        rw [(List.takeWhile_prefix _).eq_of_length hall]
        exact List.append_nil _
      · rfl
    · show (c :: cs ++ ['/']).dropWhile (!isWebSlash ·) = _
      rw [List.dropWhile_append]
      split
      · next hall =>
        rw [List.isEmpty_iff.1 hall]
        rfl
      · rfl

end

/-- The first text has a slash at the end of its path, and the second is the same without it. -/
def LosesSlash (longer shorter : String) : Prop :=
  ∃ front tail, InPath front ∧ EndsPath tail ∧ clean longer.toList = front ++ '/' :: tail ∧
    clean shorter.toList = front ++ tail

/-- The scheme stands before the end of the path. -/
theorem readScheme_before {front tail rest : List Char} (htail : EndsPath tail)
    (h : readScheme (front ++ '/' :: tail) = some (scheme, rest) ∨
      readScheme (front ++ tail) = some (scheme, rest)) :
    ∃ before, before <:+ front ∧ ∀ cs, readScheme (front ++ cs) = some (scheme, before ++ cs) := by
  have hend : ∀ c ∈ tail.head?, isSchemeChar c = false ∧ c ≠ ':' := by
    intro c hc
    rcases htail c hc with rfl | rfl <;> decide
  rcases h with h | h
  · obtain ⟨before, -, hread⟩ := readScheme_append (by simp; decide) h
    exact ⟨before, hread⟩
  · obtain ⟨before, -, hread⟩ := readScheme_append hend h
    exact ⟨before, hread⟩

/-- Without the slash at its end a path is read as before, but for an empty segment. -/
theorem ofWeb_of_losesSlash {longer shorter : String} {rest : List Char}
    (h : LosesSlash longer shorter) (hweb : isWeb scheme = true)
    (hscheme : readScheme (clean longer.toList) = some (scheme, rest) ∨
      readScheme (clean shorter.toList) = some (scheme, rest)) :
    ∃ authority long short query fragment, UrlPath.EmptyLast long short ∧
      parse longer = ofWeb scheme authority long query fragment ∧
      parse shorter = ofWeb scheme authority short query fragment := by
  obtain ⟨front, tail, hfront, htail, hlonger, hshorter⟩ := h
  rw [hlonger, hshorter] at hscheme
  obtain ⟨before, hbefore, hread⟩ := readScheme_before htail hscheme
  have hinPath : InPath before := fun c hc => hfront c (hbefore.subset hc)
  have hlong : parse longer = _ := parse_eq_ofWeb hweb (hlonger ▸ hread ('/' :: tail))
  have hshort : parse shorter = _ := parse_eq_ofWeb hweb (hshorter ▸ hread tail)
  have hslash : '/' :: tail = ['/'] ++ tail := rfl
  obtain ⟨hauthority, hpath⟩ := webAuthority_slash hinPath htail
  refine ⟨webAuthority (before ++ tail), readPathStart scheme (webPath (before ++ '/' :: tail)),
    readPathStart scheme (webPath (before ++ tail)), _, _, ?_, ?_, hshort⟩
  · rcases hpath with hpath | hpath
    · rw [hpath]
      exact ⟨_, readPathStart_of_isWeb hweb _, .inl (readPathStart_of_isWeb hweb _)⟩
    · rw [hpath]
      exact emptyLast_readPathStart hweb _
  · rw [hlong, hauthority, hslash, ← List.append_assoc, queryText_append hinPath.concat_slash,
      fragmentText_append hinPath.concat_slash, queryText_append hinPath,
      fragmentText_append hinPath]

section

variable {longer shorter : String} {url : Url} (hslash : LosesSlash longer shorter)
  (hweb : isWeb url.scheme = true)
include hslash hweb

/-- A URL stays one when it loses the slash at the end of its path. -/
theorem parse_of_losing_slash (h : parse longer = .ok url) :
    ∃ path, UrlPath.EmptyLast url.path path ∧ parse shorter = .ok { url with path } := by
  obtain ⟨rest, hscheme⟩ := exists_readScheme_of_parse h
  obtain ⟨authority, long, short, query, fragment, hlast, hlong, hshort⟩ :=
    ofWeb_of_losesSlash hslash hweb (.inl hscheme)
  rw [hlong] at h
  rw [hshort]
  exact ⟨short, (of_ofWeb h).2.2 ▸ hlast, ofWeb_of_path h short⟩

/-- A URL stays one when it gains a slash at the end of its path. -/
theorem parse_of_gaining_slash (h : parse shorter = .ok url) :
    ∃ path, UrlPath.EmptyLast path url.path ∧ parse longer = .ok { url with path } := by
  obtain ⟨rest, hscheme⟩ := exists_readScheme_of_parse h
  obtain ⟨authority, long, short, query, fragment, hlast, hlong, hshort⟩ :=
    ofWeb_of_losesSlash hslash hweb (.inr hscheme)
  rw [hshort] at h
  rw [hlong]
  exact ⟨long, (of_ofWeb h).2.2 ▸ hlast, ofWeb_of_path h long⟩

end

end Url

end RegistrySync.Net
