import RegistrySync.Proofs.WebPaths

/-!
# Names as segments of a path

**Theorem (`Url.append_of_nameable`).** Names that are added to a URL of the web follow the stem of
its path, each as one segment. The segment writes its name: percent-decoded, it is the name
(`Url.decodedText?_segmentOf`). It is no segment of dots and holds none of the characters that end
one (`Url.oneSegment_segmentOf`), so whoever reads the target of the URL finds these segments and
the query of the URL (`Url.readTarget_target`).

**Names.** What is no name is left out, as dots are, or not written as it stands, as line breaks are
(`Url.Nameable`).

**Dots.** A segment can be read as dots when it holds no dot, as an encoded dot counts as one. It
stands for dots all the same once it is decoded (`Url.decodedText?_of_isSingleDot`,
`Url.decodedText?_of_isDoubleDot`), and a name other than dots does not.
-/

namespace RegistrySync.Net

open Text

namespace Url

variable {scheme : List Char}

/-! ## Dot segments -/

theorem eq_nil_of_plainDots {cs : List Char} (h : plainDots cs = []) : cs = [] := by
  unfold plainDots at h
  split at h
  · cases h
  · cases h
  · cases h
  · rfl

/-- A dot is read from what stands for a dot. -/
theorem exists_of_plainDots {cs ds : List Char} (h : plainDots cs = '.' :: ds) :
    ∃ rest, plainDots rest = ds ∧
      Percent.decode cs = String.utf8EncodeChar '.' ++ Percent.decode rest := by
  unfold plainDots at h
  split at h
  · next rest =>
    cases h
    exact ⟨rest, rfl, rfl⟩
  · next rest =>
    cases h
    exact ⟨rest, rfl, rfl⟩
  · next c rest _ _ =>
    cases h
    exact ⟨rest, rfl, Percent.decode_cons_of_ne (by decide) rest⟩
  · cases h

theorem decodedText?_of_isSingleDot {cs : List Char} (h : isSingleDot cs = true) :
    Host.decodedText? cs = some ['.'] := by
  obtain ⟨rest, hrest, hdecode⟩ := exists_of_plainDots (eq_of_beq h)
  rw [eq_nil_of_plainDots hrest] at hdecode
  exact Host.decodedText?_of_decode hdecode

theorem decodedText?_of_isDoubleDot {cs : List Char} (h : isDoubleDot cs = true) :
    Host.decodedText? cs = some ['.', '.'] := by
  obtain ⟨rest, hrest, hdecode⟩ := exists_of_plainDots (eq_of_beq h)
  obtain ⟨rest', hrest', hdecode'⟩ := exists_of_plainDots hrest
  rw [eq_nil_of_plainDots hrest'] at hdecode'
  rw [hdecode'] at hdecode
  exact Host.decodedText?_of_decode hdecode

/-! ## Names as segments -/

/-- A name that can be added to a path as one segment: it is not left out or resolved, and none of
its characters are. -/
structure Nameable (name : String) : Prop where
  ne_empty : name ≠ ""
  ne_dot : name ≠ "."
  ne_dots : name ≠ ".."
  unbroken : ∀ c ∈ name.toList, isLineBreak c = false

/-- A text that is one segment of a path wherever it is read. -/
structure OneSegment (cs : List Char) : Prop where
  whole : Whole cs
  not_dot : isSingleDot cs = false
  not_dots : isDoubleDot cs = false

/-- How a name is written as a segment of a URL of the web. -/
def segmentOf (name : String) : List Char := Percent.encode Percent.inSpecialSegment name.toList

theorem decodedText?_segmentOf (name : String) :
    Host.decodedText? (segmentOf name) = some name.toList :=
  Host.decodedText?_encode rfl name.toList

theorem segmentOf_ne_nil {name : String} (h : name ≠ "") : segmentOf name ≠ [] := by
  intro hnil
  have hname := decodedText?_segmentOf name
  rw [hnil] at hname
  cases hname' : name.toList with
  | nil => exact h (String.toList_eq_nil_iff.1 hname')
  | cons c cs =>
    rw [hname'] at hname
    cases hname

theorem oneSegment_segmentOf {name : String} (h : Nameable name) : OneSegment (segmentOf name) := by
  refine ⟨whole_encode fun c _ hplain => ?_, ?_, ?_⟩
  · refine ⟨?_, ?_, ?_, ?_⟩ <;> rintro rfl <;> cases hplain
  · rw [Bool.eq_false_iff]
    intro hdot
    have hname := decodedText?_of_isSingleDot hdot
    rw [decodedText?_segmentOf, Option.some.injEq] at hname
    exact h.ne_dot (String.toList_inj.1 hname)
  · rw [Bool.eq_false_iff]
    intro hdots
    have hname := decodedText?_of_isDoubleDot hdots
    rw [decodedText?_segmentOf, Option.some.injEq] at hname
    exact h.ne_dots (String.toList_inj.1 hname)

/-! ## Adding names -/

/-- A path that ends in a name is not the path of a lone slash. -/
theorem concat_segmentOf_ne {name : String} (h : Nameable name) (parts : List (List Char)) :
    parts ++ [segmentOf name] ≠ [[]] := by
  intro heq
  have hlast := congrArg List.getLast? heq
  rw [List.getLast?_concat, List.getLast?_singleton, Option.some.injEq] at hlast
  exact segmentOf_ne_nil h.ne_empty hlast

theorem appendSegment_of_nameable (hweb : isWeb scheme = true) {name : String} (h : Nameable name)
    (parts : List (List Char)) : appendSegment scheme parts name =
      (if parts = [[]] then [] else parts) ++ [segmentOf name] := by
  have hunbroken : name.toList.filter (!isLineBreak ·) = name.toList := by
    rw [List.filter_eq_self]
    intro c hc
    rw [h.unbroken c hc]
    rfl
  have hdots : ¬ (name = "." ∨ name = "..") := by
    rintro (hdot | hdots)
    · exact h.ne_dot hdot
    · exact h.ne_dots hdots
  have hone := oneSegment_segmentOf h
  unfold appendSegment
  rw [if_neg hdots]
  simp only [isSpecial_of_isWeb hweb, if_true, isFile_of_isWeb hweb, hunbroken]
  rw [← segmentOf, addSegment_eq_append hone.not_dot hone.not_dots, trimFile]
  rfl

theorem foldl_appendSegment (hweb : isWeb scheme = true) {names : List String}
    (hnames : ∀ n ∈ names, Nameable n) {parts : List (List Char)} (hparts : parts ≠ [[]]) :
    names.foldl (appendSegment scheme) parts = parts ++ names.map segmentOf := by
  induction names generalizing parts with
  | nil => simp
  | cons n names ih =>
    have hn := hnames n List.mem_cons_self
    have hnext : parts ++ [segmentOf n] ≠ [[]] := concat_segmentOf_ne hn parts
    rw [List.foldl_cons, appendSegment_of_nameable hweb hn, if_neg hparts,
      ih (fun m hm => hnames m (List.mem_cons_of_mem n hm)) hnext]
    simp

/-- The first name that is added takes the place of an empty last segment. -/
theorem appendSegment_dropEmptyLast (hweb : isWeb scheme = true) {name : String}
    (h : Nameable name) {path : UrlPath} (hplain : path.Plain) :
    appendSegment scheme (dropEmptyLast path.parts) name = path.stem ++ [segmentOf name] := by
  have hstem : (if dropEmptyLast path.parts = [[]] then [] else dropEmptyLast path.parts) =
      path.stem := by
    unfold UrlPath.stem dropEmptyLast
    by_cases hlast : path.parts.getLast? = some []
    · obtain ⟨init, hinit⟩ := List.getLast?_eq_some_iff.1 hlast
      have hne : init ≠ [[]] := by
        rintro rfl
        exact hplain [] (by simp [hinit]) rfl
      cases init with
      | nil => simp [hinit]
      | cons p init =>
        have hlong : 2 ≤ path.parts.length ∧ path.parts.getLast? = some [] :=
          ⟨by simp [hinit], hlast⟩
        have hdrop : path.parts.dropLast = p :: init := by rw [hinit, List.dropLast_concat]
        rw [if_pos hlong, if_pos hlast, hdrop, if_neg hne]
    · have hne : path.parts ≠ [[]] := by
        intro h
        simp [h] at hlast
      simp [hlast, hne]
  rw [appendSegment_of_nameable hweb h, hstem]

theorem append_of_isBase {url : Url} (hbase : url.isBase = true) (names : List String) :
    url.append names = { url with
      path := .segments
        (names.foldl (appendSegment url.scheme) (dropEmptyLast url.path.parts)) } := by
  unfold isBase at hbase
  unfold append
  split
  · next hflat =>
    rw [hflat] at hbase
    cases hbase
  · next parts hparts => rw [hparts, UrlPath.parts]

/-- Names are added to the stem of a path, one segment each. -/
theorem append_of_nameable {url : Url} (hweb : isWeb url.scheme = true) (hbase : url.isBase = true)
    (hplain : url.path.Plain) {name : String} {names : List String}
    (hnames : ∀ n ∈ name :: names, Nameable n) :
    url.append (name :: names) =
      { url with path := .segments (url.path.stem ++ (name :: names).map segmentOf) } := by
  have hname := hnames name List.mem_cons_self
  rw [append_of_isBase hbase, List.foldl_cons, appendSegment_dropEmptyLast hweb hname hplain,
    foldl_appendSegment hweb (fun n hn => hnames n (List.mem_cons_of_mem name hn))
      (concat_segmentOf_ne hname url.path.stem)]
  simp

/-! ## Reading a target -/

/-- The segments and the query of a target, as one who is asked for it tells them apart. -/
def readTarget (target : String) : List (List Char) × Option (List Char) :=
  let (path, query) := cutChar '?' target.toList
  ((pieces '/' path).drop 1, query)

/-- Whole segments are told apart, and so is the query. -/
theorem readTarget_target {url : Url} {parts : List (List Char)}
    (hpath : url.path = .segments parts) (hparts : ∀ p ∈ parts, Whole p) :
    readTarget url.target = (parts, url.query) := by
  have hmark : ∀ c ∈ parts.flatMap ('/' :: ·), c ≠ '?' := by
    intro c hc
    obtain ⟨p, hp, hc⟩ := List.mem_flatMap.1 hc
    rcases List.mem_cons.1 hc with rfl | hc
    · decide
    · exact (hparts p hp c hc).2.2.1
  have hquery : cutChar '?' (renderQuery url) = ([], url.query) := by
    cases hquery : url.query <;> simp [renderQuery, hquery, cutChar]
  have htext : url.target.toList = parts.flatMap ('/' :: ·) ++ renderQuery url := by
    rw [target, String.toList_ofList, renderPath, hpath]
  rw [readTarget, htext, cutChar_append hmark, hquery]
  simp only [List.append_nil]
  rw [pieces_flatMap fun p hp hslash => (hparts p hp '/' hslash).1 rfl]
  rfl

/-- Paths that differ in their last segment make different URLs. -/
theorem eq_of_render {url : Url} {parts : List (List Char)} {p q : List Char}
    (h : render { url with path := .segments (parts ++ [p]) } =
      render { url with path := .segments (parts ++ [q]) }) : p = q := by
  have h := String.ofList_injective h
  simpa [renderPath, renderAuthority, renderUserinfo, renderQuery] using h

end Url

end RegistrySync.Net
