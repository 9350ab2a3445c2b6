import Mathlib.Data.List.TakeDrop
import Mathlib.Data.List.TakeWhile
import RegistrySync.Failure
import RegistrySync.Net.Url

/-!
# URLs of the web

A text with a scheme of the web is a URL exactly when its authority names a host
(`Url.exists_parse_iff`): what comes after its user is a host that can be read and, behind a colon,
nothing or a number of at most 16 bits. The user, the path, the query and the fragment are never at
fault, and segments can be added to every such URL (`Url.isBase_of_parse`). For a text that begins
with `http://` or `https://` the scheme is known before the text is read
(`Url.exists_parse_http_iff`).

Reading an authority has more ways to fail than these, for a user or a port without a host. They do
not arise: an authority that is a lone `@` has no host to read, and a host that was read is not
empty (`Host.readSpecial_ne_nil`). What is left is the host and then the port
(`Url.readAuthority_of_special`); the path, the query and the fragment have no part in it, and each
is read by itself (`Url.parse_eq_ofWeb`).
-/

namespace RegistrySync.Net

open Text

/-! ## Hosts -/

theorem Host.renderIpv4_ne_nil (n : Nat) : renderIpv4 n ≠ [] := by
  simp [renderIpv4, List.intercalate]

/-- A host that can be read is not empty. -/
theorem Host.readSpecial_ne_nil {cs name : List Char} (h : readSpecial cs = .ok name) :
    name ≠ [] := by
  unfold readSpecial at h
  split at h
  · unfold readBracketed at h
    split at h
    · split at h
      · cases h
        simp
      · cases h
    · cases h
  · split at h
    · cases h
    · cases h
    · next found hfound _ =>
      split at h
      · split at h
        · cases h
          exact renderIpv4_ne_nil _
        · cases h
      · cases h
        exact hfound

namespace Url

variable {scheme authority path : List Char} {more : Bool}

/-! ## Authorities -/

/-- The user of an authority, before its last `@`. -/
def userText (authority : List Char) : List Char :=
  ((splitUserinfo authority).getD ([], authority)).1

/-- What an authority says after its user. -/
def afterUser (authority : List Char) : List Char :=
  ((splitUserinfo authority).getD ([], authority)).2

/-- The text of the host of an authority. -/
def hostText (authority : List Char) : List Char := (splitPort false (afterUser authority)).1

/-- The text behind the colon after the host; no colon is as good as a colon alone. -/
def portText (authority : List Char) : List Char :=
  (splitPort false (afterUser authority)).2.getD []

theorem readHost_of_special (hspecial : isSpecial scheme = true) (cs : List Char) :
    readHost scheme cs = if cs.isEmpty then .error .emptyHost else Host.readSpecial cs := by
  rw [readHost, if_pos hspecial]

theorem isEmpty_of_readHost (hspecial : isSpecial scheme = true) {cs host : List Char}
    (h : readHost scheme cs = .ok host) : host.isEmpty = false := by
  rw [readHost_of_special hspecial] at h
  split at h
  · cases h
  · rw [List.isEmpty_eq_false_iff]
    exact Host.readSpecial_ne_nil h

/-- The one authority of a single character that has a user. -/
theorem eq_of_splitUserinfo (hlength : authority.length = 1)
    (huser : (splitUserinfo authority).isSome) : authority = ['@'] := by
  obtain ⟨c, rfl⟩ := List.length_eq_one_iff.1 hlength
  by_cases hc : c = '@'
  · rw [hc]
  · simp [splitUserinfo, cutAt, Ne.symm hc] at huser

/-- Reading an authority of the web is reading its host and its port. -/
theorem readAuthority_of_special (hspecial : isSpecial scheme = true) :
    readAuthority scheme authority path more = do
      let host ← readHost scheme (hostText authority)
      let p ← readPort (portText authority)
      return {
        scheme
        username := (readUserinfo (userText authority)).1
        password := (readUserinfo (userText authority)).2
        host := some host
        port := if p.1 == defaultPort? scheme then none else p.1
        path := readPathStart scheme (p.2 ++ path) } := by
  by_cases hlone : authority = ['@']
  · subst hlone
    have hhost : readHost scheme (hostText ['@']) = .error .emptyHost :=
      readHost_of_special hspecial []
    rw [hhost]
    unfold readAuthority
    simp only []
    split
    · rfl
    · show (readHost scheme (hostText ['@']) >>= _) = _
      rw [hhost]
      rfl
  · have hfirst : ((splitUserinfo authority).isSome && decide (authority.length = 1) &&
        (more || !path.isEmpty)) = false := by
      rw [Bool.eq_false_iff]
      intro h
      simp only [Bool.and_eq_true, decide_eq_true_eq] at h
      exact hlone (eq_of_splitUserinfo h.1.2 h.1.1)
    unfold readAuthority
    simp only [hfirst, Bool.false_eq_true, if_false]
    show (readHost scheme (hostText authority) >>= _) = _
    cases hhost : readHost scheme (hostText authority) with
    | error f => rfl
    | ok host =>
      have hhost := isEmpty_of_readHost hspecial hhost
      show (if (host.isEmpty && _) = true then _ else _) = _
      simp only [hhost, Bool.false_and, Bool.false_eq_true, if_false]
      rfl

/-- After its user an authority has a host that can be read and, behind a colon, either nothing or a
number of at most 16 bits. -/
structure NamesHost (authority : List Char) : Prop where
  host : hostText authority ≠ [] ∧ ∃ name, Host.readSpecial (hostText authority) = .ok name
  port : ∃ n, Decimal.readDigits 65535 .tooLarge 0 (portText authority) = .ok n

/-- What comes after the user is the end of the authority. -/
theorem afterUser_suffix (authority : List Char) : afterUser authority <:+ authority := by
  rw [afterUser]
  cases huser : splitUserinfo authority with
  | none => exact List.suffix_refl _
  | some r =>
    obtain ⟨⟨before, after⟩, hcut, rfl⟩ := Option.map_eq_some_iff.1 huser
    have hreverse := congrArg List.reverse (eq_append_of_cutAt hcut)
    rw [List.reverse_reverse, List.reverse_append] at hreverse
    exact ⟨(after.reverse ++ ['@']), by rw [hreverse]; simp⟩

theorem splitPort_suffix {inBrackets : Bool} {cs port : List Char}
    (h : (splitPort inBrackets cs).2 = some port) : port <:+ cs := by
  induction cs generalizing inBrackets with
  | nil => cases h
  | cons c cs ih =>
    rw [splitPort] at h
    split at h
    · cases h
      exact List.suffix_cons c _
    · exact (ih h).trans (List.suffix_cons c cs)

/-- The port is a part of the authority. -/
theorem portText_subset (authority : List Char) : portText authority ⊆ authority := by
  rw [portText]
  cases hport : (splitPort false (afterUser authority)).2 with
  | none => exact List.nil_subset _
  | some port => exact ((splitPort_suffix hport).trans (afterUser_suffix authority)).subset

theorem span_port {cs : List Char} (hcs : '\\' ∉ cs) : cs.span (· != '\\') = (cs, []) := by
  have hall : ∀ c ∈ cs, (c != '\\') = true := fun c hc => by
    rw [bne_iff_ne]
    exact fun h => hcs (h ▸ hc)
  rw [List.span_eq_takeWhile_dropWhile, List.takeWhile_eq_self_iff.2 hall,
    List.dropWhile_eq_nil_iff.2 hall]

theorem exists_readPort_iff {cs : List Char} (hcs : '\\' ∉ cs) :
    (∃ r, readPort cs = .ok r) ↔ ∃ n, Decimal.readDigits 65535 .tooLarge 0 cs = .ok n := by
  rw [readPort, span_port hcs]
  cases cs with
  | nil => exact ⟨fun _ => ⟨0, rfl⟩, fun _ => ⟨_, rfl⟩⟩
  | cons c cs =>
    cases hdigits : Decimal.readDigits 65535 .tooLarge 0 (c :: cs) with
    | ok n => simp [hdigits]
    | error f => simp [hdigits]

/-- Nothing is left of a port without backslash. -/
theorem snd_of_readPort {cs : List Char} (hcs : '\\' ∉ cs) {p : Option Nat × List Char}
    (h : readPort cs = .ok p) : p.2 = [] := by
  rw [readPort, span_port hcs] at h
  cases cs with
  | nil =>
    cases h
    rfl
  | cons c cs =>
    cases hdigits : Decimal.readDigits 65535 .tooLarge 0 (c :: cs) with
    | ok n =>
      simp [hdigits] at h
      rw [← h]
    | error f => simp [hdigits] at h

theorem exists_readHost_iff (hspecial : isSpecial scheme = true) {cs : List Char} :
    (∃ name, readHost scheme cs = .ok name) ↔
      cs ≠ [] ∧ ∃ name, Host.readSpecial cs = .ok name := by
  rw [readHost_of_special hspecial]
  cases cs <;> simp

/-! ## Whole texts -/

/-- A slash of the web. -/
def isWebSlash (c : Char) : Bool := c == '/' || c == '\\'

/-- What stands between the slashes after a scheme of the web and the path, query or fragment. -/
def webAuthority (cs : List Char) : List Char :=
  (((cs.takeWhile (· != '#')).takeWhile (· != '?')).dropWhile isWebSlash).takeWhile
    (!isWebSlash ·)

theorem backslash_not_mem_webAuthority (cs : List Char) : '\\' ∉ webAuthority cs := by
  intro h
  have h := List.mem_takeWhile_imp h
  cases h

theorem fst_cutChar (mark : Char) (cs : List Char) :
    (cutChar mark cs).1 = cs.takeWhile (· != mark) := by
  rw [cutChar, List.span_eq_takeWhile_dropWhile]
  split
  · next hspan => exact (congrArg Prod.fst hspan).symm
  · next hspan => exact (congrArg Prod.fst hspan).symm

theorem isSpecial_of_isWeb (hweb : isWeb scheme = true) : isSpecial scheme = true := by
  rw [isSpecial, hweb, Bool.or_true]

theorem isFile_of_isWeb (hweb : isWeb scheme = true) : isFile scheme = false := by
  rw [isFile, beq_eq_false_iff_ne]
  rintro rfl
  revert hweb
  decide

theorem isSlash_of_isWeb (hweb : isWeb scheme = true) : isSlash scheme = isWebSlash := by
  funext c
  rw [isSlash, isSpecial_of_isWeb hweb, Bool.true_and, isWebSlash]

theorem readHierarchy_of_isWeb (hweb : isWeb scheme = true) (cs : List Char) (more : Bool) :
    readHierarchy scheme cs more =
      readAuthority scheme ((cs.dropWhile isWebSlash).takeWhile (!isWebSlash ·))
        ((cs.dropWhile isWebSlash).dropWhile (!isWebSlash ·)) more := by
  unfold readHierarchy
  rw [isFile_of_isWeb hweb, hweb, isSlash_of_isWeb hweb]
  show readAfterSlashes scheme (cs.dropWhile isWebSlash) more = _
  rw [readAfterSlashes, isSlash_of_isWeb hweb, List.span_eq_takeWhile_dropWhile]

/-- A path without the slash that it begins with. -/
def afterSlash : List Char → List Char
  | c :: cs => if isWebSlash c then cs else c :: cs
  | [] => []

/-- A path of the web has segments, those after its first slash. -/
theorem readPathStart_of_isWeb (hweb : isWeb scheme = true) (cs : List Char) :
    readPathStart scheme cs = .segments (readSegments scheme (afterSlash cs)) := by
  have hread (cs : List Char) : readPath scheme cs = .segments (readSegments scheme cs) := by
    rw [readPath, trimFile, isFile_of_isWeb hweb]
    rfl
  unfold readPathStart
  split
  · exact hread _
  · rw [isSpecial_of_isWeb hweb]
    exact hread _
  · rw [isSpecial_of_isWeb hweb]
    exact hread _
  · next hslash hbackslash hnil =>
    cases cs with
    | nil => exact absurd rfl hnil
    | cons c cs =>
      have hc : isWebSlash c = false := by
        rw [isWebSlash, Bool.or_eq_false_iff, beq_eq_false_iff_ne, beq_eq_false_iff_ne]
        exact ⟨fun h => hslash cs (by rw [h]), fun h => hbackslash cs (by rw [h])⟩
      rw [afterSlash, hc]
      exact hread _

/-- What stands before the query and the fragment. -/
def hierarchyText (cs : List Char) : List Char := (cs.takeWhile (· != '#')).takeWhile (· != '?')

/-- What follows the authority, up to the query or the fragment. -/
def webPath (cs : List Char) : List Char :=
  ((hierarchyText cs).dropWhile isWebSlash).dropWhile (!isWebSlash ·)

def queryText (cs : List Char) : Option (List Char) := (cutChar '?' (cutChar '#' cs).1).2

def fragmentText (cs : List Char) : Option (List Char) := (cutChar '#' cs).2

/-- The URL of the web with an authority and what follows it. -/
def ofWeb (scheme authority : List Char) (path : UrlPath) (query fragment : Option (List Char)) :
    Except UrlFault Url := do
  let host ← readHost scheme (hostText authority)
  let p ← readPort (portText authority)
  return {
    scheme
    username := (readUserinfo (userText authority)).1
    password := (readUserinfo (userText authority)).2
    host := some host
    port := if p.1 == defaultPort? scheme then none else p.1
    path, query, fragment }

theorem readAuthority_eq_ofWeb (hspecial : isSpecial scheme = true) (hcs : '\\' ∉ authority) :
    readAuthority scheme authority path more =
      ofWeb scheme authority (readPathStart scheme path) none none := by
  rw [readAuthority_of_special hspecial, ofWeb]
  cases hhost : readHost scheme (hostText authority) with
  | error f => rfl
  | ok host =>
    cases hport : readPort (portText authority) with
    | error f => rfl
    | ok p =>
      have hrest : p.2 = [] := snd_of_readPort (fun h => hcs (portText_subset _ h)) hport
      show Except.ok _ = Except.ok _
      rw [hrest]
      rfl

section

variable {path : UrlPath} {query fragment : Option (List Char)}

theorem of_ofWeb {url : Url} (h : ofWeb scheme authority path query fragment = .ok url) :
    (∃ name, readHost scheme (hostText authority) = .ok name) ∧
      (∃ p, readPort (portText authority) = .ok p) ∧ url.path = path := by
  obtain ⟨name, hname, h⟩ := bind_eq_ok_iff.1 h
  obtain ⟨p, hp, h⟩ := bind_eq_ok_iff.1 h
  cases h
  exact ⟨⟨name, hname⟩, ⟨p, hp⟩, rfl⟩

/-- The path has no part in whether there is a URL. -/
theorem ofWeb_of_path {url : Url} (h : ofWeb scheme authority path query fragment = .ok url)
    (other : UrlPath) :
    ofWeb scheme authority other query fragment = .ok { url with path := other } := by
  obtain ⟨host, hhost, h⟩ := bind_eq_ok_iff.1 h
  obtain ⟨port, hport, h⟩ := bind_eq_ok_iff.1 h
  cases h
  rw [ofWeb, hhost, hport]
  rfl

/-- There is a URL with an authority of the web exactly when the authority names a host. -/
theorem exists_ofWeb_iff (hspecial : isSpecial scheme = true) (hcs : '\\' ∉ authority) :
    (∃ url, ofWeb scheme authority path query fragment = .ok url) ↔ NamesHost authority := by
  have hnames : NamesHost authority ↔ (∃ name, readHost scheme (hostText authority) = .ok name) ∧
      ∃ p, readPort (portText authority) = .ok p := by
    rw [exists_readHost_iff hspecial, exists_readPort_iff fun h => hcs (portText_subset _ h)]
    exact ⟨fun h => ⟨h.host, h.port⟩, fun h => ⟨h.1, h.2⟩⟩
  rw [hnames]
  constructor
  · rintro ⟨url, h⟩
    obtain ⟨hhost, hport, -⟩ := of_ofWeb h
    exact ⟨hhost, hport⟩
  · rintro ⟨⟨name, hname⟩, p, hp⟩
    rw [ofWeb, hname, hp]
    exact ⟨_, rfl⟩

end

/-- Reading a text with a scheme of the web is reading its authority and what follows, each by
itself. -/
theorem parse_eq_ofWeb {text : String} {rest : List Char} (hweb : isWeb scheme = true)
    (hscheme : readScheme (clean text.toList) = some (scheme, rest)) :
    parse text = ofWeb scheme (webAuthority rest) (readPathStart scheme (webPath rest))
      ((queryText rest).map (Percent.encode Percent.inSpecialQuery))
      ((fragmentText rest).map (Percent.encode Percent.inFragment)) := by
  have hspecial := isSpecial_of_isWeb hweb
  have htext : (cutChar '?' (cutChar '#' rest).1).1 = hierarchyText rest := by
    rw [fst_cutChar, fst_cutChar, hierarchyText]
  have hread (more : Bool) : readHierarchy scheme (hierarchyText rest) more =
      ofWeb scheme (webAuthority rest) (readPathStart scheme (webPath rest)) none none := by
    rw [readHierarchy_of_isWeb hweb]
    exact readAuthority_eq_ofWeb hspecial (backslash_not_mem_webAuthority rest)
  unfold parse
  rw [hscheme]
  show (readHierarchy scheme (cutChar '?' (cutChar '#' rest).1).1 _ >>= _) = _
  rw [htext, hread, hspecial, ofWeb, ofWeb]
  cases readHost scheme (hostText (webAuthority rest)) with
  | error f => rfl
  | ok host => cases readPort (portText (webAuthority rest)) <;> rfl

section

variable {text : String} {rest : List Char} (hweb : isWeb scheme = true)
  (hscheme : readScheme (clean text.toList) = some (scheme, rest))
include hweb hscheme

/-- A text with a scheme of the web is a URL exactly when its authority names a host. -/
theorem exists_parse_iff : (∃ url, parse text = .ok url) ↔ NamesHost (webAuthority rest) := by
  rw [parse_eq_ofWeb hweb hscheme]
  exact exists_ofWeb_iff (isSpecial_of_isWeb hweb) (backslash_not_mem_webAuthority rest)

/-- Segments can be added to every URL of the web. -/
theorem isBase_of_parse {url : Url} (h : parse text = .ok url) : url.isBase = true := by
  rw [parse_eq_ofWeb hweb hscheme] at h
  simp only [isBase, (of_ofWeb h).2.2, readPathStart_of_isWeb hweb]

end

/-! ## Schemes that are read -/

theorem readScheme_eq_some_iff {cs rest : List Char} :
    readScheme cs = some (scheme, rest) ↔ ∃ c name, c.isAlpha = true ∧
      (∀ d ∈ c :: name, isSchemeChar d = true) ∧ cs = c :: name ++ ':' :: rest ∧
      scheme = (c :: name).map Char.toLower := by
  constructor
  · intro h
    rw [readScheme, List.span_eq_takeWhile_dropWhile] at h
    split at h
    · next c name after hspan =>
      obtain ⟨hname, hafter⟩ := Prod.mk.inj hspan
      split at h
      · next hc =>
        cases h
        refine ⟨c, name, hc, fun d hd => ?_, ?_, rfl⟩
        · rw [← hname] at hd
          exact List.mem_takeWhile_imp hd
        · rw [← hname, ← hafter, List.takeWhile_append_dropWhile]
      · cases h
    · cases h
  · rintro ⟨c, name, hc, hname, rfl, rfl⟩
    have hcolon : (':' :: rest).takeWhile isSchemeChar = [] ∧
        (':' :: rest).dropWhile isSchemeChar = ':' :: rest := ⟨rfl, rfl⟩
    rw [readScheme, List.span_eq_takeWhile_dropWhile, List.takeWhile_append_of_pos hname,
      List.dropWhile_append_of_pos hname, hcolon.1, hcolon.2, List.append_nil]
    simp [hc]

/-- The scheme stands before every character that is neither of a scheme nor its colon, whatever
comes there. -/
theorem readScheme_append {front cs rest : List Char}
    (hcs : ∀ c ∈ cs.head?, isSchemeChar c = false ∧ c ≠ ':')
    (h : readScheme (front ++ cs) = some (scheme, rest)) :
    ∃ before, rest = before ++ cs ∧ before <:+ front ∧
      ∀ cs', readScheme (front ++ cs') = some (scheme, before ++ cs') := by
  obtain ⟨c, name, hc, hname, heq, hscheme⟩ := readScheme_eq_some_iff.1 h
  rcases List.append_eq_append_iff.1 heq with ⟨as, hfront, hrest⟩ | ⟨bs, hfront, hrest⟩
  · cases as with
    | nil => exact absurd rfl (hcs ':' (by rw [hrest]; rfl)).2
    | cons a as =>
      have ha : isSchemeChar a = true := hname a (by rw [hfront]; simp)
      rw [(hcs a (by rw [hrest]; rfl)).1] at ha
      cases ha
  · cases bs with
    | nil => exact absurd rfl (hcs ':' (by rw [← List.nil_append cs, ← hrest]; rfl)).2
    | cons b before =>
      cases hrest
      refine ⟨before, rfl, ⟨c :: name ++ [':'], by simp [hfront]⟩, fun cs' => ?_⟩
      exact readScheme_eq_some_iff.2 ⟨c, name, hc, hname, by simp [hfront], hscheme⟩

theorem scheme_of_readAuthority {authority path : List Char} {more : Bool} {url : Url}
    (h : readAuthority scheme authority path more = .ok url) : url.scheme = scheme := by
  unfold readAuthority at h
  simp only at h
  split at h
  · cases h
  · obtain ⟨host, -, h⟩ := bind_eq_ok_iff.1 h
    split at h
    · cases h
    · obtain ⟨p, -, h⟩ := bind_eq_ok_iff.1 h
      split at h
      · cases h
      · cases h
        rfl

theorem scheme_of_readFile {cs : List Char} {url : Url} (h : readFile scheme cs = .ok url) :
    url.scheme = scheme := by
  unfold readFile at h
  split at h
  · simp only at h
    split at h
    · split at h
      · cases h
        rfl
      · split at h
        · cases h
          rfl
        · obtain ⟨host, -, h⟩ := bind_eq_ok_iff.1 h
          cases h
          rfl
    · cases h
      rfl
  · cases h
    rfl

theorem scheme_of_readHierarchy {cs : List Char} {more : Bool} {url : Url}
    (h : readHierarchy scheme cs more = .ok url) : url.scheme = scheme := by
  unfold readHierarchy at h
  split at h
  · exact scheme_of_readFile h
  · split at h
    · exact scheme_of_readAuthority h
    · split at h
      · exact scheme_of_readAuthority h
      · cases h
        rfl
      · cases h
        rfl

/-- The scheme of a URL is the one its text begins with. -/
theorem exists_readScheme_of_parse {text : String} {url : Url} (h : parse text = .ok url) :
    ∃ rest, readScheme (clean text.toList) = some (url.scheme, rest) := by
  unfold parse at h
  split at h
  · next scheme rest hscheme =>
    obtain ⟨read, hread, h⟩ := bind_eq_ok_iff.1 h
    cases h
    exact ⟨rest, by rw [hscheme, ← scheme_of_readHierarchy hread]⟩
  · cases h

/-! ## The schemes of HTTP -/

/-- The beginning of a text is read as it is when it has no blanks. -/
theorem exists_clean_append (front : List Char) (hfront : ∀ c ∈ front, ¬ c ≤ ' ')
    (cs : List Char) : ∃ rest, clean (front ++ cs) = front ++ rest := by
  have hkept : ∀ cs : List Char, (∀ c ∈ cs, ¬ c ≤ ' ') → cs.dropWhile (· ≤ ' ') = cs := by
    intro cs hcs
    refine List.dropWhile_eq_self_iff.2 fun hlength => ?_
    simpa using hcs _ (List.getElem_mem hlength)
  cases front with
  | nil => exact ⟨clean cs, rfl⟩
  | cons c front =>
    have hstart : (c :: front ++ cs).dropWhile (· ≤ ' ') = c :: front ++ cs :=
      List.dropWhile_cons_of_neg (by simpa using hfront c List.mem_cons_self)
    have hend : (c :: front).reverse.dropWhile (· ≤ ' ') = (c :: front).reverse :=
      hkept _ fun d hd => hfront d (List.mem_reverse.1 hd)
    have hbreaks : (c :: front).filter (!isLineBreak ·) = c :: front := by
      refine List.filter_eq_self.2 fun d hd => ?_
      rw [Bool.not_eq_true', Bool.eq_false_iff]
      intro hbreak
      refine hfront d hd ?_
      simp only [isLineBreak, Bool.or_eq_true, beq_iff_eq] at hbreak
      rcases hbreak with (rfl | rfl) | rfl <;> decide
    unfold clean
    simp only [hstart, List.reverse_append, List.dropWhile_append, hend]
    split
    · refine ⟨[], ?_⟩
      rw [List.reverse_reverse, hbreaks, List.append_nil]
    · refine ⟨(cs.reverse.dropWhile (· ≤ ' ')).reverse.filter (!isLineBreak ·), ?_⟩
      rw [List.reverse_append, List.reverse_reverse, List.filter_append, hbreaks]

/-- The authority of a text with a scheme of the web. -/
def authorityOf (text : String) : List Char :=
  match readScheme (clean text.toList) with
  | some (_, rest) => webAuthority rest
  | none => []

section

variable {text : String}
  (hhttp : "http://".toList <+: text.toList ∨ "https://".toList <+: text.toList)
include hhttp

theorem exists_readScheme : ∃ scheme rest, isWeb scheme = true ∧
    readScheme (clean text.toList) = some (scheme, rest) := by
  rcases hhttp with ⟨cs, hcs⟩ | ⟨cs, hcs⟩
  · obtain ⟨rest, hclean⟩ := exists_clean_append "http://".toList (by simp) cs
    exact ⟨"http".toList, "//".toList ++ rest, by decide, by rw [← hcs, hclean]; rfl⟩
  · obtain ⟨rest, hclean⟩ := exists_clean_append "https://".toList (by simp) cs
    exact ⟨"https".toList, "//".toList ++ rest, by decide, by rw [← hcs, hclean]; rfl⟩

/-- A text that begins as a URL of HTTP is one exactly when its authority names a host. -/
theorem exists_parse_http_iff : (∃ url, parse text = .ok url) ↔ NamesHost (authorityOf text) := by
  obtain ⟨scheme, rest, hweb, hscheme⟩ := exists_readScheme hhttp
  rw [exists_parse_iff hweb hscheme, authorityOf, hscheme]

theorem isBase_of_parse_http {url : Url} (h : parse text = .ok url) : url.isBase = true := by
  obtain ⟨scheme, rest, hweb, hscheme⟩ := exists_readScheme hhttp
  exact isBase_of_parse hweb hscheme h

end

end Url

end RegistrySync.Net
