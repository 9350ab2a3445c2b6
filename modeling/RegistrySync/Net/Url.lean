import RegistrySync.Net.Host

/-!
# URLs

Reading URLs the lenient way of browsers, and writing them in one form. Blanks and controls around
the text are ignored, and so are tabs and line breaks anywhere. Schemes are lower-cased. The special
schemes of the web take backslashes for slashes, always have a host and a path, and leave their
default port out; other schemes may have a path without segments, to which nothing can be added. Dot
segments are resolved while a path is read; going up never leaves a drive (`C:`).

`Url.append` adds segments to a path. A segment stays one segment: whatever would end it is encoded.
-/

namespace RegistrySync.Net

open Text

/-- The path of a URL. -/
inductive UrlPath where
  /-- A text without segments. -/
  | flat (text : List Char)
  /-- Segments, each after a slash. -/
  | segments (parts : List (List Char))
deriving DecidableEq

/-- A URL, its parts encoded as they are written. -/
structure Url where
  scheme : List Char
  username : List Char := []
  password : List Char := []
  host : Option (List Char) := none
  port : Option Nat := none
  /-- The path is written after `/.`, so that it is not taken for an authority. -/
  isDotted : Bool := false
  path : UrlPath
  query : Option (List Char) := none
  fragment : Option (List Char) := none
deriving DecidableEq

namespace Url

/-! ## Schemes -/

/-- The web schemes with their default ports. -/
def defaultPorts : List (String × Nat) :=
  [("http", 80), ("https", 443), ("ws", 80), ("wss", 443), ("ftp", 21)]

def isFile (scheme : List Char) : Bool := scheme == "file".toList

def isWeb (scheme : List Char) : Bool := (defaultPorts.lookup (String.ofList scheme)).isSome

def isSpecial (scheme : List Char) : Bool := isFile scheme || isWeb scheme

def defaultPort? (scheme : List Char) : Option Nat := defaultPorts.lookup (String.ofList scheme)

def isSchemeChar (c : Char) : Bool := c.isAlphanum || c == '+' || c == '-' || c == '.'

/-- The scheme in lower case, and what follows its colon. -/
def readScheme (cs : List Char) : Option (List Char × List Char) :=
  match cs.span isSchemeChar with
  | (c :: scheme, ':' :: rest) =>
    if c.isAlpha then some ((c :: scheme).map Char.toLower, rest) else none
  | _ => none

/-! ## Paths -/

/-- One letter and a colon, or a bar in its place. -/
def isDrive (cs : List Char) : Bool :=
  match cs with
  | [c, d] => c.isAlpha && (d == ':' || d == '|')
  | _ => false

/-- A segment with its encoded dots written as dots. -/
def plainDots : List Char → List Char
  | '%' :: '2' :: 'e' :: cs => '.' :: plainDots cs
  | '%' :: '2' :: 'E' :: cs => '.' :: plainDots cs
  | c :: cs => c :: plainDots cs
  | [] => []

def isSingleDot (cs : List Char) : Bool := plainDots cs == ['.']

def isDoubleDot (cs : List Char) : Bool := plainDots cs == ['.', '.']

/-- A path without its last segment, which stays if it is a drive. -/
def shorten (parts : List (List Char)) : List (List Char) :=
  match parts.getLast? with
  | some part => if isDrive part then parts else parts.dropLast
  | none => []

/-- Add an encoded segment to a path, resolving dots; `last` tells that no slash follows it. -/
def addSegment (last : Bool) (parts : List (List Char)) (cs : List Char) : List (List Char) :=
  if isDoubleDot cs then
    let parts := shorten parts
    if last then parts ++ [[]] else parts
  else if isSingleDot cs then (if last then parts ++ [[]] else parts)
  else parts ++ [cs]

/-- A segment without dots to resolve is appended as it is. -/
theorem addSegment_eq_append {cs : List Char} (single : isSingleDot cs = false)
    (double : isDoubleDot cs = false) (last : Bool) (parts : List (List Char)) :
    addSegment last parts cs = parts ++ [cs] := by
  simp [addSegment, single, double]

/-- Add encoded segments to a path. -/
def addSegments : List (List Char) → List (List Char) → List (List Char)
  | parts, [] => parts
  | parts, [cs] => addSegment true parts cs
  | parts, cs :: rest => addSegments (addSegment false parts cs) rest

/-- The path of a file begins with no empty segment, unless it has no other. -/
def trimFile (file : Bool) (parts : List (List Char)) : List (List Char) :=
  if file then
    match parts.dropWhile List.isEmpty with
    | [] => [[]]
    | parts => parts
  else parts

/-- The segments that a text after its first slash writes. -/
def readSegments (scheme cs : List Char) : List (List Char) :=
  let cs := if isSpecial scheme then cs.map fun c => if c == '\\' then '/' else c else cs
  addSegments [] ((pieces '/' cs).map (Percent.encode Percent.inPath))

def readPath (scheme cs : List Char) : UrlPath :=
  .segments (trimFile (isFile scheme) (readSegments scheme cs))

/-- The path after a host. -/
def readPathStart (scheme cs : List Char) : UrlPath :=
  match cs with
  | '/' :: rest => readPath scheme rest
  | '\\' :: rest => readPath scheme (if isSpecial scheme then rest else cs)
  | [] => if isSpecial scheme then readPath scheme [] else .segments []
  | _ => readPath scheme cs

/-! ## Authorities -/

/-- User name and password, up to the first colon and after it. -/
def readUserinfo (cs : List Char) : List Char × List Char :=
  match cs.span (· != ':') with
  | (name, ':' :: password) =>
    (Percent.encode Percent.inUserinfo name, Percent.encode Percent.inUserinfo password)
  | (name, _) => (Percent.encode Percent.inUserinfo name, [])

/-- What stands before and after the last `@`. -/
def splitUserinfo (cs : List Char) : Option (List Char × List Char) :=
  (cutAt ['@'] cs.reverse).map fun r => (r.2.reverse, r.1.reverse)

/-- The host and what follows the colon after it, if there is one. Colons between brackets belong to
the host. -/
def splitPort : (inBrackets : Bool) → List Char → List Char × Option (List Char)
  | _, [] => ([], none)
  | inBrackets, c :: cs =>
    if c == ':' && !inBrackets then ([], some cs)
    else
      let inside := if c == '[' then true else if c == ']' then false else inBrackets
      let r := splitPort inside cs
      (c :: r.1, r.2)

/-- A port number, or none, and what follows it. Only a backslash ends a port before its text
ends. -/
def readPort (cs : List Char) : Except UrlFault (Option Nat × List Char) :=
  let (digits, rest) := cs.span (· != '\\')
  if digits.isEmpty then .ok (none, rest)
  else match Decimal.readDigits 65535 .tooLarge 0 digits with
    | .ok n => .ok (some n, rest)
    | .error _ => .error .invalidPort

def readHost (scheme cs : List Char) : Except UrlFault (List Char) :=
  if isSpecial scheme then (if cs.isEmpty then .error .emptyHost else Host.readSpecial cs)
  else Host.readOther cs

/-- The authority of a URL with the path that follows it; `more` tells that a query or a fragment
follows. An `@` with nothing on either side, unless it ends the URL, misses its host. -/
def readAuthority (scheme authority path : List Char) (more : Bool) : Except UrlFault Url := do
  let userinfo? := splitUserinfo authority
  let (userinfo, hostPort) := userinfo?.getD ([], authority)
  if userinfo?.isSome && authority.length = 1 && (more || !path.isEmpty) then .error .emptyHost
  let (username, password) := readUserinfo userinfo
  let (host, port) := splitPort false hostPort
  let host ← readHost scheme host
  if host.isEmpty && port.isSome then .error .emptyHost
  let (port, rest) ← readPort (port.getD [])
  if host.isEmpty && !(username.isEmpty && password.isEmpty) then .error .emptyHost
  return {
    scheme, username, password
    host := some host
    port := if port == defaultPort? scheme then none else port
    path := readPathStart scheme (rest ++ path) }

/-- A slash, or what stands for one in a special URL. -/
def isSlash (scheme : List Char) (c : Char) : Bool := c == '/' || (isSpecial scheme && c == '\\')

/-- A URL after two slashes. -/
def readAfterSlashes (scheme cs : List Char) (more : Bool) : Except UrlFault Url :=
  let (authority, path) := cs.span fun c => !isSlash scheme c
  readAuthority scheme authority path more

/-- The URL of a file after its scheme. A drive is no host, and this machine needs no name. -/
def readFile (scheme cs : List Char) : Except UrlFault Url :=
  let slash := isSlash scheme
  match cs with
  | c :: d :: rest =>
    if slash c && slash d then
      let (host, path) := rest.span fun c => !slash c
      if isDrive host then .ok { scheme, host := some [], path := readPath scheme rest }
      else if host.isEmpty then .ok { scheme, host := some [], path := readPathStart scheme path }
      else do
        let host ← Host.readSpecial host
        return {
          scheme
          host := some (if host == "localhost".toList then [] else host)
          path := readPathStart scheme path }
    else .ok { scheme, host := some [], path := readPathStart scheme cs }
  | cs => .ok { scheme, host := some [], path := readPathStart scheme cs }

/-- A path that begins with two slashes would be taken for an authority. -/
def needsDot (path : UrlPath) : Bool :=
  match path with
  | .segments ([] :: _ :: _) => true
  | _ => false

/-- A URL after its scheme, without query and fragment; `more` tells that one of them follows. -/
def readHierarchy (scheme cs : List Char) (more : Bool) : Except UrlFault Url :=
  if isFile scheme then readFile scheme cs
  else if isWeb scheme then readAfterSlashes scheme (cs.dropWhile (isSlash scheme)) more
  else match cs with
    | '/' :: '/' :: rest => readAfterSlashes scheme rest more
    | '/' :: rest =>
      let path := readPath scheme rest
      .ok { scheme, isDotted := needsDot path, path }
    | _ => .ok { scheme, path := .flat (Percent.encode Percent.controls cs) }

/-! ## Whole URLs -/

/-- What stands before the first character of a kind, and after it. -/
def cutChar (mark : Char) (cs : List Char) : List Char × Option (List Char) :=
  match cs.span (· != mark) with
  | (before, _ :: after) => (before, some after)
  | (before, []) => (before, none)

def isLineBreak (c : Char) : Bool := c == '\t' || c == '\n' || c == '\r'

/-- Without controls and blanks at its ends, tabs and line breaks. -/
def clean (cs : List Char) : List Char :=
  let cs := cs.dropWhile (· ≤ ' ')
  (cs.reverse.dropWhile (· ≤ ' ')).reverse.filter (!isLineBreak ·)

/-- Read a text as a URL. -/
def parse (text : String) : Except UrlFault Url := do
  let some (scheme, rest) := readScheme (clean text.toList) | .error .relative
  let (rest, fragment) := cutChar '#' rest
  let (rest, query) := cutChar '?' rest
  let url ← readHierarchy scheme rest (query.isSome || fragment.isSome)
  let inQuery := if isSpecial scheme then Percent.inSpecialQuery else Percent.inQuery
  return { url with
    query := query.map (Percent.encode inQuery)
    fragment := fragment.map (Percent.encode Percent.inFragment) }

/-- Segments can be added to the path. -/
def isBase (u : Url) : Bool :=
  match u.path with
  | .flat _ => false
  | .segments _ => true

def renderUserinfo (u : Url) : List Char :=
  if u.username.isEmpty && u.password.isEmpty then []
  else u.username ++ (if u.password.isEmpty then [] else ':' :: u.password) ++ ['@']

def renderAuthority (u : Url) : List Char :=
  match u.host with
  | none => []
  | some host =>
    "//".toList ++ renderUserinfo u ++ host ++
      match u.port with
      | none => []
      | some n => ':' :: Nat.toDigits 10 n

def renderPath (u : Url) : List Char :=
  match u.path with
  | .flat text => text
  | .segments parts => parts.flatMap ('/' :: ·)

def renderQuery (u : Url) : List Char :=
  match u.query with
  | none => []
  | some q => '?' :: q

/-- The text of a URL. -/
def render (u : Url) : String :=
  String.ofList (u.scheme ++ ':' :: renderAuthority u ++ (if u.isDotted then "/.".toList else []) ++
    renderPath u ++ renderQuery u ++
    match u.fragment with
    | none => []
    | some f => '#' :: f)

/-! ## Adding segments and queries -/

/-- A path without the empty segment that follows a last slash. -/
def dropEmptyLast (parts : List (List Char)) : List (List Char) :=
  if 2 ≤ parts.length ∧ parts.getLast? = some [] then parts.dropLast else parts

/-- Add one segment. The path of a lone slash has its only segment replaced. -/
def appendSegment (scheme : List Char) (parts : List (List Char)) (segment : String) :
    List (List Char) :=
  if segment = "." ∨ segment = ".." then parts
  else
    let set := if isSpecial scheme then Percent.inSpecialSegment else Percent.inSegment
    let cs := Percent.encode set (segment.toList.filter (!isLineBreak ·))
    let parts := if parts = [[]] then [] else parts
    trimFile (isFile scheme) (addSegment true parts cs)

/-- Add segments to the path, which has to have segments. One empty segment at its end is dropped
first; segments of one or two dots are skipped. -/
def append (u : Url) (segments : List String) : Url :=
  match u.path with
  | .flat _ => u
  | .segments parts =>
    { u with path := .segments (segments.foldl (appendSegment u.scheme) (dropEmptyLast parts)) }

/-- The names and values of a query as a form writes them. -/
def renderForm (pairs : List (String × String)) : List Char :=
  List.intercalate ['&'] (pairs.map fun p =>
    Percent.encodeForm p.1.toList ++ '=' :: Percent.encodeForm p.2.toList)

/-- Add names and values to the query. -/
def addQuery (u : Url) (pairs : List (String × String)) : Url :=
  match pairs, u.query with
  | [], some [] => { u with query := none }
  | [], _ => u
  | _, some (c :: cs) => { u with query := some (c :: cs ++ '&' :: renderForm pairs) }
  | _, _ => { u with query := some (renderForm pairs) }

/-- What a request for this URL asks its host for. -/
def target (u : Url) : String := String.ofList (renderPath u ++ renderQuery u)

end Url

end RegistrySync.Net
