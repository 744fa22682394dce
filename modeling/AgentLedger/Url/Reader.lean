import AgentLedger.Text.Blank
import AgentLedger.Url.Host
/-!
# Reading URLs

A text is read as browsers read it: blanks around it and tabs and line breaks
in it do not count, a backslash counts as a slash where the scheme is one of
the usual ones, and dots in the path are walked.
-/

namespace AgentLedger.Url

/-! ## Parts -/

/-- A scheme in lower case, and what stands behind its colon. -/
def readScheme? : List Char → Option (List Char × List Char)
  | [] => none
  | c :: cs =>
    if !c.isAlpha then none
    else
      match cs.dropWhile (fun c => c.isAlphanum || c == '+' || c == '-' || c == '.') with
      | ':' :: rest =>
        some ((c :: cs.takeWhile (fun c => c.isAlphanum || c == '+' || c == '-' || c == '.')).map Char.toLower, rest)
      | _ => none

def isSlash (special : Bool) (c : Char) : Bool := c == '/' || (special && c == '\\')

def endsAuthority (special : Bool) (c : Char) : Bool := isSlash special c || c == '?' || c == '#'

def credentialEncoded (c : Char) : Bool :=
  pathEncoded c || ['/', ':', ';', '=', '@', '[', '\\', ']', '^', '|'].contains c

def queryEncoded (c : Char) : Bool :=
  isControlOrForeign c || [' ', '"', '#', '<', '>', '\''].contains c

def fragmentEncoded (c : Char) : Bool :=
  isControlOrForeign c || [' ', '"', '<', '>', '\x60'].contains c

/-- The text in front of the last `@`, if there is one, and the text behind it. -/
def cutCredentials (cs : List Char) : Option (List Char) × List Char :=
  match cs.reverse.span (· != '@') with
  | (host, '@' :: front) => (some front.reverse, host.reverse)
  | _ => (none, cs)

/-- A user and a password; a password that is empty does not count. -/
def readCredentials (cs : List Char) : List Char × Option (List Char) :=
  let encode := Text.percentEncoded credentialEncoded
  match Text.cut ':' cs with
  | (user, none) | (user, some []) => (encode user, none)
  | (user, some password) => (encode user, some (encode password))

/-- The text of the host, and the text behind it. Colons between brackets belong to the host. -/
def cutHost (inside : Bool) : List Char → List Char × List Char
  | [] => ([], [])
  | c :: cs =>
    if c = ':' ∧ !inside then ([], c :: cs)
    else
      let (host, rest) := cutHost (if c = '[' then true else if c = ']' then false else inside) cs
      (c :: host, rest)

/-- Digits up to 65535. A backslash ends them where it is no slash. -/
def readPort (n : Nat) : List Char → Except Fault Nat
  | [] => .ok n
  | c :: cs =>
    if c.isDigit then
      let n := 10 * n + Text.digitValue c
      if 65535 < n then .error .invalidPort else readPort n cs
    else if c = '\\' then .ok n
    else .error .invalidPort

/-- What follows the host, a colon and a port or nothing. -/
def readPortPart : List Char → Except Fault (Option Nat)
  | ':' :: cs => if cs.isEmpty then .ok none else (readPort 0 cs).map some
  | _ => .ok none

/-! ## Paths -/

def isSingleDot (cs : List Char) : Bool := ["." , "%2e"].contains (String.ofList (cs.map Char.toLower))

def isDoubleDot (cs : List Char) : Bool :=
  ["..", "%2e%2e", "%2e.", ".%2e"].contains (String.ofList (cs.map Char.toLower))

/-- Walks the segments from `path` on. -/
def walk (path : List (List Char)) : List (List Char) → List (List Char)
  | [] => path
  | [s] =>
    if isDoubleDot s then path.dropLast ++ [[]]
    else if isSingleDot s then path ++ [[]]
    else path ++ [s]
  | s :: rest =>
    if isDoubleDot s then walk path.dropLast rest
    else if isSingleDot s then walk path rest
    else walk (path ++ [s]) rest

/-- The segments of a path that was cut off behind its first slash. -/
def readSegments (cs : List Char) : List (List Char) :=
  (Text.split '/' (cs.map fun c => if c = '\\' then '/' else c)).map (Text.percentEncoded pathEncoded)

structure Tail where
  path : List Char
  query : Option (List Char)
  fragment : Option (List Char)

def readTail (cs : List Char) : Tail :=
  let (front, fragment) := Text.cut '#' cs
  let (path, query) := Text.cut '?' front
  ⟨path, query.map (Text.percentEncoded queryEncoded), fragment.map (Text.percentEncoded fragmentEncoded)⟩

/-! ## URLs -/

/-- Blanks and controls at the ends, and tabs and line breaks anywhere, do not count. -/
def cleaned (s : String) : List Char :=
  let isEnd (c : Char) := c.toNat ≤ 0x20
  (Text.dropTail isEnd (s.toList.dropWhile isEnd)).filter (!isTabOrBreak ·)

/-- A URL from what stands behind the scheme and two slashes. -/
def ofAuthority (secure : Bool) (cs : List Char) : Except Fault Url := do
  let authority := cs.takeWhile (!endsAuthority true ·)
  let rest := cs.dropWhile (!endsAuthority true ·)
  let (credentials, hostAndPort) := cutCredentials authority
  let (user, password) := readCredentials (credentials.getD [])
  let (hostText, portText) := cutHost false hostAndPort
  if hostText.isEmpty then .error .emptyHost
  let host ← Host.read hostText
  let port ← readPortPart portText
  let tail := readTail rest
  let path := match tail.path with
    | c :: cs => if isSlash true c then cs else c :: cs
    | [] => []
  return {
    secure, user, password, host
    port := port.filter (· != defaultPort secure)
    path := walk [] (readSegments path)
    query := tail.query
    fragment := tail.fragment }

/-- Whether what stands behind the two slashes of another scheme is proper. -/
def checkAuthority (cs : List Char) : Except Fault Unit := do
  let authority := cs.takeWhile (!endsAuthority false ·)
  let rest := cs.dropWhile (!endsAuthority false ·)
  let (credentials, hostAndPort) := cutCredentials authority
  let (user, password) := readCredentials (credentials.getD [])
  let (hostText, portText) := cutHost false hostAndPort
  if credentials = some [] ∧ hostAndPort.isEmpty ∧ !rest.isEmpty then .error .emptyHost
  Host.checkOpaque hostText
  if hostText.isEmpty ∧ !portText.isEmpty then .error .emptyHost
  let _ ← readPortPart portText
  if hostText.isEmpty ∧ (!user.isEmpty ∨ password.isSome) then .error .emptyHost

def isDriveLetter : List Char → Bool
  | [c, d] => c.isAlpha && (d == ':' || d == '|')
  | _ => false

/-- Whether the host of a file's URL is proper; it may be missing. -/
def checkFile : List Char → Except Fault Unit
  | c :: d :: cs =>
    if isSlash true c && isSlash true d then
      let host := cs.takeWhile (!endsAuthority true ·)
      if host.isEmpty || isDriveLetter host then .ok () else (Host.read host).map fun _ => ()
    else .ok ()
  | _ => .ok ()

/-- Reads a URL; one of a scheme other than `http` and `https` is none of the web. -/
def read (s : String) : Except Fault (Option Url) :=
  match readScheme? (cleaned s) with
  | none => .error .relative
  | some (scheme, rest) =>
    match String.ofList scheme with
    | "http" => (ofAuthority false (rest.dropWhile (isSlash true))).map some
    | "https" => (ofAuthority true (rest.dropWhile (isSlash true))).map some
    | "ws" | "wss" | "ftp" => (ofAuthority false (rest.dropWhile (isSlash true))).map fun _ => none
    | "file" => (checkFile rest).map fun _ => none
    | _ =>
      match rest with
      | '/' :: '/' :: rest => (checkAuthority rest).map fun _ => none
      | _ => .ok none

/-! ## Relative URLs -/

/-- The path of a text, walked from `base` on. -/
def withTail (u : Url) (base : List (List Char)) (cs : List Char) : Url :=
  let tail := readTail cs
  { u with path := walk base (readSegments tail.path), query := tail.query, fragment := tail.fragment }

/-- A text seen from `u` on, if it is a URL of the web. -/
def resolveRelative (u : Url) : List Char → Except Fault Url
  | [] => .ok { u with fragment := none }
  | '#' :: cs => .ok { u with fragment := some (Text.percentEncoded fragmentEncoded cs) }
  | '?' :: cs =>
    let tail := readTail ('?' :: cs)
    .ok { u with query := tail.query, fragment := tail.fragment }
  | c :: cs =>
    if isSlash true c then
      match c, cs with
      | '/', '/' :: cs => ofAuthority u.secure cs
      | _, d :: rest =>
        if isSlash true d then ofAuthority u.secure (rest.dropWhile (isSlash true)) else .ok (u.withTail [] cs)
      | _, [] => .ok (u.withTail [] cs)
    else .ok (u.withTail u.path.dropLast (c :: cs))

/-- A text that names a place from `u` on: a URL, or a part of one. -/
def resolve (u : Url) (s : String) : Except Fault (Option Url) :=
  let cs := cleaned s
  match readScheme? cs with
  | none => (resolveRelative u cs).map some
  | some (scheme, rest) =>
    if scheme = u.scheme ∧ (rest.takeWhile (isSlash true)).length < 2 then (resolveRelative u rest).map some
    else read s

end AgentLedger.Url
