/-!
# Addresses of remote services

A service address is written `scheme://host[:port]/path?query#fragment`; its normal form, the one
that messages show, has the scheme and host in lower case, no port when it is the scheme's
default, a path that starts with `/` and has its `.` and `..` segments resolved, and the
characters that may not stand in a path or query percent-encoded as UTF-8 bytes. The peer that
stands in for every service is written `<server>`, and its address keeps that spelling.
-/

namespace KnowledgeDesk.Remote

def hexUpper (n : Nat) : Char := if n < 10 then Char.ofNat (48 + n) else Char.ofNat (55 + n)

def percentByte (b : UInt8) : List Char := ['%', hexUpper (b.toNat / 16), hexUpper (b.toNat % 16)]

/-- A character percent-encoded when `keep` refuses it or it is not printable ASCII. -/
def encodeChar (keep : Char → Bool) (c : Char) : List Char :=
  if c.toNat > 0x20 && c.toNat < 0x7F && keep c then [c]
  else (String.singleton c).toUTF8.toList.flatMap percentByte

def pathKeeps (c : Char) : Bool := !"\"#<>?`{}".toList.contains c

def queryKeeps (c : Char) : Bool := !"\"#<>'".toList.contains c

/-- Resolve `.` and `..` segments, last segment first in `done`. -/
def resolveSegments : List String → List String → List String
  | [], done => done.reverse
  | s :: rest, done =>
    if s = "." || s = "%2e" || s = "%2E" then
      resolveSegments rest done ++ (if rest.isEmpty then [""] else [])
    else if s = ".." || s = ".%2e" || s = "%2e." || s = "%2e%2e" then
      resolveSegments rest done.tail ++ (if rest.isEmpty then [""] else [])
    else resolveSegments rest (s :: done)

/-- The normal form of a path: starts with `/`, dot segments resolved, characters encoded. -/
def normalPath (path : String) : String :=
  let raw := path.toList.map (fun c => if c = '\\' then '/' else c)
  let segs := (String.ofList raw).splitOn "/"
  let segs := match segs with
    | "" :: rest => rest
    | other => other
  let resolved := resolveSegments segs []
  let encoded := resolved.map fun s => String.ofList (s.toList.flatMap (encodeChar pathKeeps))
  "/" ++ "/".intercalate encoded

def defaultPort : String → Option Nat
  | "http" => some 80
  | "https" => some 443
  | _ => none

/-- The normal form of an authority: lower-case host, the port as a number and left out when
empty or the scheme's default. -/
def normalAuthority (scheme authority : String) : String :=
  match authority.splitOn ":" with
  | [host, port] =>
    if port.isEmpty then host.toLower
    else if port.all Char.isDigit then
      if defaultPort scheme = some (port.toNat?.getD 0) then host.toLower
      else host.toLower ++ ":" ++ toString (port.toNat?.getD 0)
    else authority.toLower
  | _ => authority.toLower

def cutAt (stops : List Char) (s : String) : String × String :=
  let cs := s.toList
  let before := cs.takeWhile (!stops.contains ·)
  (String.ofList before, String.ofList (cs.drop before.length))

def normalTail (tail : String) : String :=
  let (path, rest) := cutAt ['?', '#'] tail
  let (query, fragment) := cutAt ['#'] rest
  let query := String.ofList (query.toList.flatMap fun c =>
    if c = '?' then ['?'] else encodeChar queryKeeps c)
  normalPath path ++ query ++ fragment

/-- The normal form of a service address. -/
def normalAddress (url : String) : String :=
  let server := "<server>"
  if url.startsWith server then server ++ normalTail (url.drop server.length).toString
  else
    match url.splitOn "://" with
    | scheme :: rest =>
      let afterScheme := "://".intercalate rest
      let (authority, tail) := cutAt ['/', '\\', '?', '#'] afterScheme
      let scheme := scheme.toLower
      scheme ++ "://" ++ normalAuthority scheme authority ++ normalTail tail
    | [] => url

/-- The address of a path below a base address: one slash between them. -/
def endpoint (base path : String) : String :=
  String.ofList (base.toList.reverse.dropWhile (· = '/')).reverse ++ "/" ++ path

end KnowledgeDesk.Remote
