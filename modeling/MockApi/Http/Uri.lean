import MockApi.Text.Percent
import MockApi.Text.Split
import MockApi.Text.Utf8

/-!
Request targets: their path and query, and what the query holds.
-/
namespace MockApi

structure Uri where
  path : String
  query : Option String
  deriving DecidableEq, Repr

namespace Uri

def isPathChar (c : Char) : Bool :=
  let n := c.toNat
  n == 0x21 || n == 0x22 || (0x24 ≤ n && n ≤ 0x3B) || n == 0x3D || (0x40 ≤ n && n ≤ 0x5F) ||
    (0x61 ≤ n && n ≤ 0x7E) || 0x7F ≤ n

def isQueryChar (c : Char) : Bool :=
  let n := c.toNat
  n == 0x21 || (0x24 ≤ n && n ≤ 0x3B) || n == 0x3D || 0x3F ≤ n

def isAuthorityChar (c : Char) : Bool :=
  c.isAlphanum || "-._~:@!$&'()*+,;=[]".toList.contains c

/-- Path and query up to a number sign; behind that anything is dropped. -/
def pathAndQuery? (target : List Char) : Option Uri :=
  let path := target.takeWhile fun c => c ≠ '?' && c ≠ '#'
  if ¬ path.all isPathChar then none
  else
    let shown := if path = [] then "/" else String.ofList path
    match target.drop path.length with
    | '?' :: rest =>
        let query := rest.takeWhile (· ≠ '#')
        if query.all isQueryChar then some ⟨shown, some (String.ofList query)⟩ else none
    | _ => some ⟨shown, none⟩

/-- A target behind its scheme: a host, then path and query. -/
def behindScheme? (target : List Char) : Option Uri :=
  let host := target.takeWhile fun c => c ≠ '/' && c ≠ '?' && c ≠ '#'
  if host = [] ∨ ¬ host.all isAuthorityChar then none
  else pathAndQuery? (target.drop host.length)

/-- A target begins with a slash or a scheme, or it is a star or a host alone, which have no path
that could be served. -/
def parseChars? (target : List Char) : Option Uri :=
  let lower := target.map Char.toLower
  match target with
  | [] => none
  | '/' :: _ => pathAndQuery? target
  | ['*'] => some ⟨"*", none⟩
  | _ =>
      if lower.take 7 = "http://".toList then behindScheme? (target.drop 7)
      else if lower.take 8 = "https://".toList then behindScheme? (target.drop 8)
      else if target.all isAuthorityChar then some ⟨"", none⟩
      else none

def parse? (target : String) : Option Uri := parseChars? target.toList

/-- Text of a query: a plus sign is a space, and malformed bytes are marked. -/
def decodeText (text : List Char) : String :=
  String.ofList (Text.lossyUtf8 (Text.percentBytes (text.map fun c => if c = '+' then ' ' else c)))

def queryEntries (uri : Uri) : List (String × String) :=
  let parts := (Text.splitAt '&' (uri.query.getD "").toList).filter (fun part => !part.isEmpty)
  parts.map fun part =>
    let name := part.takeWhile (· ≠ '=')
    (decodeText name, decodeText (part.drop (name.length + 1)))

def queryValue? (uri : Uri) (name : String) : Option String :=
  (uri.queryEntries.reverse.find? fun entry => entry.1 = name).map (·.2)

end Uri
end MockApi
