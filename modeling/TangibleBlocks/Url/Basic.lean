import TangibleBlocks.Url.Host

/-!
Addresses: a scheme, perhaps a host, a path, and perhaps a query and a fragment.
All parts are kept as they are written, with their escapes.
-/

namespace TangibleBlocks

/-- What stands behind the two slashes. -/
structure Url.Authority where
  credentials : Option String
  host : String
  port : Option Nat
  deriving DecidableEq

structure Url where
  scheme : String
  authority : Option Url.Authority
  path : String
  query : Option String
  fragment : Option String
  deriving DecidableEq

namespace Url

def Authority.text (a : Authority) : String :=
  "//" ++ (a.credentials.map (· ++ "@")).getD "" ++ a.host ++
    (a.port.map fun n => s!":{n}").getD ""

/-- The whole address. A path that begins with two slashes must not be taken for a host. -/
def toText (u : Url) : String :=
  let guard := if u.authority.isNone && u.path.startsWith "//" then "/." else ""
  u.scheme ++ ":" ++ (u.authority.map Authority.text).getD "" ++ guard ++ u.path ++
    (u.query.map ("?" ++ ·)).getD "" ++ (u.fragment.map ("#" ++ ·)).getD ""

/-- The address of nothing but a scheme and, perhaps, a query. -/
def ofScheme (scheme : String) (query : Option String) : Url :=
  ⟨scheme, some ⟨none, "", none⟩, "", query, none⟩

/-- The keys and values of the query, in order. -/
def queryPairs (u : Url) : List (String × String) :=
  ((Text.pieces '&' (u.query.getD "").toList).filter (· ≠ [])).map fun item =>
    match Text.splitAt? '=' item with
    | none => (decodeForm item, "")
    | some (key, value) => (decodeForm key, decodeForm value)

def hasKey (u : Url) (key : String) : Bool :=
  u.queryPairs.any fun p => p.1 == key

/-- The path of a file: the path with its escapes resolved, if that is a text. -/
def filePath (u : Url) : String :=
  (decode? u.path).getD u.path

end Url

end TangibleBlocks
