import Std.Data.TreeMap

/-!
Contract: what an upgrade request tells the authentication.

Owns:
- headers, whose names are compared without regard to ASCII case;
- query fields, whose names are compared exactly;
- the last writer of a name wins in both.

Does not own: the request line, or the decoding of a query string.
-/

namespace SocketGateway

/-- Folds ASCII capital letters to small ones and keeps every other character. -/
def foldCase (name : String) : String :=
  String.ofList (name.toList.map Char.toLower)

/-- A handshake request; header names are kept folded. -/
structure Handshake where
  headers : Std.TreeMap String String := ∅
  fields : Std.TreeMap String String := ∅

namespace Handshake

def withHeader (request : Handshake) (name value : String) : Handshake :=
  { request with headers := request.headers.insert (foldCase name) value }

def withQuery (request : Handshake) (name value : String) : Handshake :=
  { request with fields := request.fields.insert name value }

/-- The value of the header with that name, in any ASCII case. -/
def header? (request : Handshake) (name : String) : Option String :=
  request.headers[foldCase name]?

/-- The value of the query field with exactly that name. -/
def query? (request : Handshake) (name : String) : Option String :=
  request.fields[name]?

/-- The request with these headers and query fields, given in turn. -/
def ofLists (headers query : List (String × String)) : Handshake :=
  query.foldl (fun request field => request.withQuery field.1 field.2)
    (headers.foldl (fun request field => request.withHeader field.1 field.2) {})

theorem header?_withHeader (request : Handshake) (name value asked : String) :
    (request.withHeader name value).header? asked =
      if foldCase name = foldCase asked then some value else request.header? asked := by
  simp only [header?, withHeader, Std.TreeMap.getElem?_insert, Std.LawfulEqCmp.compare_eq_iff_eq]

theorem query?_withQuery (request : Handshake) (name value asked : String) :
    (request.withQuery name value).query? asked =
      if name = asked then some value else request.query? asked := by
  simp only [query?, withQuery, Std.TreeMap.getElem?_insert, Std.LawfulEqCmp.compare_eq_iff_eq]

theorem header?_withQuery (request : Handshake) (name value asked : String) :
    (request.withQuery name value).header? asked = request.header? asked := rfl

theorem query?_withHeader (request : Handshake) (name value asked : String) :
    (request.withHeader name value).query? asked = request.query? asked := rfl

end Handshake

end SocketGateway
