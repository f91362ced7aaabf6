import ScimLookup.Scim.Error
import ScimLookup.Scim.Filter
import ScimLookup.Scim.Resource
import ScimLookup.Text.Blank
import ScimLookup.Url.Form

/-!
# List requests

A list of resources is asked for either by a query on the collection or by a search, whose criteria
are a JSON body. Both carry the same three things, each of which may be left out: how many resources
are wanted, the place where an earlier page ended, and the filter. A search must have a filter.
-/

set_option autoImplicit false

namespace ScimLookup

open Json

/-- How a list is asked for. -/
inductive ListMethod where
  | get
  | post
deriving DecidableEq, Repr

namespace ListMethod

/-- The name of the method. -/
def text : ListMethod → String
  | .get => "GET"
  | .post => "POST"

/-- The method used where none is chosen. -/
def standard : ListMethod := .get

/-- The method for a yes or no to posting. -/
def ofPost (post : Bool) : ListMethod :=
  if post then .post else .get

/-- The method that a text names, in any case and with white space around it. -/
def ofText? (s : String) : Option ListMethod :=
  let word := Text.upper (Text.trim s)
  if word = "GET" then some .get
  else if word = "POST" then some .post
  else none

/-- The complaint about a text that names no method. -/
def complaint (s : String) : String :=
  "unsupported list method '" ++ Text.upper (Text.trim s) ++ "'"

/-- The JSON form is the name. -/
def reader : Reader ListMethod :=
  Json.choice [("GET", .get), ("POST", .post)]

end ListMethod

/-- Where in a list to start and how many resources to give. -/
structure Page where
  cursor : Option String
  count : Option UInt32
deriving DecidableEq, Repr

/-- All of the list. -/
def Page.unbounded : Page := ⟨none, none⟩

/-- The criteria of a search. -/
structure SearchRequest where
  schemas : List String
  filter : Option String
  count : Option UInt32
  cursor : Option String
deriving DecidableEq, Repr

namespace SearchRequest

/-- The schema of search criteria. -/
def schema : String := "urn:ietf:params:scim:api:messages:2.0:SearchRequest"

/-- The fields of search criteria. -/
def record : Record SearchRequest :=
  SearchRequest.mk <$> .required "schemas" (Reader.list Reader.text)
    <*> .nullable "filter" Reader.text
    <*> .nullable "count" Reader.word32
    <*> .nullable "cursor" Reader.text

/-- The JSON form. -/
def toJson (r : SearchRequest) : Value :=
  .object ([("schemas", textArray r.schemas)] ++ optionalMember "filter" r.filter ++
    optionalNumber "count" (r.count.map fun n => n.toNat) ++ optionalMember "cursor" r.cursor)

end SearchRequest

/-- A collection of resources of one kind. -/
inductive Collection where
  | users
  | groups
deriving DecidableEq, Repr

/-- The path of a collection below the base of the server. -/
def Collection.path : Collection → String
  | .users => "/Users"
  | .groups => "/Groups"

/-- A list request: the pairs of a query, or the criteria of a search. -/
inductive ListRequest where
  | query (pairs : List (String × String))
  | search (criteria : SearchRequest)
deriving DecidableEq, Repr

namespace ListRequest

/-- The pairs of a query. -/
def pairs (filter : Filter) (page : Page) : List (String × String) :=
  (page.count.map fun n => ("count", Decimal.text n.toNat)).toList ++
    (page.cursor.map fun c => ("cursor", c)).toList ++
    (if filter.isAbsent then [] else [("filter", filter.text)])

/-- The criteria of a search, which must have a filter. -/
def criteria? (filter : Filter) (page : Page) : Option SearchRequest :=
  if filter.isAbsent then none
  else some ⟨[SearchRequest.schema], some filter.text, page.count, page.cursor⟩

/-- The request for a list; `none` for a search without a filter. -/
def build? (method : ListMethod) (filter : Filter) (page : Page) : Option ListRequest :=
  match method with
  | .get => some (.query (pairs filter page))
  | .post => (criteria? filter page).map .search

/-- The request for a list, or the error of a search without a filter. -/
def build (method : ListMethod) (filter : Filter) (page : Page) : Except RequestError ListRequest :=
  match build? method filter page with
  | some request => .ok request
  | none => .error .noFilter

/-- The method of the request. -/
def method : ListRequest → ListMethod
  | .query _ => .get
  | .search _ => .post

/-- The path of the request, below a path that names the collection. -/
def path (collection : String) : ListRequest → String
  | .query _ => collection ++ "/"
  | .search _ => collection ++ "/.search"

/-- What the request carries: the text of the query or the text of the body. -/
def payload : ListRequest → String
  | .query pairs => Form.render pairs
  | .search criteria => criteria.toJson.compact

end ListRequest

end ScimLookup
