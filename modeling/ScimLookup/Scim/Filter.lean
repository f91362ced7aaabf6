/-!
# Filters

A filter restricts a list of resources: it compares an attribute with a value, or it combines other
filters. The written form is one line: a comparison is the attribute, the operator and the value in
quotation marks, each group stands in parentheses, and a negation is the word `not` before what it
denies. Values are written as they are.
-/

set_option autoImplicit false

namespace ScimLookup

/-- How an attribute is compared with a value. -/
inductive Comparator where
  | equal
  | equalIgnoringCase
  | notEqual
  | contains
  | startsWith
  | endsWith
  | greaterThan
deriving DecidableEq, Repr

/-- The written form of an operator. -/
def Comparator.text : Comparator → String
  | .equal => "eq"
  | .equalIgnoringCase => "eq_ci"
  | .notEqual => "ne"
  | .contains => "co"
  | .startsWith => "sw"
  | .endsWith => "ew"
  | .greaterThan => "gt"

/-- A filter. -/
inductive Filter where
  /-- No filter at all. -/
  | absent
  /-- An attribute compared with a value. -/
  | compare (path : String) (op : Comparator) (value : String)
  /-- Every one of the filters holds. -/
  | all (filters : List Filter)
  /-- Some one of the filters holds. -/
  | any (filters : List Filter)
  /-- The filter does not hold. -/
  | deny (filter : Filter)
deriving Repr, Inhabited

namespace Filter

/-- The attribute is equal to the value. -/
def equals (path value : String) : Filter :=
  .compare path .equal value

/-- The attribute that every resource has with a date after the epoch. -/
def lastModified : String := "meta.lastModified"

/-- The start of the epoch. -/
def epoch : String := "1970-01-01T00:00:00Z"

/-- A filter that every resource passes, for servers that want a filter. -/
def everything : Filter :=
  .compare lastModified .greaterThan epoch

/-- No filter at all. -/
def isAbsent : Filter → Bool
  | .absent => true
  | _ => false

/-- What separates the members of a conjunction. -/
def andWord : List Char := [' ', 'a', 'n', 'd', ' ']

/-- What separates the members of a disjunction. -/
def orWord : List Char := [' ', 'o', 'r', ' ']

/-- What opens a negation. -/
def notWord : List Char := ['n', 'o', 't', ' ']

mutual

/-- The written form. -/
def written : Filter → List Char
  | .absent => []
  | .compare path op value =>
    path.toList ++ ' ' :: (op.text.toList ++ ' ' :: '\x22' :: (value.toList ++ ['\x22']))
  | .all filters => '(' :: (writtenGroup andWord filters ++ [')'])
  | .any filters => '(' :: (writtenGroup orWord filters ++ [')'])
  | .deny filter => notWord ++ filter.written

/-- The members of a group, with `separator` between them. -/
def writtenGroup (separator : List Char) : List Filter → List Char
  | [] => []
  | [f] => f.written
  | f :: fs => f.written ++ (separator ++ writtenGroup separator fs)

end

/-- The text of a filter. -/
def text (f : Filter) : String :=
  .ofList f.written

end Filter

end ScimLookup
