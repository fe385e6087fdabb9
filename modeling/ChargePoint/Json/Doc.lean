import ChargePoint.Json.Basic

/-!
# Documents

A document is what a reader of text finds, in the order of the text: the names of an object are as
often there as they are written, and where the text stops making sense the document says so at that
place.  Whoever walks a document from left to right therefore meets a fault of the notation exactly
where it stands, after everything that comes before it and before everything that would come after.

A part of the text counts only when someone asks for it.  Where a document holds an array or an
object and a string is wanted, the content of the array is never looked at, and a fault inside it
never shows.

## Main definitions

* `TextFault`: the two ways in which text fails to be JSON.
* `Doc`, `Doc.Items`, `Doc.Members`: documents, and the contents of arrays and objects.
* `Doc.toJson`: the value of a document, or its first fault.
-/

namespace ChargePoint

/-- **Why text is not JSON**: a character cannot stand where it does, or the text ends too early. -/
inductive TextFault where
  | malformed
  | truncated
  deriving DecidableEq, Repr

/-- **How a value begins** that cannot be read to its end: with nothing that begins a value, with a
quote, with the `n` of `null`, or with another letter, digit or sign. -/
inductive Opening where
  | nothing
  | quote
  | letterN
  | other
  deriving DecidableEq, Repr

mutual

/-- **A document**: a value as it stands in text, possibly broken off. -/
inductive Doc where
  | null
  | bool (b : Bool)
  | number (n : Number)
  | string (s : String)
  | array (items : Doc.Items)
  | object (members : Doc.Members)
  | broken (opening : Opening) (fault : TextFault)

/-- **The content of an array**: items, each but the first after a comma, until the bracket or a
fault. -/
inductive Doc.Items where
  | close
  | cut (fault : TextFault)
  | item (head : Doc) (rest : Doc.Items)

/-- **The content of an object**: members, each but the first after a comma, until the bracket, a
fault, or something that stands in the place of a name and is none. -/
inductive Doc.Members where
  | close
  | cut (fault : TextFault)
  | stray (key : Doc)
  | member (name : String) (value : Doc) (rest : Doc.Members)

end

namespace Doc

/-- The fault met where a name is wanted and `key` stands. -/
def keyFault : Doc → TextFault
  | broken .nothing fault => fault
  | broken .quote fault => fault
  | _ => .malformed

mutual

/-- The tree of a document in the order of the text, or the first fault of the text. -/
def toTree : Doc → Except TextFault Json
  | null => .ok .null
  | bool b => .ok (.bool b)
  | number n => .ok (.number n)
  | string s => .ok (.string s)
  | array items => return .array (← toTrees items)
  | object members => return .object (← toEntries members)
  | broken _ fault => .error fault

/-- The trees of the items of an array. -/
def toTrees : Items → Except TextFault (List Json)
  | .close => .ok []
  | .cut fault => .error fault
  | .item head rest => return (← toTree head) :: (← toTrees rest)

/-- The members of an object, in the order of the text. -/
def toEntries : Members → Except TextFault (List (String × Json))
  | .close => .ok []
  | .cut fault => .error fault
  | .stray key => .error key.keyFault
  | .member name value rest => return (name, ← toTree value) :: (← toEntries rest)

end

/-- **The value of a document**: of members with one name the last counts. -/
def toJson (doc : Doc) : Except TextFault Json :=
  doc.toTree.map Json.canonical

end Doc

end ChargePoint
