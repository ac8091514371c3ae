import Reconcile.Json.Parser
import Reconcile.Yaml.Node
import Reconcile.Yaml.Plain
import Reconcile.Yaml.Token.Lexer

/-!
# Values of YAML documents

`Yaml.values?` reads a stream of documents as JSON values. Keys are the text of their scalars and
of entries with one key the last is kept; tags of the application are refused, and so are aliases
that multiply beyond measure, documents that contain themselves, and nesting beyond the depth that
JSON text may have.
-/

namespace Reconcile.Yaml

/-- The tag of a standard type. -/
def standardTag (name : String) : String := "tag:yaml.org,2002:" ++ name

namespace Node

/-- Whether a tag belongs to the application. -/
def isOwnTag : Option String → Bool
  | some tag => tag.toList.head? == some '!'
  | none => false

/-- The value of an integer, if the text is one in range. -/
def integerValue? (text : String) : Option Json :=
  match Plain.integer text with
  | .exact z => some (.number (.integer z))
  | _ => none

/-- The value of a number in the format of fractions; the infinities and not-a-number are null. -/
def floatValue? (text : String) : Option Json :=
  match Plain.float text with
  | .finite x => some (.number (.float x))
  | .notFinite => some .null
  | .notOne => none

/-- The value of a plain scalar without a tag. -/
def plainValue? (text : String) : Option Json :=
  if text == "" || Plain.isNull text then some .null
  else
    match Plain.bool? text with
    | some b => some (.bool b)
    | none =>
      match Plain.integer text with
      | .exact z => some (.number (.integer z))
      | .outOfRange => none
      | .notOne =>
        if Plain.isPadded text.toList then some (.string text)
        else some ((floatValue? text).getD (.string text))

/-- The value of a scalar. A standard tag decides how its text is read. -/
def scalarValue? (tag : Option String) (style : ScalarStyle) (text : String) : Option Json :=
  match tag with
  | none => if style == .plain then plainValue? text else some (.string text)
  | some tag =>
    if isOwnTag (some tag) then none
    else if tag == standardTag "bool" then (Plain.bool? text).map .bool
    else if tag == standardTag "int" then integerValue? text
    else if tag == standardTag "float" then floatValue? text
    else if tag == standardTag "null" then (if Plain.isNull text then some .null else none)
    else some (.string text)

end Node

namespace Document

/-- A step of reading a document, which counts the aliases followed. -/
abbrev Read := StateT Nat Option

/-- Of the nodes that carry an anchor number, the last one in the document. -/
def anchor? (d : Document) (number : Nat) : Option Node :=
  let found := d.anchored.filter (·.anchor == number)
  let last := found.foldl (fun best a => match best with
    | none => some a
    | some b => if b.place < a.place then some a else some b) (none : Option Anchored)
  last.map (·.node)

/-- The node itself, or the one that an alias stands for. At most a hundred aliases are followed
for every part of the document. -/
def resolve (d : Document) (node : Node) : Read Node := do
  match node with
  | .alias number =>
    let jumps := (← get) + 1
    set jumps
    if jumps > d.size * 100 then failure
    else
      match d.anchor? number with
      | some node => return node
      | none => failure
  | node => return node

/-- The text of a node that is a scalar. -/
def text (d : Document) (node : Node) : Read String := do
  match ← d.resolve node with
  | .scalar _ _ text => return text
  | _ => failure

/-- The value of a node, with room for so many levels of nesting. -/
def value (d : Document) : Nat → Node → Read Json
  | room, node => do
    match ← d.resolve node, room with
    | .scalar tag style text, _ =>
      match Node.scalarValue? tag style text with
      | some v => return v
      | none => failure
    | .sequence tag items, room + 1 =>
      if Node.isOwnTag tag then failure
      else return .array (← items.mapM (value d room))
    | .mapping tag entries, room + 1 =>
      if Node.isOwnTag tag then failure
      else
        let members ← entries.mapM fun entry => do
          let key ← d.text entry.1
          let v ← value d room entry.2
          return (key, v)
        return .ofMembers members
    | _, _ => failure

/-- The value of a document. -/
def toJson? (d : Document) : Option Json :=
  match d.root with
  | none => some .null
  | some root => (value d Json.maxDepth root |>.run 0).map (·.1)

/-- The documents of a text. -/
def ofText? (text : String) : Option (List Document) := do ofTokens? (← Token.ofText? text)

end Document

/-- The values of the documents of a text. -/
def values? (text : String) : Option (List Json) := do (← Document.ofText? text).mapM Document.toJson?

end Reconcile.Yaml
