import ArchAtlas.Text.Blank
import ArchAtlas.Text.Slice

/-!
Type expressions of Go-like languages as source text: `*store.Item`, `map[string]*store.Item`,
`chan<- Job`. `TypeName.element` peels one layer of channel, pointer, array and map notation off;
`TypeName.bare` and `TypeName.qualifier?` are the name and the package of what remains.
-/

namespace ArchAtlas.TypeName

/-- The ways to write a channel type, longer ones first. -/
def channelMarks : List (List Char) :=
  ["<-chan".toList, "chan<-".toList, "chan".toList]

/-- The text after a channel mark and the blanks that must follow it. -/
def afterChannel? (mark s : List Char) : Option (List Char) :=
  match Text.after? mark s with
  | some (c :: rest) => if Text.isBlank c then some (Text.trimStart (c :: rest)) else none
  | _ => none

/-- Takes a channel mark off. -/
def dropChannel (s : List Char) : List Char :=
  (channelMarks.findSome? (afterChannel? · s)).getD s

/-- Takes leading stars off. -/
def dropPointers (s : List Char) : List Char :=
  s.dropWhile fun c => c = '*'

/-- Takes a slice or array mark off: brackets with nothing but digits between them. -/
def dropArray (s : List Char) : List Char :=
  match s with
  | '[' :: rest =>
    match Text.splitFirst? ']' rest with
    | some (size, element) => if size.all Char.isDigit then element else s
    | none => s
  | _ => s

/-- Takes a map mark and the key type off. -/
def dropMap (s : List Char) : List Char :=
  match Text.after? "map[".toList s with
  | some rest =>
    match Text.splitFirst? ']' rest with
    | some (_, element) => Text.trim element
    | none => s
  | none => s

/-- The possibly qualified type that a type expression is built on. -/
def element (s : List Char) : List Char :=
  dropPointers (dropMap (dropArray (dropPointers (dropChannel (Text.trim s)))))

/-- The bare name: what follows the last point of the element type. -/
def bare (type : String) : String :=
  String.ofList (Text.afterLast '.' (element type.toList))

def isIdentifierStart (c : Char) : Bool :=
  c.isAlpha || c = '_'

def isIdentifierRest (c : Char) : Bool :=
  c.isAlphanum || c = '_'

/-- Letters, digits and underscores of ASCII, not starting with a digit. -/
def isIdentifier (s : List Char) : Bool :=
  match s with
  | [] => false
  | c :: rest => isIdentifierStart c && rest.all isIdentifierRest

/-- The package qualifier: what stands before the first point of the element type, if that is an
identifier. -/
def qualifier? (type : String) : Option String :=
  match Text.splitFirst? '.' (element type.toList) with
  | some (qualifier, _) => if isIdentifier qualifier then some (String.ofList qualifier) else none
  | none => none

end ArchAtlas.TypeName
