import ArchAtlas.Yaml.Token

/-!
YAML documents as trees. An alias refers to an anchored node by the number of its anchor; it may refer
to a node that it is part of, so it is looked up only when it is asked for.
-/

namespace ArchAtlas.Yaml

/-- A node of a document, with the number of its anchor. -/
inductive Node where
  | scalar (anchor : Option Nat) (tag : Option String) (style : Style) (text : String)
  | seq (anchor : Option Nat) (items : List Node)
  | map (anchor : Option Nat) (entries : List (Node × Node))
  | reference (anchor : Nat)
  deriving Repr, Inhabited

namespace Node

/-- What stands where nothing is written. -/
def empty : Node := .scalar none none .plain ""

mutual

/-- The anchored nodes with the numbers of their anchors, in the order in which they start. -/
def anchored : Node → List (Nat × Node)
  | .scalar anchor tag style text => label anchor (.scalar anchor tag style text)
  | .seq anchor items => label anchor (.seq anchor items) ++ anchoredItems items
  | .map anchor entries => label anchor (.map anchor entries) ++ anchoredEntries entries
  | .reference _ => []
where
  label (anchor : Option Nat) (node : Node) : List (Nat × Node) :=
    anchor.toList.map fun n => (n, node)

def anchoredItems : List Node → List (Nat × Node)
  | [] => []
  | node :: items => node.anchored ++ anchoredItems items

def anchoredEntries : List (Node × Node) → List (Nat × Node)
  | [] => []
  | (key, value) :: entries => key.anchored ++ value.anchored ++ anchoredEntries entries

end

end Node

/-- Tokens still to read, and the names of anchors met so far with their numbers, the latest first. -/
structure Reading where
  tokens : List Token
  names : List (List Char × Nat)
  deriving Repr

/-- Prefixes of tags by their handles. -/
abbrev TagPrefixes := List (List Char × List Char)

namespace Reading

/-- The prefixes that every document has. -/
def standardTags : TagPrefixes :=
  [(['!'], ['!']), (['!', '!'], "tag:yaml.org,2002:".toList)]

/-- Passes over the next token. -/
def skip (r : Reading) : Reading := { r with tokens := r.tokens.tail }

/-- Gives a name the number of the names in use. A name used again gets a new number, and the next new
name the same one. -/
def addName (r : Reading) (name : List Char) : Nat × Reading :=
  let number := (r.names.map Prod.fst).eraseDups.length
  (number, { r with names := (name, number) :: r.names })

/-- A tag in full. -/
def resolveTag? (tags : TagPrefixes) (handle ending : List Char) : Option String :=
  if handle.isEmpty then some (String.ofList ending)
  else (tags.lookup handle).map fun start => String.ofList (start ++ ending)

/-- What may stand before a node: an anchor and a tag, in either order. -/
def properties? (tags : TagPrefixes) (r : Reading) :
    Option (Option Nat × Option String × Reading) :=
  match r.tokens with
  | .anchor name :: .tag handle ending :: tokens => do
    let tag ← resolveTag? tags handle ending
    let (number, r) := { r with tokens }.addName name
    return (some number, some tag, r)
  | .tag handle ending :: .anchor name :: tokens => do
    let tag ← resolveTag? tags handle ending
    let (number, r) := { r with tokens }.addName name
    return (some number, some tag, r)
  | .anchor name :: tokens =>
    let (number, r) := { r with tokens }.addName name
    some (some number, none, r)
  | .tag handle ending :: tokens =>
    (resolveTag? tags handle ending).map fun tag => (none, some tag, { r with tokens })
  | _ => some (none, none, r)

mutual

/-- A node. Within brackets there are no blocks; as the value of a key, a sequence may stand at the
column of the key. -/
def node? (tags : TagPrefixes) :
    (fuel : Nat) → (block undented : Bool) → Reading → Option (Node × Reading)
  | 0, _, _, _ => none
  | fuel + 1, block, undented, r =>
    match r.tokens with
    | .reference name :: tokens => (r.names.lookup name).map fun n => (.reference n, { r with tokens })
    | _ =>
      match properties? tags r with
      | none => none
      | some (anchor, tag, r) =>
        let empty : Option (Node × Reading) :=
          if anchor.isSome || tag.isSome then some (.scalar anchor tag .plain "", r) else none
        match r.tokens with
        | .item :: _ =>
          if undented then
            (undentedItems? tags fuel r).map fun (items, r) => (.seq anchor items, r)
          else empty
        | .scalar style text :: tokens =>
          let tag := if tag = some "!" then none else tag
          some (.scalar anchor tag style (String.ofList text), { r with tokens })
        | .sequenceStart :: tokens =>
          (flowItems? tags fuel true { r with tokens }).map fun (items, r) => (.seq anchor items, r)
        | .mappingStart :: tokens =>
          (flowEntries? tags fuel true { r with tokens }).map fun (entries, r) =>
            (.map anchor entries, r)
        | .blockSequence :: tokens =>
          if block then
            (blockItems? tags fuel { r with tokens }).map fun (items, r) => (.seq anchor items, r)
          else empty
        | .blockMapping :: tokens =>
          if block then
            (blockEntries? tags fuel { r with tokens }).map fun (entries, r) =>
              (.map anchor entries, r)
          else empty
        | _ => empty

/-- The items of a block, each behind its dash. -/
def blockItems? (tags : TagPrefixes) : (fuel : Nat) → Reading → Option (List Node × Reading)
  | 0, _ => none
  | fuel + 1, r =>
    match r.tokens with
    | .blockEnd :: tokens => some ([], { r with tokens })
    | .item :: tokens =>
      let r := { r with tokens }
      let first :=
        match tokens with
        | .item :: _ | .blockEnd :: _ => some (Node.empty, r)
        | _ => node? tags fuel true false r
      match first with
      | none => none
      | some (node, r) => (blockItems? tags fuel r).map fun (items, r) => (node :: items, r)
    | _ => none

/-- The items of a sequence at the column of its key; it ends with the first token that is no dash. -/
def undentedItems? (tags : TagPrefixes) : (fuel : Nat) → Reading → Option (List Node × Reading)
  | 0, _ => none
  | fuel + 1, r =>
    match r.tokens with
    | .item :: tokens =>
      let r := { r with tokens }
      let first :=
        match tokens with
        | .item :: _ | .key :: _ | .value :: _ | .blockEnd :: _ => some (Node.empty, r)
        | _ => node? tags fuel true false r
      match first with
      | none => none
      | some (node, r) => (undentedItems? tags fuel r).map fun (items, r) => (node :: items, r)
    | _ => some ([], r)

/-- The key or the value of an entry in a block: what follows its mark, or nothing. -/
def blockPart? (tags : TagPrefixes) : (fuel : Nat) → Reading → Option (Node × Reading)
  | 0, _ => none
  | fuel + 1, r =>
    match r.tokens with
    | .key :: _ | .value :: _ | .blockEnd :: _ => some (.empty, r)
    | _ => node? tags fuel true true r

/-- The entries of a block. -/
def blockEntries? (tags : TagPrefixes) :
    (fuel : Nat) → Reading → Option (List (Node × Node) × Reading)
  | 0, _ => none
  | fuel + 1, r =>
    match r.tokens with
    | .blockEnd :: tokens => some ([], { r with tokens })
    | .key :: tokens =>
      match blockPart? tags fuel { r with tokens } with
      | none => none
      | some (key, r) =>
        let value :=
          match r.tokens with
          | .value :: tokens => blockPart? tags fuel { r with tokens }
          | _ => some (Node.empty, r)
        match value with
        | none => none
        | some (value, r) =>
          (blockEntries? tags fuel r).map fun (entries, r) => ((key, value) :: entries, r)
    | _ => none

/-- The items of a sequence in brackets; all but the first stand behind a comma. An item may be a
single entry. -/
def flowItems? (tags : TagPrefixes) :
    (fuel : Nat) → (first : Bool) → Reading → Option (List Node × Reading)
  | 0, _, _ => none
  | fuel + 1, first, r =>
    match r.tokens, first with
    | .sequenceEnd :: tokens, _ => some ([], { r with tokens })
    | .separator :: .sequenceEnd :: tokens, false => some ([], { r with tokens })
    | tokens, _ =>
      let ready : Option Reading :=
        match first, tokens with
        | true, _ => some r
        | false, .separator :: _ => some r.skip
        | false, _ => none
      match ready with
      | none => none
      | some r =>
        let item :=
          match r.tokens with
          | .key :: tokens => singleEntry? tags fuel { r with tokens }
          | _ => node? tags fuel false false r
        match item with
        | none => none
        | some (node, r) => (flowItems? tags fuel false r).map fun (items, r) => (node :: items, r)

/-- An entry that stands as an item, from behind the mark of its key. A mark that follows at once is
passed over with the empty key. -/
def singleEntry? (tags : TagPrefixes) : (fuel : Nat) → Reading → Option (Node × Reading)
  | 0, _ => none
  | fuel + 1, r =>
    let key :=
      match r.tokens with
      | .value :: _ | .separator :: _ | .sequenceEnd :: _ => some (Node.empty, r.skip)
      | _ => node? tags fuel false false r
    match key with
    | none => none
    | some (key, r) =>
      let value :=
        match r.tokens with
        | .value :: .separator :: _ | .value :: .sequenceEnd :: _ => some (Node.empty, r.skip)
        | .value :: _ => node? tags fuel false false r.skip
        | _ => some (Node.empty, r)
      value.map fun (value, r) => (.map none [(key, value)], r)

/-- The entries of a mapping in braces; all but the first stand behind a comma. An entry without mark
is a key without value. -/
def flowEntries? (tags : TagPrefixes) :
    (fuel : Nat) → (first : Bool) → Reading → Option (List (Node × Node) × Reading)
  | 0, _, _ => none
  | fuel + 1, first, r =>
    match r.tokens, first with
    | .mappingEnd :: tokens, _ => some ([], { r with tokens })
    | .separator :: .mappingEnd :: tokens, false => some ([], { r with tokens })
    | tokens, _ =>
      let ready : Option Reading :=
        match first, tokens with
        | true, _ => some r
        | false, .separator :: _ => some r.skip
        | false, _ => none
      match ready with
      | none => none
      | some r =>
        match flowEntry? tags fuel r with
        | none => none
        | some (entry, r) =>
          (flowEntries? tags fuel false r).map fun (entries, r) => (entry :: entries, r)

/-- An entry of a mapping in braces. -/
def flowEntry? (tags : TagPrefixes) : (fuel : Nat) → Reading → Option ((Node × Node) × Reading)
  | 0, _ => none
  | fuel + 1, r =>
    match r.tokens with
    | .key :: tokens =>
      let r := { r with tokens }
      let key :=
        match tokens with
        | .value :: _ | .separator :: _ | .mappingEnd :: _ => some (Node.empty, r)
        | _ => node? tags fuel false false r
      match key with
      | none => none
      | some (key, r) =>
        let value :=
          match r.tokens with
          | .value :: .separator :: _ | .value :: .mappingEnd :: _ => some (Node.empty, r.skip)
          | .value :: _ => node? tags fuel false false r.skip
          | _ => some (Node.empty, r)
        value.map fun (value, r) => ((key, value), r)
    | _ => (node? tags fuel false false r).map fun (key, r) => ((key, .empty), r)

end

/-- The directives at the start of a document: the prefixes of tags they declare. A version is declared
at most once, and so is a handle. -/
def directives? (versioned : Bool) (tags : TagPrefixes) : List Token → Option (TagPrefixes × List Token)
  | .version major minor :: tokens =>
    if versioned || major ≠ 1 || (minor ≠ 1 && minor ≠ 2) then none
    else directives? true tags tokens
  | .tagPrefix handle start :: tokens =>
    if tags.any fun t => t.1 = handle then none
    else directives? versioned (tags ++ [(handle, start)]) tokens
  | tokens => some (tags, tokens)

/-- The root of the only document in a list of tokens; there is none in an empty one. -/
def root? (tokens : List Token) : Option (Option Node) := do
  let fuel := 4 * tokens.length + 4
  match tokens with
  | [] => some none
  | first :: _ =>
    let explicit := match first with
      | .version _ _ | .tagPrefix _ _ | .documentStart => true
      | _ => false
    let (root, r) ←
      if explicit then do
        match ← directives? false [] tokens with
        | (tags, .documentStart :: tokens) =>
          match tokens with
          | [] | .version _ _ :: _ | .tagPrefix _ _ :: _ | .documentStart :: _ | .documentEnd :: _ =>
            some (Node.empty, ⟨tokens, []⟩)
          | _ => node? (tags ++ standardTags) fuel true false ⟨tokens, []⟩
        | _ => none
      else node? standardTags fuel true false ⟨tokens, []⟩
    if r.tokens.all (· = .documentEnd) then some (some root) else none

end Reading

/-- A document: its root, if it has one, and its anchored nodes, the latest first. -/
structure Document where
  root : Option Node
  anchors : List (Nat × Node)
  deriving Repr

/-- The only document of a text. -/
def parse? (text : String) : Option Document := do
  let root ← Reading.root? (← tokens? text.toList)
  return ⟨root, (root.elim [] Node.anchored).reverse⟩

end ArchAtlas.Yaml
