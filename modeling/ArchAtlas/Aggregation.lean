import ArchAtlas.Config.Basic
import ArchAtlas.Distinct
import ArchAtlas.Document.Basic
import ArchAtlas.Table

/-!
Folding a document to a coarser level. At method level it stays as it is; at entity level only public
members are kept; at package level all entities of a package become one, and the relations between two
packages become one for each type.
-/

namespace ArchAtlas

namespace Config.Aggregation

/-- The package of files that lie directly in a source root. -/
def rootPackage : String := "(root)"

/-- The part of a path behind a source root: behind the last directory of that name, or behind the
directory that the path starts with. -/
def afterRoot? (path : List Char) (root : String) : Option (List Char) :=
  let marker := root.toList ++ ['/']
  match Text.afterLastInfix? ('/' :: marker) path with
  | some rest => some rest
  | none => Text.after? marker path

/-- The shorter of two parts of a path; the first of two of the same length. -/
def shorter (best : Option (List Char)) (rest : List Char) : Option (List Char) :=
  match best with
  | some b => if rest.length < b.length then some rest else some b
  | none => some rest

/-- The part of a path behind the source root that ends last; the whole path without one. -/
def afterRoots (a : Aggregation) (path : List Char) : List Char :=
  ((a.sourceRoots.filterMap (afterRoot? path)).foldl shorter none).getD path

/-- The non-empty directories of a path; its last part is the file. -/
def directories (path : List Char) : List (List Char) :=
  match Text.splitLast? '/' path with
  | some (directory, _) => (directory.splitOn '/').filter fun s => !s.isEmpty
  | none => []

/-- The package of a file: the directories below its source root, as many as configured. A backslash
divides directories too. -/
def packageKey (a : Aggregation) (file : String) : String :=
  let path := file.toList.map fun c => if c = '\\' then '/' else c
  let segments := directories (a.afterRoots path)
  if segments.isEmpty then rootPackage
  else
    let kept := match a.packageDepth with
      | some depth => segments.take depth.toNat
      | none => segments
    "/".intercalate (kept.map String.ofList)

/-- The package that an id names: what stands before its last point. -/
def declaringPackage? (id : String) : Option String :=
  match Text.splitLast? '.' id.toList with
  | some (package, _) => if package.isEmpty then none else some (String.ofList package)
  | none => none

/-- The package of an entity: the one its id names, or that of its file. -/
def packageOf (a : Aggregation) (e : Entity) : String :=
  (declaringPackage? e.id).getD (a.packageKey e.location.file)

end Config.Aggregation

namespace Aggregation

/-- The entity without the members that are not public. -/
def publicView (e : Entity) : Entity :=
  { e with members := e.members.filter fun m => m.visibility = .exposed }

/-- The package of the first entity with an id. -/
def owner? (a : Config.Aggregation) (d : Document) (id : String) : Option String :=
  (d.entity? id).map a.packageOf

/-- The node of the package that an entity is the first of. -/
def packageEntity (a : Config.Aggregation) (first : Entity) : Entity :=
  let key := a.packageOf first
  ⟨key, key, .package, .exposed, [], first.location⟩

/-- The packages of a document, ordered by name. -/
def packageEntities (a : Config.Aggregation) (d : Document) : List Entity :=
  ((firstBy a.packageOf d.entities).map (packageEntity a)).mergeSort fun x y => x.id ≤ y.id

/-- A relation as one between packages, if it joins two of them. -/
def lift? (a : Config.Aggregation) (d : Document) (r : Relation) : Option Relation :=
  match owner? a d r.source, owner? a d r.target with
  | some source, some target =>
    if source = target then none
    else
      some
        { id := "pkg-" ++ source ++ "-" ++ target ++ "-" ++ r.type.name
          type := r.type
          source
          target
          confidence := r.confidence
          inferenceSource := r.inferenceSource
          strength := some 1 }
  | _, _ => none

/-- The greater of two numbers; one that is a number where the other is none. -/
def greater (x y : Float) : Float :=
  if x < y || x.isNaN then y else x

/-- Folds a further relation in: the strength counts it, the greater confidence is kept, and what is
explicit once is explicit. -/
def absorb (folded r : Relation) : Relation :=
  { folded with
    strength := some (folded.strength.getD 1 + 1)
    confidence := greater folded.confidence r.confidence
    inferenceSource := if r.inferenceSource = .explicit then .explicit else folded.inferenceSource }

/-- Folds a relation into the one with the same key, or puts it behind the others. -/
def foldRelation (folded : Roster (String × String × RelationType) Relation) (r : Relation) :
    Roster (String × String × RelationType) Relation :=
  folded.put r.key r fun f => absorb f r

/-- The relations between packages, in the order in which they first occur. -/
def packageRelations (a : Config.Aggregation) (d : Document) : List Relation :=
  ((d.relations.filterMap (lift? a d)).foldl foldRelation .empty).items

/-- The document at a level, with its metrics. -/
def aggregate (a : Config.Aggregation) (d : Document) (level : Level) : Document :=
  let view : Document := match level with
    | .method => d
    | .entity => { d with entities := d.entities.map publicView }
    | .package => { d with entities := packageEntities a d, relations := packageRelations a d }
  { view with metrics := some (Metrics.compute view.entities view.relations level) }

/-- The ids of the entities of a package. -/
def constituents (a : Config.Aggregation) (d : Document) (package : String) : List String :=
  (d.entities.filter fun e => a.packageOf e = package).map Entity.id

end Aggregation

end ArchAtlas
