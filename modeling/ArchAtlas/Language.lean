import ArchAtlas.Codec.Basic
import ArchAtlas.Text.Slice

/-!
The languages whose projects can be surveyed: how their files and projects are recognised, which paths
of imports belong to their standard library, and how such a path stands to a project.
-/

namespace ArchAtlas

inductive Language where
  | typescript
  | go
  | java
  | python
  deriving DecidableEq, Repr, Inhabited

/-- Where an import path leads. -/
inductive ImportKind where
  | std
  | inside
  | external
  | vendor
  deriving DecidableEq, Repr

namespace ImportKind

def names : List (String × ImportKind) :=
  [("std", std), ("internal", inside), ("external", external), ("vendor", vendor)]

def codec (ν : Type) [Medium ν] : Codec ν ImportKind := Codec.variants names

end ImportKind

namespace Language

def names : List (String × Language) :=
  [("typescript", typescript), ("go", go), ("java", java), ("python", python)]

def codec (ν : Type) [Medium ν] : Codec ν Language := Codec.variants names

/-- What is fixed about a language. The root of an import path is its part before the first
`separator`, once a `scheme` at its start is taken off. -/
structure Profile where
  name : String
  displayName : String
  extensions : List String
  /-- Files at the root of a project that give its language away. -/
  markers : List String
  scheme : String
  separator : Char
  /-- Roots of the import paths of the standard library. -/
  standardRoots : List String
  deriving Repr

def goRoots : List String :=
  ["archive", "bufio", "bytes", "cmp", "compress", "container", "context", "crypto", "database",
    "debug", "embed", "encoding", "errors", "expvar", "flag", "fmt", "go", "hash", "html", "image",
    "index", "io", "iter", "log", "maps", "math", "mime", "net", "os", "path", "plugin", "reflect",
    "regexp", "runtime", "slices", "sort", "strconv", "strings", "sync", "syscall", "testing",
    "text", "time", "unicode", "unique", "unsafe"]

def typescriptRoots : List String :=
  ["assert", "buffer", "child_process", "cluster", "crypto", "dgram", "dns", "events", "fs", "http",
    "http2", "https", "net", "os", "path", "perf_hooks", "process", "querystring", "readline",
    "stream", "string_decoder", "timers", "tls", "url", "util", "v8", "vm", "worker_threads",
    "zlib"]

def javaRoots : List String := ["java", "javax", "jdk", "sun"]

def pythonRoots : List String :=
  ["abc", "argparse", "asyncio", "base64", "collections", "contextlib", "copy", "csv",
    "dataclasses", "datetime", "enum", "functools", "hashlib", "http", "importlib", "inspect", "io",
    "itertools", "json", "logging", "math", "os", "pathlib", "pickle", "queue", "random", "re",
    "shutil", "socket", "sqlite3", "string", "subprocess", "sys", "tempfile", "threading", "time",
    "typing", "unittest", "urllib", "uuid"]

def profile : Language → Profile
  | go => ⟨"golang", "Go", ["go"], ["go.mod"], "", '/', goRoots⟩
  | typescript =>
    ⟨"typescript", "TypeScript", ["ts", "tsx"], ["tsconfig.json", "package.json"], "node:", '/',
      typescriptRoots⟩
  | java =>
    ⟨"java", "Java", ["java"], ["pom.xml", "build.gradle", "build.gradle.kts"], "", '.', javaRoots⟩
  | python =>
    ⟨"python", "Python", ["py", "pyi"], ["pyproject.toml", "setup.py", "requirements.txt"], "", '.',
      pythonRoots⟩

/-- All languages, in the order in which they are tried. -/
def all : List Language := [go, typescript, java, python]

/-- The language of a file extension, in any case of letters. Of the letters beyond ASCII none has a
lower-case form made only of the letters in these extensions, so folding ASCII letters decides. -/
def ofExtension? (extension : String) : Option Language :=
  all.find? fun l => l.profile.extensions.contains (extension.map Char.toLower)

/-- The language of a file: by what follows the last point of its path, or by the whole path. -/
def ofPath? (path : String) : Option Language :=
  ofExtension? (String.ofList (Text.afterLast '.' path.toList))

/-- The language of a project, by the files at its root. -/
def ofMarkers? (files : List String) : Option Language :=
  all.find? fun l => l.profile.markers.any files.contains

/-- The root of an import path. -/
def importRoot (l : Language) (path : String) : String :=
  let s := path.toList
  let s := (Text.after? l.profile.scheme.toList s).getD s
  String.ofList (Text.beforeFirst l.profile.separator s)

/-- Whether an import path leads into the standard library. -/
def isStandard (l : Language) (path : String) : Bool :=
  l.profile.standardRoots.contains (l.importRoot path)

/-- Where an import path leads, seen from a project with the given module name. -/
def classify (l : Language) (path moduleName : String) : ImportKind :=
  if Text.startsWith path "vendor/" || Text.contains path "/vendor/" then .vendor
  else if Text.startsWith path "./" || Text.startsWith path "../" then .inside
  else if moduleName ≠ "" && Text.startsWith path moduleName then .inside
  else if l.isStandard path then .std
  else .external

end Language

end ArchAtlas
