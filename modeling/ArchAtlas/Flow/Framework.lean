import ArchAtlas.Config.Basic
import ArchAtlas.Flow.Basic

/-!
Frameworks: which calls register an entry point, and what gives a framework away.

* `table` lists the registration calls of the known frameworks;
* `detect` finds the frameworks of a project by its requirements, its imports and its declarations;
* `active` lists the registration calls to look for, those bound to a receiver first.
-/

namespace ArchAtlas.Flow

/-- The shape of a call that registers an entry point. -/
structure Registration where
  method : Option String
  methodSuffix : Option String
  /-- A part of the receiver's type, where the receiver is known. -/
  receiverContains : Option String
  protocol : String
  httpMethod : Option HttpMethod
  pathArg : Nat
  handlerArg : Nat
  deriving DecidableEq, Repr

namespace Registration

/-- A call of a given name. -/
def exact (method protocol : String) : Registration :=
  ⟨some method, none, none, protocol, none, 0, 1⟩

def http (method : String) (verb : HttpMethod) : Registration :=
  { exact method "http" with httpMethod := some verb }

def onReceiver (r : Registration) (receiver : String) : Registration :=
  { r with receiverContains := some receiver }

/-- A call whose name ends in a given way. -/
def ending (suffix protocol : String) : Registration :=
  ⟨none, some suffix, none, protocol, none, 0, 1⟩

def ofShape (protocol : String) (s : Config.CallShape) : Registration where
  method := s.method
  methodSuffix := s.methodSuffix
  receiverContains := s.receiverContains
  protocol
  httpMethod := none
  pathArg := s.pathArgIndex.elim 0 UInt64.toNat
  handlerArg := s.handlerArgIndex.elim 1 UInt64.toNat

/-- Whether a call has the shape. The receiver counts only when both the shape and the call have one. -/
def fits (r : Registration) (c : Facts.Call) : Bool :=
  (r.method.all fun m => c.functionName = m) &&
    (r.methodSuffix.all fun s => Text.endsWith c.functionName s) &&
    match r.receiverContains, c.receiverType with
    | some part, some receiver => Text.contains receiver part
    | _, _ => true

def isBound (r : Registration) : Bool := r.receiverContains.isSome

end Registration

/-- The methods of HTTP under the names that a framework gives them. -/
def verbs (get post put delete patch : String) : List Registration :=
  [.http get .get, .http post .post, .http put .put, .http delete .delete, .http patch .patch]

/-- The registration calls of the known frameworks. -/
def table : List (String × List Registration) :=
  [("net/http", [.exact "HandleFunc" "http", .exact "Handle" "http"]),
    ("gin", verbs "GET" "POST" "PUT" "DELETE" "PATCH" ++ [.http "Any" .any]),
    ("gorilla/mux",
      [(Registration.exact "Handle" "http").onReceiver "mux.Router",
        (Registration.exact "HandleFunc" "http").onReceiver "mux.Router"]),
    ("echo", verbs "GET" "POST" "PUT" "DELETE" "PATCH"),
    ("chi", verbs "Get" "Post" "Put" "Delete" "Patch"),
    ("cobra", [.exact "AddCommand" "cli"]),
    ("grpc", [.ending "Server" "grpc"]),
    ("kafka-go", [.exact "ConsumePartition" "message"]),
    ("sarama", [.exact "ConsumePartition" "message"]),
    ("nats", [.exact "Subscribe" "message", .exact "QueueSubscribe" "message"]),
    ("cron", [.exact "AddFunc" "scheduler", .exact "AddJob" "scheduler"])]

/-- Modules that give a framework away when they are required or imported. -/
def moduleTable : List (String × String) :=
  [("github.com/gin-gonic/gin", "gin"),
    ("github.com/labstack/echo", "echo"),
    ("github.com/go-chi/chi", "chi"),
    ("github.com/gorilla/mux", "gorilla/mux"),
    ("github.com/gofiber/fiber", "fiber"),
    ("google.golang.org/grpc", "grpc"),
    ("github.com/spf13/cobra", "cobra"),
    ("github.com/urfave/cli", "urfave/cli"),
    ("github.com/segmentio/kafka-go", "kafka-go"),
    ("github.com/Shopify/sarama", "sarama"),
    ("github.com/IBM/sarama", "sarama"),
    ("github.com/nats-io/nats.go", "nats"),
    ("github.com/robfig/cron", "cron")]

/-- Modules that give a framework away only when they are imported. -/
def importTable : List (String × String) :=
  [("github.com/beego/beego", "beego"),
    ("github.com/cloudwego/hertz", "hertz"),
    ("github.com/kataras/iris", "iris"),
    ("github.com/confluentinc/confluent-kafka-go", "confluent-kafka")]

/-- Whether a path is a module or lies below it. -/
def isWithin (path module : String) : Bool :=
  path = module || Text.startsWith path (module ++ "/")

/-- The frameworks that a path gives away. -/
def revealed (table : List (String × String)) (path : String) : List String :=
  table.filterMap fun (module, key) => if isWithin path module then some key else none

/-- A method that serves HTTP requests: a response writer and a request as parameters. -/
def isServeHttp (m : Facts.FuncDecl) : Bool :=
  match m.parameters with
  | [writer, request] =>
    m.name = "ServeHTTP" &&
      (writer.typeName = "http.ResponseWriter" || Text.endsWith writer.typeName ".ResponseWriter") &&
      (request.typeName = "*http.Request" || Text.endsWith request.typeName ".Request")
  | _ => false

/-- What the declarations of a package give away. -/
def revealedByPackage (p : Facts.Package) : List String :=
  (if p.name = "main" then ["main"] else []) ++
    (if p.structs.any fun s => s.methods.any isServeHttp then ["serve-http"] else [])

/-- The frameworks of a project: plain HTTP always, then by requirements, imports and declarations. -/
def detect (p : Facts.Project) : Frameworks :=
  let required := p.requires.flatMap fun r => revealed moduleTable r.path
  let imported := p.packages.flatMap fun pkg => pkg.imports.flatMap fun i =>
    revealed moduleTable i.path ++ revealed importTable i.path
  let declared := p.packages.flatMap revealedByPackage
  .ofList (["net/http"] ++ required ++ imported ++ declared)

/-- A registration call with the framework it belongs to. -/
structure ActiveRegistration where
  framework : String
  registration : Registration
  deriving DecidableEq, Repr

/-- The registration calls of the detected frameworks, then those of the user's. -/
def candidates (detected : Frameworks) (custom : List Config.Framework) : List ActiveRegistration :=
  let known := detected.keys.flatMap fun key =>
    ((table.lookup key).getD []).map fun r => ⟨key, r⟩
  let declared := custom.flatMap fun f =>
    f.patterns.map fun s => ⟨f.name, .ofShape f.protocol s⟩
  known ++ declared

/-- The registration calls to look for: those bound to a receiver, then the others. -/
def active (detected : Frameworks) (custom : List Config.Framework) : List ActiveRegistration :=
  let all := candidates detected custom
  (all.filter fun a => a.registration.isBound) ++ (all.filter fun a => !a.registration.isBound)

end ArchAtlas.Flow
