import ArchAtlas.Facts.Basic

/-!
How facts are written and read.
-/

namespace ArchAtlas

open Codec (text flag u32)

variable (ν : Type) [Medium ν]

/-- The location of a fact; the last line may be left out. -/
def Span.factCodec : Codec ν Span :=
  .record "RawLocation"
    (.cons (.required "file" text) <|
      .cons (.required "startLine" u32) <|
      .cons (.defaulted "endLine" u32 0) .nil)
    (fun (file, startLine, endLine, _) => ⟨file, startLine, endLine⟩)
    (fun s => (s.file, s.startLine, s.endLine, ()))

/-- The location of an entity. -/
def Span.entityCodec : Codec ν Span :=
  .record "SourceLocation"
    (.cons (.required "file" text) <|
      .cons (.required "startLine" u32) <|
      .cons (.required "endLine" u32) .nil)
    (fun (file, startLine, endLine, _) => ⟨file, startLine, endLine⟩)
    (fun s => (s.file, s.startLine, s.endLine, ()))

def Place.codec : Codec ν Place :=
  .record "CodeLocation"
    (.cons (.required "file" text) <|
      .cons (.required "line" u32) .nil)
    (fun (file, line, _) => ⟨file, line⟩)
    (fun p => (p.file, p.line, ()))

namespace Facts

def Import.codec : Codec ν Import :=
  .record "RawImport"
    (.cons (.required "path" text) <|
      .cons (.optional "alias" text) <|
      .cons (.optional "location" (Span.factCodec ν)) .nil)
    (fun (path, localName, location, _) => ⟨path, localName, location⟩)
    (fun i => (i.path, i.localName, i.location, ()))

def FieldDecl.codec : Codec ν FieldDecl :=
  .record "RawField"
    (.cons (.required "name" text) <|
      .cons (.required "type" text) <|
      .cons (.defaulted "exported" flag false) <|
      .cons (.optional "location" (Span.factCodec ν)) .nil)
    (fun (name, typeName, exported, location, _) => ⟨name, typeName, exported, location⟩)
    (fun f => (f.name, f.typeName, f.exported, f.location, ()))

def Parameter.codec : Codec ν Parameter :=
  .record "RawParam"
    (.cons (.defaulted "name" text "") <|
      .cons (.required "type" text) .nil)
    (fun (name, typeName, _) => ⟨name, typeName⟩)
    (fun p => (p.name, p.typeName, ()))

def Call.codec : Codec ν Call :=
  .record "RawCall"
    (.cons (.required "functionName" text) <|
      .cons (.optional "packageName" text) <|
      .cons (.optional "receiverType" text) <|
      .cons (.defaulted "args" text.list []) <|
      .cons (.required "location" (Span.factCodec ν)) .nil)
    (fun (functionName, packageName, receiverType, args, location, _) =>
      ⟨functionName, packageName, receiverType, args, location⟩)
    (fun c => (c.functionName, c.packageName, c.receiverType, c.args, c.location, ()))

def Spawn.codec : Codec ν Spawn :=
  .record "RawSpawn"
    (.cons (.required "call" (Call.codec ν)) <|
      .cons (.required "location" (Span.factCodec ν)) .nil)
    (fun (call, location, _) => ⟨call, location⟩)
    (fun s => (s.call, s.location, ()))

def ChannelOperation.names : List (String × ChannelOperation) :=
  [("send", .send), ("receive", .receive), ("close", .close), ("make", .make)]

def ChannelOperation.codec : Codec ν ChannelOperation := .variants names

def ChannelUse.codec : Codec ν ChannelUse :=
  .record "RawChannelOp"
    (.cons (.required "channelName" text) <|
      .cons (.required "operation" (ChannelOperation.codec ν)) <|
      .cons (.required "location" (Span.factCodec ν)) .nil)
    (fun (channelName, operation, location, _) => ⟨channelName, operation, location⟩)
    (fun c => (c.channelName, c.operation, c.location, ()))

def Body.codec : Codec ν Body :=
  .record "RawFunctionBody"
    (.cons (.defaulted "calls" (Call.codec ν).list []) <|
      .cons (.defaulted "spawns" (Spawn.codec ν).list []) <|
      .cons (.defaulted "channelOps" (ChannelUse.codec ν).list []) .nil)
    (fun (calls, spawns, channelOps, _) => ⟨calls, spawns, channelOps⟩)
    (fun b => (b.calls, b.spawns, b.channelOps, ()))

def FuncDecl.codec : Codec ν FuncDecl :=
  .record "RawFunc"
    (.cons (.required "name" text) <|
      .cons (.optional "receiverType" text) <|
      .cons (.defaulted "parameters" (Parameter.codec ν).list []) <|
      .cons (.defaulted "returnTypes" text.list []) <|
      .cons (.defaulted "exported" flag false) <|
      .cons (.required "location" (Span.factCodec ν)) <|
      .cons (.optional "body" (Body.codec ν)) .nil)
    (fun (name, receiverType, parameters, returnTypes, exported, location, body, _) =>
      ⟨name, receiverType, parameters, returnTypes, exported, location, body⟩)
    (fun f =>
      (f.name, f.receiverType, f.parameters, f.returnTypes, f.exported, f.location, f.body, ()))

def TypeDecl.codec : Codec ν TypeDecl :=
  .record "RawType"
    (.cons (.required "name" text) <|
      .cons (.defaulted "packageName" text "") <|
      .cons (.defaulted "fields" (FieldDecl.codec ν).list []) <|
      .cons (.defaulted "methods" (FuncDecl.codec ν).list []) <|
      .cons (.defaulted "exported" flag false) <|
      .cons (.required "location" (Span.factCodec ν)) .nil)
    (fun (name, packageName, fields, methods, exported, location, _) =>
      ⟨name, packageName, fields, methods, exported, location⟩)
    (fun t => (t.name, t.packageName, t.fields, t.methods, t.exported, t.location, ()))

def Package.codec : Codec ν Package :=
  .record "RawPackage"
    (.cons (.defaulted "id" text "") <|
      .cons (.required "name" text) <|
      .cons (.defaulted "fullName" text "") <|
      .cons (.defaulted "sourceFiles" text.list []) <|
      .cons (.defaulted "imports" (Import.codec ν).list []) <|
      .cons (.defaulted "structs" (TypeDecl.codec ν).list []) <|
      .cons (.defaulted "interfaces" (TypeDecl.codec ν).list []) <|
      .cons (.defaulted "functions" (FuncDecl.codec ν).list []) .nil)
    (fun (id, name, fullName, sourceFiles, imports, structs, interfaces, functions, _) =>
      ⟨id, name, fullName, sourceFiles, imports, structs, interfaces, functions⟩)
    (fun p =>
      (p.id, p.name, p.fullName, p.sourceFiles, p.imports, p.structs, p.interfaces, p.functions, ()))

def Requirement.codec : Codec ν Requirement :=
  .record "ModuleRequire"
    (.cons (.required "path" text) <|
      .cons (.defaulted "version" text "") <|
      .cons (.defaulted "indirect" flag false) .nil)
    (fun (path, version, indirect, _) => ⟨path, version, indirect⟩)
    (fun r => (r.path, r.version, r.indirect, ()))

def Project.codec : Codec ν Project :=
  .record "RawProject"
    (.cons (.defaulted "language" (Language.codec ν) .go) <|
      .cons (.defaulted "moduleName" text "") <|
      .cons (.defaulted "moduleRoot" text "") <|
      .cons (.defaulted "requires" (Requirement.codec ν).list []) <|
      .cons (.defaulted "packages" (Package.codec ν).list []) .nil)
    (fun (language, moduleName, moduleRoot, requires, packages, _) =>
      ⟨language, moduleName, moduleRoot, requires, packages⟩)
    (fun p => (p.language, p.moduleName, p.moduleRoot, p.requires, p.packages, ()))

end Facts

end ArchAtlas
