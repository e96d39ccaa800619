import ArchAtlas.Facts.Survey
import ArchAtlas.Proofs.Text.Joined

namespace ArchAtlas.Facts

/-- The collections of a package, which are surveyed item by item. -/
inductive Collection where
  | imports
  | structs
  | interfaces
  | functions
  deriving DecidableEq, Repr

namespace Collection

def key : Collection → String
  | .imports => "imports"
  | .structs => "structs"
  | .interfaces => "interfaces"
  | .functions => "functions"

def ofKey? : String → Option Collection
  | "imports" => some .imports
  | "structs" => some .structs
  | "interfaces" => some .interfaces
  | "functions" => some .functions
  | _ => none

/-- What an item of the collection is read as. -/
def Item : Collection → Type
  | .imports => Import
  | .structs => TypeDecl
  | .interfaces => TypeDecl
  | .functions => FuncDecl

def codec : (c : Collection) → Codec Json c.Item
  | .imports => Import.codec Json
  | .structs => TypeDecl.codec Json
  | .interfaces => TypeDecl.codec Json
  | .functions => FuncDecl.codec Json

def unread (shell : Shell) : Collection → List Json
  | .imports => shell.imports
  | .structs => shell.structs
  | .interfaces => shell.interfaces
  | .functions => shell.functions

def read (package : Package) : (c : Collection) → List c.Item
  | .imports => package.imports
  | .structs => package.structs
  | .interfaces => package.interfaces
  | .functions => package.functions

def path (c : Collection) (package : String) : String :=
  package ++ "." ++ c.key

theorem ofKey?_key (c : Collection) : ofKey? c.key = some c := by
  cases c <;> rfl

theorem key_injective : Function.Injective key := by
  intro c d same
  have found := congrArg ofKey? same
  rwa [ofKey?_key, ofKey?_key, Option.some.injEq] at found

theorem forall_iff {P : Collection → Prop} :
    (∀ c, P c) ↔ P .imports ∧ P .structs ∧ P .interfaces ∧ P .functions :=
  ⟨fun all => ⟨all _, all _, all _, all _⟩, fun ⟨i, s, n, f⟩ c => by cases c <;> assumption⟩

theorem exists_iff {P : Collection → Prop} :
    (∃ c, P c) ↔ P .imports ∨ P .structs ∨ P .interfaces ∨ P .functions := by
  constructor
  · rintro ⟨c, holds⟩
    cases c <;> simp [holds]
  · rintro (holds | holds | holds | holds) <;> exact ⟨_, holds⟩

end Collection

/-- A record that a survey can leave out. -/
inductive Locator where
  /-- The list of packages. -/
  | packages
  /-- What the project says apart from its packages. -/
  | header
  | package (index : Nat)
  | item (index : Nat) (collection : Collection) (place : Nat)
  deriving DecidableEq, Repr

def Locator.path : Locator → String
  | .packages => "packages"
  | .header => "project"
  | .package index => itemPath "packages" index
  | .item index collection place => itemPath (collection.path (itemPath "packages" index)) place

theorem toList_itemPath (collection : String) (index : Nat) :
    (itemPath collection index).toList =
      (collection.toList ++ '[' :: Nat.toDigits 10 index) ++ [']'] := by
  simp [itemPath]

/-- A collection and an index can be told from the path of the item. -/
theorem itemPath_inj {c d : String} {i j : Nat} :
    itemPath c i = itemPath d j ↔ c = d ∧ i = j := by
  refine ⟨fun same => ?_, fun ⟨collections, indices⟩ => by rw [collections, indices]⟩
  have letters := congrArg String.toList same
  rw [toList_itemPath, toList_itemPath, List.append_left_inj] at letters
  -- Digits are no brackets, so the index starts behind the last opening one.
  have noBracket : ∀ n, '[' ∉ Nat.toDigits 10 n := fun n bracket =>
    absurd (Nat.isDigit_of_mem_toDigits (by decide) (by decide) bracket) (by decide)
  obtain ⟨collections, digits⟩ := Text.split_at_last (noBracket i) (noBracket j) letters
  exact ⟨String.toList_inj.mp collections, Text.toDigits_injective digits⟩

/-- A package and a collection of it can be told from the path of the collection. -/
theorem Collection.path_inj {p q : String} {c d : Collection} :
    c.path p = d.path q ↔ p = q ∧ c = d := by
  refine ⟨fun same => ?_, fun ⟨packages, collections⟩ => by rw [packages, collections]⟩
  have letters := congrArg String.toList same
  simp only [path, String.toList_append, List.append_assoc] at letters
  -- The key starts behind the last dot, whatever the path of the package has in it.
  have noDot : ∀ c : Collection, '.' ∉ c.key.toList := by
    intro c
    cases c <;> decide
  obtain ⟨packages, keys⟩ := Text.split_at_last (noDot c) (noDot d) letters
  exact ⟨String.toList_inj.mp packages, key_injective (String.toList_inj.mp keys)⟩

/-- The path of an item ends with a bracket. -/
theorem itemPath_ne {s collection : String} {index : Nat} (unclosed : s.toList.getLast? ≠ some ']') :
    itemPath collection index ≠ s := by
  rintro rfl
  exact unclosed (by rw [toList_itemPath, List.getLast?_concat])

/-- The path of a collection has a dot in it. -/
theorem Collection.path_ne {s package : String} {c : Collection} (plain : '.' ∉ s.toList) :
    c.path package ≠ s := by
  rintro rfl
  exact plain (by simp [path])

theorem Locator.path_injective : Function.Injective Locator.path := by
  have packages : ∀ c i, itemPath c i ≠ "packages" := fun c i => itemPath_ne (by decide)
  have header : ∀ c i, itemPath c i ≠ "project" := fun c i => itemPath_ne (by decide)
  have inside : ∀ (c : Collection) p, c.path p ≠ "packages" := fun c p =>
    Collection.path_ne (by decide)
  intro l m same
  cases l <;> cases m <;> grind [path, itemPath_inj, Collection.path_inj]

end ArchAtlas.Facts
