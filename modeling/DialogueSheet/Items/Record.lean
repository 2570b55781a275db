/-
# Items, furniture and equipment

The rows of three tables, read like the records of students.
-/
import DialogueSheet.Student.Decode

namespace DialogueSheet

/-- An item. -/
structure Item where
  id : Nat := 0
  category : String := ""
  rarity : String := ""
  tags : List String := []
  icon : String := ""
  name : String := ""
  description : String := ""
deriving DecidableEq

/-- A piece of furniture. -/
structure Furniture where
  id : Nat := 0
  rarity : String := ""
  category : String := ""
  icon : String := ""
  name : String := ""
  description : String := ""
deriving DecidableEq

/-- A piece of equipment. -/
structure Equipment where
  id : Nat := 0
  category : String := ""
  tier : Nat := 0
  icon : String := ""
  name : String := ""
deriving DecidableEq

/-- A 32-bit count, zero where it is missing. -/
def Json.countMember (m : List (String × Json)) (name : String) : Option Nat :=
  member m name 0 (count? Binary.maxCount)

/-- Reads an item. -/
def Item.ofJson? (v : Json) : Option Item := do
  let m ← v.members? ["Id", "Category", "Rarity", "Tags", "Icon", "Name", "Desc"]
  return {
    id := ← Json.countMember m "Id"
    category := ← Json.textMember m "Category"
    rarity := ← Json.textMember m "Rarity"
    tags := ← Json.textsMember m "Tags"
    icon := ← Json.textMember m "Icon"
    name := ← Json.textMember m "Name"
    description := ← Json.textMember m "Desc" }

/-- Reads a piece of furniture. -/
def Furniture.ofJson? (v : Json) : Option Furniture := do
  let m ← v.members? ["Id", "Rarity", "Category", "Icon", "Name", "Desc"]
  return {
    id := ← Json.countMember m "Id"
    rarity := ← Json.textMember m "Rarity"
    category := ← Json.textMember m "Category"
    icon := ← Json.textMember m "Icon"
    name := ← Json.textMember m "Name"
    description := ← Json.textMember m "Desc" }

/-- Reads a piece of equipment. -/
def Equipment.ofJson? (v : Json) : Option Equipment := do
  let m ← v.members? ["Id", "Category", "Tier", "Icon", "Name"]
  return {
    id := ← Json.countMember m "Id"
    category := ← Json.textMember m "Category"
    tier := ← Json.countMember m "Tier"
    icon := ← Json.textMember m "Icon"
    name := ← Json.textMember m "Name" }

end DialogueSheet
