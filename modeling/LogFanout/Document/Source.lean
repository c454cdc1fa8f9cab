import LogFanout.Document.Mismatch

/-!
# Sources of values

What the documents of all formats have in common: texts, flags, integers, choices out of fixed
names, lists and records. A format says how each of them is read, as a type `ρ α` of readers for
values in `α`; the layout of a blueprint is then written once for all formats.
-/

namespace LogFanout.Document

/-- A member of a record whose drafts are in `δ`. -/
structure Member (ρ : Type → Type) (δ : Type) where
  key : String
  /-- Whether the member has to be given. -/
  required : Bool
  /-- Whether a draft has the member already. -/
  isSet : δ → Bool
  /-- Reads the value; the result puts it into a draft. -/
  read : ρ (δ → δ)

/-- A record with drafts in `δ` and values in `α`. -/
structure Record (ρ : Type → Type) (δ α : Type) where
  expected : Expected
  /-- The members in the order in which a list gives them. -/
  members : List (Member ρ δ)
  /-- The draft without members. -/
  start : δ
  /-- The value of a draft to which nothing is added any more. -/
  finish : δ → Except Mismatch α

/-- How a format reads values. -/
structure Source (ρ : Type → Type) where
  /-- A reader with its values put through a function. -/
  map : {α β : Type} → (α → β) → ρ α → ρ β
  /-- A reader that refuses some values. -/
  refine : {α β : Type} → (α → Except Mismatch β) → ρ α → ρ β
  text : ρ String
  boolean : ρ Bool
  /-- An integer between two bounds, both included. -/
  integer : (least most : Int) → Expected → ρ Int
  /-- A value, or the format's word for no value if it has one. -/
  optional : {α : Type} → ρ α → ρ (Option α)
  /-- One of the names known. -/
  choice : {α : Type} → (known : List String) → (String → Option α) → ρ α
  list : {α : Type} → Expected → ρ α → ρ (List α)
  record : {δ α : Type} → Record ρ δ α → ρ α

/-- The first required member, by its place in a row of members. -/
def missingIndex? {ρ : Type → Type} {δ : Type} (members : List (Member ρ δ)) : Option Nat :=
  members.findIdx? Member.required

end LogFanout.Document
