import SpatialQuery.Json.Tree

namespace SpatialQuery.Json

/-- How a value comes to be read: straight from the text, or after it was held back as a whole
because what decides its shape may stand behind it. -/
inductive Passage where
  | direct
  | held
  deriving DecidableEq, Repr

namespace Tree

variable {α : Type}

def string? : Tree → Option String
  | .string s => some s
  | _ => none

/-- An integer of 32 bits without a sign. -/
def uint32? : Tree → Option UInt32
  | .number (.integer n _ _) => if 0 ≤ n ∧ n < 0x100000000 then some (UInt32.ofNat n.toNat) else none
  | _ => none

theorem uint32?_ofUInt32 (n : UInt32) : uint32? (.number (.ofUInt32 n)) = some n := by
  have bound := n.toNat_lt
  simp only [uint32?, Number.ofUInt32, Int.toNat_natCast, UInt32.ofNat_toNat]
  exact if_pos ⟨by omega, by omega⟩

def list? (read : Tree → Option α) : Tree → Option (List α)
  | .array items => items.mapM read
  | _ => none

/-- Null stands for absence. -/
def nullable? (read : Tree → Option α) : Tree → Option (Option α)
  | .null => some none
  | tree => (read tree).map some

/-- The entries of a map; of those with the same name a later one is to prevail. -/
def entries? (read : Tree → Option α) : Tree → Option (List (String × α))
  | .object members => members.mapM fun (name, value) => (read value).map (name, ·)
  | _ => none

/-- A choice without content: its name, or an object with that name as its only one. The member is
null, and in a value that was held back it may also be an empty object. -/
def choice? (passage : Passage) : Tree → Option String
  | .string name => some name
  | .object [(name, .null)] => some name
  | .object [(name, .object [])] => if passage = .held then some name else none
  | _ => none

/-- One of a list by its name, and in a value that was held back also by its place in the list. -/
def oneOf? (passage : Passage) (all : List α) (name : α → String) : Tree → Option α
  | .string text => all.find? fun one => name one = text
  | .number (.integer n _ _) => if passage = .held ∧ 0 ≤ n then all[n.toNat]? else none
  | _ => none

/-- Whether no name of a list stands twice among members. -/
def distinct (names : List String) (members : List (String × Tree)) : Bool :=
  names.all fun name => members.countP (·.1 == name) ≤ 1

/-- The fields of a record, in the order of their names, each with its value if it has one. A record
is an object, whose other members do not count, or an array of as many first fields as it has. -/
def fields? (names : List String) : Tree → Option (List (Option Tree))
  | .object members =>
    if distinct names members then some (names.map fun name => members.lookup name) else none
  | .array items =>
    if items.length ≤ names.length then
      some (items.map some ++ List.replicate (names.length - items.length) none)
    else none
  | _ => none

def required (read : Tree → Option α) (field : Option Tree) : Option α := field >>= read

def optional (default : α) (read : Tree → Option α) : Option Tree → Option α
  | none => some default
  | some tree => read tree

end Tree
end SpatialQuery.Json
