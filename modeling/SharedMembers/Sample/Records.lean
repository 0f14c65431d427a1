import SharedMembers.Store.Basic
import SharedMembers.Store.History

/-!
# Records

A sample store of persons and companies, and one of the buildings in which they live. What a
building gives as its owner is a person or a company, and is held by the first store.
-/

namespace SharedMembers.Sample

/-- A person. -/
structure Person where
  name : String
  age : Int32

namespace Person

/-- A year goes by. -/
def touch (p : Person) : Person := { p with age := p.age + 1 }

/-- The weight. -/
def weight (_ : Person) : UInt32 := 70

/-- The person under another name. -/
def renamed (p : Person) (name : String) : Person := { p with name := name }

/-- The person takes words into the name. -/
def learn (p : Person) (words : String) : Person := { p with name := p.name ++ words }

end Person

/-- A company with its staff. -/
structure Company where
  brand : String
  age : Int64
  staff : List Person

namespace Company

/-- A year goes by for the staff. -/
def touch (c : Company) : Company := { c with staff := c.staff.map Person.touch }

/-- The weight of the staff. -/
def weight (c : Company) : Int32 := Int32.ofNat c.staff.length * 70

/-- The text that tells the company from others. -/
def id (c : Company) : String := "company:" ++ c.brand

/-- The company under another name. -/
def renamed (c : Company) (name : String) : Company := { c with brand := name }

/-- The name in angle brackets. -/
def title (c : Company) : String := "<" ++ c.brand ++ ">"

end Company

/-! ## Entities -/

/-- The kinds of entities. -/
inductive EntityKind where
  | person
  | company
deriving DecidableEq

/-- Persons and companies. -/
abbrev entities : Family EntityKind where
  kinds := [.person, .company]
  mem_kinds k := by cases k <;> simp
  title
    | .person => "Person"
    | .company => "Company"
  Value
    | .person => Person
    | .company => Company

/-- A person or a company. -/
abbrev Entity := Store entities

/-- The kinds of what tells entities apart. -/
inductive IdentityKind where
  | number
  | text
deriving DecidableEq

/-- What tells entities apart. -/
abbrev identities : Family IdentityKind where
  kinds := [.number, .text]
  mem_kinds k := by cases k <;> simp
  title
    | .number => "i32"
    | .text => "String"
  Value
    | .number => Int32
    | .text => String

namespace Entity

/-- The entity that is a person. -/
def ofPerson (p : Person) : Entity := ⟨.person, p⟩

/-- The entity that is a company. -/
def ofCompany (c : Company) : Entity := ⟨.company, c⟩

/-- The name. -/
def name : Entity → String
  | ⟨.person, p⟩ => p.name
  | ⟨.company, c⟩ => c.brand

/-- The age. -/
def age : Entity → Int64
  | ⟨.person, p⟩ => p.age.toInt64
  | ⟨.company, c⟩ => c.age

/-- The weight. -/
def weight : Entity → Int64
  | ⟨.person, p⟩ => p.weight.toUInt64.toInt64
  | ⟨.company, c⟩ => c.weight.toInt64

/-- The title. -/
def title : Entity → String
  | ⟨.person, p⟩ => p.name
  | ⟨.company, c⟩ => c.title

/-- What tells the entity from others. -/
def id : Entity → Store identities
  | ⟨.person, p⟩ => ⟨.number, p.age⟩
  | ⟨.company, c⟩ => ⟨.text, c.id⟩

/-- Gives another name. -/
def setName (s : String) : Entity → Entity
  | ⟨.person, p⟩ => ofPerson { p with name := s }
  | ⟨.company, c⟩ => ofCompany { c with brand := s }

/-- Sets the age. -/
def setAge (n : Int32) : Entity → Entity
  | ⟨.person, p⟩ => ofPerson { p with age := n }
  | ⟨.company, c⟩ => ofCompany { c with age := n.toInt64 }

/-- Gives a motto: a person takes it into the name, a company makes it the name. -/
def setMotto (s : String) : Entity → Entity
  | ⟨.person, p⟩ => ofPerson (p.learn s)
  | ⟨.company, c⟩ => ofCompany { c with brand := s }

/-- A year goes by. -/
def touch : Entity → Entity
  | ⟨.person, p⟩ => ofPerson p.touch
  | ⟨.company, c⟩ => ofCompany c.touch

/-- The entity under another name. -/
def renamed (s : String) : Entity → Entity
  | ⟨.person, p⟩ => ofPerson (p.renamed s)
  | ⟨.company, c⟩ => ofCompany (c.renamed s)

/-- Takes a person on, which only a company does, and says whether it did. -/
def employer (p : Person) : (k : EntityKind) → entities.Value k → Bool × entities.Value k
  | .person, other => (false, other)
  | .company, c => (true, { c with staff := c.staff ++ [p] })

end Entity

/-! ## Buildings -/

/-- The kinds of buildings. -/
inductive BuildingKind where
  | office
  | home
deriving DecidableEq

/-- Offices, each of a company, and homes, each of a person. -/
abbrev buildings : Family BuildingKind where
  kinds := [.office, .home]
  mem_kinds k := by cases k <;> simp
  title
    | .office => "Office"
    | .home => "Home"
  Value
    | .office => Company
    | .home => Person

/-- An office or a home. -/
abbrev Building := Store buildings

namespace Building

/-- The building in which the entity lives. -/
def ofEntity : Entity → Building
  | ⟨.person, p⟩ => ⟨.home, p⟩
  | ⟨.company, c⟩ => ⟨.office, c⟩

/-- Who owns the building. -/
def owner : Building → Entity
  | ⟨.office, c⟩ => .ofCompany c
  | ⟨.home, p⟩ => .ofPerson p

/-- The number of rooms. -/
def rooms : Building → Int16
  | ⟨.office, _⟩ => -1
  | ⟨.home, _⟩ => 4

end Building

/-! ## Steps -/

namespace Entity

/-- The entity that a run starts with. -/
def start : Entity := ofPerson ⟨"", 0⟩

/-- What can be done with an entity. -/
inductive Step where
  | person (name : String) (age : Int32)
  | company (name : String) (age : Int64)
  | hire (name : String) (age : Int32)
  | name
  | age
  | weight
  | title
  | setName (s : String)
  | setAge (n : Int32)
  | touch
  | setMotto (s : String)
  | id
  | renamed (s : String)
  | isCompany
  | building

/-- What a step gives. -/
inductive Outcome where
  | nothing
  | integer (n : Int64)
  | truth (b : Bool)
  | text (s : String)
  | identity (i : Store identities)
  | entity (e : Entity)
  | building (b : Building) (owner : Entity)

/-- Does a step. -/
def step (e : Entity) : Step → Outcome × Entity
  | .person name age => (.nothing, ofPerson ⟨name, age⟩)
  | .company name age => (.nothing, ofCompany ⟨name, age, []⟩)
  | .hire name age =>
    let (hired, e') := e.visitMut (employer ⟨name, age⟩)
    (.truth hired, e')
  | .name => (.text (name e), e)
  | .age => (.integer (age e), e)
  | .weight => (.integer (weight e), e)
  | .title => (.text (title e), e)
  | .setName s => (.nothing, setName s e)
  | .setAge n => (.nothing, setAge n e)
  | .touch => (.nothing, touch e)
  | .setMotto s => (.nothing, setMotto s e)
  | .id => (.identity (id e), e)
  | .renamed s => (.entity (renamed s e), e)
  | .isCompany => (.truth (e.is .company), e)
  | .building =>
    let b := Building.ofEntity e
    (.building b (touch b.owner), e)

end Entity

end SharedMembers.Sample
