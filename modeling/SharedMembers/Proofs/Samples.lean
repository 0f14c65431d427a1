import SharedMembers.Proofs.Preparation
import SharedMembers.Sample.Records
import SharedMembers.Sample.Shapes
import SharedMembers.Sample.Values

/-!
# Samples and their modules

A sample is the store of a wrapper, with the functions that forward what its subtypes share. The
module that declares the wrapper expands to just that: a wrapper over the kinds of the sample, in
their order, with one accessor for each of these functions.

Results:
* `kind_history`: as long as no value is put in, a store stays of its kind.
* `Shape.kind_step`, `Entity.kind_step`, `Value.kind_step`: which steps of the samples put one in.
* `Shape.kind_run`, `Entity.kind_run`, `Value.kind_run`: runs of the other steps keep the kind.
* `Building.owner_ofEntity`: a building is owned by who lives there.
* `expand_shapes`, `expand_records`, `expand_values`: the samples are what their modules expand to.
-/

namespace SharedMembers.Sample

/-! ## Runs -/

/-- If only some steps put a value in, a store stays of its kind until there is one of them. -/
theorem kind_history {κ α β : Type} {F : Family κ} {step : Store F → α → β × Store F}
    {replaces : α → Bool} (kept : ∀ s a, replaces a = false → (step s a).2.kind = s.kind)
    {steps : List α} (unreplaced : ∀ a ∈ steps, replaces a = false) (s : Store F) :
    ∀ entry ∈ history step s steps, entry.2.kind = s.kind :=
  history_keeps (P := fun t => t.kind = s.kind)
    (fun a ha t same => (kept t a (unreplaced a ha)).trans same) rfl

namespace Shape

/-- The step puts a new shape in, or may do so. -/
def Step.replaces : Step → Bool
  | square .. | circle _ | pick _ => true
  | _ => false

theorem kind_modify? {s : Shape} {k : ShapeKind} {f : shapes.Value k → shapes.Value k} :
    ((s.modify? k f).getD s).kind = s.kind := by
  cases changed : s.modify? k f with
  | none => rfl
  | some t => exact (Store.modify?_eq_some changed).1

/-- All other steps keep the kind of a shape. -/
theorem kind_step (s : Shape) (a : Step) (h : a.replaces = false) :
    (step s a).2.kind = s.kind := by
  cases a with
  | square | circle | pick => cases h
  | setTop n | setLeft n | grow n => rcases s with ⟨_ | _, x⟩ <;> rfl
  | resizeIf k extent => exact kind_modify?
  | scale factor => exact Store.kind_visitMut s (scaler factor)
  | top | left | area | corner | tag | title | titles | is | leftIf | extract => rfl

/-- So does every run of such steps. -/
theorem kind_run (s : Shape) {steps : List Step} (unreplaced : ∀ a ∈ steps, a.replaces = false) :
    ∀ entry ∈ history step s steps, entry.2.kind = s.kind :=
  kind_history kind_step unreplaced s

end Shape

namespace Entity

/-- The step puts a new entity in. -/
def Step.replaces : Step → Bool
  | person .. | company .. => true
  | _ => false

/-- All other steps keep the kind of an entity. -/
theorem kind_step (e : Entity) (a : Step) (h : a.replaces = false) :
    (step e a).2.kind = e.kind := by
  cases a with
  | person | company => cases h
  | hire name age => exact Store.kind_visitMut e (employer ⟨name, age⟩)
  | setName | setAge | touch | setMotto => rcases e with ⟨_ | _, x⟩ <;> rfl
  | name | age | weight | title | id | renamed | isCompany | building => rfl

/-- So does every run of such steps. -/
theorem kind_run (e : Entity) {steps : List Step} (unreplaced : ∀ a ∈ steps, a.replaces = false) :
    ∀ entry ∈ history step e steps, entry.2.kind = e.kind :=
  kind_history kind_step unreplaced e

end Entity

namespace Value

/-- The step puts a new value in, or may do so. -/
def Step.replaces : Step → Bool
  | assign _ | pick _ => true
  | _ => false

/-- All other steps keep the kind of a value. -/
theorem kind_step (v : Value) (a : Step) (h : a.replaces = false) :
    (step v a).2.kind = v.kind := by
  cases a with
  | assign | pick => cases h
  | push n => exact Store.kind_visitMut v (pusher n)
  | describe | titles | projections | extractText => rfl

/-- So does every run of such steps. -/
theorem kind_run (v : Value) {steps : List Step} (unreplaced : ∀ a ∈ steps, a.replaces = false) :
    ∀ entry ∈ history step v steps, entry.2.kind = v.kind :=
  kind_history kind_step unreplaced v

end Value

/-- Who lives in a building owns it. -/
theorem Building.owner_ofEntity (e : Entity) : (Building.ofEntity e).owner = e := by
  rcases e with ⟨_ | _, x⟩ <;> rfl

/-! ## Modules -/

/-- What an argument has to be, or to convert into. -/
def accepted : Slot → List String
  | .exact type => [type.key]
  | .convertible _ bounds => bounds.map Ty.key

/-- What a program sees of an accessor: its name, what its arguments have to be, and what it
gives. -/
structure AccessorInterface where
  name : String
  arguments : List (List String)
  output : Option String
deriving Repr, DecidableEq

/-- What a program sees of a wrapper: its name, the names of its subtypes, and its accessors. -/
structure WrapperInterface where
  name : String
  titles : List String
  accessors : List AccessorInterface
deriving Repr, DecidableEq

/-- What a program sees of an expansion. -/
def interface (e : Expansion) : List WrapperInterface :=
  e.wrappers.map fun g => ⟨g.wrapper.ident.name, g.wrapper.types.map Ty.title,
    g.accessors.map fun a => ⟨a.key.accessorName, a.slots.map accepted, a.output.map Ty.display⟩⟩

/-- A directive with arguments. -/
def directive (arguments : List Tree) : Attribute :=
  ⟨none, false, .ofIdent (.generated directiveName), .list .parenthesis none none arguments⟩

/-- The ways in which a method takes its own value. -/
def borrowed : SelfInput := ⟨[], some (none, none), false, none, none⟩

@[inherit_doc borrowed]
def borrowedMut : SelfInput := ⟨[], some (none, none), true, none, none⟩

@[inherit_doc borrowed]
def moved : SelfInput := ⟨[], none, true, none, none⟩

/-- A method that everyone may use. -/
def method (name : String) (receiver : SelfInput) (inputs : List Ty) (output : Option Ty) :
    Method :=
  ⟨[], .everywhere none, none,
    ⟨none, none, none, none, none, .generated name, .empty,
      .self receiver :: inputs.map (.typed [] ⟨none, []⟩), false, none, output⟩, []⟩

/-- The methods of a type. -/
def methods (type : String) (members : List Method) : Item :=
  .impl ⟨[], [], none, .empty, none, .ofName type, members.map .method⟩

/-- An enum that declares a wrapper; a variant may be called like its type. -/
def wrapperEnum (name : String) (variants : List (String × Option Ty)) : Item :=
  .enum ⟨[⟨none, false, .ofIdent (.generated directiveName), .nothing⟩], .everywhere none, none,
    .generated name, .empty, variants.map fun (variant, type) =>
      ⟨[], .generated variant,
        type.elim .unit fun t => .positional none [⟨[], .inherited, none, t⟩] false, none⟩, false⟩

/-- Squares, circles with a hidden upper edge, and the wrapper over both. -/
def shapeItems : List Item :=
  [openStruct "Square"
      [openField "top" (.ofName "i32"), openField "left" (.ofName "i32"),
        openField "size" (.ofName "f64")],
    methods "Square"
      [method "area" borrowed [] (some (.ofName "f64")),
        method "grow" moved [.ofName "i16"] (some (.ofName "Self")),
        method "corner" borrowed [] (some (.ofName "i32"))],
    openStruct "Circle"
      [{ openField "top" (.ofName "i32") with visibility := .inherited },
        openField "left" (.ofName "i16"), openField "radius" (.ofName "f64")],
    methods "Circle"
      [method "top" borrowed [] (some (.ofName "i32")),
        method "set_top" borrowedMut [.ofName "i64"] none,
        method "area" borrowed [] (some (.ofName "f64")),
        method "grow" moved [.ofName "i32"] (some (.ofName "Self")),
        method "corner" borrowed [] (some (.ofName "bool"))],
    wrapperEnum "Shape" [("Square", none), ("Round", some (.ofName "Circle"))]]

/-- Shapes are the wrapper of their module, and the wrapper of its corners is made up. -/
theorem expand_shapes :
    ∃ e, (moduleOf shapeItems).expand defaultLibrary = .ok e ∧
      interface e =
        [⟨"Shape", shapes.titles,
            [⟨"area", [], some "f64"⟩, ⟨"corner", [], some "ShapeCorner"⟩,
              ⟨"grow", [["i16", "i32"]], some "Shape"⟩, ⟨"left", [], some "i32"⟩,
              ⟨"set_left", [["i32", "i16"]], none⟩, ⟨"top", [], some "i32"⟩,
              ⟨"set_top", [["i32", "i64"]], none⟩]⟩,
          ⟨"ShapeCorner", corners.titles, []⟩] :=
  exists_ok_of_toOption (by decide +kernel)

/-- Text that is borrowed. -/
def borrowedText : Ty := .reference none none false (.ofName "str")

/-- A list of elements of the type. -/
def vecOf (type : String) : Ty :=
  .path (.plain none [.generic (.generated "Vec") false [.type (.ofName type)] false])

/-- Persons, companies and their buildings, with a wrapper over the first two and one over the
buildings. -/
def recordItems : List Item :=
  [openStruct "Person" [openField "name" (.ofName "String"), openField "age" (.ofName "i32")],
    methods "Person"
      [method "id" borrowed [] (some (.ofName "i32")),
        method "weight" borrowed [] (some (.ofName "u32")), method "touch" borrowedMut [] none,
        method "renamed" borrowed [borrowedText] (some (.ofName "Self")),
        method "title" borrowed [] (some borrowedText),
        { method "learn" borrowedMut [.ofName "String"] none with
          attributes :=
            [directive [keyword "setter", .punct '=' false none, keyword "motto"]] }],
    openStruct "Company"
      [{ openField "brand" (.ofName "String") with attributes := [renameDirective "name"] },
        openField "age" (.ofName "i64"), openField "staff" (vecOf "Person")],
    methods "Company"
      [method "id" borrowed [] (some (.ofName "String")),
        method "weight" borrowed [] (some (.ofName "i32")), method "touch" borrowedMut [] none,
        method "renamed" borrowed [borrowedText] (some (.ofName "Self")),
        method "title" borrowed [] (some (.ofName "String")),
        method "set_motto" borrowedMut [.ofName "String"] none],
    wrapperEnum "Entity" [("Person", none), ("Company", none)],
    openStruct "Home" [openField "head" (.ofName "Person")],
    methods "Home"
      [method "owner" borrowed [] (some (.ofName "Person")),
        method "rooms" borrowed [] (some (.ofName "u8"))],
    openStruct "Office" [openField "firm" (.ofName "Company")],
    methods "Office"
      [method "owner" borrowed [] (some (.ofName "Company")),
        method "rooms" borrowed [] (some (.ofName "i8"))],
    wrapperEnum "Building" [("Office", none), ("Home", none)]]

/-- Entities and buildings are the wrappers of their module. The owner of a building is an entity,
and the wrapper of what tells entities apart is made up. -/
theorem expand_records :
    ∃ e, (moduleOf recordItems).expand defaultLibrary = .ok e ∧
      interface e =
        [⟨"Entity", entities.titles,
            [⟨"age", [], some "i64"⟩, ⟨"set_age", [["i32", "i64"]], none⟩,
              ⟨"id", [], some "EntityId"⟩, ⟨"set_motto", [["String"]], none⟩,
              ⟨"name", [], some "String"⟩, ⟨"set_name", [["String"]], none⟩,
              ⟨"renamed", [["& str"]], some "Entity"⟩, ⟨"title", [], some "String"⟩,
              ⟨"touch", [], none⟩, ⟨"weight", [], some "i64"⟩]⟩,
          ⟨"Building", buildings.titles,
            [⟨"owner", [], some "Entity"⟩, ⟨"rooms", [], some "i16"⟩]⟩,
          ⟨"EntityId", identities.titles, []⟩] :=
  exists_ok_of_toOption (by decide +kernel)

/-- A struct around one value. -/
def newtype (name type : String) : Item :=
  .struct ⟨[], .everywhere none, none, .generated name, .empty,
    .positional none [⟨[], .everywhere none, none, .ofName type⟩] false⟩

/-- The type that names lead to. -/
def pathTo (names : List String) : Ty :=
  .path (.plain none (names.map fun name => .plain (.generated name)))

/-- Numbers and truth values, and the wrapper over them and types from elsewhere. -/
def valueItems : List Item :=
  [newtype "Int" "i64", newtype "Flag" "bool",
    wrapperEnum "Value"
      [("Int", none), ("Bytes", some (vecOf "u8")), ("Flag", some (pathTo ["self", "Flag"])),
        ("Text", some (pathTo ["std", "string", "String"]))]]

/-- Values are the wrapper of their module. It forwards nothing. -/
theorem expand_values :
    ∃ e, (moduleOf valueItems).expand defaultLibrary = .ok e ∧
      interface e = [⟨"Value", values.titles, []⟩] :=
  exists_ok_of_toOption (by decide +kernel)

end SharedMembers.Sample
