import SharedMembers.Emission.Template
import SharedMembers.Wrapper.Basic

/-!
# The text of a wrapper's store

The enum itself, and how values get into it and out of it: the tag and the names of the subtypes,
the conversions from and into each subtype, and the visitors.

The model of `emit` of a `WrapperDef`.

* `StoreCode`: what the text says, `Wrapper.storeCode` of a wrapper.
* `VariantMatch`: the body of a function that asks for one variant, of which both the text and the
  meaning are derived.
* `enumTokens`, `tagImpl`, `conversions`, `visitImpl`: the parts.
* `storeTokens`: all of them.
-/

namespace SharedMembers

/-! ## What the text says -/

/-- What an arm of a match gives: what it binds as a success or as a failure, or as a value that is
there, or no value. -/
inductive Reply where
  | success
  | failure
  | present
  | absent
deriving Repr, DecidableEq

/-- The body of a function that matches a wrapper with one variant: the reply if that is active,
which is made of the value, and the reply if not, which is made of the wrapper. -/
structure VariantMatch where
  variant : Ident
  hit : Reply
  miss : Reply

/-- The functions of one subtype: its type and tag, the variants that it is wrapped in, and the
bodies of the functions that ask for it. -/
structure SubtypeCode where
  type : Ty
  tag : Nat
  converted : Ident
  tried : VariantMatch
  wrapped : Ident
  projected : VariantMatch
  projectedMut : VariantMatch
  extracted : VariantMatch

/-- The code of a store: the names of the subtypes, the match for the tag, the functions of each
subtype, and the matches of the visitors with the type that each variant is visited as. -/
structure StoreCode where
  titles : List String
  tags : List (Ident × Nat)
  subtypes : List SubtypeCode
  visits : List (Ident × Ty)
  visitsMut : List (Ident × Ty)

/-- The functions of the `n`th subtype. -/
def SubtypeCode.ofVariant (variant : Ident) (type : Ty) (n : Nat) : SubtypeCode :=
  { type
    tag := n
    converted := variant
    tried := ⟨variant, .success, .failure⟩
    wrapped := variant
    projected := ⟨variant, .present, .absent⟩
    projectedMut := ⟨variant, .present, .absent⟩
    extracted := ⟨variant, .success, .failure⟩ }

/-- The code of a wrapper's store. -/
def Wrapper.storeCode (w : Wrapper) : StoreCode where
  titles := w.types.map Ty.title
  tags := w.variants.zipIdx.map fun ((variant, _), n) => (variant, n)
  subtypes := w.variants.zipIdx.map fun ((variant, type), n) => .ofVariant variant type n
  visits := w.variants
  visitsMut := w.variants

namespace Emission

/-! ## The enum and its conversions -/

/-- The enum. -/
def enumTokens (w : Wrapper) : List Tree :=
  Fragment.tokensAll (w.attributes.flatMap Attribute.code ++ w.visibility.code) ++ spell "enum" ++
    named w.ident ++
    braces (w.variants.flatMap fun (variant, type) =>
      named variant ++ parens type.tokens ++ spell ",")

/-- A match on the variants of a wrapper. -/
def matchSelf (arms : List Tree) : List Tree :=
  braces (spell "match self" ++ braces arms)

/-- The names of the subtypes and the tag. -/
def tagImpl (library : Path) (wrapper : Ident) (code : StoreCode) : List Tree :=
  spell "impl" ++ library.tokens ++ spell ":: SuperStruct for" ++ named wrapper ++ braces
    (spell "const SUBTYPES : & 'static" ++ brackets (spell "& 'static str") ++ spell "= &" ++
      brackets (commas (code.titles.map textLiteral)) ++ spell ";" ++
      spell "fn tag" ++ parens (spell "& self") ++ spell "-> usize" ++
      matchSelf (code.tags.flatMap fun (variant, n) =>
        spell "Self ::" ++ named variant ++ parens (spell "_") ++ spell "=>" ++ number n ++
          spell ","))

/-- The conversion of a subtype into the wrapper. -/
def fromImpl (wrapper variant : Ident) (type : Ty) : List Tree :=
  spell "impl" ++ core "convert :: From" ++ angles type.tokens ++ spell "for" ++ named wrapper ++
    braces (attributed (spell "inline") ++ spell "fn from" ++
      parens (spell "value :" ++ type.tokens) ++ spell "-> Self" ++
      braces (spell "Self ::" ++ named variant ++ parens (spell "value")))

/-- The reply of an arm that binds a name. -/
def reply (name : String) : Reply → List Tree
  | .success => succeeded (spell name)
  | .failure => refused (spell name)
  | .present => present (spell name)
  | .absent => absent

/-- The pattern of the other arm. It binds the wrapper if the reply is made of it. -/
def otherPattern : Reply → List Tree
  | .success | .failure | .present => spell "other"
  | .absent => spell "_"

/-- A match of a wrapper with one variant. -/
def matchVariant (wrapper : Ident) (body : VariantMatch) : List Tree :=
  braces (spell "match wrapper" ++ braces
    (named wrapper ++ spell "::" ++ named body.variant ++ parens (spell "value") ++ spell "=>" ++
      reply "value" body.hit ++ spell "," ++ otherPattern body.miss ++ spell "=>" ++
      reply "other" body.miss ++ spell ","))

/-- A function that takes the wrapper apart and gives it back if another variant is active. -/
def takeApart (name : String) (wrapper : Ident) (body : VariantMatch) : List Tree :=
  attributeWith "allow" "unreachable_patterns" ++ spell ("fn " ++ name) ++
    parens (spell "wrapper :" ++ named wrapper) ++ spell "->" ++ core "result :: Result" ++
    angles (spell "Self ," ++ named wrapper) ++ matchVariant wrapper body

/-- The conversion of the wrapper into a subtype. -/
def tryFromImpl (wrapper : Ident) (body : VariantMatch) (type : Ty) : List Tree :=
  spell "impl" ++ core "convert :: TryFrom" ++ angles (named wrapper) ++ spell "for" ++
    type.tokens ++
    braces (spell "type Error =" ++ named wrapper ++ spell ";" ++
      takeApart "try_from" wrapper body)

/-- A function that looks into the wrapper, with a reference of the given kind. -/
def lookInto (name : String) (reference : String) (wrapper : Ident) (body : VariantMatch) :
    List Tree :=
  attributeWith "allow" "unreachable_patterns" ++ spell ("fn " ++ name) ++
    parens (spell ("wrapper : " ++ reference) ++ named wrapper) ++ spell "->" ++
    core "option :: Option" ++ angles (spell reference ++ spell "Self") ++
    matchVariant wrapper body

/-- What makes a type a subtype of the wrapper. -/
def subtypeImpl (library : Path) (wrapper : Ident) (code : SubtypeCode) : List Tree :=
  spell "impl" ++ library.tokens ++ spell ":: Subtype" ++ angles (named wrapper) ++ spell "for" ++
    code.type.tokens ++
    braces (spell "const TAG : usize =" ++ number code.tag ++ spell ";" ++
      attributed (spell "inline") ++ spell "fn wrap" ++ parens (spell "self") ++ spell "->" ++
      named wrapper ++
      braces (named wrapper ++ spell "::" ++ named code.wrapped ++ parens (spell "self")) ++
      lookInto "project" "&" wrapper code.projected ++
      lookInto "project_mut" "& mut" wrapper code.projectedMut ++
      takeApart "extract" wrapper code.extracted)

/-- The conversions of a subtype. -/
def conversions (library : Path) (wrapper : Ident) (code : SubtypeCode) : List Tree :=
  fromImpl wrapper code.converted code.type ++ tryFromImpl wrapper code.tried code.type ++
    subtypeImpl library wrapper code

/-! ## Visitors -/

/-- The type parameter for visitors. -/
def visitorName : List Tree := spell "__SuperstructVisitor"

/-- The trait of the visitors of a type. -/
def visitTrait (library : Path) (trait : String) : List Tree :=
  library.tokens ++ spell ("::" ++ " " ++ trait)

/-- What a visitor of the type gives. -/
def visitOutput (library : Path) (trait : String) (type : Ty) : List Tree :=
  angles (visitorName ++ spell "as" ++ visitTrait library trait ++ angles type.tokens) ++
    spell ":: Output"

/-- A function that lets a visitor at the active value. All visits give the same as that of the
first subtype. -/
def visitFn (library : Path) (w : Wrapper) (arms : List (Ident × Ty)) (first : Ty)
    (rest : List Ty) (name trait text reference : String) : List Tree :=
  documentation text ++ Fragment.tokensAll w.visibility.code ++ spell ("fn " ++ name) ++
    angles visitorName ++
    parens (spell (reference ++ " self , visitor :") ++ visitorName ++ spell ",") ++ spell "->" ++
    visitOutput library trait first ++ spell "where" ++ visitorName ++ spell ":" ++
    visitTrait library trait ++ angles first.tokens ++ spell "," ++
    rest.flatMap (fun t =>
      visitorName ++ spell ":" ++ visitTrait library trait ++
        angles (t.tokens ++ spell ", Output =" ++ visitOutput library trait first ++ spell ",") ++
        spell ",") ++
    matchSelf (arms.flatMap fun (variant, type) =>
      spell "Self ::" ++ named variant ++ parens (spell "value") ++ spell "=>" ++
        angles (visitorName ++ spell "as" ++ visitTrait library trait ++ angles type.tokens) ++
        spell (":: " ++ name) ++ parens (spell "visitor , value") ++ spell ",")

/-- The visitors. -/
def visitImpl (library : Path) (w : Wrapper) (code : StoreCode) (first : Ty) (rest : List Ty) :
    List Tree :=
  attributeWith "allow" "dead_code" ++ spell "impl" ++ named w.ident ++ braces
    (visitFn library w code.visits first rest "visit" "Visit"
        " Applies `visitor` to the active subtype." "&" ++
      visitFn library w code.visitsMut first rest "visit_mut" "VisitMut"
        " Applies `visitor` to the active subtype, which it may modify." "& mut")

end Emission

open Emission in
/-- The text of a wrapper's store (`emit`); `library` is the path of the traits that it
implements. -/
def storeTokens (library : Path) (w : Wrapper) : List Tree :=
  match w.types with
  | [] => []
  | first :: rest =>
    enumTokens w ++ tagImpl library w.ident w.storeCode ++
      w.storeCode.subtypes.flatMap (conversions library w.ident) ++
      visitImpl library w w.storeCode first rest

end SharedMembers
