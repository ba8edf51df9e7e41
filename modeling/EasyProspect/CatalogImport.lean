import EasyProspect.Library.Traversal
import Mathlib.Logic.Function.Basic

namespace EasyProspect

/-!
# The import of a catalog

`from_xml` goes through the tree of a catalog with a stack of builders, and
`sf_catalog_split2` goes through it once more with a tree walker.  The tree is the one after
`normalize`, and its names and texts are transcoded.

A builder is referred to by the node that it was made for; a pointer that is compared or
dereferenced is such a reference.
-/

namespace Catalog

open Traversal

/-! ## Objects and builders -/

/-- `ep_sf_object_type`. -/
inductive SfObjectType
  | none
  | importRun
  | relationship
  | sfCatalog
  | sfCatalogHeader
  | sfCatalogImageSettings
  | sfCatalogCustomAttribute
  | sfCategory
  | string
deriving DecidableEq, Repr

/-- How an import ends that does not return. -/
inductive ImportFault
  /-- `back()` or `pop_back()` of an empty `parse_stack`. -/
  | emptyStack
  | nullParentBuilder
  /-- The typed parent is dereferenced although the cast has failed. -/
  | nullTypedParent
  /-- The typed builder of the parent is. -/
  | nullTypedBuilder
  | nullRelationship
  /-- `to_string` knows no text for the type. -/
  | invalidType
  | sqlite (message : String)
deriving DecidableEq, Repr

/-- `ep_sf_obj_util::to_string`, in which `SF_CATEGORY` has no case. -/
def SfObjectType.toString : SfObjectType -> Except ImportFault String
  | .none => .ok "NONE"
  | .importRun => .ok "IMPORT"
  | .relationship => .ok "RELATIONSHIP"
  | .sfCatalog => .ok "SF_CATALOG"
  | .sfCatalogHeader => .ok "SF_CATALOG_HEADER"
  | .sfCatalogImageSettings => .ok "SF_CATALOG_IMAGE_SETTINGS"
  | .sfCatalogCustomAttribute => .ok "SF_CATALOG_CUSTOM_ATTRIBUTE"
  | .string => .ok "STRING"
  | .sfCategory => .error .invalidType

/-- `ep_sf_object`. -/
structure SfObject where
  esoId : UInt64
  esoType : SfObjectType
  esoImportId : Int64
deriving DecidableEq, Repr

structure SfObjCatalog extends SfObject where
  header : Option UInt64
  productAttributeDefinitions : Option UInt64
  category : Option UInt64
  product : Option UInt64
  productOption : Option UInt64
  variationAttribute : Option UInt64
  categoryAssignment : Option UInt64
  recommendation : Option UInt64
  catalogId : Option String
deriving DecidableEq, Repr

/-- The constructor of `ep_sf_obj_catalog`.  Its parameters have the names of the members, but
only the last one initialises a member. -/
def SfObjCatalog.create (object : SfObject)
    (_header _productAttributeDefinitions _category _product _productOption _variationAttribute
      _categoryAssignment _recommendation : Option UInt64) (catalogId : Option String) :
    SfObjCatalog where
  toSfObject := object
  header := none
  productAttributeDefinitions := none
  category := none
  product := none
  productOption := none
  variationAttribute := none
  categoryAssignment := none
  recommendation := none
  catalogId := catalogId

/-- A member that no constructor initialises is `none` until it is set. -/
structure SfObjectRelationship extends SfObject where
  variableId : Int64
  dstType : Option SfObjectType
  srcType : Option SfObjectType
deriving DecidableEq, Repr

/-- What a pointer to an `ep_sf_object` points to. -/
inductive SfObjectPtr
  | object (object : SfObject)
  | catalog (catalog : SfObjCatalog)
  | relationship (relationship : SfObjectRelationship)
deriving DecidableEq, Repr

def SfObjectPtr.base : SfObjectPtr -> SfObject
  | .object base => base
  | .catalog derived => derived.toSfObject
  | .relationship derived => derived.toSfObject

/-- `dynamic_pointer_cast<ep_sf_obj_catalog>`. -/
def SfObjectPtr.asCatalog : SfObjectPtr -> Option SfObjCatalog
  | .catalog derived => some derived
  | _ => none

/-- The members of `ep_sf_obj_catalog_builder`. -/
structure CatalogMembers where
  header : Option UInt64 := none
  productAttributeDefinitions : Option UInt64 := none
  category : Option UInt64 := none
  product : Option UInt64 := none
  productOption : Option UInt64 := none
  variationAttribute : Option UInt64 := none
  categoryAssignment : Option UInt64 := none
  recommendation : Option UInt64 := none
  catalogId : Option String := none
deriving DecidableEq, Repr

structure HeaderMembers where
  imageSettings : Option UInt64 := none
  customAttributes : Option UInt64 := none
deriving DecidableEq, Repr

structure ImageSettingsMembers where
  internalLocation : Option UInt64 := none
  externalLocation : Option UInt64 := none
  viewTypes : Option UInt64 := none
  variationAttributeId : Option String := none
  altPattern : Option String := none
  titlePattern : Option String := none
deriving DecidableEq, Repr

structure InternalLocationMembers where
  basePath : Option String := none
deriving DecidableEq, Repr

structure RelationshipMembers where
  variableId : Int64 := 0
  dstType : Option SfObjectType := none
  srcType : Option SfObjectType := none
deriving DecidableEq, Repr

/-- The classes derived from `ep_sf_object_builder` that the import makes. -/
inductive BuilderClass
  | catalog
  | header
  | imageSettings
  | internalLocation
  | viewTypes
  | category
  | relationship
  | localizedString
deriving DecidableEq, Repr

/-- The members that a derived class adds, as far as the import reads or sets them. -/
inductive OwnMembers
  | catalog (members : CatalogMembers)
  | header (members : HeaderMembers)
  | imageSettings (members : ImageSettingsMembers)
  | internalLocation (members : InternalLocationMembers)
  | viewTypes
  | category
  | relationship (members : RelationshipMembers)
  | localizedString
deriving DecidableEq, Repr

def OwnMembers.builderClass : OwnMembers -> BuilderClass
  | .catalog _ => .catalog
  | .header _ => .header
  | .imageSettings _ => .imageSettings
  | .internalLocation _ => .internalLocation
  | .viewTypes => .viewTypes
  | .category => .category
  | .relationship _ => .relationship
  | .localizedString => .localizedString

/-- `ep_sf_object_builder` with the members of the derived class. -/
structure SfBuilder where
  esoId : UInt64 := 0
  esoType : SfObjectType := .none
  esoImportId : Int64 := 0
  own : OwnMembers
deriving DecidableEq, Repr

namespace SfBuilder

/-- The constructors.  Only that of the catalog sets the type. -/
def make : BuilderClass -> SfBuilder
  | .catalog => { esoType := .sfCatalog, own := .catalog {} }
  | .header => { own := .header {} }
  | .imageSettings => { own := .imageSettings {} }
  | .internalLocation => { own := .internalLocation {} }
  | .viewTypes => { own := .viewTypes }
  | .category => { own := .category }
  | .relationship => { own := .relationship {} }
  | .localizedString => { own := .localizedString }

variable (builder : SfBuilder)

def setId (id : UInt64) : SfBuilder := { builder with esoId := id }

def setImportId (id : UInt64) : SfBuilder := { builder with esoImportId := id.toInt64 }

/-- The base of the objects that the builder makes. -/
def object : SfObject := ⟨builder.esoId, builder.esoType, builder.esoImportId⟩

def toCatalog (members : CatalogMembers) : SfObjCatalog :=
  .create builder.object members.header members.productAttributeDefinitions members.category
    members.product members.productOption members.variationAttribute members.categoryAssignment
    members.recommendation members.catalogId

def toRelationship (members : RelationshipMembers) : SfObjectRelationship :=
  ⟨builder.object, members.variableId, members.dstType, members.srcType⟩

/-- `to_object`, which only two of the classes override. -/
def toObject : SfObjectPtr :=
  match builder.own with
  | .catalog members => .catalog (builder.toCatalog members)
  | .relationship members => .relationship (builder.toRelationship members)
  | _ => .object builder.object

/-! The setters; each is a member of one class. -/

def setHeader (id : UInt64) : SfBuilder :=
  match builder.own with
  | .catalog members => { builder with own := .catalog { members with header := some id } }
  | _ => builder

def setCategory (id : UInt64) : SfBuilder :=
  match builder.own with
  | .catalog members => { builder with own := .catalog { members with category := some id } }
  | _ => builder

def setImageSettings (id : UInt64) : SfBuilder :=
  match builder.own with
  | .header members => { builder with own := .header { members with imageSettings := some id } }
  | _ => builder

def setInternalLocation (id : UInt64) : SfBuilder :=
  match builder.own with
  | .imageSettings members =>
      { builder with own := .imageSettings { members with internalLocation := some id } }
  | _ => builder

def setBasePath (path : String) : SfBuilder :=
  match builder.own with
  | .internalLocation _ => { builder with own := .internalLocation ⟨some path⟩ }
  | _ => builder

def setDstType (type : SfObjectType) : SfBuilder :=
  match builder.own with
  | .relationship members =>
      { builder with own := .relationship { members with dstType := some type } }
  | _ => builder

end SfBuilder

/-! ## Documents -/

structure Attribute where
  localName : Option String
  value : Option String
deriving DecidableEq, Repr

/-- A node of the document without its children. -/
inductive NodeContent
  /-- Text or a CDATA section. -/
  | text
  | element (localName : Option String) (nodeName : String) (attributes : List Attribute)
  | other
deriving DecidableEq, Repr

abbrev DomNode := RoseTree NodeContent

/-- The element names that the import knows. -/
inductive ElementKind
  | catalog
  | header
  | category
  | imageSettings
  | internalLocation
  | viewTypes
  | viewType
  | variationAttributeId
  | altPattern
  | titlePattern
  | displayName
  | parent
deriving DecidableEq, Repr

/-- The comparisons with `strcmp`. -/
def ElementKind.ofName (name : String) : Option ElementKind :=
  if name = "catalog" then some .catalog
  else if name = "header" then some .header
  else if name = "category" then some .category
  else if name = "image-settings" then some .imageSettings
  else if name = "internal-location" then some .internalLocation
  else if name = "view-types" then some .viewTypes
  else if name = "view-type" then some .viewType
  else if name = "variation-attribute-id" then some .variationAttributeId
  else if name = "alt-pattern" then some .altPattern
  else if name = "title-pattern" then some .titlePattern
  else if name = "display-name" then some .displayName
  else if name = "parent" then some .parent
  else none

namespace NodeContent

/-- What `from_xml` takes an element for: it compares `getLocalName`, or `getNodeName` if that
is null. -/
def kind : NodeContent -> Option ElementKind
  | .element localName nodeName _ => ElementKind.ofName (localName.getD nodeName)
  | _ => none

/-- What the tree walk takes it for: it compares `getNodeName`. -/
def walkKind : NodeContent -> Option ElementKind
  | .element _ nodeName _ => ElementKind.ofName nodeName
  | _ => none

/-- `get_attribute`: attributes without a name are left out, values that are null are empty. -/
def getAttribute : NodeContent -> List (String × String)
  | .element _ _ attributes =>
      (attributes.map fun found => (found.localName.getD "", found.value.getD "")).filter
        fun pair => pair.1 ≠ ""
  | _ => []

end NodeContent

/-! ## The state of an import -/

/-- The builders that are made for a node: its own, the relationship of a category, and the one
of the tree walk. -/
inductive BuilderRef
  | node (position : Position)
  | relationship (position : Position)
  | walk (position : Position)
deriving DecidableEq, Repr

def BuilderRef.position : BuilderRef -> Position
  | .node position => position
  | .relationship position => position
  | .walk position => position

/-- A row of `ep_sf_object`, with the builder that gets its id. -/
structure ObjectRow where
  rowid : Int64
  builder : BuilderRef
deriving DecidableEq, Repr

/-- The builders, the stack (its back is the last element), the rows that the import has
inserted, and what it has logged as errors. -/
structure ImportRun where
  builders : BuilderRef -> Option SfBuilder
  parseStack : List BuilderRef
  rows : List ObjectRow
  errors : List String

/-- Before an import. -/
def ImportRun.start : ImportRun := ⟨fun _ => none, [], [], []⟩

/-- What SQLite makes of one more `INSERT`: an error, or the id of the row. -/
structure Sqlite where
  insert : List Int64 -> Except String Int64

abbrev Importer := EStateM ImportFault ImportRun

namespace Importer

/-- A builder is constructed. -/
def construct (reference : BuilderRef) (builder : SfBuilder) : Importer Unit :=
  modify fun run => { run with builders := Function.update run.builders reference (some builder) }

/-- A setter of a builder is called. -/
def change (reference : BuilderRef) (set : SfBuilder -> SfBuilder) : Importer Unit :=
  modify fun run =>
    { run with
      builders := Function.update run.builders reference ((run.builders reference).map set) }

/-- The same through a pointer that may be null. -/
def changeThrough (pointer : Option BuilderRef) (set : SfBuilder -> SfBuilder) : Importer Unit :=
  match pointer with
  | none => throw .nullTypedBuilder
  | some reference => change reference set

def deref (reference : BuilderRef) : Importer SfBuilder := do
  let run <- get
  match run.builders reference with
  | none => throw .nullParentBuilder
  | some builder => pure builder

def pushBack (reference : BuilderRef) : Importer Unit :=
  modify fun run => { run with parseStack := run.parseStack ++ [reference] }

def back : Importer BuilderRef := do
  let run <- get
  match run.parseStack.getLast? with
  | none => throw .emptyStack
  | some reference => pure reference

def popBack : Importer Unit :=
  modify fun run => { run with parseStack := run.parseStack.dropLast }

def logError (text : String) : Importer Unit :=
  modify fun run => { run with errors := run.errors ++ [text] }

/-- An error is logged if the pointer is null. -/
def logIfNull {Value : Type} (pointer : Option Value) (text : String) : Importer Unit :=
  match pointer with
  | none => logError text
  | some _ => pure ()

def typeText (type : SfObjectType) : Importer String :=
  match type.toString with
  | .error fault => throw fault
  | .ok text => pure text

end Importer

open Importer

section Import

variable (sqlite : Sqlite) (importId : UInt64)

/-- `insert_new_object`, which keeps the row's id in an `int`. -/
def insertNewObject (reference : BuilderRef) : Importer Int64 := do
  let run <- get
  match sqlite.insert (run.rows.map ObjectRow.rowid) with
  | .error message => throw (.sqlite message)
  | .ok rowid =>
      set { run with rows := run.rows ++ [ObjectRow.mk rowid reference] }
      pure rowid.toInt32.toInt64

/-- A row is inserted for the builder, which gets its id. -/
def insertFor (reference : BuilderRef) : Importer UInt64 := do
  let id <- insertNewObject sqlite reference
  change reference fun builder => builder.setId id.toUInt64
  change reference fun builder => builder.setImportId importId
  pure id.toUInt64

/-- `new_parser_object`, with or without a stack; it returns the flag `pop_stack` and the id. -/
def newParserObject (reference : BuilderRef) (builderClass : BuilderClass) (stack : Bool)
    (popStack : Bool) : Importer (Bool × UInt64) := do
  construct reference (.make builderClass)
  if stack then
    pushBack reference
    let id <- insertFor sqlite importId reference
    pure (true, id)
  else
    let id <- insertFor sqlite importId reference
    pure (popStack, id)

/-- The builder of the class that the pointer is cast to, or null. -/
def castBuilder (builder : SfBuilder) (reference : BuilderRef) (builderClass : BuilderClass) :
    Option BuilderRef :=
  if builder.own.builderClass = builderClass then some reference else none

/-- The type of the parent is compared with the one expected. -/
def checkParentType (found expected : SfObjectType) (text : String -> String -> String) :
    Importer Unit :=
  if found = expected then
    pure ()
  else do
    let foundText <- typeText found
    let expectedText <- typeText expected
    logError (text foundText expectedText)

/-- `get_obj_parent`, for a parent that is a catalog. -/
def getObjParent (parentBuilder : BuilderRef) (expectedParentType : SfObjectType) :
    Importer (Option SfObjCatalog × Option BuilderRef) := do
  let builder <- deref parentBuilder
  let parent := builder.toObject
  checkParentType parent.base.esoType expectedParentType fun found expected =>
    "Unexpected parent object type " ++ found ++ ". But expected " ++ expected ++ "."
  let typedParent := parent.asCatalog
  logIfNull typedParent "Error casting parent to specific type"
  let typedParentBuilder := castBuilder builder parentBuilder .catalog
  logIfNull typedParentBuilder "Error casting parent builder to specific type"
  pure (typedParent, typedParentBuilder)

def onHeader (position : Position) : Importer Bool := do
  let parentBuilder <- back
  let catalog <- getObjParent parentBuilder .sfCatalog
  let header <- newParserObject sqlite importId (.node position) .header true false
  changeThrough catalog.2 fun builder => builder.setHeader header.2
  pure header.1

/-- The id of the category relationship is read from the object of the catalog; if there is one,
a builder that is null is asked for its relationship. -/
def onCategory (position : Position) : Importer Bool := do
  let parentBuilder <- back
  let catalog <- getObjParent parentBuilder .sfCatalog
  let category <- newParserObject sqlite importId (.node position) .category true false
  match catalog.1 with
  | none => throw .nullTypedParent
  | some parent =>
      match parent.category with
      | some _ => throw .nullRelationship
      | none => do
          let relationship <- newParserObject sqlite importId (.relationship position)
            .relationship false category.1
          changeThrough catalog.2 fun builder => builder.setCategory relationship.2
          pure relationship.1

/-- What `image-settings` and `internal-location` have in common: the parent is cast without a
check, and gets the id of the new builder. -/
def onPart (position : Position) (name : String) (builderClass : BuilderClass)
    (expected : SfObjectType) (parentClass : BuilderClass)
    (link : UInt64 -> SfBuilder -> SfBuilder) : Importer Unit := do
  construct (.node position) (.make builderClass)
  let parentBuilder <- back
  let builder <- deref parentBuilder
  checkParentType builder.toObject.base.esoType expected fun found _ =>
    name ++ " was found in object type " ++ found
  pushBack (.node position)
  let id <- insertFor sqlite importId (.node position)
  changeThrough (castBuilder builder parentBuilder parentClass) (link id)

def onImageSettings (position : Position) : Importer Bool := do
  onPart sqlite importId position "image-settings" .imageSettings .sfCatalogHeader .header
    fun id builder => builder.setImageSettings id
  pure true

def onInternalLocation (position : Position) (attributes : List (String × String)) :
    Importer Bool := do
  onPart sqlite importId position "internal-location" .internalLocation .sfCatalogImageSettings
    .imageSettings fun id builder => builder.setInternalLocation id
  match attributes.lookup "base-path" with
  | none => pure true
  | some path => do
      change (.node position) fun builder => builder.setBasePath path
      pure true

/-- A relationship builder is pushed, and no row inserted. -/
def pushRelationship (position : Position) : Importer Bool := do
  construct (.node position) (.make .relationship)
  pushBack (.node position)
  pure true

def onViewType (position : Position) : Importer Bool := do
  let popStack <- pushRelationship position
  change (.node position) fun builder => builder.setDstType .string
  change (.node position) fun builder => builder.setImportId importId
  pure popStack

/-- The builder is not pushed. -/
def onDisplayName (position : Position) : Importer Bool := do
  construct (.node position) (.make .localizedString)
  change (.node position) fun builder => builder.setImportId importId
  pure false

/-- The first half of `from_xml`, up to the loop; it returns `pop_stack`. -/
def enterNode (position : Position) (content : NodeContent) : Importer Bool :=
  match content.kind with
  | none => pure false
  | some .catalog => do
      let catalog <- newParserObject sqlite importId (.node position) .catalog true false
      pure catalog.1
  | some .header => onHeader sqlite importId position
  | some .category => onCategory sqlite importId position
  | some .imageSettings => onImageSettings sqlite importId position
  | some .internalLocation => onInternalLocation sqlite importId position content.getAttribute
  | some .viewTypes => do
      let viewTypes <- newParserObject sqlite importId (.node position) .viewTypes true false
      pure viewTypes.1
  | some .viewType => onViewType importId position
  | some .displayName => onDisplayName importId position
  | some .variationAttributeId
  | some .altPattern
  | some .titlePattern
  | some .parent => pushRelationship position

/-- The last part of `from_xml`: what has been pushed is popped and returned. -/
def leaveNode (_position : Position) (popStack : Bool) : Importer (Option BuilderRef) :=
  if popStack then do
    let completed <- back
    popBack
    pure (some completed)
  else
    pure none

/-- `from_xml`. -/
def fromXml (position : Position) (node : DomNode) : Importer (Option BuilderRef) :=
  traverseTree (enterNode sqlite importId) leaveNode position node

/-! ## The tree walk -/

/-- A builder of the walk with a row of its own. -/
def walkObject (reference : BuilderRef) (builderClass : BuilderClass) : Importer Unit := do
  construct reference (.make builderClass)
  let _ <- insertFor sqlite importId reference

def walkNode (position : Position) (content : NodeContent) : Importer Unit :=
  match content.walkKind with
  | some .catalog => do
      pushBack (.walk position)
      walkObject sqlite importId (.walk position) .catalog
  | some .header => do
      pushBack (.walk position)
      walkObject sqlite importId (.walk position) .header
  | some .category => walkObject sqlite importId (.walk position) .category
  | some .imageSettings => walkObject sqlite importId (.walk position) .imageSettings
  | some .internalLocation => walkObject sqlite importId (.walk position) .internalLocation
  | some .viewTypes => walkObject sqlite importId (.walk position) .viewTypes
  | some .viewType => do
      construct (.walk position) (.make .relationship)
      change (.walk position) fun builder => builder.setDstType .string
      change (.walk position) fun builder => builder.setImportId importId
  | some .displayName => do
      construct (.walk position) (.make .localizedString)
      change (.walk position) fun builder => builder.setImportId importId
  | _ => pure ()

/-- The nodes from the root on, as `nextNode` finds them. -/
def walkNodes : List (Position × NodeContent) -> Importer Unit
  | [] => pure ()
  | (position, content) :: rest => do
      walkNode sqlite importId position content
      walkNodes rest

/-- The `try` block of `sf_catalog_split2`. -/
def splitDocument (document : DomNode) : Importer Unit := do
  let _ <- fromXml sqlite importId [] document
  walkNodes sqlite importId document.preorder

/-- The exceptions among the faults; the others are undefined behaviour. -/
def ImportFault.Thrown : ImportFault -> Bool
  | .invalidType | .sqlite _ => true
  | _ => false

/-- `sf_catalog_split2`: the `catch` block drops what has been thrown. -/
def sfCatalogSplit2 (document : DomNode) : Importer Unit := fun run =>
  match splitDocument sqlite importId document run with
  | .ok _ last => .ok () last
  | .error fault last => if fault.Thrown then .ok () last else .error fault last

end Import

end Catalog

end EasyProspect
