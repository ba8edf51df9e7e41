import EasyProspect.CatalogImport

namespace EasyProspect

namespace Catalog

open Traversal Importer

/-!
# What the visit of a node does

Each part of `from_xml` as an equation or as what follows if it returns or fails; then one
record for the half before the loop, and one for its faults.
-/

/-! ## Element kinds -/

namespace ElementKind

/-- The builder that an element of the kind is given. -/
def builderClass : ElementKind -> BuilderClass
  | .catalog => .catalog
  | .header => .header
  | .category => .category
  | .imageSettings => .imageSettings
  | .internalLocation => .internalLocation
  | .viewTypes => .viewTypes
  | .displayName => .localizedString
  | .viewType | .variationAttributeId | .altPattern | .titlePattern | .parent => .relationship

/-- Whether the builder is pushed. -/
def pushes : ElementKind -> Bool
  | .displayName => false
  | _ => true

/-- Whether a row is inserted for the builder. -/
def inserts : ElementKind -> Bool
  | .catalog | .header | .category | .imageSettings | .internalLocation | .viewTypes => true
  | _ => false

/-- The class that the builder of the parent is cast to. -/
def parentClass : ElementKind -> Option BuilderClass
  | .header | .category => some .catalog
  | .imageSettings => some .header
  | .internalLocation => some .imageSettings
  | _ => none

/-- The element that the parent should be. -/
def parentKind : ElementKind -> Option ElementKind
  | .header | .category => some .catalog
  | .imageSettings => some .header
  | .internalLocation => some .imageSettings
  | _ => none

/-- The member of the parent that gets an id. -/
def link : ElementKind -> UInt64 -> SfBuilder -> SfBuilder
  | .header, id, builder => builder.setHeader id
  | .category, id, builder => builder.setCategory id
  | .imageSettings, id, builder => builder.setImageSettings id
  | .internalLocation, id, builder => builder.setInternalLocation id
  | _, _, builder => builder

theorem pushes_of_links {kind : ElementKind} {builderClass : BuilderClass}
    (links : kind.parentClass = some builderClass) :
    kind.pushes = true ∧ kind.inserts = true := by
  cases kind <;> first | exact ⟨rfl, rfl⟩ | cases links

theorem parentClass_eq (kind : ElementKind) :
    kind.parentClass = kind.parentKind.map builderClass := by
  cases kind <;> rfl

/-- Only the builder of the right element has the class that a parent is cast to. -/
theorem parentKind_of_class {kind found : ElementKind}
    (links : kind.parentClass = some found.builderClass) : kind.parentKind = some found := by
  cases kind <;> cases found <;> first | rfl | cases links

end ElementKind

namespace NodeContent

def pushes (content : NodeContent) : Bool :=
  (content.kind.map ElementKind.pushes).getD false

def parentClass (content : NodeContent) : Option BuilderClass :=
  content.kind.bind ElementKind.parentClass

/-- What the visit of the node returns. -/
def returned (content : NodeContent) (position : Position) : Option BuilderRef :=
  if content.pushes then some (.node position) else none

/-- What the visit of the node pushes. -/
def pushed (content : NodeContent) (position : Position) : List BuilderRef :=
  if content.pushes then [.node position] else []

/-- The builders that get a row in the visit of the node. -/
def owners (content : NodeContent) (position : Position) : List BuilderRef :=
  match content.kind with
  | none => []
  | some .category => [.node position, .relationship position]
  | some kind => if kind.inserts then [.node position] else []

variable {content : NodeContent} {kind : ElementKind} {position : Position}

theorem pushes_of_kind (known : content.kind = some kind) : content.pushes = kind.pushes := by
  rw [pushes, known]
  rfl

theorem pushed_of_kind (known : content.kind = some kind) (pushes : kind.pushes = true) :
    content.pushed position = [.node position] := by
  rw [pushed, if_pos ((pushes_of_kind known).trans pushes)]

theorem parentClass_of_kind (known : content.kind = some kind) :
    content.parentClass = kind.parentClass := by
  rw [parentClass, known]
  rfl

theorem owners_of_kind (known : content.kind = some kind) (notCategory : kind ≠ .category) :
    content.owners position = if kind.inserts then [.node position] else [] := by
  rw [owners, known]
  cases kind <;> first | rfl | exact absurd rfl notCategory

end NodeContent

/-! ## Rows -/

/-- The id that a builder gets for a row. -/
def rowId (rowid : Int64) : UInt64 := rowid.toInt32.toInt64.toUInt64

namespace ImportRun

variable (run : ImportRun)

/-- The builder is there, and pushed or not. -/
def begun (reference : BuilderRef) (builderClass : BuilderClass) (stack : Bool) : ImportRun :=
  { run with
    builders := Function.update run.builders reference (some (.make builderClass))
    parseStack := if stack then run.parseStack ++ [reference] else run.parseStack }

/-- The builder has got a row. -/
def withRow (importId : UInt64) (reference : BuilderRef) (rowid : Int64) : ImportRun :=
  { run with
    rows := run.rows ++ [⟨rowid, reference⟩]
    builders := Function.update run.builders reference ((run.builders reference).map
      fun builder => (builder.setId (rowId rowid)).setImportId importId) }

/-- A setter has been called. -/
def changed (reference : BuilderRef) (set : SfBuilder -> SfBuilder) : ImportRun :=
  { run with
    builders := Function.update run.builders reference ((run.builders reference).map set) }

end ImportRun

section Functions

variable {sqlite : Sqlite} {importId : UInt64} {reference : BuilderRef} {run next : ImportRun}
variable {builderClass : BuilderClass} {stack popStack : Bool} {rowid : Int64}
variable {message : String} {fault : ImportFault}

theorem insertFor_of_error
    (refused : sqlite.insert (run.rows.map ObjectRow.rowid) = .error message) :
    insertFor sqlite importId reference run = .error (.sqlite message) run := by
  refine bind_of_error ?_
  rw [insertNewObject, get_bind, refused]
  rfl

theorem insertFor_of_ok (inserted : sqlite.insert (run.rows.map ObjectRow.rowid) = .ok rowid) :
    insertFor sqlite importId reference run =
      .ok (rowId rowid) (run.withRow importId reference rowid) := by
  have first : insertNewObject sqlite reference run = .ok rowid.toInt32.toInt64
      { run with rows := run.rows ++ [⟨rowid, reference⟩] } := by
    rw [insertNewObject, get_bind, inserted]
    rfl
  rw [insertFor, bind_of_ok first]
  change EStateM.Result.ok _ _ = _
  rw [ImportRun.withRow]
  simp only [Function.update_idem, Function.update_self, Option.map_map]
  rfl

/-- An insertion is refused or made. -/
theorem inserts_cases (sqlite : Sqlite) (run : ImportRun) :
    (Exists fun message => sqlite.insert (run.rows.map ObjectRow.rowid) = .error message) ∨
      Exists fun rowid => sqlite.insert (run.rows.map ObjectRow.rowid) = .ok rowid := by
  cases outcome : sqlite.insert (run.rows.map ObjectRow.rowid) with
  | error message => exact Or.inl ⟨message, rfl⟩
  | ok rowid => exact Or.inr ⟨rowid, rfl⟩

theorem insertFor_returns {id : UInt64}
    (returns : insertFor sqlite importId reference run = .ok id next) :
    Exists fun rowid => id = rowId rowid ∧ next = run.withRow importId reference rowid := by
  rcases inserts_cases sqlite run with ⟨message, refused⟩ | ⟨rowid, inserted⟩
  · cases (insertFor_of_error refused).symm.trans returns
  · cases (insertFor_of_ok inserted).symm.trans returns
    exact ⟨rowid, rfl, rfl⟩

theorem insertFor_fails (fails : insertFor sqlite importId reference run = .error fault next) :
    Exists fun message => sqlite.insert (run.rows.map ObjectRow.rowid) = .error message ∧
      fault = .sqlite message ∧ next = run := by
  rcases inserts_cases sqlite run with ⟨message, refused⟩ | ⟨rowid, inserted⟩
  · cases (insertFor_of_error refused).symm.trans fails
    exact ⟨message, refused, rfl, rfl⟩
  · cases (insertFor_of_ok inserted).symm.trans fails

theorem newParserObject_begun :
    newParserObject sqlite importId reference builderClass stack popStack run =
      (do
        let id <- insertFor sqlite importId reference
        pure (stack || popStack, id)) (run.begun reference builderClass stack) := by
  cases stack <;> rfl

theorem newParserObject_returns {result : Bool × UInt64}
    (returns : newParserObject sqlite importId reference builderClass stack popStack run =
      .ok result next) :
    Exists fun rowid => result = (stack || popStack, rowId rowid) ∧
      next = (run.begun reference builderClass stack).withRow importId reference rowid := by
  rw [newParserObject_begun] at returns
  rcases ok_bind.mp returns with ⟨id, last, inserted, ending⟩
  rcases insertFor_returns inserted with ⟨rowid, rfl, rfl⟩
  cases ending
  exact ⟨rowid, rfl, rfl⟩

theorem newParserObject_fails
    (fails : newParserObject sqlite importId reference builderClass stack popStack run =
      .error fault next) :
    Exists fun message => sqlite.insert (run.rows.map ObjectRow.rowid) = .error message ∧
      fault = .sqlite message ∧ next = run.begun reference builderClass stack := by
  rw [newParserObject_begun] at fails
  rcases error_bind.mp fails with refused | ⟨id, last, inserted, ending⟩
  · exact insertFor_fails refused
  · cases ending

/-! ## The stack and the parent -/

theorem back_returns (returns : back run = .ok reference next) :
    run.parseStack.getLast? = some reference ∧ next = run := by
  rw [back, get_bind] at returns
  cases last : run.parseStack.getLast? with
  | none =>
      rw [last] at returns
      cases returns
  | some found =>
      rw [last] at returns
      cases returns
      exact ⟨rfl, rfl⟩

theorem back_fails (fails : back run = .error fault next) :
    run.parseStack = [] ∧ fault = .emptyStack ∧ next = run := by
  rw [back, get_bind] at fails
  cases last : run.parseStack.getLast? with
  | none =>
      rw [last] at fails
      cases fails
      exact ⟨List.getLast?_eq_none_iff.mp last, rfl, rfl⟩
  | some found =>
      rw [last] at fails
      cases fails

theorem deref_returns {builder : SfBuilder} (returns : deref reference run = .ok builder next) :
    run.builders reference = some builder ∧ next = run := by
  rw [deref, get_bind] at returns
  cases found : run.builders reference with
  | none =>
      rw [found] at returns
      cases returns
  | some builder =>
      rw [found] at returns
      cases returns
      exact ⟨rfl, rfl⟩

theorem deref_fails (fails : deref reference run = .error fault next) :
    run.builders reference = none ∧ fault = .nullParentBuilder := by
  rw [deref, get_bind] at fails
  cases found : run.builders reference with
  | none =>
      rw [found] at fails
      cases fails
      exact ⟨rfl, rfl⟩
  | some builder =>
      rw [found] at fails
      cases fails

/-- Only what is logged may be more. -/
def Reported (run next : ImportRun) : Prop :=
  Exists fun errors => next = { run with errors := errors }

theorem Reported.refl (run : ImportRun) : Reported run run :=
  ⟨run.errors, rfl⟩

theorem Reported.trans {middle : ImportRun} (first : Reported run middle)
    (second : Reported middle next) : Reported run next := by
  rcases first with ⟨_, rfl⟩
  rcases second with ⟨errors, rfl⟩
  exact ⟨errors, rfl⟩

theorem typeText_returns {type : SfObjectType} {text : String}
    (returns : typeText type run = .ok text next) : next = run := by
  rw [typeText] at returns
  cases shown : type.toString with
  | error fault =>
      rw [shown] at returns
      cases returns
  | ok text =>
      rw [shown] at returns
      cases returns
      rfl

theorem typeText_fails {type : SfObjectType} (fails : typeText type run = .error fault next) :
    type = .sfCategory ∧ fault = .invalidType := by
  cases type with
  | sfCategory =>
      cases fails
      exact ⟨rfl, rfl⟩
  | _ => cases fails

theorem checkParentType_returns {found expected : SfObjectType} {text : String -> String -> String}
    (returns : checkParentType found expected text run = .ok ⟨⟩ next) : Reported run next := by
  rw [checkParentType] at returns
  split at returns
  · cases returns
    exact .refl run
  · rcases ok_bind.mp returns with ⟨foundText, first, shown, rest⟩
    rcases ok_bind.mp rest with ⟨expectedText, second, wanted, logged⟩
    cases typeText_returns shown
    cases typeText_returns wanted
    cases logged
    exact ⟨_, rfl⟩

theorem checkParentType_fails {found expected : SfObjectType} {text : String -> String -> String}
    (fails : checkParentType found expected text run = .error fault next) :
    (found = .sfCategory ∨ expected = .sfCategory) ∧ fault = .invalidType := by
  rw [checkParentType] at fails
  split at fails
  · cases fails
  · rcases error_bind.mp fails with shown | ⟨foundText, first, shown, rest⟩
    · exact ⟨Or.inl (typeText_fails shown).1, (typeText_fails shown).2⟩
    · rcases error_bind.mp rest with wanted | ⟨expectedText, second, wanted, logged⟩
      · exact ⟨Or.inr (typeText_fails wanted).1, (typeText_fails wanted).2⟩
      · cases logged

theorem logIfNull_returns {Value : Type} {pointer : Option Value} {text : String}
    (returns : logIfNull pointer text run = .ok ⟨⟩ next) : Reported run next := by
  cases pointer with
  | none =>
      cases returns
      exact ⟨_, rfl⟩
  | some value =>
      cases returns
      exact .refl run

theorem logIfNull_not_fails {Value : Type} {pointer : Option Value} {text : String} :
    logIfNull pointer text run ≠ .error fault next := by
  cases pointer <;> exact nofun

theorem getObjParent_returns {expected : SfObjectType}
    {result : Option SfObjCatalog × Option BuilderRef}
    (returns : getObjParent reference expected run = .ok result next) :
    Exists fun builder => run.builders reference = some builder ∧
      result = (builder.toObject.asCatalog, castBuilder builder reference .catalog) ∧
      Reported run next := by
  rcases ok_bind.mp returns with ⟨builder, first, found, rest⟩
  rcases deref_returns found with ⟨present, rfl⟩
  rcases ok_bind.mp rest with ⟨_, second, checked, rest⟩
  rcases ok_bind.mp rest with ⟨_, third, cast, rest⟩
  rcases ok_bind.mp rest with ⟨_, fourth, again, last⟩
  cases last
  exact ⟨builder, present, rfl, (checkParentType_returns checked).trans
    ((logIfNull_returns cast).trans (logIfNull_returns again))⟩

theorem toObject_type (builder : SfBuilder) : builder.toObject.base.esoType = builder.esoType := by
  rw [SfBuilder.toObject]
  split <;> rfl

theorem getObjParent_fails {expected : SfObjectType}
    (fails : getObjParent reference expected run = .error fault next) :
    run.builders reference = none ∧ fault = .nullParentBuilder ∨
      Exists fun builder => run.builders reference = some builder ∧
        (builder.esoType = .sfCategory ∨ expected = .sfCategory) ∧ fault = .invalidType := by
  rcases error_bind.mp fails with absent | ⟨builder, first, found, rest⟩
  · exact Or.inl (deref_fails absent)
  · rcases deref_returns found with ⟨present, rfl⟩
    refine Or.inr ⟨builder, present, ?_⟩
    rcases error_bind.mp rest with checked | ⟨_, second, checked, rest⟩
    · rw [← toObject_type builder]
      exact checkParentType_fails checked
    · rcases error_bind.mp rest with cast | ⟨_, third, cast, rest⟩
      · exact (logIfNull_not_fails cast).elim
      · rcases error_bind.mp rest with again | ⟨_, fourth, again, last⟩
        · exact (logIfNull_not_fails again).elim
        · cases last

end Functions

/-! ## The visit of a node -/

namespace SfBuilder

/-- The id that the builder holds for a child of the kind. -/
def childId (builder : SfBuilder) (kind : ElementKind) : Option UInt64 :=
  match kind, builder.own with
  | .header, .catalog members => members.header
  | .category, .catalog members => members.category
  | .imageSettings, .header members => members.imageSettings
  | .internalLocation, .imageSettings members => members.internalLocation
  | _, _ => none

theorem childId_make (builderClass : BuilderClass) (kind : ElementKind) :
    (make builderClass).childId kind = none := by
  cases builderClass <;> cases kind <;> rfl

/-- What the import does with a builder after its construction keeps the class and the type. -/
structure SameShape (builder changed : SfBuilder) : Prop where
  builderClass : changed.own.builderClass = builder.own.builderClass
  esoType : changed.esoType = builder.esoType

theorem SameShape.refl (builder : SfBuilder) : SameShape builder builder :=
  ⟨rfl, rfl⟩

theorem SameShape.trans {first second third : SfBuilder} (early : SameShape first second)
    (late : SameShape second third) : SameShape first third :=
  ⟨late.builderClass.trans early.builderClass, late.esoType.trans early.esoType⟩

end SfBuilder

theorem BuilderClass.make_class (builderClass : BuilderClass) :
    (SfBuilder.make builderClass).own.builderClass = builderClass := by
  cases builderClass <;> rfl

namespace ElementKind

variable {kind : ElementKind} {builder : SfBuilder}

theorem link_shape (kind : ElementKind) (id : UInt64) (builder : SfBuilder) :
    SfBuilder.SameShape builder (kind.link id builder) := by
  rcases builder with ⟨esoId, esoType, esoImportId, own⟩
  cases kind <;> cases own <;> exact ⟨rfl, rfl⟩

theorem link_id (kind : ElementKind) (id : UInt64) (builder : SfBuilder) :
    (kind.link id builder).esoId = builder.esoId := by
  rcases builder with ⟨esoId, esoType, esoImportId, own⟩
  cases kind <;> cases own <;> rfl

theorem childId_link {parentClass : BuilderClass} (links : kind.parentClass = some parentClass)
    (fits : builder.own.builderClass = parentClass) (id : UInt64) :
    (kind.link id builder).childId kind = some id := by
  rcases builder with ⟨esoId, esoType, esoImportId, own⟩
  subst fits
  cases kind <;> cases own <;> first | rfl | cases links

theorem childId_link_other {other : ElementKind} (different : other ≠ kind) (id : UInt64) :
    (kind.link id builder).childId other = builder.childId other := by
  rcases builder with ⟨esoId, esoType, esoImportId, own⟩
  cases kind <;> cases own <;> cases other <;> first | rfl | exact absurd rfl different

end ElementKind

/-- What the first half of `from_xml` does if it returns. -/
structure Entered (position : Position) (content : NodeContent) (run : ImportRun)
    (popStack : Bool) (next : ImportRun) : Prop where
  popStack : popStack = content.pushes
  stack : next.parseStack = run.parseStack ++ content.pushed position
  owners : next.rows.map ObjectRow.builder =
    run.rows.map ObjectRow.builder ++ content.owners position
  errors : content.parentClass = none -> next.errors = run.errors
  own : forall kind, content.kind = some kind ->
    Exists fun builder => next.builders (.node position) = some builder ∧
      SfBuilder.SameShape (.make kind.builderClass) builder ∧
      forall child, builder.childId child = none
  linked : forall kind parentClass, content.kind = some kind ->
    kind.parentClass = some parentClass ->
    Exists fun parent => Exists fun builder => Exists fun id =>
      run.parseStack.getLast? = some parent ∧ run.builders parent = some builder ∧
      builder.own.builderClass = parentClass ∧
      next.builders parent = some (kind.link id builder) ∧
      (kind ≠ .category ->
        (next.builders (.node position)).map SfBuilder.esoId = some id)
  relationship : content.kind = some .category ->
    (next.builders (.relationship position)).isSome = true
  others : forall reference, reference ≠ .node position ->
    (content.kind = some .category -> reference ≠ .relationship position) ->
    (content.parentClass ≠ none -> run.parseStack.getLast? ≠ some reference) ->
    next.builders reference = run.builders reference

namespace ImportRun

variable {run : ImportRun} {importId : UInt64} {reference other : BuilderRef}
variable {builderClass : BuilderClass} {stack : Bool} {rowid : Int64}

/-- The builder that has been made and has got a row. -/
theorem builders_new : ((run.begun reference builderClass stack).withRow importId reference
    rowid).builders reference =
      some (((SfBuilder.make builderClass).setId (rowId rowid)).setImportId importId) := by
  simp only [begun, withRow, Function.update_self, Option.map_some]

theorem builders_new_other (different : other ≠ reference) :
    ((run.begun reference builderClass stack).withRow importId reference rowid).builders other =
      run.builders other := by
  simp only [begun, withRow, Function.update_of_ne different]

theorem changed_self (set : SfBuilder -> SfBuilder) :
    (run.changed reference set).builders reference = (run.builders reference).map set := by
  simp only [changed, Function.update_self]

theorem changed_other (different : other ≠ reference) (set : SfBuilder -> SfBuilder) :
    (run.changed reference set).builders other = run.builders other := by
  simp only [changed, Function.update_of_ne different]

end ImportRun

section Visit

variable {sqlite : Sqlite} {importId : UInt64} {position : Position} {content : NodeContent}
variable {run first next : ImportRun} {popStack : Bool} {kind : ElementKind} {rowid : Int64}

/-- A builder that is new and has got a row. -/
theorem made_new (kind : ElementKind) (importId : UInt64) (rowid : Int64) :
    SfBuilder.SameShape (.make kind.builderClass)
      (((SfBuilder.make kind.builderClass).setId (rowId rowid)).setImportId importId) ∧
    forall child, (((SfBuilder.make kind.builderClass).setId (rowId rowid)).setImportId
      importId).childId child = none := by
  refine ⟨⟨rfl, rfl⟩, fun child => ?_⟩
  cases kind <;> cases child <;> rfl

/-- An element that is not linked from its parent. -/
theorem entered_object (known : content.kind = some kind)
    (alone : kind = .catalog ∨ kind = .viewTypes) :
    Entered position content run true
      ((run.begun (.node position) kind.builderClass true).withRow importId (.node position)
        rowid) := by
  have pushes : kind.pushes = true := by rcases alone with rfl | rfl <;> rfl
  have inserts : kind.inserts = true := by rcases alone with rfl | rfl <;> rfl
  have unlinked : kind.parentClass = none := by rcases alone with rfl | rfl <;> rfl
  have notCategory : kind ≠ .category := by rcases alone with rfl | rfl <;> exact nofun
  exact {
    popStack := ((NodeContent.pushes_of_kind known).trans pushes).symm
    stack := by
      rw [NodeContent.pushed_of_kind known pushes]
      rfl
    owners := by
      rw [NodeContent.owners_of_kind known notCategory, if_pos inserts]
      exact List.map_append
    errors := fun _ => rfl
    own := by
      intro other same
      cases known.symm.trans same
      exact ⟨_, ImportRun.builders_new, made_new kind importId rowid⟩
    linked := by
      intro other parentClass same links
      cases known.symm.trans same
      cases unlinked.symm.trans links
    relationship := fun same => absurd (Option.some.inj (known.symm.trans same)) notCategory
    others := fun reference different _ _ => ImportRun.builders_new_other different }

/-- An element whose id the builder of the parent gets. -/
theorem entered_part {parent : BuilderRef} {builder : SfBuilder} {parentClass : BuilderClass}
    (known : content.kind = some kind) (links : kind.parentClass = some parentClass)
    (notCategory : kind ≠ .category) (reported : Reported run first)
    (last : run.parseStack.getLast? = some parent) (found : run.builders parent = some builder)
    (fits : builder.own.builderClass = parentClass) (apart : parent ≠ .node position) :
    Entered position content run true
      (((first.begun (.node position) kind.builderClass true).withRow importId (.node position)
        rowid).changed parent (kind.link (rowId rowid))) := by
  rcases reported with ⟨errors, rfl⟩
  rcases ElementKind.pushes_of_links links with ⟨pushes, inserts⟩
  have linked : content.parentClass ≠ none := by
    rw [NodeContent.parentClass_of_kind known, links]
    exact nofun
  exact {
    popStack := ((NodeContent.pushes_of_kind known).trans pushes).symm
    stack := by
      rw [NodeContent.pushed_of_kind known pushes]
      rfl
    owners := by
      rw [NodeContent.owners_of_kind known notCategory, if_pos inserts]
      exact List.map_append
    errors := fun unlinked => absurd unlinked linked
    own := by
      intro other same
      cases known.symm.trans same
      refine ⟨_, ?_, made_new kind importId rowid⟩
      rw [ImportRun.changed_other apart.symm]
      exact ImportRun.builders_new
    linked := by
      intro other otherClass same otherLinks
      cases known.symm.trans same
      cases links.symm.trans otherLinks
      refine ⟨parent, builder, rowId rowid, last, found, fits, ?_, fun _ => ?_⟩
      · rw [ImportRun.changed_self, ImportRun.builders_new_other apart]
        exact congrArg (Option.map _) found
      · rw [ImportRun.changed_other apart.symm, ImportRun.builders_new]
        rfl
    relationship := fun same => absurd (Option.some.inj (known.symm.trans same)) notCategory
    others := by
      intro reference different _ below
      have notParent : reference ≠ parent := by
        rintro rfl
        exact below linked last
      rw [ImportRun.changed_other notParent, ImportRun.builders_new_other different] }

/-- A category, for which a relationship is made besides. -/
theorem entered_category {parent : BuilderRef} {builder : SfBuilder} {relationshipRow : Int64}
    (known : content.kind = some .category) (reported : Reported run first)
    (last : run.parseStack.getLast? = some parent) (found : run.builders parent = some builder)
    (fits : builder.own.builderClass = .catalog) (apart : parent ≠ .node position)
    (besides : parent ≠ .relationship position) :
    Entered position content run true
      (((((first.begun (.node position) .category true).withRow importId (.node position)
        rowid).begun (.relationship position) .relationship false).withRow importId
          (.relationship position) relationshipRow).changed parent
            fun builder => builder.setCategory (rowId relationshipRow)) := by
  rcases reported with ⟨errors, rfl⟩
  have linked : content.parentClass ≠ none := by
    rw [NodeContent.parentClass_of_kind known]
    exact nofun
  have distinct : BuilderRef.node position ≠ .relationship position := nofun
  exact {
    popStack := (NodeContent.pushes_of_kind known).symm
    stack := by
      rw [NodeContent.pushed_of_kind known rfl]
      rfl
    owners := by
      rw [NodeContent.owners, known]
      show List.map _ (run.rows ++ [_] ++ [_]) = _
      rw [List.append_assoc, List.map_append]
      rfl
    errors := fun unlinked => absurd unlinked linked
    own := by
      intro other same
      cases known.symm.trans same
      refine ⟨_, ?_, made_new .category importId rowid⟩
      rw [ImportRun.changed_other apart.symm, ImportRun.builders_new_other distinct]
      exact ImportRun.builders_new
    linked := by
      intro other otherClass same otherLinks
      cases known.symm.trans same
      cases otherLinks
      refine ⟨parent, builder, rowId relationshipRow, last, found, fits, ?_, fun absent => ?_⟩
      · rw [ImportRun.changed_self, ImportRun.builders_new_other besides,
          ImportRun.builders_new_other apart]
        exact congrArg (Option.map _) found
      · exact absurd rfl absent
    relationship := by
      intro _
      rw [ImportRun.changed_other besides.symm, ImportRun.builders_new]
      rfl
    others := by
      intro reference different beside below
      have notParent : reference ≠ parent := by
        rintro rfl
        exact below linked last
      rw [ImportRun.changed_other notParent, ImportRun.builders_new_other (beside known),
        ImportRun.builders_new_other different] }

/-- An element whose builder gets no row. -/
theorem entered_rowless (known : content.kind = some kind) (rowless : kind.inserts = false) :
    Entered position content run kind.pushes
      (run.begun (.node position) kind.builderClass kind.pushes) := by
  have notCategory : kind ≠ .category := by
    rintro rfl
    cases rowless
  have unlinked : kind.parentClass = none := by
    cases links : kind.parentClass with
    | none => rfl
    | some builderClass => cases rowless.symm.trans (ElementKind.pushes_of_links links).2
  exact {
    popStack := (NodeContent.pushes_of_kind known).symm
    stack := by
      rw [NodeContent.pushed, NodeContent.pushes_of_kind known]
      cases pushes : kind.pushes with
      | false => exact (List.append_nil _).symm
      | true => rfl
    owners := by
      rw [NodeContent.owners_of_kind known notCategory, rowless]
      exact (List.append_nil _).symm
    errors := fun _ => rfl
    own := by
      intro other same
      cases known.symm.trans same
      exact ⟨_, Function.update_self _ _ _, .refl _, SfBuilder.childId_make _⟩
    linked := by
      intro other parentClass same links
      cases known.symm.trans same
      cases unlinked.symm.trans links
    relationship := fun same => absurd (Option.some.inj (known.symm.trans same)) notCategory
    others := fun reference different _ _ => Function.update_of_ne different _ _ }

/-- A member that the import does not look at is set. -/
structure Finishes (set : SfBuilder -> SfBuilder) : Prop where
  shape : forall builder, SfBuilder.SameShape builder (set builder)
  esoId : forall builder, (set builder).esoId = builder.esoId
  childId : forall builder child, (set builder).childId child = builder.childId child

theorem finishes_setImportId (id : UInt64) : Finishes fun builder => builder.setImportId id :=
  ⟨fun _ => ⟨rfl, rfl⟩, fun _ => rfl, fun _ child => by cases child <;> rfl⟩

theorem finishes_setBasePath (path : String) : Finishes fun builder => builder.setBasePath path := by
  refine ⟨?_, ?_, ?_⟩ <;> rintro ⟨esoId, esoType, esoImportId, own⟩
  · cases own <;> exact ⟨rfl, rfl⟩
  · cases own <;> rfl
  · intro child
    cases own <;> cases child <;> rfl

theorem finishes_setDstType (type : SfObjectType) :
    Finishes fun builder => builder.setDstType type := by
  refine ⟨?_, ?_, ?_⟩ <;> rintro ⟨esoId, esoType, esoImportId, own⟩
  · cases own <;> exact ⟨rfl, rfl⟩
  · cases own <;> rfl
  · intro child
    cases own <;> cases child <;> rfl

theorem Entered.finish {set : SfBuilder -> SfBuilder}
    (entered : Entered position content run popStack next) (finishes : Finishes set)
    (apart : run.parseStack.getLast? ≠ some (.node position)) :
    Entered position content run popStack (next.changed (.node position) set) where
  popStack := entered.popStack
  stack := entered.stack
  owners := entered.owners
  errors := entered.errors
  own := by
    intro kind known
    rcases entered.own kind known with ⟨builder, present, shape, childless⟩
    refine ⟨set builder, ?_, shape.trans (finishes.shape builder), fun child => ?_⟩
    · rw [ImportRun.changed_self, present]
      rfl
    · rw [finishes.childId, childless]
  linked := by
    intro kind parentClass known links
    rcases entered.linked kind parentClass known links with
      ⟨parent, builder, id, last, found, fits, changed, own⟩
    have different : parent ≠ .node position := by
      rintro rfl
      exact apart last
    refine ⟨parent, builder, id, last, found, fits, ?_, fun notCategory => ?_⟩
    · rw [ImportRun.changed_other different, changed]
    · rw [ImportRun.changed_self, Option.map_map, ← own notCategory]
      exact congrArg (fun esoId => Option.map esoId _) (funext finishes.esoId)
  relationship := by
    intro category
    have distinct : BuilderRef.relationship position ≠ .node position := nofun
    rw [ImportRun.changed_other distinct]
    exact entered.relationship category
  others := by
    intro reference different beside below
    rw [ImportRun.changed_other different]
    exact entered.others reference different beside below

theorem castBuilder_some {builder : SfBuilder} {reference cast : BuilderRef}
    {builderClass : BuilderClass} (casts : castBuilder builder reference builderClass = some cast) :
    builder.own.builderClass = builderClass ∧ cast = reference := by
  rw [castBuilder] at casts
  split at casts
  · rename_i same
    exact ⟨same, (Option.some.inj casts).symm⟩
  · cases casts

theorem changeThrough_returns {pointer : Option BuilderRef} {set : SfBuilder -> SfBuilder}
    (returns : changeThrough pointer set run = .ok ⟨⟩ next) :
    Exists fun reference => pointer = some reference ∧ next = run.changed reference set := by
  cases pointer with
  | none => cases returns
  | some reference =>
      cases returns
      exact ⟨reference, rfl, rfl⟩

/-- The stack does not hold what is made for the node. -/
def Apart (position : Position) (run : ImportRun) : Prop :=
  forall reference, reference ∈ run.parseStack -> reference.position ≠ position

/-- What is made for another node is neither of the builders of this one. -/
theorem BuilderRef.ne_of_position {reference : BuilderRef}
    (different : reference.position ≠ position) :
    reference ≠ .node position ∧ reference ≠ .relationship position := by
  constructor
  · rintro rfl
    exact different rfl
  · rintro rfl
    exact different rfl

theorem Apart.last (apart : Apart position run) {parent : BuilderRef}
    (last : run.parseStack.getLast? = some parent) :
    parent ≠ .node position ∧ parent ≠ .relationship position :=
  BuilderRef.ne_of_position (apart parent (List.mem_of_getLast? last))

theorem Apart.not_last (apart : Apart position run) :
    run.parseStack.getLast? ≠ some (.node position) :=
  fun last => (apart.last last).1 rfl

theorem onHeader_returns (known : content.kind = some .header) (apart : Apart position run)
    (returns : onHeader sqlite importId position run = .ok popStack next) :
    Entered position content run popStack next := by
  rcases ok_bind.mp returns with ⟨parent, first, topped, rest⟩
  rcases back_returns topped with ⟨last, rfl⟩
  rcases ok_bind.mp rest with ⟨catalog, second, typed, rest⟩
  rcases getObjParent_returns typed with ⟨builder, found, rfl, reported⟩
  rcases ok_bind.mp rest with ⟨header, third, made, rest⟩
  rcases newParserObject_returns made with ⟨rowid, rfl, rfl⟩
  rcases ok_bind.mp rest with ⟨_, fourth, linking, ending⟩
  rcases changeThrough_returns linking with ⟨reference, casts, rfl⟩
  rcases castBuilder_some casts with ⟨fits, rfl⟩
  cases ending
  exact entered_part known rfl nofun reported last found fits (apart.last last).1

theorem onCategory_returns (known : content.kind = some .category) (apart : Apart position run)
    (returns : onCategory sqlite importId position run = .ok popStack next) :
    Entered position content run popStack next := by
  rcases ok_bind.mp returns with ⟨parent, first, topped, rest⟩
  rcases back_returns topped with ⟨last, rfl⟩
  rcases ok_bind.mp rest with ⟨catalog, second, typed, rest⟩
  rcases getObjParent_returns typed with ⟨builder, found, rfl, reported⟩
  rcases ok_bind.mp rest with ⟨category, third, made, rest⟩
  rcases newParserObject_returns made with ⟨rowid, rfl, rfl⟩
  cases object : builder.toObject.asCatalog with
  | none =>
      simp only [object] at rest
      cases rest
  | some typedParent =>
      simp only [object] at rest
      cases stored : typedParent.category with
      | some id =>
          simp only [stored] at rest
          cases rest
      | none =>
          simp only [stored] at rest
          rcases ok_bind.mp rest with ⟨relationship, fourth, related, rest⟩
          rcases newParserObject_returns related with ⟨relationshipRow, rfl, rfl⟩
          rcases ok_bind.mp rest with ⟨_, fifth, linking, ending⟩
          rcases changeThrough_returns linking with ⟨reference, casts, rfl⟩
          rcases castBuilder_some casts with ⟨fits, rfl⟩
          cases ending
          exact entered_category known reported last found fits (apart.last last).1
            (apart.last last).2

theorem onPart_returns {name : String} {expected : SfObjectType} {parentClass : BuilderClass}
    (known : content.kind = some kind) (links : kind.parentClass = some parentClass)
    (notCategory : kind ≠ .category) (apart : Apart position run)
    (returns : onPart sqlite importId position name kind.builderClass expected parentClass
      kind.link run = .ok ⟨⟩ next) : Entered position content run true next := by
  rcases ok_bind.mp returns with ⟨_, first, constructed, rest⟩
  cases constructed
  rcases ok_bind.mp rest with ⟨parent, second, topped, rest⟩
  rcases back_returns topped with ⟨last, rfl⟩
  rcases ok_bind.mp rest with ⟨builder, third, found, rest⟩
  rcases deref_returns found with ⟨present, rfl⟩
  rcases ok_bind.mp rest with ⟨_, fourth, checked, rest⟩
  rcases checkParentType_returns checked with ⟨errors, rfl⟩
  rcases ok_bind.mp rest with ⟨_, fifth, pushed, rest⟩
  cases pushed
  rcases ok_bind.mp rest with ⟨id, sixth, made, linking⟩
  rcases changeThrough_returns linking with ⟨reference, casts, rfl⟩
  rcases castBuilder_some casts with ⟨fits, rfl⟩
  rcases insertFor_returns made with ⟨rowid, rfl, rfl⟩
  have different := (apart.last last).1
  have before : run.builders reference = some builder := by
    rw [← present]
    exact (Function.update_of_ne different _ _).symm
  exact entered_part known links notCategory ⟨errors, rfl⟩ last before fits different

/-- A node that the import takes for nothing. -/
theorem entered_nothing (unknown : content.kind = none) :
    Entered position content run false run where
  popStack := by
    rw [NodeContent.pushes, unknown]
    rfl
  stack := by
    rw [NodeContent.pushed, NodeContent.pushes, unknown]
    exact (List.append_nil _).symm
  owners := by
    rw [NodeContent.owners, unknown]
    exact (List.append_nil _).symm
  errors := fun _ => rfl
  own := fun kind known => nomatch unknown.symm.trans known
  linked := fun kind _ known => nomatch unknown.symm.trans known
  relationship := fun known => nomatch unknown.symm.trans known
  others := fun _ _ _ _ => rfl

/-- What the first half of `from_xml` does. -/
theorem enterNode_returns (apart : Apart position run)
    (returns : enterNode sqlite importId position content run = .ok popStack next) :
    Entered position content run popStack next := by
  cases known : content.kind with
  | none =>
      simp only [enterNode, known] at returns
      cases returns
      exact entered_nothing known
  | some kind =>
      cases kind with
      | catalog =>
          simp only [enterNode, known] at returns
          rcases ok_bind.mp returns with ⟨made, last, created, ending⟩
          rcases newParserObject_returns created with ⟨rowid, rfl, rfl⟩
          cases ending
          exact entered_object known (Or.inl rfl)
      | viewTypes =>
          simp only [enterNode, known] at returns
          rcases ok_bind.mp returns with ⟨made, last, created, ending⟩
          rcases newParserObject_returns created with ⟨rowid, rfl, rfl⟩
          cases ending
          exact entered_object known (Or.inr rfl)
      | header =>
          simp only [enterNode, known] at returns
          exact onHeader_returns known apart returns
      | category =>
          simp only [enterNode, known] at returns
          exact onCategory_returns known apart returns
      | imageSettings =>
          simp only [enterNode, known] at returns
          rcases ok_bind.mp returns with ⟨_, last, parted, ending⟩
          cases ending
          exact onPart_returns known rfl nofun apart parted
      | internalLocation =>
          simp only [enterNode, known] at returns
          rcases ok_bind.mp returns with ⟨_, last, parted, ending⟩
          have entered := onPart_returns known rfl nofun apart parted
          cases stored : content.getAttribute.lookup "base-path" with
          | none =>
              simp only [stored] at ending
              cases ending
              exact entered
          | some path =>
              simp only [stored] at ending
              cases ending
              exact entered.finish (finishes_setBasePath path) apart.not_last
      | viewType =>
          simp only [enterNode, known] at returns
          cases returns
          exact ((entered_rowless known rfl).finish (finishes_setDstType .string)
            apart.not_last).finish (finishes_setImportId importId) apart.not_last
      | displayName =>
          simp only [enterNode, known] at returns
          cases returns
          exact (entered_rowless known rfl).finish (finishes_setImportId importId) apart.not_last
      | _ =>
          simp only [enterNode, known] at returns
          cases returns
          exact entered_rowless known rfl

/-! ## Where the visit of a node fails -/

/-- The back of the stack is a builder as the element wants it for its parent. -/
def Fits (content : NodeContent) (run : ImportRun) : Prop :=
  forall parentClass, content.parentClass = some parentClass ->
    Exists fun parent => Exists fun builder => run.parseStack.getLast? = some parent ∧
      run.builders parent = some builder ∧ SfBuilder.SameShape (.make parentClass) builder

/-- The faults that are found on the parent of an element. -/
def OfParent : ImportFault -> Prop
  | .sqlite _ | .nullRelationship => False
  | _ => True

/-- A fault is either that of an insertion or that of a parent that does not fit. -/
def Faults (sqlite : Sqlite) (content : NodeContent) (run : ImportRun) (fault : ImportFault) :
    Prop :=
  (Exists fun rows => Exists fun message =>
    sqlite.insert rows = .error message ∧ fault = .sqlite message) ∨
  (¬ Fits content run ∧ OfParent fault)

variable {fault : ImportFault} {parentClass : BuilderClass}

theorem faults_insert {rows : List Int64} {message : String}
    (refused : sqlite.insert rows = .error message) :
    Faults sqlite content run (.sqlite message) :=
  Or.inl ⟨rows, message, refused, rfl⟩

/-- With a parent that fits the stack is not empty. -/
theorem faults_emptyStack (links : content.parentClass = some parentClass)
    (empty : run.parseStack = []) : Faults sqlite content run .emptyStack := by
  refine Or.inr ⟨fun fits => ?_, trivial⟩
  rcases fits parentClass links with ⟨parent, builder, last, _⟩
  rw [empty] at last
  cases last

/-- The parent that fits is the back of the stack. -/
theorem Fits.parent (fits : Fits content run) (links : content.parentClass = some parentClass)
    {parent : BuilderRef} (last : run.parseStack.getLast? = some parent) :
    Exists fun builder => run.builders parent = some builder ∧
      SfBuilder.SameShape (.make parentClass) builder := by
  rcases fits parentClass links with ⟨found, builder, same, present, shape⟩
  cases last.symm.trans same
  exact ⟨builder, present, shape⟩

theorem faults_null {parent : BuilderRef} (links : content.parentClass = some parentClass)
    (last : run.parseStack.getLast? = some parent) (absent : run.builders parent = none) :
    Faults sqlite content run .nullParentBuilder := by
  refine Or.inr ⟨fun fits => ?_, trivial⟩
  rcases fits.parent links last with ⟨builder, present, _⟩
  cases absent.symm.trans present

theorem make_type (builderClass : BuilderClass) :
    (SfBuilder.make builderClass).esoType ≠ .sfCategory := by
  cases builderClass <;> exact nofun

/-- Every type that the import gives has a text. -/
theorem faults_type {parent : BuilderRef} {builder : SfBuilder}
    (links : content.parentClass = some parentClass)
    (last : run.parseStack.getLast? = some parent) (present : run.builders parent = some builder)
    (type : builder.esoType = .sfCategory) : Faults sqlite content run .invalidType := by
  refine Or.inr ⟨fun fits => ?_, trivial⟩
  rcases fits.parent links last with ⟨found, same, shape⟩
  cases present.symm.trans same
  exact make_type parentClass (shape.esoType.symm.trans type)

/-- The cast of the builder of the parent has failed. -/
theorem faults_cast {parent : BuilderRef} {builder : SfBuilder}
    (links : content.parentClass = some parentClass)
    (last : run.parseStack.getLast? = some parent) (present : run.builders parent = some builder)
    (other : builder.own.builderClass ≠ parentClass)
    (ofParent : OfParent fault) :
    Faults sqlite content run fault := by
  refine Or.inr ⟨fun fits => ?_, ofParent⟩
  rcases fits.parent links last with ⟨found, same, shape⟩
  cases present.symm.trans same
  exact other (shape.builderClass.trans parentClass.make_class)

theorem changeThrough_fails {pointer : Option BuilderRef} {set : SfBuilder -> SfBuilder}
    (fails : changeThrough pointer set run = .error fault next) :
    pointer = none ∧ fault = .nullTypedBuilder := by
  cases pointer with
  | none =>
      cases fails
      exact ⟨rfl, rfl⟩
  | some reference => cases fails

theorem castBuilder_none {builder : SfBuilder} {reference : BuilderRef}
    {builderClass : BuilderClass} (casts : castBuilder builder reference builderClass = none) :
    builder.own.builderClass ≠ builderClass := by
  rw [castBuilder] at casts
  split at casts
  · cases casts
  · assumption

theorem back_faults (links : content.parentClass = some parentClass)
    (same : first.parseStack = run.parseStack) (fails : back first = .error fault next) :
    Faults sqlite content run fault := by
  rcases back_fails fails with ⟨empty, rfl, _⟩
  exact faults_emptyStack links (same.symm.trans empty)

theorem newParserObject_faults {reference : BuilderRef} {builderClass : BuilderClass}
    {stack popStack : Bool}
    (fails : newParserObject sqlite importId reference builderClass stack popStack first =
      .error fault next) : Faults sqlite content run fault := by
  rcases newParserObject_fails fails with ⟨message, refused, rfl, _⟩
  exact faults_insert refused

/-- The builder of the parent is not of the class that it is cast to. -/
theorem changeThrough_faults {parent : BuilderRef} {builder : SfBuilder}
    {set : SfBuilder -> SfBuilder} (links : content.parentClass = some parentClass)
    (last : run.parseStack.getLast? = some parent) (present : run.builders parent = some builder)
    (fails : changeThrough (castBuilder builder parent parentClass) set first =
      .error fault next) : Faults sqlite content run fault := by
  rcases changeThrough_fails fails with ⟨casts, rfl⟩
  exact faults_cast links last present (castBuilder_none casts) trivial

theorem getObjParent_faults {parent : BuilderRef}
    (links : content.parentClass = some parentClass)
    (last : run.parseStack.getLast? = some parent)
    (fails : getObjParent parent .sfCatalog run = .error fault next) :
    Faults sqlite content run fault := by
  rcases getObjParent_fails fails with ⟨absent, rfl⟩ | ⟨builder, present, unknown, rfl⟩
  · exact faults_null links last absent
  · rcases unknown with type | other
    · exact faults_type links last present type
    · cases other

theorem onHeader_fails (known : content.kind = some .header)
    (fails : onHeader sqlite importId position run = .error fault next) :
    Faults sqlite content run fault := by
  have links := NodeContent.parentClass_of_kind known
  rcases error_bind.mp fails with bottom | ⟨parent, first, topped, rest⟩
  · exact back_faults links rfl bottom
  · rcases back_returns topped with ⟨last, rfl⟩
    rcases error_bind.mp rest with unknown | ⟨catalog, second, typed, rest⟩
    · exact getObjParent_faults links last unknown
    · rcases getObjParent_returns typed with ⟨builder, present, rfl, _⟩
      rcases error_bind.mp rest with unmade | ⟨header, third, made, rest⟩
      · exact newParserObject_faults unmade
      · rcases error_bind.mp rest with unlinked | ⟨_, fourth, linking, ending⟩
        · exact changeThrough_faults links last present unlinked
        · cases ending

/-- The object that a catalog builder makes is a catalog, and has lost its category. -/
theorem asCatalog_toObject (builder : SfBuilder) :
    builder.own.builderClass ≠ .catalog ∧ builder.toObject.asCatalog = none ∨
      Exists fun catalog => builder.toObject.asCatalog = some catalog ∧ catalog.category = none := by
  rcases builder with ⟨esoId, esoType, esoImportId, own⟩
  cases own with
  | catalog members => exact Or.inr ⟨_, rfl, rfl⟩
  | _ => exact Or.inl ⟨nofun, rfl⟩

theorem onCategory_fails (known : content.kind = some .category)
    (fails : onCategory sqlite importId position run = .error fault next) :
    Faults sqlite content run fault := by
  have links := NodeContent.parentClass_of_kind known
  rcases error_bind.mp fails with bottom | ⟨parent, first, topped, rest⟩
  · exact back_faults links rfl bottom
  · rcases back_returns topped with ⟨last, rfl⟩
    rcases error_bind.mp rest with unknown | ⟨catalog, second, typed, rest⟩
    · exact getObjParent_faults links last unknown
    · rcases getObjParent_returns typed with ⟨builder, present, rfl, _⟩
      rcases error_bind.mp rest with unmade | ⟨category, third, made, rest⟩
      · exact newParserObject_faults unmade
      · rcases asCatalog_toObject builder with ⟨other, object⟩ | ⟨typedParent, object, dropped⟩
        · simp only [object] at rest
          cases rest
          exact faults_cast links last present other trivial
        · simp only [object, dropped] at rest
          rcases error_bind.mp rest with unmade | ⟨relationship, fourth, related, rest⟩
          · exact newParserObject_faults unmade
          · rcases error_bind.mp rest with unlinked | ⟨_, fifth, linking, ending⟩
            · exact changeThrough_faults links last present unlinked
            · cases ending

theorem onPart_fails {name : String} {expected : SfObjectType}
    (known : content.kind = some kind) (links : kind.parentClass = some parentClass)
    (apart : Apart position run)
    (fails : onPart sqlite importId position name kind.builderClass expected parentClass
      kind.link run = .error fault next) (shown : expected ≠ .sfCategory) :
    Faults sqlite content run fault := by
  have linked := (NodeContent.parentClass_of_kind known).trans links
  rcases error_bind.mp fails with unmade | ⟨_, first, constructed, rest⟩
  · cases unmade
  cases constructed
  rcases error_bind.mp rest with bottom | ⟨parent, second, topped, rest⟩
  · refine back_faults linked ?_ bottom
    rfl
  rcases back_returns topped with ⟨last, rfl⟩
  have different := (apart.last last).1
  rcases error_bind.mp rest with unknown | ⟨builder, third, found, rest⟩
  · rcases deref_fails unknown with ⟨absent, rfl⟩
    exact faults_null linked last ((Function.update_of_ne different _ _).symm.trans absent)
  rcases deref_returns found with ⟨present, rfl⟩
  have before : run.builders parent = some builder :=
    (Function.update_of_ne different _ _).symm.trans present
  rcases error_bind.mp rest with untyped | ⟨_, fourth, checked, rest⟩
  · rcases checkParentType_fails untyped with ⟨type | other, rfl⟩
    · exact faults_type linked last before ((toObject_type builder).symm.trans type)
    · exact absurd other shown
  rcases error_bind.mp rest with unpushed | ⟨_, fifth, pushed, rest⟩
  · cases unpushed
  rcases error_bind.mp rest with unmade | ⟨id, sixth, made, linking⟩
  · rcases insertFor_fails unmade with ⟨message, refused, rfl, _⟩
    exact faults_insert refused
  · exact changeThrough_faults linked last before linking

/-- How the first half of `from_xml` fails. -/
theorem enterNode_fails (apart : Apart position run)
    (fails : enterNode sqlite importId position content run = .error fault next) :
    Faults sqlite content run fault := by
  cases known : content.kind with
  | none =>
      simp only [enterNode, known] at fails
      cases fails
  | some kind =>
      cases kind with
      | catalog | viewTypes =>
          simp only [enterNode, known] at fails
          rcases error_bind.mp fails with unmade | ⟨made, last, created, ending⟩
          · exact newParserObject_faults unmade
          · cases ending
      | header =>
          simp only [enterNode, known] at fails
          exact onHeader_fails known fails
      | category =>
          simp only [enterNode, known] at fails
          exact onCategory_fails known fails
      | imageSettings =>
          simp only [enterNode, known] at fails
          rcases error_bind.mp fails with unparted | ⟨_, last, parted, ending⟩
          · exact onPart_fails known rfl apart unparted nofun
          · cases ending
      | internalLocation =>
          simp only [enterNode, known] at fails
          rcases error_bind.mp fails with unparted | ⟨_, last, parted, ending⟩
          · exact onPart_fails known rfl apart unparted nofun
          · cases stored : content.getAttribute.lookup "base-path" with
            | none =>
                simp only [stored] at ending
                cases ending
            | some path =>
                simp only [stored] at ending
                cases ending
      | _ =>
          simp only [enterNode, known] at fails
          cases fails

/-- A node without a link logs nothing, also if its row is refused. -/
theorem enterNode_fails_errors (unlinked : content.parentClass = none)
    (fails : enterNode sqlite importId position content run = .error fault next) :
    next.errors = run.errors := by
  cases known : content.kind with
  | none =>
      simp only [enterNode, known] at fails
      cases fails
  | some kind =>
      have own := (NodeContent.parentClass_of_kind known).symm.trans unlinked
      cases kind with
      | catalog | viewTypes =>
          simp only [enterNode, known] at fails
          rcases error_bind.mp fails with unmade | ⟨made, last, created, ending⟩
          · rcases newParserObject_fails unmade with ⟨_, _, _, rfl⟩
            rfl
          · cases ending
      | header | category | imageSettings | internalLocation => cases own
      | _ =>
          simp only [enterNode, known] at fails
          cases fails

/-! ## The end of a visit -/

theorem leaveNode_returns {returned : Option BuilderRef}
    (returns : leaveNode position popStack run = .ok returned next) :
    popStack = false ∧ returned = none ∧ next = run ∨
      popStack = true ∧ Exists fun completed => run.parseStack.getLast? = some completed ∧
        returned = some completed ∧ next = { run with parseStack := run.parseStack.dropLast } := by
  cases popStack with
  | false =>
      cases returns
      exact Or.inl ⟨rfl, rfl, rfl⟩
  | true =>
      rcases ok_bind.mp returns with ⟨completed, first, topped, rest⟩
      rcases back_returns topped with ⟨last, rfl⟩
      rcases ok_bind.mp rest with ⟨_, second, popped, ending⟩
      cases popped
      cases ending
      exact Or.inr ⟨rfl, completed, last, rfl, rfl⟩

theorem leaveNode_fails (fails : leaveNode position popStack run = .error fault next) :
    popStack = true ∧ run.parseStack = [] := by
  cases popStack with
  | false => cases fails
  | true =>
      rcases error_bind.mp fails with bottom | ⟨completed, first, topped, rest⟩
      · exact ⟨rfl, (back_fails bottom).1⟩
      · rcases error_bind.mp rest with unpopped | ⟨_, second, popped, ending⟩
        · cases unpopped
        · cases ending

end Visit

end Catalog

end EasyProspect
