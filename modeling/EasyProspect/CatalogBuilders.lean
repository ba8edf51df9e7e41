import EasyProspect.CatalogImport
import EasyProspect.Library.MemberCopies
import Mathlib.Data.Sum.Basic

namespace EasyProspect

/-!
# The builders of catalogs and categories

Each class has its row of members, what the setter named after a member assigns, what
`to_catalog`, `to_catalog_header` or `to_catalog_category` passes to the constructor of the
object, and which argument initialises a member of the object.  Values are only copied, so
one type stands for all types of values.
-/

namespace Catalog

open MemberCopies (Layout)
open MemberCopies.Layout (Preserved Harmless Dropped lastSet run made)

/-! ## The classes -/

inductive CatalogMember
  | header
  | productAttributeDefinitions
  | category
  | product
  | productOption
  | variationAttribute
  | categoryAssignment
  | recommendation
  | catalogId
deriving DecidableEq, Repr

/-- `ep_sf_obj_catalog_builder`.  There is no setter for the id of the catalog, which is the only
member of `ep_sf_obj_catalog` that its constructor initialises. -/
def catalogBuilder : Layout CatalogMember where
  assigns
    | .header => some .header
    | .productAttributeDefinitions => some .productAttributeDefinitions
    | .category => some .category
    | .product => some .product
    | .productOption => some .productOption
    | .variationAttribute => some .variationAttribute
    | .categoryAssignment => some .categoryAssignment
    | .recommendation => some .recommendation
    | .catalogId => none
  arguments := [.header, .productAttributeDefinitions, .category, .product, .productOption,
    .variationAttribute, .categoryAssignment, .recommendation, .catalogId]
  initialiser
    | .catalogId => some 8
    | _ => none
  assigns_assigned := by
    rintro member assigned known
    cases member <;> cases known <;> rfl
  initialised_same := by
    rintro member other known
    cases member <;> cases known
    rfl

inductive HeaderMember
  | imageSettings
  | customAttributes
deriving DecidableEq, Repr

/-- `ep_sf_obj_catalog_header_builder`.  The second setter is called `custom_attributes`. -/
def headerBuilder : Layout HeaderMember where
  assigns
    | .imageSettings => some .imageSettings
    | .customAttributes => some .customAttributes
  arguments := []
  initialiser := fun _ => none
  assigns_assigned := by
    rintro member assigned known
    cases member <;> cases known <;> rfl
  initialised_same := by
    rintro member other known
    cases known

inductive CategoryMember
  | xmlLang
  | displayName
  | description
  | onlineFlag
  | onlineFrom
  | onlineTo
  | variationGroupsDisplayMode
  | parent
  | position
  | thumbnail
  | image
  | template
  | searchPlacement
  | searchRank
  | sitemapIncludedFlag
  | sitemapChangefrequency
  | sitemapPriority
  | pageAttributes
  | customAttributes
  | categoryLinks
  | attributeGroups
  | refinementDefinitions
  | productDetailPageMetaTagRules
  | productListingPageMetaTagRules
  | productSpecificationRule
  | mode
  | categoryId
deriving DecidableEq, Repr

/-- `ep_sf_obj_catalog_category_builder`.  `set_template` assigns the thumbnail, and there is no
setter for the category links. -/
def categoryBuilder : Layout CategoryMember where
  assigns
    | .xmlLang => some .xmlLang
    | .displayName => some .displayName
    | .description => some .description
    | .onlineFlag => some .onlineFlag
    | .onlineFrom => some .onlineFrom
    | .onlineTo => some .onlineTo
    | .variationGroupsDisplayMode => some .variationGroupsDisplayMode
    | .parent => some .parent
    | .position => some .position
    | .thumbnail => some .thumbnail
    | .image => some .image
    | .template => some .thumbnail
    | .searchPlacement => some .searchPlacement
    | .searchRank => some .searchRank
    | .sitemapIncludedFlag => some .sitemapIncludedFlag
    | .sitemapChangefrequency => some .sitemapChangefrequency
    | .sitemapPriority => some .sitemapPriority
    | .pageAttributes => some .pageAttributes
    | .customAttributes => some .customAttributes
    | .categoryLinks => none
    | .attributeGroups => some .attributeGroups
    | .refinementDefinitions => some .refinementDefinitions
    | .productDetailPageMetaTagRules => some .productDetailPageMetaTagRules
    | .productListingPageMetaTagRules => some .productListingPageMetaTagRules
    | .productSpecificationRule => some .productSpecificationRule
    | .mode => some .mode
    | .categoryId => some .categoryId
  arguments := [.displayName, .parent, .categoryId]
  initialiser
    | .displayName => some 0
    | .parent => some 1
    | .categoryId => some 2
    | _ => none
  assigns_assigned := by
    rintro member assigned known
    cases member <;> cases known <;> rfl
  initialised_same := by
    rintro member other known
    cases member <;> cases known <;> rfl

/-! ## The catalog of the import -/

/-- The members of a catalog builder in the import. -/
def CatalogMembers.view (members : CatalogMembers) : CatalogMember -> Option (UInt64 ⊕ String)
  | .header => members.header.map .inl
  | .productAttributeDefinitions => members.productAttributeDefinitions.map .inl
  | .category => members.category.map .inl
  | .product => members.product.map .inl
  | .productOption => members.productOption.map .inl
  | .variationAttribute => members.variationAttribute.map .inl
  | .categoryAssignment => members.categoryAssignment.map .inl
  | .recommendation => members.recommendation.map .inl
  | .catalogId => members.catalogId.map .inr

/-- Those of the object. -/
def SfObjCatalog.view (catalog : SfObjCatalog) : CatalogMember -> Option (UInt64 ⊕ String)
  | .header => catalog.header.map .inl
  | .productAttributeDefinitions => catalog.productAttributeDefinitions.map .inl
  | .category => catalog.category.map .inl
  | .product => catalog.product.map .inl
  | .productOption => catalog.productOption.map .inl
  | .variationAttribute => catalog.variationAttribute.map .inl
  | .categoryAssignment => catalog.categoryAssignment.map .inl
  | .recommendation => catalog.recommendation.map .inl
  | .catalogId => catalog.catalogId.map .inr

/-- `to_catalog` of the import copies the members as the class says. -/
theorem view_toCatalog (builder : SfBuilder) (members : CatalogMembers) (member : CatalogMember) :
    (builder.toCatalog members).view member = (catalogBuilder.source member).bind members.view := by
  cases member <;> rfl

/-! ## What is preserved -/

variable {Value : Type}

theorem catalogBuilder_proper (member assigned : CatalogMember)
    (known : catalogBuilder.assigns member = some assigned) : assigned = member := by
  cases member <;> cases known <;> rfl

theorem headerBuilder_proper (member assigned : HeaderMember)
    (known : headerBuilder.assigns member = some assigned) : assigned = member := by
  cases member <;> cases known <;> rfl

/-- Nothing that is set gets to the object of a catalog. -/
theorem catalogBuilder_lost (member : CatalogMember) : ¬catalogBuilder.Reaches member := by
  rintro ⟨proper, copied⟩
  cases member <;> cases proper <;> cases copied

theorem headerBuilder_lost (member : HeaderMember) : ¬headerBuilder.Reaches member := by
  rintro ⟨_, copied⟩
  cases copied

/-- What is set for three members gets to the object of a category. -/
theorem categoryBuilder_reaches_iff (member : CategoryMember) :
    categoryBuilder.Reaches member <-> member ∈ [.displayName, .parent, .categoryId] := by
  constructor
  · rintro ⟨_, copied⟩
    cases member <;> cases copied <;> decide
  · intro among
    cases member <;> first | exact ⟨rfl, rfl⟩ | exact absurd among (by decide)

theorem categoryBuilder_proper {member assigned : CategoryMember}
    (known : categoryBuilder.assigns member = some assigned) (other : assigned ≠ member) :
    member = .template ∧ assigned = .thumbnail := by
  cases member <;> cases known <;> first | exact ⟨rfl, rfl⟩ | exact absurd rfl other

/-- `set_template` is only called with what the thumbnail was last set to. -/
def TemplateHarmless (calls : List (categoryBuilder.Call Value)) : Prop :=
  forall before call, before ++ [call] <+: calls -> call.member = .template ->
    call.value = lastSet before .thumbnail

theorem harmless_iff (calls : List (categoryBuilder.Call Value)) :
    Harmless calls <-> TemplateHarmless calls := by
  constructor
  · intro harmless before call within template
    have assigned : call.assigned = .thumbnail := by
      have known := call.assigns_eq
      rw [template] at known
      exact (Option.some.inj known).symm
    have other : call.assigned ≠ call.member := by
      rw [assigned, template]
      decide
    rw [← assigned]
    exact harmless before call within other
  · intro harmless before call within other
    rcases categoryBuilder_proper call.assigns_eq other with ⟨template, assigned⟩
    rw [assigned]
    exact harmless before call within template

theorem dropped_iff (calls : List (categoryBuilder.Call Value)) :
    Dropped calls <-> forall member, member ∉ [.displayName, .parent, .categoryId] ->
      lastSet calls member = none :=
  forall_congr' fun member => imp_congr_left (not_congr (categoryBuilder_reaches_iff member))

/-- When the objects have what was last set with the builders. -/
theorem builders_preserve_iff (catalogCalls : List (catalogBuilder.Call Value))
    (headerCalls : List (headerBuilder.Call Value))
    (categoryCalls : List (categoryBuilder.Call Value)) :
    (Preserved catalogCalls <-> forall member, lastSet catalogCalls member = none) ∧
      (Preserved headerCalls <-> forall member, lastSet headerCalls member = none) ∧
        (Preserved categoryCalls <-> TemplateHarmless categoryCalls ∧
          forall member, member ∉ [.displayName, .parent, .categoryId] ->
            lastSet categoryCalls member = none) := by
  refine ⟨?_, ?_, ?_⟩
  · rw [MemberCopies.Layout.preserved_iff, and_iff_right
      (MemberCopies.Layout.harmless_of_proper catalogBuilder_proper catalogCalls)]
    exact ⟨fun dropped member => dropped member (catalogBuilder_lost member),
      fun empty member _ => empty member⟩
  · rw [MemberCopies.Layout.preserved_iff, and_iff_right
      (MemberCopies.Layout.harmless_of_proper headerBuilder_proper headerCalls)]
    exact ⟨fun dropped member => dropped member (headerBuilder_lost member),
      fun empty member _ => empty member⟩
  · rw [MemberCopies.Layout.preserved_iff, harmless_iff, dropped_iff]

/-- `set_category(5)`. -/
def categoryCall : catalogBuilder.Call Nat :=
  ⟨.category, .category, rfl, some 5⟩

/-- `set_image_settings(6)`. -/
def imageSettingsCall : headerBuilder.Call Nat :=
  ⟨.imageSettings, .imageSettings, rfl, some 6⟩

/-- `set_template(7)`. -/
def templateCall : categoryBuilder.Call Nat :=
  ⟨.template, .thumbnail, rfl, some 7⟩

/-- None of the three objects has what was set, and the last setter changes another member. -/
theorem builders_lose :
    (¬ forall calls : List (catalogBuilder.Call Nat), Preserved calls) ∧
      (¬ forall calls : List (headerBuilder.Call Nat), Preserved calls) ∧
        ¬ forall calls : List (categoryBuilder.Call Nat), Preserved calls := by
  refine ⟨fun all => ?_, fun all => ?_, fun all => ?_⟩
  · exact absurd ((all [categoryCall]).held .category) (by decide)
  · exact absurd ((all [imageSettingsCall]).held .imageSettings) (by decide)
  · have other : CategoryMember.thumbnail ≠ templateCall.member := by decide
    exact absurd ((all [templateCall]).own [] templateCall (List.prefix_refl _) .thumbnail other)
      (by decide)

end Catalog

end EasyProspect
